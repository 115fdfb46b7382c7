import Locator.Proofs.Text.Form.Grouping
import Locator.Url.Update

/-! Setting one value in the query of a URL: what happens to the pairs of that name, and that
nothing else changes. -/

namespace Locator

namespace Url

/-- Two URLs that agree on scheme, host, port, path and fragment, whatever their queries are. -/
structure AgreeBesideQuery (first second : Url) : Prop where
  /-- The scheme. -/
  scheme : first.scheme = second.scheme
  /-- The host. -/
  host : first.hostText? = second.hostText?
  /-- The port. -/
  port : first.port? = second.port?
  /-- The path. -/
  path : first.pathText = second.pathText
  /-- The fragment. -/
  fragment : first.fragment = second.fragment

/-- The pairs that a query is made of are the pairs that are read from it. -/
@[simp]
theorem queryPairs_withQueryPairs (url : Url) (pairs : List (String × String)) :
    (url.withQueryPairs pairs).queryPairs = pairs :=
  Form.pairs_render pairs

/-- Only the last query that a URL is given counts. -/
@[simp]
theorem withQueryPairs_withQueryPairs (url : Url) (pairs more : List (String × String)) :
    (url.withQueryPairs pairs).withQueryPairs more = url.withQueryPairs more := rfl

/-- Setting a value drops the pairs of its name and puts the new one at the end. -/
theorem queryPairs_withQueryValue (url : Url) (name value : String) :
    (url.withQueryValue name value).queryPairs =
      url.queryPairs.filter (·.1 ≠ name) ++ [(name, value)] :=
  queryPairs_withQueryPairs url _

/-- After setting a value its name has that value alone, and every other name has what it had. -/
theorem textsOf_withQueryValue (url : Url) (name value key : String) :
    Form.textsOf key (url.withQueryValue name value).queryPairs =
      if key = name then [value] else Form.textsOf key url.queryPairs := by
  -- The pairs of the name are dropped, and the new one is put at the end.
  rw [queryPairs_withQueryValue, Form.textsOf_concat, Form.textsOf_filter_ne]
  by_cases same : key = name <;> simp [same]

/-- The groups after setting a value: one with that value, and the other ones as they were. -/
theorem lookup_queryGroups_withQueryValue (url : Url) (name value key : String) :
    (url.withQueryValue name value).queryGroups.lookup key =
      if key = name then some [value] else url.queryGroups.lookup key := by
  -- Groups are determined by the texts of their names.
  have texts := textsOf_withQueryValue url name value key
  by_cases same : key = name
  · rw [if_pos same] at texts ⊢
    have grouped := (Form.isGrouping_group (url.withQueryValue name value).queryPairs).texts key
    rwa [texts, if_neg (by simp)] at grouped
  · rw [if_neg same] at texts ⊢
    exact Form.lookup_group_congr texts

/-- The value that was set is the first one of its name. -/
theorem queryValue?_withQueryValue (url : Url) (name value : String) :
    (url.withQueryValue name value).queryValue? name = some value := by
  -- The name has no other text any more.
  rw [queryValue?, Form.first?_eq_head?, textsOf_withQueryValue, if_pos rfl]
  rfl

/-- A second value of the same name takes the place of the first one. -/
theorem withQueryValue_withQueryValue (url : Url) (name value last : String) :
    (url.withQueryValue name value).withQueryValue name last = url.withQueryValue name last := by
  -- The pair that was set first is dropped again, and dropping the others twice changes nothing.
  have others : (url.withQueryValue name value).queryPairs.filter (·.1 ≠ name) =
      url.queryPairs.filter (·.1 ≠ name) := by
    rw [queryPairs_withQueryValue, List.filter_append, List.filter_filter]
    simp
  rw [withQueryValue, others]
  exact withQueryPairs_withQueryPairs url _ _

/-- Setting a value replaces all pairs of its name by a single one at the end and changes nothing
else; only the last value of a name stays, and values of two names may be set in either order. -/
theorem withQueryValue_replaces (url : Url) (name value : String) :
    (url.withQueryValue name value).queryPairs =
        url.queryPairs.filter (·.1 ≠ name) ++ [(name, value)] ∧
      (url.withQueryValue name value).queryValue? name = some value ∧
      (∀ key, (url.withQueryValue name value).queryGroups.lookup key =
        if key = name then some [value] else url.queryGroups.lookup key) ∧
      (url.withQueryValue name value).AgreeBesideQuery url ∧
      (∀ last, (url.withQueryValue name value).withQueryValue name last =
        url.withQueryValue name last) ∧
      ∀ other more, other ≠ name →
        Form.SameGroups ((url.withQueryValue name value).withQueryValue other more).queryGroups
          ((url.withQueryValue other more).withQueryValue name value).queryGroups := by
  refine ⟨queryPairs_withQueryValue url name value, queryValue?_withQueryValue url name value,
    lookup_queryGroups_withQueryValue url name value, ⟨rfl, rfl, rfl, rfl, rfl⟩,
    withQueryValue_withQueryValue url name value, ?_⟩
  intro other more different key
  -- No key is both names, so at most one of the two changes concerns it.
  simp only [lookup_queryGroups_withQueryValue]
  by_cases first : key = name
  · simp [first, Ne.symm different]
  · simp [first]

/-- A query with a bare name, an empty piece, broken triplets and plus signs. -/
theorem withQueryValue_replaces_in_malformed :
    let url : Url := ⟨"foo", none, false, .whole "x", some "a=1&&b&%zz=+%FF&a=2+3", some "f"⟩
    (url.withQueryValue "a" "é &").queryPairs = [("b", ""), ("%zz", " \uFFFD"), ("a", "é &")] ∧
      Form.SameGroups ((url.withQueryValue "a" "é &").withQueryValue "b" "2").queryGroups
        ((url.withQueryValue "b" "2").withQueryValue "a" "é &").queryGroups := by
  -- The query repeats the name, has an empty piece and a percent sign without digits.
  intro url
  have all := withQueryValue_replaces url "a" "é &"
  refine ⟨all.1.trans ?_, all.2.2.2.2.2 "b" "2" (by decide)⟩
  decide

end Url

end Locator
