import Locator.Proofs.Url.QueryValue

/-! The query of a URL as pairs: pairs that it is given are read back as they are, and its two
readers, by groups and by search, agree on every query. -/

namespace Locator

namespace Url

/-- What a URL is asked for under a name is the first text of that name in its query. -/
theorem queryValue?_eq_head? (url : Url) (name : String) :
    url.queryValue? name = (Form.textsOf name url.queryPairs).head? :=
  Form.first?_eq_head? name url.queryPairs

/-- The groups of a query hold its pairs. -/
theorem isGrouping_queryGroups (url : Url) : Form.IsGrouping url.queryGroups url.queryPairs :=
  Form.isGrouping_group url.queryPairs

/-- A search finds what the group of the name starts with. -/
theorem queryValue?_eq_bind (url : Url) (name : String) :
    url.queryValue? name = (url.queryGroups.lookup name).bind List.head? := by
  rw [queryValue?_eq_head?, url.isGrouping_queryGroups.texts]
  -- A name without texts has no group, and a search for it finds nothing.
  split
  · rename_i none
    rw [none]
    rfl
  · rfl

/-- A search finds nothing exactly if no group has the name. -/
theorem queryValue?_eq_none_iff (url : Url) (name : String) :
    url.queryValue? name = none ↔ name ∉ url.queryGroups.map Prod.fst := by
  -- There is a first text for a name exactly if the name has a group, which is never empty.
  rw [queryValue?_eq_head?, List.head?_eq_none_iff, url.isGrouping_queryGroups.mem_names_iff]
  exact Decidable.not_not.symm

/-- Pairs that a URL is given as its query are all that its query holds, in their order and with
empty and repeated ones: they are read back as they are, their groups and what is found under each
name are those of the list, and nothing beside the query changes. -/
theorem withQueryPairs_holds_pairs (url : Url) (pairs : List (String × String)) :
    (url.withQueryPairs pairs).queryPairs = pairs ∧
      Form.IsGrouping (url.withQueryPairs pairs).queryGroups pairs ∧
      (∀ name, (url.withQueryPairs pairs).queryValue? name = (Form.textsOf name pairs).head?) ∧
      (url.withQueryPairs pairs).AgreeBesideQuery url := by
  have held := queryPairs_withQueryPairs url pairs
  have grouping := (url.withQueryPairs pairs).isGrouping_queryGroups
  have found := (url.withQueryPairs pairs).queryValue?_eq_head?
  -- All three readers go by the pairs that are read from the query.
  rw [held] at grouping found
  exact ⟨held, grouping, found, ⟨rfl, rfl, rfl, rfl, rfl⟩⟩

/-- An empty pair, an empty name, separators and plus signs in both, and a name that is repeated, in
place of an old query. -/
example :
    (Url.withQueryPairs ⟨"foo", none, false, .whole "x", some "a=1&&b", some "f"⟩
      [("", ""), ("", "é"), ("a&=", "+ %41"), ("a&=", "")]).text =
      "foo:x?=&=%C3%A9&a%26%3D=%2B+%2541&a%26%3D=#f" := by
  decide

/-- The two readers of a query agree and grouping loses nothing: a search finds the first value of
the group, and nothing exactly if there is no group; no group is empty; the values of two queries
with an ampersand between them follow each other; and the groups hold every decoded pair once, under
its own name and in order. -/
theorem queryGroups_lose_nothing (url : Url) :
    (∀ name, url.queryValue? name = (url.queryGroups.lookup name).bind List.head? ∧
        (url.queryValue? name = none ↔ name ∉ url.queryGroups.map Prod.fst)) ∧
      [] ∉ url.queryGroups.map Prod.snd ∧
      (∀ first second name, Form.valuesOf name (Form.parseQuery (first ++ "&" ++ second)) =
        Form.valuesOf name (Form.parseQuery first) ++
          Form.valuesOf name (Form.parseQuery second)) ∧
      ∀ query, (Form.ungroup (Form.parseQuery query)).Perm (Form.pairs query) ∧
        Form.IsGrouping (Form.parseQuery query) (Form.pairs query) := by
  have grouping (query : String) : Form.IsGrouping (Form.parseQuery query) (Form.pairs query) :=
    Form.isGrouping_group (Form.pairs query)
  refine ⟨fun name => ⟨url.queryValue?_eq_bind name, url.queryValue?_eq_none_iff name⟩, ?_, ?_,
    fun query => ⟨Form.ungroup_group_perm (Form.pairs query), grouping query⟩⟩
  · intro empty
    obtain ⟨⟨name, values⟩, member, none⟩ := List.mem_map.mp empty
    exact url.isGrouping_queryGroups.ne_nil_of_mem member none
  · intro first second name
    -- The values of a name are its texts, and those of the two queries follow each other.
    rw [(grouping _).valuesOf_eq, (grouping _).valuesOf_eq, (grouping _).valuesOf_eq,
      Form.pairs_append, Form.textsOf_append]

end Url

end Locator
