import Locator.Bindings
import Locator.Proofs.Text.Fields

/-! What a name is bound to, by the entries that it was given: the last one stands. -/

namespace Locator

namespace Bindings

/-- Of several entries that are bound in turn, the last one of a name stands. -/
theorem get?_insertAll (bindings : Bindings) (entries : List (String × Value)) (name : String) :
    (bindings.insertAll entries).get? name =
      (entries.reverse.lookup name).or (bindings.get? name) := by
  -- The induction is on the entries to come, for all bindings that they may meet.
  induction entries generalizing bindings with
  | nil => rfl
  | cons entry rest ih =>
    obtain ⟨bound, value⟩ := entry
    -- The first entry counts if no later one binds the name.
    calc
      (bindings.insertAll ((bound, value) :: rest)).get? name =
          (rest.reverse.lookup name).or ((bindings.insert bound value).get? name) :=
        ih (bindings.insert bound value)
      _ = (rest.reverse.lookup name).or (([(bound, value)].lookup name).or (bindings.get? name)) := by
        rw [get?_insert]
        by_cases same : name = bound
        · simp [same]
        · simp [same, List.lookup_cons, beq_eq_false_iff_ne.mpr same]
      _ = (((bound, value) :: rest).reverse.lookup name).or (bindings.get? name) := by
        rw [List.reverse_cons, List.lookup_append, Option.or_assoc]

/-- In the bindings of a list the last entry of a name stands. -/
theorem get?_ofList (entries : List (String × Value)) (name : String) :
    (ofList entries).get? name = entries.reverse.lookup name := by
  -- The entries are inserted into no bindings at all.
  rw [ofList, get?_insertAll, get?_empty, Option.or_none]

/-- Bindings that bind no name twice. -/
def AreDistinct (bindings : Bindings) : Prop :=
  (bindings.entries.map Prod.fst).Nodup

/-- Nothing is bound twice where nothing is bound. -/
theorem areDistinct_empty : empty.AreDistinct :=
  List.nodup_nil

/-- A name that is bound anew loses its old value. -/
theorem AreDistinct.insert {bindings : Bindings} (distinct : bindings.AreDistinct) (bound : String)
    (value : Value) : (bindings.insert bound value).AreDistinct := by
  -- Entries of the same name are dropped before the new one is put in front.
  rw [AreDistinct, Bindings.insert, List.map_cons, List.nodup_cons]
  refine ⟨?_, distinct.sublist (List.filter_sublist.map _)⟩
  simp

/-- Entries that are bound in turn leave no name bound twice. -/
theorem AreDistinct.insertAll {bindings : Bindings} (distinct : bindings.AreDistinct)
    (entries : List (String × Value)) : (bindings.insertAll entries).AreDistinct := by
  -- By induction on the entries; each of them replaces an older one of its name.
  induction entries generalizing bindings with
  | nil => exact distinct
  | cons entry rest ih => exact ih (distinct.insert entry.1 entry.2)

/-- Among entries of distinct names the order does not matter. -/
theorem lookup_reverse {entries : List (String × Value)} (distinct : (entries.map Prod.fst).Nodup)
    (name : String) : entries.reverse.lookup name = entries.lookup name := by
  induction entries with
  | nil => rfl
  | cons entry rest ih =>
    obtain ⟨bound, value⟩ := entry
    obtain ⟨fresh, others⟩ := List.nodup_cons.mp distinct
    rw [List.reverse_cons, List.lookup_append, ih others, List.lookup_cons, List.lookup_cons]
    by_cases same : name = bound
    · -- No other entry has the name.
      have unbound : rest.lookup name = none := by
        rw [List.lookup_eq_none_iff]
        intro other member
        rw [same, bne_iff_ne]
        exact fun again => fresh (List.mem_map.mpr ⟨other, member, again.symm⟩)
      simp [same, same ▸ unbound]
    · simp [beq_eq_false_iff_ne.mpr same]

/-- Later bindings win where both bind a name. -/
theorem get?_merge (earlier : Bindings) {later : Bindings} (distinct : later.AreDistinct)
    (name : String) :
    (earlier.merge later).get? name = (later.get? name).or (earlier.get? name) := by
  -- The later bindings are inserted in their order, which does not matter among distinct names.
  rw [merge, get?_insertAll, lookup_reverse distinct]
  rfl

end Bindings

namespace Document

/-- A node that is refused has no meaning. -/
theorem mismatch_ne_ok {α : Type} {path : List Step} {expected : Expected} {node : Document}
    {meaning : α} : mismatch path expected node ≠ .ok meaning := by
  -- A mismatch is refused for one reason or another.
  unfold mismatch
  split <;> simp [refuse]

/-- The bindings that a document holds bind no name twice. -/
theorem areDistinct_of_bindings {document : Document} {bindings : Bindings}
    (held : document.bindings = .ok bindings) : bindings.AreDistinct := by
  fun_induction Document.bindings document with
  | case1 | case2 =>
    cases held
    exact Bindings.areDistinct_empty
  | case3 entries =>
    -- Only a mapping binds anything, one entry after the other.
    cases listed : bindingEntries [] entries with
    | error fault =>
      rw [listed] at held
      cases held
    | ok named =>
      rw [listed] at held
      cases held
      exact Bindings.areDistinct_empty.insertAll named
  | case4 node ih => exact ih held
  | case5 node => exact absurd held mismatch_ne_ok

/-- What a JSON text means is what its value means. -/
theorem exists_of_readJson {α : Type} {interpret : Document → Except ReadError α} {text : String}
    {meaning : α} (read : readJson interpret text = .ok meaning) :
    (JsonDraft.read text).2 = [] ∧
      interpret (ofDraft jsonDepth (JsonDraft.read text).1) = .ok meaning := by
  -- A text is read only when its document makes sense and nothing is left behind it.
  unfold readJson at read
  simp only [bind, Except.bind] at read
  split at read
  · cases read
  · rename_i found inner
    split at read
    · rename_i ended
      cases read
      exact ⟨List.isEmpty_iff.mp ended, inner⟩
    · cases read

end Document

namespace Bindings

/-- The bindings of a JSON text bind no name twice. -/
theorem areDistinct_of_readJson {text : String} {bindings : Bindings}
    (read : readJson text = .ok bindings) : bindings.AreDistinct := by
  -- Bindings that are read come from a document.
  cases held : ofJson text with
  | error fault =>
    rw [readJson, held] at read
    cases read
  | ok found =>
    rw [readJson, held] at read
    cases read
    exact Document.areDistinct_of_bindings (Document.exists_of_readJson held).2

/-- A file has the bindings of its text. -/
theorem load_of_text {files : Files} {path text : String} (found : files.text path = .ok text) :
    load files path = (ofYaml text).mapError (.yaml path) := by
  -- With a text, only the reading of it can fail.
  rw [load, found]
  rfl

/-- The bindings of a file bind no name twice. -/
theorem areDistinct_of_load {files : Files} {path : String} {bindings : Bindings}
    (read : load files path = .ok bindings) : bindings.AreDistinct := by
  cases found : files.text path with
  | error failure =>
    rw [load, found] at read
    cases read
  | ok text =>
    rw [load_of_text found] at read
    -- An error of the text is one of the file.
    cases held : ofYaml text with
    | error fault =>
      rw [held] at read
      cases read
    | ok same =>
      rw [held] at read
      cases read
      -- White space alone binds nothing; any other text is a document.
      unfold ofYaml at held
      split at held
      · cases held
        exact areDistinct_empty
      · exact Document.areDistinct_of_bindings held

/-- An assignment is read exactly when a name stands before its first equals sign, and then it gives
that name the text behind the sign. -/
theorem readAssignment_eq_ok_iff {assignment name : String} {value : Value} :
    readAssignment assignment = .ok (name, value) ↔
      name ≠ "" ∧ '=' ∉ name.toList ∧
        ∃ text, value = .scalar text ∧ assignment.toList = name.toList ++ '=' :: text.toList := by
  unfold readAssignment
  split
  · -- Without an equals sign there is nothing to read.
    rename_i absent
    rw [splitFirst_eq_none_iff] at absent
    constructor
    · intro read
      cases read
    · rintro ⟨-, -, text, -, whole⟩
      exact absurd (whole ▸ by simp) absent
  · -- Nothing stands before the first equals sign.
    rename_i text found
    constructor
    · intro read
      cases read
    · rintro ⟨filled, absent, text, -, whole⟩
      rw [whole, splitFirst_append _ absent, Option.some.injEq, Prod.mk.injEq] at found
      exact absurd (String.toList_eq_nil_iff.mp found.1) filled
  · -- A name and its text stand on the two sides of the first equals sign.
    rename_i before after filled found
    constructor
    · intro read
      cases read
      obtain ⟨absent, whole⟩ := splitFirst_eq_some_iff.mp found
      refine ⟨?_, by simpa using absent, _, rfl, by simpa using whole⟩
      intro empty
      exact filled (by simpa using congrArg String.toList empty)
    · rintro ⟨-, absent, text, rfl, whole⟩
      rw [whole, splitFirst_append _ absent, Option.some.injEq, Prod.mk.injEq] at found
      obtain ⟨rfl, rfl⟩ := found
      simp

end Bindings

end Locator
