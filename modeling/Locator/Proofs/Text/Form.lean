import Locator.Proofs.Text.Percent
import Locator.Text.Form

/-! Form fields: which texts spell a list of fields, and how grouping keeps every field. -/

namespace Locator

namespace Form

/-- A key without the characters that have a meaning of their own in a query. -/
def IsPlain (key : String) : Prop :=
  ∀ c ∈ key.toList, c ∉ ['&', '=', '+', '%']

/-- Whether a key is plain is decided character by character. -/
instance (key : String) : Decidable (IsPlain key) :=
  List.decidableBAll (· ∉ ['&', '=', '+', '%']) key.toList

/-- A text that lists fields: pieces between ampersands that are read as the fields. -/
def Lists (text : List Char) (listed : List (String × String)) : Prop :=
  ∃ pieces, text = joinFields '&' pieces ∧ (∀ piece ∈ pieces, '&' ∉ piece ∧ piece ≠ []) ∧
    pieces.map decodePair = listed

/-- What stands for a text without plus signs is read as that text. -/
theorem decode_of_spells {written : List Char} {text : String} (absent : '+' ∉ written)
    (spells : Percent.Spells written text.toList) : decode written = text := by
  -- Without plus signs there is nothing to turn into a space.
  have unchanged : (written.map fun c => if c = '+' then ' ' else c) = written.map id := by
    refine List.map_congr_left ?_
    intro c member
    have other : c ≠ '+' := fun same => absent (same ▸ member)
    exact if_neg other
  calc
    decode written = .ofList (Utf8.decodeLossy (Percent.decode written)) := by
      rw [decode, unchanged, List.map_id]
    _ = .ofList (Utf8.decodeLossy (Utf8.encode text.toList)) := by rw [spells.decode_eq]
    _ = text := by rw [Utf8.decodeLossy_encode, String.ofList_toList]

/-- A plain key with a text behind an equals sign is one field. -/
theorem lists_field {key : String} (plain : IsPlain key) {written : List Char} {text : String}
    (whole : '&' ∉ written) (absent : '+' ∉ written)
    (spells : Percent.Spells written text.toList) :
    Lists (key.toList ++ '=' :: written) [(key, text)] := by
  have free (c : Char) (special : c ∈ ['&', '=', '+', '%']) : c ∉ key.toList :=
    fun member => plain c member special
  -- The field is a single piece, because neither part of it holds an ampersand.
  refine ⟨[key.toList ++ '=' :: written], by simp, ?_, ?_⟩
  · intro piece member
    rw [List.mem_singleton.mp member]
    have outside := free '&' (by simp)
    exact ⟨by simp [outside, whole], by simp⟩
  · -- The first equals sign is the one behind the key, because the key holds none.
    have keyRead : decode key.toList = key :=
      decode_of_spells (free '+' (by simp)) (.of_not_mem (free '%' (by simp)))
    have textRead : decode written = text := decode_of_spells absent spells
    rw [List.map_singleton, decodePair, splitFirst_append written (free '=' (by simp))]
    simp only [keyRead, textRead]

/-- Texts that list fields, with ampersands between them, list the fields of all of them. -/
theorem lists_joinFields {α : Type} {write : α → List Char} {listed : α → List (String × String)}
    {entries : List α} (each : ∀ entry ∈ entries, Lists (write entry) (listed entry))
    (filled : ∀ entry ∈ entries, listed entry ≠ []) :
    Lists (joinFields '&' (entries.map write)) (entries.flatMap listed) := by
  -- The pieces of one text after those of another are the pieces of the two texts.
  have blocks : ∃ blocks : List (List (List Char)), [] ∉ blocks ∧
      entries.map write = blocks.map (joinFields '&') ∧
      (∀ piece ∈ blocks.flatten, '&' ∉ piece ∧ piece ≠ []) ∧
      blocks.flatten.map decodePair = entries.flatMap listed := by
    induction entries with
    | nil => exact ⟨[], by simp, rfl, by simp, rfl⟩
    | cons entry more ih =>
      obtain ⟨blocks, some_piece, written, whole, read⟩ :=
        ih (fun other member => each other (List.mem_cons_of_mem _ member))
          (fun other member => filled other (List.mem_cons_of_mem _ member))
      obtain ⟨pieces, here, wholeHere, readHere⟩ := each entry List.mem_cons_self
      -- An entry with fields has pieces, so its block is not empty.
      refine ⟨pieces :: blocks, ?_, ?_, ?_, ?_⟩
      · have nonempty : pieces ≠ [] := by
          intro none
          rw [none] at readHere
          exact filled entry List.mem_cons_self readHere.symm
        simp [some_piece, Ne.symm nonempty]
      · rw [List.map_cons, List.map_cons, here, written]
      · intro piece member
        rcases List.mem_append.mp member with inside | later
        · exact wholeHere piece inside
        · exact whole piece later
      · rw [List.flatten_cons, List.map_append, readHere, read, List.flatMap_cons]
  obtain ⟨blocks, some_piece, written, whole, read⟩ := blocks
  exact ⟨blocks.flatten, by rw [written, joinFields_flatten some_piece], whole, read⟩

/-- Only the empty text lists no fields. -/
theorem Lists.eq_nil_iff {text : List Char} {listed : List (String × String)}
    (lists : Lists text listed) : text = [] ↔ listed = [] := by
  -- A piece holds at least one character.
  obtain ⟨pieces, rfl, whole, rfl⟩ := lists
  cases pieces with
  | nil => simp
  | cons piece more =>
    have filled := (whole piece List.mem_cons_self).2
    cases more with
    | nil => simpa using filled
    | cons next others => simp

/-- A query that lists fields is read as these fields. -/
theorem pairs_of_lists {text : List Char} {listed : List (String × String)}
    (lists : Lists text listed) : pairs (.ofList text) = listed := by
  obtain ⟨pieces, rfl, whole, rfl⟩ := lists
  rw [pairs, String.toList_ofList]
  by_cases none : pieces = []
  · -- The empty query has one piece, which is dropped.
    rw [none]
    rfl
  · rw [fields_joinFields none fun piece member => (whole piece member).1]
    -- No piece is dropped for being empty.
    rw [List.filter_eq_self.mpr]
    intro piece member
    simpa using (whole piece member).2

/-- The form encoding writes kept characters, plus signs and percent signs. -/
theorem mem_encode {text : String} {c : Char} (member : c ∈ encode text) :
    isKept c ∨ c = '+' ∨ c = '%' := by
  -- The digits of a triplet are kept characters too.
  obtain ⟨d, -, written⟩ := List.mem_flatMap.mp member
  unfold encodeChar at written
  split at written
  · exact .inr (.inl (List.mem_singleton.mp written))
  · have inside : c ∈ Percent.encode isKept [d] := by simpa [Percent.encode] using written
    rcases Percent.mem_encode inside with kept | sign | digit
    · exact .inl kept
    · exact .inr (.inr sign)
    · exact .inl (by simp [isKept, digit])

/-- The form encoding leaves no separator of a query. -/
theorem not_mem_encode {c : Char} (separator : c ∈ ['&', '=']) (text : String) :
    c ∉ encode text := by
  -- Neither of the two is kept.
  have listed : c = '&' ∨ c = '=' := by simpa using separator
  intro member
  rcases listed with rfl | rfl
  all_goals exact absurd (mem_encode member) (by decide)

/-- A text is read back from its form encoding. -/
theorem decode_encode (text : String) : decode (encode text) = text := by
  -- With its plus signs read as spaces, the encoding of a character stands for that character.
  have spells (c : Char) :
      Percent.Spells ((encodeChar c).map fun d => if d = '+' then ' ' else d) [c] := by
    unfold encodeChar
    split
    · rename_i space
      rw [space]
      exact .of_not_mem (by decide)
    · -- Nothing else is written with a plus sign.
      have unchanged : ((Percent.encodeChar isKept c).map fun d => if d = '+' then ' ' else d) =
          (Percent.encodeChar isKept c).map id := by
        refine List.map_congr_left ?_
        intro d member
        have inside : d ∈ Percent.encode isKept [c] := by simpa [Percent.encode] using member
        have other : d ≠ '+' := by
          rintro rfl
          exact absurd (Percent.mem_encode inside) (by decide)
        exact if_neg other
      rw [unchanged, List.map_id]
      exact Percent.spells_encodeChar (by decide) c
  have whole (letters : List Char) : Percent.Spells
      ((letters.flatMap encodeChar).map fun d => if d = '+' then ' ' else d) letters := by
    induction letters with
    | nil => exact .nil
    | cons c rest ih =>
      rw [List.flatMap_cons, List.map_append]
      exact (spells c).append ih
  rw [decode, encode, (whole text.toList).decode_eq, Utf8.decodeLossy_encode, String.ofList_toList]

/-- A written pair is one field, which holds that pair. -/
theorem lists_encodePair (pair : String × String) : Lists (encodePair pair) [pair] := by
  -- The encoded name and value hold no separator, so both end where they were written to end.
  have whole (text : String) : '&' ∉ encode text := not_mem_encode (by simp) text
  refine ⟨[encodePair pair], by simp, ?_, ?_⟩
  · intro piece member
    rw [List.mem_singleton.mp member, encodePair]
    exact ⟨by simp [whole], by simp⟩
  · rw [List.map_singleton, decodePair, encodePair,
      splitFirst_append _ (not_mem_encode (by simp) pair.1)]
    simp only [decode_encode]

/-- Pairs are read back from the query that lists them. -/
theorem pairs_render (entries : List (String × String)) : pairs (render entries) = entries := by
  -- Every written pair is one of the pieces between the separators.
  have lists := lists_joinFields (fun entry (_ : entry ∈ entries) => lists_encodePair entry)
    (by simp)
  rw [List.flatMap_singleton'] at lists
  exact pairs_of_lists lists

/-- The texts that pairs hold under a name, in order. -/
def textsOf (name : String) (pairs : List (String × String)) : List String :=
  (pairs.filter (·.1 = name)).map (·.2)

/-- Groups that hold the texts of every name of the pairs in order, and nothing else. -/
structure IsGrouping (groups : List (String × List String)) (pairs : List (String × String)) :
    Prop where
  /-- No name has two groups. -/
  names : (groups.map Prod.fst).Nodup
  /-- A name without texts has no group, and every other name has its texts. -/
  texts : ∀ name, groups.lookup name =
    if textsOf name pairs = [] then none else some (textsOf name pairs)

/-- The texts of two lists of pairs follow each other. -/
theorem textsOf_append (name : String) (pairs more : List (String × String)) :
    textsOf name (pairs ++ more) = textsOf name pairs ++ textsOf name more := by
  -- The pairs are looked through in their order.
  simp [textsOf]

/-- A further pair adds its text to its own name only. -/
theorem textsOf_concat (name : String) (pairs : List (String × String)) (pair : String × String) :
    textsOf name (pairs ++ [pair]) =
      if name = pair.1 then textsOf name pairs ++ [pair.2] else textsOf name pairs := by
  -- The last pair has one text under its own name and none under any other.
  rw [textsOf_append]
  by_cases same : name = pair.1
  · simp [textsOf, same]
  · simp [textsOf, same, Ne.symm same]

/-- Adding a pair creates or extends the group of its name and leaves the others alone. -/
theorem lookup_addTo (groups : List (String × List String)) (pair : String × String)
    (name : String) :
    (addTo groups pair).lookup name =
      if name = pair.1 then some ((groups.lookup name).getD [] ++ [pair.2])
      else groups.lookup name := by
  -- The groups in front of the one that is wanted are passed over.
  induction groups with
  | nil =>
    -- A name that is in no group yet gets a group of its own.
    rw [addTo, List.lookup_cons]
    by_cases same : name = pair.1
    · simp [same]
    · simp [same, beq_eq_false_iff_ne.mpr same]
  | cons group rest ih =>
    obtain ⟨key, values⟩ := group
    rw [addTo]
    by_cases here : key = pair.1
    · -- The first group is the one that grows.
      rw [if_pos here, here, List.lookup_cons, List.lookup_cons]
      by_cases same : name = pair.1
      · simp [same]
      · simp [same, beq_eq_false_iff_ne.mpr same]
    · -- The group that grows is a later one, if there is one.
      rw [if_neg here, List.lookup_cons, List.lookup_cons, ih]
      by_cases same : name = pair.1
      · have passed : (pair.1 == key) = false := beq_eq_false_iff_ne.mpr (Ne.symm here)
        simp [same, passed]
      · simp [same]

/-- Adding a pair adds no name but its own. -/
theorem mem_names_addTo {groups : List (String × List String)} {pair : String × String}
    {name : String} :
    name ∈ (addTo groups pair).map Prod.fst ↔ name ∈ groups.map Prod.fst ∨ name = pair.1 := by
  -- The name is either among the groups already or opens a group at the end.
  induction groups with
  | nil => simp [addTo]
  | cons group rest ih =>
    obtain ⟨key, values⟩ := group
    rw [addTo]
    by_cases here : key = pair.1
    · rw [if_pos here, List.map_cons, List.map_cons, List.mem_cons, here]
      constructor
      · exact .inl
      · intro either
        exact either.elim id .inl
    · rw [if_neg here, List.map_cons, List.map_cons, List.mem_cons, List.mem_cons, ih, or_assoc]

/-- Adding a pair makes no name stand twice. -/
theorem nodup_addTo {groups : List (String × List String)} (pair : String × String)
    (nodup : (groups.map Prod.fst).Nodup) : ((addTo groups pair).map Prod.fst).Nodup := by
  -- A group that exists is extended in its place.
  induction groups with
  | nil => simp [addTo]
  | cons group rest ih =>
    obtain ⟨key, values⟩ := group
    obtain ⟨fresh, others⟩ := List.nodup_cons.mp nodup
    rw [addTo]
    by_cases here : key = pair.1
    · rw [if_pos here]
      exact nodup
    · rw [if_neg here]
      refine List.nodup_cons.mpr ⟨?_, ih others⟩
      -- The name that was added is another one.
      intro member
      rcases mem_names_addTo.mp member with known | same
      · exact fresh known
      · exact here same

/-- Adding the next pair keeps the groups those of all pairs so far. -/
theorem IsGrouping.addTo {groups : List (String × List String)} {pairs : List (String × String)}
    (grouping : IsGrouping groups pairs) (pair : String × String) :
    IsGrouping (addTo groups pair) (pairs ++ [pair]) := by
  refine ⟨nodup_addTo pair grouping.names, ?_⟩
  intro name
  rw [lookup_addTo, textsOf_concat, grouping.texts]
  -- Only the group of the pair's own name has changed.
  by_cases same : name = pair.1
  · by_cases first : textsOf name pairs = []
    · simp [same, same ▸ first]
    · simp [same, same ▸ first]
  · simp [same]

/-- Adding pairs in turn keeps the groups those of all pairs so far. -/
theorem IsGrouping.foldl_addTo {groups : List (String × List String)}
    {pairs : List (String × String)} (grouping : IsGrouping groups pairs)
    (more : List (String × String)) :
    IsGrouping (more.foldl Form.addTo groups) (pairs ++ more) := by
  -- The induction is on the pairs to come, for all pairs that came before.
  induction more generalizing groups pairs with
  | nil => simpa using grouping
  | cons pair rest ih =>
    have step := ih (grouping.addTo pair)
    rwa [List.append_assoc] at step

/-- Grouping keeps every text under its name, in order. -/
theorem isGrouping_group (pairs : List (String × String)) : IsGrouping (group pairs) pairs := by
  -- Without pairs there are no groups, and each pair is added to them in turn.
  have start : IsGrouping [] [] := ⟨by simp, fun name => by simp [textsOf]⟩
  exact start.foldl_addTo pairs

/-- Two lists of groups that hold the same texts under every name. -/
def SameGroups (first second : List (String × List String)) : Prop :=
  ∀ name, first.lookup name = second.lookup name

/-- A name has the same group in two queries when it has the same texts in both. -/
theorem lookup_group_congr {first second : List (String × String)} {name : String}
    (same : textsOf name first = textsOf name second) :
    (group first).lookup name = (group second).lookup name := by
  -- A group holds exactly the texts of its name.
  rw [(isGrouping_group first).texts, (isGrouping_group second).texts, same]

/-- Without the pairs of one name, that name has no texts and every other one has its own. -/
theorem textsOf_filter_ne (dropped name : String) (pairs : List (String × String)) :
    textsOf name (pairs.filter (·.1 ≠ dropped)) =
      if name = dropped then [] else textsOf name pairs := by
  unfold textsOf
  rw [List.filter_filter]
  by_cases same : name = dropped
  · -- No pair has the name and has it not.
    rw [if_pos same, same, List.map_eq_nil_iff, List.filter_eq_nil_iff]
    simp
  · rw [if_neg same]
    congr 1
    refine List.filter_congr ?_
    intro pair _
    by_cases here : pair.1 = name
    · simp [here, same]
    · simp [here]

end Form

end Locator
