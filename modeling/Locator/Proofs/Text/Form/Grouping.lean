import Locator.Proofs.Text.Form

/-! Grouping pairs by their names: the groups hold each pair once and in order, and what a search
among the pairs finds first is what the group of the name starts with. -/

namespace Locator

namespace Form

/-- The texts that groups hold under a name, in order. -/
def valuesOf (name : String) (groups : List (String × List String)) : List String :=
  (groups.lookup name).getD []

/-- The pairs that groups hold, group by group. -/
def ungroup (groups : List (String × List String)) : List (String × String) :=
  groups.flatMap fun (name, values) => values.map (name, ·)

/-- A search finds the first text of a name, and nothing exactly if there is none. -/
theorem first?_eq_head? (name : String) (pairs : List (String × String)) :
    first? name pairs = (textsOf name pairs).head? := by
  -- The first of the pairs with that name is the one that a search for them finds.
  rw [first?, textsOf, List.head?_map, List.head?_filter]

/-- An ampersand parts the pairs that stand before it from those behind it, also where one side is
empty. -/
theorem pairs_append (first second : String) :
    pairs (first ++ "&" ++ second) = pairs first ++ pairs second := by
  -- The separator between the texts is one between their pieces.
  have letters : (first ++ "&" ++ second).toList = first.toList ++ '&' :: second.toList := by
    simp
  rw [pairs, letters, fields_append_cons, List.filter_append, List.map_append]
  rfl

namespace IsGrouping

variable {groups : List (String × List String)} {pairs : List (String × String)}

/-- The values of a group are the texts of its name. -/
theorem valuesOf_eq (grouping : IsGrouping groups pairs) (name : String) :
    valuesOf name groups = textsOf name pairs := by
  -- A name without a group has no texts.
  rw [valuesOf, grouping.texts]
  split
  · rename_i none
    rw [none]
    rfl
  · rfl

/-- A group is found under its name, because no other group has that name. -/
theorem lookup_of_mem (grouping : IsGrouping groups pairs) {name : String} {values : List String}
    (member : (name, values) ∈ groups) : groups.lookup name = some values := by
  obtain ⟨before, behind, rfl⟩ := List.append_of_mem member
  refine List.lookup_eq_some_iff.mpr ⟨before, behind, rfl, ?_⟩
  intro group earlier
  -- The same name before the group would stand twice.
  have apart := (List.nodup_append.mp (List.map_append ▸ grouping.names)).2.2
  have other := apart group.1 (List.mem_map_of_mem earlier) name (by simp)
  simpa using Ne.symm other

/-- Every group has a value. -/
theorem ne_nil_of_mem (grouping : IsGrouping groups pairs) {name : String} {values : List String}
    (member : (name, values) ∈ groups) : values ≠ [] := by
  have found := grouping.lookup_of_mem member
  rw [grouping.texts] at found
  -- A name without texts has no group at all.
  split at found
  · cases found
  · rename_i filled
    cases found
    exact filled

/-- A name has a group exactly if it has a text. -/
theorem mem_names_iff (grouping : IsGrouping groups pairs) (name : String) :
    name ∈ groups.map Prod.fst ↔ textsOf name pairs ≠ [] := by
  -- No group is empty, and a name with texts is found among the groups.
  constructor
  · intro member
    obtain ⟨⟨known, values⟩, inside, rfl⟩ := List.mem_map.mp member
    have filled := grouping.ne_nil_of_mem inside
    rwa [← grouping.valuesOf_eq, valuesOf, grouping.lookup_of_mem inside]
  · intro filled
    have found := grouping.texts name
    rw [if_neg filled] at found
    obtain ⟨before, behind, rfl, -⟩ := List.lookup_eq_some_iff.mp found
    simp

end IsGrouping

/-- Adding a pair to groups adds it to the pairs that they hold. -/
theorem ungroup_addTo_perm (groups : List (String × List String)) (pair : String × String) :
    (ungroup (addTo groups pair)).Perm (ungroup groups ++ [pair]) := by
  -- The pair comes to stand at the end of its group, in front of the groups behind that one.
  induction groups with
  | nil => exact .refl _
  | cons group rest ih =>
    obtain ⟨name, values⟩ := group
    rw [addTo]
    by_cases here : name = pair.1
    · rw [if_pos here]
      have moved : (ungroup rest ++ [pair]).Perm ([pair] ++ ungroup rest) := List.perm_append_comm
      have whole := moved.symm.append_left (values.map (name, ·))
      simpa [ungroup, here] using whole
    · rw [if_neg here]
      have whole := ih.append_left (values.map (name, ·))
      simpa [ungroup] using whole

/-- Adding pairs in turn adds all of them. -/
theorem ungroup_foldl_addTo_perm (groups : List (String × List String))
    (pairs : List (String × String)) :
    (ungroup (pairs.foldl addTo groups)).Perm (ungroup groups ++ pairs) := by
  -- The induction is on the pairs to come, for all groups that were built before.
  induction pairs generalizing groups with
  | nil => simp
  | cons pair rest ih =>
    have step := (ungroup_addTo_perm groups pair).append_right rest
    have whole := (ih (addTo groups pair)).trans step
    simpa using whole

/-- Grouping keeps every pair as often as it stands there. -/
theorem ungroup_group_perm (pairs : List (String × String)) :
    (ungroup (group pairs)).Perm pairs :=
  ungroup_foldl_addTo_perm [] pairs

end Form

end Locator
