import Locator.Proofs.Template.Escaping
import Locator.Proofs.Template.Expansion

/-! Exploded values: their members are written one by one, each as a slot of its own would write
it. -/

namespace Locator

namespace Slot

variable {style : Style}

/-- Without a modifier a text is written as an assignment in every layout that writes names, unless
it is empty and the layout writes bare names. -/
theorem expand_plain_named (named : style.layout ≠ .value) (name : String) {text : String}
    (visible : style.layout = .named → text ≠ "") :
    Slot.expand style ⟨name, none⟩ (.scalar text) = style.assign name text := by
  by_cases empty : text = ""
  · -- What stands behind the equals sign is the escaped form of the empty text.
    subst empty
    have nothing : style.escape "" = [] := escape_eq_nil_iff.mpr rfl
    have layout : style.layout = .namedEquals := by
      cases layout : style.layout with
      | value => exact absurd layout named
      | named => exact absurd rfl (visible layout)
      | namedEquals => rfl
    simp [expand, layout, Value.shorten, limit?, Value.isEmpty, Style.assign, nothing]
  · have filled : ((Value.scalar text).shorten (Slot.mk name none).limit?).isEmpty = false := by
      simpa [Value.shorten, limit?, Value.isEmpty] using empty
    exact expand_of_filled named filled

/-- An exploded list is written as its items would be under the same name, one by one. -/
theorem expand_exploded_list (name : String) {items : List String} (filled : items ≠ [])
    (visible : style.layout = .named → "" ∉ items) :
    Slot.expand style ⟨name, some .explode⟩ (.list items) =
      joinFields style.separator
        (items.map fun item => Slot.expand style ⟨name, none⟩ (.scalar item)) := by
  by_cases alone : style.layout = .value
  · -- Without names both sides write the escaped items.
    have each (item : String) :
        Slot.expand style ⟨name, none⟩ (.scalar item) = style.escape item := by
      simp [expand, alone, Value.shorten, limit?, Style.expandValue]
    simp only [each]
    simp [expand, alone, Value.shorten, Style.expandValue, isExploded]
  · -- With names both sides write one assignment for each item.
    have each : ∀ item ∈ items,
        Slot.expand style ⟨name, none⟩ (.scalar item) = style.assign name item := by
      intro item member
      refine expand_plain_named alone name ?_
      intro layout empty
      exact visible layout (empty ▸ member)
    rw [List.map_congr_left each]
    exact expand_of_filled alone (by simpa [Value.shorten, Value.isEmpty] using filled)

/-- Exploded pairs are written as their texts would be, each under its own key. -/
theorem expand_exploded_pairs (named : style.layout ≠ .value) (name : String)
    {entries : List (String × String)} (filled : entries ≠ [])
    (visible : style.layout = .named → ∀ entry ∈ entries, entry.2 ≠ "") :
    Slot.expand style ⟨name, some .explode⟩ (.pairs entries) =
      joinFields style.separator
        (entries.map fun (key, text) => Slot.expand style ⟨key, none⟩ (.scalar text)) := by
  have each : ∀ entry ∈ entries,
      Slot.expand style ⟨entry.1, none⟩ (.scalar entry.2) = style.assign entry.1 entry.2 := by
    intro entry member
    refine expand_plain_named named entry.1 ?_
    intro layout
    exact visible layout entry member
  -- The name of the slot itself is not written.
  show _ = joinFields style.separator (entries.map fun entry => _)
  rw [List.map_congr_left each]
  exact expand_of_filled named (by simpa [Value.shorten, Value.isEmpty] using filled)

/-- Under every operator an exploded list is written as its items would be, one by one under the
same name, and under the operators that write names exploded pairs are written as their texts would
be, one by one under their keys. Path parameters write the bare name for an empty text alone, and so
only agree where no member is empty. -/
theorem expand_exploded (operator : Operator) (name : String) :
    (∀ items : List String, items ≠ [] → (operator = .parameter → "" ∉ items) →
      Slot.expand operator.style ⟨name, some .explode⟩ (.list items) =
        joinFields operator.style.separator
          (items.map fun item => Slot.expand operator.style ⟨name, none⟩ (.scalar item))) ∧
      ∀ entries : List (String × String), entries ≠ [] →
        operator ∈ [.parameter, .query, .continuation] →
        (operator = .parameter → ∀ entry ∈ entries, entry.2 ≠ "") →
          Slot.expand operator.style ⟨name, some .explode⟩ (.pairs entries) =
            joinFields operator.style.separator
              (entries.map fun (key, text) =>
                Slot.expand operator.style ⟨key, none⟩ (.scalar text)) := by
  constructor
  · intro items filled visible
    exact expand_exploded_list name filled fun layout =>
      visible (Operator.layout_eq_named_iff.mp layout)
  · intro entries filled names visible
    -- Only three operators write names.
    have named : operator.style.layout ≠ .value := by
      cases operator <;> simp [Operator.style] at names ⊢
    exact expand_exploded_pairs named name filled fun layout =>
      visible (Operator.layout_eq_named_iff.mp layout)

/-- Items and texts that hold the separator and the equals sign, and a key that repeats. -/
theorem expand_exploded_of_separators :
    Slot.expand Operator.parameter.style ⟨"k", some .explode⟩ (.list ["a;b", "="]) =
        joinFields ';' ["k=a%3Bb".toList, "k=%3D".toList] ∧
      Slot.expand Operator.query.style ⟨"k", some .explode⟩ (.pairs [("x", "&"), ("x", "")]) =
        joinFields '&' ["x=%26".toList, "x=".toList] := by
  -- A list under one operator and pairs with a repeated key under another.
  have items := (expand_exploded .parameter "k").1 ["a;b", "="] (by simp) (by simp)
  have entries := (expand_exploded .query "k").2 [("x", "&"), ("x", "")] (by simp) (by simp)
    (by simp)
  exact ⟨items, entries⟩

/-- With an empty item path parameters write an equals sign only where the list is exploded. -/
example :
    Slot.expand Operator.parameter.style ⟨"k", some .explode⟩ (.list [""]) = "k=".toList ∧
      Slot.expand Operator.parameter.style ⟨"k", none⟩ (.scalar "") = "k".toList := by
  decide

end Slot

end Locator
