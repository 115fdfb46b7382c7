import Locator.Proofs.Template.Query
import Locator.Proofs.Text.Percent.Whole

/-! Properties of texts that are kept when texts are put together: an expression has them when
everything has that its style writes, and every key. -/

namespace Locator

/-- A property of texts that is kept when texts are put together, and that everything has which a
style writes, apart from keys and equals signs. -/
structure Style.Keeps (style : Style) (good : List Char → Prop) : Prop where
  /-- The empty text. -/
  empty : good []
  /-- Two texts one behind the other. -/
  append : ∀ front back, good front → good back → good (front ++ back)
  /-- The character in front. -/
  lead : good style.lead.toList
  /-- The separator. -/
  separator : good [style.separator]
  /-- The comma between the members of one value. -/
  comma : good [',']
  /-- The escaped form of every text. -/
  escaped : ∀ text, good (style.escape text)

/-- A key that has a property, and so has the equals sign behind it. -/
def IsGoodKey (good : List Char → Prop) (key : String) : Prop :=
  good ['='] ∧ good key.toList

/-- A cut value has the pairs of the value that it was cut from. -/
theorem Value.shorten_eq_pairs_iff {limit : Option UInt64} {value : Value}
    {entries : List (String × String)} :
    value.shorten limit = .pairs entries ↔ value = .pairs entries := by
  -- Only texts are cut, and a cut text is a text.
  cases value with
  | scalar text => cases limit <;> simp [shorten]
  | list items => simp [shorten]
  | pairs known => simp [shorten]

variable {good : List Char → Prop}

namespace Style.Keeps

variable {style : Style}

/-- Texts with a separator between them keep the property. -/
theorem joinFields (keeps : style.Keeps good) {separator : Char} (between : good [separator])
    {pieces : List (List Char)} (each : ∀ piece ∈ pieces, good piece) :
    good (Locator.joinFields separator pieces) := by
  -- Every piece but the first comes with a separator in front of it.
  induction pieces with
  | nil => exact keeps.empty
  | cons piece more ih =>
    have here := each piece List.mem_cons_self
    have behind := ih fun other member => each other (List.mem_cons_of_mem _ member)
    cases more with
    | nil => simpa using here
    | cons next others =>
      rw [joinFields_cons_cons]
      exact keeps.append _ _ here (keeps.append [separator] _ between behind)

/-- A list of texts keeps the property. -/
theorem commaList (keeps : style.Keeps good) (texts : List String) :
    good (style.commaList texts) := by
  -- Every piece is the escaped form of one text.
  refine keeps.joinFields keeps.comma ?_
  intro piece member
  obtain ⟨text, -, rfl⟩ := List.mem_map.mp member
  exact keeps.escaped text

/-- What follows a good key keeps the property together with it. -/
theorem key_append (keeps : style.Keeps good) {key : String} (known : IsGoodKey good key)
    {written : List Char} (inner : good written) : good (key.toList ++ '=' :: written) :=
  keeps.append _ _ known.2 (keeps.append ['='] _ known.1 inner)

/-- Pairs with good keys keep the property. -/
theorem assignments (keeps : style.Keeps good) {entries : List (String × String)}
    (keys : ∀ entry ∈ entries, IsGoodKey good entry.1) : good (style.assignments entries) := by
  -- Every piece is a key with its equals sign and the escaped form of one text.
  refine keeps.joinFields keeps.separator ?_
  intro piece member
  obtain ⟨entry, known, rfl⟩ := List.mem_map.mp member
  exact keeps.key_append (keys entry known) (keeps.escaped entry.2)

/-- A value without its name keeps the property. Only exploded pairs write their keys. -/
theorem expandValue (keeps : style.Keeps good) {exploded : Bool} {value : Value}
    (keys : exploded → ∀ entries, value = .pairs entries →
      ∀ entry ∈ entries, IsGoodKey good entry.1) : good (style.expandValue exploded value) := by
  -- The cases are those of the writer: one text, separate items, or one list with commas.
  cases value with
  | scalar text => exact keeps.escaped text
  | list items =>
    cases exploded with
    | true =>
      refine keeps.joinFields keeps.separator ?_
      intro piece member
      obtain ⟨text, -, rfl⟩ := List.mem_map.mp member
      exact keeps.escaped text
    | false => exact keeps.commaList items
  | pairs entries =>
    cases exploded with
    | true => exact keeps.assignments (keys rfl entries rfl)
    | false => exact keeps.commaList (flattenPairs entries)

/-- A value with a good name keeps the property. -/
theorem expandNamed (keeps : style.Keeps good) {name : String} (named : IsGoodKey good name)
    {exploded : Bool} {value : Value}
    (keys : exploded → ∀ entries, value = .pairs entries →
      ∀ entry ∈ entries, IsGoodKey good entry.1) :
    good (style.expandNamed name exploded value) := by
  -- Beside the name the cases are those of the value alone.
  cases value with
  | scalar text => exact keeps.key_append named (keeps.escaped text)
  | list items =>
    cases exploded with
    | true =>
      refine keeps.joinFields keeps.separator ?_
      intro piece member
      obtain ⟨text, -, rfl⟩ := List.mem_map.mp member
      exact keeps.key_append named (keeps.escaped text)
    | false => exact keeps.key_append named (keeps.commaList items)
  | pairs entries =>
    cases exploded with
    | true => exact keeps.assignments (keys rfl entries rfl)
    | false => exact keeps.key_append named (keeps.commaList (flattenPairs entries))

end Style.Keeps

/-- A style keeps texts of whole triplets and of the characters that it writes on its own or spares
in values. -/
theorem Style.keeps_isWhole {style : Style} {allowed : Char → Prop}
    (lead : ∀ c ∈ style.lead, allowed c) (separator : allowed style.separator)
    (comma : allowed ',') (spared : ∀ c, isSpared style.escaping.safe c → allowed c) :
    style.Keeps (Percent.IsWhole allowed) where
  empty := .nil
  append _ _ := Percent.IsWhole.append
  lead := by
    cases front : style.lead with
    | none => exact .nil
    | some c => exact .char (lead c (by simp [front])) .nil
  separator := .char separator .nil
  comma := .char comma .nil
  escaped := by
    -- Every character of a value is spared or written as its triplets.
    intro text
    show Percent.IsWhole allowed (Locator.escape style.escaping.safe text)
    rw [escape_eq]
    exact .encode spared text.toList

/-- A filled slot has a property that its style keeps, when every key that it writes is good. -/
theorem Slot.good_expand {style : Style} (keeps : style.Keeps good) {slot : Slot} {value : Value}
    (named : style.layout ≠ .value → IsGoodKey good slot.name)
    (keys : slot.isExploded → ∀ entries, value = .pairs entries →
      ∀ entry ∈ entries, IsGoodKey good entry.1) : good (slot.expand style value) := by
  -- Cutting a value neither adds keys nor changes them.
  have kept : slot.isExploded → ∀ entries, value.shorten slot.limit? = .pairs entries →
      ∀ entry ∈ entries, IsGoodKey good entry.1 :=
    fun exploded entries same => keys exploded entries (Value.shorten_eq_pairs_iff.mp same)
  -- The layouts differ in where the name stands.
  unfold expand
  cases layout : style.layout with
  | value => exact keeps.expandValue kept
  | named =>
    -- An empty value is written as its bare name.
    have name := named (by simp [layout])
    simp only
    split
    · exact name.2
    · exact keeps.expandNamed name kept
  | namedEquals =>
    -- An empty value is written as its name with the equals sign.
    have name := named (by simp [layout])
    simp only
    split
    · exact keeps.key_append name keeps.empty
    · exact keeps.expandNamed name kept

/-- An expression has a property that its style keeps, when every key that it writes is good. -/
theorem Expression.good_expand {expression : Expression} {bindings : Bindings}
    (keeps : expression.operator.style.Keeps good)
    (named : expression.operator.style.layout ≠ .value → ∀ slot ∈ expression.slots,
      (bindings.get? slot.name).isSome → IsGoodKey good slot.name)
    (keys : ∀ slot ∈ expression.slots, slot.isExploded → ∀ entries,
      bindings.get? slot.name = some (.pairs entries) →
        ∀ entry ∈ entries, IsGoodKey good entry.1) : good (expression.expand bindings) := by
  -- The items have the property, and so do the separators between them.
  have inner : good (joinFields expression.operator.style.separator
      (expression.items bindings)) := by
    refine keeps.joinFields keeps.separator ?_
    rw [items_eq]
    intro piece member
    obtain ⟨⟨slot, value⟩, filled, rfl⟩ := List.mem_map.mp member
    obtain ⟨known, bound⟩ := mem_filled filled
    refine Slot.good_expand keeps ?_ ?_
    · intro layout
      exact named layout slot known (by simp [bound])
    · intro exploded entries same
      exact keys slot known exploded entries (same ▸ bound)
  rw [expand_eq]
  -- Without items nothing is written, not even the character in front.
  split
  · exact keeps.empty
  · exact keeps.append _ _ keeps.lead inner

end Locator
