import Locator.Proofs.Template.Expansion
import Locator.Proofs.Template.Query

/-! Path and simple expressions: what they expand to, split and decoded, is what they were filled
with, because no value can write a separator. -/

namespace Locator

/-- The texts that a slot stands for where values are written alone, by the fields in which they
are written. -/
def Slot.textFields (slot : Slot) : Value → List (List String)
  | .scalar text =>
    match slot.limit? with
    | some length => [[.ofList (text.toList.take length.toNat)]]
    | none => [[text]]
  | .list items => if slot.isExploded then items.map ([·]) else [items]
  | .pairs entries => [entries.flatMap fun (key, text) => [key, text]]

/-- Whether a slot writes something for every part of a value, and separators only between parts. A
value without members writes nothing, and exploded pairs write their keys as they are. -/
def Slot.Separates (slot : Slot) : Value → Prop
  | .scalar _ => True
  | .list items => items ≠ []
  | .pairs entries => entries ≠ [] ∧ slot.isExploded = false

/-- The texts that an expression stands for under bindings, by their fields. -/
def Expression.textFields (expression : Expression) (bindings : Bindings) : List (List String) :=
  (expression.filled bindings).flatMap fun (slot, value) => slot.textFields value

/-- The texts of a field, which are decoded one by one between the commas. -/
def readTexts? (field : List Char) : Option (List String) :=
  (fields ',' field).mapM fun piece => (Percent.decodeText? piece).map .ofList

/-- The style of expressions that write values alone and leave no reserved character in them. -/
def Style.plain (lead : Option Char) (separator : Char) : Style :=
  ⟨lead, separator, .all, .value⟩

namespace Style

variable {lead : Option Char} {separator : Char}

/-- No value brings a comma or a slash. -/
theorem not_mem_escape_plain {c : Char} (special : c = ',' ∨ c = '/') (text : String) :
    c ∉ (plain lead separator).escape text := by
  -- Neither separator is unreserved, so both are written as triplets.
  rcases special with rfl | rfl
  all_goals exact Escaping.not_mem_apply_all (by decide) (by decide) text

/-- A list of texts brings no slash. -/
theorem slash_not_mem_commaList (texts : List String) :
    '/' ∉ (plain lead separator).commaList texts := by
  -- Only commas stand between the texts.
  intro member
  rcases mem_joinFields member with same | ⟨piece, written, inside⟩
  · exact absurd same (by decide)
  · obtain ⟨text, -, rfl⟩ := List.mem_map.mp written
    exact not_mem_escape_plain (.inr rfl) text inside

/-- A list of texts is read back from between its commas, unless there are none. -/
theorem readTexts?_commaList {texts : List String} (filled : texts ≠ []) :
    readTexts? ((plain lead separator).commaList texts) = some texts := by
  have pieces : fields ',' ((plain lead separator).commaList texts) =
      texts.map (plain lead separator).escape := by
    refine fields_joinFields (by simpa using filled) ?_
    intro piece member
    obtain ⟨text, -, rfl⟩ := List.mem_map.mp member
    exact not_mem_escape_plain (.inl rfl) text
  -- Each piece stands for its own text.
  rw [readTexts?, pieces]
  refine mapM_map_eq_some ?_
  intro text _
  have decoded : Percent.decodeText? ((plain lead separator).escape text) = some text.toList :=
    Escaping.all.decodeText?_apply text
  rw [decoded, Option.map_some, String.ofList_toList]

end Style

namespace Slot

variable {slot : Slot} {value : Value} {lead : Option Char} {separator : Char}

/-- A separated value stands for one field at least, and each of its fields holds a text. -/
theorem Separates.textFields_filled (separates : slot.Separates value) :
    slot.textFields value ≠ [] ∧ ∀ texts ∈ slot.textFields value, texts ≠ [] := by
  cases value with
  | scalar text =>
    rw [textFields]
    split <;> simp
  | list items =>
    have filled : items ≠ [] := separates
    rw [textFields]
    split
    · simp [filled]
    · simpa using filled
  | pairs entries =>
    -- The first pair brings two texts.
    obtain ⟨entry, more, rfl⟩ := List.exists_cons_of_ne_nil separates.1
    simp [textFields]

/-- A slot writes its fields with separators between them, and the texts of a field with commas. -/
theorem Separates.expand_eq (separates : slot.Separates value) :
    slot.expand (.plain lead separator) value =
      joinFields separator ((slot.textFields value).map (Style.plain lead separator).commaList) := by
  have alone (text : String) : (Style.plain lead separator).commaList [text] =
      (Style.plain lead separator).escape text := by
    simp [Style.commaList]
  cases value with
  | scalar text =>
    -- A single text is its own field, as far as the limit lets it through.
    unfold textFields expand
    cases slot.limit? with
    | none =>
      rw [List.map_singleton, joinFields_singleton, alone]
      rfl
    | some length =>
      rw [List.map_singleton, joinFields_singleton, alone]
      rfl
  | list items =>
    show (Style.plain lead separator).expandValue slot.isExploded (.list items) = _
    rw [Style.expandValue, textFields]
    split
    · -- Every item is a field of its own.
      simp only [List.map_map, Function.comp_def, alone]
      rfl
    · rw [List.map_singleton, joinFields_singleton]
  | pairs entries =>
    show (Style.plain lead separator).expandValue slot.isExploded (.pairs entries) = _
    rw [Style.expandValue, separates.2, textFields, List.map_singleton, joinFields_singleton]
    rfl

end Slot

namespace Expression

section Fields

variable {expression : Expression} {bindings : Bindings} {lead : Option Char} {separator : Char}
  (separate : ∀ slot ∈ expression.slots, ∀ value,
    bindings.get? slot.name = some value → slot.Separates value)
include separate

/-- What an expression joins is all its fields with separators between them. -/
theorem joinFields_items_eq (style : expression.operator.style = .plain lead separator) :
    joinFields separator (expression.items bindings) =
      joinFields separator
        ((expression.textFields bindings).map (Style.plain lead separator).commaList) := by
  -- Every filled slot is the join of its own fields, and joins of joins are joins of all.
  let fieldsOf : Slot × Value → List (List Char) := fun (slot, value) =>
    (slot.textFields value).map (Style.plain lead separator).commaList
  have known : ∀ pair ∈ expression.filled bindings, pair.1.Separates pair.2 := by
    intro pair member
    obtain ⟨slot, value⟩ := pair
    obtain ⟨listed, bound⟩ := mem_filled member
    exact separate slot listed value bound
  have items : expression.items bindings =
      ((expression.filled bindings).map fieldsOf).map (joinFields separator) := by
    rw [items_eq, style, List.map_map]
    exact List.map_congr_left fun pair member => (known pair member).expand_eq
  have filled : [] ∉ (expression.filled bindings).map fieldsOf := by
    intro member
    obtain ⟨pair, inside, empty⟩ := List.mem_map.mp member
    exact (known pair inside).textFields_filled.1 (List.map_eq_nil_iff.mp empty)
  rw [items, joinFields_flatten filled, textFields, List.map_flatMap, List.flatMap_def]

/-- An expression with a bound name stands for one field at least, and each of its fields holds a
text. -/
theorem textFields_filled (bound : ∃ slot ∈ expression.slots, (bindings.get? slot.name).isSome) :
    expression.textFields bindings ≠ [] ∧
      ∀ texts ∈ expression.textFields bindings, texts ≠ [] := by
  -- A bound slot gives at least one list of texts, and no slot gives an empty one.
  constructor
  · obtain ⟨slot, listed, known⟩ := bound
    obtain ⟨value, held⟩ := Option.isSome_iff_exists.mp known
    have member : (slot, value) ∈ expression.filled bindings :=
      List.mem_filterMap.mpr ⟨slot, listed, by rw [held, Option.map_some]⟩
    intro empty
    have nothing := List.flatMap_eq_nil_iff.mp empty (slot, value) member
    exact (separate slot listed value held).textFields_filled.1 nothing
  · intro texts member
    obtain ⟨⟨slot, value⟩, inside, written⟩ := List.mem_flatMap.mp member
    obtain ⟨listed, held⟩ := mem_filled inside
    exact (separate slot listed value held).textFields_filled.2 texts written

/-- Between the slashes of its join a path expression has its fields, each with commas between its
texts. -/
theorem fields_joinFields_items (style : expression.operator.style = .plain lead '/')
    (present : expression.textFields bindings ≠ []) :
    fields '/' (joinFields '/' (expression.items bindings)) =
      (expression.textFields bindings).map (Style.plain lead '/').commaList := by
  -- No list of texts holds a slash, as commas separate its escaped texts.
  rw [joinFields_items_eq separate style]
  refine fields_joinFields (by simpa using present) ?_
  intro piece member
  obtain ⟨texts, -, rfl⟩ := List.mem_map.mp member
  exact Style.slash_not_mem_commaList texts

/-- Where commas separate the fields too, the join is one list of all texts. -/
theorem joinFields_items_eq_commaList (style : expression.operator.style = .plain lead ',')
    (filled : ∀ texts ∈ expression.textFields bindings, texts ≠ []) :
    joinFields ',' (expression.items bindings) =
      (Style.plain lead ',').commaList (expression.textFields bindings).flatten := by
  have inner : [] ∉ (expression.textFields bindings).map
      (List.map (Style.plain lead ',').escape) := by
    intro member
    obtain ⟨texts, inside, empty⟩ := List.mem_map.mp member
    exact filled texts inside (List.map_eq_nil_iff.mp empty)
  -- A list with commas is a join itself.
  have joins := @joinFields_flatten ',' _ inner
  rw [List.map_map] at joins
  rw [joinFields_items_eq separate style, Style.commaList, List.map_flatten, ← joins]
  rfl

end Fields

/-- A path expression behind its leading slash, split at the slashes and each field at the commas,
gives every text that it was filled with in its own field, and a simple expression split at the
commas gives all of them in order; no value can move a separator, whatever characters it holds. -/
theorem read_expand_fields (expression : Expression) (bindings : Bindings)
    (bound : ∃ slot ∈ expression.slots, (bindings.get? slot.name).isSome)
    (separate : ∀ slot ∈ expression.slots, ∀ value,
      bindings.get? slot.name = some value → slot.Separates value) :
    (expression.operator = .path →
        (∀ c ∈ (expression.expand bindings).head?, c = '/') ∧
          (fields '/' ((expression.expand bindings).drop 1)).mapM readTexts? =
            some (expression.textFields bindings)) ∧
      (expression.operator = .simple →
        readTexts? (expression.expand bindings) =
          some (expression.textFields bindings).flatten) := by
  obtain ⟨present, filled⟩ := textFields_filled separate bound
  constructor
  · -- Under the path operator every item is led by a slash and is a field of its own.
    intro operator
    have style : expression.operator.style = .plain (some '/') '/' := by
      rw [operator]
      rfl
    obtain ⟨front, behind⟩ := expand_of_led bindings (congrArg Style.lead style)
    rw [style] at behind
    refine ⟨front, ?_⟩
    rw [behind]
    show (fields '/' (joinFields '/' (expression.items bindings))).mapM readTexts? = _
    rw [fields_joinFields_items separate style present]
    -- Each field holds its own texts.
    refine mapM_map_eq_some ?_
    intro texts member
    exact Style.readTexts?_commaList (filled texts member)
  · -- A simple expansion is one list of all texts, since the items are joined by commas too.
    intro operator
    have style : expression.operator.style = .plain none ',' := by
      rw [operator]
      rfl
    have several : (expression.textFields bindings).flatten ≠ [] := by
      obtain ⟨texts, more, whole⟩ := List.exists_cons_of_ne_nil present
      have first := filled texts (whole ▸ List.mem_cons_self)
      simp [whole, first]
    have written := expand_of_unled bindings (congrArg Style.lead style)
    rw [style] at written
    rw [written]
    show readTexts? (joinFields ',' (expression.items bindings)) = _
    rw [joinFields_items_eq_commaList separate style filled]
    exact Style.readTexts?_commaList several

/-- A cut text, items and keys that hold slashes, commas and triplets, an empty item, a list both
exploded and not, and a name that is not bound. -/
theorem read_expand_fields_of_separators :
    (fields '/' "%2F%2C/b%2Fc//b%2Fc,/k,%252F".toList).mapM readTexts? =
        some [["/,"], ["b/c"], [""], ["b/c", ""], ["k", "%2F"]] ∧
      readTexts? "%2F%2C,b%2Fc,,b%2Fc,,k,%252F".toList =
        some ["/,", "b/c", "", "b/c", "", "k", "%2F"] := by
  -- The values hold both separators and the sign of triplets, and one slot is unbound.
  let slots : List Slot := [⟨"a", some (.take 2)⟩, ⟨"l", some .explode⟩, ⟨"l", none⟩, ⟨"p", none⟩,
    ⟨"unbound", none⟩]
  let bindings : Bindings := ⟨[("a", .scalar "/,x"), ("l", .list ["b/c", ""]),
    ("p", .pairs [("k", "%2F")])]⟩
  have bound : ∃ slot ∈ slots, (bindings.get? slot.name).isSome := ⟨_, List.mem_cons_self, rfl⟩
  have separate : ∀ slot ∈ slots, ∀ value,
      bindings.get? slot.name = some value → slot.Separates value := by
    intro slot member value held
    simp only [slots, List.mem_cons, List.not_mem_nil, or_false] at member
    rcases member with rfl | rfl | rfl | rfl | rfl <;> cases held
    · exact trivial
    · exact List.cons_ne_nil _ _
    · exact List.cons_ne_nil _ _
    · exact ⟨List.cons_ne_nil _ _, rfl⟩
  have path := (read_expand_fields ⟨.path, slots⟩ bindings bound separate).1 rfl
  have simple := (read_expand_fields ⟨.simple, slots⟩ bindings bound separate).2 rfl
  exact ⟨path.2, simple⟩

end Expression

end Locator
