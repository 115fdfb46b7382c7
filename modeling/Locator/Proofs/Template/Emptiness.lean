import Locator.Proofs.Template.Expansion
import Locator.Proofs.Template.Query

/-! Empty expansions: which filled slots are written as nothing, when an expression is, and that its
leading character and every filled slot are written in all other cases. -/

namespace Locator

namespace Style

variable {style : Style}

/-- An assignment has at least its equals sign. -/
theorem assign_ne_nil (style : Style) (key text : String) : style.assign key text ≠ [] := by
  -- An equals sign stands behind the key.
  simp [assign]

/-- Escaped texts join to nothing only if there are none, or a single empty one. -/
theorem joinFields_escape_eq_nil_iff {separator : Char} {texts : List String} :
    joinFields separator (texts.map style.escape) = [] ↔ texts = [] ∨ texts = [""] := by
  have alone {text : String} : style.escape text = [] ↔ text = "" := escape_eq_nil_iff
  -- Two texts have a separator between them.
  rw [joinFields_eq_nil_iff]
  match texts with
  | [] => simp
  | [text] => simp [alone]
  | text :: next :: more => simp

/-- Pairs in one list with commas are written as nothing only if there are none, because a pair
brings two texts. -/
theorem commaList_flattenPairs_eq_nil_iff {entries : List (String × String)} :
    style.commaList (flattenPairs entries) = [] ↔ entries = [] := by
  -- An entry gives two texts, so there is a comma between them.
  rw [commaList, joinFields_escape_eq_nil_iff]
  cases entries with
  | nil => simp [flattenPairs]
  | cons entry more => simp [flattenPairs]

/-- Pairs as assignments are written as nothing only if there are none. -/
theorem assignments_eq_nil_iff {entries : List (String × String)} :
    style.assignments entries = [] ↔ entries = [] := by
  -- No assignment is empty.
  unfold assignments
  apply joinFields_map_eq_nil_iff
  intro entry
  exact style.assign_ne_nil entry.1 entry.2

/-- Without its name a value is written as nothing if it is the empty text, has no members, or has
an empty text as its only item. -/
theorem expandValue_eq_nil_iff {exploded : Bool} {value : Value} :
    style.expandValue exploded value = [] ↔
      value ∈ [.scalar "", .list [], .list [""], .pairs []] := by
  cases value with
  | scalar text =>
    have alone : style.escape text = [] ↔ text = "" := escape_eq_nil_iff
    simp [expandValue, alone]
  | list items =>
    -- It does not matter what stands between the items, as there is at most one.
    cases exploded with
    | true => simp [expandValue, joinFields_escape_eq_nil_iff]
    | false => simp [expandValue, commaList, joinFields_escape_eq_nil_iff]
  | pairs entries =>
    cases exploded with
    | true => simp [expandValue, assignments_eq_nil_iff]
    | false => simp [expandValue, commaList_flattenPairs_eq_nil_iff]

/-- With its name a value that is not empty is never written as nothing. -/
theorem expandNamed_ne_nil {name : String} {exploded : Bool} {value : Value}
    (filled : value.isEmpty = false) : style.expandNamed name exploded value ≠ [] := by
  -- An equals sign follows the name, or stands in the assignment of every member.
  cases value with
  | scalar text => exact style.assign_ne_nil name text
  | list items =>
    cases exploded with
    | true =>
      intro empty
      have none : items = [] := (joinFields_map_eq_nil_iff (style.assign_ne_nil name)).mp empty
      simp [Value.isEmpty, none] at filled
    | false => simp [expandNamed]
  | pairs entries =>
    cases exploded with
    | true =>
      intro empty
      simp [Value.isEmpty, assignments_eq_nil_iff.mp empty] at filled
    | false => simp [expandNamed]

end Style

/-- A value is empty if it is the empty text, no items or no pairs. -/
theorem Value.isEmpty_iff {value : Value} :
    value.isEmpty ↔ value ∈ [.scalar "", .list [], .pairs []] := by
  -- The three kinds of values are gone through.
  cases value <;> simp [isEmpty]

/-- A filled slot is written as nothing if its cut value stands without a name and is the empty
text, has no members or has an empty text as its only item, or if the value is empty and the bare
name that stands for it has no characters. -/
theorem Slot.expand_eq_nil_iff (operator : Operator) (slot : Slot) (value : Value) :
    slot.expand operator.style value = [] ↔
      operator.style.layout = .value ∧
          value.shorten slot.limit? ∈ [.scalar "", .list [], .list [""], .pairs []] ∨
        operator = .parameter ∧ slot.name = "" ∧
          value.shorten slot.limit? ∈ [.scalar "", .list [], .pairs []] := by
  rw [← Operator.layout_eq_named_iff, ← Value.isEmpty_iff]
  unfold expand
  -- Only the layout without names and the one of bare names can write nothing.
  cases operator.style.layout with
  | value => simp [Style.expandValue_eq_nil_iff]
  | named =>
    by_cases empty : (value.shorten slot.limit?).isEmpty
    · simp [empty]
    · simp [empty, Style.expandNamed_ne_nil]
  | namedEquals =>
    by_cases empty : (value.shorten slot.limit?).isEmpty
    · simp [empty]
    · simp [empty, Style.expandNamed_ne_nil]

namespace Expression

variable {expression : Expression} {bindings : Bindings}

/-- No slot is filled exactly if no name is bound. -/
theorem filled_eq_nil_iff :
    expression.filled bindings = [] ↔
      ∀ slot ∈ expression.slots, bindings.get? slot.name = none := by
  -- Each slot is looked up on its own.
  simp [filled, List.filterMap_eq_nil_iff]

/-- What an expression joins is empty if no slot is filled, or a single one that is written as
nothing. -/
theorem joinFields_items_eq_nil_iff :
    joinFields expression.operator.style.separator (expression.items bindings) = [] ↔
      expression.filled bindings = [] ∨
        ∃ slot value, expression.filled bindings = [(slot, value)] ∧
          slot.expand expression.operator.style value = [] := by
  -- A join is empty without items, or with one that is empty. Two have a separator between them.
  rw [joinFields_eq_nil_iff, items_eq]
  match expression.filled bindings with
  | [] => simp
  | [(slot, value)] =>
    simp only [List.map_cons, List.map_nil, List.cons.injEq, and_true, reduceCtorEq, false_or,
      Prod.mk.injEq]
    constructor
    · intro empty
      exact ⟨slot, value, ⟨rfl, rfl⟩, empty⟩
    · rintro ⟨_, _, ⟨rfl, rfl⟩, empty⟩
      exact empty
  | first :: next :: more => simp

/-- An expression is written as nothing exactly if no name is bound, or if a single slot is filled
and that slot is written as nothing. -/
theorem expand_eq_nil_iff :
    expression.expand bindings = [] ↔
      (∀ slot ∈ expression.slots, bindings.get? slot.name = none) ∨
        ∃ slot value, expression.filled bindings = [(slot, value)] ∧
          slot.expand expression.operator.style value = [] := by
  -- The lead only stands in front of a join that is not empty.
  rw [← filled_eq_nil_iff, ← joinFields_items_eq_nil_iff, expand_eq]
  split
  · simp [*]
  · simp [*]

/-- An expression that is not written as nothing is written as the leading character of its operator
and every filled slot in order, with separators between them. -/
theorem expand_eq_lead_append (filled : expression.expand bindings ≠ []) :
    joinFields expression.operator.style.separator (expression.items bindings) ≠ [] ∧
      expression.expand bindings = expression.operator.style.lead.toList ++
        joinFields expression.operator.style.separator (expression.items bindings) := by
  -- An empty join would leave the expansion empty.
  rw [expand_eq] at filled ⊢
  split at filled
  · exact absurd rfl filled
  · rename_i visible
    rw [if_neg visible]
    exact ⟨visible, rfl⟩

/-- An expression is written as nothing exactly if no name is bound, or if a single slot is filled
and written as nothing itself. A slot is so under an operator that writes values alone, if its cut
value is the empty text, has no members or has an empty text as its only item; and under the
operator of path parameters, if its name has no characters and its value is empty. In every other
case the leading character of the operator is followed by the join of all filled slots in order,
which is not empty though single slots may be. -/
theorem expand_empty_or_led (expression : Expression) (bindings : Bindings) :
    (expression.expand bindings = [] ↔
        (∀ slot ∈ expression.slots, bindings.get? slot.name = none) ∨
          ∃ slot value, expression.filled bindings = [(slot, value)] ∧
            slot.expand expression.operator.style value = []) ∧
      (∀ (slot : Slot) (value : Value), slot.expand expression.operator.style value = [] ↔
        expression.operator.style.layout = .value ∧
            value.shorten slot.limit? ∈ [.scalar "", .list [], .list [""], .pairs []] ∨
          expression.operator = .parameter ∧ slot.name = "" ∧
            value.shorten slot.limit? ∈ [.scalar "", .list [], .pairs []]) ∧
      (expression.expand bindings = [] ∨
        ∃ joined, joined ≠ [] ∧
          joined = joinFields expression.operator.style.separator
            ((expression.filled bindings).map fun (slot, value) =>
              slot.expand expression.operator.style value) ∧
          expression.expand bindings = expression.operator.style.lead.toList ++ joined) := by
  -- The first two parts are lemmas of their own; the third one says what an expansion is
  -- otherwise.
  refine ⟨expand_eq_nil_iff, Slot.expand_eq_nil_iff expression.operator, ?_⟩
  by_cases empty : expression.expand bindings = []
  · exact .inl empty
  · obtain ⟨joined, written⟩ := expand_eq_lead_append empty
    rw [items_eq] at joined written
    exact .inr ⟨_, joined, rfl, written⟩

/-- Three slots that are written as nothing leave two separators and the leading character, a slot
that is not filled leaves neither, and one that is written as nothing alone leaves nothing. -/
example :
    let bindings : Bindings := ⟨[("list", .list [""]), ("cut", .scalar "ü"), ("none", .pairs [])]⟩
    Expression.expand ⟨.label, [⟨"list", some .explode⟩, ⟨"unbound", none⟩, ⟨"cut", some (.take 0)⟩,
        ⟨"none", none⟩]⟩ bindings = "...".toList ∧
      Expression.expand ⟨.label, [⟨"unbound", none⟩, ⟨"cut", some (.take 0)⟩]⟩ bindings = [] := by
  decide

end Expression

end Locator
