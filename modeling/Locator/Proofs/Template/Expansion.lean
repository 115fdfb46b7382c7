import Locator.Proofs.Text.Fields
import Locator.Template.Expansion

/-! What slots and expressions write, layout by layout: the facts that hold of every operator. -/

namespace Locator

/-- Only path parameters are laid out with bare names. -/
theorem Operator.layout_eq_named_iff {operator : Operator} :
    operator.style.layout = .named ↔ operator = .parameter := by
  -- The eight operators are gone through.
  cases operator <;> simp [style]

/-- A value that is not empty is written with its name in every layout that writes names. -/
theorem Slot.expand_of_filled {style : Style} (named : style.layout ≠ .value) {slot : Slot}
    {value : Value} (filled : (value.shorten slot.limit?).isEmpty = false) :
    slot.expand style value =
      style.expandNamed slot.name slot.isExploded (value.shorten slot.limit?) := by
  -- The two layouts differ only in what they write for an empty value.
  unfold expand
  cases layout : style.layout with
  | value => exact absurd layout named
  | named => simp [filled]
  | namedEquals => simp [filled]

namespace Expression

variable {expression : Expression} (bindings : Bindings)

/-- What the slots of an expression write is joined and stands behind the leading character, unless
it is nothing. -/
theorem expand_eq (expression : Expression) :
    expression.expand bindings =
      if joinFields expression.operator.style.separator (expression.items bindings) = [] then []
      else expression.operator.style.lead.toList ++
        joinFields expression.operator.style.separator (expression.items bindings) := by
  -- This is the definition, with the test whether the join is empty.
  simp [expand]

/-- Behind its leading character an expression is the join of its filled slots, and nothing stands
in front of an empty join. -/
theorem expand_of_led {c : Char} (led : expression.operator.style.lead = some c) :
    (∀ d ∈ (expression.expand bindings).head?, d = c) ∧
      (expression.expand bindings).drop 1 =
        joinFields expression.operator.style.separator (expression.items bindings) := by
  -- An empty expansion has no first character, and any other one the lead.
  rw [expand_eq, led]
  split
  · simp [*]
  · simp

/-- Without a leading character an expression is the join of its filled slots. -/
theorem expand_of_unled (unled : expression.operator.style.lead = none) :
    expression.expand bindings =
      joinFields expression.operator.style.separator (expression.items bindings) := by
  -- Without a lead the join stands alone, empty or not.
  rw [expand_eq, unled]
  split
  · simp [*]
  · simp

variable {bindings} (operator : Operator)

/-- An expression with a single slot writes that slot behind its leading character, unless it is
written as nothing. -/
theorem expand_slot (slot : Slot) {value : Value} (bound : bindings.get? slot.name = some value) :
    (Expression.mk operator [slot]).expand bindings =
      if slot.expand operator.style value = [] then []
      else operator.style.lead.toList ++ slot.expand operator.style value := by
  -- There is nothing to separate.
  simp [expand_eq, items, bound]

/-- An expression with a single slot whose name is not bound is written as nothing. -/
theorem expand_unbound {slot : Slot} (unbound : bindings.get? slot.name = none) :
    (Expression.mk operator [slot]).expand bindings = [] := by
  -- The slot has no item.
  simp [expand_eq, items, unbound]

end Expression

end Locator
