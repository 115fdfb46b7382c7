import Locator.Template.Expansion
import Mathlib.Data.List.Basic

/-! What an expansion depends on: the values of the names that the template lists, and of the slots
only those whose names are bound. -/

namespace Locator

/-- Whether the variable of a slot has a value. -/
def Slot.isBound (bindings : Bindings) (slot : Slot) : Bool :=
  (bindings.get? slot.name).isSome

/-- An expression without the slots whose names are not bound. -/
def Expression.dropUnbound (bindings : Bindings) (expression : Expression) : Expression :=
  ⟨expression.operator, expression.slots.filter (Slot.isBound bindings)⟩

/-- A part without the slots whose names are not bound. Literal text stays, and nothing is left of
an expression without slots. -/
def Part.dropUnbound? (bindings : Bindings) : Part → Option Part
  | literal text => some (literal text)
  | expression e =>
    if (e.dropUnbound bindings).slots.isEmpty then none
    else some (expression (e.dropUnbound bindings))

/-- A template without the slots whose names are not bound, and without the expressions that have no
slots left. -/
def Template.dropUnbound (bindings : Bindings) (template : Template) : Template :=
  ⟨template.parts.filterMap (Part.dropUnbound? bindings)⟩

namespace Expression

variable {bindings other : Bindings}

/-- Bindings that agree on the names of an expression give it the same items. -/
theorem items_congr {expression : Expression}
    (agree : ∀ slot ∈ expression.slots, bindings.get? slot.name = other.get? slot.name) :
    expression.items bindings = expression.items other := by
  -- Every slot looks up its own name and no other.
  refine List.filterMap_congr ?_
  intro slot member
  rw [agree slot member]

/-- Bindings that agree on the names of an expression expand it alike. -/
theorem expand_congr {expression : Expression}
    (agree : ∀ slot ∈ expression.slots, bindings.get? slot.name = other.get? slot.name) :
    expression.expand bindings = expression.expand other := by
  -- The slots that are bound, and their values, are the same.
  rw [expand, expand, items_congr agree]

/-- Slots whose names are not bound give no items. -/
theorem items_dropUnbound (expression : Expression) (bindings : Bindings) :
    (expression.dropUnbound bindings).items bindings = expression.items bindings := by
  rw [items, dropUnbound, List.filterMap_filter, items]
  refine List.filterMap_congr ?_
  intro slot _
  -- A slot that is dropped would have been skipped.
  cases bound : bindings.get? slot.name with
  | none => simp [Slot.isBound, bound]
  | some value => simp [Slot.isBound, bound]

/-- Slots whose names are not bound leave nothing behind in an expression. -/
theorem expand_dropUnbound (expression : Expression) (bindings : Bindings) :
    (expression.dropUnbound bindings).expand bindings = expression.expand bindings := by
  -- The operator is the same, and so are the items that it separates.
  rw [expand, items_dropUnbound, expand]
  rfl

/-- An expression without slots is written as nothing. -/
theorem expand_of_slots_eq_nil {expression : Expression} (empty : expression.slots = [])
    (bindings : Bindings) : expression.expand bindings = [] := by
  -- Nothing is joined, and nothing leads it.
  simp [expand, items, empty, joinFields]

end Expression

namespace Part

/-- Bindings that agree on the names of a part expand it alike. -/
theorem expand_congr {bindings other : Bindings} {part : Part}
    (agree : ∀ expression ∈ part.expression?, ∀ slot ∈ expression.slots,
      bindings.get? slot.name = other.get? slot.name) : part.expand bindings = part.expand other := by
  -- A literal does not look at the bindings.
  cases part with
  | literal text => rfl
  | expression e => exact Expression.expand_congr (agree e rfl)

/-- What is left of a part without its unbound slots expands as the whole part does. -/
theorem expand_dropUnbound? (bindings : Bindings) (part : Part) :
    ((part.dropUnbound? bindings).map (Part.expand bindings)).getD [] = part.expand bindings := by
  cases part with
  | literal text => rfl
  | expression e =>
    have kept := e.expand_dropUnbound bindings
    rw [dropUnbound?]
    split
    · -- Of the whole expression nothing would have been written.
      rename_i empty
      rw [Expression.expand_of_slots_eq_nil (List.isEmpty_iff.mp empty)] at kept
      exact kept
    · exact kept

end Part

namespace Template

/-- Bindings that agree on the names that a template lists expand it alike. -/
theorem expand_congr {template : Template} {bindings other : Bindings}
    (agree : ∀ slot ∈ template.slots, bindings.get? slot.name = other.get? slot.name) :
    template.expand bindings = template.expand other := by
  have parts : ∀ part ∈ template.parts, part.expand bindings = part.expand other := by
    intro part member
    refine Part.expand_congr ?_
    intro expression known slot inside
    -- The slots of an expression are listed among those of its template.
    refine agree slot (List.mem_flatMap.mpr ⟨expression, ?_, inside⟩)
    exact List.mem_filterMap.mpr ⟨part, member, known⟩
  rw [expand, expand, List.flatMap_def, List.map_congr_left parts, ← List.flatMap_def]

/-- The slots that stay are those whose names are bound, in order. -/
theorem slots_dropUnbound (template : Template) (bindings : Bindings) :
    (template.dropUnbound bindings).slots = template.slots.filter (Slot.isBound bindings) := by
  obtain ⟨parts⟩ := template
  simp only [slots, expressions, dropUnbound]
  -- The induction is on the parts; literals have no slots on either side.
  induction parts with
  | nil => rfl
  | cons part more ih =>
    cases part with
    | literal text => exact ih
    | expression e =>
      by_cases empty : (e.dropUnbound bindings).slots = []
      · -- Nothing is left of the expression, and none of its slots is bound.
        have gone : (Part.expression e).dropUnbound? bindings = none := by
          simp [Part.dropUnbound?, empty]
        have unbound : e.slots.filter (Slot.isBound bindings) = [] := empty
        rw [List.filterMap_cons, gone, ih, List.filterMap_cons]
        simp [Part.expression?, unbound]
      · have left : (Part.expression e).dropUnbound? bindings =
            some (.expression (e.dropUnbound bindings)) := by
          simp [Part.dropUnbound?, empty]
        rw [List.filterMap_cons, left, List.filterMap_cons, List.filterMap_cons]
        simp [Part.expression?, Expression.dropUnbound, ih]

/-- Slots whose names are not bound leave nothing behind in a template. -/
theorem expand_dropUnbound (template : Template) (bindings : Bindings) :
    (template.dropUnbound bindings).expand bindings = template.expand bindings := by
  obtain ⟨parts⟩ := template
  simp only [expand, dropUnbound]
  congr 1
  -- The induction is on the parts, each of which keeps what it is written as.
  induction parts with
  | nil => rfl
  | cons part more ih =>
    have here := part.expand_dropUnbound? bindings
    rw [List.filterMap_cons, List.flatMap_cons, ← ih, ← here]
    cases part.dropUnbound? bindings with
    | none => rfl
    | some kept => rfl

/-- An expansion depends on nothing but the values of the names that the template lists, and a slot
whose name is not bound leaves nothing behind: deleting all such slots, and the expressions that
have no slots left, keeps the other slots in order and changes nothing of what is written. -/
theorem expand_of_bound_names (template : Template) (bindings : Bindings) :
    (∀ other : Bindings,
      (∀ slot ∈ template.slots, bindings.get? slot.name = other.get? slot.name) →
        template.expand bindings = template.expand other) ∧
      (template.dropUnbound bindings).slots = template.slots.filter (Slot.isBound bindings) ∧
      (template.dropUnbound bindings).expand bindings = template.expand bindings := by
  -- The three parts are lemmas of their own.
  refine ⟨?_, template.slots_dropUnbound bindings, template.expand_dropUnbound bindings⟩
  intro other agree
  exact expand_congr agree

/-- Names that are not bound at the start, in the middle and at the end of an expression, and in all
of another one, with bindings that differ in a name that the template does not list. -/
theorem expand_of_bound_names_among_unbound :
    let template : Template := ⟨[.literal "a",
      .expression ⟨.query, [⟨"u", none⟩, ⟨"x", none⟩, ⟨"u", some .explode⟩, ⟨"y", none⟩, ⟨"u", none⟩]⟩,
      .expression ⟨.fragment, [⟨"u", none⟩, ⟨"u", some (.take 2)⟩]⟩]⟩
    let bindings : Bindings := ⟨[("x", .scalar "1"), ("y", .list [""])]⟩
    let other : Bindings := ⟨[("v", .scalar "2"), ("y", .list [""]), ("x", .scalar "1")]⟩
    template.dropUnbound bindings =
        ⟨[.literal "a", .expression ⟨.query, [⟨"x", none⟩, ⟨"y", none⟩]⟩]⟩ ∧
      template.expand bindings = "a?x=1&y=" ∧ template.expand other = "a?x=1&y=" := by
  -- Unbound slots stand in front of, between and behind the bound ones, and one expression has no
  -- other.
  intro template bindings other
  have agree : ∀ slot ∈ template.slots, bindings.get? slot.name = other.get? slot.name := by decide
  have dropped : template.dropUnbound bindings =
      ⟨[.literal "a", .expression ⟨.query, [⟨"x", none⟩, ⟨"y", none⟩]⟩]⟩ := by decide
  obtain ⟨same, -, kept⟩ := expand_of_bound_names template bindings
  have written : template.expand bindings = "a?x=1&y=" := by
    rw [← kept, dropped]
    decide
  exact ⟨dropped, written, same other agree ▸ written⟩

end Template

end Locator
