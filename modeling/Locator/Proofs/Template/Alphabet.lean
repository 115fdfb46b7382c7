import Locator.Proofs.Template.Closure

/-! The characters of an expansion: which ones an expression writes as they are, when its names and
the keys of its pairs are unreserved, and that all others stand in whole triplets. -/

namespace Locator

/-- A text of unreserved characters only. -/
def IsUnreservedText (text : String) : Prop :=
  ∀ c ∈ text.toList, Ascii.isUnreserved c

instance (text : String) : Decidable (IsUnreservedText text) :=
  decidable_of_iff (text.toList.all Ascii.isUnreserved) List.all_eq_true

namespace Expression

/-- Whether an exploded slot is filled with pairs, which bring their own keys. -/
def ExplodesPairs (expression : Expression) (bindings : Bindings) : Prop :=
  ∃ slot ∈ expression.slots, slot.isExploded ∧
    ∃ entries, bindings.get? slot.name = some (.pairs entries)

/-- The characters that an expression writes as they are, triplets apart. -/
inductive Writes (expression : Expression) (bindings : Bindings) : Char → Prop where
  /-- An unreserved character. -/
  | unreserved {c : Char} (known : Ascii.isUnreserved c) : Writes expression bindings c
  /-- The character that the operator writes in front. -/
  | lead {c : Char} (front : expression.operator.style.lead = some c) : Writes expression bindings c
  /-- The operator's separator. -/
  | separator : Writes expression bindings expression.operator.style.separator
  /-- The comma between the members of one value. -/
  | comma : Writes expression bindings ','
  /-- The equals sign behind a name, under the operators that write names. -/
  | nameEquals (names : expression.operator ∈ [.parameter, .query, .continuation]) :
    Writes expression bindings '='
  /-- The equals sign behind a key. -/
  | keyEquals (exploded : expression.ExplodesPairs bindings) : Writes expression bindings '='
  /-- A character that the operators for reserved text spare. -/
  | spared {c : Char} (keeps : expression.operator ∈ [.reserved, .fragment])
    (listed : c ∈ ['/', '!', ',', '.', ';']) : Writes expression bindings c

variable {expression : Expression} {bindings : Bindings}

/-- No percent sign is written as it is. -/
theorem not_writes_sign : ¬ expression.Writes bindings '%' := by
  -- A percent sign is not unreserved, and no operator writes one or spares it.
  intro sign
  generalize same : '%' = c at sign
  cases sign with
  | unreserved known =>
    subst same
    exact absurd known (by decide)
  | lead front =>
    subst same
    cases operator : expression.operator <;> simp [operator, Operator.style] at front
  | separator =>
    cases operator : expression.operator <;> simp [operator, Operator.style] at same
  | comma => exact absurd same (by decide)
  | nameEquals | keyEquals => exact absurd same (by decide)
  | spared _ listed =>
    subst same
    exact absurd listed (by decide)

/-- What an operator spares in values is among the characters that its expressions write. -/
theorem writes_of_isSpared {c : Char}
    (spared : isSpared expression.operator.style.escaping.safe c) : expression.Writes bindings c := by
  by_cases known : Ascii.isUnreserved c
  · exact .unreserved known
  · have listed : c ∈ expression.operator.style.escaping.safe.toList := by
      simpa [isSpared, known] using spared
    -- Only the operators for reserved text spare more than unreserved characters.
    cases operator : expression.operator with
    | reserved | fragment =>
      rw [operator] at listed
      exact .spared (by simp [operator]) listed
    | _ => simp [operator, Operator.style, Escaping.safe] at listed

/-- The style of an expression keeps texts of whole triplets and characters that it writes. -/
theorem keeps_writes :
    expression.operator.style.Keeps (Percent.IsWhole (expression.Writes bindings)) :=
  Style.keeps_isWhole (fun _ => .lead) .separator .comma fun _ => writes_of_isSpared

/-- Unreserved keys may be written where the equals sign behind them may. -/
theorem isGoodKey_of_isUnreservedText {key : String} (known : IsUnreservedText key)
    (equals : expression.Writes bindings '=') :
    IsGoodKey (Percent.IsWhole (expression.Writes bindings)) key :=
  ⟨.char equals .nil, .chars fun c member => .unreserved (known c member)⟩

/-- With unreserved names and keys, an expression writes unreserved characters, whole triplets of a
percent sign and two upper-case hexadecimal digits, and of all others only those that it may write:
what its operator writes in front and between, commas, equals signs behind names and keys, and what
its operator spares. Every percent sign stands at the front of a triplet, however values are cut. -/
theorem expand_writes (expression : Expression) (bindings : Bindings)
    (names : ∀ slot ∈ expression.slots, IsUnreservedText slot.name)
    (keys : ∀ slot ∈ expression.slots, ∀ entries, bindings.get? slot.name = some (.pairs entries) →
      ∀ entry ∈ entries, IsUnreservedText entry.1) :
    Percent.IsWhole (expression.Writes bindings) (expression.expand bindings) ∧
      ∀ front rest, expression.expand bindings = front ++ '%' :: rest →
        ∃ byte behind, '%' :: rest = Percent.triplet byte ++ behind := by
  have whole : Percent.IsWhole (expression.Writes bindings) (expression.expand bindings) := by
    refine good_expand keeps_writes ?_ ?_
    · -- Names are written by three of the operators only.
      intro layout slot known _
      have named : expression.operator ∈ [.parameter, .query, .continuation] := by
        cases operator : expression.operator <;> simp [operator, Operator.style] at layout ⊢
      exact isGoodKey_of_isUnreservedText (names slot known) (.nameEquals named)
    · -- Keys are written in front of equals signs when their pairs are exploded.
      intro slot known exploded entries bound entry member
      exact isGoodKey_of_isUnreservedText (keys slot known entries bound entry member)
        (.keyEquals ⟨slot, known, exploded, entries, bound⟩)
  refine ⟨whole, ?_⟩
  intro front rest same
  exact whole.exists_triplet not_writes_sign same

/-- A value that is cut behind a character of two bytes, exploded pairs with a repeated key, and
items that hold what the operator writes on its own. -/
theorem expand_writes_of_every_shape :
    let expression : Expression :=
      ⟨.label, [⟨"x", some (.take 2)⟩, ⟨"p", some .explode⟩, ⟨"u", none⟩, ⟨"l", none⟩]⟩
    let bindings : Bindings := ⟨[("x", .scalar "é%a"), ("p", .pairs [("k", "="), ("k", "é")]),
      ("l", .list [".", "", ","])]⟩
    expression.expand bindings = ".%C3%A9%25.k=%3D.k=%C3%A9..,,%2C".toList ∧
      Percent.IsWhole (expression.Writes bindings) ".%C3%A9%25.k=%3D.k=%C3%A9..,,%2C".toList := by
  intro expression bindings
  have names : ∀ slot ∈ expression.slots, IsUnreservedText slot.name := by decide
  have keys : ∀ slot ∈ expression.slots, ∀ entries,
      bindings.get? slot.name = some (.pairs entries) →
        ∀ entry ∈ entries, IsUnreservedText entry.1 := by
    -- Only one of the values has keys.
    intro slot member entries held
    simp only [expression, List.mem_cons, List.not_mem_nil, or_false] at member
    rcases member with rfl | rfl | rfl | rfl <;> cases held
    decide
  have written : expression.expand bindings = ".%C3%A9%25.k=%3D.k=%C3%A9..,,%2C".toList := by decide
  have whole := (expand_writes expression bindings names keys).1
  exact ⟨written, written ▸ whole⟩

end Expression

end Locator
