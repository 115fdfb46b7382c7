import Locator.Proofs.Template.Closure
import Locator.Proofs.Template.Writing

/-! Expanding an expansion: values bring no braces, so what was expanded once is literal text. -/

namespace Locator

/-- A style that writes nothing outside a class of characters, apart from keys and equals signs. -/
structure Style.StaysWithin (style : Style) (allowed : Char → Prop) : Prop where
  /-- The character in front. -/
  lead : ∀ c ∈ style.lead, allowed c
  /-- The separator. -/
  separator : allowed style.separator
  /-- The comma between the members of one value. -/
  comma : allowed ','
  /-- The escaped form of every text. -/
  escaped : ∀ text, ∀ c ∈ style.escape text, allowed c

/-- A key that may be written with an equals sign behind it. -/
def IsAllowedKey (allowed : Char → Prop) (key : String) : Prop :=
  allowed '=' ∧ ∀ c ∈ key.toList, allowed c

variable {allowed : Char → Prop}

/-- A style that stays within a class keeps the texts of that class. -/
theorem Style.StaysWithin.keeps {style : Style} (within : style.StaysWithin allowed) :
    style.Keeps fun text => ∀ c ∈ text, allowed c where
  -- All of these are put together from characters that are allowed.
  empty := by simp
  append := by
    intro front back first second c member
    exact (List.mem_append.mp member).elim (first c) (second c)
  lead := by
    intro c member
    exact within.lead c (Option.mem_toList.mp member)
  separator := by simpa using within.separator
  comma := by simpa using within.comma
  escaped := within.escaped

/-- An allowed key is a text of the class, and so is the equals sign behind it. -/
theorem IsAllowedKey.isGoodKey {key : String} (known : IsAllowedKey allowed key) :
    IsGoodKey (fun text => ∀ c ∈ text, allowed c) key :=
  ⟨by simpa using known.1, known.2⟩

/-- A bound value stands in the entries under its name. -/
theorem Bindings.mem_entries_of_get? {bindings : Bindings} {name : String} {value : Value}
    (bound : bindings.get? name = some value) : (name, value) ∈ bindings.entries := by
  -- The first entry of the name is what it is bound to.
  obtain ⟨before, behind, whole, -⟩ := List.lookup_eq_some_iff.mp bound
  simp [whole]

/-- An expression stays within the class of its style, when every key that it writes is allowed. -/
theorem Expression.forall_mem_expand {expression : Expression} {bindings : Bindings}
    (within : expression.operator.style.StaysWithin allowed)
    (named : expression.operator.style.layout ≠ .value → ∀ slot ∈ expression.slots,
      (bindings.get? slot.name).isSome → IsAllowedKey allowed slot.name)
    (keys : ∀ slot ∈ expression.slots, slot.isExploded → ∀ entries,
      bindings.get? slot.name = some (.pairs entries) →
        ∀ entry ∈ entries, IsAllowedKey allowed entry.1) :
    ∀ c ∈ expression.expand bindings, allowed c := by
  -- What is asked of names and keys is asked of their characters here.
  refine good_expand within.keeps ?_ ?_
  · intro layout slot known bound
    exact (named layout slot known bound).isGoodKey
  · intro slot known exploded entries bound entry member
    exact (keys slot known exploded entries bound entry member).isGoodKey

/-- Every character but the two braces. -/
def IsNoBrace (c : Char) : Prop :=
  c ≠ '{' ∧ c ≠ '}'

/-- No operator writes braces on its own or leaves one in a value. -/
theorem Operator.staysWithin_isNoBrace (operator : Operator) :
    operator.style.StaysWithin IsNoBrace := by
  refine ⟨?_, ?_, ⟨by decide, by decide⟩, ?_⟩
  · -- What leads an expansion and what separates its items is no brace.
    intro c front
    cases operator <;> cases front <;> exact ⟨by decide, by decide⟩
  · cases operator <;> exact ⟨by decide, by decide⟩
  · -- A brace is neither unreserved nor safe under any policy, and no percent sign.
    intro text c member
    have safe : ∀ escaping : Escaping, '{' ∉ escaping.safe.toList ∧ '}' ∉ escaping.safe.toList := by
      intro escaping
      cases escaping <;> decide
    have free := safe operator.style.escaping
    constructor
    · rintro rfl
      rcases mem_escape member with unreserved | listed | sign
      · exact absurd unreserved (by decide)
      · exact free.1 listed
      · exact absurd sign (by decide)
    · rintro rfl
      rcases mem_escape member with unreserved | listed | sign
      · exact absurd unreserved (by decide)
      · exact free.2 listed
      · exact absurd sign (by decide)

/-- A text of which every opening brace stands for itself. -/
def IsLiteralText (text : List Char) : Prop :=
  ∀ before behind, text = before ++ '{' :: behind → behind.head? = some '}' ∨ '}' ∉ behind

/-- A text of which every opening brace stands for itself expands to itself. -/
theorem expand_of_isLiteralText {text : List Char} (literal : IsLiteralText text)
    (bindings : Bindings) : expand (.ofList text) bindings = .ofList text := by
  -- The whole text is cut off as one literal, unless it is empty.
  unfold expand Template.read Template.expand
  rw [String.toList_ofList]
  by_cases none : text = []
  · simp [none]
  · have whole : Segment.cut (text ++ []) = .literal text :: Segment.cut [] := by
      refine Segment.cut_literal none (by simp) ?_
      intro before behind same
      simpa using literal before behind same
    rw [List.append_nil, Segment.cut_nil] at whole
    simp [whole, Segment.toPart, Part.expand]

/-- A text in front of another leaves every opening brace as it is when each of its own is closed at
once, or by nothing in either text. -/
theorem IsLiteralText.append {text front : List Char} (literal : IsLiteralText text)
    (braces : ∀ before behind, front = before ++ '{' :: behind →
      behind.head? = some '}' ∨ '}' ∉ behind ++ text) : IsLiteralText (front ++ text) := by
  intro before behind same
  -- The brace stands either in the text behind or in the one in front.
  rcases List.append_eq_append_iff.mp same with ⟨middle, start, rest⟩ | ⟨middle, start, rest⟩
  · exact literal middle behind rest
  · cases middle with
    | nil => exact literal [] behind (by simpa using rest.symm)
    | cons c more =>
      rw [List.cons_append, List.cons.injEq] at rest
      obtain ⟨rfl, rfl⟩ := rest
      rcases braces before more start with closed | never
      · exact .inl (by simp [List.head?_append, closed])
      · exact .inr never

/-- An expression of which no written key holds a brace brings none of its own. -/
theorem Expression.isNoBrace_of_mem_expand {expression : Expression} {bindings : Bindings}
    (valid : expression.WellFormed)
    (names : expression.operator ∈ [.parameter, .query, .continuation] →
      ∀ slot ∈ expression.slots, (bindings.get? slot.name).isSome → '{' ∉ slot.name.toList)
    (keys : ∀ name entries, bindings.get? name = some (.pairs entries) →
      ∀ entry ∈ entries, '{' ∉ entry.1.toList ∧ '}' ∉ entry.1.toList) :
    ∀ c ∈ expression.expand bindings, IsNoBrace c := by
  have allowed {key : String} (free : '{' ∉ key.toList ∧ '}' ∉ key.toList) :
      IsAllowedKey IsNoBrace key :=
    ⟨⟨by decide, by decide⟩, fun c inside =>
      ⟨fun same => free.1 (same ▸ inside), fun same => free.2 (same ▸ inside)⟩⟩
  refine forall_mem_expand expression.operator.staysWithin_isNoBrace ?_ ?_
  · -- A name never holds the brace that would have ended its span.
    intro layout slot known bound
    have named : expression.operator ∈ [.parameter, .query, .continuation] := by
      cases operator : expression.operator <;> simp [operator, Operator.style] at layout ⊢
    exact allowed ⟨names named slot known bound, (valid.slots slot known).name.2⟩
  · intro slot _ _ entries bound entry member
    exact allowed (keys slot.name entries bound entry member)

/-- What well-formed parts expand to has its opening braces from literals only, each closed at once
or by nothing. -/
theorem Part.AreWellFormed.isLiteralText_expand {parts : List Part} {bindings : Bindings}
    (wellFormed : AreWellFormed parts)
    (names : ∀ expression, .expression expression ∈ parts →
      expression.operator ∈ [.parameter, .query, .continuation] →
        ∀ slot ∈ expression.slots, (bindings.get? slot.name).isSome → '{' ∉ slot.name.toList)
    (keys : ∀ name entries, bindings.get? name = some (.pairs entries) →
      ∀ entry ∈ entries, '{' ∉ entry.1.toList ∧ '}' ∉ entry.1.toList) :
    IsLiteralText (parts.flatMap (Part.expand bindings)) := by
  -- The induction puts one part in front of what the others expand to.
  induction wellFormed with
  | nil => simp [IsLiteralText]
  | @expression expression more valid rest ih =>
    have inner := ih fun other member => names other (List.mem_cons_of_mem _ member)
    rw [List.flatMap_cons]
    refine inner.append ?_
    intro before behind same
    -- The brace would be one that the expression has brought.
    have member : '{' ∈ expression.expand bindings := by
      rw [show expression.expand bindings = before ++ '{' :: behind from same]
      simp
    have free := Expression.isNoBrace_of_mem_expand valid
      (names expression List.mem_cons_self) keys '{' member
    exact absurd rfl free.1
  | @literal text more filled alone braces rest ih =>
    have inner := ih fun other member => names other (List.mem_cons_of_mem _ member)
    rw [List.flatMap_cons]
    refine inner.append ?_
    intro before behind same
    -- A brace that nothing closes stands in the last part, so nothing is written behind it.
    rcases braces before behind same with closed | ⟨last, never⟩
    · exact .inl closed
    · exact .inr (by simpa [last] using never)

/-- An expansion is not scanned again, whatever braces the bound values hold: expanding it under any
other bindings changes nothing. -/
theorem expand_expand (text : String) (bindings more : Bindings)
    (names : ∀ expression ∈ (Template.read text).expressions,
      expression.operator ∈ [.parameter, .query, .continuation] →
        ∀ slot ∈ expression.slots, (bindings.get? slot.name).isSome → '{' ∉ slot.name.toList)
    (keys : ∀ name entries, bindings.get? name = some (.pairs entries) →
      ∀ entry ∈ entries, '{' ∉ entry.1.toList ∧ '}' ∉ entry.1.toList) :
    expand (expand text bindings) more = expand text bindings := by
  -- What is expanded once is a literal text: a span would need a brace that nothing has written.
  have wellFormed : Part.AreWellFormed (Template.read text).parts :=
    (Segment.isCutting_cut text.toList).areWellFormed
  refine expand_of_isLiteralText (wellFormed.isLiteralText_expand ?_ keys) more
  intro expression member
  exact names expression (List.mem_filterMap.mpr ⟨_, member, rfl⟩)

/-- Braces in values and in a name that is not written, and literal braces before and behind. -/
theorem expand_expand_of_braces :
    expand
        (expand "\x7b\x7d\x7d\x7ba\x7b\x7d\x7b?q,p*\x7d\x7b"
          ⟨[("a\x7b", .scalar "\x7bb\x7d"), ("q", .list ["\x7bb\x7d", "\x7d\x7b"]),
            ("p", .pairs [("k", "\x7bb\x7d")])]⟩)
        ⟨[("b", .scalar "x")]⟩ =
      expand "\x7b\x7d\x7d\x7ba\x7b\x7d\x7b?q,p*\x7d\x7b"
        ⟨[("a\x7b", .scalar "\x7bb\x7d"), ("q", .list ["\x7bb\x7d", "\x7d\x7b"]),
          ("p", .pairs [("k", "\x7bb\x7d")])]⟩ := by
  have read : (Template.read "\x7b\x7d\x7d\x7ba\x7b\x7d\x7b?q,p*\x7d\x7b").expressions =
      [⟨.simple, [⟨"a\x7b", none⟩]⟩, ⟨.query, [⟨"q", none⟩, ⟨"p", some .explode⟩]⟩] := by
    cbv
  refine expand_expand _ _ _ ?_ ?_
  · rw [read]
    decide
  · -- Only one of the bound values has keys.
    intro name entries bound entry member
    have listed := Bindings.mem_entries_of_get? bound
    simp only [List.mem_cons, Prod.mk.injEq, reduceCtorEq, and_false, List.not_mem_nil, or_false,
      false_or, Value.pairs.injEq] at listed
    obtain ⟨rfl, rfl⟩ := listed
    revert entry
    decide

end Locator
