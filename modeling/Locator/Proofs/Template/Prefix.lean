import Locator.Proofs.Template.Closure
import Locator.Proofs.Template.Escaping
import Locator.Proofs.Template.Expansion
import Locator.Proofs.Template.Writing

/-! Prefix modifiers: a text is cut before anything is written of it, however large the number and
however it is spelled, and a cut never falls within a triplet. -/

namespace Locator

/-- The template text of a single span, with the operator's character in front of a word. -/
def Operator.wordText (operator : Operator) (word : List Char) : String :=
  .ofList ('{' :: (operator.toChar?.toList ++ word) ++ ['}'])

/-- A name that a template text can give under an operator, alone and with a modifier behind it. -/
structure Operator.TakesName (operator : Operator) (name : String) : Prop where
  /-- There is a name. -/
  filled : name ≠ ""
  /-- None of its characters ends the name or the span. -/
  free : ∀ c ∈ [',', ':', '*', '{', '}'], c ∉ name.toList
  /-- Without an operator it does not start like one. -/
  simple : operator = .simple → ∀ c ∈ name.toList.head?, Operator.ofChar? c = none

/-- A length holds the number that its digits denote, up to the greatest length. -/
theorem Modifier.toNat_ofNat_min (n : Nat) :
    (UInt64.ofNat (min n maxLength)).toNat = min n maxLength := by
  -- The bound fits into sixty-four bits.
  refine UInt64.toNat_ofNat_of_lt ?_
  unfold maxLength
  simp only [UInt64.size]
  omega

namespace Slot

/-- A word without colons and stars spells its name. -/
theorem read_of_plain {word : List Char} (colon : ':' ∉ word) (star : '*' ∉ word) :
    Slot.read word = ⟨.ofList word, none⟩ := by
  -- The word does not end in a star, and it is its own only piece.
  have unstarred : word.getLast? ≠ some '*' := fun ends => star (List.mem_of_getLast? ends)
  rw [Slot.read, if_neg unstarred, fields_of_not_mem colon]

/-- A name with digits behind a colon spells a prefix modifier. -/
theorem read_of_digits {name digits : List Char} (colon : ':' ∉ name) (filled : digits ≠ [])
    (decimal : ∀ c ∈ digits, c.isDigit) :
    Slot.read (name ++ ':' :: digits) =
      ⟨.ofList name,
        some (.take (.ofNat (min (Ascii.decimalValue digits) Modifier.maxLength)))⟩ := by
  -- Digits are neither a further colon nor a final star.
  have other {c : Char} (outside : c.isDigit = false) : c ∉ digits := fun member =>
    ne_of_class (decimal c member) outside rfl
  have unstarred : digits.getLast? ≠ some '*' := fun ends =>
    other (by decide) (List.mem_of_getLast? ends)
  have split : fields ':' digits = [digits] := fields_of_not_mem (other (by decide))
  rw [read_append_colon digits colon unstarred split, Modifier.ofSuffix?_digits filled decimal]

/-- A prefix modifier cuts a text before it is written, in every layout. -/
theorem expand_take_scalar (style : Style) (name : String) (length : UInt64) (text : String) :
    Slot.expand style ⟨name, some (.take length)⟩ (.scalar text) =
      Slot.expand style ⟨name, none⟩ (.scalar (.ofList (text.toList.take length.toNat))) := rfl

/-- A prefix modifier leaves lists and pairs as they are. -/
theorem expand_take_of_members (style : Style) (name : String) (length : UInt64) {value : Value}
    (members : ∀ text, value ≠ .scalar text) :
    Slot.expand style ⟨name, some (.take length)⟩ value =
      Slot.expand style ⟨name, none⟩ value := by
  -- Only a text is cut.
  cases value with
  | scalar text => exact absurd rfl (members text)
  | list | pairs => rfl

/-- Where values stand alone, less of a text is written in front of what more of it is written as.
-/
theorem expand_take_isPrefix {style : Style} (alone : style.layout = .value) (name : String)
    {length longer : UInt64} (least : length ≤ longer) (value : Value) :
    Slot.expand style ⟨name, some (.take length)⟩ value <+:
      Slot.expand style ⟨name, some (.take longer)⟩ value := by
  cases value with
  | list | pairs =>
    -- A limit leaves them as they are.
    exact List.prefix_rfl
  | scalar text =>
    -- Every character is escaped on its own, so what is escaped first stands in front.
    obtain ⟨rest, whole⟩ :=
      List.take_prefix_take_left (l := text.toList) (UInt64.le_iff_toNat_le.mp least)
    have written (count : UInt64) :
        Slot.expand style ⟨name, some (.take count)⟩ (.scalar text) =
          Percent.encode (isSpared style.escaping.safe) (text.toList.take count.toNat) := by
      rw [expand_take_scalar, expand, alone]
      show escape style.escaping.safe (.ofList (text.toList.take count.toNat)) = _
      rw [escape_eq, String.toList_ofList]
    rw [written, written, ← whole, Percent.encode_append]
    exact List.prefix_append _ _

end Slot

/-- No operator writes percent signs of its own, so that under each of them triplets stay whole. -/
theorem Operator.keeps_isWhole (operator : Operator) :
    operator.style.Keeps (Percent.IsWhole (· ≠ '%')) := by
  refine Style.keeps_isWhole ?_ ?_ (by decide) ?_
  · intro c front
    cases operator <;> cases front <;> decide
  · cases operator <;> decide
  · -- Percent signs are not spared, so none is left as it is.
    have reserved : Ascii.isUnreserved '%' = false := by decide
    rintro c spared rfl
    simp [isSpared, reserved, operator.style.escaping.sign_not_safe] at spared

namespace Expression

variable {operator : Operator} {bindings : Bindings}

/-- A word without commas spells an expression with a single slot. -/
theorem read_word {word : List Char} (filled : word ≠ []) (comma : ',' ∉ word)
    (simple : operator = .simple → ∀ c ∈ word.head?, Operator.ofChar? c = none) :
    Expression.read (operator.toChar?.toList ++ word) = ⟨operator, [Slot.read word]⟩ := by
  cases selected : operator.toChar? with
  | some c =>
    have chosen : Operator.ofChar? c = some operator := Operator.ofChar?_eq_some_iff.mpr selected
    rw [Option.toList_some, List.singleton_append, Expression.read, chosen]
    simp [fields_of_not_mem comma]
  | none =>
    -- The first character selects no operator, so the whole word is read.
    have plain : operator = .simple := Operator.toChar?_eq_none_iff.mp selected
    obtain ⟨c, rest, rfl⟩ := List.exists_cons_of_ne_nil filled
    have other : Operator.ofChar? c = none := simple plain c rfl
    rw [Option.toList_none, List.nil_append, Expression.read, other]
    simp [fields_of_not_mem comma, plain]

/-- Where values stand alone, an expression that writes less of a text writes it in front. -/
theorem expand_take_isPrefix (alone : operator.style.layout = .value) (name : String)
    {length longer : UInt64} (least : length ≤ longer) (bindings : Bindings) :
    (Expression.mk operator [⟨name, some (.take length)⟩]).expand bindings <+:
      (Expression.mk operator [⟨name, some (.take longer)⟩]).expand bindings := by
  cases bound : bindings.get? name with
  | none =>
    rw [expand_unbound operator bound]
    exact List.nil_prefix
  | some value =>
    have inner := Slot.expand_take_isPrefix alone name least value
    rw [expand_slot operator _ bound, expand_slot operator _ bound]
    split
    · exact List.nil_prefix
    · -- Behind something that is written the leading character stands on both sides.
      rename_i visible
      have longer_visible : ¬ Slot.expand operator.style ⟨name, some (.take longer)⟩ value = [] :=
        fun empty => visible (List.prefix_nil.mp (empty ▸ inner))
      rw [if_neg longer_visible]
      exact (List.prefix_append_right_inj _).mpr inner

/-- Where values stand alone, an expression that cuts its only text writes whole triplets only. -/
theorem isWhole_expand_take (alone : operator.style.layout = .value) (name : String)
    (length : UInt64) (bindings : Bindings) :
    Percent.IsWhole (· ≠ '%')
      ((Expression.mk operator [⟨name, some (.take length)⟩]).expand bindings) := by
  -- No key is written, as values stand alone and are not exploded.
  refine good_expand operator.keeps_isWhole (absurd alone) ?_
  intro slot member exploded
  simp [List.mem_singleton.mp member, Slot.isExploded] at exploded

end Expression

namespace Operator

variable {operator : Operator}

/-- A template text of a single word expands as the slot that the word spells. -/
theorem expand_wordText {word : List Char} (filled : word ≠ []) (comma : ',' ∉ word)
    (brace : '}' ∉ word)
    (simple : operator = .simple → ∀ c ∈ word.head?, Operator.ofChar? c = none)
    (bindings : Bindings) :
    (Locator.expand (operator.wordText word) bindings).toList =
      (Expression.mk operator [Slot.read word]).expand bindings := by
  -- The text is cut into one span, which no brace ends early.
  have unclosed : '}' ∉ operator.toChar?.toList ++ word := by
    have noOperator : '}' ∉ operator.toChar?.toList := by cases operator <;> decide
    simpa using ⟨by simpa using noOperator, brace⟩
  have cut := Segment.cut_span [] (by simp [filled]) unclosed
  rw [Segment.cut_nil] at cut
  rw [Locator.expand, Template.read, wordText, String.toList_ofList, cut]
  simp [Template.expand, Segment.toPart, Part.expand, Expression.read_word filled comma simple]

variable {name : String}

/-- A name alone is read as a slot without a modifier. -/
theorem TakesName.expand_name (takes : operator.TakesName name) (bindings : Bindings) :
    (Locator.expand (operator.wordText name.toList) bindings).toList =
      (Expression.mk operator [⟨name, none⟩]).expand bindings := by
  -- The name has no sign that would be read as anything else, so the word is one slot.
  have filled : name.toList ≠ [] := by simpa using takes.filled
  have slot := Slot.read_of_plain (takes.free ':' (by simp)) (takes.free '*' (by simp))
  rw [String.ofList_toList] at slot
  rw [expand_wordText filled (takes.free ',' (by simp)) (takes.free '\x7d' (by simp))
    takes.simple, slot]

/-- A name with digits behind a colon is read as a slot with a prefix modifier. -/
theorem TakesName.expand_digits (takes : operator.TakesName name) {digits : List Char}
    (filled : digits ≠ []) (decimal : ∀ c ∈ digits, c.isDigit) (bindings : Bindings) :
    (Locator.expand (operator.wordText (name.toList ++ ':' :: digits)) bindings).toList =
      (Expression.mk operator
        [⟨name, some (.take (.ofNat (min (Ascii.decimalValue digits) Modifier.maxLength)))⟩]).expand
          bindings := by
  have slot := Slot.read_of_digits (takes.free ':' (by simp)) filled decimal
  rw [String.ofList_toList] at slot
  -- What ends the name or the word stands neither in the name nor among the digits.
  have apart {c : Char} (outside : c.isDigit = false) (colon : c ≠ ':') (absent : c ∉ name.toList) :
      c ∉ name.toList ++ ':' :: digits := by
    intro member
    rcases List.mem_append.mp member with inside | behind
    · exact absent inside
    · rcases List.mem_cons.mp behind with same | digit
      · exact colon same
      · exact ne_of_class (decimal c digit) outside rfl
  -- The word starts with the first character of the name.
  have simple : operator = .simple →
      ∀ c ∈ (name.toList ++ ':' :: digits).head?, Operator.ofChar? c = none := by
    intro plain c first
    have named : name.toList ≠ [] := by simpa using takes.filled
    obtain ⟨d, more, letters⟩ := List.exists_cons_of_ne_nil named
    rw [letters] at first
    exact takes.simple plain c (letters ▸ first)
  rw [expand_wordText (by simp) (apart (by decide) (by decide) (takes.free ',' (by simp)))
    (apart (by decide) (by decide) (takes.free '\x7d' (by simp))) simple, slot]

/-- Digits behind a name, however many and with zeros in front, write as much of a text as the same
template without them writes of the first characters of the text, as many as the digits denote.
Lists and pairs are written alike with and without them. Where values stand alone, a smaller number
writes less of the same, and every percent sign opens a triplet, so that none is written in part. -/
theorem expand_digits_cuts (operator : Operator) (name : String) (takes : operator.TakesName name)
    (digits : List Char) (filled : digits ≠ []) (decimal : ∀ c ∈ digits, c.isDigit)
    (bindings : Bindings) :
    (∀ text : String, text.toList.length < 2 ^ 64 → bindings.get? name = some (.scalar text) →
      Locator.expand (operator.wordText (name.toList ++ ':' :: digits)) bindings =
        Locator.expand (operator.wordText name.toList)
          (bindings.insert name
            (.scalar (.ofList (text.toList.take (Ascii.decimalValue digits)))))) ∧
      ((∀ text, bindings.get? name ≠ some (.scalar text)) →
        Locator.expand (operator.wordText (name.toList ++ ':' :: digits)) bindings =
          Locator.expand (operator.wordText name.toList) bindings) ∧
      (operator.style.layout = .value →
        (∀ more : List Char, more ≠ [] → (∀ c ∈ more, c.isDigit) →
          Ascii.decimalValue digits ≤ Ascii.decimalValue more →
          (Locator.expand (operator.wordText (name.toList ++ ':' :: digits)) bindings).toList <+:
            (Locator.expand (operator.wordText (name.toList ++ ':' :: more)) bindings).toList) ∧
        ∀ front rest,
          (Locator.expand (operator.wordText (name.toList ++ ':' :: digits)) bindings).toList =
            front ++ '%' :: rest → Percent.opensTriplet rest) := by
  refine ⟨?_, ?_, ?_⟩
  · intro text short bound
    -- No text is longer than the greatest length, so the number may be as large as it likes.
    have cut : text.toList.take (min (Ascii.decimalValue digits) Modifier.maxLength) =
        text.toList.take (Ascii.decimalValue digits) := by
      rw [List.take_eq_take_iff]
      unfold Modifier.maxLength
      omega
    have held : (bindings.insert name
        (.scalar (.ofList (text.toList.take (Ascii.decimalValue digits))))).get? name =
          some (.scalar (.ofList (text.toList.take (Ascii.decimalValue digits)))) := by
      rw [Bindings.get?_insert, if_pos rfl]
    rw [← String.toList_inj]
    -- Both sides are expansions of one slot, the one of the whole value and the other of the cut one.
    calc
      (Locator.expand (operator.wordText (name.toList ++ ':' :: digits)) bindings).toList =
          (Expression.mk operator [⟨name, some (.take (.ofNat (min (Ascii.decimalValue digits)
            Modifier.maxLength)))⟩]).expand bindings := takes.expand_digits filled decimal bindings
      _ = (Expression.mk operator [⟨name, none⟩]).expand (bindings.insert name
            (.scalar (.ofList (text.toList.take (Ascii.decimalValue digits))))) := by
        rw [Expression.expand_slot operator _ bound, Expression.expand_slot operator _ held,
          Slot.expand_take_scalar, Modifier.toNat_ofNat_min, cut]
      _ = (Locator.expand (operator.wordText name.toList) (bindings.insert name
            (.scalar (.ofList (text.toList.take (Ascii.decimalValue digits)))))).toList :=
        (takes.expand_name _).symm
  · intro members
    -- Without a text the length has nothing to cut, whatever else is bound.
    rw [← String.toList_inj, takes.expand_digits filled decimal, takes.expand_name]
    cases bound : bindings.get? name with
    | none => rw [Expression.expand_unbound operator bound, Expression.expand_unbound operator bound]
    | some value =>
      have shape : ∀ text, value ≠ .scalar text := by
        rintro text rfl
        exact members text bound
      rw [Expression.expand_slot operator _ bound, Expression.expand_slot operator _ bound,
        Slot.expand_take_of_members _ _ _ shape]
  · intro alone
    constructor
    · -- A greater number cuts behind a smaller one, also where both are beyond the greatest.
      intro more present all least
      rw [takes.expand_digits filled decimal, takes.expand_digits present all]
      refine Expression.expand_take_isPrefix alone name ?_ bindings
      rw [UInt64.le_iff_toNat_le, Modifier.toNat_ofNat_min, Modifier.toNat_ofNat_min]
      omega
    · -- What is escaped is the text after it was cut, so every triplet is whole.
      intro front rest same
      rw [takes.expand_digits filled decimal] at same
      exact (Expression.isWhole_expand_take alone name _ bindings).opensTriplet (by simp) same

/-- Zeros in front, a number beyond 64 bits, and a text that is written in triplets. -/
theorem expand_digits_cuts_of_overlong :
    let bindings : Bindings := ⟨[("w", .scalar "é/x")]⟩
    Locator.expand "\x7b/w:002\x7d" bindings =
        Locator.expand "\x7b/w\x7d" (bindings.insert "w" (.scalar "é/")) ∧
      (Locator.expand "\x7b/w:002\x7d" bindings).toList <+:
        (Locator.expand "\x7b/w:018446744073709551618\x7d" bindings).toList := by
  -- One length has zeros in front, and the other one is beyond sixty-four bits.
  intro bindings
  have takes : Operator.path.TakesName "w" := ⟨by decide, by simp, nofun⟩
  have all := expand_digits_cuts .path "w" takes "002".toList (by decide)
    (List.all_eq_true.mp (by decide)) bindings
  obtain ⟨cut, -, alone⟩ := all
  have front := (alone rfl).1 "018446744073709551618".toList (by decide)
    (List.all_eq_true.mp (by decide)) (by decide)
  exact ⟨cut "é/x" (by decide) rfl, front⟩

end Operator

end Locator
