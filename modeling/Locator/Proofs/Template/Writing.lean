import Locator.Proofs.Template.Cutting
import Locator.Proofs.Text.Digits
import Locator.Template.Expansion

/-! The templates that texts spell are the well-formed ones, and each of them reads back from its
written form. -/

namespace Locator

/-- Only seven characters select an operator. -/
theorem Operator.ofChar?_eq_none_iff {c : Char} :
    ofChar? c = none ↔ c ∉ ['+', '#', '.', '/', ';', '?', '&'] := by
  -- The last case of the look-up is what the seven characters leave over.
  constructor
  · intro unknown member
    simp only [List.mem_cons, List.not_mem_nil, or_false] at member
    rcases member with same | same | same | same | same | same | same <;>
      simp [same, ofChar?] at unknown
  · intro absent
    unfold ofChar?
    split <;> first | rfl | exact absurd (by decide) absent

/-- Only the simple operator has no character. -/
theorem Operator.toChar?_eq_none_iff {operator : Operator} :
    operator.toChar? = none ↔ operator = .simple := by
  -- The eight operators are gone through.
  cases operator <;> simp [toChar?]

/-- A slot that a word can spell. -/
structure Slot.WellFormed (slot : Slot) : Prop where
  /-- The name ends neither the word nor the expression. -/
  name : ',' ∉ slot.name.toList ∧ '}' ∉ slot.name.toList
  /-- Only a final star keeps a colon in the name. -/
  colon : slot.modifier ≠ some .explode → ':' ∉ slot.name.toList
  /-- A modifier without effect has a text of its own, which no separator ends and which is no
  length. -/
  other : ∀ text, slot.modifier = some (.other text) →
    text.toList ≠ [] ∧ ',' ∉ text.toList ∧ '}' ∉ text.toList ∧ ':' ∉ text.toList ∧
      ¬ ∀ c ∈ text.toList, c.isDigit

/-- An expression that the text between two braces can spell. -/
structure Expression.WellFormed (expression : Expression) : Prop where
  /-- There is at least one slot. -/
  filled : expression.slots ≠ []
  /-- Every slot is spelled by its word. -/
  slots : ∀ slot ∈ expression.slots, slot.WellFormed
  /-- Without an operator the first name does not start like one. -/
  simple : expression.operator = .simple → ∀ first ∈ expression.slots.head?,
    ∀ c ∈ first.name.toList.head?, c ∉ ['+', '#', '.', '/', ';', '?', '&']

/-- Parts that a text can spell. -/
inductive Part.AreWellFormed : List Part → Prop where
  /-- No parts at all. -/
  | nil : AreWellFormed []
  /-- An expression may stand anywhere. -/
  | expression {expression : Expression} {more : List Part} (valid : expression.WellFormed)
      (rest : AreWellFormed more) : AreWellFormed (.expression expression :: more)
  /-- A literal is not empty and not followed by another one. An opening brace in it is closed at
  once, or the literal is the last part and never closes it. -/
  | literal {text : String} {more : List Part} (filled : text.toList ≠ [])
      (alone : ∀ next ∈ more.head?, next.expression?.isSome)
      (braces : ∀ before behind, text.toList = before ++ '{' :: behind →
        behind.head? = some '}' ∨ (more = [] ∧ '}' ∉ behind))
      (rest : AreWellFormed more) : AreWellFormed (.literal text :: more)

/-- A template that a text can spell. -/
def Template.WellFormed (template : Template) : Prop :=
  Part.AreWellFormed template.parts

namespace Modifier

/-- Decimal digits spell the length that they denote, as far as a length can hold it. -/
theorem ofSuffix?_digits {digits : List Char} (filled : digits ≠ [])
    (decimal : ∀ c ∈ digits, c.isDigit) :
    ofSuffix? digits = some (.take (.ofNat (min (Ascii.decimalValue digits) maxLength))) := by
  -- The suffix is neither empty nor the sign of explosion.
  have all : digits.all Char.isDigit = true := List.all_eq_true.mpr decimal
  rw [ofSuffix?, if_neg (by simpa using filled), if_pos all]

/-- The digits of a length spell that length. -/
theorem ofSuffix?_toDigits (length : UInt64) :
    ofSuffix? (Nat.toDigits 10 length.toNat) = some (.take length) := by
  -- A length of 64 bits is not cut, and its digits denote it.
  have bound : min length.toNat maxLength = length.toNat := by
    have small := length.toNat_lt
    unfold maxLength
    omega
  rw [ofSuffix?_digits Nat.toDigits_ne_nil fun _ => Ascii.isDigit_of_mem_toDigits,
    Ascii.decimalValue_toDigits, bound, UInt64.ofNat_toNat]

/-- A text that is neither empty nor a length spells a modifier without effect. -/
theorem ofSuffix?_other {text : List Char} (filled : text ≠ [])
    (noLength : ¬ ∀ c ∈ text, c.isDigit) : ofSuffix? text = some (.other (.ofList text)) := by
  -- Neither of the first two cases applies.
  rw [ofSuffix?, if_neg (by simpa using filled), if_neg (by simpa using noLength)]

/-- The text of a modifier without effect is the text that spells it. -/
theorem eq_of_ofSuffix?_other {text : List Char} {other : String}
    (spelled : ofSuffix? text = some (.other other)) :
    other.toList = text ∧ text ≠ [] ∧ ¬ ∀ c ∈ text, c.isDigit := by
  -- Only the last of the three cases keeps the text.
  unfold ofSuffix? at spelled
  split at spelled
  · simp at spelled
  · rename_i filled
    split at spelled
    · simp at spelled
    · rename_i noLength
      cases spelled
      exact ⟨String.toList_ofList, by simpa using filled, by simpa using noLength⟩

end Modifier

namespace Slot

/-- A word that ends in a star spells its name, whatever that holds. -/
theorem read_append_star (name : List Char) :
    Slot.read (name ++ ['*']) = ⟨.ofList name, some .explode⟩ := by
  -- The last character is looked at before any colon.
  simp [Slot.read]

/-- A word with a colon and no star at its end spells what stands before the colon and the modifier
behind it. -/
theorem read_append_colon {name suffix : List Char} (behind : List Char) {rest : List (List Char)}
    (absent : ':' ∉ name) (unstarred : behind.getLast? ≠ some '*')
    (split : fields ':' behind = suffix :: rest) :
    Slot.read (name ++ ':' :: behind) = ⟨.ofList name, Modifier.ofSuffix? suffix⟩ := by
  -- The last character is the colon itself when nothing follows it.
  have last : (name ++ ':' :: behind).getLast? ≠ some '*' := by
    rw [List.getLast?_append, List.getLast?_cons]
    cases ends : behind.getLast? with
    | none => simp
    | some c => simpa [ends] using unstarred
  rw [Slot.read, if_neg last, fields_append_separator _ absent, split]

/-- A slot reads back from its word. -/
theorem read_write {slot : Slot} (wellFormed : slot.WellFormed) : Slot.read slot.write = slot := by
  obtain ⟨name, modifier⟩ := slot
  obtain ⟨-, colon, other⟩ := wellFormed
  -- The written form ends in a colon, a star or a digit, by the modifier.
  cases modifier with
  | none =>
    have read := read_append_colon [] (colon (by simp)) (by simp) rfl
    simpa [Slot.write, Modifier.ofSuffix?] using read
  | some modifier =>
    cases modifier with
    | explode =>
      have read := read_append_star name.toList
      simpa [Slot.write] using read
    | take length =>
      -- Digits are neither a further colon nor a star.
      have single : ':' ∉ Nat.toDigits 10 length.toNat :=
        Ascii.not_mem_toDigits (by decide) length.toNat
      have unstarred : (Nat.toDigits 10 length.toNat).getLast? ≠ some '*' := by
        intro ends
        exact Ascii.not_mem_toDigits (by decide) length.toNat (List.mem_of_getLast? ends)
      have read := read_append_colon _ (colon (by simp)) unstarred (fields_of_not_mem single)
      simpa [Slot.write, Modifier.ofSuffix?_toDigits] using read
    | other text =>
      -- The second colon keeps a final star of the text from ending the word.
      obtain ⟨filled, -, -, single, noLength⟩ := other text rfl
      have read := read_append_colon (text.toList ++ [':']) (colon (by simp)) (by simp)
        (fields_append_separator [] single)
      simpa [Slot.write, Modifier.ofSuffix?_other filled noLength] using read

/-- A written slot has neither of the characters that would end it in an expression. -/
theorem not_mem_write {slot : Slot} (wellFormed : slot.WellFormed) :
    ',' ∉ slot.write ∧ '}' ∉ slot.write := by
  obtain ⟨name, modifier⟩ := slot
  obtain ⟨⟨comma, brace⟩, -, other⟩ := wellFormed
  -- Beside the name there are digits, the text of the modifier, colons and a star.
  cases modifier with
  | none => simpa [Slot.write] using ⟨comma, brace⟩
  | some modifier =>
    cases modifier with
    | explode => simpa [Slot.write] using ⟨comma, brace⟩
    | take length =>
      -- Digits are neither of the two.
      have noComma : ',' ∉ Nat.toDigits 10 length.toNat :=
        Ascii.not_mem_toDigits (by decide) length.toNat
      have noBrace : '}' ∉ Nat.toDigits 10 length.toNat :=
        Ascii.not_mem_toDigits (by decide) length.toNat
      simpa [Slot.write, noComma, noBrace] using ⟨comma, brace⟩
    | other text =>
      obtain ⟨-, noComma, noBrace, -, -⟩ := other text rfl
      simpa [Slot.write, noComma, noBrace] using ⟨comma, brace⟩

/-- A written slot starts with its name, or else with a colon or a star. -/
theorem head?_write (slot : Slot) :
    ∃ c, slot.write.head? = some c ∧ (slot.name.toList.head? = some c ∨ c = ':' ∨ c = '*') := by
  obtain ⟨name, modifier⟩ := slot
  -- Only an empty name lets the mark behind it come first.
  cases letters : name.toList with
  | nil =>
    cases modifier with
    | none => exact ⟨':', by simp [Slot.write, letters]⟩
    | some modifier => cases modifier <;> simp [Slot.write, letters]
  | cons c rest =>
    refine ⟨c, ?_, by simp⟩
    cases modifier with
    | none => simp [Slot.write, letters]
    | some modifier => cases modifier <;> simp [Slot.write, letters]

/-- Every word between the commas and braces of a text spells a well-formed slot. -/
theorem wellFormed_read {word : List Char} (comma : ',' ∉ word) (brace : '}' ∉ word) :
    (Slot.read word).WellFormed := by
  -- The cases are those of the reading, by a final star and by colons.
  unfold Slot.read
  split
  · -- Without its final star the word is the name.
    have inner : ∀ c, c ∉ word → c ∉ word.dropLast := fun c absent member =>
      absent (List.dropLast_subset word member)
    exact ⟨by simpa using ⟨inner _ comma, inner _ brace⟩, by simp, by simp⟩
  · split
    · -- Name and modifier are pieces between colons.
      rename_i name suffix rest pieces
      have nameMember : name ∈ fields ':' word := by simp [pieces]
      have suffixMember : suffix ∈ fields ':' word := by simp [pieces]
      have nameInner : ∀ c, c ∉ word → c ∉ name := fun c absent member =>
        absent (mem_of_mem_fields nameMember member)
      have suffixInner : ∀ c, c ∉ word → c ∉ suffix := fun c absent member =>
        absent (mem_of_mem_fields suffixMember member)
      refine ⟨by simpa using ⟨nameInner _ comma, nameInner _ brace⟩, ?_, ?_⟩
      · intro _
        simpa using not_mem_of_mem_fields nameMember
      · intro text spelled
        obtain ⟨same, filled, noLength⟩ := Modifier.eq_of_ofSuffix?_other spelled
        rw [same]
        exact ⟨filled, suffixInner _ comma, suffixInner _ brace,
          not_mem_of_mem_fields suffixMember, noLength⟩
    · -- Without a colon the word is a single piece.
      rename_i several
      have single : ':' ∉ word := by
        cases pieces : fields ':' word with
        | nil => exact absurd pieces (fields_ne_nil ':' word)
        | cons name more =>
          cases more with
          | nil =>
            have whole := joinFields_fields ':' word
            rw [pieces, joinFields_singleton] at whole
            have member : name ∈ fields ':' word := by simp [pieces]
            exact whole ▸ not_mem_of_mem_fields member
          | cons suffix rest => exact absurd pieces (several name suffix rest)
      exact ⟨by simpa using ⟨comma, brace⟩, by simpa using single, by simp⟩

/-- The name of a slot stands at the front of the word that spells it. -/
theorem isPrefix_name_read (word : List Char) : (Slot.read word).name.toList <+: word := by
  -- What is dropped from the word stands behind the name.
  unfold Slot.read
  split
  · simpa using List.dropLast_prefix word
  · split
    · rename_i name suffix rest pieces
      simpa using isPrefix_of_fields pieces
    · simp

end Slot

namespace Expression

/-- An expression reads back from what is written between its braces. -/
theorem read_write {expression : Expression} (wellFormed : expression.WellFormed) :
    Expression.read expression.write = expression := by
  obtain ⟨operator, slots⟩ := expression
  obtain ⟨filled, valid, simple⟩ := wellFormed
  -- The words come back from between the commas, and each spells its slot.
  have words : fields ',' (joinFields ',' (slots.map Slot.write)) = slots.map Slot.write := by
    refine fields_joinFields (by simpa using filled) ?_
    intro word member
    obtain ⟨slot, inside, rfl⟩ := List.mem_map.mp member
    exact (Slot.not_mem_write (valid slot inside)).1
  have spelled : (slots.map Slot.write).map Slot.read = slots := by
    rw [List.map_map]
    conv => rhs; rw [← List.map_id slots]
    exact List.map_congr_left fun slot inside => Slot.read_write (valid slot inside)
  unfold Expression.write
  cases selected : operator.toChar? with
  | some c =>
    have chosen : Operator.ofChar? c = some operator := Operator.ofChar?_eq_some_iff.mpr selected
    rw [Option.toList_some, List.singleton_append, Expression.read, chosen]
    simp only [words, spelled]
  | none =>
    have plain : operator = .simple := Operator.toChar?_eq_none_iff.mp selected
    -- The first word starts with its name, or with a mark that selects no operator either.
    obtain ⟨first, more, rfl⟩ := List.exists_cons_of_ne_nil filled
    obtain ⟨c, starts, origin⟩ := first.head?_write
    have other : Operator.ofChar? c = none := by
      refine Operator.ofChar?_eq_none_iff.mpr ?_
      rcases origin with named | colon | star
      · exact simple plain first rfl c named
      · simp [colon]
      · simp [star]
    obtain ⟨rest, word⟩ := List.head?_eq_some_iff.mp starts
    have body : ∃ behind, joinFields ',' ((first :: more).map Slot.write) = c :: behind := by
      cases more with
      | nil => exact ⟨rest, by simp [word]⟩
      | cons next others =>
        refine ⟨rest ++ ',' :: joinFields ',' ((next :: others).map Slot.write), ?_⟩
        rw [List.map_cons, List.map_cons, joinFields_cons_cons, word]
        rfl
    obtain ⟨behind, body⟩ := body
    rw [Option.toList_none, List.nil_append, body, Expression.read, other, ← body]
    simp only [words, spelled, plain]

/-- What is written between braces does not close them, and is not empty. -/
theorem write_fits {expression : Expression} (wellFormed : expression.WellFormed) :
    expression.write ≠ [] ∧ '}' ∉ expression.write := by
  obtain ⟨operator, slots⟩ := expression
  obtain ⟨filled, valid, -⟩ := wellFormed
  constructor
  · -- Even a nameless slot is written as a mark.
    obtain ⟨first, more, rfl⟩ := List.exists_cons_of_ne_nil filled
    obtain ⟨c, starts, -⟩ := first.head?_write
    have inside : c ∈ joinFields ',' ((first :: more).map Slot.write) :=
      mem_joinFields_of_mem (by simp) (List.mem_of_head? starts)
    intro empty
    have written : c ∈ Expression.write ⟨operator, first :: more⟩ :=
      List.mem_append.mpr (.inr inside)
    simp [empty] at written
  · -- A brace would be the operator or a comma, or stand in a slot.
    intro member
    rcases List.mem_append.mp member with selected | inside
    · cases operator <;> simp [Operator.toChar?] at selected
    · rcases mem_joinFields inside with comma | ⟨word, spelled, brace⟩
      · exact absurd comma (by decide)
      · obtain ⟨slot, filling, rfl⟩ := List.mem_map.mp spelled
        exact (Slot.not_mem_write (valid slot filling)).2 brace

/-- The words of a text without closing braces spell well-formed slots. -/
theorem wellFormed_words {text : List Char} (brace : '}' ∉ text) :
    (fields ',' text).map Slot.read ≠ [] ∧
      ∀ slot ∈ (fields ',' text).map Slot.read, slot.WellFormed := by
  -- A word between commas has none, and no brace that the text does not have.
  constructor
  · simpa using fields_ne_nil ',' text
  · intro slot member
    obtain ⟨word, spelled, rfl⟩ := List.mem_map.mp member
    exact Slot.wellFormed_read (not_mem_of_mem_fields spelled) fun inside =>
      brace (mem_of_mem_fields spelled inside)

/-- Every text that could stand between two braces spells a well-formed expression. -/
theorem wellFormed_read {body : List Char} (brace : '}' ∉ body) :
    (Expression.read body).WellFormed := by
  unfold Expression.read
  split
  · have blank : (Slot.read []).WellFormed := Slot.wellFormed_read (by simp) (by simp)
    exact ⟨by simp, by simpa using blank, by simp [Slot.read, fields]⟩
  · rename_i c rest
    split
    · -- The operator's character is gone, and there is an operator.
      rename_i operator selected
      have inner : '}' ∉ rest := fun member => brace (List.mem_cons_of_mem _ member)
      obtain ⟨filled, valid⟩ := wellFormed_words inner
      refine ⟨filled, valid, ?_⟩
      intro plain
      have written := Operator.ofChar?_eq_some_iff.mp selected
      simp [show operator = .simple from plain, Operator.toChar?] at written
    · -- The first name starts with the first character of the body, if it has any.
      rename_i unselected
      obtain ⟨filled, valid⟩ := wellFormed_words brace
      refine ⟨filled, valid, ?_⟩
      intro _ first starts d begins
      cases pieces : fields ',' (c :: rest) with
      | nil => exact absurd pieces (fields_ne_nil ',' (c :: rest))
      | cons word more =>
        have same : Slot.read word = first := by simpa [pieces] using starts
        have front := (Slot.isPrefix_name_read word).trans (isPrefix_of_fields pieces)
        obtain ⟨letters, name⟩ := List.head?_eq_some_iff.mp begins
        rw [same, name] at front
        have same : d = c := (List.cons_prefix_cons.mp front).1
        exact Operator.ofChar?_eq_none_iff.mp (same ▸ unselected)

end Expression

/-- The segment that a part is written as. -/
def Part.toSegment : Part → Segment
  | literal text => .literal text.toList
  | expression e => .span e.write

namespace Part

/-- Segments keep apart what is a literal and what is not. -/
theorem isLiteral_toSegment (part : Part) :
    part.toSegment.isLiteral = !part.expression?.isSome := by
  -- The two kinds of parts are those of segments.
  cases part <;> rfl

/-- The written form of well-formed parts is cut into just these parts. -/
theorem AreWellFormed.isCutting {parts : List Part} (wellFormed : AreWellFormed parts) :
    Segment.IsCutting (parts.flatMap Part.write) (parts.map Part.toSegment) := by
  -- Every part is cut off the front of what is written.
  induction wellFormed with
  | nil => exact .nil
  | expression valid rest ih =>
    obtain ⟨filled, unclosed⟩ := Expression.write_fits valid
    exact .span filled unclosed ih (by simp [Part.write])
  | @literal text more filled alone braces rest ih =>
    refine .literal filled ?_ ?_ ih (by simp [Part.write])
    · intro next follows
      rw [List.head?_map] at follows
      obtain ⟨part, first, rfl⟩ := Option.map_eq_some_iff.mp follows
      simp [isLiteral_toSegment, alone part first]
    · intro before behind same
      rcases braces before behind same with closed | ⟨last, never⟩
      · exact .inl closed
      · exact .inr (by simpa [last] using never)

/-- Well-formed parts come back from their segments. -/
theorem AreWellFormed.toPart_toSegment {parts : List Part} (wellFormed : AreWellFormed parts) :
    (parts.map Part.toSegment).map Segment.toPart = parts := by
  -- A literal is kept as it is, and an expression reads back from its body.
  induction wellFormed with
  | nil => rfl
  | expression valid rest ih =>
    rw [List.map_cons, List.map_cons, ih]
    simp [Part.toSegment, Segment.toPart, Expression.read_write valid]
  | literal filled alone braces rest ih =>
    rw [List.map_cons, List.map_cons, ih]
    simp [Part.toSegment, Segment.toPart]

end Part

/-- The segments of a cutting spell well-formed parts. -/
theorem Segment.IsCutting.areWellFormed {text : List Char} {segments : List Segment}
    (cutting : IsCutting text segments) : Part.AreWellFormed (segments.map Segment.toPart) := by
  -- Every segment spells one part, under the conditions that its own place gives it.
  induction cutting with
  | nil => exact .nil
  | span filled unclosed rest whole ih => exact .expression (Expression.wellFormed_read unclosed) ih
  | @literal text inside after more filled alone braces rest whole ih =>
    refine .literal (by simpa using filled) ?_ ?_ ih
    · intro next follows
      rw [List.head?_map] at follows
      obtain ⟨segment, first, rfl⟩ := Option.map_eq_some_iff.mp follows
      have other := alone segment first
      cases segment with
      | literal inner => simp [isLiteral] at other
      | span body => rfl
    · intro before behind same
      rcases braces before behind (by simpa using same) with closed | never
      · exact .inl closed
      · -- A span would close the brace, so the literal is the last segment.
        have last : more = [] := by
          cases rest with
          | nil => rfl
          | span _ _ _ inner => simp [inner] at never
          | literal _ _ _ _ _ => simpa [isLiteral] using alone _ rfl
        refine .inr ⟨by simp [last], ?_⟩
        exact fun member => never (List.mem_append_left _ member)

namespace Template

/-- A well-formed template reads back from its written form. -/
theorem read_write {template : Template} (wellFormed : template.WellFormed) :
    Template.read template.write = template := by
  -- The written parts are the only cutting of what is written.
  have cutting := Part.AreWellFormed.isCutting wellFormed
  have parts := Part.AreWellFormed.toPart_toSegment wellFormed
  rw [cutting.eq_cut] at parts
  simp [Template.read, Template.write, parts]

/-- Every text spells a well-formed template, and every well-formed template is spelled by its
written form, so that both expand alike under all bindings. -/
theorem wellFormed_read_and_read_write :
    (∀ text : String, (Template.read text).WellFormed) ∧
      ∀ template : Template, template.WellFormed →
        Template.read template.write = template ∧
          ∀ bindings, Locator.expand template.write bindings = template.expand bindings := by
  -- A template that was read is cut from its text, and a well-formed one is read back.
  constructor
  · intro text
    exact (Segment.isCutting_cut text.toList).areWellFormed
  · intro template wellFormed
    have same := read_write wellFormed
    refine ⟨same, ?_⟩
    intro bindings
    rw [Locator.expand, same]

/-- A literal with a pair of braces, an expression with every kind of modifier, and a brace that
nothing closes come back. -/
theorem read_write_of_every_modifier :
    Template.read "/\x7b\x7d\x7b?a:b*,n:3,é*:,:x:\x7d\x7b" =
      ⟨[.literal "/\x7b\x7d",
        .expression ⟨.query, [⟨"a:b", some .explode⟩, ⟨"n", some (.take 3)⟩, ⟨"é*", none⟩,
          ⟨"", some (.other "x")⟩]⟩,
        .literal "\x7b"]⟩ := by
  have expression : Expression.WellFormed ⟨.query, [⟨"a:b", some .explode⟩, ⟨"n", some (.take 3)⟩,
      ⟨"é*", none⟩, ⟨"", some (.other "x")⟩]⟩ := by
    refine ⟨by simp, ?_, by simp⟩
    intro slot member
    simp only [List.mem_cons, List.not_mem_nil, or_false] at member
    rcases member with rfl | rfl | rfl | rfl
    all_goals exact ⟨by decide, by decide, by simp⟩
  -- The first literal closes its brace at once, and the last one never does.
  have tail : Part.AreWellFormed [.literal "\x7b"] := by
    refine .literal (by simp) (by simp) ?_ .nil
    intro before behind same
    have parts : before = [] ∧ behind = [] := by simpa [List.cons_eq_append_iff] using same
    simp [parts]
  have whole {middle : Expression} (valid : middle.WellFormed) :
      Part.AreWellFormed [.literal "/\x7b\x7d", .expression middle, .literal "\x7b"] := by
    refine .literal (by simp) (by simp [Part.expression?]) ?_ (.expression valid tail)
    intro before behind same
    obtain ⟨rest, -, -, closed⟩ : ∃ rest, before = '/' :: rest ∧ rest = [] ∧ behind = ['\x7d'] := by
      simpa [List.cons_eq_append_iff] using same
    simp [closed]
  exact (wellFormed_read_and_read_write.2 ⟨_⟩ (whole expression)).1

end Template

end Locator
