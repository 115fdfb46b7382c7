import Locator.Proofs.Json.Layout
import Locator.Proofs.Yaml.Place
import Locator.Yaml.Scalar.Plain
import Locator.Yaml.Scalar.Quoted

/-! Scalars that JSON and YAML read alike: strings without surrogate pairs and line ends, and plain
words in front of a comma or a closing bracket. -/

namespace Locator

namespace JsonToken

/-- The spellings of a text inside a string in which no character takes two codes, ends a line or is
unknown to YAML. -/
inductive SpellsTextAlike : List Char → List Char → Prop where
  /-- Nothing spells no characters. -/
  | nil : SpellsTextAlike [] []
  /-- A spelling for each character; one with two codes would be longer than six characters. -/
  | cons {c : Char} {spelling text body : List Char} (first : SpellsChar c spelling)
    (single : spelling.length ≤ 6) (inline : spelling.all Place.isInline)
    (rest : SpellsTextAlike text body) : SpellsTextAlike (c :: text) (spelling ++ body)

/-- What is spelled alike is spelled. -/
theorem SpellsTextAlike.spellsText {text body : List Char} (spells : SpellsTextAlike text body) :
    SpellsText text body := by
  -- By induction on the spelling; that it is read alike is forgotten.
  induction spells with
  | nil => exact .nil
  | cons first single inline rest ih => exact .cons first ih

/-- What is spelled alike stays in its line. -/
theorem SpellsTextAlike.inline {text body : List Char} (spells : SpellsTextAlike text body) :
    body.all Place.isInline := by
  -- By induction on the spelling; that of each character keeps to the line.
  induction spells with
  | nil => rfl
  | cons first single inline rest ih => rw [List.all_append, inline, ih, Bool.and_self]

/-- A text in one line without controls, quotes and backslashes spells itself. -/
theorem spellsTextAlike_self {text : List Char}
    (plain : text.all fun c => 0x20 ≤ c.toNat && c != '"' && c != '\\' && Place.isInline c) :
    SpellsTextAlike text text := by
  -- By induction on the text; a character without an escape spells itself.
  induction text with
  | nil => exact .nil
  | cons c text ih =>
    simp only [List.all_cons, Bool.and_eq_true, decide_eq_true_eq, bne_iff_ne] at plain
    obtain ⟨⟨⟨⟨visible, unquoted⟩, unescaped⟩, inline⟩, others⟩ := plain
    exact @SpellsTextAlike.cons c [c] text text (.plain visible unquoted unescaped) (by simp)
      (by simp [inline]) (ih (by simpa using others))

end JsonToken

namespace Place

/-- A document marker opens with a hyphen or a full stop. -/
theorem marker?_of_char {place : Place} (noHyphen : place.char ≠ '-') (noStop : place.char ≠ '.')
    (rest : List Place) : marker? (place :: rest) = none := by
  unfold marker?
  split
  · rename_i same
    -- The first of the three characters decides.
    cases same
    exact if_neg fun marked => marked.2.1.elim noHyphen noStop
  · rfl

/-- No document marker stands behind the start of a line. -/
theorem marker?_of_column {place : Place} (inside : place.column ≠ 0) (rest : List Place) :
    marker? (place :: rest) = none := by
  unfold marker?
  split
  · rename_i same
    -- Only the first column can hold a marker.
    cases same
    exact if_neg fun marked => inside marked.1
  · rfl

end Place

namespace QuotedScalar

open JsonToken (SpellsTextAlike SpellsChar)

variable {place : Place} {rest : List Place} {gap : Gap}

/-- A space is kept until the next character shows that its line goes on. -/
theorem readDouble?_space {blanks : List Char} (space : place.char = ' ') :
    readDouble? (.blanks blanks) (place :: rest) =
      readDouble? (.blanks (blanks ++ [' '])) rest := by
  have gap : place.isGap = true := by
    simp [Place.isGap, Place.isBlank, space]
  have line : place.isBreak = false := by
    simp [Place.isBreak, space]
  -- Blanks are collected, and the line goes on.
  rw [readDouble?, if_pos gap, Gap.add, line, if_neg Bool.false_ne_true, space]

/-- A character that means nothing here stands for itself. -/
theorem readDouble?_plain (visible : place.isGap = false) (inside : place.column ≠ 0)
    (unquoted : place.char ≠ '"') (unescaped : place.char ≠ '\\') :
    readDouble? gap (place :: rest) =
      (readDouble? .empty rest).map fun (more, past) => (gap.text ++ place.char :: more, past) := by
  -- Neither a gap nor a marker, nor a quote, nor a backslash: the last branch is left.
  rw [readDouble?, visible, if_neg Bool.false_ne_true, Place.marker?_of_column inside,
    if_neg (by simp), if_neg unquoted, if_pos unescaped]

/-- A closing quote ends the text. -/
theorem readDouble?_quote (inside : place.column ≠ 0) (quote : place.char = '"') :
    readDouble? gap (place :: rest) = some (gap.text, rest) := by
  -- The quote is no gap, and away from the first column no document mark is looked for.
  have visible : place.isGap = false := by
    simp [Place.isGap, Place.isBlank, Place.isBreak, quote]
  rw [readDouble?, visible, if_neg Bool.false_ne_true, Place.marker?_of_column inside,
    if_neg (by simp), if_pos quote]

/-- An escape stands for its character. -/
theorem readDouble?_escape {c : Char} {after : List Place} (inside : place.column ≠ 0)
    (backslash : place.char = '\\') (unbroken : rest.head?.any (·.isBreak) = false)
    (escaped : escape? rest = some (c, after)) :
    readDouble? gap (place :: rest) =
      (readDouble? .empty after).map fun (more, past) => (gap.text ++ c :: more, past) := by
  have visible : place.isGap = false := by
    simp [Place.isGap, Place.isBlank, Place.isBreak, backslash]
  -- Behind the backslash the line goes on, so that an escape is read.
  rw [readDouble?, visible, if_neg Bool.false_ne_true, Place.marker?_of_column inside,
    if_neg (by simp), if_neg (by simp [backslash]), if_neg (by simp [backslash]), unbroken,
    if_neg Bool.false_ne_true]
  split
  · rename_i none
    rw [escaped] at none
    cases none
  · rename_i same
    rw [escaped] at same
    cases same
    rfl

/-- Escapes by a letter are the same in both notations. -/
theorem simpleEscape?_of_json {c letter : Char}
    (known : JsonToken.simpleEscape? letter = some c) : simpleEscape? letter = some c := by
  -- The escapes of the one language are among those of the other.
  unfold JsonToken.simpleEscape? at known
  split at known <;> first | exact known | cases known

/-- Escapes by a code of four digits are the same in both notations. -/
theorem codeChar?_of_json {c d₁ d₂ d₃ d₄ : Char}
    (digits : JsonToken.hexQuad? d₁ d₂ d₃ d₄ = some c.toNat) :
    codeChar? [d₁, d₂, d₃, d₄] = some c := by
  unfold JsonToken.hexQuad? at digits
  split at digits
  · rename_i all
    -- The same four digits denote the same number, and it is the code of a character.
    have value := Option.some.inj digits
    rw [codeChar?, value, if_pos ⟨all, c.valid⟩, Char.ofNat_toNat]
  · cases digits

/-- A spelled character is read in front of whatever text is read behind it. -/
theorem readDouble?_spelled {c : Char} {spelling rest text : List Char} {past : List Place}
    (spelled : SpellsChar c spelling) (single : spelling.length ≤ 6)
    (inline : spelling.all Place.isInline) {index line column : Nat} (inside : column ≠ 0)
    (behind : ∀ blanks, readDouble? (.blanks blanks) (Place.listFrom (index + byteCount spelling)
      line (column + spelling.length) rest) = some (blanks ++ text, past)) (blanks : List Char) :
    readDouble? (.blanks blanks) (Place.listFrom index line column (spelling ++ rest)) =
      some (blanks ++ c :: text, past) := by
  rw [Place.listFrom_append inline]
  generalize Place.listFrom (index + byteCount spelling) line (column + spelling.length) rest =
    places at behind
  cases spelled with
  | plain visible unquoted unescaped =>
    simp only [List.all_cons, Bool.and_eq_true] at inline
    rw [Place.listFrom_cons inline.1]
    -- A space waits for what follows; every other character comes with the blanks before it.
    by_cases space : c = ' '
    · have next := behind (blanks ++ [' '])
      rw [List.append_assoc] at next
      rw [List.cons_append, readDouble?_space space, space]
      exact next
    · have noTab : c ≠ '\t' := by
        rintro rfl
        exact absurd visible (by decide)
      have noGap := Place.isGap_mk inline.1 space noTab index line column
      rw [List.cons_append, readDouble?_plain noGap inside unquoted unescaped]
      change (readDouble? (.blanks []) places).map _ = _
      rw [behind []]
      rfl
  | simple known =>
    rename_i letter
    simp only [List.all_cons, Bool.and_eq_true] at inline
    -- The letter is known, and it is followed by the rest of the line.
    have escaped : escape? (⟨letter, index + '\\'.utf8Size, line, column + 1⟩ :: places) =
        some (c, places) := by
      simp [escape?, simpleEscape?_of_json known]
    rw [Place.listFrom_cons inline.1, Place.listFrom_cons inline.2.1, Place.listFrom.eq_1,
      List.cons_append, List.cons_append, List.nil_append, readDouble?_escape inside rfl _ escaped]
    · change (readDouble? (.blanks []) places).map _ = _
      rw [behind []]
      rfl
    · simp [Place.isBreak_mk inline.2.1]
  | code digits =>
    simp only [List.all_cons, Bool.and_eq_true] at inline
    simp only [Place.listFrom_cons, inline, Place.listFrom.eq_1, List.cons_append, List.nil_append]
    rw [readDouble?_escape (c := c) inside rfl]
    · change (readDouble? (.blanks []) places).map _ = _
      rw [behind []]
      rfl
    · rfl
    · -- The letter of codes is no escape by itself, so that the digits behind it are read.
      have letter : simpleEscape? 'u' = none := rfl
      simp [escape?, letter, codeLength?, codeChar?_of_json digits]
  -- Two codes are longer than any other spelling.
  | pair => exact absurd single (by simp)

/-- A spelled text is read up to its closing quote, behind which its line goes on. -/
theorem readDouble?_text {text body rest : List Char} (spells : SpellsTextAlike text body)
    {index line column : Nat} (inside : column ≠ 0) (blanks : List Char) :
    readDouble? (.blanks blanks) (Place.listFrom index line column (body ++ '"' :: rest)) =
      some (blanks ++ text, Place.listFrom (index + byteCount body + 1) line
        (column + body.length + 1) rest) := by
  -- The induction is on the characters, for every gap and place in front of them.
  induction spells generalizing index column blanks with
  | nil =>
    rw [List.nil_append, Place.listFrom_cons (by decide), readDouble?_quote inside rfl]
    simp only [Gap.text, List.append_nil]
    rfl
  | @cons c spelling text body first single inline others ih =>
    rw [List.append_assoc]
    apply readDouble?_spelled first single inline inside
    intro gap
    rw [ih (by omega) gap]
    simp only [byteCount_append, List.length_append, Nat.add_assoc]

end QuotedScalar

namespace PlainScalar

/-- The characters of the words and the numbers of JSON. -/
def isWord (c : Char) : Bool :=
  c.isAlphanum || c = '-' || c = '+' || c = '.'

/-- A word is written in visible ASCII. -/
theorem toNat_of_isWord {c : Char} (word : isWord c) : 0x20 ≤ c.toNat ∧ c.toNat ≤ 0x7E := by
  unfold isWord Char.isAlphanum Char.isAlpha Char.isUpper Char.isLower Char.isDigit at word
  simp only [Bool.or_eq_true, Bool.and_eq_true, decide_eq_true_eq, ge_iff_le,
    UInt32.le_iff_toNat_le] at word
  have reads : c.toNat = c.val.toNat := rfl
  -- Letters and digits stand in three ranges of ASCII, and the three signs are single.
  obtain (((((capital | small) | digit) | rfl) | rfl) | rfl) := word
  · have low := capital.1
    have high := capital.2
    simp at low high
    omega
  · have low := small.1
    have high := small.2
    simp at low high
    omega
  · have low := digit.1
    have high := digit.2
    simp at low high
    omega
  -- The hyphen, the plus sign and the point are told by their codes.
  all_goals decide

/-- What is part of a word ends no line. -/
theorem isInline_of_isWord {c : Char} (word : isWord c) : Place.isInline c := by
  -- Word characters are visible ASCII, and no line end is one.
  obtain ⟨low, high⟩ := toNat_of_isWord word
  have allowed : Place.isAllowed c := by
    simp [Place.isAllowed, low, high]
  have differs : ∀ other, isWord other = false → c ≠ other := fun _ => ne_of_class word
  simp [Place.isInline, allowed, differs '\n' rfl, differs '\r' rfl, differs '\u0085' rfl,
    differs '\u2028' rfl, differs '\u2029' rfl]

/-- A word is read whole, in front of whatever is read behind it. -/
theorem read?_word {word : List Char} (all : word.all isWord) (index line column : Nat)
    (rest : List Place) :
    read? true 0 .empty (Place.listFrom index line column word ++ rest) =
      (read? true 0 .empty rest).map fun (more, broken, after) =>
        (word ++ more, broken, after) := by
  induction word generalizing index column with
  | nil =>
    -- An empty word adds nothing to what is read behind it.
    simp [Place.listFrom]
  | cons c word ih =>
    rw [List.all_cons, Bool.and_eq_true] at all
    have differs : ∀ other, isWord other = false → c ≠ other := fun _ => ne_of_class all.1
    have inline := isInline_of_isWord all.1
    have noGap := Place.isGap_mk inline (differs ' ' rfl) (differs '\t' rfl) index line column
    have noColon : c ≠ ':' := differs ':' rfl
    have noFlow : isFlowIndicator c = false := by
      simp [isFlowIndicator, differs ',' rfl, differs '[' rfl, differs ']' rfl,
        differs '\x7b' rfl, differs '\x7d' rfl]
    -- No character of a word ends it: none is a gap, a colon or an indicator of collections.
    rw [Place.listFrom_cons inline, List.cons_append, read?, noGap, if_neg Bool.false_ne_true,
      if_neg (by simp [Gap.isEmpty, Gap.empty]), if_neg (by simp [isGluedColon, noColon]),
      if_neg (by simp [endsAt, noColon, noFlow]), ih all.2, Option.map_map]
    rfl

/-- A word ends behind its last character where blanks and then a comma or a closing bracket
follow. -/
theorem read?_end {blanks : List Place} (gaps : ∀ place ∈ blanks, place.isGap) {place : Place}
    (ends : isFlowIndicator place.char) (rest : List Place) (gap : Gap) :
    ∃ broken, read? true 0 gap (blanks ++ place :: rest) = some ([], broken, place :: rest) := by
  induction blanks generalizing gap with
  | nil =>
    have differs : ∀ other, isFlowIndicator other = false → place.char ≠ other :=
      fun _ => ne_of_class ends
    have noGap : place.isGap = false := by
      simp [Place.isGap, Place.isBlank, Place.isBreak, differs ' ' rfl, differs '\t' rfl,
        differs '\n' rfl, differs '\u2028' rfl, differs '\u2029' rfl]
    have noMarker := Place.marker?_of_char (differs '-' rfl) (differs '.' rfl) rest
    -- The indicator ends the scalar, whatever gap has been collected.
    refine ⟨gap.breaksLine, ?_⟩
    rw [List.nil_append, read?, noGap, if_neg Bool.false_ne_true,
      if_neg (by simp [endsAfterGap, noMarker, differs '#' rfl]),
      if_neg (by simp [isGluedColon, differs ':' rfl]), if_pos (by simp [endsAt, ends])]
  | cons blank blanks ih =>
    obtain ⟨broken, found⟩ := ih (fun place member => gaps place (List.mem_cons_of_mem _ member))
      (gap.add blank)
    refine ⟨broken, ?_⟩
    -- A blank joins the gap.
    rw [List.cons_append, read?, if_pos (gaps blank List.mem_cons_self), if_neg (by simp), found]

/-- A word in front of blanks and a comma or a closing bracket is read to its end. -/
theorem read?_word_end {word : List Char} (all : word.all isWord) (index line column : Nat)
    {blanks : List Place} (gaps : ∀ place ∈ blanks, place.isGap) {place : Place}
    (ends : isFlowIndicator place.char) (rest : List Place) :
    ∃ broken, read? true 0 .empty (Place.listFrom index line column word ++
      (blanks ++ place :: rest)) = some (word, broken, place :: rest) := by
  -- The word is read up to the gap, and the indicator behind the gap ends it.
  obtain ⟨broken, found⟩ := read?_end gaps ends rest .empty
  refine ⟨broken, ?_⟩
  rw [read?_word all, found]
  simp

/-- Whether a word opens with a letter, a digit, or a minus sign in front of a digit. -/
def opensWord : List Char → Prop
  | c :: rest => c.isAlphanum ∨ c = '-' ∧ ∃ digit ∈ rest.head?, digit.isDigit
  | [] => False

/-- A letter or a digit is part of a word. -/
theorem isWord_of_isAlphanum {c : Char} (letter : c.isAlphanum) : isWord c := by
  -- Letters and digits are word characters.
  simp [isWord, letter]

/-- What is part of a word is no indicator, unless it is a hyphen. -/
theorem isIndicator_eq_false {c : Char} (word : isWord c) (noHyphen : c ≠ '-') :
    isIndicator c = false := by
  refine Bool.eq_false_iff.mpr fun indicator => ?_
  -- The indicators are those of collections and a list of others.
  have cases : isFlowIndicator c ∨ c ∈ "?:#&*!|>'\"%@`".toList := by
    simpa [isIndicator, noHyphen] using indicator
  rcases cases with flow | other
  · simp only [isFlowIndicator, Bool.or_eq_true, decide_eq_true_eq] at flow
    obtain (((rfl | rfl) | rfl) | rfl) | rfl := flow <;> exact absurd word (by decide)
  · have no : ∀ other ∈ "?:#&*!|>'\"%@`".toList, isWord other = false :=
      forall_mem_of_all (by decide)
    exact absurd word (by simp [no c other])

/-- A word starts a plain scalar, and it is no document marker. -/
theorem starts_of_opensWord {c : Char} {word : List Char} (opens : opensWord (c :: word))
    (index line column : Nat) (rest : List Place) {behind : List Place}
    (follows : behind = Place.listFrom (index + c.utf8Size) line (column + 1) word ++ rest) :
    starts true ⟨c, index, line, column⟩ behind ∧
      Place.marker? (⟨c, index, line, column⟩ :: behind) = none := by
  subst follows
  rcases opens with letter | ⟨rfl, digit, first, isDigit⟩
  · -- A letter or a digit is no gap, no indicator and no part of a marker.
    have word := isWord_of_isAlphanum letter
    have differs : ∀ other, Char.isAlphanum other = false → c ≠ other :=
      fun _ => ne_of_class letter
    have noGap := Place.isGap_mk (isInline_of_isWord word) (differs ' ' rfl) (differs '\t' rfl)
      index line column
    refine ⟨?_, Place.marker?_of_char (differs '-' rfl) (differs '.' rfl) _⟩
    simp [starts, noGap, isIndicator_eq_false word (differs '-' rfl)]
  · cases word with
    | nil => cases first
    | cons next word =>
      -- A hyphen starts a scalar if no gap follows it, and a digit is no gap.
      obtain rfl : next = digit := Option.some.inj first
      have letter : next.isAlphanum := by
        simp [Char.isAlphanum, isDigit]
      have differs : ∀ other, Char.isAlphanum other = false → next ≠ other :=
        fun _ => ne_of_class letter
      have inline := isInline_of_isWord (isWord_of_isAlphanum letter)
      rw [Place.listFrom_cons inline]
      constructor
      · have noGap := Place.isGap_mk inline (differs ' ' rfl) (differs '\t' rfl)
        simp [starts, Place.opensGap, noGap]
      · -- A marker has three hyphens, and here the second character is a digit.
        unfold Place.marker?
        split
        · rename_i same
          simp only [List.cons_append, List.cons.injEq] at same
          obtain ⟨rfl, rfl, -⟩ := same
          exact if_neg fun marked => differs '-' rfl marked.2.2.1
        · rfl

end PlainScalar

namespace JsonToken

open PlainScalar (isWord opensWord)

/-- Whether a text goes on with characters of words up to where another one begins. -/
inductive IsWordUpTo : List Char → List Char → Prop where
  /-- Nothing stands in between. -/
  | done {after : List Char} : IsWordUpTo after after
  /-- One more character. -/
  | cons {c : Char} {text after : List Char} (word : isWord c) (rest : IsWordUpTo text after) :
    IsWordUpTo (c :: text) after

variable {text between after : List Char}

/-- Words one after the other are a word. -/
theorem IsWordUpTo.trans (first : IsWordUpTo text between) (second : IsWordUpTo between after) :
    IsWordUpTo text after := by
  -- By induction on the first stretch.
  induction first with
  | done => exact second
  | cons word _ ih => exact .cons word (ih second)

/-- What goes on with characters of words to its end is a word. -/
theorem IsWordUpTo.all (whole : IsWordUpTo text []) : text.all isWord := by
  -- By induction on the stretch, which leaves nothing.
  generalize same : ([] : List Char) = rest at whole
  induction whole with
  | done => rw [← same, List.all_nil]
  | cons word _ ih => rw [List.all_cons, word, ih same, Bool.and_self]

/-- Digits are a word. -/
theorem isWordUpTo_afterDigits (text : List Char) : IsWordUpTo text (afterDigits text) := by
  induction text with
  | nil => exact .done
  | cons c text ih =>
    unfold afterDigits at ih ⊢
    -- A digit is part of the word, and anything else is where the word may end.
    by_cases digit : c.isDigit
    · rw [List.dropWhile_cons_of_pos digit]
      exact .cons (PlainScalar.isWord_of_isAlphanum (by simp [Char.isAlphanum, digit])) ih
    · rw [List.dropWhile_cons_of_neg digit]
      exact .done

/-- The digits before the point are a word. -/
theorem isWordUpTo_of_readWhole {whole : Nat} (found : readWhole text = some (whole, after)) :
    IsWordUpTo text after := by
  -- Where there is a number at all, the digits in front are passed over.
  unfold readWhole at found
  split at found
  · cases found
  · cases found
    exact isWordUpTo_afterDigits text
  · cases found
  · cases found
    exact isWordUpTo_afterDigits text

/-- The point and the digits behind it are a word. -/
theorem isWordUpTo_of_readFraction {fraction : List (Fin 10)}
    (found : readFraction text = some (fraction, after)) : IsWordUpTo text after := by
  -- The point is a word character, and behind it there are digits.
  unfold readFraction at found
  split at found
  · split at found
    · cases found
    · cases found
      exact .cons rfl (isWordUpTo_afterDigits _)
  · cases found
    exact .done

/-- The digits of an exponent are a word. -/
theorem isWordUpTo_of_readSigned {negative : Bool} {exponent : Option Int}
    (found : readSigned negative text = some (exponent, after)) : IsWordUpTo text after := by
  -- Only digits are passed over.
  unfold readSigned at found
  split at found
  · cases found
  · cases found
    exact isWordUpTo_afterDigits text

/-- An exponent letter, its sign and the digits behind them are a word. -/
theorem isWordUpTo_of_readExponent {exponent : Option Int}
    (found : readExponent text = some (exponent, after)) : IsWordUpTo text after := by
  unfold readExponent at found
  split at found
  · cases found
    -- Without a text there is no exponent.
    exact .done
  · split at found
    · rename_i letter
      have word : ∀ {c}, c = 'e' ∨ c = 'E' → isWord c := by
        rintro _ (rfl | rfl) <;> rfl
      -- Behind the letter comes a sign or a digit.
      refine .cons (word letter) ?_
      split at found
      · exact .cons rfl (isWordUpTo_of_readSigned found)
      · exact .cons rfl (isWordUpTo_of_readSigned found)
      · exact isWordUpTo_of_readSigned found
    · -- Another character is left where it is.
      cases found
      exact .done

/-- A number is a word that opens as plain scalars may. -/
theorem opensWord_of_readNumber {n : JsonNumber} (found : readNumber text = some (n, [])) :
    opensWord text ∧ text.all isWord := by
  obtain ⟨c, more, rfl, opening⟩ := exists_of_readNumber found
  refine ⟨opening.imp_left fun digit => by simp [Char.isAlphanum, digit], ?_⟩
  simp only [readNumber, Option.bind_eq_bind, Option.bind_eq_some_iff, Option.some.injEq,
    Prod.mk.injEq, Prod.exists] at found
  obtain ⟨whole, afterWhole, first, fraction, afterFraction, second, exponent, _, third, -, rfl⟩ :=
    found
  -- The fraction and the exponent follow the digits to the end of the text.
  have behind := (isWordUpTo_of_readFraction second).trans (isWordUpTo_of_readExponent third)
  -- A sign is one more character of the word.
  by_cases minus : c = '-'
  · rw [if_pos (by simp [minus])] at first
    rw [minus]
    exact (IsWordUpTo.cons rfl ((isWordUpTo_of_readWhole first).trans behind)).all
  · rw [if_neg (by simp [minus])] at first
    exact ((isWordUpTo_of_readWhole first).trans behind).all

end JsonToken

end Locator
