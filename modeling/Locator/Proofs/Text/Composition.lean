import Locator.Proofs.Text.Fields
import Locator.Text.Composition

/-! The composed form of a text around a character of ASCII. Such a character stands for no pair,
joins to nothing in front of it and is no mark, so that the text up to it and the text from it on
are composed each on their own. -/

namespace Locator

namespace Combining

/-- A character of ASCII is no mark. -/
theorem classOf_of_isAscii {c : Char} (ascii : c.toNat < 0x80) : classOf c = 0 := by
  -- The ranges of all marks start beyond ASCII.
  have beyond : ∀ range ∈ classRanges, 0x80 ≤ range.1 := by decide +kernel
  rw [classOf, if_pos (by omega), List.find?_eq_none.mpr]
  · rfl
  · intro range member inside
    have start := beyond range member
    simp only [decide_eq_true_eq] at inside
    omega

end Combining

namespace Composition

/-- A character that stands for a pair lies beyond ASCII, and so does the second one of the pair. No
pair starts with a dot. -/
theorem bounds_of_mem_pairs {whole first second : Nat} (member : (whole, first, second) ∈ pairs) :
    0x80 ≤ whole ∧ 0x80 ≤ second ∧ first ≠ '.'.toNat := by
  -- The table is gone through once, for all that is asked of it.
  have every : ∀ entry ∈ pairs, 0x80 ≤ entry.1 ∧ 0x80 ≤ entry.2.2 ∧ entry.2.1 ≠ '.'.toNat := by
    decide +kernel
  exact every _ member

section Ascii

variable {c : Char} (ascii : c.toNat < 0x80)

include ascii

/-- A character of ASCII stands for itself only. -/
theorem splitFully_of_isAscii (depth : Nat) : splitFully c depth = [c] := by
  have syllable : splitSyllable? c.toNat = none := by
    rw [splitSyllable?, firstSyllable, if_neg (by omega)]
  -- The pairs are searched for one that the character stands for.
  have single : split? c = none := by
    rw [split?, syllable, List.find?_eq_none.mpr]
    · rfl
    · rintro ⟨whole, first, second⟩ member same
      have beyond := (bounds_of_mem_pairs member).1
      simp only [decide_eq_true_eq] at same
      omega
  cases depth with
  | zero => rfl
  | succ depth => rw [splitFully, single]

/-- A character of ASCII does not join to what is in front of it. -/
theorem join?_of_isAscii (first : Char) : join? first c = none := by
  -- Vowels and trailing consonants of the Korean alphabet lie beyond ASCII too.
  have syllable : joinSyllable? first.toNat c.toNat = none := by
    rw [joinSyllable?, firstVowel, beforeTrail, if_neg (by omega), if_neg (by omega)]
  rw [join?, syllable, List.find?_eq_none.mpr]
  · rfl
  · rintro ⟨whole, start, second⟩ member same
    have beyond := (bounds_of_mem_pairs member).2.1
    simp only [decide_eq_true_eq, Prod.mk.injEq] at same
    omega

/-- Nothing is moved over a character of ASCII at once. -/
theorem insert_cons (mark : Char) (before : List Char) :
    insert mark (c :: before) = mark :: c :: before := by
  -- A mark only passes marks of greater classes, and here the class is zero.
  rw [insert, Combining.classOf_of_isAscii ascii, if_neg (by omega)]

/-- No mark is moved over a character of ASCII. -/
theorem insert_append_cons (mark : Char) (near before : List Char) :
    insert mark (near ++ c :: before) = insert mark near ++ c :: before := by
  -- The marks in front are passed in the same way as without the character.
  induction near with
  | nil => exact insert_cons ascii mark before
  | cons last more ih =>
    rw [List.cons_append, insert, insert]
    split
    · rw [ih, List.cons_append]
    · rfl

/-- What is put in order behind a character of ASCII stays behind it. -/
theorem foldl_insert_append_cons (marks near before : List Char) :
    marks.foldl (fun placed mark => insert mark placed) (near ++ c :: before) =
      marks.foldl (fun placed mark => insert mark placed) near ++ c :: before := by
  -- Each mark in turn is put in order in front of the character.
  induction marks generalizing near with
  | nil => rfl
  | cons mark more ih => rw [List.foldl_cons, List.foldl_cons, insert_append_cons ascii, ih]

/-- A text is split and put in order on both sides of a character of ASCII on its own. -/
theorem decompose_append_cons (front rest : List Char) :
    decompose (front ++ c :: rest) = decompose front ++ c :: decompose rest := by
  -- The character is inserted in front of all others, and from there on nothing passes it.
  have placed (before : List Char) : insert c before = c :: before := by
    cases before with
    | nil => rfl
    | cons last more => rw [insert, Combining.classOf_of_isAscii ascii, if_neg (by omega)]
  have behind := foldl_insert_append_cons ascii (rest.flatMap (splitFully · maxDepth)) []
  simp only [List.nil_append] at behind
  -- The pieces in front are kept in reverse while those behind are inserted.
  let kept := (front.flatMap (splitFully · maxDepth)).foldl (fun sorted d => insert d sorted) []
  calc
    decompose (front ++ c :: rest) =
        ((rest.flatMap (splitFully · maxDepth)).foldl (fun sorted d => insert d sorted)
          (c :: kept)).reverse := by
      rw [decompose, List.flatMap_append, List.flatMap_cons, splitFully_of_isAscii ascii,
        List.foldl_append, List.singleton_append, List.foldl_cons, placed]
    _ = decompose front ++ c :: decompose rest := by
      rw [behind]
      simp [decompose, kept]

/-- What is in front of a character of ASCII is joined without regard to it. -/
theorem recompose_append_cons (letter : Char) (passed near rest : List Char) :
    recompose letter passed (near ++ c :: rest) =
      recompose letter passed near ++ recompose c [] rest := by
  -- The induction takes the steps of the text in front; at the character the letter is settled.
  induction near generalizing letter passed with
  | nil =>
    rw [List.nil_append, recompose, recompose, join?_of_isAscii ascii,
      Combining.classOf_of_isAscii ascii]
    simp
  | cons next more ih =>
    rw [List.cons_append, recompose, recompose]
    split
    · exact ih _ _
    · split
      · rw [ih, List.append_assoc]
      · exact ih _ _

/-- The text up to a character of ASCII and the text from it on are composed each on their own. -/
theorem compose_append_cons (front rest : List Char) :
    compose (front ++ c :: rest) = compose front ++ compose (c :: rest) := by
  -- Both sides have been split and put in order, so that only the joining is left. Nothing in front
  -- joins over the character, which is the first one of the text behind.
  have whole : decompose (c :: rest) = c :: decompose rest :=
    decompose_append_cons ascii [] rest
  rw [compose, compose, compose, decompose_append_cons ascii, whole]
  cases decompose front with
  | nil => rfl
  | cons letter more => exact recompose_append_cons ascii letter [] more (decompose rest)

end Ascii

/-- A text within ASCII is its own composed form. -/
theorem compose_of_isAscii {text : List Char} (ascii : ∀ c ∈ text, c.toNat < 0x80) :
    compose text = text := by
  -- Every character is set off from the text behind it.
  induction text with
  | nil => rfl
  | cons c rest ih =>
    have known : c.toNat < 0x80 := ascii c List.mem_cons_self
    have behind := ih fun d member => ascii d (List.mem_cons_of_mem c member)
    have alone : compose [c] = [c] := by
      have single : decompose [c] = [c] := decompose_append_cons known [] []
      rw [compose, single]
      rfl
    cases rest with
    | nil => exact alone
    | cons next more =>
      have later : next.toNat < 0x80 := ascii next (by simp)
      calc
        compose (c :: next :: more) = compose [c] ++ compose (next :: more) :=
          compose_append_cons later [c] more
        _ = c :: next :: more := by rw [alone, behind, List.singleton_append]

/-- A dot at the front stays there. -/
theorem exists_compose_cons_dot (rest : List Char) :
    ∃ composed, compose ('.' :: rest) = '.' :: composed := by
  have dot : '.'.toNat < 0x80 := by decide
  -- Nothing joins to a dot, whatever is passed over.
  have unjoined (second : Char) : join? '.' second = none := by
    have syllable : joinSyllable? '.'.toNat second.toNat = none := by
      rw [joinSyllable?, firstLead, firstSyllable, if_neg (by omega), if_neg (by omega)]
    rw [join?, syllable, List.find?_eq_none.mpr]
    · rfl
    · rintro ⟨whole, start, other⟩ member same
      have away := (bounds_of_mem_pairs member).2.2
      simp only [decide_eq_true_eq, Prod.mk.injEq] at same
      exact away same.1
  -- So the dot stays in front while the characters behind it are gone through.
  have first (passed later : List Char) :
      ∃ composed, recompose '.' passed later = '.' :: composed := by
    induction later generalizing passed with
    | nil => exact ⟨_, rfl⟩
    | cons next more ih =>
      rw [recompose, unjoined, ite_self]
      dsimp only
      split
      · exact ⟨_, rfl⟩
      · exact ih _
  have whole : decompose ('.' :: rest) = '.' :: decompose rest := decompose_append_cons dot [] rest
  rw [compose, whole]
  exact first [] (decompose rest)

/-- Pieces within ASCII stay around whatever the text between them is composed to, when there are
dots between them. -/
theorem exists_compose_joinFields {before after : List (List Char)}
    (ascii : ∀ piece ∈ before ++ after, ∀ c ∈ piece, c.toNat < 0x80) (text : List Char) :
    ∃ composed, compose (joinFields '.' (before ++ [text] ++ after)) =
      joinFields '.' (before ++ [composed] ++ after) := by
  have dot : '.'.toNat < 0x80 := by decide
  have front := fun piece member => ascii piece (List.mem_append_left after member)
  have back := fun piece member => ascii piece (List.mem_append_right before member)
  -- The pieces in front end in a dot, which stays in front of the text.
  obtain ⟨composed, behindFront⟩ : ∃ composed, compose (joinFields '.' (before ++ [text])) =
      joinFields '.' (before ++ [composed]) := by
    by_cases filled : before = []
    · exact ⟨compose text, by simp [filled]⟩
    · obtain ⟨composed, kept⟩ := exists_compose_cons_dot text
      refine ⟨composed, ?_⟩
      calc
        compose (joinFields '.' (before ++ [text])) =
            compose (joinFields '.' before ++ '.' :: text) := by
          rw [joinFields_append filled (by simp), joinFields_singleton]
        _ = compose (joinFields '.' before) ++ compose ('.' :: text) :=
          compose_append_cons dot _ text
        _ = joinFields '.' before ++ '.' :: composed := by
          rw [compose_of_isAscii (forall_mem_joinFields dot front), kept]
        _ = joinFields '.' (before ++ [composed]) := by
          rw [joinFields_append filled (by simp), joinFields_singleton]
  -- The pieces behind start with a dot, and nothing from there on changes.
  refine ⟨composed, ?_⟩
  by_cases filled : after = []
  · simpa [filled] using behindFront
  · have later : ∀ c ∈ '.' :: joinFields '.' after, c.toNat < 0x80 :=
      List.forall_mem_cons.mpr ⟨dot, forall_mem_joinFields dot back⟩
    calc
      compose (joinFields '.' (before ++ [text] ++ after)) =
          compose (joinFields '.' (before ++ [text]) ++ '.' :: joinFields '.' after) := by
        rw [joinFields_append (by simp) filled]
      _ = compose (joinFields '.' (before ++ [text])) ++ compose ('.' :: joinFields '.' after) :=
        compose_append_cons dot _ _
      _ = joinFields '.' (before ++ [composed]) ++ '.' :: joinFields '.' after := by
        rw [behindFront, compose_of_isAscii later]
      _ = joinFields '.' (before ++ [composed] ++ after) := by
        rw [joinFields_append (by simp) filled]

end Composition

end Locator
