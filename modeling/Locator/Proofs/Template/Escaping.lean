import Locator.Proofs.Text.Percent
import Locator.Template.Escaping

/-! Escaped values: every character is written on its own, which characters that leaves, and what
they stand for. -/

namespace Locator

/-- Whether escaping leaves a character as it is. -/
def isSpared (safe : String) (c : Char) : Bool :=
  Ascii.isUnreserved c || safe.toList.contains c

/-- A run without safe characters is encoded as its bytes are. -/
theorem encodeBytes_of_not_safe {safe : String} {gap : List Char}
    (free : ∀ c ∈ gap, c ∉ safe.toList) :
    Percent.encodeBytes (Utf8.encode gap) = Percent.encode (isSpared safe) gap := by
  -- Only the unreserved characters of the run are left as they are.
  rw [Percent.encodeBytes_encode]
  refine Percent.encode_congr ?_
  intro c member
  simp [isSpared, free c member]

namespace Escaped

/-- A text is written up to the end of its part at the front, every character on its own. -/
structure Covers (escaped : Escaped) (safe : String) (front : List Char) : Prop where
  /-- What is written. -/
  written : escaped.written = Percent.encode (isSpared safe) front
  /-- The offset behind the part. -/
  stop : escaped.stop = (Utf8.encode front).length

variable {escaped : Escaped} {safe : String} {front gap : List Char}

/-- Nothing is covered at first. -/
theorem covers_start (safe : String) : start.Covers safe [] := ⟨rfl, rfl⟩

/-- Writing on up to a safe character covers the run before it and the character. -/
theorem Covers.exists_keep? (covers : escaped.Covers safe front) (free : ∀ d ∈ gap, d ∉ safe.toList)
    {c : Char} (listed : c ∈ safe.toList) (rest : List Char) :
    ∃ next, escaped.keep? (Utf8.encode (front ++ gap ++ c :: rest))
        ((Utf8.encode (front ++ gap)).length, c) = some next ∧
      next.Covers safe (front ++ gap ++ [c]) := by
  -- The run lies between the offset that was reached and that of the character.
  have cut := Utf8.slice?_encode front gap (c :: rest)
  rw [← covers.stop] at cut
  have alone : Percent.encode (isSpared safe) [c] = [c] := by
    simp [Percent.encode, Percent.encodeChar, isSpared, listed]
  refine ⟨_, by simp only [keep?, cut]; rfl, ?_, ?_⟩
  · show escaped.written ++ Percent.encodeBytes (Utf8.encode gap) ++ [c] = _
    rw [covers.written, encodeBytes_of_not_safe free, Percent.encode_append,
      Percent.encode_append, alone]
  · -- The offset behind the character is its own and its size.
    show (Utf8.encode (front ++ gap)).length + c.utf8Size = _
    rw [Utf8.length_encode_concat]

/-- What is left behind the last safe character completes the text. -/
theorem Covers.finish? (covers : escaped.Covers safe front)
    (free : ∀ d ∈ gap, d ∉ safe.toList) :
    escaped.finish? (Utf8.encode (front ++ gap)) =
      some (Percent.encode (isSpared safe) (front ++ gap)) := by
  -- The gap ends with the text, and holds no safe character.
  have cut := Utf8.slice?_encode front gap []
  rw [← covers.stop, List.append_nil] at cut
  rw [Percent.encode_append, ← encodeBytes_of_not_safe free, ← covers.written, Escaped.finish?, cut]
  rfl

/-- Going through the safe characters of what follows a covered part and a run without any writes
the whole text. -/
theorem Covers.foldlM_finish? (covers : escaped.Covers safe front)
    (free : ∀ d ∈ gap, d ∉ safe.toList) (rest : List Char) :
    ((occurrences safe.toList.contains (Utf8.encode (front ++ gap)).length rest).foldlM
        (Escaped.keep? (Utf8.encode (front ++ gap ++ rest))) escaped).bind
        (Escaped.finish? (Utf8.encode (front ++ gap ++ rest))) =
      some (Percent.encode (isSpared safe) (front ++ gap ++ rest)) := by
  -- The induction is on what follows, for all ways to part what stands before it.
  induction rest generalizing escaped front gap with
  | nil =>
    rw [List.append_nil]
    exact covers.finish? free
  | cons c more ih =>
    rw [occurrences, ← Utf8.length_encode_concat]
    by_cases listed : c ∈ safe.toList
    · -- A safe character closes the run, and an empty one opens behind it.
      obtain ⟨next, step, covered⟩ := covers.exists_keep? free listed more
      have empty : ∀ d ∈ ([] : List Char), d ∉ safe.toList := by simp
      have behind := ih covered empty
      simp only [List.append_assoc] at step
      simpa [listed, step] using behind
    · -- Any other character makes the run longer.
      have longer : ∀ d ∈ gap ++ [c], d ∉ safe.toList := by
        intro d member
        rcases List.mem_append.mp member with inside | last
        · exact free d inside
        · exact List.mem_singleton.mp last ▸ listed
      have behind := ih covers longer
      simpa [listed] using behind

end Escaped

/-- Cutting a text at its safe characters cuts no character apart, and encoding what lies between
them writes every character on its own. -/
theorem escapeBetween?_eq (safe text : String) :
    escapeBetween? safe text = some (Percent.encode (isSpared safe) text.toList) := by
  -- Nothing is written at first, and the safe characters are gone through.
  have empty : ∀ d ∈ ([] : List Char), d ∉ safe.toList := by simp
  exact (Escaped.covers_start safe).foldlM_finish? empty text.toList

/-- Escaping writes every character on its own, however the text is cut. -/
theorem escape_eq (safe text : String) :
    escape safe text = Percent.encode (isSpared safe) text.toList := by
  unfold escape
  split
  · -- Without safe characters the whole text is one run.
    rename_i none
    rw [String.isEmpty_iff.mp none]
    exact encodeBytes_of_not_safe (by simp)
  · rw [escapeBetween?_eq]
    rfl

/-- An escaped text holds unreserved characters, safe ones and percent signs. -/
theorem mem_escape {safe text : String} {c : Char} (member : c ∈ escape safe text) :
    Ascii.isUnreserved c ∨ c ∈ safe.toList ∨ c = '%' := by
  -- The digits of a triplet are unreserved characters too.
  rw [escape_eq] at member
  rcases Percent.mem_encode member with kept | sign | digit
  · simp only [isSpared, Bool.or_eq_true, List.contains_iff_mem] at kept
    exact kept.imp_right .inl
  · exact .inr (.inr sign)
  · exact .inl (by simp [Ascii.isUnreserved, digit])

/-- An escaped text stands for the text, unless percent signs are safe. -/
theorem spells_escape {safe : String} (sign : '%' ∉ safe.toList) (text : String) :
    Percent.Spells (escape safe text) text.toList := by
  -- A percent sign is no unreserved character either, so it is always encoded.
  have reserved : Ascii.isUnreserved '%' = false := by decide
  rw [escape_eq]
  exact Percent.spells_encode (by simp [isSpared, reserved, sign]) text.toList

/-- Different texts are escaped differently, unless percent signs are safe. -/
theorem escape_injective {safe : String} (sign : '%' ∉ safe.toList) :
    Function.Injective (escape safe) := by
  intro text other same
  -- Both texts are what the escaped one stands for.
  have front := (spells_escape sign text).decodeText?_eq
  have back := (spells_escape sign other).decodeText?_eq
  rw [same, back] at front
  exact (String.toList_inj.mp (Option.some.inj front)).symm

/-- Escaping in one piece and escaping between the safe characters, which cuts no character apart,
both write every character on its own: an unreserved or safe one as it is, and any other as the
triplets of its bytes. Unless percent signs are safe, decoding gives the text back, so that no two
texts are escaped alike. -/
theorem escape_writes_each_character (safe text : String) :
    escape safe text = Percent.encode (isSpared safe) text.toList ∧
      escapeBetween? safe text = some (Percent.encode (isSpared safe) text.toList) ∧
      Percent.encodeBytes (Utf8.encode text.toList) =
        Percent.encode Ascii.isUnreserved text.toList ∧
      ('%' ∉ safe.toList → Percent.decodeText? (escape safe text) = some text.toList ∧
        Function.Injective (escape safe)) := by
  -- Each part is a lemma of its own; the last two need that the sign of the triplets is escaped.
  refine ⟨escape_eq safe text, escapeBetween?_eq safe text,
    Percent.encodeBytes_encode text.toList, ?_⟩
  intro sign
  exact ⟨(spells_escape sign text).decodeText?_eq, escape_injective sign⟩

/-- Safe characters at both ends, side by side and of two bytes, with a percent sign between. -/
theorem escape_writes_each_character_at_edges :
    '%' ∉ "/é".toList ∧ escape "/é" "/é%üé//" = "/é%25%C3%BCé//".toList ∧
      Percent.decodeText? (escape "/é" "/é%üé//") = some "/é%üé//".toList := by
  -- Safe characters stand at both ends, beside each other, and next to others of several bytes.
  have all := escape_writes_each_character "/é" "/é%üé//"
  have sign : '%' ∉ "/é".toList := by decide
  refine ⟨sign, ?_, (all.2.2.2 sign).1⟩
  rw [all.1]
  decide

/-- Only the empty text is escaped as nothing. -/
theorem escape_ne_nil {safe text : String} (filled : text ≠ "") : escape safe text ≠ [] := by
  -- No character is left out.
  rw [escape_eq]
  refine Percent.encode_ne_nil ?_
  intro empty
  exact filled (String.toList_eq_nil_iff.mp empty)

/-- The escaped form of a text is empty exactly if the text is. -/
theorem escape_eq_nil_iff {safe text : String} : escape safe text = [] ↔ text = "" := by
  -- Only the empty text has nothing to write.
  constructor
  · intro empty
    exact Decidable.byContradiction fun filled => escape_ne_nil filled empty
  · intro empty
    rw [escape_eq, empty]
    rfl

namespace Escaping

/-- No policy leaves percent signs as they are. -/
theorem sign_not_safe (escaping : Escaping) : '%' ∉ escaping.safe.toList := by
  -- Neither list of safe characters has one.
  cases escaping <;> decide

/-- A text under any policy stands for the text. -/
theorem spells_apply (escaping : Escaping) (text : String) :
    Percent.Spells (escaping.apply text) text.toList :=
  spells_escape escaping.sign_not_safe text

/-- A text comes back from its escaped form under any policy. -/
theorem decodeText?_apply (escaping : Escaping) (text : String) :
    Percent.decodeText? (escaping.apply text) = some text.toList :=
  (escaping.spells_apply text).decodeText?_eq

/-- The policy without safe characters leaves unreserved characters and percent signs. -/
theorem mem_apply_all {text : String} {c : Char} (member : c ∈ all.apply text) :
    Ascii.isUnreserved c ∨ c = '%' := by
  -- The list of safe characters is empty.
  rcases mem_escape member with unreserved | safe | sign
  · exact .inl unreserved
  · exact absurd safe (by simp [Escaping.safe])
  · exact .inr sign

/-- A character that is neither unreserved nor a percent sign is never left by the policy without
safe characters. -/
theorem not_mem_apply_all {c : Char} (reserved : Ascii.isUnreserved c = false) (other : c ≠ '%')
    (text : String) : c ∉ all.apply text := by
  -- All that is written is unreserved or belongs to a triplet.
  intro member
  rcases mem_apply_all member with unreserved | sign
  · simp [reserved] at unreserved
  · exact other sign

end Escaping

end Locator
