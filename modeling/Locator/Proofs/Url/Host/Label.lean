import Locator.Proofs.Text.Composition
import Locator.Proofs.Text.Percent
import Locator.Url.Host.Label

/-! Labels of domains: small letters within ASCII are read as they stand, and keep their places
around whatever the text between them is folded to. -/

namespace Locator

namespace Ascii

/-- Only ASCII has capitals. -/
theorem toLower_of_le {c : Char} (beyond : 0x80 ≤ c.toNat) : c.toLower = c := by
  -- The capitals end at the code of the last letter.
  unfold Char.toLower
  split
  · rename_i capital
    have upper : c.toNat ≤ 'Z'.toNat := UInt32.le_iff_toNat_le.mp capital.2
    have small : 'Z'.toNat = 90 := rfl
    omega
  · rfl

end Ascii

namespace Label

/-- A text lies within ASCII exactly if all its characters do. -/
theorem isAscii_iff {text : List Char} : isAscii text ↔ ∀ c ∈ text, c.toNat < 0x80 := by
  -- The definition checks them one by one.
  simp [isAscii]

/-- A character that stands for itself is no capital. -/
theorem toLower_of_isKept {c : Char} (kept : isKept c) : c.toLower = c := by
  by_cases ascii : c.toNat < 0x80
  · -- Within ASCII the capitals are all that stands for something else.
    have every : ∀ c : Char, c.toNat < 128 → c.isUpper = false → c.toLower = c :=
      Ascii.forall_of_lt (by decide)
    rw [isKept, if_pos ascii, Bool.not_eq_true'] at kept
    exact every c ascii kept
  · exact Ascii.toLower_of_le (Nat.le_of_not_lt ascii)

/-- A character of ASCII means its small letter. -/
theorem meaning?_of_isAscii {c : Char} (ascii : c.toNat < 0x80) : meaning? c = some [c.toLower] := by
  -- A small letter is its own small letter, and a capital stands for it.
  by_cases kept : isKept c
  · rw [meaning?, if_pos kept, toLower_of_isKept kept]
  · rw [meaning?, if_neg kept, if_pos ascii]

/-- A text within ASCII means the same in small letters. -/
theorem meanings?_of_isAscii {text : List Char} (ascii : ∀ c ∈ text, c.toNat < 0x80) :
    meanings? text = some (text.map Char.toLower) := by
  -- Each character gives one, and the texts of one character each are put together again.
  induction text with
  | nil => rfl
  | cons c rest ih =>
    rw [List.forall_mem_cons] at ascii
    have behind := ih ascii.2
    rw [meanings?, Option.map_eq_some_iff] at behind ⊢
    obtain ⟨meant, found, same⟩ := behind
    refine ⟨[c.toLower] :: meant, ?_, by rw [List.flatten_cons, same]; rfl⟩
    rw [List.mapM_cons, meaning?_of_isAscii ascii.1, found]
    rfl

/-- What a text means on the two sides of a dot has nothing to do with each other. -/
theorem meanings?_append_cons (front back : List Char) :
    meanings? (front ++ '.' :: back) = (meanings? front).bind fun left =>
      (meanings? back).map fun right => left ++ '.' :: right := by
  -- A dot means itself, so that only a character on one of the sides can be without a meaning.
  have dot : meaning? '.' = some ['.'] := meaning?_of_isAscii (by decide)
  rw [meanings?, meanings?, meanings?, List.mapM_append, List.mapM_cons, dot]
  cases front.mapM meaning? <;> cases back.mapM meaning? <;> simp

-- A capital, an ideographic full stop and a soft hyphen.
example : meanings? "Go。\u00ADex".toList = some "go.ex".toList := by decide +kernel

/-- Any text is folded by its meanings; within ASCII that only replaces capitals. -/
theorem fold?_eq (text : List Char) :
    fold? text = (meanings? text).map Composition.compose := by
  unfold fold?
  split
  · rename_i ascii
    have known := isAscii_iff.mp ascii
    -- Small letters lie within ASCII too, where nothing is composed.
    have lowered : ∀ c ∈ text.map Char.toLower, c.toNat < 0x80 := by
      have every : ∀ c : Char, c.toNat < 128 → c.toLower.toNat < 0x80 :=
        Ascii.forall_of_lt (by decide)
      intro c member
      obtain ⟨origin, inside, rfl⟩ := List.mem_map.mp member
      exact every origin (known origin inside)
    rw [meanings?_of_isAscii known, Option.map_some, Composition.compose_of_isAscii lowered]
  · rfl

/-- Small letters of ASCII with dots between them stay around whatever the text between them is
folded to. -/
theorem exists_of_fold?_joinFields {before after : List (List Char)} {text folded : List Char}
    (ascii : ∀ label ∈ before ++ after, isAscii label)
    (small : ∀ label ∈ before ++ after, label.map Char.toLower = label)
    (read : fold? (joinFields '.' (before ++ [text] ++ after)) = some folded) :
    ∃ middle, folded = joinFields '.' (before ++ [middle] ++ after) := by
  have known : ∀ label ∈ before ++ after, ∀ c ∈ label, c.toNat < 0x80 :=
    fun label member => isAscii_iff.mp (ascii label member)
  -- Every label means itself, and so does every dot.
  have kept : ∀ label ∈ before ++ after, meanings? label = some label := by
    intro label member
    rw [meanings?_of_isAscii (known label member), small label member]
  rw [fold?_eq, read_joinFields meanings?_append_cons (by simp)] at read
  simp only [Option.map_eq_some_iff] at read
  obtain ⟨joined, ⟨pieces, meant, rfl⟩, rfl⟩ := read
  obtain ⟨value, -, rfl⟩ := exists_of_mapM_around kept meant
  -- Composition does not reach over the dots.
  exact Composition.exists_compose_joinFields known value

/-- A label has no capitals. -/
theorem toLower_of_mem_read? {text label : List Char} (read : read? text = some label) :
    ∀ c ∈ label, c.toLower = c := by
  -- However it is spelled, all its characters stand for themselves.
  have valid : isValid label := by
    unfold read? at read
    dsimp only at read
    split at read
    · split at read
      · exact (Option.filter_eq_some_iff.mp read).2
      · cases read
    · split at read
      · cases read
        assumption
      · cases read
  intro c member
  rw [isValid, Bool.and_eq_true, List.all_eq_true] at valid
  exact toLower_of_isKept (valid.1 c member)

/-- A label in small letters within ASCII that is not marked as Punycode is read as it stands. -/
theorem read?_of_isAscii {label : List Char} (ascii : isAscii label)
    (small : ∀ c ∈ label, c.toLower = c) (unmarked : ¬ punycodeMark <+: label) :
    read? label = some label := by
  -- In ASCII, a character that has no smaller one stands for itself, and nothing else is asked of a
  -- label.
  have every : ∀ c : Char, c.toNat < 128 → c.toLower = c → isKept c := by
    have unchanged : ∀ c : Char, c.toNat < 128 → c.toLower = c → c.isUpper = false :=
      Ascii.forall_of_lt (by decide)
    intro c within same
    rw [isKept, if_pos within, unchanged c within same]
    rfl
  have kept : label.all isKept = true := by
    rw [List.all_eq_true]
    intro c member
    exact every c (isAscii_iff.mp ascii c member) (small c member)
  rw [read?, if_neg (by simpa using unmarked), isValid, kept, ascii]
  rfl

/-- Labels within ASCII are aligned. -/
theorem areAligned_of_isAscii {labels : List (List Char)}
    (ascii : ∀ label ∈ labels, isAscii label) : areAligned labels = true := by
  -- Nothing in ASCII is written from right to left.
  have left : labels.any (·.any fun c => (Direction.ofChar c).turns) = false := by
    rw [List.any_eq_false]
    intro label member
    rw [Bool.not_eq_true, List.any_eq_false]
    intro c inside
    rw [Direction.ofChar, if_pos (isAscii_iff.mp (ascii label member) c inside)]
    split
    · decide
    · split <;> decide
  rw [areAligned, left]
  rfl

end Label

end Locator
