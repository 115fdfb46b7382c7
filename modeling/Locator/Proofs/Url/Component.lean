import Locator.Proofs.Text.Percent
import Locator.Url.Component

/-! Components of URLs: what they keep is visible, and visible texts are read as they stand. -/

namespace Locator

/-- A text of visible characters: no spaces, and no controls below them. -/
def IsVisible (text : List Char) : Prop :=
  ∀ c ∈ text, Ascii.isControlOrSpace c = false

/-- Whether a text is visible is decided character by character. -/
instance (text : List Char) : Decidable (IsVisible text) :=
  List.decidableBAll (Ascii.isControlOrSpace · = false) text

/-- Nothing is stripped from a text without tabs and line breaks. -/
theorem Component.strip_of_unbroken {text : List Char}
    (unbroken : ∀ c ∈ text, Ascii.isTabOrNewline c = false) : strip text = text := by
  -- No character is left out.
  rw [strip, List.filter_eq_self]
  intro c member
  simp [unbroken c member]

/-- Only tabs and line breaks are stripped. -/
theorem Component.mem_strip_iff {text : List Char} {c : Char}
    (kept : Ascii.isTabOrNewline c = false) : c ∈ strip text ↔ c ∈ text := by
  -- Only the characters that break lines and columns are left out.
  simp [strip, kept]

/-- A text may be stripped before or after it is cut at a character that is kept. -/
theorem Component.takeWhile_strip {c : Char} (kept : Ascii.isTabOrNewline c = false)
    (text : List Char) : (strip text).takeWhile (· ≠ c) = strip (text.takeWhile (· ≠ c)) := by
  -- What is stripped would not stop the search.
  have same : (fun d => !(!Ascii.isTabOrNewline d) || decide (d ≠ c)) = fun d => decide (d ≠ c) := by
    funext d
    by_cases found : d = c <;> simp [found, kept]
  rw [strip, List.takeWhile_filter, same]
  rfl

namespace IsVisible

/-- Two visible texts make a visible text. -/
theorem append {first second : List Char} (front : IsVisible first) (back : IsVisible second) :
    IsVisible (first ++ second) := by
  -- A character of both comes from one of them.
  intro c member
  rcases List.mem_append.mp member with inside | behind
  · exact front c inside
  · exact back c behind

/-- No character of a visible text is dropped from its ends. -/
theorem trim_eq {text : List Char} (visible : IsVisible text) :
    Ascii.trim Ascii.isControlOrSpace text = text := by
  -- The first character already stops the search, from either end.
  have kept (shown : List Char) (each : IsVisible shown) :
      shown.dropWhile Ascii.isControlOrSpace = shown := by
    cases shown with
    | nil => rfl
    | cons c rest => exact List.dropWhile_cons_of_neg (by simp [each c List.mem_cons_self])
  have reversed : IsVisible text.reverse := fun c member => visible c (List.mem_reverse.mp member)
  rw [Ascii.trim, kept text visible, kept _ reversed, List.reverse_reverse]

/-- A visible text has no tabs or line breaks. -/
theorem unbroken {text : List Char} (visible : IsVisible text) :
    ∀ c ∈ text, Ascii.isTabOrNewline c = false := by
  intro c member
  have shown := visible c member
  -- Tabs and line breaks are controls.
  have control : Ascii.isTabOrNewline c → Ascii.isControlOrSpace c := by
    intro blank
    simp only [Ascii.isTabOrNewline, Bool.or_eq_true, decide_eq_true_eq] at blank
    rcases blank with (same | same) | same <;> rw [same] <;> decide
  cases blank : Ascii.isTabOrNewline c with
  | false => rfl
  | true => simp [control blank] at shown

/-- Nothing is stripped from a visible text. -/
theorem strip_eq {text : List Char} (visible : IsVisible text) : Component.strip text = text :=
  Component.strip_of_unbroken visible.unbroken

end IsVisible

namespace Component

/-- A class of characters without controls and the space makes visible texts. -/
theorem isVisible_of_kept {kept : Char → Bool}
    (checked : ∀ n < 128, kept (Char.ofNat n) → Ascii.isControlOrSpace (Char.ofNat n) = false)
    {text : List Char} (each : ∀ c ∈ text, kept c) : IsVisible text := by
  -- Only an ASCII character can be a control or the space.
  have every : ∀ c : Char, c.toNat < 128 → kept c → Ascii.isControlOrSpace c = false :=
    Ascii.forall_of_lt checked
  intro c member
  by_cases small : c.toNat ≤ 0x20
  · exact every c (by omega) (each c member)
  · simp [Ascii.isControlOrSpace, small]

/-- What a fragment keeps is visible. -/
theorem isVisible_of_inFragment {text : List Char} (kept : ∀ c ∈ text, inFragment c) :
    IsVisible text :=
  isVisible_of_kept (by decide) kept

/-- What a query keeps is visible. -/
theorem isVisible_of_inQuery {special : Bool} {text : List Char}
    (kept : ∀ c ∈ text, inQuery special c) : IsVisible text :=
  isVisible_of_kept (by cases special <;> decide) kept

/-- What a path keeps is kept in a fragment too. -/
theorem inFragment_of_inPath {c : Char} (kept : inPath c) : inFragment c := by
  -- A path only gives up some more characters.
  rw [inPath, Bool.and_eq_true] at kept
  exact kept.1

/-- Unreserved characters and percent signs are kept in every component, and separate nothing. -/
theorem kept_of_isUnreserved {c : Char} (plain : Ascii.isUnreserved c ∨ c = '%') :
    inPath c ∧ inQuery true c ∧ inFragment c ∧ c ∉ ['/', '\\', '?', '#', '&', '='] := by
  -- All of them are ASCII characters, so each one can be checked.
  have ascii : c.toNat < 128 := by
    rcases plain with unreserved | sign
    · exact Ascii.toNat_lt_of_isUnreserved unreserved
    · rw [sign]
      decide
  have checked : ∀ c : Char, c.toNat < 128 → Ascii.isUnreserved c ∨ c = '%' →
      inPath c ∧ inQuery true c ∧ inFragment c ∧ c ∉ ['/', '\\', '?', '#', '&', '='] :=
    Ascii.forall_of_lt (by decide)
  exact checked c ascii plain

/-- A class that keeps percent signs, letters and digits keeps what it encodes. -/
theorem kept_of_mem_encode {kept : Char → Bool} (sign : kept '%')
    (digits : ∀ n < 128, (Char.ofNat n).isAlphanum → kept (Char.ofNat n)) {text : List Char} :
    ∀ c ∈ (encode kept text).toList, kept c := by
  -- Beside the kept characters there are triplets only.
  have every : ∀ c : Char, c.toNat < 128 → c.isAlphanum → kept c := Ascii.forall_of_lt digits
  intro c member
  rw [encode, String.toList_ofList] at member
  rcases Percent.mem_encode member with plain | same | digit
  · exact plain
  · exact same ▸ sign
  · exact every c (Ascii.toNat_lt_of_isAlphanum digit) digit

/-- A text of kept characters is its own encoded form. -/
theorem encode_of_kept {kept : Char → Bool} {text : List Char} (each : ∀ c ∈ text, kept c) :
    encode kept text = .ofList text := by
  -- No character is written as a triplet.
  rw [encode, Percent.encode_of_kept each]

end Component

end Locator
