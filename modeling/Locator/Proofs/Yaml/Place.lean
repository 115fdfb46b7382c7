import Locator.Json.Token
import Locator.Proofs.Text.Fields
import Locator.Yaml.Place

/-! Where the parts of a YAML text stand: a part without line ends takes up its line one character
after another, and JSON blanks are nothing but gaps. -/

namespace Locator

/-- What is checked for each character of a list holds of all of them. -/
theorem forall_mem_of_all {p : Char → Prop} [DecidablePred p] {text : List Char}
    (all : text.all fun c => decide (p c)) : ∀ c ∈ text, p c :=
  fun c member => of_decide_eq_true (List.all_eq_true.mp all c member)

/-- How many bytes of UTF-8 characters take up. -/
def byteCount : List Char → Nat
  | [] => 0
  | c :: text => c.utf8Size + byteCount text

/-- No characters take up no bytes. -/
@[simp]
theorem byteCount_nil : byteCount [] = 0 := rfl

/-- The bytes of a character come on top of the others. -/
@[simp]
theorem byteCount_cons (c : Char) (text : List Char) :
    byteCount (c :: text) = c.utf8Size + byteCount text := rfl

/-- The bytes of two parts add up. -/
@[simp]
theorem byteCount_append (text more : List Char) :
    byteCount (text ++ more) = byteCount text + byteCount more := by
  -- By induction on the first text, character by character.
  induction text with
  | nil => simp
  | cons c text ih => rw [List.cons_append, byteCount_cons, byteCount_cons, ih, Nat.add_assoc]

namespace Place

/-- Whether YAML allows a character and it ends no line. -/
def isInline (c : Char) : Bool :=
  isAllowed c && c != '\n' && c != '\r' && c != '\u0085' && c != '\u2028' && c != '\u2029'

/-- Whether a character is a gap inside a line in both notations. -/
def isSpacing (c : Char) : Bool :=
  c = ' ' || c = '\t'

/-- Spaces and tabs end no line. -/
theorem isInline_of_isSpacing {c : Char} (spacing : isSpacing c) : isInline c := by
  -- There are the space and the tab.
  simp only [isSpacing, Bool.or_eq_true, decide_eq_true_eq] at spacing
  rcases spacing with rfl | rfl <;> decide

/-- Spaces and tabs are blanks of JSON. -/
theorem isBlank_of_isSpacing {c : Char} (spacing : isSpacing c) : JsonToken.isBlank c := by
  -- There are the space and the tab.
  simp only [isSpacing, Bool.or_eq_true, decide_eq_true_eq] at spacing
  rcases spacing with rfl | rfl <;> rfl

/-- A character that ends no line is no line end, wherever it stands. -/
theorem isBreak_mk {c : Char} (inline : isInline c) (index line column : Nat) :
    isBreak ⟨c, index, line, column⟩ = false := by
  -- What keeps to a line is none of the line ends.
  simp only [isInline, Bool.and_eq_true, bne_iff_ne] at inline
  simp [isBreak, inline]

/-- A character that ends no line and is no blank belongs to no gap, wherever it stands. -/
theorem isGap_mk {c : Char} (inline : isInline c) (noSpace : c ≠ ' ') (noTab : c ≠ '\t')
    (index line column : Nat) : isGap ⟨c, index, line, column⟩ = false := by
  -- A gap is a space, a tab or a line end.
  simp [isGap, isBlank, isBreak_mk inline, noSpace, noTab]

/-- A character that ends no line is followed by the next column. -/
theorem listFrom_cons {c : Char} (inline : isInline c) (index line column : Nat)
    (rest : List Char) :
    listFrom index line column (c :: rest) =
      ⟨c, index, line, column⟩ :: listFrom (index + c.utf8Size) line (column + 1) rest := by
  simp only [isInline, Bool.and_eq_true, bne_iff_ne] at inline
  obtain ⟨⟨⟨⟨⟨-, noFeed⟩, noReturn⟩, noNext⟩, noLine⟩, noParagraph⟩ := inline
  -- The character is no part of a line end with two characters, nor a line end alone.
  rw [listFrom.eq_3 _ _ _ _ _ (fun _ same => absurd same noReturn), if_neg, if_neg]
  · rintro (same | same)
    · exact noLine same
    · exact noParagraph same
  · rintro (same | same | same)
    · exact noFeed same
    · exact noReturn same
    · exact noNext same

/-- The characters of a part without line ends, each one column after the other. -/
theorem listFrom_append {part : List Char} (inline : part.all isInline) (index line column : Nat)
    (rest : List Char) :
    listFrom index line column (part ++ rest) =
      listFrom index line column part ++
        listFrom (index + byteCount part) line (column + part.length) rest := by
  induction part generalizing index column with
  | nil => rfl
  | cons c part ih =>
    rw [List.all_cons, Bool.and_eq_true] at inline
    -- One character is one column further, and as many bytes as it has.
    rw [List.cons_append, listFrom_cons inline.1, listFrom_cons inline.1, ih inline.2]
    have further : index + c.utf8Size + byteCount part = index + byteCount (c :: part) := by
      rw [byteCount_cons, Nat.add_assoc]
    rw [further, List.length_cons, Nat.add_right_comm, List.cons_append]
    rfl

/-- The places of a part without line ends hold its characters. -/
theorem char_of_mem_listFrom {part : List Char} (inline : part.all isInline)
    {index line column : Nat} {place : Place} (member : place ∈ listFrom index line column part) :
    place.char ∈ part := by
  -- By induction on the text; each character has one place.
  induction part generalizing index column with
  | nil => cases member
  | cons c part ih =>
    rw [List.all_cons, Bool.and_eq_true] at inline
    rw [listFrom_cons inline.1, List.mem_cons] at member
    rcases member with rfl | later
    · exact List.mem_cons_self
    · exact List.mem_cons_of_mem _ (ih inline.2 later)

/-- The places of spaces and tabs hold blanks. -/
theorem isBlank_of_mem_listFrom {gap : List Char} (spacing : gap.all isSpacing)
    {index line column : Nat} {place : Place} (member : place ∈ listFrom index line column gap) :
    place.isBlank := by
  -- The character of the place is one of the gap.
  rw [List.all_eq_true] at spacing
  have inline : gap.all isInline :=
    List.all_eq_true.mpr fun c member => isInline_of_isSpacing (spacing c member)
  exact spacing _ (char_of_mem_listFrom inline member)

/-- A blank of JSON in front of other text is the place of a gap. A carriage return takes a line
feed behind it along. -/
theorem exists_listFrom_blank {c : Char} (blank : JsonToken.isBlank c) (index line column : Nat)
    (rest : List Char) (alone : c = '\r' → '\n' ∉ rest.head?) :
    ∃ place index' line' column',
      listFrom index line column (c :: rest) = place :: listFrom index' line' column' rest ∧
        place.isGap ∧ (place.char = '\t' → c = '\t') := by
  -- A line end with two characters is left out here.
  have single : ∀ more, c = '\r' → rest = '\n' :: more → False := by
    intro more same follows
    exact alone same (by rw [follows]; rfl)
  simp only [JsonToken.isBlank, Bool.or_eq_true, decide_eq_true_eq] at blank
  rw [listFrom.eq_3 _ _ _ _ _ single]
  -- Spaces and tabs stay in their line; the other two end it.
  obtain ((rfl | rfl) | rfl) | rfl := blank
  · exact ⟨_, _, _, _, if_neg (by decide), rfl, by simp⟩
  · exact ⟨_, _, _, _, if_neg (by decide), rfl, by simp⟩
  · exact ⟨_, _, _, _, if_pos (by decide), rfl, by simp⟩
  · exact ⟨_, _, _, _, if_pos (by decide), rfl, by simp⟩

/-- Blanks of JSON in front of other text are the places of a gap; without tabs among them these are
no tabs either. -/
theorem exists_gap {blanks rest : List Char} (blank : blanks.all JsonToken.isBlank)
    (visible : '\n' ∉ rest.head?) (index line column : Nat) :
    ∃ gap index' line' column',
      listFrom index line column (blanks ++ rest) = gap ++ listFrom index' line' column' rest ∧
        ∀ place ∈ gap, place.isGap ∧ (place.char = '\t' → '\t' ∈ blanks) := by
  match blanks with
  -- Without blanks there is no gap.
  | [] => exact ⟨[], index, line, column, rfl, by simp⟩
  | c :: blanks =>
    rw [List.all_cons, Bool.and_eq_true] at blank
    by_cases pair : c = '\r' ∧ '\n' ∈ (blanks ++ rest).head?
    · -- The two characters are one line end, and the second one is a blank too.
      obtain ⟨rfl, follows⟩ := pair
      cases blanks with
      | nil => exact absurd follows visible
      | cons next blanks =>
        obtain rfl : '\n' = next := (Option.some.inj follows).symm
        rw [List.all_cons, Bool.and_eq_true] at blank
        obtain ⟨gap, index', line', column', found, gaps⟩ :=
          exists_gap blank.2.2 visible (index + 2) (line + 1) 0
        refine ⟨⟨'\n', index, line, column⟩ :: gap, index', line', column', ?_, ?_⟩
        · rw [List.cons_append, List.cons_append, listFrom.eq_2, found, List.cons_append]
        · intro place member
          rcases List.mem_cons.mp member with rfl | later
          · exact ⟨rfl, by simp⟩
          · exact ⟨(gaps place later).1, fun tab => by simp [(gaps place later).2 tab]⟩
    · -- Any other blank is a place of its own.
      obtain ⟨first, index₁, line₁, column₁, opened, isGap, tabbed⟩ :=
        exists_listFrom_blank blank.1 index line column (blanks ++ rest)
          fun same follows => pair ⟨same, follows⟩
      obtain ⟨gap, index', line', column', found, gaps⟩ :=
        exists_gap blank.2 visible index₁ line₁ column₁
      refine ⟨first :: gap, index', line', column', ?_, ?_⟩
      · rw [List.cons_append, opened, found, List.cons_append]
      · intro place member
        rcases List.mem_cons.mp member with rfl | later
        · exact ⟨isGap, fun tab => by simp [tabbed tab]⟩
        · exact ⟨(gaps place later).1, fun tab => by simp [(gaps place later).2 tab]⟩
termination_by blanks.length

end Place

end Locator
