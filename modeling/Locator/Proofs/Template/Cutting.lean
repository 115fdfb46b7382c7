import Locator.Proofs.Text.Fields
import Locator.Template.Syntax

/-! The one way to cut a template text into literals and spans, and that reading a template takes
it. -/

namespace Locator

namespace Segment

/-- Whether a segment is a literal. -/
def isLiteral : Segment → Bool
  | literal _ => true
  | span _ => false

/-- The segments make up the text, and none could have been cut in another way. -/
inductive IsCutting : List Char → List Segment → Prop where
  /-- The empty text has no segments. -/
  | nil : IsCutting [] []
  /-- A span has a body, which ends at the first closing brace. -/
  | span {text body after : List Char} {more : List Segment} (filled : body ≠ [])
      (unclosed : '}' ∉ body) (rest : IsCutting after more)
      (whole : text = '{' :: body ++ '}' :: after) :
      IsCutting text (.span body :: more)
  /-- A literal is not empty and not followed by another one. An opening brace in it is closed at
  once, or nowhere in the text behind it. -/
  | literal {text inside after : List Char} {more : List Segment} (filled : inside ≠ [])
      (alone : ∀ next ∈ more.head?, next.isLiteral = false)
      (braces : ∀ before behind, inside = before ++ '{' :: behind →
        behind.head? = some '}' ∨ '}' ∉ behind ++ after)
      (rest : IsCutting after more) (whole : text = inside ++ after) :
      IsCutting text (.literal inside :: more)

/-- A character in front of a text stands for itself, unless it is a brace that opens a span. -/
def IsPlain (c : Char) (rest : List Char) : Prop :=
  c = '{' → rest.head? = some '}' ∨ '}' ∉ rest

/-- Every character stands for itself or opens a span. -/
theorem isPlain_or_span (c : Char) (rest : List Char) :
    IsPlain c rest ∨ ∃ body after, c = '{' ∧ body ≠ [] ∧ '}' ∉ body ∧
      rest = body ++ '}' :: after := by
  -- The first closing brace behind an opening one decides.
  by_cases opening : c = '{'
  · cases found : splitFirst '}' rest with
    | none => exact .inl fun _ => .inr (splitFirst_eq_none_iff.mp found)
    | some parts =>
      obtain ⟨body, after⟩ := parts
      obtain ⟨absent, whole⟩ := splitFirst_eq_some_iff.mp found
      cases body with
      | nil => exact .inl fun _ => .inl (by simp [whole])
      | cons b more => exact .inr ⟨b :: more, after, opening, by simp, absent, whole⟩
  · exact .inl fun same => absurd same opening

/-- The empty text is cut into nothing. -/
@[simp]
theorem cut_nil : cut [] = [] := by
  -- The first equation of the definition.
  rw [cut]

/-- What an opening brace is cut into, by the first closing brace behind it. -/
theorem cut_open (rest : List Char) :
    cut ('{' :: rest) =
      match splitFirst '}' rest with
      | none => [.literal ('{' :: rest)]
      | some ([], _) => addLiteral '{' (cut rest)
      | some (b :: body, after) => .span (b :: body) :: cut after := by
  -- The definition also keeps the equation of the split, for its termination.
  rw [cut, if_pos rfl]
  split
  · rename_i found
    rw [found]
  · rename_i found
    rw [found]
  · rename_i found
    rw [found]

/-- A span is cut off at its closing brace. -/
theorem cut_span {body : List Char} (after : List Char) (filled : body ≠ [])
    (unclosed : '}' ∉ body) : cut ('{' :: body ++ '}' :: after) = .span body :: cut after := by
  -- The body is exactly what stands before the first closing brace.
  obtain ⟨b, more, rfl⟩ := List.exists_cons_of_ne_nil filled
  rw [List.cons_append, cut_open, splitFirst_append after unclosed]

/-- Every character but an opening brace joins the literal behind it. -/
theorem cut_of_ne {c : Char} (rest : List Char) (other : c ≠ '{') :
    cut (c :: rest) = addLiteral c (cut rest) := by
  -- Only an opening brace can start a span.
  rw [cut, if_neg other]

/-- A text without a closing brace is a single literal. -/
theorem cut_of_not_mem {c : Char} {rest : List Char} (unclosed : '}' ∉ rest) (other : c ≠ '}') :
    cut (c :: rest) = [.literal (c :: rest)] := by
  -- Before the first opening brace the literal grows, and there the rest joins it at once.
  induction rest generalizing c with
  | nil =>
    by_cases opening : c = '{'
    · rw [opening, cut_open]
      rfl
    · rw [cut_of_ne [] opening, cut_nil]
      rfl
  | cons d more ih =>
    by_cases opening : c = '{'
    · rw [opening, cut_open, splitFirst_eq_none_iff.mpr unclosed]
    · have next : d ≠ '}' := fun same => unclosed (same ▸ List.mem_cons_self)
      rw [cut_of_ne _ opening, ih (fun member => unclosed (List.mem_cons_of_mem _ member)) next]
      rfl

/-- A character that stands for itself joins the literal behind it. -/
theorem cut_cons {c : Char} {rest : List Char} (plain : IsPlain c rest) :
    cut (c :: rest) = addLiteral c (cut rest) := by
  -- Only an opening brace makes a difference, and it is closed at once or not at all.
  by_cases opening : c = '{'
  · subst opening
    rcases plain rfl with closed | unclosed
    · obtain ⟨more, rfl⟩ := List.head?_eq_some_iff.mp closed
      have found : splitFirst '}' ('}' :: more) = some ([], more) :=
        splitFirst_append more List.not_mem_nil
      rw [cut_open, found]
    · rw [cut_of_not_mem unclosed (by decide)]
      cases rest with
      | nil => rw [cut_nil]; rfl
      | cons d more =>
        have next : d ≠ '}' := fun same => unclosed (same ▸ List.mem_cons_self)
        rw [cut_of_not_mem (fun member => unclosed (List.mem_cons_of_mem _ member)) next]
        rfl
  · exact cut_of_ne rest opening

/-- A character that stands for itself can be put in front of a cutting. -/
theorem IsCutting.addLiteral {c : Char} {rest : List Char} {segments : List Segment}
    (plain : IsPlain c rest) (cutting : IsCutting rest segments) :
    IsCutting (c :: rest) (addLiteral c segments) := by
  -- It opens a new literal unless the cutting starts with one.
  have single (behind : List Char) (before : List Char)
      (same : [c] = before ++ '{' :: behind) : before = [] ∧ c = '{' ∧ behind = [] := by
    cases before with
    | nil => simpa using same
    | cons b more => simp at same
  cases cutting with
  | nil =>
    -- At the end of the text the character is a literal by itself.
    refine .literal (by simp) (by simp) ?_ .nil (by simp)
    intro before behind same
    obtain ⟨-, -, rfl⟩ := single behind before same
    simp
  | span filled unclosed inner whole =>
    refine .literal (by simp) (by simp [isLiteral]) ?_ (.span filled unclosed inner whole) (by simp)
    intro before behind same
    obtain ⟨-, opening, rfl⟩ := single behind before same
    -- What follows starts with an opening brace, so nothing closes the one in front.
    rcases plain opening with closed | never
    · simp [whole] at closed
    · exact .inr (by simpa using never)
  | literal filled alone braces inner whole =>
    -- The literal behind grows by one character at its front.
    refine .literal (by simp) alone ?_ inner (by simp [whole])
    intro before behind same
    cases before with
    | nil =>
      obtain ⟨opening, rfl⟩ : c = '{' ∧ _ = behind := by simpa using same
      rcases plain opening with closed | never
      · obtain ⟨d, inner, rfl⟩ := List.exists_cons_of_ne_nil filled
        exact .inl (by simpa [whole] using closed)
      · exact .inr (by rwa [whole] at never)
    | cons b more =>
      rw [List.cons_append, List.cons.injEq] at same
      -- A brace further behind was in the literal before.
      exact braces more behind same.2

/-- Every text has the cutting that is computed for it. -/
theorem isCutting_cut (text : List Char) : IsCutting text (cut text) := by
  -- The induction passes one character or one whole span.
  induction length : text.length using Nat.strongRecOn generalizing text with
  | _ size ih =>
    cases text with
    | nil => simpa using IsCutting.nil
    | cons c rest =>
      rcases isPlain_or_span c rest with plain | ⟨body, after, rfl, filled, unclosed, rfl⟩
      · rw [cut_cons plain]
        exact .addLiteral plain (ih rest.length (by rw [← length]; simp) rest rfl)
      · have inner := ih after.length (by rw [← length]; simp; omega) after rfl
        rw [← List.cons_append, cut_span after filled unclosed]
        exact .span filled unclosed inner rfl

/-- A literal that is not empty is cut off where a span or the end follows it. -/
theorem cut_literal {inside after : List Char} (filled : inside ≠ [])
    (alone : ∀ next ∈ (cut after).head?, next.isLiteral = false)
    (braces : ∀ before behind, inside = before ++ '{' :: behind →
      behind.head? = some '}' ∨ '}' ∉ behind ++ after) :
    cut (inside ++ after) = .literal inside :: cut after := by
  -- The characters of the literal are put in front of each other, the last one first.
  induction inside with
  | nil => exact absurd rfl filled
  | cons c rest ih =>
    have plain : IsPlain c (rest ++ after) := by
      intro opening
      rcases braces [] rest (by simp [opening]) with closed | never
      · cases rest with
        | nil => simp at closed
        | cons d more => exact .inl (by simpa using closed)
      · exact .inr never
    rw [List.cons_append, cut_cons plain]
    cases rest with
    | nil =>
      -- The segment behind the last character is not a literal that it could join.
      rw [List.nil_append]
      cases behind : cut after with
      | nil => rfl
      | cons next more =>
        rw [behind] at alone
        cases next with
        | literal text => simp [isLiteral] at alone
        | span body => rfl
    | cons d more =>
      rw [ih (by simp) fun before behind same => braces (c :: before) behind (by simp [same])]
      rfl

/-- The computed cutting is the only one. -/
theorem IsCutting.eq_cut {text : List Char} {segments : List Segment}
    (cutting : IsCutting text segments) : segments = cut text := by
  -- Each segment is the one that the cut takes off the front.
  induction cutting with
  | nil => simp
  | span filled unclosed _ whole ih => rw [whole, cut_span _ filled unclosed, ← ih]
  | literal filled alone braces _ whole ih =>
    rw [ih] at alone
    rw [whole, cut_literal filled alone braces, ← ih]

/-- A text has its computed cutting and no other. -/
theorem isCutting_iff {text : List Char} {segments : List Segment} :
    IsCutting text segments ↔ segments = cut text := by
  -- There is one cutting, and it is the one that is computed.
  constructor
  · exact IsCutting.eq_cut
  · intro same
    rw [same]
    exact isCutting_cut text

end Segment

/-- A template text has exactly one cutting, and the parts of its template are the segments of that
cutting: a literal as it stands, and a span as the expression that its body spells. -/
theorem Template.parts_read_cutting (text : String) :
    ∃ segments, (∀ other, Segment.IsCutting text.toList other ↔ other = segments) ∧
      (Template.read text).parts = segments.map Segment.toPart := by
  -- Reading takes the computed cutting, which is the only one.
  refine ⟨Segment.cut text.toList, ?_, rfl⟩
  intro other
  exact Segment.isCutting_iff

end Locator
