import Locator.Proofs.Template.Cutting
import Locator.Template.Expansion
import Mathlib.Data.List.Infix

/-! Template texts one behind the other: they expand piece by piece, unless a brace that the first
one leaves open is closed by the second. -/

namespace Locator

namespace Segment

variable (bindings : Bindings)

/-- What the segments of a template text expand to. -/
def expandAll (segments : List Segment) : List Char :=
  segments.flatMap fun segment => segment.toPart.expand bindings

/-- A character that is put in front of the segments stands in front of what they expand to. -/
theorem expandAll_addLiteral (c : Char) (segments : List Segment) :
    expandAll bindings (addLiteral c segments) = c :: expandAll bindings segments := by
  -- It joins the first literal or is a literal of its own.
  match segments with
  | [] => simp [addLiteral, expandAll, toPart, Part.expand]
  | literal text :: more => simp [addLiteral, expandAll, toPart, Part.expand]
  | span body :: more => simp [addLiteral, expandAll, toPart, Part.expand]

/-- No brace of the first text is closed by the second: each one is closed in the first already, or
the second closes none. -/
def IsSeam (front back : List Char) : Prop :=
  (∀ before behind, front = before ++ '{' :: behind → '}' ∈ behind) ∨ '}' ∉ back

variable {bindings}

/-- Behind a part of the first text there is the same seam. -/
theorem IsSeam.of_append {start front back : List Char} (seam : IsSeam (start ++ front) back) :
    IsSeam front back := by
  -- What stands behind a brace of the part also stands behind it in the whole text.
  refine seam.imp_left ?_
  intro closed before behind same
  exact closed (start ++ before) behind (by rw [same, List.append_assoc])

/-- A character that stands for itself in the first text does so with the second one behind. -/
theorem IsSeam.isPlain {c : Char} {rest back : List Char} (seam : IsSeam (c :: rest) back)
    (plain : IsPlain c rest) : IsPlain c (rest ++ back) := by
  -- Only an opening brace could begin a span.
  intro opening
  rcases plain opening with closed | unclosed
  · exact .inl (by simp [List.head?_append, closed])
  · -- A brace that the first text leaves open stays open, as the second closes none.
    refine .inr ?_
    rcases seam with always | never
    · exact absurd (always [] rest (by rw [opening, List.nil_append])) unclosed
    · simpa using ⟨unclosed, never⟩

/-- At a seam the cuttings of two texts expand one behind the other. Their literals may have become
one. -/
theorem expandAll_cut_append {front back : List Char} (seam : IsSeam front back) :
    expandAll bindings (cut (front ++ back)) =
      expandAll bindings (cut front) ++ expandAll bindings (cut back) := by
  -- The scans stay in step: the induction passes one character or one whole span of the first text.
  induction length : front.length using Nat.strongRecOn generalizing front with
  | _ size ih =>
    cases front with
    | nil => simp [expandAll]
    | cons c rest =>
      rcases isPlain_or_span c rest with plain | ⟨body, after, rfl, filled, unclosed, rfl⟩
      · -- The character is passed over with and without the second text behind.
        have inner : IsSeam rest back :=
          IsSeam.of_append (show IsSeam ([c] ++ rest) back from seam)
        have behind := ih rest.length (by simp [← length]) inner rfl
        calc
          expandAll bindings (cut (c :: rest ++ back)) =
              c :: expandAll bindings (cut (rest ++ back)) := by
            rw [List.cons_append, cut_cons (seam.isPlain plain), expandAll_addLiteral]
          _ = c :: (expandAll bindings (cut rest) ++ expandAll bindings (cut back)) := by rw [behind]
          _ = expandAll bindings (cut (c :: rest)) ++ expandAll bindings (cut back) := by
            rw [cut_cons plain, expandAll_addLiteral, List.cons_append]
      · -- The span ends within the first text, so the second one does not change it.
        have whole : '{' :: (body ++ '}' :: after) = ('{' :: body ++ ['}']) ++ after := by simp
        have inner : IsSeam after back := (whole ▸ seam).of_append
        have behind := ih after.length (by simp [← length]; omega) inner rfl
        have joined : '{' :: (body ++ '}' :: after) ++ back =
            '{' :: body ++ '}' :: (after ++ back) := by simp
        rw [joined, cut_span (after ++ back) filled unclosed, ← List.cons_append,
          cut_span after filled unclosed]
        simp only [expandAll, List.flatMap_cons] at behind ⊢
        rw [behind, List.append_assoc]

end Segment

/-- The expansion of a template text is that of its segments. -/
theorem toList_expand (text : String) (bindings : Bindings) :
    (expand text bindings).toList = Segment.expandAll bindings (Segment.cut text.toList) := by
  -- The parts are the images of the segments.
  rw [expand, Template.read, Template.expand, String.toList_ofList, List.flatMap_map]
  rfl

/-- Two template texts one behind the other expand to their expansions one behind the other, if
every opening brace of the first is closed somewhere behind it in the first, or the second has no
closing brace. -/
theorem expand_append (front back : String) (bindings : Bindings)
    (seam : (∀ before behind, front.toList = before ++ '{' :: behind → '}' ∈ behind) ∨
      '}' ∉ back.toList) :
    expand (front ++ back) bindings = expand front bindings ++ expand back bindings := by
  -- The texts are compared as lists of characters, where the segments on both sides of the seam
  -- count.
  rw [← String.toList_inj]
  calc
    (expand (front ++ back) bindings).toList =
        Segment.expandAll bindings (Segment.cut (front.toList ++ back.toList)) := by
      rw [toList_expand, String.toList_append]
    _ = Segment.expandAll bindings (Segment.cut front.toList) ++
        Segment.expandAll bindings (Segment.cut back.toList) := Segment.expandAll_cut_append seam
    _ = (expand front bindings ++ expand back bindings).toList := by
      rw [String.toList_append, toList_expand, toList_expand]

/-- A span with an opening brace in it, braces without a body, and a literal that goes on behind the
seam; then a brace that the first text leaves open, and one that the second does. -/
theorem expand_append_at_braces :
    let bindings : Bindings := ⟨[("a\x7b", .scalar "1"), ("q", .list ["2", "3"])]⟩
    expand ("\x7ba\x7b\x7d\x7b\x7dx" ++ "\x7d\x7b?q,u\x7d") bindings = "1\x7b\x7dx\x7d?q=2,3" ∧
      expand ("\x7b?q\x7dx\x7b" ++ "y\x7bq") bindings = "?q=2,3x\x7by\x7bq" := by
  intro bindings
  constructor
  · -- Every opening brace of the first text is closed in it.
    have closed : ∀ tail ∈ "\x7ba\x7b\x7d\x7b\x7dx".toList.tails,
        tail.head? = some '{' → '}' ∈ tail.drop 1 := by decide
    have apart := expand_append "\x7ba\x7b\x7d\x7b\x7dx" "\x7d\x7b?q,u\x7d" bindings
      (.inl fun before behind same => closed _ ((List.mem_tails _ _).mpr ⟨before, same.symm⟩) rfl)
    have first : expand "\x7ba\x7b\x7d\x7b\x7dx" bindings = "1\x7b\x7dx" := by decide +kernel
    have second : expand "\x7d\x7b?q,u\x7d" bindings = "\x7d?q=2,3" := by decide +kernel
    rw [apart, first, second]
    rfl
  · -- The first text ends with an open brace, but the second closes none.
    have apart := expand_append "\x7b?q\x7dx\x7b" "y\x7bq" bindings (.inr (by decide))
    have first : expand "\x7b?q\x7dx\x7b" bindings = "?q=2,3x\x7b" := by decide +kernel
    have second : expand "y\x7bq" bindings = "y\x7bq" := by decide +kernel
    rw [apart, first, second]
    rfl

end Locator
