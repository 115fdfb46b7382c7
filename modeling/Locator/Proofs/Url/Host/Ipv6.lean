import Locator.Proofs.Text.Digits
import Locator.Proofs.Text.Fields
import Locator.Url.Host.Ipv6

/-! IPv6 addresses come back from their shortest written form. -/

namespace Locator

namespace Ipv6

/-- A piece is read back from its digits. -/
theorem piece?_pieceText (piece : UInt16) : piece? (pieceText piece) = some piece := by
  -- Sixteen bits need four digits at most.
  have short : (pieceText piece).length ≤ 4 :=
    (Nat.length_toDigits_le_iff (by decide) (by decide)).mpr piece.toNat_lt
  have digits : (pieceText piece).all Ascii.isHexDigit = true :=
    List.all_eq_true.mpr fun c member => Ascii.isHexDigit_of_mem_toDigits member
  have value : Ascii.hexadecimalValue (pieceText piece) = piece.toNat :=
    Ascii.hexadecimalValue_toDigits piece.toNat
  rw [piece?, if_pos ⟨Nat.toDigits_ne_nil, short, digits⟩, value, UInt16.ofNat_toNat]

/-- A mark that is no digit does not stand in a piece. -/
theorem not_mem_pieceText {c : Char} (other : Ascii.isHexDigit c = false) (piece : UInt16) :
    c ∉ pieceText piece := by
  -- A piece is written in hexadecimal digits only.
  intro member
  simp [Ascii.isHexDigit_of_mem_toDigits member] at other

/-- Without pieces there is no text, and only then. -/
theorem piecesText_eq_nil_iff {pieces : List UInt16} : piecesText pieces = [] ↔ pieces = [] := by
  constructor
  · intro empty
    cases pieces with
    | nil => rfl
    | cons piece more =>
      -- The first piece has a digit.
      have filled : pieceText piece ≠ [] := Nat.toDigits_ne_nil
      have member : pieceText piece ∈ (piece :: more).map pieceText := List.mem_map_of_mem (by simp)
      exact absurd empty (joinFields_ne_nil member filled)
  · rintro rfl
    rfl

/-- The pieces are read back from their fields; none of them is taken for dotted bytes. -/
theorem fieldPieces?_map_pieceText (ends : Bool) (pieces : List UInt16) :
    fieldPieces? ends (pieces.map pieceText) = some pieces := by
  have undotted (piece : UInt16) : (pieceText piece).contains '.' = false := by
    rw [List.contains_eq_mem, decide_eq_false_iff_not]
    exact not_mem_pieceText (by decide) piece
  -- Only the last field could be dotted bytes, and it holds no dot either.
  induction pieces with
  | nil => rfl
  | cons piece more ih =>
    cases more with
    | nil =>
      rw [List.map_singleton, fieldPieces?, undotted, Bool.and_false, if_neg Bool.false_ne_true,
        piece?_pieceText]
      rfl
    | cons next others =>
      rw [List.map_cons] at ih ⊢
      rw [List.map_cons, fieldPieces?, ih, piece?_pieceText]
      · rfl
      · simp

/-- The pieces of one side are read back from their text. -/
theorem sidePieces?_piecesText (ends : Bool) (pieces : List UInt16) :
    sidePieces? ends (piecesText pieces) = some pieces := by
  by_cases none : pieces = []
  · rw [none]
    rfl
  · -- The colons between the pieces are the only ones.
    have cut : fields ':' (piecesText pieces) = pieces.map pieceText := by
      refine fields_joinFields (by simpa using none) ?_
      intro text member
      obtain ⟨piece, -, rfl⟩ := List.mem_map.mp member
      exact not_mem_pieceText (by decide) piece
    rw [sidePieces?, if_neg (mt piecesText_eq_nil_iff.mp none), cut, fieldPieces?_map_pieceText]

/-- A text without colons in front is no part of a gap. -/
theorem splitGap_append {text : List Char} (absent : ':' ∉ text) (rest : List Char) :
    splitGap (text ++ rest) =
      (splitGap rest).map fun (before, after) => (text ++ before, after) := by
  -- Each character of the text is passed over.
  induction text with
  | nil => simp
  | cons c more ih =>
    have other : c ≠ ':' := fun same => absent (same ▸ List.mem_cons_self)
    rw [List.cons_append, splitGap, ih fun member => absent (List.mem_cons_of_mem _ member),
      Option.map_map]
    · rfl
    · intro _ same
      exact absurd same other

/-- A single colon is no gap. -/
theorem splitGap_colon {c : Char} (other : c ≠ ':') (rest : List Char) :
    splitGap (':' :: c :: rest) =
      (splitGap (c :: rest)).map fun (before, after) => (':' :: before, after) := by
  -- A single colon opens no gap.
  rw [splitGap]
  intro behind _ same
  exact other (List.cons.inj same).1

/-- A gap stands behind pieces and not among them. -/
theorem splitGap_piecesText (pieces : List UInt16) (rest : List Char) :
    splitGap (piecesText pieces ++ rest) =
      (splitGap rest).map fun (before, after) => (piecesText pieces ++ before, after) := by
  have absent (piece : UInt16) : ':' ∉ pieceText piece := not_mem_pieceText (by decide) piece
  induction pieces with
  | nil => simp [piecesText]
  | cons piece more ih =>
    cases more with
    -- The digits of the last piece are passed over.
    | nil => simpa [piecesText] using splitGap_append (absent piece) rest
    | cons next others =>
      -- A digit follows every colon between two pieces.
      have starts : ∃ c digits, c ≠ ':' ∧ piecesText (next :: others) ++ rest = c :: digits := by
        have filled : pieceText next ≠ [] := Nat.toDigits_ne_nil
        obtain ⟨c, digits, spelled⟩ := List.exists_cons_of_ne_nil filled
        have other : c ≠ ':' := fun same => absent next (by simp [spelled, same])
        cases others with
        | nil => exact ⟨c, digits ++ rest, other, by simp [piecesText, spelled]⟩
        | cons third last => exact ⟨c, _, other, by simp [piecesText, spelled]; rfl⟩
      obtain ⟨c, digits, other, behind⟩ := starts
      have whole : piecesText (piece :: next :: others) ++ rest =
          pieceText piece ++ ':' :: (piecesText (next :: others) ++ rest) := by
        simp [piecesText]
      have past : splitGap (':' :: (piecesText (next :: others) ++ rest)) =
          (splitGap (piecesText (next :: others) ++ rest)).map fun (before, after) =>
            (':' :: before, after) := by
        rw [behind, splitGap_colon other]
      -- So the piece and its colon are passed over, and the others by induction.
      rw [whole, splitGap_append (absent piece), past, ih, Option.map_map, Option.map_map]
      congr 1
      funext parts
      simp [piecesText]

/-- The run that is left out is a run of zero pieces, at least two of them. -/
theorem longestZeros?_spec {pieces : List UInt16} {position run : Nat}
    (found : longestZeros? pieces = some (position, run)) :
    run = zerosFrom pieces position ∧ 2 ≤ run := by
  -- This holds of the best run after every position.
  have kept (positions : List Nat) : ∀ best : Option (Nat × Nat),
      (∀ p r, best = some (p, r) → r = zerosFrom pieces p ∧ 2 ≤ r) →
      ∀ p r, positions.foldl (fun best position =>
          let run := zerosFrom pieces position
          if 2 ≤ run ∧ (best.map (·.2)).getD 0 < run then some (position, run) else best) best =
        some (p, r) → r = zerosFrom pieces p ∧ 2 ≤ r := by
    induction positions with
    | nil => exact fun best known => known
    | cons next rest ih =>
      intro best known
      refine ih _ ?_
      intro p r same
      simp only at same
      -- Either the run at this position is the best one now, or the best one stays.
      split at same
      · rename_i longer
        cases same
        exact ⟨rfl, longer.1⟩
      · exact known p r same
  exact kept (List.range pieces.length) none (by simp) position run found

/-- Zeros can be put back where a run of them was left out. -/
theorem take_append_zeros (pieces : List UInt16) (position : Nat) :
    pieces.take position ++ List.replicate (zerosFrom pieces position) 0 ++
      pieces.drop (position + zerosFrom pieces position) = pieces := by
  -- The run is a stretch of zeros from the position on.
  have zeros : (pieces.drop position).takeWhile (· = 0) =
      List.replicate (zerosFrom pieces position) 0 := by
    rw [List.eq_replicate_iff]
    refine ⟨rfl, ?_⟩
    intro piece member
    simpa using List.all_eq_true.mp List.all_takeWhile piece member
  have behind : pieces.drop (position + zerosFrom pieces position) =
      (pieces.drop position).dropWhile (· = 0) := by
    calc
      pieces.drop (position + zerosFrom pieces position)
        = (pieces.drop position).drop (zerosFrom pieces position) := List.drop_drop.symm
      _ = ((pieces.drop position).takeWhile (· = 0) ++
            (pieces.drop position).dropWhile (· = 0)).drop (zerosFrom pieces position) := by
        rw [List.takeWhile_append_dropWhile]
      _ = (pieces.drop position).dropWhile (· = 0) := List.drop_left
  rw [← zeros, behind, List.append_assoc, List.takeWhile_append_dropWhile, List.take_append_drop]

/-- An address is read back from its written form. -/
theorem read?_text (address : Ipv6) : read? address.text = some address := by
  obtain ⟨pieces, eight⟩ := address
  unfold text
  simp only
  cases found : longestZeros? pieces with
  | none =>
    -- Without a gap there are eight pieces.
    have whole := splitGap_piecesText pieces []
    rw [List.append_nil] at whole
    simp only [read?, whole, splitGap, Option.map_none, sidePieces?_piecesText]
    exact dif_pos eight
  | some gap =>
    obtain ⟨position, run⟩ := gap
    obtain ⟨rfl, several⟩ := longestZeros?_spec found
    -- The zeros of the gap are those that the two sides leave missing.
    have pieced := take_append_zeros pieces position
    have length := congrArg List.length pieced
    simp only [List.length_append, List.length_replicate, eight] at length
    have missing : 8 - (pieces.take position).length -
        (pieces.drop (position + zerosFrom pieces position)).length =
          zerosFrom pieces position := by omega
    have few : (pieces.take position).length +
        (pieces.drop (position + zerosFrom pieces position)).length ≤ 7 := by omega
    -- The text is cut where two colons meet, which happens at the gap only.
    have cut : splitGap (piecesText (pieces.take position) ++ ':' :: ':' ::
        piecesText (pieces.drop (position + zerosFrom pieces position))) =
          some (piecesText (pieces.take position),
            piecesText (pieces.drop (position + zerosFrom pieces position))) := by
      rw [splitGap_piecesText, splitGap]
      simp
    simp only [read?, cut, sidePieces?_piecesText, Option.bind_eq_bind, Option.bind_some,
      if_pos few, missing, pieced]
    exact dif_pos eight

/-- An address is written in hexadecimal digits and colons. -/
theorem mem_text {address : Ipv6} {c : Char} (member : c ∈ address.text) :
    Ascii.isHexDigit c ∨ c = ':' := by
  have pieced {pieces : List UInt16} (inside : c ∈ piecesText pieces) :
      Ascii.isHexDigit c ∨ c = ':' := by
    rcases mem_joinFields inside with same | ⟨text, written, digit⟩
    · exact .inr same
    · obtain ⟨piece, -, rfl⟩ := List.mem_map.mp written
      exact .inl (Ascii.isHexDigit_of_mem_toDigits digit)
  -- A gap is two colons between the pieces of either side.
  unfold text at member
  split at member
  · exact pieced member
  · simp only [List.mem_append, List.mem_cons] at member
    rcases member with left | same | same | right
    · exact pieced left
    · exact .inr same
    · exact .inr same
    · exact pieced right

end Ipv6

end Locator
