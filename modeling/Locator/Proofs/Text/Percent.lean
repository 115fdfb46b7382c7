import Locator.Proofs.Text.Fields
import Locator.Proofs.Text.Utf8
import Locator.Text.Percent

/-! What percent-encoding writes, and that decoding gives the encoded text back. -/

namespace Locator

namespace Ascii

/-- A property that all ASCII characters have can be checked one by one. -/
theorem forall_of_lt {holds : Char → Prop} (checked : ∀ n < 128, holds (Char.ofNat n)) :
    ∀ c : Char, c.toNat < 128 → holds c := by
  -- A character is determined by its code point.
  intro c ascii
  have known := checked c.toNat ascii
  rwa [Char.ofNat_toNat] at known

/-- Letters and digits are ASCII characters. -/
theorem toNat_lt_of_isAlphanum {c : Char} (letter : c.isAlphanum) : c.toNat < 128 := by
  -- Each of the three ranges ends below the bound.
  have ranges : (decide ('A'.val ≤ c.val ∧ c.val ≤ 'Z'.val) ||
      (decide ('a'.val ≤ c.val) && decide (c.val ≤ 'z'.val)) ||
      (decide ('0'.val ≤ c.val) && decide (c.val ≤ '9'.val))) = true := letter
  simp only [Bool.or_eq_true, Bool.and_eq_true, decide_eq_true_eq] at ranges
  have bound {low high : UInt32} (range : low ≤ c.val ∧ c.val ≤ high) (small : high.toNat < 128) :
      c.toNat < 128 := Nat.lt_of_le_of_lt (UInt32.le_iff_toNat_le.mp range.2) small
  rcases ranges with (upper | lower) | digit
  · exact bound upper (by decide)
  · exact bound lower (by decide)
  · exact bound digit (by decide)

/-- Unreserved characters are ASCII characters. -/
theorem toNat_lt_of_isUnreserved {c : Char} (unreserved : isUnreserved c) : c.toNat < 128 := by
  -- Beside the letters and digits there are four marks.
  simp only [isUnreserved, Bool.or_eq_true, decide_eq_true_eq] at unreserved
  rcases unreserved with (((letter | same) | same) | same) | same
  · exact toNat_lt_of_isAlphanum letter
  all_goals
    subst same
    decide

/-- A hexadecimal digit has the value that it was written for. -/
theorem hexValue?_hexDigit : ∀ value < 16, hexValue? (hexDigit value) = some value := by
  -- There are sixteen digits.
  decide

/-- A hexadecimal digit is a letter or a decimal digit. -/
theorem isAlphanum_hexDigit : ∀ value < 16, (hexDigit value).isAlphanum := by
  -- There are sixteen digits.
  decide

end Ascii

namespace Percent

variable {keep : Char → Bool}

/-- A triplet stands for its byte. -/
theorem decode_triplet (byte : UInt8) (rest : List Char) :
    decode (triplet byte ++ rest) = byte :: decode rest := by
  -- The two digits are the two halves of the byte.
  have size := byte.toNat_lt
  have high := Ascii.hexValue?_hexDigit (byte.toNat / 16) (by omega)
  have low := Ascii.hexValue?_hexDigit (byte.toNat % 16) (by omega)
  have halves : 16 * (byte.toNat / 16) + byte.toNat % 16 = byte.toNat := by omega
  simp only [triplet, List.cons_append, List.nil_append, decode, high, low, halves,
    UInt8.ofNat_toNat]

/-- Triplets stand for their bytes. -/
theorem decode_triplets (bytes : List UInt8) (rest : List Char) :
    decode (bytes.flatMap triplet ++ rest) = bytes ++ decode rest := by
  -- Each triplet is three characters long, so the next one starts right behind it.
  induction bytes with
  | nil => rfl
  | cons byte more ih =>
    rw [List.flatMap_cons, List.append_assoc, decode_triplet, ih, List.cons_append]

/-- Every character but a percent sign stands for itself. -/
theorem decode_cons {c : Char} (plain : c ≠ '%') (rest : List Char) :
    decode (c :: rest) = Utf8.encodeChar c ++ decode rest := by
  -- Only a percent sign can open a triplet.
  rw [decode]
  intro high low more same _
  exact plain same

/-- A written text stands for a text, whatever follows it. -/
def Spells (written text : List Char) : Prop :=
  ∀ rest, decode (written ++ rest) = Utf8.encode text ++ decode rest

namespace Spells

/-- What stands for a text decodes to the bytes of the text. -/
theorem decode_eq {written text : List Char} (spells : Spells written text) :
    decode written = Utf8.encode text := by
  -- The text behind may be empty.
  have whole := spells []
  rwa [List.append_nil, decode, List.append_nil] at whole

/-- What stands for a text decodes to it. -/
theorem decodeText?_eq {written text : List Char} (spells : Spells written text) :
    decodeText? written = some text := by
  -- The bytes are those of the text, which come back from UTF-8.
  rw [decodeText?, spells.decode_eq, Utf8.decode?_encode]

/-- Nothing stands for nothing. -/
theorem nil : Spells [] [] := fun _ => rfl

/-- What stands for two texts stands for the one text that they make up. -/
theorem append {first second text more : List Char} (front : Spells first text)
    (back : Spells second more) : Spells (first ++ second) (text ++ more) := by
  -- The second text and all behind it is what stands behind the first one.
  intro rest
  calc
    decode (first ++ second ++ rest) = decode (first ++ (second ++ rest)) := by
      rw [List.append_assoc]
    _ = Utf8.encode text ++ (Utf8.encode more ++ decode rest) := by rw [front, back]
    _ = Utf8.encode (text ++ more) ++ decode rest := by
      rw [Utf8.encode_append, List.append_assoc]

/-- Every character but a percent sign stands for itself. -/
theorem cons {c : Char} (plain : c ≠ '%') {written text : List Char}
    (spells : Spells written text) : Spells (c :: written) (c :: text) := by
  -- A character that is no percent sign opens no triplet.
  intro rest
  rw [List.cons_append, decode_cons plain, spells, Utf8.encode_cons, List.append_assoc]

/-- A text without percent signs stands for itself. -/
theorem of_not_mem {text : List Char} (absent : '%' ∉ text) : Spells text text := by
  -- Every character is followed by a text that stands for itself already.
  induction text with
  | nil => exact nil
  | cons c rest ih =>
    have plain : c ≠ '%' := fun same => absent (same ▸ List.mem_cons_self)
    exact cons plain (ih fun member => absent (List.mem_cons_of_mem _ member))

end Spells

/-- An encoded character stands for the character, unless percent signs are kept. -/
theorem spells_encodeChar (sign : keep '%' = false) (c : Char) :
    Spells (encodeChar keep c) [c] := by
  intro rest
  rw [Utf8.encode, List.flatMap_singleton]
  unfold encodeChar
  split
  · -- A kept character is no percent sign, so it opens no triplet.
    rename_i kept
    have plain : c ≠ '%' := fun same => by simp [same, sign] at kept
    exact decode_cons plain rest
  · -- The triplets hold exactly the bytes of the character.
    exact decode_triplets _ rest

/-- An encoded text stands for the text, unless percent signs are kept. -/
theorem spells_encode (sign : keep '%' = false) (text : List Char) :
    Spells (encode keep text) text := by
  -- The characters are encoded one after another.
  induction text with
  | nil => exact .nil
  | cons c rest ih => exact (spells_encodeChar sign c).append ih

/-- Texts with a separator between them are spelled by the joined forms of all of them. -/
theorem spells_joinFields {separator : Char} (plain : separator ≠ '%')
    {write : String → List Char} {texts : List String}
    (spells : ∀ text ∈ texts, Spells (write text) text.toList) :
    Spells (joinFields separator (texts.map write))
      (joinFields separator (texts.map String.toList)) := by
  -- The separator stands for itself between the forms of two texts.
  induction texts with
  | nil => exact .nil
  | cons text more ih =>
    have front := spells text List.mem_cons_self
    have back := ih fun other member => spells other (List.mem_cons_of_mem _ member)
    cases more with
    | nil => simpa using front
    | cons next others =>
      simp only [List.map_cons, joinFields_cons_cons] at back ⊢
      exact front.append (back.cons plain)

/-- The encoding of a text opens with that of its first character. -/
theorem encode_cons (c : Char) (rest : List Char) :
    encode keep (c :: rest) = encodeChar keep c ++ encode keep rest :=
  List.flatMap_cons

/-- The encodings of two texts follow each other. -/
theorem encode_append (text more : List Char) :
    encode keep (text ++ more) = encode keep text ++ encode keep more :=
  List.flatMap_append

/-- Only the characters of a text decide how it is encoded. -/
theorem encode_congr {other : Char → Bool} {text : List Char}
    (same : ∀ c ∈ text, keep c = other c) : encode keep text = encode other text := by
  -- Each character is written on its own.
  induction text with
  | nil => rfl
  | cons c rest ih =>
    have behind := ih fun d member => same d (List.mem_cons_of_mem _ member)
    calc
      encode keep (c :: rest) = encodeChar keep c ++ encode keep rest := by rw [encode_cons]
      _ = encodeChar other c ++ encode other rest := by
        rw [encodeChar, encodeChar, same c List.mem_cons_self, behind]
      _ = encode other (c :: rest) := by rw [encode_cons]

/-- No byte beyond ASCII is left as it is. -/
theorem encodeBytes_of_beyond {bytes : List UInt8} (beyond : ∀ byte ∈ bytes, 0x80 ≤ byte.toNat) :
    encodeBytes bytes = bytes.flatMap triplet := by
  induction bytes with
  | nil => rfl
  | cons byte more ih =>
    have high := beyond byte List.mem_cons_self
    have size := byte.toNat_lt
    -- The character of that number is none of ASCII, so it is not unreserved.
    have valid : byte.toNat.isValidChar := .inl (by omega)
    have number : (Char.ofNat byte.toNat).toNat = byte.toNat := by
      rw [Char.ofNat, dif_pos valid]
      rfl
    have reserved : ¬ Ascii.isUnreserved (Char.ofNat byte.toNat) := by
      intro unreserved
      have low := Ascii.toNat_lt_of_isUnreserved unreserved
      omega
    have here : encodeByte byte = triplet byte := if_neg reserved
    have rest := ih fun other member => beyond other (List.mem_cons_of_mem _ member)
    show encodeByte byte ++ encodeBytes more = _
    rw [here, rest, List.flatMap_cons]

/-- The bytes of a character are encoded as the character is. -/
theorem encodeBytes_encodeChar (c : Char) :
    encodeBytes (Utf8.encodeChar c) = encodeChar Ascii.isUnreserved c := by
  by_cases ascii : c.toNat < 0x80
  · -- The only byte is the character itself.
    have byte : Utf8.encodeChar c = [.ofNat c.toNat] := if_pos ascii
    have value : Char.ofNat (UInt8.ofNat c.toNat).toNat = c := by
      rw [Utf8.toNat_ofNat (by omega), Char.ofNat_toNat]
    simp only [encodeBytes, encodeByte, encodeChar, byte, value, List.flatMap_singleton]
  · -- Neither the character nor any of its bytes is unreserved, so all become triplets.
    have reserved : ¬ Ascii.isUnreserved c :=
      fun unreserved => ascii (Ascii.toNat_lt_of_isUnreserved unreserved)
    rw [encodeChar, if_neg reserved]
    exact encodeBytes_of_beyond fun byte member =>
      Utf8.le_toNat_of_mem_encodeChar (Nat.not_lt.mp ascii) member

/-- The bytes of a text are encoded as its characters are. -/
theorem encodeBytes_encode (text : List Char) :
    encodeBytes (Utf8.encode text) = encode Ascii.isUnreserved text := by
  -- The bytes of the characters follow each other.
  induction text with
  | nil => rfl
  | cons c rest ih =>
    rw [Utf8.encode_cons, encode_cons, ← encodeBytes_encodeChar, ← ih]
    exact List.flatMap_append

/-- A text of kept characters is not changed. -/
theorem encode_of_kept {text : List Char} (kept : ∀ c ∈ text, keep c) :
    encode keep text = text := by
  -- Each kept character is written as itself.
  induction text with
  | nil => rfl
  | cons c rest ih =>
    rw [encode_cons, encodeChar, if_pos (kept c List.mem_cons_self),
      ih fun d member => kept d (List.mem_cons_of_mem _ member), List.singleton_append]

/-- An encoded text holds the kept characters of the text, percent signs, letters and digits. -/
theorem mem_of_mem_encode {text : List Char} {c : Char} (member : c ∈ encode keep text) :
    c ∈ text ∧ keep c ∨ c = '%' ∨ c.isAlphanum := by
  obtain ⟨d, inside, written⟩ := List.mem_flatMap.mp member
  unfold encodeChar at written
  split at written
  · -- A kept character stands for itself.
    rename_i kept
    rw [List.mem_singleton.mp written]
    exact .inl ⟨inside, kept⟩
  · -- A triplet is a percent sign with two hexadecimal digits.
    obtain ⟨byte, -, digit⟩ := List.mem_flatMap.mp written
    have size := byte.toNat_lt
    simp only [triplet, List.mem_cons, List.not_mem_nil, or_false] at digit
    rcases digit with same | same | same
    · exact .inr (.inl same)
    · rw [same]
      exact .inr (.inr (Ascii.isAlphanum_hexDigit _ (by omega)))
    · rw [same]
      exact .inr (.inr (Ascii.isAlphanum_hexDigit _ (by omega)))

/-- An encoded text holds kept characters, percent signs, letters and digits. -/
theorem mem_encode {text : List Char} {c : Char} (member : c ∈ encode keep text) :
    keep c ∨ c = '%' ∨ c.isAlphanum :=
  (mem_of_mem_encode member).imp_left And.right

/-- A character that is not kept leaves the triplet of its first byte behind. -/
theorem exists_triplet_of_mem {text : List Char} {c : Char} (member : c ∈ text)
    (given : keep c = false) :
    ∃ byte more, Utf8.encodeChar c = byte :: more ∧ triplet byte <:+: encode keep text := by
  -- A character has at least one byte, whose triplet stands where the character stood.
  obtain ⟨byte, more, bytes⟩ := List.exists_cons_of_ne_nil (Utf8.encodeChar_ne_nil c)
  obtain ⟨front, back, rfl⟩ := List.append_of_mem member
  refine ⟨byte, more, bytes, encode keep front, more.flatMap triplet ++ encode keep back, ?_⟩
  simp [encode, encodeChar, given, bytes]

/-- Only the empty text is encoded as nothing. -/
theorem encode_ne_nil {text : List Char} (filled : text ≠ []) : encode keep text ≠ [] := by
  obtain ⟨c, rest, rfl⟩ := List.exists_cons_of_ne_nil filled
  -- A character has at least one byte, and a byte has a triplet.
  obtain ⟨byte, more, whole⟩ := List.exists_cons_of_ne_nil (Utf8.encodeChar_ne_nil c)
  intro empty
  have first : encodeChar keep c = [] := (List.append_eq_nil_iff.mp empty).1
  unfold encodeChar at first
  split at first
  · simp at first
  · simp [whole, triplet] at first

/-- Whether a text starts with two hexadecimal digits. -/
def opensTriplet : List Char → Bool
  | high :: low :: _ => Ascii.isHexDigit high && Ascii.isHexDigit low
  | _ => false

/-- A percent sign in front of two hexadecimal digits stands for a byte with them. -/
theorem exists_decode_triplet {high low : Char} (front : Ascii.isHexDigit high)
    (back : Ascii.isHexDigit low) :
    ∃ byte, ∀ rest, decode ('%' :: high :: low :: rest) = byte :: decode rest := by
  -- Two digits have a value each.
  obtain ⟨x, first⟩ := Option.isSome_iff_exists.mp front
  obtain ⟨y, second⟩ := Option.isSome_iff_exists.mp back
  exact ⟨.ofNat (16 * x + y), fun rest => by simp only [decode, first, second]⟩

/-- Every character stands for itself but for a percent sign that opens a triplet. -/
theorem decode_cons_of_not_triplet {c : Char} {rest : List Char}
    (other : c = '%' → opensTriplet rest = false) :
    decode (c :: rest) = Utf8.encodeChar c ++ decode rest := by
  by_cases sign : c = '%'
  · subst sign
    have shut := other rfl
    -- With less than two characters behind it the sign opens nothing.
    match rest, shut with
    | [], _ => rfl
    | [_], _ => rfl
    | high :: low :: more, shut =>
      simp only [opensTriplet, Bool.and_eq_false_iff, Ascii.isHexDigit, Option.isSome_eq_false_iff,
        Option.isNone_iff_eq_none] at shut
      rcases shut with none | none
      · simp only [decode, none]
      · cases first : Ascii.hexValue? high <;> simp only [decode, first, none]
  · exact decode_cons sign rest

/-- A text is read triplet by triplet, and character by character in between. -/
@[elab_as_elim]
theorem triplet_induction {motive : List Char → Prop} (nil : motive [])
    (triplet : ∀ high low rest, Ascii.isHexDigit high → Ascii.isHexDigit low → motive rest →
      motive ('%' :: high :: low :: rest))
    (cons : ∀ c rest, (c = '%' → opensTriplet rest = false) → motive rest → motive (c :: rest)) :
    ∀ text, motive text := by
  intro text
  -- The induction is on the length, because a triplet takes three characters at once.
  induction size : text.length using Nat.strongRecOn generalizing text with
  | ind _ ih =>
    subst size
    match text with
    | [] => exact nil
    | c :: rest =>
      by_cases opened : c = '%' ∧ opensTriplet rest
      · -- A percent sign in front of two digits takes them along.
        obtain ⟨rfl, opens⟩ := opened
        match rest, opens with
        | high :: low :: more, opens =>
          simp only [opensTriplet, Bool.and_eq_true] at opens
          exact triplet high low more opens.1 opens.2 (ih more.length (by simp; omega) more rfl)
      · -- Any other character, or a sign that opens no triplet, is taken alone.
        refine cons c rest (fun sign => ?_) (ih rest.length (by simp) rest rfl)
        simpa [sign] using opened

/-- A triplet does not reach over a character that is no hexadecimal digit. -/
theorem opensTriplet_append {c : Char} (other : Ascii.isHexDigit c = false)
    (text rest : List Char) : opensTriplet (text ++ c :: rest) = opensTriplet text := by
  -- Two characters decide, and the one behind the text is no digit.
  match text with
  | [] => cases rest <;> simp [opensTriplet, other]
  | [first] => simp [opensTriplet, other]
  | _ :: _ :: _ => rfl

/-- What stands on both sides of a character that is no hexadecimal digit is decoded on its own. -/
theorem decode_append_cons {c : Char} (other : Ascii.isHexDigit c = false)
    (text rest : List Char) : decode (text ++ c :: rest) = decode text ++ decode (c :: rest) := by
  -- The induction is on the triplets of the text; the character behind it completes none.
  induction text using triplet_induction with
  | nil => rfl
  | triplet high low more front back ih =>
    obtain ⟨byte, stands⟩ := exists_decode_triplet front back
    simp only [List.cons_append, stands, ih]
  | cons d more single ih =>
    have alone : d = '%' → opensTriplet (more ++ c :: rest) = false := fun sign => by
      rw [opensTriplet_append other, single sign]
    calc
      decode (d :: more ++ c :: rest) = Utf8.encodeChar d ++ decode (more ++ c :: rest) :=
        decode_cons_of_not_triplet alone
      _ = Utf8.encodeChar d ++ (decode more ++ decode (c :: rest)) := by rw [ih]
      _ = decode (d :: more) ++ decode (c :: rest) := by
        rw [decode_cons_of_not_triplet single, List.append_assoc]

/-- What is not kept is written with a percent sign in front. -/
theorem exists_encodeChar_sign {c : Char} (given : keep c = false) :
    ∃ more, encodeChar keep c = '%' :: more := by
  -- The first byte of the character gives the first triplet.
  obtain ⟨byte, bytes, whole⟩ := List.exists_cons_of_ne_nil (Utf8.encodeChar_ne_nil c)
  exact ⟨_, by rw [encodeChar, given, if_neg Bool.false_ne_true, whole]; rfl⟩

/-- Encoding neither makes nor breaks the front of a triplet when hexadecimal digits are kept. -/
theorem opensTriplet_encode (digits : ∀ c, Ascii.isHexDigit c → keep c) (text : List Char) :
    opensTriplet (encode keep text) = opensTriplet text := by
  -- What is not kept is no digit, and neither is the percent sign that is written for it.
  have given (c : Char) (out : keep c = false) : Ascii.isHexDigit c = false :=
    Bool.eq_false_iff.mpr fun digit => by simp [digits c digit] at out
  have shut (more : List Char) : opensTriplet ('%' :: more) = false := by
    cases more <;> rfl
  match text with
  | [] => rfl
  | first :: rest =>
    rw [encode_cons]
    cases keepsFirst : keep first with
    | false =>
      -- The first character is no digit, neither by itself nor as it is encoded.
      obtain ⟨more, signed⟩ := exists_encodeChar_sign keepsFirst
      rw [signed, List.cons_append, shut]
      cases rest <;> simp [opensTriplet, given first keepsFirst]
    | true =>
      rw [encodeChar, if_pos keepsFirst]
      match rest with
      | [] => rfl
      | second :: others =>
        rw [encode_cons]
        cases keepsSecond : keep second with
        | false =>
          -- Neither is the second one.
          obtain ⟨more, signed⟩ := exists_encodeChar_sign keepsSecond
          have sign : Ascii.isHexDigit '%' = false := by decide
          simp [signed, opensTriplet, given second keepsSecond, sign]
        | true =>
          -- Both are kept as they stand.
          rw [encodeChar, if_pos keepsSecond]
          rfl

/-- Encoding leaves what a text stands for when percent signs and digits are kept. -/
theorem decode_encode (sign : keep '%') (digits : ∀ c, Ascii.isHexDigit c → keep c)
    (text : List Char) : decode (encode keep text) = decode text := by
  induction text using triplet_induction with
  | nil => rfl
  | triplet high low rest front back ih =>
    -- The characters of a triplet are all kept, and so is the triplet.
    have written : encode keep ('%' :: high :: low :: rest) =
        '%' :: high :: low :: encode keep rest := by
      simp [encode, encodeChar, sign, digits high front, digits low back]
    obtain ⟨byte, stands⟩ := exists_decode_triplet front back
    rw [written, stands, stands, ih]
  | cons c rest single ih =>
    rw [encode_cons, decode_cons_of_not_triplet single, ← ih]
    rw [encodeChar]
    split
    · -- A kept percent sign still opens no triplet.
      have alone : c = '%' → opensTriplet (encode keep rest) = false := fun same => by
        rw [opensTriplet_encode digits, single same]
      exact decode_cons_of_not_triplet alone
    · -- What is not kept is written in triplets, which give its bytes.
      exact decode_triplets _ _

/-- Texts with a separator between them are decoded one by one, if it is a character of ASCII that
no triplet holds. -/
theorem decodeText?_joinFields {separator : Char} (ascii : separator.toNat < 0x80)
    (other : Ascii.isHexDigit separator = false) (plain : separator ≠ '%')
    {pieces : List (List Char)} (filled : pieces ≠ []) :
    decodeText? (joinFields separator pieces) =
      (pieces.mapM decodeText?).map (joinFields separator) := by
  -- A separator is one byte; neither a triplet nor a character of several bytes reaches over it.
  have byte : Utf8.encodeChar separator = [.ofNat separator.toNat] := if_pos ascii
  have value : (UInt8.ofNat separator.toNat).toNat = separator.toNat := Utf8.toNat_ofNat (by omega)
  refine read_joinFields (fun front back => ?_) filled
  calc
    decodeText? (front ++ separator :: back) =
        Utf8.decode? (decode front ++ .ofNat separator.toNat :: decode back) := by
      rw [decodeText?, decode_append_cons other, decode_cons plain, byte, List.singleton_append]
    _ = (Utf8.decode? (decode front)).bind fun left =>
          (Utf8.decode? (decode back)).map fun right => left ++ separator :: right := by
      rw [Utf8.decode?_append_cons (by rw [value]; exact ascii), value, Char.ofNat_toNat]

end Percent

end Locator
