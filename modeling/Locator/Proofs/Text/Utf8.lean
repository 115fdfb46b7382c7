import Locator.Proofs.Text.Fields
import Locator.Text.Utf8

/-! Texts come back from their UTF-8 bytes, also when they are cut out by offsets. -/

namespace Locator

namespace Utf8

/-- The bytes that open a character of two bytes. -/
theorem start_two : ∀ high < 32, 2 ≤ high →
    start (0xC0 + high) = ([], some ⟨1, 0x80, 0xBF, high⟩) := by
  -- The two bytes below would only spell ASCII characters in a longer form.
  decide

/-- The bytes that open a character of three bytes; the first of them leaves no room for a shorter
form, and one leaves none for surrogates. -/
theorem start_three : ∀ high < 16, start (0xE0 + high) =
    ([], some ⟨2, if high = 0 then 0xA0 else 0x80, if high = 13 then 0x9F else 0xBF, high⟩) := by
  -- The sixteen first bytes of three.
  decide

/-- The bytes that open a character of four bytes; the first of them leaves no room for a shorter
form, and the last one none beyond the greatest code point. -/
theorem start_four : ∀ high < 5, start (0xF0 + high) =
    ([], some ⟨3, if high = 0 then 0x90 else 0x80, if high = 4 then 0x8F else 0xBF, high⟩) := by
  -- The five first bytes of four.
  decide

/-- A number below 256 is a byte. -/
theorem toNat_ofNat {byte : Nat} (small : byte < 256) : (UInt8.ofNat byte).toNat = byte :=
  UInt8.toNat_ofNat_of_lt' small

/-- A character of ASCII is one byte; any other is a byte that opens it and bytes that continue
it. -/
theorem cases_encodeChar (c : Char) :
    c.toNat < 0x80 ∧ encodeChar c = [.ofNat c.toNat] ∨
      0x80 ≤ c.toNat ∧ ∃ lead more, encodeChar c = lead :: more ∧ 0xC0 ≤ lead.toNat ∧
        ∀ byte ∈ more, 0x80 ≤ byte.toNat := by
  have valid : c.toNat < 0xD800 ∨ 0xDFFF < c.toNat ∧ c.toNat < 0x110000 := c.valid
  have value {bound n : Nat} (low : bound ≤ n) (small : n < 256) :
      bound ≤ (UInt8.ofNat n).toNat := by
    rw [toNat_ofNat small]
    exact low
  -- Every byte behind the first has the highest bit set.
  have last : ∀ byte ∈ [UInt8.ofNat (0x80 + c.toNat % 64)], 0x80 ≤ byte.toNat :=
    List.forall_mem_singleton.mpr (value (by omega) (by omega))
  have lastTwo : ∀ byte ∈ [UInt8.ofNat (0x80 + c.toNat / 64 % 64), .ofNat (0x80 + c.toNat % 64)],
      0x80 ≤ byte.toNat :=
    List.forall_mem_cons.mpr ⟨value (by omega) (by omega), last⟩
  -- The number of bytes follows the size of the code point.
  by_cases one : c.toNat < 0x80
  · -- A character of ASCII is its own byte.
    exact .inl ⟨one, if_pos one⟩
  · refine .inr ⟨Nat.not_lt.mp one, ?_⟩
    unfold encodeChar
    simp only [if_neg one]
    split
    · -- Two bytes.
      exact ⟨_, _, rfl, value (by omega) (by omega), last⟩
    · split
      · -- Three bytes.
        exact ⟨_, _, rfl, value (by omega) (by omega), lastTwo⟩
      · -- Four bytes.
        exact ⟨_, _, rfl, value (by omega) (by omega),
          List.forall_mem_cons.mpr ⟨value (by omega) (by omega), lastTwo⟩⟩

/-- Every character has at least one byte. -/
theorem encodeChar_ne_nil (c : Char) : encodeChar c ≠ [] := by
  -- There is a byte in ASCII, and a first byte beyond it.
  rcases cases_encodeChar c with ⟨-, written⟩ | ⟨-, lead, more, written, -⟩
  all_goals simp [written]

/-- The first byte of a character continues no other one. -/
theorem opens_of_encodeChar {c : Char} {byte : UInt8} {rest : List UInt8}
    (bytes : encodeChar c = byte :: rest) : byte.toNat < 0x80 ∨ 0xC0 ≤ byte.toNat := by
  -- A character of ASCII is its byte; any other one starts with a byte above all that continue.
  rcases cases_encodeChar c with ⟨ascii, written⟩ | ⟨-, lead, more, written, high, -⟩
  · left
    rw [← (List.cons.inj (written.symm.trans bytes)).1, toNat_ofNat (by omega)]
    exact ascii
  · right
    rw [← (List.cons.inj (written.symm.trans bytes)).1]
    exact high

/-- Every byte of a character beyond ASCII is one beyond ASCII itself. -/
theorem le_toNat_of_mem_encodeChar {c : Char} (beyond : 0x80 ≤ c.toNat) {byte : UInt8}
    (member : byte ∈ encodeChar c) : 0x80 ≤ byte.toNat := by
  -- The first byte lies above the bytes that continue, and these beyond ASCII.
  rcases cases_encodeChar c with ⟨ascii, -⟩ | ⟨-, lead, more, written, high, continues⟩
  · omega
  · rw [written] at member
    rcases List.mem_cons.mp member with same | later
    · rw [same]
      omega
    · exact continues byte later

/-- A first byte within ASCII is the character itself. -/
theorem toNat_eq_of_encodeChar {c : Char} {byte : UInt8} {rest : List UInt8}
    (bytes : encodeChar c = byte :: rest) (ascii : byte.toNat < 0x80) : c.toNat = byte.toNat := by
  rcases cases_encodeChar c with ⟨below, written⟩ | ⟨-, lead, more, written, high, -⟩
  · rw [← (List.cons.inj (written.symm.trans bytes)).1, toNat_ofNat (by omega)]
  · -- The first of several bytes lies beyond ASCII.
    rw [← (List.cons.inj (written.symm.trans bytes)).1] at ascii
    omega

/-- A character takes as many bytes as its size says. -/
theorem length_encodeChar (c : Char) : (encodeChar c).length = c.utf8Size := by
  -- The same three code points part the four widths on both sides.
  have one : c.val ≤ 0x7F ↔ c.toNat < 0x80 := UInt32.le_iff_toNat_le.trans Nat.lt_succ_iff.symm
  have two : c.val ≤ 0x7FF ↔ c.toNat < 0x800 := UInt32.le_iff_toNat_le.trans Nat.lt_succ_iff.symm
  have three : c.val ≤ 0xFFFF ↔ c.toNat < 0x10000 :=
    UInt32.le_iff_toNat_le.trans Nat.lt_succ_iff.symm
  have size : c.utf8Size = if c.val ≤ 0x7F then 1 else if c.val ≤ 0x7FF then 2
      else if c.val ≤ 0xFFFF then 3 else 4 := rfl
  rw [size]
  simp only [one, two, three, encodeChar]
  split
  · rfl
  · split
    · rfl
    · split <;> rfl

/-- A byte below 128 is a character. -/
theorem readFrom_single {byte : Nat} (small : byte < 0x80) (rest : List UInt8) :
    readFrom none (.ofNat byte :: rest) = some (Char.ofNat byte) :: readFrom none rest := by
  -- The byte finishes the character that it opens.
  have value : (UInt8.ofNat byte).toNat = byte := toNat_ofNat (by omega)
  simp [readFrom, step, start, value, small]

/-- A byte that opens a character leaves it pending. -/
theorem readFrom_lead {byte : Nat} {pending : Pending} (small : byte < 256)
    (opens : start byte = ([], some pending)) (rest : List UInt8) :
    readFrom none (.ofNat byte :: rest) = readFrom (some pending) rest := by
  -- A first byte gives nothing yet and leaves the others due.
  have value : (UInt8.ofNat byte).toNat = byte := toNat_ofNat small
  simp [readFrom, step, value, opens]

/-- A byte that continues a character adds six bits, and leaves it pending while more are due. -/
theorem readFrom_continue {pending : Pending} {bits : Nat} (small : bits < 64)
    (within : pending.low ≤ 0x80 + bits ∧ 0x80 + bits ≤ pending.high) (more : 1 < pending.due)
    (rest : List UInt8) :
    readFrom (some pending) (.ofNat (0x80 + bits) :: rest) =
      readFrom (some ⟨pending.due - 1, 0x80, 0xBF, 64 * pending.bits + bits⟩) rest := by
  -- The byte lies in the range that is asked for, so nothing is refused.
  have value : (UInt8.ofNat (0x80 + bits)).toNat = 0x80 + bits := toNat_ofNat (by omega)
  rw [readFrom, value, step, if_pos within]
  simp [Nat.not_le.mpr more]

/-- The last byte that is due finishes the character. -/
theorem readFrom_last {pending : Pending} {bits : Nat} (small : bits < 64)
    (within : pending.low ≤ 0x80 + bits ∧ 0x80 + bits ≤ pending.high) (last : pending.due ≤ 1)
    (rest : List UInt8) :
    readFrom (some pending) (.ofNat (0x80 + bits) :: rest) =
      some (Char.ofNat (64 * pending.bits + bits)) :: readFrom none rest := by
  -- The last byte that is due completes the character.
  have value : (UInt8.ofNat (0x80 + bits)).toNat = 0x80 + bits := toNat_ofNat (by omega)
  rw [readFrom, value, step, if_pos within]
  simp [last]

/-- A character is read back from its bytes, whatever follows them. -/
theorem readFrom_encodeChar (c : Char) (rest : List UInt8) :
    readFrom none (encodeChar c ++ rest) = some c :: readFrom none rest := by
  have valid : c.toNat < 0xD800 ∨ 0xDFFF < c.toNat ∧ c.toNat < 0x110000 := c.valid
  -- The bytes hold six bits of the code point each, the first one what is left over.
  suffices read : readFrom none (encodeChar c ++ rest) =
      some (Char.ofNat c.toNat) :: readFrom none rest by
    rwa [Char.ofNat_toNat] at read
  unfold encodeChar
  generalize c.toNat = n at valid
  -- The number of bytes follows the size of the code point.
  by_cases one : n < 0x80
  · simp only [if_pos one, List.singleton_append]
    exact readFrom_single one rest
  · by_cases two : n < 0x800
    · simp only [if_neg one, if_pos two, List.cons_append, List.nil_append]
      have bits : 64 * (n / 64) + n % 64 = n := by omega
      rw [readFrom_lead (by omega) (start_two _ (by omega) (by omega)),
        readFrom_last (by omega) (by simp only; omega) (by simp), bits]
    · by_cases three : n < 0x10000
      · simp only [if_neg one, if_neg two, if_pos three, List.cons_append, List.nil_append]
        have bits : 64 * (64 * (n / 4096) + n / 64 % 64) + n % 64 = n := by omega
        -- The range of the second byte shuts out surrogates, and the code point is none.
        rw [readFrom_lead (by omega) (start_three _ (by omega)),
          readFrom_continue (by omega) (by simp only; split <;> split <;> omega) (by simp),
          readFrom_last (by omega) (by simp only; omega) (by simp), bits]
      · simp only [if_neg one, if_neg two, if_neg three, List.cons_append, List.nil_append]
        have bits : 64 * (64 * (64 * (n / 262144) + n / 4096 % 64) + n / 64 % 64) + n % 64 = n := by
          omega
        -- Here it shuts out what lies beyond the greatest code point.
        rw [readFrom_lead (by omega) (start_four _ (by omega)),
          readFrom_continue (by omega) (by simp only; split <;> split <;> omega) (by simp),
          readFrom_continue (by omega) (by simp only; omega) (by simp),
          readFrom_last (by omega) (by simp only; omega) (by simp), bits]

/-- The bytes of a text start with those of its first character. -/
theorem encode_cons (c : Char) (rest : List Char) :
    encode (c :: rest) = encodeChar c ++ encode rest :=
  List.flatMap_cons

/-- The bytes of two texts follow each other. -/
theorem encode_append (text more : List Char) :
    encode (text ++ more) = encode text ++ encode more :=
  List.flatMap_append

/-- A further character adds its size to the number of bytes. -/
theorem length_encode_concat (text : List Char) (c : Char) :
    (encode (text ++ [c])).length = (encode text).length + c.utf8Size := by
  -- The new character has as many bytes as its size says.
  rw [encode_append, encode_cons, List.length_append, List.length_append, length_encodeChar]
  rfl

/-- No character is cut apart between two texts. -/
theorem isBoundary_encode (front rest : List Char) :
    isBoundary (encode (front ++ rest)) (encode front).length := by
  have behind : (encode (front ++ rest)).drop (encode front).length =
      encode rest := by
    rw [encode_append]
    exact List.drop_left
  rw [isBoundary, behind]
  -- Either the text is over there, or the first byte of a character follows.
  cases rest with
  | nil => simp [encode]
  | cons c more =>
    obtain ⟨byte, others, bytes⟩ := List.exists_cons_of_ne_nil (encodeChar_ne_nil c)
    rw [encode_cons, bytes]
    simpa using opens_of_encodeChar bytes

/-- Characters between two other runs are cut out by the offsets at which they start and end. -/
theorem slice?_encode (front gap rest : List Char) :
    slice? (encode (front ++ gap ++ rest)) (encode front).length
      (encode (front ++ gap)).length = some (encode gap) := by
  -- Both offsets stand between characters, and the first one is not behind the second.
  have first : isBoundary (encode (front ++ gap ++ rest)) (encode front).length := by
    rw [List.append_assoc]
    exact isBoundary_encode front (gap ++ rest)
  have last := isBoundary_encode (front ++ gap) rest
  have order : (encode front).length ≤ (encode (front ++ gap)).length := by
    rw [encode_append, List.length_append]
    omega
  rw [slice?, if_pos ⟨order, first, last⟩]
  congr 1
  -- What is taken up to the second offset and dropped up to the first is what stands between.
  calc
    ((encode (front ++ gap ++ rest)).take (encode (front ++ gap)).length).drop
        (encode front).length = (encode (front ++ gap)).drop (encode front).length := by
      rw [encode_append (front ++ gap), List.take_left]
    _ = encode gap := by rw [encode_append, List.drop_left]

/-- A text is read back from its bytes. -/
theorem readFrom_encode (text : List Char) : readFrom none (encode text) = text.map some := by
  -- The characters come back one after another.
  induction text with
  | nil => rfl
  | cons c rest ih =>
    rw [encode_cons, readFrom_encodeChar, ih, List.map_cons]

/-- The bytes of a text are well formed and hold that text. -/
theorem decode?_encode (text : List Char) : decode? (encode text) = some text := by
  -- No byte is refused, so every character is there.
  rw [decode?, readFrom_encode]
  exact mapM_map_eq_some fun _ _ => rfl

/-- Nothing is marked in the bytes of a text. -/
theorem decodeLossy_encode (text : List Char) : decodeLossy (encode text) = text := by
  -- Nothing is refused, so nothing is replaced.
  rw [decodeLossy, readFrom_encode, List.map_map]
  exact List.map_id' text

/-- A run of bytes that is not finished waits for a byte beyond ASCII. -/
def Awaits (pending : Option Pending) : Prop :=
  ∀ run ∈ pending, 0x80 ≤ run.low

/-- A byte that opens a run awaits one beyond ASCII. -/
theorem awaits_start (byte : Nat) : Awaits (start byte).2 := by
  -- Each kind of first byte leaves at least one byte due, from some that continue.
  unfold start Awaits
  repeat' split
  all_goals simp

/-- So does every byte that continues a run. -/
theorem awaits_step (pending : Option Pending) (byte : Nat) : Awaits (step pending byte).2 := by
  -- A byte either continues the run, and then one fewer is due, or starts afresh.
  unfold step
  split
  · exact awaits_start byte
  · split
    · dsimp only
      split <;> simp [Awaits]
    · exact awaits_start byte

/-- A byte within ASCII ends what stands before it, finished or not, and is a character itself. -/
theorem readFrom_append_cons {byte : UInt8} (ascii : byte.toNat < 0x80) (rest : List UInt8)
    {pending : Option Pending} (awaits : Awaits pending) (bytes : List UInt8) :
    readFrom pending (bytes ++ byte :: rest) =
      readFrom pending bytes ++ some (Char.ofNat byte.toNat) :: readFrom none rest := by
  -- The induction is on the bytes in front, for all runs that they may continue.
  induction bytes generalizing pending with
  | nil =>
    have opened : start byte.toNat = ([some (Char.ofNat byte.toNat)], none) := if_pos ascii
    cases pending with
    | none => simp [readFrom, step, opened]
    | some run =>
      have below : ¬ (run.low ≤ byte.toNat ∧ byte.toNat ≤ run.high) := by
        have least := awaits run rfl
        omega
      simp [readFrom, step, below, opened]
  | cons first more ih =>
    have after := ih (awaits_step pending first.toNat)
    simp only [List.cons_append, readFrom, after, List.append_assoc]

/-- Bytes around a character within ASCII are well formed on both sides of it or not at all. -/
theorem decode?_append_cons {byte : UInt8} (ascii : byte.toNat < 0x80) (bytes rest : List UInt8) :
    decode? (bytes ++ byte :: rest) = (decode? bytes).bind fun front =>
      (decode? rest).map fun back => front ++ Char.ofNat byte.toNat :: back := by
  -- A character of ASCII is finished at once, whatever is pending in front of it.
  have awaits : Awaits none := fun run member => by cases member
  rw [decode?, readFrom_append_cons ascii rest awaits, List.mapM_append, List.mapM_cons]
  simp only [decode?, Option.bind_eq_bind, id_eq, Option.bind_some, Option.pure_def]
  cases (readFrom none bytes).mapM id <;> cases (readFrom none rest).mapM id <;> rfl

end Utf8

end Locator
