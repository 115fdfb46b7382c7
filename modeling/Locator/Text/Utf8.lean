/-! UTF-8: the bytes of a character, the reading of bytes with every ill-formed run marked, and
offsets in a text, which count the bytes in front of a character. -/

namespace Locator

namespace Utf8

/-- The bytes of one character, one to four by the size of its code point. -/
def encodeChar (c : Char) : List UInt8 :=
  let n := c.toNat
  if n < 0x80 then [.ofNat n]
  else if n < 0x800 then [.ofNat (0xC0 + n / 64), .ofNat (0x80 + n % 64)]
  else if n < 0x10000 then
    [.ofNat (0xE0 + n / 4096), .ofNat (0x80 + n / 64 % 64), .ofNat (0x80 + n % 64)]
  else
    [.ofNat (0xF0 + n / 262144), .ofNat (0x80 + n / 4096 % 64),
      .ofNat (0x80 + n / 64 % 64), .ofNat (0x80 + n % 64)]

/-- The bytes of a text. -/
def encode (text : List Char) : List UInt8 :=
  text.flatMap encodeChar

/-- A character of several bytes that is still incomplete. -/
structure Pending where
  /-- Continuation bytes still due, at least one. -/
  due : Nat
  /-- The least byte that may come next. -/
  low : Nat
  /-- The greatest byte that may come next. -/
  high : Nat
  /-- The bits of the code point read so far. -/
  bits : Nat
  deriving DecidableEq, Repr

/-- What a byte adds between characters: a finished character or a refusal, and what it opens. -/
def start (byte : Nat) : List (Option Char) × Option Pending :=
  if byte < 0x80 then ([some (Char.ofNat byte)], none)
  else if 0xC2 ≤ byte ∧ byte ≤ 0xDF then ([], some ⟨1, 0x80, 0xBF, byte - 0xC0⟩)
  -- Four first bytes narrow the range of the second one: nothing is written longer than it has to
  -- be, half of a surrogate pair is no character, and U+10FFFF is the last one.
  else if byte = 0xE0 then ([], some ⟨2, 0xA0, 0xBF, 0⟩)
  else if byte = 0xED then ([], some ⟨2, 0x80, 0x9F, 0xD⟩)
  else if 0xE1 ≤ byte ∧ byte ≤ 0xEF then ([], some ⟨2, 0x80, 0xBF, byte - 0xE0⟩)
  else if byte = 0xF0 then ([], some ⟨3, 0x90, 0xBF, 0⟩)
  else if 0xF1 ≤ byte ∧ byte ≤ 0xF3 then ([], some ⟨3, 0x80, 0xBF, byte - 0xF0⟩)
  else if byte = 0xF4 then ([], some ⟨3, 0x80, 0x8F, 4⟩)
  else ([none], none)

/-- What a byte adds; a byte that cannot continue refuses the pending run and starts afresh. -/
def step (pending : Option Pending) (byte : Nat) : List (Option Char) × Option Pending :=
  match pending with
  | none => start byte
  | some p =>
    if p.low ≤ byte ∧ byte ≤ p.high then
      let bits := 64 * p.bits + (byte - 0x80)
      if p.due ≤ 1 then ([some (Char.ofNat bits)], none)
      else ([], some ⟨p.due - 1, 0x80, 0xBF, bits⟩)
    else
      let (read, opened) := start byte
      (none :: read, opened)

/-- The characters that bytes hold, with `none` for every longest run that no character starts. -/
def readFrom (pending : Option Pending) : List UInt8 → List (Option Char)
  | [] => if pending.isSome then [none] else []
  | byte :: rest =>
    let (read, opened) := step pending byte.toNat
    read ++ readFrom opened rest

/-- The text that well-formed bytes encode. -/
def decode? (bytes : List UInt8) : Option (List Char) :=
  (readFrom none bytes).mapM id

/-- The text of any bytes, with U+FFFD for every ill-formed run. -/
def decodeLossy (bytes : List UInt8) : List Char :=
  (readFrom none bytes).map (·.getD '\uFFFD')

end Utf8

/-- The characters of a class in a text, each behind the offset at which it stands. -/
def occurrences (wanted : Char → Bool) (offset : Nat) : List Char → List (Nat × Char)
  | [] => []
  | c :: rest =>
    let later := occurrences wanted (offset + c.utf8Size) rest
    if wanted c then (offset, c) :: later else later

/-- Whether an offset cuts no character apart: the end, or a byte that continues no character. -/
def isBoundary (bytes : List UInt8) (offset : Nat) : Bool :=
  match bytes.drop offset with
  | [] => offset = bytes.length
  | byte :: _ => byte.toNat < 0x80 || 0xC0 ≤ byte.toNat

/-- The bytes from one offset up to another, none when the offsets are not in order or one of them
cuts a character apart. -/
def slice? (bytes : List UInt8) (start stop : Nat) : Option (List UInt8) :=
  if start ≤ stop ∧ isBoundary bytes start ∧ isBoundary bytes stop then
    some ((bytes.take stop).drop start)
  else none

end Locator
