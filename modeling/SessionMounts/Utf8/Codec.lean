/-!
The UTF-8 encoding form and its decoder. Every character becomes one to four bytes, a first byte that
tells their number and continuation bytes that carry six bits each. Decoding goes one byte at a time,
so that bytes may arrive in pieces of any size. The characters of a text are Unicode scalar values, so
there are no lone surrogates to encode.
-/

namespace SessionMounts.Utf8

/-- The continuation byte that carries the lowest six bits of a number. -/
def continuation (n : Nat) : UInt8 :=
  UInt8.ofNat (0x80 + n % 0x40)

/-- The bytes of one character. -/
def encodeChar (c : Char) : List UInt8 :=
  let n := c.toNat
  if n < 0x80 then [UInt8.ofNat n]
  else if n < 0x800 then [UInt8.ofNat (0xC0 + n / 0x40), continuation n]
  else if n < 0x10000 then
    [UInt8.ofNat (0xE0 + n / 0x1000), continuation (n / 0x40), continuation n]
  else
    [UInt8.ofNat (0xF0 + n / 0x40000), continuation (n / 0x1000), continuation (n / 0x40),
      continuation n]

def encode (text : List Char) : List UInt8 :=
  text.flatMap encodeChar

def width (text : List Char) : Nat :=
  (encode text).length

@[simp] theorem encode_nil : encode [] = [] := rfl

@[simp] theorem encode_append (front back : List Char) :
    encode (front ++ back) = encode front ++ encode back := by
  simp [encode]

/-! ### Decoding

Between two bytes the decoder holds at most one sequence that has begun and not ended; its next byte has
to lie in the range that keeps the sequence the shortest form of a Unicode scalar value. The first two
bytes of a surrogate are kept as well: the byte after them, whatever it is, brings the fault to light.
Decoding in pieces and decoding at once are the same function, so they accept the same bytes and find
the same faults. -/

/-- A sequence that has begun: the bytes seen, the value they carry so far, how many continuation
bytes are missing, and the range in which the next one has to lie. -/
structure Sequence where
  seen : List UInt8
  value : Nat
  missing : Nat
  low : Nat
  high : Nat
  deriving DecidableEq, Repr

/-- The state of the decoder between two bytes: nothing is kept, or a sequence that has begun, or
the first byte of a surrogate with the given second one. -/
inductive Pending where
  | nothing
  | begun (sequence : Sequence)
  | surrogate (second : UInt8)
  deriving DecidableEq, Repr

inductive Reason where
  | invalidStart
  | invalidContinuation
  | unexpectedEnd
  deriving DecidableEq, Repr

/-- A sequence that cannot be decoded: where it starts, its bytes up to the one that does not fit,
and what is wrong. -/
structure Fault where
  start : Nat
  bytes : List UInt8
  reason : Reason
  deriving DecidableEq, Repr

/-- What one byte does: it gives a character, or it begins or continues a sequence, or it cannot
stand there. -/
inductive Step where
  | character (c : Char)
  | pending (pending : Pending)
  | fault (reason : Reason)
  deriving DecidableEq, Repr

/-- What the first byte of a sequence does. The lead bytes 0xC0 and 0xC1 would write an ASCII
character in two bytes, those from 0xF5 on a number beyond the last scalar value. -/
def first (byte : UInt8) : Step :=
  let n := byte.toNat
  let lead (value missing low high : Nat) : Step :=
    .pending (.begun ⟨[byte], value, missing, low, high⟩)
  if n < 0x80 then .character (Char.ofNat n)
  else if n < 0xC2 then .fault .invalidStart
  else if n < 0xE0 then lead (n - 0xC0) 1 0x80 0xBF
  else if n = 0xE0 then lead 0 2 0xA0 0xBF
  else if n = 0xED then lead 0x0D 2 0x80 0x9F
  else if n < 0xF0 then lead (n - 0xE0) 2 0x80 0xBF
  else if n = 0xF0 then lead 0 3 0x90 0xBF
  else if n < 0xF4 then lead (n - 0xF0) 3 0x80 0xBF
  else if n = 0xF4 then lead 4 3 0x80 0x8F
  else .fault .invalidStart

/-- The lead byte of the sequences that would write surrogates. -/
def surrogateLead : UInt8 := 0xED

/-- What the next byte of a sequence does. -/
def Sequence.next (sequence : Sequence) (byte : UInt8) : Step :=
  let n := byte.toNat
  if sequence.low ≤ n ∧ n ≤ sequence.high then
    let value := 0x40 * sequence.value + n % 0x40
    if sequence.missing ≤ 1 then .character (Char.ofNat value)
    else
      .pending (.begun
        ⟨sequence.seen ++ [byte], value, sequence.missing - 1, 0x80, 0xBF⟩)
  else if sequence.seen = [surrogateLead] ∧ 0xA0 ≤ n ∧ n ≤ 0xBF then .pending (.surrogate byte)
  else .fault .invalidContinuation

namespace Pending

/-- The bytes that the decoder has kept. -/
def seen : Pending → List UInt8
  | nothing => []
  | begun sequence => sequence.seen
  | surrogate second => [surrogateLead, second]

/-- What a byte does in a state. -/
def next : Pending → UInt8 → Step
  | nothing, byte => first byte
  | begun sequence, byte => sequence.next byte
  | surrogate _, _ => .fault .invalidContinuation

/-- The bytes that a fault at a byte is about: the sequence kept, or the byte itself when none is.
Of a surrogate only the first byte could begin a sequence. -/
def culprit : Pending → UInt8 → List UInt8
  | nothing, byte => [byte]
  | begun sequence, _ => sequence.seen
  | surrogate _, _ => [surrogateLead]

/-- The fault of the state at the end of all bytes, of which there are `size`. -/
def atEnd (size : Nat) : Pending → Option Fault
  | nothing => none
  | begun sequence => some ⟨size - sequence.seen.length, sequence.seen, .unexpectedEnd⟩
  | surrogate _ => some ⟨size - 2, [surrogateLead], .invalidContinuation⟩

end Pending

/-- Decodes the next bytes, the first of which has the given position. -/
def feed (pending : Pending) (position : Nat) : List UInt8 → Except Fault (List Char × Pending)
  | [] => .ok ([], pending)
  | byte :: rest =>
    match pending.next byte with
    | .character c =>
      match feed .nothing (position + 1) rest with
      | .ok (text, last) => .ok (c :: text, last)
      | .error fault => .error fault
    | .pending next => feed next (position + 1) rest
    | .fault reason => .error ⟨position - pending.seen.length, pending.culprit byte, reason⟩

/-- Decodes one more piece. Positions count from the first byte kept from the pieces before. -/
def decodeNext (pending : Pending) (piece : List UInt8) : Except Fault (List Char × Pending) :=
  feed pending pending.seen.length piece

def decode (bytes : List UInt8) : Except Fault (List Char) :=
  match feed .nothing 0 bytes with
  | .error fault => .error fault
  | .ok (text, last) =>
    match last.atEnd bytes.length with
    | some fault => .error fault
    | none => .ok text

def Reason.message : Reason → String
  | .invalidStart => "invalid start byte"
  | .invalidContinuation => "invalid continuation byte"
  | .unexpectedEnd => "unexpected end of data"

def hexByte (byte : UInt8) : String :=
  String.ofList [Nat.digitChar (byte.toNat / 16), Nat.digitChar (byte.toNat % 16)]

/-- The wording of a fault: a single byte is shown, a longer sequence only located. -/
def Fault.message (fault : Fault) : String :=
  let place := match fault.bytes with
    | [byte] => "byte 0x" ++ hexByte byte ++ " in position " ++ toString fault.start
    | bytes => "bytes in position " ++ toString fault.start ++ "-" ++
        toString (fault.start + bytes.length - 1)
  "'utf-8' codec can't decode " ++ place ++ ": " ++ fault.reason.message

end SessionMounts.Utf8
