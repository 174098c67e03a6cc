/-
  Reading bytes as UTF-8.

  The decoder is a machine that takes one byte at a time.  Between characters it
  holds nothing; inside one it holds the bytes taken so far.  A byte that cannot
  continue the character ends a malformed run, and is then looked at again as a
  first byte, so no byte is swallowed by the malformed run before it.

  The result is a list of pieces, each a character or a malformed run.  Reading
  with replacement turns each run into one U+FFFD; strict reading fails at the
  first run and says where it stands.
-/

namespace Stopwatch.Text.Utf8

/-- Why a run of bytes is no character. -/
inductive Fault where
  | invalidStart
  | invalidContinuation
  | unexpectedEnd
  deriving DecidableEq, Repr

/-- One character, or one malformed run of bytes. -/
inductive Piece where
  | char (c : Char)
  | malformed (fault : Fault) (bytes : List UInt8)

/-- A character whose first bytes have been taken: those bytes, the bits they
carry, the number of bytes still owed, and the range of the next one. -/
structure Pending where
  taken : List UInt8
  bits : Nat
  owed : Nat
  low : UInt8
  high : UInt8

/-- What a first byte leads to: a whole character, a started one, or neither. -/
inductive Start where
  | whole (c : Char)
  | partly (p : Pending)
  | refused

/-- The first byte of a character says how many bytes follow it and which range
the second one may have. -/
def start (b : UInt8) : Start :=
  let n := b.toNat
  if n < 0x80 then .whole (Char.ofNat n)
  else if n < 0xC2 then .refused
  else if n < 0xE0 then .partly ⟨[b], n - 0xC0, 1, 0x80, 0xBF⟩
  else if n < 0xF0 then
    .partly ⟨[b], n - 0xE0, 2, if n = 0xE0 then 0xA0 else 0x80, if n = 0xED then 0x9F else 0xBF⟩
  else if n < 0xF5 then
    .partly ⟨[b], n - 0xF0, 3, if n = 0xF0 then 0x90 else 0x80, if n = 0xF4 then 0x8F else 0xBF⟩
  else .refused

/-- A byte that stands where a character starts: the pieces it completes, and
the character it leaves under way. -/
def stepStart (b : UInt8) : List Piece × Option Pending :=
  match start b with
  | .whole c => ([.char c], none)
  | .partly p => ([], some p)
  | .refused => ([.malformed .invalidStart [b]], none)

/-- One byte of the machine. -/
def step : Option Pending → UInt8 → List Piece × Option Pending
  | none, b => stepStart b
  | some p, b =>
    if p.low ≤ b && b ≤ p.high then
      let bits := p.bits * 64 + (b.toNat - 0x80)
      if p.owed = 1 then ([.char (Char.ofNat bits)], none)
      else ([], some ⟨p.taken ++ [b], bits, p.owed - 1, 0x80, 0xBF⟩)
    else
      let (out, next) := stepStart b
      (.malformed .invalidContinuation p.taken :: out, next)

/-- What is left at the end: a character cut short is malformed. -/
def finish : Option Pending → List Piece
  | none => []
  | some p => [.malformed .unexpectedEnd p.taken]

/-- The pieces of a byte sequence, given the character that is already under way. -/
def piecesFrom : Option Pending → List UInt8 → List Piece
  | state, [] => finish state
  | state, b :: bs => (step state b).1 ++ piecesFrom (step state b).2 bs

/-- The pieces of a byte sequence. -/
def pieces (bytes : List UInt8) : List Piece :=
  piecesFrom none bytes

/-- A malformed run reads as one replacement character. -/
def Piece.toChar : Piece → Char
  | .char c => c
  | .malformed .. => '\uFFFD'

/-- The text of a byte sequence, with U+FFFD for every malformed run. -/
def decodeLossy (bytes : List UInt8) : List Char :=
  (pieces bytes).map Piece.toChar

/-- Where a strict reading stopped, on which bytes, and why. -/
structure DecodeError where
  position : Nat
  bytes : List UInt8
  fault : Fault

/-- Strict reading of pieces, the first of which stands at byte `position`. -/
def decodePieces (position : Nat) : List Piece → Except DecodeError (List Char)
  | [] => .ok []
  | .char c :: rest => (decodePieces (position + c.utf8Size) rest).map (c :: ·)
  | .malformed fault bytes :: _ => .error ⟨position, bytes, fault⟩

/-- The text of a byte sequence, or the first malformed run in it. -/
def decode (bytes : List UInt8) : Except DecodeError (List Char) :=
  decodePieces 0 (pieces bytes)

/-- The wording of a fault. -/
def Fault.describe : Fault → String
  | .invalidStart => "invalid start byte"
  | .invalidContinuation => "invalid continuation byte"
  | .unexpectedEnd => "unexpected end of data"

/-- Two lower-case hexadecimal digits. -/
def hexByte (b : UInt8) : String :=
  String.ofList [Nat.digitChar (b.toNat / 16), Nat.digitChar (b.toNat % 16)]

/-- The message of a failed strict reading: one byte is shown, several are only located. -/
def DecodeError.message (e : DecodeError) : String :=
  match e.bytes with
  | [b] => s!"'utf-8' codec can't decode byte 0x{hexByte b} in position {e.position}: {e.fault.describe}"
  | bytes =>
    let last := e.position + bytes.length - 1
    s!"'utf-8' codec can't decode bytes in position {e.position}-{last}: {e.fault.describe}"

/-- The UTF-8 bytes of a text. -/
def encode (text : String) : List UInt8 :=
  text.toUTF8.toList

@[simp] theorem pieces_nil : pieces [] = [] := rfl

@[simp] theorem decodeLossy_nil : decodeLossy [] = [] := rfl

end Stopwatch.Text.Utf8
