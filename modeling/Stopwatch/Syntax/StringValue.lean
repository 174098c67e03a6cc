/-
  The value of a string literal.

  A literal without the mark for raw text may hold escapes.  An escape that is cut
  short, names no character, or lies beyond the last code point makes the literal
  malformed, and the fault says where.  A value is a list of code points, since an
  escape may name half of a surrogate pair.
-/
import Stopwatch.Syntax.Quotation
import Stopwatch.Text.CharacterName
import Stopwatch.Text.Lines

namespace Stopwatch.Syntax

-- The powers and the zero of the core library are meant, whatever else is imported.
attribute [local instance (high)] instPowNat instNatPowNat Zero.ofOfNat0

/-- Why an escape is malformed. -/
inductive EscapeFault where
  | shortHex
  | shortUnicode
  | shortLongUnicode
  | beyondUnicode
  | malformedName
  | unknownName
  deriving DecidableEq, Repr

/-- Why a string literal is malformed.  Places are counted from the first character
behind the quote. -/
inductive StringFault where
  | escape (fault : EscapeFault) (first last : Nat)
  | byteEscape (place : Nat)
  | wideByte
  deriving DecidableEq, Repr

/-- The wording of a malformed escape. -/
def EscapeFault.describe : EscapeFault → String
  | .shortHex => "truncated \\xXX escape"
  | .shortUnicode => "truncated \\uXXXX escape"
  | .shortLongUnicode => "truncated \\UXXXXXXXX escape"
  | .beyondUnicode => "illegal Unicode character"
  | .malformedName => "malformed \\N character escape"
  | .unknownName => "unknown Unicode character name"

/-- The message of a malformed string literal. -/
def StringFault.message (f : StringFault) : String :=
  match f with
  | .escape fault first last =>
    s!"(unicode error) 'unicodeescape' codec can't decode bytes in position {first}-{last}: {fault.describe} (<unknown>, line 1)"
  | .byteEscape place => s!"(value error) invalid \\x escape at position {place} (<unknown>, line 1)"
  | .wideByte => "bytes can only contain ASCII literal characters (<unknown>, line 1)"

/-- What a string literal stands for. -/
inductive StringValue where
  | text (codes : List Nat)
  | bytes (codes : List Nat)
  deriving DecidableEq, Repr

/-- The value of a digit in base sixteen. -/
def hexValue? (c : Char) : Option Nat :=
  if c.isDigit then some (c.toNat - '0'.toNat)
  else if 'a' ≤ c && c ≤ 'f' then some (c.toNat - 'a'.toNat + 10)
  else if 'A' ≤ c && c ≤ 'F' then some (c.toNat - 'A'.toNat + 10)
  else none

/-- At most `count` digits in base sixteen: how many there are, their value, and what
follows them. -/
def hexRun : Nat → List Char → Nat × Nat × List Char
  | 0, cs => (0, 0, cs)
  | _ + 1, [] => (0, 0, [])
  | count + 1, c :: rest =>
    match hexValue? c with
    | none => (0, 0, c :: rest)
    | some digit =>
      let (found, value, after) := hexRun count rest
      (found + 1, digit * 16 ^ found + value, after)

/-- At most `count` digits in base eight: how many there are, their value, and what
follows them. -/
def octalRun : Nat → List Char → Nat × Nat × List Char
  | 0, cs => (0, 0, cs)
  | _ + 1, [] => (0, 0, [])
  | count + 1, c :: rest =>
    if '0' ≤ c && c ≤ '7' then
      let (found, value, after) := octalRun count rest
      (found + 1, (c.toNat - '0'.toNat) * 8 ^ found + value, after)
    else (0, 0, c :: rest)

/-- The character that a letter behind a backslash stands for. -/
def simpleEscape? : Char → Option Nat
  | '\\' => some 0x5C
  | '\'' => some 0x27
  | '"' => some 0x22
  | 'a' => some 0x07
  | 'b' => some 0x08
  | 'f' => some 0x0C
  | 'n' => some 0x0A
  | 'r' => some 0x0D
  | 't' => some 0x09
  | 'v' => some 0x0B
  | _ => none

/-- How many places a character takes when the place of a fault is counted: each one
beyond ASCII is counted as its longest escape. -/
def placeWidth (c : Char) : Nat :=
  if c.toNat < 0x80 then 1 else 10

/-- An escape with a fixed number of digits in base sixteen, read behind its letter. -/
def fixedEscape (digits : Nat) (short : EscapeFault) (place : Nat) (cs : List Char) :
    Except StringFault (Nat × Nat × List Char) :=
  let (found, value, after) := hexRun digits cs
  if found < digits then .error (.escape short place (place + 1 + found))
  else if value > 0x10FFFF then .error (.escape .beyondUnicode place (place + 1 + found))
  else .ok (value, digits + 2, after)

/-- An escape with the name of a character, read behind its letter. -/
def namedEscape (place : Nat) (cs : List Char) : Except StringFault (Nat × Nat × List Char) :=
  match cs with
  | '\x7b' :: rest =>
    let (name, after) := rest.span (· ≠ '\x7d')
    let last := place + 2 + (name.map placeWidth).sum
    match name, after with
    | _ :: _, _ :: after =>
      match Text.characterNamed? (String.ofList name) with
      | some code => .ok (code, name.length + 4, after)
      | none => .error (.escape .unknownName place (last + 1))
    | _, _ => .error (.escape .malformedName place last)
  | _ => .error (.escape .malformedName place (place + 1))

/-- The code points of a text with escapes that starts at a given place. -/
def textCodes : Nat → Nat → List Char → Except StringFault (List Nat)
  | 0, _, _ => .ok []
  | _ + 1, _, [] => .ok []
  | fuel + 1, place, '\\' :: c :: rest =>
    let more (found : Nat × Nat × List Char) : Except StringFault (List Nat) := do
      return found.1 :: (← textCodes fuel (place + found.2.1) found.2.2)
    if c = '\n' then textCodes fuel (place + 2) rest
    else if c = 'x' then (fixedEscape 2 .shortHex place rest).bind more
    else if c = 'u' then (fixedEscape 4 .shortUnicode place rest).bind more
    else if c = 'U' then (fixedEscape 8 .shortLongUnicode place rest).bind more
    else if c = 'N' then (namedEscape place rest).bind more
    else
      match simpleEscape? c, octalRun 3 (c :: rest) with
      | some code, _ => more (code, 2, rest)
      | none, (0, _, _) =>
        let width := if c.toNat < 0x80 then 2 else 16
        return 0x5C :: c.toNat :: (← textCodes fuel (place + width) rest)
      | none, (found, value, after) => more (value, found + 1, after)
  | fuel + 1, place, c :: rest => return c.toNat :: (← textCodes fuel (place + placeWidth c) rest)

/-- The bytes of a text with escapes that starts at a given place. -/
def byteCodes : Nat → Nat → List Char → Except StringFault (List Nat)
  | 0, _, _ => .ok []
  | _ + 1, _, [] => .ok []
  | fuel + 1, place, '\\' :: c :: rest =>
    let more (found : Nat × Nat × List Char) : Except StringFault (List Nat) := do
      return found.1 :: (← byteCodes fuel (place + found.2.1) found.2.2)
    if c = '\n' then byteCodes fuel (place + 2) rest
    else if c = 'x' then
      match hexRun 2 rest with
      | (2, value, after) => more (value, 4, after)
      | _ => .error (.byteEscape place)
    else
      match simpleEscape? c, octalRun 3 (c :: rest) with
      | some code, _ => more (code, 2, rest)
      | none, (0, _, _) => return 0x5C :: c.toNat :: (← byteCodes fuel (place + 2) rest)
      | none, (found, value, after) => more (value % 256, found + 1, after)
  | fuel + 1, place, c :: rest => return c.toNat :: (← byteCodes fuel (place + 1) rest)

/-- The marks of a string literal in lower case, and the text between its quotes. -/
def literalParts? (literal : List Char) : Option (List Char × List Char) :=
  let (marks, rest) := literal.span fun c => c ≠ '"' && c ≠ '\''
  (quote? rest).map fun (q, body) => (marks.map Char.toLower, body.take (body.length - q.chars.length))

/-- The value of a string literal. -/
def stringValue (literal : String) : Except StringFault StringValue :=
  match literalParts? (Text.normalizeNewlines literal.toList) with
  | none => .ok (.text [])
  | some (marks, body) =>
    if marks.contains 'b' then
      if body.any fun c => c.toNat ≥ 0x80 then .error .wideByte
      else if marks.contains 'r' then .ok (.bytes (body.map Char.toNat))
      else (byteCodes body.length 0 body).map .bytes
    else if marks.contains 'r' then .ok (.text (body.map Char.toNat))
    else (textCodes body.length 0 body).map .text

/-- Whether a literal stands for a given text. -/
def StringValue.isText (v : StringValue) (text : String) : Bool :=
  v = .text (text.toList.map Char.toNat)

end Stopwatch.Syntax
