/-
  Reading a decimal number.

  The grammar is a sign, digits with an optional point, and an optional exponent;
  or one of the names of infinity and of no number.  Digits may be separated by
  single underscores where the grammar says so.  The value is rounded once, from
  the exact decimal.
-/
import Stopwatch.Number.Binary
import Stopwatch.Text.Blank

namespace Stopwatch.Number

-- The powers of the core library are meant, whatever else is imported.
attribute [local instance (high)] instPowNat instNatPowNat

/-- The exponent of the last bit of the number nearest to `num / den`: the one that
leaves fifty-three bits, and at least the least exponent of the format. -/
def lastBit (num den : Nat) : Int :=
  let gap : Int := (num.log2 : Int) - den.log2
  let lead := if num * 2 ^ (-gap).toNat < den * 2 ^ gap.toNat then gap - 1 else gap
  max (lead - 52) (-1074)

/-- The floating-point number nearest to `num / den`.  A mantissa that is rounded up
to fifty-four bits carries into the exponent, and an exponent that is too large gives
infinity. -/
def nearestTo (num den : Nat) : Float :=
  let exponent := lastBit num den
  let mantissa := roundHalfEven (num * 2 ^ (-exponent).toNat) (den * 2 ^ exponent.toNat)
  Float.ofBits (UInt64.ofNat (min ((exponent + 1074).toNat * 2 ^ (52 : Nat) + mantissa) (2047 * 2 ^ (52 : Nat))))

/-- The floating-point number nearest to `coefficient · 10^exponent`.  Exponents
far outside the range are settled before any power is computed. -/
def nearest (coefficient : Nat) (exponent : Int) : Float :=
  if coefficient = 0 then 0.0
  else
    let size := (digits coefficient).length
    if (size : Int) + exponent > 400 then 1.0 / 0.0
    else if (size : Int) + exponent < -400 then 0.0
    else nearestTo (coefficient * 10 ^ exponent.toNat) (10 ^ (-exponent).toNat)

/-- The number written by decimal digits. -/
def ofDigits (ds : List Char) : Nat :=
  ds.foldl (fun n d => n * 10 + (d.toNat - '0'.toNat)) 0

/-- An optional sign at the start, and what follows it. -/
def takeSign : List Char → Bool × List Char
  | '-' :: rest => (true, rest)
  | '+' :: rest => (false, rest)
  | rest => (false, rest)

/-- The digits at the start and what follows them. -/
def spanDigits (cs : List Char) : List Char × List Char :=
  (cs.takeWhile Char.isDigit, cs.dropWhile Char.isDigit)

/-- An exponent: a mark, an optional sign, digits to the end of the text. -/
def readExponent? : List Char → Option Int
  | [] => some 0
  | mark :: rest =>
    if mark = 'e' || mark = 'E' then
      let (negative, ds) := takeSign rest
      if ds ≠ [] && ds.all Char.isDigit then
        some (if negative then -(ofDigits ds : Int) else ofDigits ds)
      else none
    else none

/-- Digits, a point, an exponent: the value of an unsigned decimal. -/
def readDecimal? (cs : List Char) : Option Float := do
  let (whole, rest) := spanDigits cs
  let (fraction, rest) := match rest with
    | '.' :: after => spanDigits after
    | _ => ([], rest)
  if whole = [] && fraction = [] then none
  let e ← readExponent? rest
  pure (nearest (ofDigits (whole ++ fraction)) (e - fraction.length))

/-- The names of infinity and of no number, in any case. -/
def readName? (cs : List Char) : Option Float :=
  let name := String.ofList (cs.map Char.toLower)
  if name = "inf" || name = "infinity" then some (1.0 / 0.0)
  else if name = "nan" then some (0.0 / 0.0)
  else none

/-- A signed decimal or name, with nothing around it. -/
def readSigned? (cs : List Char) : Option Float :=
  let (negative, body) := takeSign cs
  ((readDecimal? body).orElse fun _ => readName? body).map fun x => if negative then -x else x

/-- Removes underscores, each of which must stand between two digits. -/
def joinDigits? : List Char → Option (List Char)
  | [] => some []
  | a :: '_' :: b :: rest =>
    if a.isDigit && b.isDigit then (joinDigits? (b :: rest)).map (a :: ·) else none
  | '_' :: _ => none
  | [_, '_'] => none
  | a :: rest => (joinDigits? rest).map (a :: ·)

/-- The first code points of the runs of ten decimal digits. -/
def digitZeros : List Nat :=
  [0x0030, 0x0660, 0x06F0, 0x07C0, 0x0966, 0x09E6, 0x0A66, 0x0AE6, 0x0B66, 0x0BE6, 0x0C66, 0x0CE6,
   0x0D66, 0x0DE6, 0x0E50, 0x0ED0, 0x0F20, 0x1040, 0x1090, 0x17E0, 0x1810, 0x1946, 0x19D0, 0x1A80,
   0x1A90, 0x1B50, 0x1BB0, 0x1C40, 0x1C50, 0xA620, 0xA8D0, 0xA900, 0xA9D0, 0xA9F0, 0xAA50, 0xABF0,
   0xFF10, 0x104A0, 0x10D30, 0x11066, 0x110F0, 0x11136, 0x111D0, 0x112F0, 0x11450, 0x114D0, 0x11650,
   0x116C0, 0x11730, 0x118E0, 0x11950, 0x11C50, 0x11D50, 0x11DA0, 0x16A60, 0x16AC0, 0x16B50, 0x1D7CE,
   0x1D7D8, 0x1D7E2, 0x1D7EC, 0x1D7F6, 0x1E140, 0x1E2F0, 0x1E950, 0x1FBF0]

/-- The ASCII digit of the same value, for a decimal digit of any script; other
characters stay. -/
def asciiDigit (c : Char) : Char :=
  match digitZeros.find? fun z => z ≤ c.toNat && c.toNat < z + 10 with
  | some z => Char.ofNat ('0'.toNat + (c.toNat - z))
  | none => c

/-- Reads a number out of a line of output: blanks around it do not count, digits
of any script do, and underscores may separate digits. -/
def ofText? (cs : List Char) : Option Float := do
  let body := (Text.strip cs).map asciiDigit
  let joined ← if body.contains '_' then joinDigits? body else pure body
  readSigned? joined

end Stopwatch.Number
