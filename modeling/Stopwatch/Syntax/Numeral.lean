/-
  Numerals.

  A numeral is an integer in base ten, sixteen, eight or two, a decimal with a
  point or an exponent, or one of these with the imaginary mark.  A single
  underscore may stand between two digits, and after a base mark.  An integer in
  base ten does not start with zero, unless it is zero.
-/
import Stopwatch.Number.Read

namespace Stopwatch.Syntax

/-- Digits that may be joined by single underscores.  `inside` says that a digit
stands in front; a run has at least one digit and does not end with an underscore. -/
def digitsFrom? (isDigit : Char → Bool) (inside : Bool) : List Char → Option (List Char × List Char)
  | [] => if inside then some ([], []) else none
  | c :: rest =>
    if isDigit c then (digitsFrom? isDigit true rest).map fun (ds, after) => (c :: ds, after)
    else if !inside then none
    else if c = '_' then (digitsFrom? isDigit false rest).map fun (ds, after) => (c :: ds, after)
    else some ([], c :: rest)

/-- The run of digits at the start of a text. -/
def digitRun? (isDigit : Char → Bool) (cs : List Char) : Option (List Char × List Char) :=
  digitsFrom? isDigit false cs

/-- The digits after a base mark, the first of which may follow an underscore. -/
def basedDigits? (isDigit : Char → Bool) (mark : Char) (cs : List Char) : Option (List Char × List Char) :=
  match cs with
  | '_' :: rest => (digitRun? isDigit rest).map fun (ds, after) => ('0' :: mark :: '_' :: ds, after)
  | _ => (digitRun? isDigit cs).map fun (ds, after) => ('0' :: mark :: ds, after)

/-- Refuses a numeral that is followed by one more decimal digit. -/
def noDigitAfter (found : List Char × List Char) : Option (List Char × List Char) :=
  if found.2.head?.any Char.isDigit then none else some found

/-- A point and the digits after it, of which there may be none. -/
def numeralFraction? : List Char → Option (List Char × List Char)
  | '.' :: rest =>
    if rest.head?.any Char.isDigit then (digitRun? Char.isDigit rest).map fun (ds, after) => ('.' :: ds, after)
    else some (['.'], rest)
  | cs => some ([], cs)

/-- An exponent.  A mark without digits is no exponent and is left alone, unless a
sign follows it. -/
def numeralExponent? : List Char → Option (List Char × List Char)
  | mark :: rest =>
    if mark = 'e' || mark = 'E' then
      match rest with
      | '+' :: more => (digitRun? Char.isDigit more).map fun (ds, after) => (mark :: '+' :: ds, after)
      | '-' :: more => (digitRun? Char.isDigit more).map fun (ds, after) => (mark :: '-' :: ds, after)
      | _ =>
        if rest.head?.any Char.isDigit then
          (digitRun? Char.isDigit rest).map fun (ds, after) => (mark :: ds, after)
        else some ([], mark :: rest)
    else some ([], mark :: rest)
  | [] => some ([], [])

/-- The imaginary mark. -/
def numeralImaginary : List Char → List Char × List Char
  | 'j' :: rest => (['j'], rest)
  | 'J' :: rest => (['J'], rest)
  | cs => ([], cs)

/-- What may follow the digits in front of the point. -/
def numeralTail? (whole : List Char) (cs : List Char) : Option (List Char × List Char) := do
  let (fraction, rest) ← numeralFraction? cs
  let (exponent, rest) ← numeralExponent? rest
  let (imaginary, rest) := numeralImaginary rest
  let zeroFirst := whole.head? = some '0' && whole.any fun c => c ≠ '0' && c ≠ '_'
  if zeroFirst && fraction = [] && exponent = [] && imaginary = [] then none
  pure (whole ++ fraction ++ exponent ++ imaginary, rest)

/-- Whether a character is a hexadecimal digit. -/
def isHexDigit (c : Char) : Bool :=
  c.isDigit || ('a' ≤ c && c ≤ 'f') || ('A' ≤ c && c ≤ 'F')

/-- A numeral at the start of a text that starts with a digit, or with a point and
a digit. -/
def numeral? : List Char → Option (List Char × List Char)
  | '0' :: 'x' :: rest => basedDigits? isHexDigit 'x' rest
  | '0' :: 'X' :: rest => basedDigits? isHexDigit 'X' rest
  | '0' :: 'o' :: rest => (basedDigits? (fun c => '0' ≤ c && c ≤ '7') 'o' rest).bind noDigitAfter
  | '0' :: 'O' :: rest => (basedDigits? (fun c => '0' ≤ c && c ≤ '7') 'O' rest).bind noDigitAfter
  | '0' :: 'b' :: rest => (basedDigits? (fun c => c = '0' || c = '1') 'b' rest).bind noDigitAfter
  | '0' :: 'B' :: rest => (basedDigits? (fun c => c = '0' || c = '1') 'B' rest).bind noDigitAfter
  | '.' :: rest => numeralTail? [] ('.' :: rest)
  | cs => (digitRun? Char.isDigit cs).bind fun (whole, rest) => numeralTail? whole rest

end Stopwatch.Syntax
