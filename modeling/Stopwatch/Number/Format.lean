/-
  The written forms of a number.

  Four forms are in use.  Two write the shortest decimal that reads back: the
  plain form and the form of result documents, which differ in where positional
  notation begins and in the width of the exponent.  The third has six digits
  after the point.  The fourth has at most six significant digits.
-/
import Stopwatch.Number.Shortest

namespace Stopwatch.Number

/-- The choices left open by "the shortest decimal that reads back". -/
structure ShortestStyle where
  /-- The least leading exponent that is written positionally. -/
  positionalFrom : Int
  /-- The least leading exponent, above zero, that is not. -/
  positionalBelow : Int
  /-- The least number of exponent digits. -/
  exponentWidth : Nat
  nan : String
  infinity : String

/-- The plain form: `0.0001`, `1e-05`, `1e+16`, `inf`. -/
def plainStyle : ShortestStyle := ⟨-4, 16, 2, "nan", "inf"⟩

/-- The form inside collected records: the plain one with the names of JSON dialects. -/
def recordStyle : ShortestStyle := ⟨-4, 16, 2, "NaN", "Infinity"⟩

/-- The form inside result documents: `0.00001`, `1e-6`, `1e+16`. -/
def documentStyle : ShortestStyle := ⟨-5, 16, 1, "NaN", "Infinity"⟩

/-- Drops the zeros at the end. -/
def dropTrailingZeros (ds : List Char) : List Char :=
  (ds.reverse.dropWhile (· = '0')).reverse

/-- Digits preceded by zeros up to a given width. -/
def padZeros (width : Nat) (ds : List Char) : List Char :=
  List.replicate (width - ds.length) '0' ++ ds

/-- An exponent mark, a sign, and at least `width` digits. -/
def exponentText (width : Nat) (e : Int) : List Char :=
  'e' :: (if e < 0 then '-' else '+') :: padZeros width (digits e.natAbs)

/-- Digits with a point after the one that has exponent zero; `lead` is the
exponent of the first digit.  At least `places` digits follow the point. -/
def positional (places : Nat) (ds : List Char) (lead : Int) : List Char :=
  let whole := if lead < 0 then ['0'] else
    let n := lead.toNat + 1
    ds.take n ++ List.replicate (n - ds.length) '0'
  let rest := if lead < 0 then List.replicate ((-lead).toNat - 1) '0' ++ ds else ds.drop (lead.toNat + 1)
  let fraction := rest ++ List.replicate (places - rest.length) '0'
  whole ++ if fraction = [] then [] else '.' :: fraction

/-- One digit, a point and the others if there are others, and the exponent. -/
def scientific (width : Nat) (ds : List Char) (lead : Int) : List Char :=
  let tail := ds.drop 1
  ds.take 1 ++ (if tail = [] then [] else '.' :: tail) ++ exponentText width lead

/-- A minus sign in front of a negative number. -/
def signed (negative : Bool) (cs : List Char) : List Char :=
  if negative then '-' :: cs else cs

/-- The shortest decimal that reads back, in a given style. -/
def formatShortest (style : ShortestStyle) (x : Float) : String :=
  match classify x with
  | .nan => style.nan
  | .infinite negative => String.ofList (signed negative style.infinity.toList)
  | .finite negative v =>
    if v.mantissa = 0 then String.ofList (signed negative "0.0".toList)
    else
      let d := v.shortest
      let all := digits d.coefficient
      let lead := d.exponent + (all.length : Int) - 1
      let ds := dropTrailingZeros all
      let body :=
        if style.positionalFrom ≤ lead && lead < style.positionalBelow then positional 1 ds lead
        else scientific style.exponentWidth ds lead
      String.ofList (signed negative body)

/-- The plain form of a number. -/
def plain (x : Float) : String :=
  formatShortest plainStyle x

/-- The value with `places` digits after the point; a half goes to the even digit. -/
def Binary.fixed (places : Nat) (v : Binary) : List Char :=
  let (num, den) := v.scaled places
  let ds := padZeros (places + 1) (digits (roundHalfEven num den))
  let whole := ds.length - places
  ds.take whole ++ if places = 0 then [] else '.' :: ds.drop whole

/-- A number with `places` digits after the point. -/
def formatFixed (places : Nat) (x : Float) : String :=
  match classify x with
  | .nan => "nan"
  | .infinite negative => String.ofList (signed negative "inf".toList)
  | .finite negative v => String.ofList (signed negative (v.fixed places))

/-- The value rounded to `count` significant digits: the digits and the exponent
of the first. -/
def Binary.significant (count : Nat) (v : Binary) : List Char × Int :=
  let lead := v.leadingExponent
  let (num, den) := v.scaled ((count : Int) - 1 - lead)
  let ds := digits (roundHalfEven num den)
  if count < ds.length then (ds.take count, lead + 1) else (ds, lead)

/-- A number with at most six significant digits and no zeros at the end. -/
def formatGeneral (x : Float) : String :=
  match classify x with
  | .nan => "nan"
  | .infinite negative => String.ofList (signed negative "inf".toList)
  | .finite negative v =>
    if v.mantissa = 0 then String.ofList (signed negative ['0'])
    else
      let (all, lead) := v.significant 6
      let ds := dropTrailingZeros all
      let body := if -4 ≤ lead && lead < 6 then positional 0 ds lead else scientific 2 ds lead
      String.ofList (signed negative body)

end Stopwatch.Number
