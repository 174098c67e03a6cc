/-
  A binary floating-point number, taken apart.

  A finite number is `± mantissa · 2^exponent`.  All formats of this library are
  computed from that exact value in natural-number arithmetic, so none of them
  rounds twice.
-/

namespace Stopwatch.Number

-- The powers of the core library are meant, whatever else is imported.
attribute [local instance (high)] instPowNat instNatPowNat

/-- The exact value of a finite number without its sign. -/
structure Binary where
  mantissa : Nat
  exponent : Int
  deriving DecidableEq, Repr

/-- What a floating-point number is: a signed finite value, a signed infinity, or
no number. -/
inductive Class where
  | finite (negative : Bool) (value : Binary)
  | infinite (negative : Bool)
  | nan

/-- Reads the class of a number off its bits. -/
def classify (x : Float) : Class :=
  let bits := x.toBits.toNat
  let negative := bits / 2 ^ (63 : Nat) = 1
  let biased := bits / 2 ^ (52 : Nat) % 2 ^ (11 : Nat)
  let fraction := bits % 2 ^ (52 : Nat)
  if biased = 2047 then
    if fraction = 0 then .infinite negative else .nan
  else if biased = 0 then .finite negative ⟨fraction, -1074⟩
  else .finite negative ⟨fraction + 2 ^ (52 : Nat), Int.ofNat biased - 1075⟩

/-- The value times a power of ten, as a fraction of natural numbers. -/
def Binary.scaled (v : Binary) (tenPower : Int) : Nat × Nat :=
  let num := v.mantissa * 2 ^ v.exponent.toNat * 10 ^ tenPower.toNat
  let den := 2 ^ (-v.exponent).toNat * 10 ^ (-tenPower).toNat
  (num, den)

/-- The quotient rounded to the nearest natural number; a half goes to the even
neighbour. -/
def roundHalfEven (num den : Nat) : Nat :=
  let q := num / den
  let r := num % den
  if 2 * r < den then q
  else if den < 2 * r then q + 1
  else if q % 2 = 0 then q
  else q + 1

/-- The decimal digits of a natural number, most significant first. -/
def digits (n : Nat) : List Char :=
  Nat.toDigits 10 n

/-- The exponent of the leading decimal digit of a positive value. -/
def Binary.leadingExponent (v : Binary) : Int :=
  let (num, den) := v.scaled 0
  if den ≤ num then ((digits (num / den)).length : Int) - 1
  else -((digits ((den - 1) / num)).length : Int)

/-- A number without its fraction; zero if it is not finite. -/
def truncate (x : Float) : Int :=
  match classify x with
  | .finite negative v =>
    let (num, den) := v.scaled 0
    let n : Int := num / den
    if negative then -n else n
  | _ => 0

end Stopwatch.Number
