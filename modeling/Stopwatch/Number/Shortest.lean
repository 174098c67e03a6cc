/-
  The shortest decimal that reads back as a given number.

  The reals that round to a floating-point number form an interval around it; its
  ends belong to it exactly when the mantissa is even.  A grid of decimals with a
  given number of digits has two points next to the number, one below and one
  above.  The first grid, from one digit to seventeen, with such a point inside
  the interval gives the shortest decimal, and of two points inside the nearer
  one is taken.
-/
import Stopwatch.Number.Binary

namespace Stopwatch.Number

-- The powers of the core library are meant, whatever else is imported.
attribute [local instance (high)] instPowNat instNatPowNat

/-- A decimal `coefficient · 10^exponent`. -/
structure Decimal where
  coefficient : Nat
  exponent : Int
  deriving DecidableEq, Repr

/-- Whether `candidate · 10^tenPower` lies in the interval of reals that round to `v`. -/
def Binary.roundsFrom (v : Binary) (tenPower : Int) (candidate : Nat) : Bool :=
  let lowest := v.mantissa = 2 ^ (52 : Nat) ∧ v.exponent ≠ -1074
  let (unit, den) := Binary.scaled ⟨1, v.exponent - 2⟩ (-tenPower)
  let low := (4 * v.mantissa - if lowest then 1 else 2) * unit
  let high := (4 * v.mantissa + 2) * unit
  let point := candidate * den
  if v.mantissa % 2 = 0 then low ≤ point && point ≤ high else low < point && point < high

/-- The best point of the grid of step `10^tenPower`, if one rounds to `v`. -/
def Binary.nearestOnGrid? (v : Binary) (tenPower : Int) : Option Nat :=
  let (num, den) := v.scaled (-tenPower)
  let below := num / den
  match v.roundsFrom tenPower below, v.roundsFrom tenPower (below + 1) with
  | true, true => some (roundHalfEven num den)
  | true, false => some below
  | false, true => some (below + 1)
  | false, false => none

/-- Tries the grid of step `10^tenPower` and `steps` finer ones. -/
def Binary.shortestFrom (v : Binary) : Nat → Int → Decimal
  | 0, tenPower => ⟨let (num, den) := v.scaled (-tenPower); roundHalfEven num den, tenPower⟩
  | steps + 1, tenPower =>
    match v.nearestOnGrid? tenPower with
    | some c => ⟨c, tenPower⟩
    | none => v.shortestFrom steps (tenPower - 1)

/-- The shortest decimal that reads back as the positive value `v`. -/
def Binary.shortest (v : Binary) : Decimal :=
  v.shortestFrom 16 v.leadingExponent

end Stopwatch.Number
