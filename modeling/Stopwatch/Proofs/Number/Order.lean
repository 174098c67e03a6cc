/-
  Numbers and zero.

  A number that is a number at all lies on one side of zero.  What is read from a decimal
  or made out of an integer is always a number: at worst it is an infinity.  All numbers stand
  on one line, on which both zeros have the same place.
-/
import Mathlib.Data.Int.Order.Basic
import Mathlib.Data.Prod.Lex
import Mathlib.Order.Compare
import Stopwatch.Json.Decode
import Stopwatch.Proofs.Number.Encoding

namespace Stopwatch.Number

open Float.Model (Format UnpackedFloat)
open Float.Model.UnpackedFloat

/-! ## Comparisons -/

theorem le_iff_unpack (x y : Float) :
    x ≤ y ↔ UnpackedFloat.le x.toModel.unpack y.toModel.unpack = true :=
  decide_eq_true_iff

theorem lt_iff_unpack (x y : Float) :
    x < y ↔ UnpackedFloat.lt x.toModel.unpack y.toModel.unpack = true :=
  decide_eq_true_iff

theorem unpack_zero : (0.0 : Float).toModel.unpack = .zero .positive := by
  rw [zero_literal]
  rfl

theorem zero_le_zero : (0.0 : Float) ≤ 0.0 := by
  rw [le_iff_unpack, unpack_zero]
  rfl

/-- A number that does not lie below zero is zero or more. -/
theorem nonneg_of_not_neg {x : Float} (hx : x.isNaN = false) (h : ¬x < 0.0) : 0.0 ≤ x := by
  have hnan : x.toModel.unpack.isNaN = false := hx
  rw [lt_iff_unpack, unpack_zero] at h
  rw [le_iff_unpack, unpack_zero]
  cases hparts : x.toModel.unpack with
  | notANumber =>
    rw [hparts] at hnan
    cases hnan
  | infinity s =>
    rw [hparts] at h
    cases s with
    | positive => rfl
    | negative => exact absurd rfl h
  | zero s => cases s <;> rfl
  | finite s m e hm =>
    rw [hparts] at h
    cases s with
    | positive => rfl
    | negative => exact absurd rfl h

/-! ## Numbers that are numbers -/

theorem isNaN_zeroOf (negative : Bool) : (zeroOf negative).isNaN = false := by
  cases negative <;> rfl

/-- The parts of a number are found in its model. -/
theorem unpack_ofParts (negative : Bool) {v : Binary} (hv : v.IsCanonical) :
    (ofParts negative v hv.mantissa_pos).toModel.unpack =
      .finite (signOf negative) v.mantissa v.exponent hv.mantissa_pos :=
  unpack_eq_finite hv (toNat_pack_finite negative hv)

theorem isNaN_ofParts (negative : Bool) {v : Binary} (hv : v.IsCanonical) :
    (ofParts negative v hv.mantissa_pos).isNaN = false := by
  change (ofParts negative v hv.mantissa_pos).toModel.unpack.isNaN = false
  rw [unpack_ofParts negative hv]
  rfl

/-- A finite number is a number. -/
theorem isNaN_of_isFinite {x : Float} (h : x.isFinite = true) : x.isNaN = false := by
  have hfinite : x.toModel.unpack.isFinite = true := h
  change x.toModel.unpack.isNaN = false
  cases hparts : x.toModel.unpack with
  | notANumber =>
    rw [hparts] at hfinite
    cases hfinite
  | infinity s => rfl
  | zero s => rfl
  | finite s m e hm => rfl

/-! ## Finite numbers -/

theorem isFinite_zeroOf (negative : Bool) : (zeroOf negative).isFinite = true := by
  cases negative <;> rfl

theorem isFinite_ofParts (negative : Bool) {v : Binary} (hv : v.IsCanonical) :
    (ofParts negative v hv.mantissa_pos).isFinite = true := by
  change (ofParts negative v hv.mantissa_pos).toModel.unpack.isFinite = true
  rw [unpack_ofParts negative hv]
  rfl

/-- A number is finite if its bits say so. -/
theorem isFinite_iff_classify {x : Float} :
    x.isFinite = true ↔ ∃ negative v, classify x = .finite negative v := by
  cases hclass : classify x with
  | finite negative v =>
    by_cases hzero : v.mantissa = 0
    · simp [eq_zeroOf_of_classify hclass hzero, isFinite_zeroOf]
    · have hv := isCanonical_of_classify hclass hzero
      simp [eq_ofParts_of_classify hclass (Nat.pos_of_ne_zero hzero), isFinite_ofParts negative hv]
  | infinite negative =>
    rw [eq_of_classify_infinite hclass]
    cases negative <;> simp <;> decide +kernel
  | nan =>
    rw [eq_of_classify_nan hclass]
    simp
    decide +kernel

/-- Of the numbers that are zero or more, only infinity is not finite. -/
theorem isFinite_eq_false_iff {x : Float} (h : 0.0 ≤ x) : x.isFinite = false ↔ x = 1.0 / 0.0 := by
  constructor
  · intro hfinite
    cases hclass : classify x with
    | finite negative v =>
      have htrue := isFinite_iff_classify.mpr ⟨negative, v, hclass⟩
      exact absurd (htrue.symm.trans hfinite) (by decide)
    | infinite negative =>
      have hx := eq_of_classify_infinite hclass
      cases negative with
      | false => exact hx
      | true =>
        rw [hx] at h
        exact absurd h (by decide +kernel)
    | nan =>
      rw [eq_of_classify_nan hclass] at h
      exact absurd h (by decide +kernel)
  · rintro rfl
    decide +kernel

/-! ## Numbers that are read -/

/-- Bits below those of infinity are those of zero or of canonical parts. -/
theorem ofBits_cases {k : Nat} (hk : k < 2047 * 2 ^ 52) :
    Float.ofBits (UInt64.ofNat k) = zeroOf false ∨
      ∃ v, ∃ hv : Binary.IsCanonical v,
        Float.ofBits (UInt64.ofNat k) = ofParts false v hv.mantissa_pos := by
  by_cases hzero : k = 0
  · subst hzero
    exact Or.inl (by decide +kernel)
  · right
    by_cases hsmall : k < 2 ^ 52
    · have hv : Binary.IsCanonical ⟨k, -1074⟩ :=
        ⟨Nat.pos_of_ne_zero hzero, Nat.lt_trans hsmall (by decide), Int.le_refl _,
          Int.le_of_lt_add_one (by simp), Or.inr rfl⟩
      refine ⟨⟨k, -1074⟩, hv, ?_⟩
      rw [← ofBits_eq_ofParts hv]
      simp
    · have hv : Binary.IsCanonical ⟨k % 2 ^ 52 + 2 ^ 52, (k / 2 ^ 52 : Nat) - 1075⟩ := by
        constructor <;> simp only <;> omega
      refine ⟨_, hv, ?_⟩
      rw [← ofBits_eq_ofParts hv]
      congr 2
      simp only
      omega

/-- What is nearest to a decimal is zero, a number with canonical parts, or infinity. -/
theorem nearest_cases (c : Nat) (t : Int) :
    nearest c t = zeroOf false ∨
      (∃ v, ∃ hv : Binary.IsCanonical v, nearest c t = ofParts false v hv.mantissa_pos) ∨
      nearest c t = 1.0 / 0.0 := by
  rw [nearest]
  split
  · exact Or.inl zero_literal
  simp only
  split
  · exact Or.inr (Or.inr rfl)
  split
  · exact Or.inl zero_literal
  rw [nearestTo]
  generalize hbits : min _ (2047 * 2 ^ 52) = k
  by_cases hk : k < 2047 * 2 ^ 52
  · rcases ofBits_cases hk with hzero | hparts
    · exact Or.inl hzero
    · exact Or.inr (Or.inl hparts)
  · have htop : k = 2047 * 2 ^ 52 := by omega
    subst htop
    exact Or.inr (Or.inr (by decide +kernel))

/-- An integer gives a number. -/
theorem isNaN_floatOfInt (n : Int) : (Json.floatOfInt n).isNaN = false := by
  rw [Json.floatOfInt]
  rcases nearest_cases n.natAbs 0 with heq | ⟨v, hv, heq⟩ | heq
  · rw [heq, neg_zeroOf]
    split <;> exact isNaN_zeroOf _
  · rw [heq, neg_ofParts hv]
    split <;> exact isNaN_ofParts _ hv
  · rw [heq]
    split <;> decide +kernel

/-! ## One line -/

/-- Where a number stands on the line from one infinity to the other: first by its kind, then
by its exponent, then by its mantissa. -/
def placeOfParts : UnpackedFloat → ℤ ×ₗ ℤ ×ₗ ℤ
  | .infinity .negative => toLex (-2, toLex (0, 0))
  | .finite .negative m e _ => toLex (-1, toLex (-e, -m))
  | .zero _ | .notANumber => toLex (0, toLex (0, 0))
  | .finite .positive m e _ => toLex (1, toLex (e, m))
  | .infinity .positive => toLex (2, toLex (0, 0))

/-- The place of a number on the line. -/
def place (x : Float) : ℤ ×ₗ ℤ ×ₗ ℤ :=
  placeOfParts x.toModel.unpack

theorem compare_toLex (k k' e e' m m' : ℤ) :
    compare (toLex (k, toLex (e, m))) (toLex (k', toLex (e', m'))) =
      (compare k k').then ((compare e e').then (compare m m')) := by
  simp only [Prod.Lex.compare_def, compareLex, compareOn, ofLex_toLex]

theorem compare_neg (a b : ℤ) : compare (-a) (-b) = (compare a b).swap := by
  rcases lt_trichotomy a b with h | h | h
  · rw [compare_lt_iff_lt.mpr h, compare_gt_iff_gt.mpr (neg_lt_neg h)]
    rfl
  · rw [h, compare_eq_iff_eq.mpr rfl, compare_eq_iff_eq.mpr rfl]
    rfl
  · rw [compare_gt_iff_gt.mpr h, compare_lt_iff_lt.mpr (neg_lt_neg h)]
    rfl

/-- Numbers are compared by their places. -/
theorem compare_eq_placeOfParts {a b : UnpackedFloat} (ha : a.isNaN = false) (hb : b.isNaN = false) :
    UnpackedFloat.compare a b = some (compare (placeOfParts a) (placeOfParts b)) := by
  have hnat (m m' : ℕ) : compare (m : ℤ) m' = compare m m' := by
    simp [Int.compare_eq_ite_lt, Nat.compare_eq_ite_lt]
  cases a with
  | notANumber => cases ha
  | infinity s =>
    cases b with
    | notANumber => cases hb
    | infinity t | zero t | finite t _ _ _ => cases s <;> cases t <;> rfl
  | zero s =>
    cases b with
    | notANumber => cases hb
    | infinity t | zero t | finite t _ _ _ => cases s <;> cases t <;> rfl
  | finite s m e hm =>
    cases b with
    | notANumber => cases hb
    | infinity t | zero t => cases s <;> cases t <;> rfl
    | finite t m' e' hm' =>
      cases s <;> cases t <;>
        simp only [UnpackedFloat.compare, placeOfParts, compare_toLex, compare_neg, hnat, ← Ordering.swap_then] <;>
        rfl

section Places

variable {x y : Float} (hx : x.isNaN = false) (hy : y.isNaN = false)

include hx hy

theorem le_iff_place : x ≤ y ↔ place x ≤ place y := by
  rw [le_iff_unpack, UnpackedFloat.le, compare_eq_placeOfParts hx hy, Option.any_some,
    Ordering.isLE_iff_ne_gt]
  exact compare_le_iff_le

/-- Numbers are equal if they stand at the same place. -/
theorem beq_iff_place : (x == y) = true ↔ place x = place y := by
  change (UnpackedFloat.compare x.toModel.unpack y.toModel.unpack == some .eq) = true ↔ _
  rw [compare_eq_placeOfParts hx hy, beq_iff_eq, Option.some_inj]
  exact compare_eq_iff_eq

end Places

end Stopwatch.Number
