/-
  Rounding to the nearest number.

  A number covers an interval of rationals around its value.  `nearest` gives the number
  back for every decimal in that interval: the exponent of the last bit is the one the
  number has, except just below a power of two, where a finer exponent and a carry of the
  mantissa lead to the same bits.
-/
import Mathlib.Algebra.Order.Archimedean.Basic
import Mathlib.Algebra.Order.Field.Power
import Mathlib.Algebra.Order.Field.Rat
import Mathlib.Tactic.FieldSimp
import Mathlib.Tactic.Positivity
import Mathlib.Tactic.Ring
import Stopwatch.Number.Read
import Stopwatch.Proofs.Number.Encoding

namespace Stopwatch.Number

/-! ## Powers as fractions -/

/-- A power with an integer exponent, as the fraction that the formats compute with. -/
theorem zpow_eq_div (b : ℚ) (e : ℤ) : b ^ e = b ^ e.toNat / b ^ (-e).toNat := by
  rcases le_total 0 e with h | h
  · have hneg : (-e).toNat = 0 := by omega
    have hpos : (e.toNat : ℤ) = e := Int.toNat_of_nonneg h
    rw [hneg, pow_zero, div_one, ← zpow_natCast, hpos]
  · have hneg : e.toNat = 0 := by omega
    have hpos : ((-e).toNat : ℤ) = -e := Int.toNat_of_nonneg (by omega)
    rw [hneg, pow_zero, ← zpow_natCast, hpos, zpow_neg, one_div, inv_inv]

/-- The value of a number without its sign. -/
def Binary.value (v : Binary) : ℚ :=
  v.mantissa * 2 ^ v.exponent

theorem Binary.scaled_den_pos (v : Binary) (t : ℤ) : 0 < (v.scaled t).2 :=
  Nat.mul_pos (Nat.pow_pos (by decide)) (Nat.pow_pos (by decide))

/-- What `scaled` computes, as a rational number. -/
theorem Binary.scaled_eq (v : Binary) (t : ℤ) :
    ((v.scaled t).1 : ℚ) / (v.scaled t).2 = v.value * 10 ^ t := by
  have htwo := zpow_eq_div 2 v.exponent
  have hten := zpow_eq_div 10 t
  simp only [scaled, value]
  rw [htwo, hten]
  push_cast
  field_simp

/-! ## Rounding a quotient -/

/-- A natural number at most a half away from a quotient is what the quotient is rounded
to, if a half away it is even. -/
theorem roundHalfEven_eq {num den k : ℕ} (hden : 0 < den) (hlow : 2 * k * den ≤ 2 * num + den)
    (hhigh : 2 * num ≤ 2 * k * den + den)
    (htie : k % 2 = 1 → 2 * k * den < 2 * num + den ∧ 2 * num < 2 * k * den + den) :
    roundHalfEven num den = k := by
  have hsplit : den * (num / den) + num % den = num := Nat.div_add_mod num den
  have hrest : num % den < den := Nat.mod_lt num hden
  simp only [roundHalfEven]
  generalize num / den = q at *
  generalize num % den = r at *
  subst hsplit
  -- the quotient lies between `k - 1` and `k`
  have hle : q ≤ k := by
    by_contra hlt
    have hstep : (k + 1) * den ≤ q * den := Nat.mul_le_mul_right den (by omega)
    nlinarith
  have hge : k ≤ q + 1 := by
    by_contra hlt
    have hstep : (q + 2) * den ≤ k * den := Nat.mul_le_mul_right den (by omega)
    nlinarith
  rcases Nat.lt_or_ge q k with hlt | hge'
  · have hk : k = q + 1 := by omega
    subst hk
    have hlow' : den ≤ 2 * r := by nlinarith
    have hstrict : (q + 1) % 2 = 1 → den < 2 * r := fun hodd => by nlinarith [(htie hodd).1]
    split_ifs <;> omega
  · have hk : k = q := by omega
    subst hk
    have hhigh' : 2 * r ≤ den := by nlinarith
    have hstrict : k % 2 = 1 → 2 * r < den := fun hodd => by nlinarith [(htie hodd).2]
    split_ifs <;> omega

/-- The same for a fraction that is given as a rational number. -/
theorem roundHalfEven_eq_of_abs {num den k : ℕ} {x : ℚ} (hden : 0 < den) (hx : (num : ℚ) / den = x)
    (hlow : (k : ℚ) - 1 / 2 ≤ x) (hhigh : x ≤ k + 1 / 2)
    (htie : k % 2 = 1 → (k : ℚ) - 1 / 2 < x ∧ x < k + 1 / 2) : roundHalfEven num den = k := by
  have hden' : (0 : ℚ) < den := by exact_mod_cast hden
  have hnum : (num : ℚ) = x * den := by
    rw [← hx, div_mul_cancel₀ _ hden'.ne']
  apply roundHalfEven_eq hden
  · have h : (2 * k * den : ℚ) ≤ 2 * num + den := by rw [hnum]; nlinarith
    exact_mod_cast h
  · have h : (2 * num : ℚ) ≤ 2 * k * den + den := by rw [hnum]; nlinarith
    exact_mod_cast h
  · intro hodd
    obtain ⟨h₁, h₂⟩ := htie hodd
    constructor
    · have h : (2 * k * den : ℚ) < 2 * num + den := by rw [hnum]; nlinarith
      exact_mod_cast h
    · have h : (2 * num : ℚ) < 2 * k * den + den := by rw [hnum]; nlinarith
      exact_mod_cast h

/-! ## The last bit -/

/-- The binary logarithm of a natural number, as bounds on the number. -/
theorem zpow_log2_bounds {n : ℕ} (hn : 0 < n) :
    (2 : ℚ) ^ (n.log2 : ℤ) ≤ n ∧ (n : ℚ) < 2 ^ ((n.log2 : ℤ) + 1) := by
  have hlow : 2 ^ n.log2 ≤ n := Nat.log2_self_le (Nat.ne_of_gt hn)
  have hhigh : n < 2 ^ (n.log2 + 1) := Nat.lt_log2_self
  constructor
  · rw [zpow_natCast]
    exact_mod_cast hlow
  · rw [show (n.log2 : ℤ) + 1 = ((n.log2 + 1 : ℕ) : ℤ) by push_cast; rfl, zpow_natCast]
    exact_mod_cast hhigh

/-- The last bit stands fifty-two places below the leading one, unless the format ends
before. -/
theorem lastBit_eq {num den : ℕ} {lead : ℤ} (hnum : 0 < num) (hden : 0 < den)
    (hlow : (2 : ℚ) ^ lead ≤ (num : ℚ) / den) (hhigh : (num : ℚ) / den < 2 ^ (lead + 1)) :
    lastBit num den = max (lead - 52) (-1074) := by
  have hn := zpow_log2_bounds hnum
  have hd := zpow_log2_bounds hden
  have hden' : (0 : ℚ) < den := by exact_mod_cast hden
  have htwo : (0 : ℚ) < 2 ^ (den.log2 : ℤ) := by positivity
  generalize hgap : (num.log2 : ℤ) - den.log2 = gap
  -- the two logarithms leave two places for the leading bit
  have hbelow : (2 : ℚ) ^ (gap - 1) < (num : ℚ) / den := by
    rw [lt_div_iff₀ hden']
    calc (2 : ℚ) ^ (gap - 1) * den < 2 ^ (gap - 1) * 2 ^ ((den.log2 : ℤ) + 1) := by
          have : (0 : ℚ) < 2 ^ (gap - 1) := by positivity
          exact mul_lt_mul_of_pos_left hd.2 this
      _ = 2 ^ (num.log2 : ℤ) := by
          rw [← zpow_add₀ (by norm_num)]
          congr 1
          omega
      _ ≤ num := hn.1
  have habove : (num : ℚ) / den < 2 ^ (gap + 1) := by
    rw [div_lt_iff₀ hden']
    calc (num : ℚ) < 2 ^ ((num.log2 : ℤ) + 1) := hn.2
      _ = 2 ^ (gap + 1) * 2 ^ (den.log2 : ℤ) := by
          rw [← zpow_add₀ (by norm_num)]
          congr 1
          omega
      _ ≤ 2 ^ (gap + 1) * den := by
          have : (0 : ℚ) < 2 ^ (gap + 1) := by positivity
          exact mul_le_mul_of_nonneg_left hd.1 this.le
  have hfirst : gap - 1 < lead + 1 :=
    (zpow_lt_zpow_iff_right₀ (by norm_num)).mp (hbelow.trans hhigh)
  have hsecond : lead < gap + 1 :=
    (zpow_lt_zpow_iff_right₀ (by norm_num)).mp (hlow.trans_lt habove)
  have htest : num * 2 ^ (-gap).toNat < den * 2 ^ gap.toNat ↔ (num : ℚ) / den < 2 ^ gap := by
    have hpow : (0 : ℚ) < 2 ^ (-gap).toNat := by positivity
    rw [zpow_eq_div, div_lt_div_iff₀ hden' hpow, mul_comm (2 ^ gap.toNat : ℚ)]
    exact_mod_cast Iff.rfl
  simp only [lastBit, hgap]
  by_cases hlt : (num : ℚ) / den < 2 ^ gap
  · have : lead < gap := (zpow_lt_zpow_iff_right₀ (by norm_num)).mp (hlow.trans_lt hlt)
    rw [if_pos (htest.mpr hlt), show gap - 1 = lead by omega]
  · have : gap < lead + 1 :=
      (zpow_lt_zpow_iff_right₀ (by norm_num)).mp ((not_lt.mp hlt).trans_lt hhigh)
    rw [if_neg (fun h => hlt (htest.mp h)), show gap = lead by omega]

/-! ## The interval around a number -/

/-- The distance to the next interval below, in quarters of the last place.  The number
below the least of its binade is nearer. -/
def Binary.reach (v : Binary) : ℕ :=
  if v.mantissa = 2 ^ 52 ∧ v.exponent ≠ -1074 then 1 else 2

/-- The least rational that rounds to a number, if its mantissa is even. -/
def Binary.low (v : Binary) : ℚ :=
  (v.mantissa - v.reach / 4) * 2 ^ v.exponent

/-- The greatest rational that rounds to a number, if its mantissa is even. -/
def Binary.high (v : Binary) : ℚ :=
  (v.mantissa + 1 / 2) * 2 ^ v.exponent

/-- A number covers the rationals that round to it. -/
def Binary.Covers (v : Binary) (x : ℚ) : Prop :=
  if v.mantissa % 2 = 0 then v.low ≤ x ∧ x ≤ v.high else v.low < x ∧ x < v.high

theorem Binary.reach_le (v : Binary) : (v.reach : ℚ) ≤ 2 := by
  simp only [reach]
  split <;> norm_num

theorem Binary.one_le_reach (v : Binary) : (1 : ℚ) ≤ v.reach := by
  simp only [reach]
  split <;> norm_num

/-- What is covered lies between the ends of the interval. -/
theorem Binary.Covers.bounds {v : Binary} {x : ℚ} (h : v.Covers x) : v.low ≤ x ∧ x ≤ v.high := by
  simp only [Covers] at h
  split at h
  · exact h
  · exact ⟨h.1.le, h.2.le⟩

theorem Binary.Covers.strict {v : Binary} {x : ℚ} (h : v.Covers x) (hodd : v.mantissa % 2 = 1) :
    v.low < x ∧ x < v.high := by
  rwa [Covers, if_neg (by omega)] at h

/-- The lower end of the interval is positive. -/
theorem Binary.low_pos {v : Binary} (hv : 0 < v.mantissa) : 0 < v.low := by
  have hone : (1 : ℚ) ≤ v.mantissa := by exact_mod_cast hv
  have hreach := v.reach_le
  have hfactor : (0 : ℚ) < v.mantissa - v.reach / 4 := by linarith
  exact mul_pos hfactor (by positivity)

theorem Binary.Covers.pos {v : Binary} {x : ℚ} (hv : 0 < v.mantissa) (h : v.Covers x) : 0 < x :=
  (Binary.low_pos hv).trans_le h.bounds.1

/-- The value of a number lies strictly inside its interval. -/
theorem Binary.low_lt_value (v : Binary) : v.low < v.value := by
  have hpow : (0 : ℚ) < 2 ^ v.exponent := by positivity
  have hreach := v.one_le_reach
  exact mul_lt_mul_of_pos_right (by linarith) hpow

theorem Binary.value_lt_high (v : Binary) : v.value < v.high := by
  have hpow : (0 : ℚ) < 2 ^ v.exponent := by positivity
  exact mul_lt_mul_of_pos_right (by linarith) hpow

/-- A number covers its own value. -/
theorem Binary.covers_value (v : Binary) : v.Covers v.value := by
  rw [Covers]
  split
  · exact ⟨v.low_lt_value.le, v.value_lt_high.le⟩
  · exact ⟨v.low_lt_value, v.value_lt_high⟩

/-- A quotient in units of a last bit. -/
theorem quotient_at {num den : ℕ} (e : ℤ) :
    ((num * 2 ^ (-e).toNat : ℕ) : ℚ) / (den * 2 ^ e.toNat : ℕ) = (num : ℚ) / den / 2 ^ e := by
  rw [zpow_eq_div]
  push_cast
  field_simp

/-- The mantissa of a quotient at a given last bit. -/
theorem roundHalfEven_at {num den k : ℕ} (e : ℤ) (hden : 0 < den)
    (hlow : ((k : ℚ) - 1 / 2) * 2 ^ e ≤ (num : ℚ) / den)
    (hhigh : (num : ℚ) / den ≤ (k + 1 / 2) * 2 ^ e)
    (htie : k % 2 = 1 →
      ((k : ℚ) - 1 / 2) * 2 ^ e < (num : ℚ) / den ∧ (num : ℚ) / den < (k + 1 / 2) * 2 ^ e) :
    roundHalfEven (num * 2 ^ (-e).toNat) (den * 2 ^ e.toNat) = k := by
  have hpow : (0 : ℚ) < 2 ^ e := by positivity
  have hden' : 0 < den * 2 ^ e.toNat := Nat.mul_pos hden (Nat.pow_pos (by decide))
  refine roundHalfEven_eq_of_abs hden' (quotient_at e) ?_ ?_ ?_
  · exact (le_div_iff₀ hpow).mpr hlow
  · exact (div_le_iff₀ hpow).mpr hhigh
  · intro hodd
    exact ⟨(lt_div_iff₀ hpow).mpr (htie hodd).1, (div_lt_iff₀ hpow).mpr (htie hodd).2⟩

/-- Nothing that a number covers has a leading bit above its own. -/
theorem Binary.Covers.lt_zpow {v : Binary} (hv : v.IsCanonical) {x : ℚ} (h : v.Covers x) :
    x < (2 : ℚ) ^ (v.exponent + 53) := by
  have hpow : (0 : ℚ) < 2 ^ v.exponent := by positivity
  have hm : (v.mantissa : ℚ) + 1 ≤ 2 ^ 53 := by exact_mod_cast hv.mantissa_lt
  calc x ≤ (v.mantissa + 1 / 2) * 2 ^ v.exponent := h.bounds.2
    _ < 2 ^ 53 * 2 ^ v.exponent := mul_lt_mul_of_pos_right (by linarith) hpow
    _ = 2 ^ (v.exponent + 53) := by
        rw [zpow_add₀ (by norm_num), mul_comm]
        norm_num

/-- A number that covers a rational with a lower leading bit is the least of its binade. -/
theorem Binary.Covers.mantissa_eq {v : Binary} (hv : v.IsCanonical) {x : ℚ} (h : v.Covers x)
    (hlt : x < (2 : ℚ) ^ (v.exponent + 52)) (hleast : v.exponent ≠ -1074) : v.mantissa = 2 ^ 52 := by
  have hpow : (0 : ℚ) < 2 ^ v.exponent := by positivity
  have hge : 2 ^ 52 ≤ v.mantissa := hv.normal_or_least.resolve_right hleast
  by_contra hne
  have hgt : (2 : ℚ) ^ 52 + 1 ≤ v.mantissa := by
    have : 2 ^ 52 + 1 ≤ v.mantissa := by omega
    exact_mod_cast this
  have hlow : v.low < 2 ^ 52 * 2 ^ v.exponent := by
    calc v.low ≤ x := h.bounds.1
      _ < 2 ^ (v.exponent + 52) := hlt
      _ = 2 ^ 52 * 2 ^ v.exponent := by
          rw [zpow_add₀ (by norm_num), mul_comm]
          norm_num
  have hfactor := lt_of_mul_lt_mul_right hlow hpow.le
  have hreach := v.reach_le
  linarith

/-- A quotient that a number covers is rounded to this number. -/
theorem nearestTo_eq_ofParts {v : Binary} (hv : v.IsCanonical) {num den : ℕ} (hden : 0 < den)
    (h : v.Covers ((num : ℚ) / den)) : nearestTo num den = ofParts false v hv.mantissa_pos := by
  have hden' : (0 : ℚ) < den := by exact_mod_cast hden
  have hnum : 0 < num := by
    have hpos := h.pos hv.mantissa_pos
    rw [lt_div_iff₀ hden', zero_mul] at hpos
    exact_mod_cast hpos
  have hge := hv.exponent_ge
  have hle := hv.exponent_le
  have hlt := hv.mantissa_lt
  have hbelow := h.lt_zpow hv
  have hpow : (0 : ℚ) < 2 ^ v.exponent := by positivity
  rw [← ofBits_eq_ofParts hv]
  simp only [nearestTo]
  by_cases hcoarse : (2 : ℚ) ^ (v.exponent + 52) ≤ (num : ℚ) / den ∨ v.exponent = -1074
  · -- the last bit is the one of the number
    have hlast : lastBit num den = v.exponent := by
      obtain ⟨lead, hlead⟩ := exists_mem_Ico_zpow (h.pos hv.mantissa_pos) (by norm_num : (1 : ℚ) < 2)
      have hupper : lead < v.exponent + 53 :=
        (zpow_lt_zpow_iff_right₀ (by norm_num)).mp (hlead.1.trans_lt hbelow)
      rw [lastBit_eq hnum hden hlead.1 hlead.2]
      rcases hcoarse with hnormal | hleast
      · have hlower : v.exponent + 52 < lead + 1 :=
          (zpow_lt_zpow_iff_right₀ (by norm_num)).mp (hnormal.trans_lt hlead.2)
        omega
      · omega
    have hround : roundHalfEven (num * 2 ^ (-v.exponent).toNat) (den * 2 ^ v.exponent.toNat) =
        v.mantissa := by
      have hreach := v.reach_le
      have hlow : ((v.mantissa : ℚ) - 1 / 2) * 2 ^ v.exponent ≤ v.low :=
        mul_le_mul_of_nonneg_right (by linarith) hpow.le
      refine roundHalfEven_at v.exponent hden (hlow.trans h.bounds.1) h.bounds.2 fun hodd => ?_
      exact ⟨hlow.trans_lt (h.strict hodd).1, (h.strict hodd).2⟩
    rw [hlast, hround, Nat.min_eq_left (by omega)]
  · -- just below a power of two the last bit is finer, and rounding carries
    obtain ⟨hfine, hleast⟩ := not_or.mp hcoarse
    have hm : v.mantissa = 2 ^ 52 := h.mantissa_eq hv (not_le.mp hfine) hleast
    have hlow : ((2 ^ 53 : ℕ) - 1 / 2 : ℚ) * 2 ^ (v.exponent - 1) ≤ (num : ℚ) / den := by
      have hbound := h.bounds.1
      rw [Binary.low, Binary.reach, if_pos ⟨hm, hleast⟩, hm] at hbound
      calc ((2 ^ 53 : ℕ) - 1 / 2 : ℚ) * 2 ^ (v.exponent - 1) =
            ((2 ^ 52 : ℕ) - (1 : ℕ) / 4 : ℚ) * 2 ^ v.exponent := by
            rw [zpow_sub_one₀ (by norm_num)]
            push_cast
            ring
        _ ≤ (num : ℚ) / den := hbound
    have hhigh : (num : ℚ) / den < ((2 ^ 53 : ℕ) + 1 / 2 : ℚ) * 2 ^ (v.exponent - 1) := by
      calc (num : ℚ) / den < 2 ^ (v.exponent + 52) := not_le.mp hfine
        _ = (2 ^ 53 : ℕ) * 2 ^ (v.exponent - 1) := by
            rw [show v.exponent + 52 = 53 + (v.exponent - 1) by ring, zpow_add₀ (by norm_num)]
            norm_num
        _ ≤ ((2 ^ 53 : ℕ) + 1 / 2 : ℚ) * 2 ^ (v.exponent - 1) :=
            mul_le_mul_of_nonneg_right (by linarith) (by positivity)
    have hlead : (2 : ℚ) ^ (v.exponent + 51) ≤ (num : ℚ) / den := by
      calc (2 : ℚ) ^ (v.exponent + 51) = 2 ^ 52 * 2 ^ (v.exponent - 1) := by
            rw [show v.exponent + 51 = 52 + (v.exponent - 1) by ring, zpow_add₀ (by norm_num)]
            norm_num
        _ ≤ ((2 ^ 53 : ℕ) - 1 / 2 : ℚ) * 2 ^ (v.exponent - 1) :=
            mul_le_mul_of_nonneg_right (by norm_num) (by positivity)
        _ ≤ (num : ℚ) / den := hlow
    have hlast : lastBit num den = v.exponent - 1 := by
      have hnext : (num : ℚ) / den < 2 ^ (v.exponent + 51 + 1) := by
        rw [show v.exponent + 51 + 1 = v.exponent + 52 by ring]
        exact not_le.mp hfine
      rw [lastBit_eq hnum hden hlead hnext]
      omega
    have hround := roundHalfEven_at (v.exponent - 1) hden hlow hhigh.le
      (fun hodd => absurd hodd (by decide))
    have hbits : (v.exponent - 1 + 1074).toNat * 2 ^ 52 + 2 ^ 53 =
        (v.exponent + 1074).toNat * 2 ^ 52 + v.mantissa := by omega
    rw [hlast, hround, hbits, Nat.min_eq_left (by omega)]

/-! ## Decimals -/

/-- A positive natural number lies between the powers of ten that its digits say. -/
theorem pow_digits_bounds {n : ℕ} (hn : 0 < n) :
    10 ^ ((digits n).length - 1) ≤ n ∧ n < 10 ^ (digits n).length := by
  have hpos : 0 < (digits n).length := List.length_pos_of_ne_nil Nat.toDigits_ne_nil
  constructor
  · by_contra hlt
    rcases Nat.eq_zero_or_pos ((digits n).length - 1) with hz | hz
    · rw [hz] at hlt
      omega
    · have := (Nat.length_toDigits_le_iff (b := 10) (by decide) hz).mpr (not_le.mp hlt)
      simp only [digits] at this hpos hz
      omega
  · exact (Nat.length_toDigits_le_iff (b := 10) (by decide) hpos).mp le_rfl

/-- The decimal exponent of a positive decimal, as bounds on its value. -/
theorem zpow_size_bounds {c : ℕ} (hc : 0 < c) (t : ℤ) :
    (10 : ℚ) ^ ((digits c).length + t - 1) ≤ c * 10 ^ t ∧
      (c : ℚ) * 10 ^ t < 10 ^ ((digits c).length + t) := by
  have hpow : (0 : ℚ) < 10 ^ t := by positivity
  have hpos : 0 < (digits c).length := List.length_pos_of_ne_nil Nat.toDigits_ne_nil
  obtain ⟨hlow, hhigh⟩ := pow_digits_bounds hc
  constructor
  · have hsplit : ((digits c).length : ℤ) + t - 1 = ((digits c).length - 1 : ℕ) + t := by omega
    rw [hsplit, zpow_add₀ (by norm_num), zpow_natCast]
    exact mul_le_mul_of_nonneg_right (by exact_mod_cast hlow) hpow.le
  · rw [zpow_add₀ (by norm_num), zpow_natCast]
    exact mul_lt_mul_of_pos_right (by exact_mod_cast hhigh) hpow

/-- The least positive bound of all intervals. -/
theorem Binary.IsCanonical.zpow_le_low {v : Binary} (hv : v.IsCanonical) :
    (2 : ℚ) ^ (-1075 : ℤ) ≤ v.low := by
  have hone : (1 : ℚ) ≤ v.mantissa := by exact_mod_cast hv.mantissa_pos
  have hreach := v.reach_le
  calc (2 : ℚ) ^ (-1075 : ℤ) = 1 / 2 * 2 ^ (-1074 : ℤ) := by
        rw [show (-1075 : ℤ) = -1074 - 1 by norm_num, zpow_sub_one₀ (by norm_num)]
        ring
    _ ≤ 1 / 2 * 2 ^ v.exponent :=
        mul_le_mul_of_nonneg_left (zpow_le_zpow_right₀ (by norm_num) hv.exponent_ge) (by norm_num)
    _ ≤ v.low := mul_le_mul_of_nonneg_right (by linarith) (by positivity)

/-- Thirteen binary places are fewer than four decimal ones. -/
theorem two_zpow_le_ten_zpow (n : ℕ) : (2 : ℚ) ^ (13 * n : ℤ) ≤ 10 ^ (4 * n : ℤ) := by
  rw [zpow_mul, zpow_mul, zpow_natCast, zpow_natCast]
  exact pow_le_pow_left₀ (by norm_num) (by norm_num) n

/-- A decimal in the range of the format passes the guard on its size. -/
theorem size_le {c : ℕ} (hc : 0 < c) {t : ℤ} (h : (c : ℚ) * 10 ^ t < 2 ^ (1027 : ℤ)) :
    ¬((digits c).length : ℤ) + t > 400 := by
  intro hbig
  have htop : (10 : ℚ) ^ (400 : ℤ) < 10 ^ (316 : ℤ) := by
    calc (10 : ℚ) ^ (400 : ℤ) ≤ 10 ^ ((digits c).length + t - 1) :=
          zpow_le_zpow_right₀ (by norm_num) (by omega)
      _ ≤ c * 10 ^ t := (zpow_size_bounds hc t).1
      _ < 2 ^ (1027 : ℤ) := h
      _ ≤ 10 ^ (316 : ℤ) := two_zpow_le_ten_zpow 79
  have := (zpow_lt_zpow_iff_right₀ (by norm_num : (1 : ℚ) < 10)).mp htop
  omega

/-- A decimal as the quotient that is rounded. -/
theorem decimal_quotient {c : ℕ} {t : ℤ} :
    ((c * 10 ^ t.toNat : ℕ) : ℚ) / (10 ^ (-t).toNat : ℕ) = c * 10 ^ t := by
  rw [zpow_eq_div]
  push_cast
  ring

/-- A decimal that a number covers is read as this number. -/
theorem nearest_eq_ofParts {v : Binary} (hv : v.IsCanonical) {c : ℕ} {t : ℤ}
    (h : v.Covers (c * 10 ^ t)) : nearest c t = ofParts false v hv.mantissa_pos := by
  have hc : c ≠ 0 := by
    intro hzero
    have hpos := h.pos hv.mantissa_pos
    rw [hzero, Nat.cast_zero, zero_mul] at hpos
    exact lt_irrefl _ hpos
  have hhigh := (zpow_size_bounds (Nat.pos_of_ne_zero hc) t).2
  -- neither guard on the size applies to a decimal in the range of the format
  have hsmall : ¬((digits c).length : ℤ) + t > 400 := by
    refine size_le (Nat.pos_of_ne_zero hc) ((h.lt_zpow hv).trans_le ?_)
    exact zpow_le_zpow_right₀ (by norm_num) (by have := hv.exponent_le; omega)
  have hlarge : ¬((digits c).length : ℤ) + t < -400 := by
    intro hbig
    have hbottom : (10 : ℚ) ^ (-400 : ℤ) < 10 ^ (-400 : ℤ) := by
      calc (10 : ℚ) ^ (-400 : ℤ) ≤ 10 ^ (-332 : ℤ) := zpow_le_zpow_right₀ (by norm_num) (by norm_num)
        _ ≤ 2 ^ (-1079 : ℤ) := by
            rw [zpow_neg, zpow_neg]
            exact inv_anti₀ (by positivity) (two_zpow_le_ten_zpow 83)
        _ ≤ 2 ^ (-1075 : ℤ) := zpow_le_zpow_right₀ (by norm_num) (by norm_num)
        _ ≤ v.low := hv.zpow_le_low
        _ ≤ c * 10 ^ t := h.bounds.1
        _ < 10 ^ ((digits c).length + t) := hhigh
        _ ≤ 10 ^ (-400 : ℤ) := zpow_le_zpow_right₀ (by norm_num) (by omega)
    exact lt_irrefl _ hbottom
  simp only [nearest, if_neg hc, if_neg hsmall, if_neg hlarge]
  refine nearestTo_eq_ofParts hv (Nat.pow_pos (by decide)) ?_
  rwa [decimal_quotient]

/-- Zero is read from any decimal of value zero. -/
theorem nearest_zero (t : ℤ) : nearest 0 t = zeroOf false := by
  rw [nearest, if_pos rfl, zero_literal]

end Stopwatch.Number
