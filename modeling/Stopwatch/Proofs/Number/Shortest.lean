/-
  The shortest decimal reads back.

  Every point that the search accepts lies in the interval of the number.  The search may
  also end without one: then its last grid has seventeen digits, and the step of that grid
  is less than twice the distance from the number to either end of the interval.
-/
import Stopwatch.Number.Shortest
import Stopwatch.Proofs.Number.Nearest

namespace Stopwatch.Number

/-- The test of the search is the interval of the number. -/
theorem Binary.roundsFrom_iff {v : Binary} (hv : 0 < v.mantissa) (t : ℤ) (c : ℕ) :
    v.roundsFrom t c = true ↔ v.Covers (c * 10 ^ t) := by
  have hunit := Binary.scaled_eq ⟨1, v.exponent - 2⟩ (-t)
  have hden : (0 : ℚ) < (Binary.scaled ⟨1, v.exponent - 2⟩ (-t)).2 := by
    exact_mod_cast Binary.scaled_den_pos ⟨1, v.exponent - 2⟩ (-t)
  have hpow : (0 : ℚ) < 10 ^ t := by positivity
  have hreach : v.reach ≤ 4 * v.mantissa := by
    simp only [reach]
    split <;> omega
  simp only [roundsFrom]
  generalize (Binary.scaled ⟨1, v.exponent - 2⟩ (-t)).1 = unit at *
  generalize (Binary.scaled ⟨1, v.exponent - 2⟩ (-t)).2 = den at *
  have hunit' : (unit : ℚ) = 2 ^ (v.exponent - 2) * (10 ^ t)⁻¹ * den := by
    rw [← zpow_neg, ← div_eq_iff hden.ne', hunit, value, Nat.cast_one, one_mul]
  -- the ends of the interval in units of the finer grid
  have hlow : ((4 * v.mantissa - v.reach : ℕ) : ℚ) * unit = v.low * (10 ^ t)⁻¹ * den := by
    rw [hunit', Nat.cast_sub hreach, low, zpow_sub₀ (by norm_num)]
    push_cast
    ring
  have hhigh : ((4 * v.mantissa + 2 : ℕ) : ℚ) * unit = v.high * (10 ^ t)⁻¹ * den := by
    rw [hunit', high, zpow_sub₀ (by norm_num)]
    push_cast
    ring
  have hend (x : ℚ) : x * (10 ^ t)⁻¹ * den ≤ (c : ℚ) * den ↔ x ≤ c * 10 ^ t := by
    rw [mul_le_mul_iff_left₀ hden, mul_inv_le_iff₀ hpow]
  have hend' (x : ℚ) : (c : ℚ) * den ≤ x * (10 ^ t)⁻¹ * den ↔ c * 10 ^ t ≤ x := by
    rw [mul_le_mul_iff_left₀ hden, le_mul_inv_iff₀ hpow]
  have h₁ : (4 * v.mantissa - v.reach) * unit ≤ c * den ↔ v.low ≤ c * 10 ^ t := by
    rw [← hend, ← hlow]
    exact_mod_cast Iff.rfl
  have h₂ : c * den ≤ (4 * v.mantissa + 2) * unit ↔ (c : ℚ) * 10 ^ t ≤ v.high := by
    rw [← hend', ← hhigh]
    exact_mod_cast Iff.rfl
  have h₃ : (4 * v.mantissa - v.reach) * unit < c * den ↔ v.low < c * 10 ^ t := by
    rw [← not_le, ← not_le, not_iff_not, ← hend', ← hlow]
    exact_mod_cast Iff.rfl
  have h₄ : c * den < (4 * v.mantissa + 2) * unit ↔ (c : ℚ) * 10 ^ t < v.high := by
    rw [← not_le, ← not_le, not_iff_not, ← hend, ← hhigh]
    exact_mod_cast Iff.rfl
  rw [Covers]
  split
  · rw [← h₁, ← h₂, Bool.and_eq_true, decide_eq_true_eq, decide_eq_true_eq]
    rfl
  · rw [← h₃, ← h₄, Bool.and_eq_true, decide_eq_true_eq, decide_eq_true_eq]
    rfl

/-- A quotient is rounded to its floor or to the next natural number. -/
theorem roundHalfEven_cases (num den : ℕ) :
    roundHalfEven num den = num / den ∨ roundHalfEven num den = num / den + 1 := by
  simp only [roundHalfEven]
  split
  · exact Or.inl rfl
  · split
    · exact Or.inr rfl
    · split
      · exact Or.inl rfl
      · exact Or.inr rfl

/-- A point of the grid that is chosen is covered. -/
theorem Binary.covers_of_nearestOnGrid {v : Binary} (hv : 0 < v.mantissa) {t : ℤ} {c : ℕ}
    (h : v.nearestOnGrid? t = some c) : v.Covers (c * 10 ^ t) := by
  rw [← roundsFrom_iff hv]
  simp only [nearestOnGrid?] at h
  split at h
  · rename_i hbelow habove
    injection h with h
    rcases roundHalfEven_cases (v.scaled (-t)).1 (v.scaled (-t)).2 with hround | hround
    · rw [← h, hround, hbelow]
    · rw [← h, hround, habove]
  · rename_i hbelow _
    injection h with h
    rw [← h, hbelow]
  · rename_i _ habove
    injection h with h
    rw [← h, habove]
  · cases h

/-- A quotient is at most a half away from what it is rounded to. -/
theorem abs_roundHalfEven_sub_le {num den : ℕ} (hden : 0 < den) :
    |(roundHalfEven num den : ℚ) - num / den| ≤ 1 / 2 := by
  have hden' : (0 : ℚ) < den := by exact_mod_cast hden
  have hsplit : (den * (num / den : ℕ) + (num % den : ℕ) : ℚ) = num := by
    exact_mod_cast Nat.div_add_mod num den
  have hvalue : (num : ℚ) / den = (num / den : ℕ) + (num % den : ℕ) / den := by
    rw [div_eq_iff hden'.ne', add_mul, div_mul_cancel₀ _ hden'.ne', mul_comm, hsplit]
  have hrest : ((num % den : ℕ) : ℚ) < den := by exact_mod_cast Nat.mod_lt num hden
  have hrest₀ : (0 : ℚ) ≤ ((num % den : ℕ) : ℚ) / den := by positivity
  rw [hvalue, abs_le]
  simp only [roundHalfEven]
  have hdown : 2 * (num % den) ≤ den → ((num % den : ℕ) : ℚ) / den ≤ 1 / 2 := by
    intro h
    have h' : (2 * (num % den : ℕ) : ℚ) ≤ den := by exact_mod_cast h
    rw [div_le_iff₀ hden']
    linarith
  have hup : den ≤ 2 * (num % den) → (1 : ℚ) / 2 ≤ ((num % den : ℕ) : ℚ) / den := by
    intro h
    have h' : (den : ℚ) ≤ 2 * (num % den : ℕ) := by exact_mod_cast h
    rw [le_div_iff₀ hden']
    linarith
  have hone : ((num % den : ℕ) : ℚ) / den < 1 := (div_lt_one hden').mpr hrest
  split_ifs with hlt hgt heven
  · have := hdown hlt.le
    constructor <;> linarith
  · have := hup hgt.le
    push_cast
    constructor <;> linarith
  · have := hdown (not_lt.mp hgt)
    constructor <;> linarith
  · have := hup (not_lt.mp hlt)
    push_cast
    constructor <;> linarith

/-- A positive value is at least the power of ten of its leading digit. -/
theorem Binary.zpow_leadingExponent_le {v : Binary} (hv : 0 < v.mantissa) :
    (10 : ℚ) ^ v.leadingExponent ≤ v.value := by
  have hvalue := v.scaled_eq 0
  rw [zpow_zero, mul_one] at hvalue
  have hden : 0 < (v.scaled 0).2 := v.scaled_den_pos 0
  have hden' : (0 : ℚ) < (v.scaled 0).2 := by exact_mod_cast hden
  have hnum : 0 < (v.scaled 0).1 :=
    Nat.mul_pos (Nat.mul_pos hv (Nat.pow_pos (by decide))) (Nat.pow_pos (by decide))
  simp only [leadingExponent]
  rw [← hvalue, le_div_iff₀ hden']
  generalize (v.scaled 0).1 = num at *
  generalize (v.scaled 0).2 = den at *
  split
  · rename_i hge
    have hq : 0 < num / den := Nat.div_pos hge hden
    have hpos : 0 < (digits (num / den)).length := List.length_pos_of_ne_nil Nat.toDigits_ne_nil
    have hlow := (pow_digits_bounds hq).1
    have hexp : ((digits (num / den)).length : ℤ) - 1 = ((digits (num / den)).length - 1 : ℕ) := by
      omega
    have hmul : 10 ^ ((digits (num / den)).length - 1) * den ≤ num :=
      (Nat.mul_le_mul_right den hlow).trans (Nat.div_mul_le_self num den)
    rw [hexp, zpow_natCast]
    exact_mod_cast hmul
  · rename_i hlt
    have hq : 0 < (den - 1) / num := Nat.div_pos (by omega) hnum
    have hhigh := (pow_digits_bounds hq).2
    have hrest : den - 1 < num * ((den - 1) / num + 1) := Nat.lt_mul_div_succ (den - 1) hnum
    have hmul : den ≤ num * 10 ^ (digits ((den - 1) / num)).length :=
      (show den ≤ num * ((den - 1) / num + 1) by omega).trans (Nat.mul_le_mul_left num hhigh)
    rw [zpow_neg, zpow_natCast, inv_mul_le_iff₀ (by positivity), mul_comm]
    exact_mod_cast hmul

/-- On a grid of seventeen digits the nearest point is covered. -/
theorem Binary.covers_finest {v : Binary} (hv : v.IsCanonical) :
    v.Covers (roundHalfEven (v.scaled (-(v.leadingExponent - 16))).1
      (v.scaled (-(v.leadingExponent - 16))).2 * 10 ^ (v.leadingExponent - 16)) := by
  have hlead := zpow_leadingExponent_le hv.mantissa_pos
  have hpow : (0 : ℚ) < 2 ^ v.exponent := by positivity
  have hm : (v.mantissa : ℚ) < 2 ^ 53 := by exact_mod_cast hv.mantissa_lt
  obtain ⟨t, ht⟩ : ∃ t, v.leadingExponent - 16 = t := ⟨_, rfl⟩
  rw [ht]
  have hstep : (0 : ℚ) < 10 ^ t := by positivity
  have hvalue : 10 ^ 16 * (10 : ℚ) ^ t ≤ v.mantissa * 2 ^ v.exponent := by
    calc 10 ^ 16 * (10 : ℚ) ^ t = 10 ^ v.leadingExponent := by
          rw [show v.leadingExponent = 16 + t by omega, zpow_add₀ (by norm_num)]
          norm_num
      _ ≤ v.mantissa * 2 ^ v.exponent := hlead
  -- half a step is less than the distance to the lower end
  have hgap : 10 ^ t / 2 < v.reach / 4 * (2 : ℚ) ^ v.exponent := by
    simp only [reach]
    split
    · rename_i hleast
      rw [hleast.1] at hvalue
      push_cast at hvalue ⊢
      linarith
    · have := mul_lt_mul_of_pos_right hm hpow
      push_cast
      linarith
  have hscaled := v.scaled_eq (-t)
  have hhalf := @abs_roundHalfEven_sub_le (v.scaled (-t)).1 _ (v.scaled_den_pos (-t))
  have hround := abs_le.mp hhalf
  rw [hscaled, zpow_neg, ← div_eq_mul_inv] at hround
  generalize (roundHalfEven (v.scaled (-t)).1 (v.scaled (-t)).2 : ℚ) = r at hround
  have hbelow : v.value - 10 ^ t / 2 ≤ r * 10 ^ t := by
    have := mul_le_mul_of_nonneg_right hround.1 hstep.le
    rw [sub_mul, div_mul_cancel₀ _ hstep.ne'] at this
    linarith
  have habove : r * 10 ^ t ≤ v.value + 10 ^ t / 2 := by
    have := mul_le_mul_of_nonneg_right hround.2 hstep.le
    rw [sub_mul, div_mul_cancel₀ _ hstep.ne'] at this
    linarith
  have hlow : v.low < r * 10 ^ t := by
    have : v.low = v.value - v.reach / 4 * 2 ^ v.exponent := by rw [low, value, sub_mul]
    linarith
  have hhigh : r * 10 ^ t < v.high := by
    have hreach := mul_le_mul_of_nonneg_right v.reach_le hpow.le
    have : v.high = v.value + 1 / 2 * 2 ^ v.exponent := by rw [high, value, add_mul]
    linarith
  rw [Covers]
  split
  · exact ⟨hlow.le, hhigh.le⟩
  · exact ⟨hlow, hhigh⟩

/-- The search ends with a decimal that the number covers. -/
theorem Binary.covers_shortestFrom {v : Binary} (hv : v.IsCanonical) (steps : ℕ) (t : ℤ)
    (ht : t - steps = v.leadingExponent - 16) :
    v.Covers ((v.shortestFrom steps t).coefficient * 10 ^ (v.shortestFrom steps t).exponent) := by
  induction steps generalizing t with
  | zero =>
    have hfinest := covers_finest hv
    rw [← ht, Nat.cast_zero, sub_zero] at hfinest
    exact hfinest
  | succ steps ih =>
    simp only [shortestFrom]
    split
    · rename_i c hc
      exact covers_of_nearestOnGrid hv.mantissa_pos hc
    · exact ih (t - 1) (by push_cast at ht; omega)

/-- The shortest decimal of a number is covered by it. -/
theorem Binary.covers_shortest {v : Binary} (hv : v.IsCanonical) :
    v.Covers (v.shortest.coefficient * 10 ^ v.shortest.exponent) :=
  covers_shortestFrom hv 16 v.leadingExponent (by norm_num)

/-- Reading the shortest decimal of a number gives the number. -/
theorem nearest_shortest {v : Binary} (hv : v.IsCanonical) :
    nearest v.shortest.coefficient v.shortest.exponent = ofParts false v hv.mantissa_pos :=
  nearest_eq_ofParts hv (Binary.covers_shortest hv)

end Stopwatch.Number
