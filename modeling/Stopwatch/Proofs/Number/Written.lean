/-
  Written numbers read back.

  The shortest form of a finite number, in any style, is a written decimal: digits, a
  point with digits after it, an exponent.  Its value is the shortest decimal, so rounding
  it gives the number.
-/
import Mathlib.Data.List.TakeWhile
import Stopwatch.Number.Format
import Stopwatch.Proofs.Number.Shortest

namespace Stopwatch.Number

/-! ## Digits -/

theorem ofDigits_eq_ofDigitChars (ds : List Char) : ofDigits ds = Nat.ofDigitChars 10 ds 0 := by
  have hstep (n : ℕ) : ds.foldl (fun n d => n * 10 + (d.toNat - '0'.toNat)) n =
      Nat.ofDigitChars 10 ds n := by
    induction ds generalizing n with
    | nil => simp
    | cons d ds ih => rw [List.foldl_cons, ih, Nat.ofDigitChars_cons, Nat.mul_comm]
  exact hstep 0

theorem ofDigits_append (xs ys : List Char) :
    ofDigits (xs ++ ys) = ofDigits xs * 10 ^ ys.length + ofDigits ys := by
  simp only [ofDigits_eq_ofDigitChars]
  rw [Nat.ofDigitChars_append, Nat.ofDigitChars_eq_ofDigitChars_zero, Nat.mul_comm]

@[simp]
theorem ofDigits_replicate_zero (n : ℕ) : ofDigits (List.replicate n '0') = 0 := by
  rw [ofDigits_eq_ofDigitChars, Nat.ofDigitChars_replicate_zero, Nat.mul_zero]

@[simp]
theorem ofDigits_digits (n : ℕ) : ofDigits (digits n) = n := by
  rw [ofDigits_eq_ofDigitChars, digits, Nat.ofDigitChars_ten_toDigits]

theorem isDigit_of_mem_digits {n : ℕ} {c : Char} (h : c ∈ digits n) : c.isDigit :=
  Nat.isDigit_of_mem_toDigits (by decide) (by decide) h

/-- Digits write a number with at most as many digits. -/
theorem ofDigits_lt {ds : List Char} (h : ∀ c ∈ ds, c.isDigit) : ofDigits ds < 10 ^ ds.length := by
  induction ds using List.reverseRecOn with
  | nil => decide
  | append_singleton ds d ih =>
    have hbefore := ih fun c hc => h c (List.mem_append_left _ hc)
    have hdigit : d.toNat - '0'.toNat ≤ 9 := by
      have hd := h d (List.mem_append_right _ List.mem_cons_self)
      simp only [Char.isDigit, Bool.and_eq_true, decide_eq_true_eq] at hd
      have hle : d.toNat ≤ 57 := hd.2
      have hzero : '0'.toNat = 48 := rfl
      omega
    have hone : ofDigits [d] = d.toNat - '0'.toNat := by simp [ofDigits]
    rw [ofDigits_append, hone, List.length_append, List.length_singleton, pow_succ]
    omega

/-- Zeros in front do not count. -/
theorem ofDigits_padZeros (width : ℕ) (ds : List Char) : ofDigits (padZeros width ds) = ofDigits ds := by
  rw [padZeros, ofDigits_append, ofDigits_replicate_zero, Nat.zero_mul, Nat.zero_add]

/-- The digits of a positive number do not start with zero. -/
theorem digits_head_ne_zero {n : ℕ} (hn : 0 < n) : ∃ c rest, digits n = c :: rest ∧ c ≠ '0' := by
  induction n using Nat.strongRecOn with
  | _ n ih =>
    rw [digits, Nat.toDigits_eq_if (by decide)]
    split
    · rename_i hlt
      have hc : ∀ k < 10, 0 < k → k.digitChar ≠ '0' := by decide
      exact ⟨n.digitChar, [], rfl, hc n hlt hn⟩
    · rename_i hge
      obtain ⟨c, rest, hrest, hc⟩ := ih (n / 10) (by omega) (by omega)
      exact ⟨c, rest ++ [(n % 10).digitChar], by rw [← List.cons_append, ← hrest]; rfl, hc⟩

/-- Zeros at the end, when they are dropped, were a power of ten. -/
theorem dropTrailingZeros_append (ds : List Char) :
    ∃ k, dropTrailingZeros ds ++ List.replicate k '0' = ds := by
  have hsplit := List.takeWhile_append_dropWhile (p := (· = '0')) (l := ds.reverse)
  have hzeros : ds.reverse.takeWhile (· = '0') =
      List.replicate (ds.reverse.takeWhile (· = '0')).length '0' := by
    rw [List.eq_replicate_iff]
    refine ⟨rfl, fun c hc => ?_⟩
    simpa using List.mem_takeWhile_imp hc
  refine ⟨(ds.reverse.takeWhile (· = '0')).length, ?_⟩
  rw [dropTrailingZeros, ← List.reverse_replicate, ← hzeros, ← List.reverse_append, hsplit,
    List.reverse_reverse]

/-- The significant digits of a positive number: its digits without the zeros at the end. -/
theorem significant_digits {n : ℕ} (hn : 0 < n) :
    (∃ c rest, dropTrailingZeros (digits n) = c :: rest ∧ c ≠ '0') ∧
      (∀ c ∈ dropTrailingZeros (digits n), c.isDigit) ∧
      (n : ℚ) = ofDigits (dropTrailingZeros (digits n)) *
        10 ^ ((digits n).length - (dropTrailingZeros (digits n)).length : ℤ) := by
  obtain ⟨k, hk⟩ := dropTrailingZeros_append (digits n)
  have hvalue : n = ofDigits (dropTrailingZeros (digits n)) * 10 ^ k := by
    conv_lhs => rw [← ofDigits_digits n, ← hk, ofDigits_append, ofDigits_replicate_zero,
      List.length_replicate, Nat.add_zero]
  have hlength : (digits n).length = (dropTrailingZeros (digits n)).length + k := by
    conv_lhs => rw [← hk, List.length_append, List.length_replicate]
  refine ⟨?_, fun c hc => isDigit_of_mem_digits (n := n) (hk ▸ List.mem_append_left _ hc), ?_⟩
  · obtain ⟨c, rest, hhead, hc⟩ := digits_head_ne_zero hn
    cases hds : dropTrailingZeros (digits n) with
    | nil =>
      rw [hds] at hvalue
      simp [ofDigits] at hvalue
      omega
    | cons d ds =>
      rw [hds, List.cons_append, hhead] at hk
      injection hk with hd _
      exact ⟨d, ds, rfl, hd ▸ hc⟩
  · have hexp : ((digits n).length : ℤ) - (dropTrailingZeros (digits n)).length = (k : ℕ) := by
      omega
    rw [hexp, zpow_natCast]
    exact_mod_cast hvalue

/-! ## Written decimals -/

/-- A written decimal: the digits before the point, those after it, and a signed exponent
if one is written. -/
structure Written where
  whole : List Char
  fraction : List Char
  exponent : Option (Bool × List Char)

/-- The point and the digits after it, if there are any. -/
def Written.fractionText (w : Written) : List Char :=
  if w.fraction = [] then [] else '.' :: w.fraction

/-- The mark, the sign and the digits of the exponent, if there is one. -/
def Written.exponentText (w : Written) : List Char :=
  match w.exponent with
  | none => []
  | some (negative, ds) => 'e' :: (if negative then '-' else '+') :: ds

/-- The text of a written decimal. -/
def Written.text (w : Written) : List Char :=
  w.whole ++ w.fractionText ++ w.exponentText

/-- The value of the exponent. -/
def Written.shift (w : Written) : ℤ :=
  match w.exponent with
  | none => 0
  | some (negative, ds) => if negative then -(ofDigits ds : ℤ) else ofDigits ds

/-- The value of a written decimal. -/
def Written.value (w : Written) : ℚ :=
  ofDigits (w.whole ++ w.fraction) * 10 ^ (w.shift - w.fraction.length)

/-- The number nearest to a written decimal, with a sign. -/
def Written.number (negative : Bool) (w : Written) : Float :=
  let x := nearest (ofDigits (w.whole ++ w.fraction)) (w.shift - w.fraction.length)
  if negative then -x else x

/-- A written decimal that no reader takes for something else: all parts are digits, the
first is zero only on its own, and there is a fraction or an exponent. -/
structure Written.IsDecimal (w : Written) : Prop where
  whole_digits : ∀ c ∈ w.whole, c.isDigit
  whole_start : w.whole = ['0'] ∨ ∃ c rest, w.whole = c :: rest ∧ c ≠ '0'
  fraction_digits : ∀ c ∈ w.fraction, c.isDigit
  exponent_digits : ∀ e ∈ w.exponent, e.2 ≠ [] ∧ ∀ c ∈ e.2, c.isDigit
  not_integer : w.fraction ≠ [] ∨ w.exponent ≠ none

theorem isDigit_of_mem_replicate {n : ℕ} {c : Char} (h : c ∈ List.replicate n '0') : c.isDigit := by
  rw [List.eq_of_mem_replicate h]
  rfl

section Layout

variable {ds : List Char} {lead : ℤ} (hstart : ∃ c rest, ds = c :: rest ∧ c ≠ '0')
  (hdigits : ∀ c ∈ ds, c.isDigit)

include hstart hdigits

/-- Digits that are laid out around a point keep their value. -/
theorem exists_written_positional :
    ∃ w : Written, w.IsDecimal ∧ w.text = positional 1 ds lead ∧
      w.value = ofDigits ds * 10 ^ (lead + 1 - ds.length) := by
  obtain ⟨first, others, hds, hfirst⟩ := hstart
  have hlength : 0 < ds.length := by rw [hds]; exact Nat.succ_pos _
  by_cases hneg : lead < 0
  · -- the point stands before all digits
    have hfill : List.replicate ((-lead).toNat - 1) '0' ++ ds ++ List.replicate (1 -
        (List.replicate ((-lead).toNat - 1) '0' ++ ds).length) '0' =
          List.replicate ((-lead).toNat - 1) '0' ++ ds := by
      rw [List.length_append, show ∀ k, 1 - (k + ds.length) = 0 by omega, List.replicate_zero,
        List.append_nil]
    have hne : List.replicate ((-lead).toNat - 1) '0' ++ ds ≠ [] := by simp [hds]
    refine ⟨⟨['0'], List.replicate ((-lead).toNat - 1) '0' ++ ds, none⟩, ⟨?_, Or.inl rfl, ?_, ?_,
      Or.inl hne⟩, ?_, ?_⟩
    · exact fun c hc => isDigit_of_mem_replicate (n := 1) hc
    · intro c hc
      rcases List.mem_append.mp hc with hc | hc
      · exact isDigit_of_mem_replicate hc
      · exact hdigits c hc
    · exact fun e he => absurd he (by simp)
    · simp only [Written.text, Written.fractionText, Written.exponentText, positional, if_pos hneg, hfill, if_neg hne, List.append_nil]
    · simp only [Written.value, Written.shift]
      rw [ofDigits_append, ofDigits_append, ofDigits_replicate_zero, List.length_append,
        List.length_replicate]
      have hexp : (0 : ℤ) - ((-lead).toNat - 1 + ds.length : ℕ) = lead + 1 - ds.length := by omega
      rw [hexp]
      simp [ofDigits]
  · by_cases hlong : lead.toNat + 1 < ds.length
    · -- the point stands between two digits
      have hrest : 0 < (ds.drop (lead.toNat + 1)).length := by
        rw [List.length_drop]
        omega
      have hne : ds.drop (lead.toNat + 1) ≠ [] := List.ne_nil_of_length_pos hrest
      refine ⟨⟨ds.take (lead.toNat + 1), ds.drop (lead.toNat + 1), none⟩, ⟨?_, ?_, ?_, ?_,
        Or.inl hne⟩, ?_, ?_⟩
      · exact fun c hc => hdigits c (List.mem_of_mem_take hc)
      · refine Or.inr ⟨first, others.take lead.toNat, ?_, hfirst⟩
        simp only [hds, List.take_succ_cons]
      · exact fun c hc => hdigits c (List.mem_of_mem_drop hc)
      · exact fun e he => absurd he (by simp)
      · simp only [Written.text, Written.fractionText, Written.exponentText, positional, if_neg hneg, if_neg hne, List.append_nil]
        rw [show lead.toNat + 1 - ds.length = 0 by omega, show
          1 - (ds.drop (lead.toNat + 1)).length = 0 by omega]
        simp [hne]
      · simp only [Written.value, Written.shift]
        rw [List.take_append_drop, List.length_drop]
        congr 2
        omega
    · -- zeros fill the places before the point
      refine ⟨⟨ds ++ List.replicate (lead.toNat + 1 - ds.length) '0', ['0'], none⟩, ⟨?_, ?_, ?_, ?_,
        Or.inl (by simp)⟩, ?_, ?_⟩
      · intro c hc
        rcases List.mem_append.mp hc with hc | hc
        · exact hdigits c hc
        · exact isDigit_of_mem_replicate hc
      · exact Or.inr ⟨first, others ++ List.replicate (lead.toNat + 1 - ds.length) '0',
          by simp only [hds, List.cons_append], hfirst⟩
      · exact fun c hc => isDigit_of_mem_replicate (n := 1) hc
      · exact fun e he => absurd he (by simp)
      · have hdrop : ds.drop (lead.toNat + 1) = [] := List.drop_eq_nil_of_le (by omega)
        have htake : ds.take (lead.toNat + 1) = ds := List.take_of_length_le (by omega)
        simp [Written.text, Written.fractionText, Written.exponentText, positional, hneg, hdrop, htake]
      · simp only [Written.value, Written.shift]
        rw [ofDigits_append, ofDigits_append, ofDigits_replicate_zero, List.length_replicate]
        have hexp : lead + 1 - (ds.length : ℤ) = ((lead.toNat + 1 - ds.length : ℕ) : ℤ) := by omega
        rw [hexp, zpow_natCast]
        simp [ofDigits]

/-- Digits that are written with an exponent keep their value. -/
theorem exists_written_scientific (width : ℕ) :
    ∃ w : Written, w.IsDecimal ∧ w.text = scientific width ds lead ∧
      w.value = ofDigits ds * 10 ^ (lead + 1 - ds.length) := by
  obtain ⟨first, others, hds, hfirst⟩ := hstart
  have hpad : ∀ c ∈ padZeros width (digits lead.natAbs), c.isDigit := by
    intro c hc
    rcases List.mem_append.mp hc with hc | hc
    · exact isDigit_of_mem_replicate hc
    · exact isDigit_of_mem_digits hc
  refine ⟨⟨[first], others, some (lead < 0, padZeros width (digits lead.natAbs))⟩, ⟨?_, ?_, ?_, ?_,
    Or.inr (by simp)⟩, ?_, ?_⟩
  · intro c hc
    rw [List.mem_singleton.mp hc]
    exact hdigits first (hds ▸ List.mem_cons_self)
  · exact Or.inr ⟨first, [], rfl, hfirst⟩
  · exact fun c hc => hdigits c (hds ▸ List.mem_cons_of_mem _ hc)
  · rintro e ⟨⟩
    refine ⟨?_, hpad⟩
    simp [padZeros, digits, Nat.toDigits_ne_nil]
  · simp [Written.text, Written.fractionText, Written.exponentText, scientific, exponentText, hds]
  · have hshift : (if lead < 0 then -(ofDigits (padZeros width (digits lead.natAbs)) : ℤ)
        else ofDigits (padZeros width (digits lead.natAbs))) = lead := by
      rw [ofDigits_padZeros, ofDigits_digits]
      split <;> omega
    simp only [Written.value, Written.shift, decide_eq_true_eq, hshift]
    rw [hds, List.singleton_append, List.length_cons]
    congr 2
    omega

end Layout

/-- The shortest form of a finite number, in any style, is a decimal that is rounded to
the number. -/
theorem exists_written_shortest (style : ShortestStyle) {x : Float} {negative : Bool} {v : Binary}
    (h : classify x = .finite negative v) :
    ∃ w : Written, w.IsDecimal ∧
      formatShortest style x = String.ofList (signed negative w.text) ∧ w.number negative = x := by
  simp only [formatShortest, h]
  split
  · rename_i hzero
    have hzeros : ∀ c ∈ ['0'], c.isDigit := List.forall_mem_singleton.mpr rfl
    refine ⟨⟨['0'], ['0'], none⟩, ⟨hzeros, Or.inl rfl, hzeros, by simp, Or.inl (by simp)⟩, rfl, ?_⟩
    have hnumber : nearest (ofDigits (['0'] ++ ['0'])) (0 - ['0'].length) = zeroOf false :=
      nearest_zero _
    rw [eq_zeroOf_of_classify h hzero]
    simp only [Written.number, Written.shift, hnumber]
    cases negative
    · rfl
    · exact neg_zeroOf
  · rename_i hne
    have hv := isCanonical_of_classify h hne
    have hc : 0 < v.shortest.coefficient := by
      by_contra hzero
      have hpos := (Binary.covers_shortest hv).pos hv.mantissa_pos
      rw [Nat.eq_zero_of_not_pos hzero, Nat.cast_zero, zero_mul] at hpos
      exact lt_irrefl _ hpos
    obtain ⟨hstart, hdigits, hvalue⟩ := significant_digits hc
    generalize hlead : v.shortest.exponent + ((digits v.shortest.coefficient).length : ℤ) - 1 = lead
    have hwritten : ∃ w : Written, w.IsDecimal ∧ w.text =
        (if (style.positionalFrom ≤ lead && lead < style.positionalBelow) = true then
          positional 1 (dropTrailingZeros (digits v.shortest.coefficient)) lead
        else scientific style.exponentWidth (dropTrailingZeros (digits v.shortest.coefficient)) lead) ∧
        w.value = ofDigits (dropTrailingZeros (digits v.shortest.coefficient)) *
          10 ^ (lead + 1 - (dropTrailingZeros (digits v.shortest.coefficient)).length) := by
      split
      · exact exists_written_positional hstart hdigits
      · exact exists_written_scientific hstart hdigits style.exponentWidth
    obtain ⟨w, hw, htext, hval⟩ := hwritten
    refine ⟨w, hw, by rw [htext], ?_⟩
    have hcovers : v.Covers w.value := by
      have hshort := Binary.covers_shortest hv
      rw [hvalue, mul_assoc, ← zpow_add₀ (by norm_num)] at hshort
      rw [hval]
      convert hshort using 3
      omega
    have hnumber := nearest_eq_ofParts hv hcovers
    rw [eq_ofParts_of_classify h hv.mantissa_pos]
    simp only [Written.number, hnumber]
    cases negative
    · rfl
    · exact neg_ofParts hv

end Stopwatch.Number
