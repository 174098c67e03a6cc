/-
  Rounding to a number of places.

  A number that is written with a fixed number of digits after the point is rounded to the
  nearest decimal with as many places, and reading the text gives the number nearest to this
  decimal.  Rounding neither changes the sign of a number nor makes it infinite: numbers near
  the end of the format are integers, and an integer is not changed at all.
-/
import Stopwatch.Proofs.Json.Tokens
import Stopwatch.Proofs.Number.Order
import Stopwatch.Proofs.Text.Search
import Stopwatch.Text.Lines

namespace Stopwatch.Number

/-! ## Reading written decimals -/

/-- The characters that numbers are written with. -/
def numberChars : List Char :=
  ['0', '1', '2', '3', '4', '5', '6', '7', '8', '9', '+', '-', '.', 'e']

theorem mem_numberChars_of_isDigit {c : Char} (h : c.isDigit) : c ∈ numberChars := by
  simp only [Char.isDigit, Bool.and_eq_true, decide_eq_true_eq] at h
  have hlow : 48 ≤ c.toNat := h.1
  have hhigh : c.toNat ≤ 57 := h.2
  have hall : ∀ n < 58, 48 ≤ n → Char.ofNat n ∈ numberChars := by decide
  rw [← Char.ofNat_toNat c]
  exact hall c.toNat (by omega) hlow

/-- Nothing that a number is written with is blank, ends a line or stands for another character. -/
theorem of_mem_numberChars {c : Char} (h : c ∈ numberChars) :
    Text.isBlank c = false ∧ Text.isLineBoundary c = false ∧ asciiDigit c = c ∧ c ≠ '_' := by
  have hall : (numberChars.all fun c =>
      !Text.isBlank c && !Text.isLineBoundary c && asciiDigit c == c && c != '_') = true := by
    decide +kernel
  simpa [and_assoc] using List.all_eq_true.mp hall c h

namespace Written

variable {w : Written}

theorem IsDecimal.mem_numberChars (h : w.IsDecimal) {negative : Bool} {c : Char}
    (hc : c ∈ signed negative w.text) : c ∈ numberChars := by
  have hdigits {ds : List Char} (hds : ∀ c ∈ ds, c.isDigit) : ∀ c ∈ ds, c ∈ numberChars :=
    fun c hc => mem_numberChars_of_isDigit (hds c hc)
  have hfraction : ∀ c ∈ w.fractionText, c ∈ numberChars := by
    rw [fractionText]
    split
    · exact List.forall_mem_nil _
    · exact List.forall_mem_cons.mpr ⟨by decide, hdigits h.fraction_digits⟩
  have hexponent : ∀ c ∈ w.exponentText, c ∈ numberChars := by
    rw [exponentText]
    split
    · exact List.forall_mem_nil _
    · rename_i negative ds hsome
      refine List.forall_mem_cons.mpr ⟨by decide, List.forall_mem_cons.mpr ⟨?_, ?_⟩⟩
      · cases negative <;> decide
      · exact hdigits (h.exponent_digits _ hsome).2
  have hbody : ∀ c ∈ w.text, c ∈ numberChars := by
    intro c hc
    rcases List.mem_append.mp hc with hc | hc
    · rcases List.mem_append.mp hc with hc | hc
      · exact hdigits h.whole_digits c hc
      · exact hfraction c hc
    · exact hexponent c hc
  cases negative with
  | false => exact hbody c hc
  | true => exact List.forall_mem_cons.mpr ⟨by decide, hbody⟩ c hc

theorem readExponent_exponentText (h : w.IsDecimal) : readExponent? w.exponentText = some w.shift := by
  obtain ⟨whole, fraction, exponent⟩ := w
  cases exponent with
  | none => rfl
  | some e =>
    obtain ⟨negative, ds⟩ := e
    obtain ⟨hne, hds⟩ := h.exponent_digits _ rfl
    have hall : ds.all Char.isDigit = true := by simpa using hds
    rw [exponentText, readExponent?]
    cases negative <;> simp [takeSign, hne, hall, shift]

/-- A written decimal is read as the number nearest to it. -/
theorem readDecimal_text (h : w.IsDecimal) : readDecimal? w.text = some (w.number false) := by
  obtain ⟨c, others, hstart, -⟩ := Json.isDigit_head h.whole_digits h.whole_start
  have hwhole : spanDigits w.text = (w.whole, w.fractionText ++ w.exponentText) := by
    have hstop := Json.fractionText_head (w := w) Json.stops_nil
    rw [List.append_nil] at hstop
    rw [text, List.append_assoc, Json.spanDigits_append h.whole_digits hstop]
  have hstop := Json.exponentText_head (w := w) Json.stops_nil
  rw [List.append_nil] at hstop
  have hexponent := readExponent_exponentText h
  rw [readDecimal?, hwhole]
  by_cases hnone : w.fraction = []
  · -- without a fraction the exponent follows, and it does not start with a point
    have hpoint : ∀ after, w.exponentText ≠ '.' :: after := by
      intro after heq
      rw [heq] at hstop
      exact (hstop '.' rfl).2 rfl
    rw [fractionText, if_pos hnone, List.nil_append]
    split
    rename_i heq
    cases heq
    split
    rename_i hmatch
    split at hmatch
    · rename_i after heq
      exact absurd heq (hpoint after)
    · cases hmatch
      simp [hstart, hexponent, number, hnone]
  · have hfraction := Json.spanDigits_append h.fraction_digits fun c hc => (hstop c hc).1
    rw [fractionText, if_neg hnone, List.cons_append]
    simp [hfraction, hexponent, hstart, number]

/-- A sign in front of a written decimal is taken off. -/
theorem takeSign_signed (h : w.IsDecimal) (negative : Bool) :
    takeSign (signed negative w.text) = (negative, w.text) := by
  obtain ⟨c, others, hstart, hc⟩ := Json.isDigit_head h.whole_digits h.whole_start
  have htext : w.text = c :: (others ++ (w.fractionText ++ w.exponentText)) := by
    rw [text, hstart, List.append_assoc, List.cons_append]
  cases negative with
  | true => rfl
  | false =>
    rw [signed, if_neg Bool.false_ne_true, htext, takeSign.eq_def]
    split
    · rename_i heq
      cases heq
      exact absurd hc (by decide)
    · rename_i heq
      cases heq
      exact absurd hc (by decide)
    · rfl

/-- A written decimal with a sign is read as the number nearest to it. -/
theorem ofText_signed_text (h : w.IsDecimal) (negative : Bool) :
    ofText? (signed negative w.text) = some (w.number negative) := by
  have hchars : ∀ c ∈ signed negative w.text, c ∈ numberChars := fun c hc => h.mem_numberChars hc
  have hstrip : Text.strip (signed negative w.text) = signed negative w.text :=
    Text.strip_eq_self fun c hc => (of_mem_numberChars (hchars c hc)).1
  have hascii : (signed negative w.text).map asciiDigit = signed negative w.text := by
    rw [List.map_congr_left fun c hc => (of_mem_numberChars (hchars c hc)).2.2.1, List.map_id']
  have hjoin : (signed negative w.text).contains '_' = false := by
    rw [List.contains_eq_mem, decide_eq_false_iff_not]
    exact fun hmem => (of_mem_numberChars (hchars _ hmem)).2.2.2 rfl
  have hsigned : readSigned? (signed negative w.text) = some (w.number negative) := by
    rw [readSigned?, takeSign_signed h]
    simp only [readDecimal_text h, Option.orElse_some, Option.map_some]
    cases negative <;> simp [number]
  rw [ofText?, hstrip, hascii, hjoin]
  simp [hsigned]

end Written

/-! ## Rounding -/

/-- The value of a number in units of the last of some places, rounded. -/
def Binary.unitsAt (places : Nat) (v : Binary) : Nat :=
  roundHalfEven (v.scaled places).1 (v.scaled places).2

/-- A number rounded to some places after the point. -/
def roundTo (places : Nat) (x : Float) : Float :=
  match classify x with
  | .finite negative v =>
    let rounded := nearest (v.unitsAt places) (-places)
    if negative then -rounded else rounded
  | _ => x

/-- A quotient that is half a unit away from what it is rounded to is rounded to an even number. -/
theorem roundHalfEven_mod_two {num den : ℕ} (hden : 0 < den)
    (htie : |(roundHalfEven num den : ℚ) - num / den| = 1 / 2) : roundHalfEven num den % 2 = 0 := by
  have hden' : (den : ℚ) ≠ 0 := by exact_mod_cast hden.ne'
  -- twice the distance is one denominator, on one side or the other
  have hhalf : 2 * (den * roundHalfEven num den) = 2 * num + den ∨
      2 * (den * roundHalfEven num den) + den = 2 * num := by
    rcases (abs_eq (by norm_num)).mp htie with h | h
    · left
      field_simp at h
      have h' : (2 * (den * roundHalfEven num den) : ℚ) = 2 * num + den := by linarith
      exact_mod_cast h'
    · right
      field_simp at h
      have h' : (2 * (den * roundHalfEven num den) + den : ℚ) = 2 * num := by linarith
      exact_mod_cast h'
  have hsplit := Nat.div_add_mod num den
  have hrest := Nat.mod_lt num hden
  simp only [roundHalfEven] at hhalf ⊢
  generalize num / den = q at *
  generalize num % den = r at *
  have hnext : den * (q + 1) = den * q + den := Nat.mul_succ den q
  split_ifs at hhalf ⊢ <;> omega

/-- A value is at most half a unit away from what it is rounded to, and of two such integers the even one
is taken. -/
theorem Binary.unitsAt_spec (places : ℕ) (v : Binary) :
    |(v.unitsAt places : ℚ) - v.value * 10 ^ places| ≤ 1 / 2 ∧
      (|(v.unitsAt places : ℚ) - v.value * 10 ^ places| = 1 / 2 → v.unitsAt places % 2 = 0) := by
  have hscaled := v.scaled_eq places
  rw [zpow_natCast] at hscaled
  rw [unitsAt, ← hscaled]
  exact ⟨abs_roundHalfEven_sub_le (v.scaled_den_pos places), roundHalfEven_mod_two (v.scaled_den_pos places)⟩

/-- In front of the last places there is a zero alone, or a number that does not start with zero. -/
theorem padZeros_start {places : ℕ} (hplaces : 0 < places) (n : ℕ) :
    let ds := padZeros (places + 1) (digits n)
    ds.take (ds.length - places) = ['0'] ∨ ∃ c rest, ds.take (ds.length - places) = c :: rest ∧ c ≠ '0' := by
  intro ds
  have hds : ds = List.replicate (places + 1 - (digits n).length) '0' ++ digits n := rfl
  -- either the zeros in front reach over the point, or there are none
  by_cases hshort : (digits n).length ≤ places
  · left
    have hfill : places + 1 - (digits n).length = places - (digits n).length + 1 := by omega
    have hlength : ds.length - places = 1 := by
      rw [hds, List.length_append, List.length_replicate]
      omega
    rw [hlength, hds, hfill, List.replicate_succ, List.cons_append, List.take_succ_cons, List.take_zero]
  · right
    have hn : 0 < n := by
      rcases Nat.eq_zero_or_pos n with rfl | hpos
      · exact absurd hplaces hshort
      · exact hpos
    obtain ⟨c, rest, hdigits, hc⟩ := digits_head_ne_zero hn
    have hfill : places + 1 - (digits n).length = 0 := by omega
    rw [hfill, List.replicate_zero, List.nil_append] at hds
    have hlength : ds.length - places = (digits n).length - places - 1 + 1 := by
      rw [hds]
      omega
    refine ⟨c, rest.take ((digits n).length - places - 1), ?_, hc⟩
    rw [hlength, hds, hdigits, List.take_succ_cons]

/-- The digits around the point of a number with some places. -/
theorem Binary.exists_written_fixed {places : ℕ} (hplaces : 0 < places) (v : Binary) :
    ∃ w : Written, w.IsDecimal ∧ w.text = v.fixed places ∧
      w.number false = nearest (v.unitsAt places) (-places) := by
  obtain ⟨ds, hds⟩ : ∃ ds, padZeros (places + 1) (digits (v.unitsAt places)) = ds := ⟨_, rfl⟩
  have hfixed : v.fixed places = ds.take (ds.length - places) ++ '.' :: ds.drop (ds.length - places) := by
    rw [← hds, fixed]
    simp only [if_neg hplaces.ne']
    rfl
  have hdigits : ∀ c ∈ ds, c.isDigit := by
    rw [← hds]
    intro c hc
    rcases List.mem_append.mp hc with hc | hc
    · exact isDigit_of_mem_replicate hc
    · exact isDigit_of_mem_digits hc
  have hlength : places + 1 ≤ ds.length := by
    rw [← hds, padZeros, List.length_append, List.length_replicate]
    omega
  have hfraction : (ds.drop (ds.length - places)).length = places := by
    rw [List.length_drop]
    omega
  have hne : ds.drop (ds.length - places) ≠ [] := List.ne_nil_of_length_pos (by omega)
  refine ⟨⟨ds.take (ds.length - places), ds.drop (ds.length - places), none⟩, ⟨?_, ?_, ?_, ?_, Or.inl hne⟩, ?_, ?_⟩
  · exact fun c hc => hdigits c (List.mem_of_mem_take hc)
  · exact hds ▸ padZeros_start hplaces (v.unitsAt places)
  · exact fun c hc => hdigits c (List.mem_of_mem_drop hc)
  · exact fun e he => absurd he (by simp)
  · simp only [Written.text, Written.fractionText, Written.exponentText, if_neg hne, List.append_nil, hfixed]
  · simp only [Written.number, Written.shift, List.take_append_drop, hfraction, zero_sub, Bool.false_eq_true, if_false]
    rw [← hds, ofDigits_padZeros, ofDigits_digits]

/-- A number with some places after the point is a decimal that is rounded to the number. -/
theorem exists_written_fixed {places : ℕ} (hplaces : 0 < places) {x : Float} (hx : x.isFinite = true) :
    ∃ (negative : Bool) (w : Written), w.IsDecimal ∧
      (formatFixed places x).toList = signed negative w.text ∧ w.number negative = roundTo places x := by
  obtain ⟨negative, v, hclass⟩ := isFinite_iff_classify.mp hx
  obtain ⟨w, hw, htext, hnumber⟩ := v.exists_written_fixed hplaces
  refine ⟨negative, w, hw, ?_, ?_⟩
  · rw [formatFixed, hclass, htext]
    exact String.toList_ofList
  · rw [roundTo, hclass]
    simp only [← hnumber, Written.number, Bool.false_eq_true, if_false]

/-- A number with some places is written without blanks and line breaks. -/
theorem mem_numberChars_of_mem_formatFixed {places : ℕ} (hplaces : 0 < places) {x : Float} (hx : x.isFinite = true)
    {c : Char} (hc : c ∈ (formatFixed places x).toList) : c ∈ numberChars := by
  obtain ⟨negative, w, hw, htext, -⟩ := exists_written_fixed hplaces hx
  rw [htext] at hc
  exact hw.mem_numberChars hc

/-! ## Finite numbers -/

/-- A quotient below the greatest power of two of the format is rounded to a finite number. -/
theorem isFinite_nearestTo {num den : ℕ} (hnum : 0 < num) (hden : 0 < den)
    (h : (num : ℚ) / den < 2 ^ (1023 : ℤ)) : (nearestTo num den).isFinite = true := by
  have hpos : (0 : ℚ) < (num : ℚ) / den := by positivity
  obtain ⟨lead, hlow, hhigh⟩ := exists_mem_Ico_zpow hpos (by norm_num : (1 : ℚ) < 2)
  have hlead : lead < 1023 := (zpow_lt_zpow_iff_right₀ (by norm_num)).mp (hlow.trans_lt h)
  have hlast := lastBit_eq hnum hden hlow hhigh
  obtain ⟨e, he⟩ : ∃ e, max (lead - 52) (-1074) = e := ⟨_, rfl⟩
  rw [he] at hlast
  -- rounding up may give one bit more than the format has
  have hmantissa : roundHalfEven (num * 2 ^ (-e).toNat) (den * 2 ^ e.toNat) ≤ 2 ^ 53 := by
    have hpow : (0 : ℚ) < 2 ^ e := by positivity
    have hquotient : ((num * 2 ^ (-e).toNat : ℕ) : ℚ) / (den * 2 ^ e.toNat : ℕ) < 2 ^ 53 := by
      rw [quotient_at e, div_lt_iff₀ hpow]
      calc (num : ℚ) / den < 2 ^ (lead + 1) := hhigh
        _ ≤ 2 ^ (53 + e) := zpow_le_zpow_right₀ (by norm_num) (by omega)
        _ = 2 ^ 53 * 2 ^ e := by
            rw [zpow_add₀ (by norm_num)]
            norm_num
    have hden' : 0 < den * 2 ^ e.toNat := Nat.mul_pos hden (Nat.pow_pos (by decide))
    have hround := (abs_le.mp (@abs_roundHalfEven_sub_le (num * 2 ^ (-e).toNat) _ hden')).2
    have hlt : (roundHalfEven (num * 2 ^ (-e).toNat) (den * 2 ^ e.toNat) : ℚ) < (2 ^ 53 + 1 : ℕ) := by
      push_cast at hquotient hround ⊢
      linarith
    exact Nat.le_of_lt_succ (by exact_mod_cast hlt)
  rw [nearestTo, hlast]
  -- a mantissa of fifty-four bits still carries into an exponent of the format
  generalize hbits : min _ (2047 * 2 ^ 52) = k
  have hk : k < 2047 * 2 ^ 52 := by omega
  rcases ofBits_cases hk with hzero | ⟨v, hv, hparts⟩
  · rw [hzero]
    exact isFinite_zeroOf false
  · rw [hparts]
    exact isFinite_ofParts false hv

/-- A decimal below this power is read as a finite number. -/
theorem isFinite_nearest {c : ℕ} {t : ℤ} (h : (c : ℚ) * 10 ^ t < 2 ^ (1023 : ℤ)) :
    (nearest c t).isFinite = true := by
  rcases Nat.eq_zero_or_pos c with rfl | hc
  · rw [nearest_zero]
    exact isFinite_zeroOf false
  · have hlt : (c : ℚ) * 10 ^ t < 2 ^ (1027 : ℤ) :=
      h.trans_le (zpow_le_zpow_right₀ (by norm_num) (by norm_num))
    simp only [nearest, if_neg hc.ne', if_neg (size_le hc hlt)]
    split
    · rw [zero_literal]
      exact isFinite_zeroOf false
    · refine isFinite_nearestTo (Nat.mul_pos hc (Nat.pow_pos (by decide))) (Nat.pow_pos (by decide)) ?_
      rw [decimal_quotient]
      exact h

theorem zero_le_ofParts {v : Binary} (hv : v.IsCanonical) : 0.0 ≤ ofParts false v hv.mantissa_pos := by
  rw [le_iff_unpack, unpack_zero, unpack_ofParts false hv]
  rfl

theorem zero_le_zeroOf (negative : Bool) : 0.0 ≤ zeroOf negative := by
  rw [le_iff_unpack, unpack_zero]
  cases negative <;> rfl

/-- What is nearest to a decimal without a sign is not negative. -/
theorem zero_le_nearest (c : ℕ) (t : ℤ) : 0.0 ≤ nearest c t := by
  rcases nearest_cases c t with heq | ⟨v, hv, heq⟩ | heq
  · exact heq ▸ zero_le_zeroOf false
  · exact heq ▸ zero_le_ofParts hv
  · rw [heq]
    decide +kernel

/-- Of the numbers with a minus sign, only zero is not negative. -/
theorem mantissa_eq_zero {x : Float} {v : Binary} (hclass : classify x = .finite true v) (h : 0.0 ≤ x) :
    v.mantissa = 0 := by
  by_contra hne
  have hv := isCanonical_of_classify hclass hne
  rw [eq_ofParts_of_classify hclass hv.mantissa_pos, le_iff_unpack, unpack_zero, unpack_ofParts true hv] at h
  cases h

theorem Binary.unitsAt_of_zero {v : Binary} (h : v.mantissa = 0) (places : ℕ) : v.unitsAt places = 0 := by
  have hden := v.scaled_den_pos places
  have hnum : (v.scaled places).1 = 0 := by simp [scaled, h]
  rw [unitsAt, hnum, roundHalfEven]
  simp [hden]

/-- An integer has no places to lose. -/
theorem Binary.unitsAt_of_exponent_nonneg {v : Binary} (h : 0 ≤ v.exponent) (places : ℕ) :
    (v.unitsAt places : ℚ) * 10 ^ (-places : ℤ) = v.value := by
  have hden : (v.scaled places).2 = 1 := by
    have htwo : (-v.exponent).toNat = 0 := by omega
    have hten : (-(places : ℤ)).toNat = 0 := by omega
    simp only [scaled, htwo, hten, pow_zero, mul_one]
  have hscaled := v.scaled_eq places
  have hround : v.unitsAt places = (v.scaled places).1 := by
    rw [unitsAt, hden]
    simp [roundHalfEven, Nat.mod_one]
  rw [hden, Nat.cast_one, div_one] at hscaled
  rw [hround, hscaled, mul_assoc, ← zpow_add₀ (by norm_num), add_neg_cancel, zpow_zero, mul_one]

/-- The rounded value of a finite number is far below the end of the format, unless the number is an
integer. -/
theorem Binary.unitsAt_lt {v : Binary} (hv : v.IsCanonical) (h : v.exponent < 0) (places : ℕ) :
    (v.unitsAt places : ℚ) * 10 ^ (-places : ℤ) < 2 ^ (1023 : ℤ) := by
  have hstep : (0 : ℚ) < 10 ^ (-places : ℤ) := by positivity
  have hstep_le : (10 : ℚ) ^ (-places : ℤ) ≤ 1 := zpow_le_one_of_nonpos₀ (by norm_num) (by omega)
  have hm : (v.mantissa : ℚ) < 2 ^ 53 := by exact_mod_cast hv.mantissa_lt
  have hpow : (2 : ℚ) ^ v.exponent ≤ 1 := zpow_le_one_of_nonpos₀ (by norm_num) (by omega)
  have hvalue : v.value < 2 ^ 53 := by
    have hpos : (0 : ℚ) < 2 ^ v.exponent := by positivity
    rw [value]
    nlinarith
  have hround := (abs_le.mp (v.unitsAt_spec places).1).2
  have hback : v.value * 10 ^ places * 10 ^ (-places : ℤ) = v.value := by
    rw [mul_assoc, zpow_neg, zpow_natCast, mul_inv_cancel₀ (by positivity), mul_one]
  calc (v.unitsAt places : ℚ) * 10 ^ (-places : ℤ) ≤ (v.value * 10 ^ places + 1 / 2) * 10 ^ (-places : ℤ) :=
        mul_le_mul_of_nonneg_right (by linarith) hstep.le
    _ = v.value + 1 / 2 * 10 ^ (-places : ℤ) := by rw [add_mul, hback]
    _ < 2 ^ 54 := by linarith
    _ ≤ 2 ^ (1023 : ℤ) := by
        rw [← zpow_natCast]
        exact zpow_le_zpow_right₀ (by norm_num) (by norm_num)

/-- The decimal nearest to a finite value is read as a finite number. -/
theorem isFinite_nearest_unitsAt {x : Float} {negative : Bool} {v : Binary}
    (hclass : classify x = .finite negative v) (places : ℕ) :
    (nearest (v.unitsAt places) (-places)).isFinite = true := by
  by_cases hzero : v.mantissa = 0
  · rw [Binary.unitsAt_of_zero hzero, nearest_zero]
    exact isFinite_zeroOf false
  · have hv := isCanonical_of_classify hclass hzero
    -- a value with a fraction is small, and one without is not rounded at all
    rcases lt_or_ge v.exponent 0 with hfraction | hinteger
    · exact isFinite_nearest (Binary.unitsAt_lt hv hfraction places)
    · have hcovers : v.Covers (v.unitsAt places * 10 ^ (-places : ℤ)) := by
        rw [Binary.unitsAt_of_exponent_nonneg hinteger]
        exact v.covers_value
      rw [nearest_eq_ofParts hv hcovers]
      exact isFinite_ofParts false hv

/-- A finite number that is not negative is rounded to one. -/
theorem roundTo_of_nonneg {x : Float} (hx : x.isFinite = true) (h : 0.0 ≤ x) (places : ℕ) :
    (roundTo places x).isFinite = true ∧ 0.0 ≤ roundTo places x := by
  obtain ⟨negative, v, hclass⟩ := isFinite_iff_classify.mp hx
  cases negative with
  | false =>
    simp only [roundTo, hclass, Bool.false_eq_true, if_false]
    exact ⟨isFinite_nearest_unitsAt hclass places, zero_le_nearest _ _⟩
  | true =>
    simp only [roundTo, hclass, if_true, Binary.unitsAt_of_zero (mantissa_eq_zero hclass h), nearest_zero, neg_zeroOf]
    exact ⟨isFinite_zeroOf true, zero_le_zeroOf true⟩

/-- A finite number that is written with some places is read back as the rounded number. -/
theorem ofText_formatFixed {places : ℕ} (hplaces : 0 < places) {x : Float} (hx : x.isFinite = true) :
    ofText? (formatFixed places x).toList = some (roundTo places x) := by
  obtain ⟨negative, w, hw, htext, hnumber⟩ := exists_written_fixed hplaces hx
  rw [htext, Written.ofText_signed_text hw, hnumber]

end Stopwatch.Number
