/-
  The bits of a floating-point number.

  `classify` reads the parts of a number off its bits.  Here it is tied to the logical
  model of the machine's numbers: a finite number is exactly the packed form of the parts
  that `classify` finds, and these parts are in the one form that the format allows.
-/
import Mathlib
import Stopwatch.Number.Binary

namespace Stopwatch.Number

open Float.Model (Format UnpackedFloat)
open Float.Model.UnpackedFloat

/-! ## Canonical parts -/

/-- The parts of a positive number as the format keeps them: fifty-three bits, or fewer
at the least exponent. -/
structure Binary.IsCanonical (v : Binary) : Prop where
  mantissa_pos : 0 < v.mantissa
  mantissa_lt : v.mantissa < 2 ^ 53
  exponent_ge : -1074 ≤ v.exponent
  exponent_le : v.exponent ≤ 971
  normal_or_least : 2 ^ 52 ≤ v.mantissa ∨ v.exponent = -1074

/-- The sign of a number, as the model of numbers writes it. -/
def signOf (negative : Bool) : Sign :=
  if negative then .negative else .positive

/-- The number with the given parts. -/
def ofParts (negative : Bool) (v : Binary) (h : 0 < v.mantissa) : Float :=
  .ofModel (.pack (.finite (signOf negative) v.mantissa v.exponent h))

/-- Zero with a sign. -/
def zeroOf (negative : Bool) : Float :=
  .ofModel (.pack (.zero (signOf negative)))

/-- The logarithm of the mantissa of a canonical number. -/
theorem Binary.IsCanonical.log2_mantissa {v : Binary} (h : v.IsCanonical) :
    v.mantissa.log2 = 52 ∨ v.mantissa.log2 < 52 ∧ v.exponent = -1074 := by
  have hne : v.mantissa ≠ 0 := Nat.ne_of_gt h.mantissa_pos
  by_cases hn : 2 ^ 52 ≤ v.mantissa
  · exact Or.inl ((Nat.log2_eq_iff hne).mpr ⟨hn, h.mantissa_lt⟩)
  · have hlt : v.mantissa < 2 ^ 52 := Nat.lt_of_not_le hn
    exact Or.inr ⟨(Nat.log2_lt hne).mpr hlt, h.normal_or_least.resolve_left hn⟩

/-! ## Fields of the bits -/

theorem toNat_unpackMantissa (b : BitVec Format.binary64.numBits) :
    (unpackMantissa b).toNat = b.toNat % 2 ^ 52 := by
  simp [unpackMantissa, BitVec.extractLsb, BitVec.extractLsb', Nat.shiftRight_eq_div_pow]

theorem toNat_unpackExponent (b : BitVec Format.binary64.numBits) :
    (unpackExponent b).toNat = b.toNat / 2 ^ 52 % 2 ^ 11 := by
  simp [unpackExponent, BitVec.extractLsb, BitVec.extractLsb', Nat.shiftRight_eq_div_pow]

theorem ofBitVec_unpackSign (b : BitVec Format.binary64.numBits) :
    Sign.ofBitVec (unpackSign b) = signOf (b.toNat / 2 ^ 63 = 1) := by
  have hlt : b.toNat < 2 ^ 64 := b.isLt
  have hsign : (unpackSign b).toNat = b.toNat / 2 ^ 63 % 2 := by
    simp [unpackSign, BitVec.extractLsb, BitVec.extractLsb', Nat.shiftRight_eq_div_pow]
  by_cases h : b.toNat / 2 ^ 63 = 1
  · have hne : unpackSign b ≠ 0#1 := by
      intro hz
      have := congrArg BitVec.toNat hz
      rw [hsign, h] at this
      simp at this
    simp only [Sign.ofBitVec, signOf, if_neg hne, h, decide_true, if_true]
  · have heq : unpackSign b = 0#1 := BitVec.eq_of_toNat_eq (by rw [hsign]; simp; omega)
    simp only [Sign.ofBitVec, signOf, heq, h, decide_false, if_true, Bool.false_eq_true, if_false]

/-- Packed fields stand side by side. -/
theorem toNat_packComponents (negative : Bool) (e : BitVec 11) (m : BitVec 52) :
    (packComponents Format.binary64 (signOf negative) e m).toNat =
      negative.toNat * 2 ^ 63 + e.toNat * 2 ^ 52 + m.toNat := by
  have he : e.toNat < 2 ^ 11 := e.isLt
  have hm : m.toNat < 2 ^ 52 := m.isLt
  have hs : (signOf negative).toBitVec.toNat = negative.toNat := by cases negative <;> rfl
  have hse : ((signOf negative).toBitVec ++ e).toNat = negative.toNat * 2 ^ 11 + e.toNat := by
    rw [BitVec.toNat_append, hs, ← Nat.shiftLeft_add_eq_or_of_lt he, Nat.shiftLeft_eq]
  have hall : ((signOf negative).toBitVec ++ e ++ m).toNat =
      (negative.toNat * 2 ^ 11 + e.toNat) * 2 ^ 52 + m.toNat := by
    rw [BitVec.toNat_append, hse, ← Nat.shiftLeft_add_eq_or_of_lt hm, Nat.shiftLeft_eq]
  exact hall.trans (by omega)

/-- The bits of a number with canonical parts. -/
theorem toNat_pack_finite (negative : Bool) {v : Binary} (hv : v.IsCanonical) :
    (UnpackedFloat.pack Format.binary64
        (.finite (signOf negative) v.mantissa v.exponent hv.mantissa_pos)).toNat =
      negative.toNat * 2 ^ 63 +
        (if 2 ^ 52 ≤ v.mantissa then (v.exponent + 1075).toNat else 0) * 2 ^ 52 +
        v.mantissa % 2 ^ 52 := by
  have hle := hv.exponent_le
  have hge := hv.exponent_ge
  have hbias : (v.exponent + (Format.binary64.exponentBias : Int) +
      (Format.binary64.mantissaBitsWithoutImplicit : Int)).toNat = (v.exponent + 1075).toNat := by
    change (v.exponent + 1023 + 52).toNat = _
    omega
  have hfits : ¬2 ^ Format.binary64.exponentBits ≤ (v.exponent + 1075).toNat + 1 := by
    change ¬2048 ≤ _
    omega
  simp only [UnpackedFloat.pack, hbias, if_neg hfits]
  rcases hv.log2_mantissa with hlog | ⟨hlog, hleast⟩
  · have hn : 2 ^ 52 ≤ v.mantissa := by
      rw [← hlog]
      exact Nat.log2_self_le (Nat.ne_of_gt hv.mantissa_pos)
    rw [if_pos (show v.mantissa.log2 + 1 = Format.binary64.mantissaBits by rw [hlog]; rfl), if_pos hn,
      toNat_packComponents, BitVec.toNat_ofNat, BitVec.toNat_ofNat]
    have hmod : (v.exponent + 1075).toNat % 2 ^ 11 = (v.exponent + 1075).toNat := by omega
    rw [hmod]
  · have hn : ¬2 ^ 52 ≤ v.mantissa := by
      have := (Nat.log2_lt (Nat.ne_of_gt hv.mantissa_pos)).mp hlog
      omega
    have hbits : v.mantissa.log2 + 1 ≠ Format.binary64.mantissaBits := by
      change _ ≠ 53
      omega
    rw [if_neg hbits, if_neg hn, toNat_packComponents, BitVec.toNat_ofNat]
    rfl

/-- Bits that say what canonical parts say are read as these parts. -/
theorem unpack_eq_finite {b : BitVec Format.binary64.numBits} {negative : Bool} {v : Binary}
    (hv : v.IsCanonical)
    (hb : b.toNat = negative.toNat * 2 ^ 63 +
        (if 2 ^ 52 ≤ v.mantissa then (v.exponent + 1075).toNat else 0) * 2 ^ 52 +
        v.mantissa % 2 ^ 52) :
    UnpackedFloat.unpack Format.binary64 b =
      .finite (signOf negative) v.mantissa v.exponent hv.mantissa_pos := by
  have hle := hv.exponent_le
  have hge := hv.exponent_ge
  have hlt := hv.mantissa_lt
  have hpos := hv.mantissa_pos
  have hbool : negative.toNat ≤ 1 := Bool.toNat_le negative
  have hm : (unpackMantissa b).toNat = v.mantissa % 2 ^ 52 := by
    rw [toNat_unpackMantissa, hb]
    omega
  have he : (unpackExponent b).toNat =
      if 2 ^ 52 ≤ v.mantissa then (v.exponent + 1075).toNat else 0 := by
    rw [toNat_unpackExponent, hb]
    split <;> omega
  have hs : Sign.ofBitVec (unpackSign b) = signOf negative := by
    have hfirst : b.toNat / 2 ^ 63 = negative.toNat := by
      rw [hb]
      split <;> omega
    rw [ofBitVec_unpackSign, hfirst]
    cases negative <;> rfl
  have hfinite : unpackExponent b ≠ -1#_ := by
    intro h
    have htop : (unpackExponent b).toNat = 2047 := by rw [h]; rfl
    rw [he] at htop
    split at htop <;> omega
  simp only [UnpackedFloat.unpack, hs, if_neg hfinite]
  by_cases hn : 2 ^ 52 ≤ v.mantissa
  · rw [if_pos hn] at he
    have hnormal : unpackExponent b ≠ 0#_ := by
      intro h
      have hzero : (unpackExponent b).toNat = 0 := by rw [h]; rfl
      omega
    have hmantissa : (1#1 ++ unpackMantissa b).toNat = v.mantissa := by
      have hbound : (unpackMantissa b).toNat < 2 ^ 52 := (unpackMantissa b).isLt
      rw [BitVec.toNat_append, BitVec.toNat_ofNat, ← Nat.shiftLeft_add_eq_or_of_lt hbound,
        Nat.shiftLeft_eq, hm]
      change 1 * 2 ^ 52 + _ = _
      omega
    have hexponent : ((unpackExponent b).toNat : Int) - (Format.binary64.exponentBias +
        Format.binary64.mantissaBitsWithoutImplicit) = v.exponent := by
      rw [he]
      change _ - (1023 + 52 : Int) = _
      omega
    simp only [if_neg hnormal, hmantissa, hexponent]
  · rw [if_neg hn] at he
    have hleast : unpackExponent b = 0#_ := BitVec.eq_of_toNat_eq (by rw [he]; rfl)
    have hne : unpackMantissa b ≠ 0#_ := by
      intro h
      have hzero : (unpackMantissa b).toNat = 0 := by rw [h]; rfl
      omega
    have hmantissa : (unpackMantissa b).toNat = v.mantissa := by omega
    have hexponent : ((unpackExponent b).toNat : Int) - (Format.binary64.exponentBias +
        Format.binary64.mantissaBitsWithoutImplicit) + 1 = v.exponent := by
      rw [he, hv.normal_or_least.resolve_left hn]
      rfl
    simp only [if_pos hleast, dif_neg hne, hmantissa, hexponent]

/-! ## Numbers and their parts -/

/-- Two numbers with the same bits are equal. -/
theorem float_eq_of_toNat_eq {x y : Float} (h : x.toBits.toNat = y.toBits.toNat) : x = y := by
  have hbits : x.toModel.toBits = y.toModel.toBits := UInt64.toNat_inj.mp h
  cases x with | ofModel mx =>
  cases y with | ofModel my =>
  cases mx
  cases my
  simp only at hbits
  subst hbits
  rfl

theorem toNat_toBits_ofParts (negative : Bool) {v : Binary} (hv : v.IsCanonical) :
    (ofParts negative v hv.mantissa_pos).toBits.toNat =
      negative.toNat * 2 ^ 63 +
        (if 2 ^ 52 ≤ v.mantissa then (v.exponent + 1075).toNat else 0) * 2 ^ 52 +
        v.mantissa % 2 ^ 52 := by
  rw [← toNat_pack_finite negative hv]
  rfl

theorem toNat_toBits_zeroOf (negative : Bool) :
    (zeroOf negative).toBits.toNat = negative.toNat * 2 ^ 63 := by
  cases negative <;> rfl

/-- Canonical parts side by side, with the carry of the mantissa into the exponent, are
the bits of their number. -/
theorem ofBits_eq_ofParts {v : Binary} (hv : v.IsCanonical) :
    Float.ofBits (UInt64.ofNat ((v.exponent + 1074).toNat * 2 ^ 52 + v.mantissa)) =
      ofParts false v hv.mantissa_pos := by
  have hle := hv.exponent_le
  have hge := hv.exponent_ge
  have hlt := hv.mantissa_lt
  have hleast := hv.normal_or_least
  have hbits : (UInt64.ofNat ((v.exponent + 1074).toNat * 2 ^ 52 + v.mantissa)).toBitVec.toNat =
      false.toNat * 2 ^ 63 +
        (if 2 ^ 52 ≤ v.mantissa then (v.exponent + 1075).toNat else 0) * 2 ^ 52 +
        v.mantissa % 2 ^ 52 := by
    rw [UInt64.toBitVec_ofNat', BitVec.toNat_ofNat, Bool.toNat_false]
    split <;> omega
  change Float.ofModel (.pack (UnpackedFloat.unpack Format.binary64 _)) = _
  rw [unpack_eq_finite hv hbits]
  rfl

theorem neg_ofParts {v : Binary} (hv : v.IsCanonical) :
    -ofParts false v hv.mantissa_pos = ofParts true v hv.mantissa_pos := by
  have hunpack : UnpackedFloat.unpack Format.binary64 (UnpackedFloat.pack Format.binary64
      (.finite (signOf false) v.mantissa v.exponent hv.mantissa_pos)) =
        .finite (signOf false) v.mantissa v.exponent hv.mantissa_pos :=
    unpack_eq_finite hv (toNat_pack_finite false hv)
  change Float.ofModel (.pack (UnpackedFloat.neg (UnpackedFloat.unpack Format.binary64
    (UnpackedFloat.pack Format.binary64 _)))) = _
  rw [hunpack]
  rfl

theorem neg_zeroOf : -zeroOf false = zeroOf true := by
  decide +kernel

theorem zero_literal : (0.0 : Float) = zeroOf false := by
  decide +kernel

/-- What the three fields of a finite number say about its parts. -/
theorem fields_of_classify {x : Float} {negative : Bool} {v : Binary}
    (h : classify x = .finite negative v) :
    x.toBits.toNat / 2 ^ 63 = negative.toNat ∧
      (x.toBits.toNat / 2 ^ 52 % 2 ^ 11 = 0 ∧ v.mantissa = x.toBits.toNat % 2 ^ 52 ∧
          v.exponent = -1074 ∨
        0 < x.toBits.toNat / 2 ^ 52 % 2 ^ 11 ∧ x.toBits.toNat / 2 ^ 52 % 2 ^ 11 < 2047 ∧
          v.mantissa = x.toBits.toNat % 2 ^ 52 + 2 ^ 52 ∧
          v.exponent = (x.toBits.toNat / 2 ^ 52 % 2 ^ 11 : Nat) - 1075) := by
  have hlt : x.toBits.toNat < 2 ^ 64 := x.toBits.toBitVec.isLt
  have hfield : x.toBits.toNat / 2 ^ 52 % 2 ^ 11 < 2 ^ 11 := Nat.mod_lt _ (by decide)
  have hsign : x.toBits.toNat / 2 ^ 63 = (decide (x.toBits.toNat / 2 ^ 63 = 1)).toNat := by
    by_cases hs : x.toBits.toNat / 2 ^ 63 = 1
    · rw [decide_eq_true hs, Bool.toNat_true, hs]
    · rw [decide_eq_false hs, Bool.toNat_false]
      omega
  simp only [classify] at h
  split at h
  · split at h <;> cases h
  · rename_i hbiased
    split at h
    · rename_i hzero
      injection h with hneg hv
      subst hv hneg
      exact ⟨hsign, Or.inl ⟨hzero, rfl, rfl⟩⟩
    · rename_i hzero
      injection h with hneg hv
      subst hv hneg
      exact ⟨hsign, Or.inr ⟨Nat.pos_of_ne_zero hzero, by omega, rfl, rfl⟩⟩

/-- The parts of a finite number that is not zero are canonical. -/
theorem isCanonical_of_classify {x : Float} {negative : Bool} {v : Binary}
    (h : classify x = .finite negative v) (hv : v.mantissa ≠ 0) : v.IsCanonical := by
  have hfraction : x.toBits.toNat % 2 ^ 52 < 2 ^ 52 := Nat.mod_lt _ (by decide)
  obtain ⟨-, hparts⟩ := fields_of_classify h
  generalize x.toBits.toNat % 2 ^ 52 = f at hparts hfraction
  generalize x.toBits.toNat / 2 ^ 52 % 2 ^ 11 = b at hparts
  constructor <;> omega

/-- A finite number that is not zero is the number with the parts that are found. -/
theorem eq_ofParts_of_classify {x : Float} {negative : Bool} {v : Binary}
    (h : classify x = .finite negative v) (hv : 0 < v.mantissa) : x = ofParts negative v hv := by
  have hc := isCanonical_of_classify h (Nat.ne_of_gt hv)
  have hlt : x.toBits.toNat < 2 ^ 64 := x.toBits.toBitVec.isLt
  obtain ⟨hsign, hparts⟩ := fields_of_classify h
  apply float_eq_of_toNat_eq
  rw [toNat_toBits_ofParts negative hc]
  rcases hparts with ⟨hb, hm, he⟩ | ⟨hb, -, hm, he⟩
  · rw [if_neg (by omega)]
    omega
  · rw [if_pos (by omega)]
    omega

/-- A number whose value is zero is zero with its sign. -/
theorem eq_zeroOf_of_classify {x : Float} {negative : Bool} {v : Binary}
    (h : classify x = .finite negative v) (hv : v.mantissa = 0) : x = zeroOf negative := by
  have hlt : x.toBits.toNat < 2 ^ 64 := x.toBits.toBitVec.isLt
  obtain ⟨hsign, hparts⟩ := fields_of_classify h
  apply float_eq_of_toNat_eq
  rw [toNat_toBits_zeroOf]
  omega

/-- There is one number for each infinity. -/
theorem eq_of_classify_infinite {x : Float} {negative : Bool} (h : classify x = .infinite negative) :
    x = if negative then -1.0 / 0.0 else 1.0 / 0.0 := by
  have hlt : x.toBits.toNat < 2 ^ 64 := x.toBits.toBitVec.isLt
  have hpos : (1.0 / 0.0 : Float).toBits.toNat = 2047 * 2 ^ 52 := by decide +kernel
  have hneg : (-1.0 / 0.0 : Float).toBits.toNat = 2 ^ 63 + 2047 * 2 ^ 52 := by decide +kernel
  simp only [classify] at h
  split at h
  · rename_i hbiased
    split at h
    · rename_i hfraction
      injection h with hsign
      apply float_eq_of_toNat_eq
      by_cases hs : x.toBits.toNat / 2 ^ 63 = 1
      · rw [← hsign, decide_eq_true hs, if_pos rfl, hneg]
        omega
      · rw [← hsign, decide_eq_false hs, if_neg Bool.false_ne_true, hpos]
        omega
    · cases h
  · split at h <;> cases h

/-- There is one number that is no number. -/
theorem eq_of_classify_nan {x : Float} (h : classify x = .nan) : x = 0.0 / 0.0 := by
  have hlt : x.toBits.toNat < 2 ^ 64 := x.toBits.toBitVec.isLt
  simp only [classify] at h
  split at h
  · rename_i hbiased
    split at h
    · cases h
    · rename_i hfraction
      let bits : BitVec Format.binary64.numBits := x.toModel.toBits.toBitVec
      have hexponent : unpackExponent bits = -1#_ := by
        refine BitVec.eq_of_toNat_eq ?_
        rw [toNat_unpackExponent]
        exact hbiased
      have hmantissa : unpackMantissa bits ≠ 0#_ := by
        intro hzero
        have := congrArg BitVec.toNat hzero
        rw [toNat_unpackMantissa] at this
        exact hfraction this
      have hbits := x.toModel.valid.eq_packedNaN hexponent hmantissa
      have hnan : (0.0 / 0.0 : Float).toBits.toNat = (packedNaN Format.binary64).toNat := by
        decide +kernel
      apply float_eq_of_toNat_eq
      rw [hnan, ← hbits]
      rfl
  · split at h <;> cases h

end Stopwatch.Number
