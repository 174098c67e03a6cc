/-
  Line feeds in UTF-8.

  A line feed is read as one wherever it stands: it never continues a character, so a
  malformed run in front of it ends there, and no other byte is read as a line feed.  So
  bytes may be cut at line feeds before they are decoded, or afterwards.
-/
import Mathlib
import Stopwatch.Text.Utf8

namespace Stopwatch.Text.Utf8

/-! ## Characters under way -/

/-- A character under way that a line feed does not continue, and that does not come out as a
line feed. -/
structure Pending.IsBeyond (p : Pending) : Prop where
  low : 0x80 ≤ p.low.toNat
  bits : 16 ≤ p.bits * 64 + (p.low.toNat - 0x80)

/-- The first byte of a longer character has excluded everything that one byte can say. -/
theorem isBeyond_of_start {b : UInt8} {p : Pending} (h : start b = .partly p) : p.IsBeyond := by
  simp only [start] at h
  split at h
  · cases h
  split at h
  · cases h
  split at h
  · cases h
    constructor <;> simp only [UInt8.reduceToNat] <;> omega
  split at h
  · cases h
    constructor <;> dsimp only <;> split <;> simp only [UInt8.reduceToNat] <;> omega
  split at h
  · cases h
    constructor <;> dsimp only <;> split <;> simp only [UInt8.reduceToNat] <;> omega
  · cases h

/-- Only the code of a line feed is read as one; what is no code is read as another character. -/
theorem ofNat_ne_lineFeed {n : Nat} (h : n ≠ 10) : Char.ofNat n ≠ '\n' := by
  intro heq
  have hcode : (Char.ofNat n).toNat = 10 := by rw [heq]; rfl
  rw [Char.ofNat] at hcode
  split at hcode
  · exact h hcode
  · cases hcode

theorem toChar_malformed (fault : Fault) (bytes : List UInt8) : (Piece.malformed fault bytes).toChar ≠ '\n' := by
  rw [Piece.toChar]
  decide

theorem stepStart_lineFeed : stepStart 10 = ([.char '\n'], none) := rfl

/-- Another byte than a line feed starts another character. -/
theorem toChar_stepStart {b : UInt8} (hb : b ≠ 10) : ∀ piece ∈ (stepStart b).1, piece.toChar ≠ '\n' := by
  intro piece hpiece
  rw [stepStart] at hpiece
  split at hpiece
  · rename_i c hwhole
    obtain rfl := List.mem_singleton.mp hpiece
    simp only [start] at hwhole
    split at hwhole
    · cases hwhole
      exact ofNat_ne_lineFeed fun hcode => hb (UInt8.toNat_inj.mp hcode)
    · repeat (split at hwhole; all_goals try cases hwhole)
  · cases hpiece
  · obtain rfl := List.mem_singleton.mp hpiece
    exact toChar_malformed _ _

theorem isBeyond_stepStart {b : UInt8} {p : Pending} (h : (stepStart b).2 = some p) : p.IsBeyond := by
  rw [stepStart] at h
  split at h
  · cases h
  · rename_i p' hstart
    cases h
    exact isBeyond_of_start hstart
  · cases h

/-! ## Steps -/

variable {state : Option Pending}

/-- What is under way stays so while bytes are taken. -/
theorem isBeyond_step (hstate : ∀ p, state = some p → p.IsBeyond) (b : UInt8) :
    ∀ p, (step state b).2 = some p → p.IsBeyond := by
  intro q hq
  cases state with
  | none => exact isBeyond_stepStart hq
  | some p =>
    have hp := hstate p rfl
    simp only [step] at hq
    split at hq
    · split at hq
      · cases hq
      · rename_i htaken _
        rw [Bool.and_eq_true, decide_eq_true_eq, UInt8.le_iff_toNat_le] at htaken
        cases hq
        have hbits := hp.bits
        have hlow := hp.low
        constructor <;> simp only [UInt8.reduceToNat] <;> omega
    · exact isBeyond_stepStart hq

/-- Another byte than a line feed never completes one. -/
theorem toChar_step (hstate : ∀ p, state = some p → p.IsBeyond) {b : UInt8} (hb : b ≠ 10) :
    ∀ piece ∈ (step state b).1, piece.toChar ≠ '\n' := by
  intro piece hpiece
  cases state with
  | none => exact toChar_stepStart hb piece hpiece
  | some p =>
    have hp := hstate p rfl
    simp only [step] at hpiece
    split at hpiece
    · rename_i htaken
      rw [Bool.and_eq_true, decide_eq_true_eq, UInt8.le_iff_toNat_le] at htaken
      split at hpiece
      · obtain rfl := List.mem_singleton.mp hpiece
        have hbits := hp.bits
        exact ofNat_ne_lineFeed (by omega)
      · cases hpiece
    · rcases List.mem_cons.mp hpiece with rfl | hpiece
      · exact toChar_malformed _ _
      · exact toChar_stepStart hb piece hpiece

/-- A line feed ends what is under way as the end of the bytes does, and is read itself. -/
theorem step_lineFeed (hstate : ∀ p, state = some p → p.IsBeyond) :
    (step state 10).1.map Piece.toChar = (finish state).map Piece.toChar ++ ['\n'] ∧ (step state 10).2 = none := by
  cases state with
  | none => exact ⟨rfl, rfl⟩
  | some p =>
    have hp := (hstate p rfl).low
    have hrange : ¬(decide (p.low ≤ 10) && decide (10 ≤ p.high)) = true := by
      rw [Bool.and_eq_true, decide_eq_true_eq, UInt8.le_iff_toNat_le]
      rintro ⟨hlow, -⟩
      have hten : (10 : UInt8).toNat = 10 := rfl
      omega
    simp only [step, hrange, stepStart_lineFeed, finish]
    exact ⟨rfl, rfl⟩

/-! ## Whole byte sequences -/

theorem piecesFrom_lineFeed (hstate : ∀ p, state = some p → p.IsBeyond) (front rest : List UInt8) :
    (piecesFrom state (front ++ 10 :: rest)).map Piece.toChar =
      (piecesFrom state front).map Piece.toChar ++ '\n' :: (pieces rest).map Piece.toChar := by
  induction front generalizing state with
  | nil =>
    obtain ⟨hout, hnext⟩ := step_lineFeed hstate
    rw [List.nil_append, piecesFrom, piecesFrom, List.map_append, hout, hnext, List.append_assoc]
    rfl
  | cons b front ih =>
    rw [List.cons_append, piecesFrom, piecesFrom, List.map_append, List.map_append,
      ih (isBeyond_step hstate b), List.append_assoc]

/-- Bytes around a line feed are decoded by themselves. -/
theorem decodeLossy_lineFeed (front rest : List UInt8) :
    decodeLossy (front ++ 10 :: rest) = decodeLossy front ++ '\n' :: decodeLossy rest :=
  piecesFrom_lineFeed (nofun : ∀ p, (none : Option Pending) = some p → p.IsBeyond) front rest

theorem lineFeed_not_mem_piecesFrom (hstate : ∀ p, state = some p → p.IsBeyond) {bytes : List UInt8}
    (h : 10 ∉ bytes) : '\n' ∉ (piecesFrom state bytes).map Piece.toChar := by
  induction bytes generalizing state with
  | nil =>
    cases state with
    | none => exact List.not_mem_nil
    | some p => exact List.not_mem_cons_of_ne_of_not_mem (toChar_malformed _ _).symm List.not_mem_nil
  | cons b bytes ih =>
    rw [List.mem_cons, not_or] at h
    rw [piecesFrom, List.map_append, List.mem_append, not_or]
    refine ⟨fun hmem => ?_, ih (isBeyond_step hstate b) h.2⟩
    obtain ⟨piece, hpiece, heq⟩ := List.mem_map.mp hmem
    exact toChar_step hstate (Ne.symm h.1) piece hpiece heq

/-- Only a line feed is read as one. -/
theorem lineFeed_not_mem_decodeLossy {bytes : List UInt8} (h : 10 ∉ bytes) : '\n' ∉ decodeLossy bytes :=
  lineFeed_not_mem_piecesFrom (nofun : ∀ p, (none : Option Pending) = some p → p.IsBeyond) h

/-- A character under way comes out in the end. -/
theorem piecesFrom_some_ne_nil (p : Pending) (bytes : List UInt8) : piecesFrom (some p) bytes ≠ [] := by
  induction bytes generalizing p with
  | nil => exact List.cons_ne_nil _ _
  | cons b bytes ih =>
    rw [piecesFrom, step]
    split
    · split
      · exact List.cons_ne_nil _ _
      · exact ih _
    · exact List.cons_ne_nil _ _

/-- Only no bytes are read as an empty text. -/
theorem decodeLossy_eq_nil {bytes : List UInt8} : decodeLossy bytes = [] ↔ bytes = [] := by
  refine ⟨fun h => ?_, fun h => h ▸ rfl⟩
  cases bytes with
  | nil => rfl
  | cons b bytes =>
    rw [decodeLossy, List.map_eq_nil_iff, pieces, piecesFrom, step, stepStart] at h
    cases hstart : start b with
    | whole c =>
      rw [hstart] at h
      cases h
    | partly p =>
      rw [hstart] at h
      exact absurd h (piecesFrom_some_ne_nil p bytes)
    | refused =>
      rw [hstart] at h
      cases h

/-- A text is cut at its line feeds as its bytes are. -/
theorem splitOn_decodeLossy (bytes : List UInt8) :
    (decodeLossy bytes).splitOn '\n' = (bytes.splitOn 10).map decodeLossy := by
  by_cases h : 10 ∈ bytes
  · obtain ⟨front, rest, rfl, hfront⟩ := List.eq_append_cons_of_mem h
    rw [decodeLossy_lineFeed, List.splitOn_append_cons_self_of_not_mem hfront,
      List.splitOn_append_cons_self_of_not_mem (lineFeed_not_mem_decodeLossy hfront), List.map_cons,
      splitOn_decodeLossy rest]
  · rw [List.splitOn_eq_singleton h, List.splitOn_eq_singleton (lineFeed_not_mem_decodeLossy h)]
    rfl
termination_by bytes.length
decreasing_by
  subst_vars
  simp only [List.length_append, List.length_cons]
  omega

end Stopwatch.Text.Utf8
