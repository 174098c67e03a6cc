/-
  UTF-8 text reads back.

  The machine takes the bytes of one character after the other.  What the first byte says
  about the second one excludes exactly the encodings that no character has.
-/
import Stopwatch.Text.Utf8

namespace Stopwatch.Text.Utf8

/-! ## Bytes of a text -/

theorem toList_eq_data_toList (bytes : ByteArray) : bytes.toList = bytes.data.toList := by
  have hloop (i : Nat) (done : List UInt8) : ByteArray.toList.loop bytes i done =
      done.reverse ++ bytes.data.toList.drop i := by
    induction i, done using ByteArray.toList.loop.induct bytes with
    | case1 i done hi ih =>
      have hi' : i < bytes.data.toList.length := by simpa using hi
      rw [ByteArray.toList.loop, if_pos hi, ih, List.drop_eq_getElem_cons hi', List.reverse_cons,
        List.append_assoc]
      simp [ByteArray.get!, getElem!_pos, hi]
    | case2 i done hi =>
      rw [ByteArray.toList.loop, if_neg hi, List.drop_eq_nil_of_le (by simpa using hi),
        List.append_nil]
  exact hloop 0 []

/-- A text is encoded character by character. -/
theorem encode_eq_flatMap (text : String) :
    encode text = text.toList.flatMap String.utf8EncodeChar := by
  have h : text.toUTF8 = (text.toList.flatMap String.utf8EncodeChar).toByteArray := by
    rw [String.toUTF8_eq_toByteArray, ← String.utf8Encode_toList]
    rfl
  rw [encode, h, toList_eq_data_toList, List.toList_data_toByteArray]

theorem encode_append (text text' : String) : encode (text ++ text') = encode text ++ encode text' := by
  rw [encode_eq_flatMap, encode_eq_flatMap, encode_eq_flatMap, String.toList_append, List.flatMap_append]

/-! ## One character -/

theorem toNat_ofNat_byte {n : Nat} (h : n < 256) : (UInt8.ofNat n).toNat = n := by
  rw [UInt8.toNat_ofNat', Nat.mod_eq_of_lt h]

/-- A byte in the range that the machine expects is taken. -/
theorem step_taken (p : Pending) {n : Nat} (hn : n < 256) (hlow : p.low.toNat ≤ n)
    (hhigh : n ≤ p.high.toNat) :
    step (some p) (UInt8.ofNat n) =
      if p.owed = 1 then ([.char (Char.ofNat (p.bits * 64 + (n - 0x80)))], none)
      else ([], some ⟨p.taken ++ [UInt8.ofNat n], p.bits * 64 + (n - 0x80), p.owed - 1, 0x80, 0xBF⟩) := by
  have hrange : (decide (p.low ≤ UInt8.ofNat n) && decide (UInt8.ofNat n ≤ p.high)) = true := by
    rw [Bool.and_eq_true, decide_eq_true_eq, decide_eq_true_eq, UInt8.le_iff_toNat_le,
      UInt8.le_iff_toNat_le, toNat_ofNat_byte hn]
    exact ⟨hlow, hhigh⟩
  simp only [step, hrange, if_true, toNat_ofNat_byte hn]

/-- The machine takes the first byte of a character of two bytes. -/
theorem start_two {n : Nat} (hlow : 0xC2 ≤ n) (hhigh : n < 0xE0) :
    start (UInt8.ofNat n) = .partly ⟨[UInt8.ofNat n], n - 0xC0, 1, 0x80, 0xBF⟩ := by
  simp only [start, toNat_ofNat_byte (show n < 256 by omega)]
  rw [if_neg (by omega), if_neg (by omega), if_pos hhigh]

/-- The machine takes the first byte of a character of three bytes. -/
theorem start_three {n : Nat} (hlow : 0xE0 ≤ n) (hhigh : n < 0xF0) :
    start (UInt8.ofNat n) = .partly ⟨[UInt8.ofNat n], n - 0xE0, 2, if n = 0xE0 then 0xA0 else 0x80,
      if n = 0xED then 0x9F else 0xBF⟩ := by
  simp only [start, toNat_ofNat_byte (show n < 256 by omega)]
  rw [if_neg (by omega), if_neg (by omega), if_neg (by omega), if_pos hhigh]

/-- The machine takes the first byte of a character of four bytes. -/
theorem start_four {n : Nat} (hlow : 0xF0 ≤ n) (hhigh : n < 0xF5) :
    start (UInt8.ofNat n) = .partly ⟨[UInt8.ofNat n], n - 0xF0, 3, if n = 0xF0 then 0x90 else 0x80,
      if n = 0xF4 then 0x8F else 0xBF⟩ := by
  simp only [start, toNat_ofNat_byte (show n < 256 by omega)]
  rw [if_neg (by omega), if_neg (by omega), if_neg (by omega), if_neg (by omega), if_pos hhigh]

/-- The bytes of one character are one piece. -/
theorem piecesFrom_encodeChar (c : Char) (rest : List UInt8) :
    piecesFrom none (String.utf8EncodeChar c ++ rest) = .char c :: piecesFrom none rest := by
  have hvalid : c.toNat < 0xD800 ∨ 0xDFFF < c.toNat ∧ c.toNat < 0x110000 := c.valid
  have hchar : Char.ofNat c.toNat = c := Char.ofNat_toNat c
  simp only [String.utf8EncodeChar]
  change c.val.toNat < 0xD800 ∨ 0xDFFF < c.val.toNat ∧ c.val.toNat < 0x110000 at hvalid
  change Char.ofNat c.val.toNat = c at hchar
  generalize c.val.toNat = v at hvalid hchar
  by_cases hone : v ≤ 0x7f
  · have hstart : start (UInt8.ofNat v) = .whole (Char.ofNat v) := by
      simp only [start, toNat_ofNat_byte (show v < 256 by omega)]
      rw [if_pos (by omega)]
    simp only [if_pos hone, List.cons_append, List.nil_append, piecesFrom, step, stepStart, hstart,
      hchar]
  by_cases htwo : v ≤ 0x7ff
  · have hbits : (v / 64 % 32 + 0xc0 - 0xC0) * 64 + (v % 64 + 0x80 - 0x80) = v := by omega
    simp only [if_neg hone, if_pos htwo, List.cons_append, List.nil_append, piecesFrom]
    simp only [step.eq_1, stepStart, start_two (show 0xC2 ≤ v / 64 % 32 + 0xc0 by omega)
      (show v / 64 % 32 + 0xc0 < 0xE0 by omega), List.nil_append]
    rw [step_taken _ (show v % 64 + 0x80 < 256 by omega) (show 0x80 ≤ _ by omega)
      (show _ ≤ 0xBF by omega)]
    simp only [if_true, hbits, hchar, List.singleton_append]
  by_cases hthree : v ≤ 0xffff
  · have hsecond : ((v / 4096 % 16 + 0xe0 - 0xE0) * 64 + (v / 64 % 64 + 0x80 - 0x80)) * 64 +
        (v % 64 + 0x80 - 0x80) = v := by omega
    simp only [if_neg hone, if_neg htwo, if_pos hthree, List.cons_append, List.nil_append, piecesFrom]
    simp only [step.eq_1, stepStart, start_three (show 0xE0 ≤ v / 4096 % 16 + 0xe0 by omega)
      (show v / 4096 % 16 + 0xe0 < 0xF0 by omega), List.nil_append]
    rw [step_taken _ (show v / 64 % 64 + 0x80 < 256 by omega)]
    rotate_left
    · dsimp only
      split
      · change 0xA0 ≤ _
        omega
      · change 0x80 ≤ _
        omega
    · dsimp only
      split
      · change _ ≤ 0x9F
        omega
      · change _ ≤ 0xBF
        omega
    simp only [Nat.reduceEqDiff, if_false, Nat.reduceSub, List.nil_append]
    rw [step_taken _ (show v % 64 + 0x80 < 256 by omega) (show 0x80 ≤ _ by omega)
      (show _ ≤ 0xBF by omega)]
    simp only [if_true, hsecond, hchar, List.singleton_append]
  · have hthird : (((v / 262144 % 8 + 0xf0 - 0xF0) * 64 + (v / 4096 % 64 + 0x80 - 0x80)) * 64 +
        (v / 64 % 64 + 0x80 - 0x80)) * 64 + (v % 64 + 0x80 - 0x80) = v := by omega
    simp only [if_neg hone, if_neg htwo, if_neg hthree, List.cons_append, List.nil_append, piecesFrom]
    simp only [step.eq_1, stepStart, start_four (show 0xF0 ≤ v / 262144 % 8 + 0xf0 by omega)
      (show v / 262144 % 8 + 0xf0 < 0xF5 by omega), List.nil_append]
    rw [step_taken _ (show v / 4096 % 64 + 0x80 < 256 by omega)]
    rotate_left
    · dsimp only
      split
      · change 0x90 ≤ _
        omega
      · change 0x80 ≤ _
        omega
    · dsimp only
      split
      · change _ ≤ 0x8F
        omega
      · change _ ≤ 0xBF
        omega
    simp only [Nat.reduceEqDiff, if_false, Nat.reduceSub, List.nil_append]
    rw [step_taken _ (show v / 64 % 64 + 0x80 < 256 by omega) (show 0x80 ≤ _ by omega)
      (show _ ≤ 0xBF by omega)]
    simp only [Nat.reduceEqDiff, if_false, Nat.reduceSub, List.nil_append]
    rw [step_taken _ (show v % 64 + 0x80 < 256 by omega) (show 0x80 ≤ _ by omega)
      (show _ ≤ 0xBF by omega)]
    simp only [if_true, hthird, hchar, List.singleton_append]

/-! ## Whole texts -/

/-- The pieces of an encoded text are its characters. -/
theorem pieces_encode (text : String) : pieces (encode text) = text.toList.map .char := by
  have hlist (cs : List Char) :
      piecesFrom none (cs.flatMap String.utf8EncodeChar) = cs.map .char := by
    induction cs with
    | nil => rfl
    | cons c cs ih => rw [List.flatMap_cons, piecesFrom_encodeChar, ih, List.map_cons]
  rw [pieces, encode_eq_flatMap, hlist]

theorem decodePieces_chars (position : Nat) (cs : List Char) :
    decodePieces position (cs.map .char) = .ok cs := by
  induction cs generalizing position with
  | nil => rfl
  | cons c cs ih =>
    rw [List.map_cons, decodePieces, ih]
    rfl

/-- Strict reading gives an encoded text back. -/
theorem decode_encode (text : String) : decode (encode text) = .ok text.toList := by
  rw [decode, pieces_encode, decodePieces_chars]

end Stopwatch.Text.Utf8
