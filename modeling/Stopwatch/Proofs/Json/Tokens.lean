/-
  Written tokens read back.

  The tokens of a document are read one at a time from the text that is left.  Each
  lemma here says that a reader takes exactly the characters which the writer has put
  in front of that text.
-/
import Stopwatch.Json.Reader
import Stopwatch.Json.Writer
import Stopwatch.Proofs.Number.Written

namespace Stopwatch.Json

/-! ## Space -/

/-- Space in front is skipped, whatever follows. -/
theorem skipSpace_append {space : List Char} (h : ∀ c ∈ space, isSpace c) (rest : List Char) :
    skipSpace (space ++ rest) = skipSpace rest := by
  induction space with
  | nil => rfl
  | cons c space ih =>
    have hc : isSpace c = true := h c List.mem_cons_self
    rw [List.cons_append, skipSpace, List.dropWhile_cons_of_pos hc]
    exact ih fun d hd => h d (List.mem_cons_of_mem c hd)

theorem skipSpace_cons {c : Char} (h : isSpace c = false) (rest : List Char) :
    skipSpace (c :: rest) = c :: rest :=
  List.dropWhile_cons_of_neg (by simp [h])

/-! ## Strings -/

theorem hexDigit_digitChar {n : Nat} (h : n < 16) : hexDigit? n.digitChar = some n := by
  have hall : ∀ k < 16, hexDigit? k.digitChar = some k := by decide
  exact hall n h

/-- Four hexadecimal digits say the unit they were written for. -/
theorem hexUnit_digits {n : Nat} (h : n < 0x10000) :
    hexUnit? (n / 0x1000 % 16).digitChar (n / 0x100 % 16).digitChar (n / 0x10 % 16).digitChar
      (n % 16).digitChar = some n := by
  have hd (k : Nat) : hexDigit? (k % 16).digitChar = some (k % 16) :=
    hexDigit_digitChar (Nat.mod_lt k (by decide))
  simp only [hexUnit?, hd, Option.bind_eq_bind, Option.bind_some, Option.pure_def]
  congr 1
  omega

/-- A character in front of what a string holds so far. -/
def consRead (c : Char) (found : Option (List Char × List Char)) : Option (List Char × List Char) :=
  found.map fun (cs, after) => (c :: cs, after)

/-- A character that is no quote, no backslash and no control character stands for itself. -/
theorem readString_plain {c : Char} (hquote : c ≠ '"') (hslash : c ≠ '\\') (hc : 0x20 ≤ c.toNat)
    (rest : List Char) : readString? (c :: rest) = consRead c (readString? rest) := by
  rw [readString?]
  · rw [if_neg (by omega)]
    rfl
  · exact hquote
  all_goals
    intros
    contradiction

/-- A backslash and a letter stand for one character. -/
theorem readString_short {letter c : Char} (hu : letter ≠ 'u') (h : shortEscape? letter = some c)
    (rest : List Char) : readString? ('\\' :: letter :: rest) = consRead c (readString? rest) := by
  rw [readString?]
  · rw [h]
    rfl
  all_goals
    intros
    contradiction

/-- An escaped unit that is no half of a pair stands for its character. -/
theorem readString_unit {n : Nat} (hn : n < 0x10000) (hhalf : n < 0xD800 ∨ 0xE000 ≤ n)
    (rest : List Char) :
    readString? (escapeUnit n ++ rest) = consRead (Char.ofNat n) (readString? rest) := by
  have hunit := hexUnit_digits hn
  have hhigh : (decide (0xD800 ≤ n) && decide (n < 0xDC00)) = false := by
    rw [Bool.and_eq_false_iff, decide_eq_false_iff_not, decide_eq_false_iff_not]
    omega
  have hlow : (decide (0xDC00 ≤ n) && decide (n < 0xE000)) = false := by
    rw [Bool.and_eq_false_iff, decide_eq_false_iff_not, decide_eq_false_iff_not]
    omega
  have hany : (decide (0xD800 ≤ n) && decide (n < 0xE000)) = false := by
    rw [Bool.and_eq_false_iff, decide_eq_false_iff_not, decide_eq_false_iff_not]
    omega
  simp only [escapeUnit, hexUnit, List.map_cons, List.map_nil, List.cons_append, List.nil_append]
  by_cases hnext : ∃ e f g h after, rest = '\\' :: 'u' :: e :: f :: g :: h :: after
  · -- the reader looks at two units at once
    obtain ⟨e, f, g, h, after, rfl⟩ := hnext
    rw [readString?, hunit]
    cases hsecond : hexUnit? e f g h with
    | none =>
      have hnone : readString? ('\\' :: 'u' :: e :: f :: g :: h :: after) = none := by
        by_cases hthird : ∃ i j k l more, after = '\\' :: 'u' :: i :: j :: k :: l :: more
        · obtain ⟨i, j, k, l, more, rfl⟩ := hthird
          rw [readString?, hsecond]
        · rw [readString?, hsecond]
          intro i j k l more heq
          exact hthird ⟨i, j, k, l, more, heq⟩
      rw [hnone]
      rfl
    | some low =>
      simp only [hhigh, hlow, Bool.false_eq_true, if_false]
      rfl
  · rw [readString?, hunit]
    · simp only [hany, Bool.false_eq_true, if_false]
      rfl
    · intro e f g h after heq
      exact hnext ⟨e, f, g, h, after, heq⟩

/-- Two escaped halves stand for the character that they were cut from. -/
theorem readString_pair {n : Nat} (hn : n < 0x100000) (rest : List Char) :
    readString? (escapeUnit (0xD800 + n / 0x400) ++ escapeUnit (0xDC00 + n % 0x400) ++ rest) =
      consRead (Char.ofNat (0x10000 + n)) (readString? rest) := by
  have hhigh := hexUnit_digits (show 0xD800 + n / 0x400 < 0x10000 by omega)
  have hlow := hexUnit_digits (show 0xDC00 + n % 0x400 < 0x10000 by omega)
  have hisHigh : (decide (0xD800 ≤ 0xD800 + n / 0x400) && decide (0xD800 + n / 0x400 < 0xDC00)) = true := by
    rw [Bool.and_eq_true, decide_eq_true_eq, decide_eq_true_eq]
    omega
  have hisLow : (decide (0xDC00 ≤ 0xDC00 + n % 0x400) && decide (0xDC00 + n % 0x400 < 0xE000)) = true := by
    rw [Bool.and_eq_true, decide_eq_true_eq, decide_eq_true_eq]
    omega
  have hjoin : 0x10000 + (0xD800 + n / 0x400 - 0xD800) * 0x400 + (0xDC00 + n % 0x400 - 0xDC00) =
      0x10000 + n := by omega
  simp only [escapeUnit, hexUnit, List.map_cons, List.map_nil, List.cons_append, List.nil_append]
  rw [readString?, hhigh, hlow]
  simp only [hisHigh, hisLow, if_true, hjoin]
  rfl

/-- An escaped character, in either dialect, is read as this character. -/
theorem readString_escapeChar (ascii : Bool) (c : Char) (rest : List Char) :
    readString? (escapeChar ascii c ++ rest) = consRead c (readString? rest) := by
  have hvalid : c.toNat < 0xD800 ∨ 0xDFFF < c.toNat ∧ c.toNat < 0x110000 := c.valid
  rw [escapeChar]
  by_cases hq : c = '"'
  · rw [if_pos hq, hq]
    exact readString_short (by decide) rfl rest
  rw [if_neg hq]
  by_cases hb : c = '\\'
  · rw [if_pos hb, hb]
    exact readString_short (by decide) rfl rest
  rw [if_neg hb]
  by_cases hn : c = '\n'
  · rw [if_pos hn, hn]
    exact readString_short (by decide) rfl rest
  rw [if_neg hn]
  by_cases hr : c = '\r'
  · rw [if_pos hr, hr]
    exact readString_short (by decide) rfl rest
  rw [if_neg hr]
  by_cases ht : c = '\t'
  · rw [if_pos ht, ht]
    exact readString_short (by decide) rfl rest
  rw [if_neg ht]
  by_cases hbs : c = '\x08'
  · rw [if_pos hbs, hbs]
    exact readString_short (by decide) rfl rest
  rw [if_neg hbs]
  by_cases hf : c = '\x0c'
  · rw [if_pos hf, hf]
    exact readString_short (by decide) rfl rest
  rw [if_neg hf]
  by_cases hcontrol : c.toNat < 0x20
  · rw [if_pos hcontrol, readString_unit (by omega) (by omega), Char.ofNat_toNat]
  rw [if_neg hcontrol]
  split
  · by_cases hplane : c.toNat < 0x10000
    · rw [if_pos hplane, readString_unit hplane (by omega), Char.ofNat_toNat]
    · rw [if_neg hplane, readString_pair (by omega), show 0x10000 + (c.toNat - 0x10000) = c.toNat by omega,
        Char.ofNat_toNat]
  · exact readString_plain hq hb (by omega) rest

/-- The characters of a string are read up to its closing quote. -/
theorem readString_quoted (ascii : Bool) (cs rest : List Char) :
    readString? (cs.flatMap (escapeChar ascii) ++ '"' :: rest) = some (cs, rest) := by
  induction cs with
  | nil =>
    rw [List.flatMap_nil, List.nil_append, readString?]
  | cons c cs ih =>
    rw [List.flatMap_cons, List.append_assoc, readString_escapeChar, ih]
    rfl

/-! ## Numbers -/

/-- A text before which a number ends. -/
def Stops (rest : List Char) : Prop :=
  ∀ c ∈ rest.head?, c.isDigit = false ∧ c ≠ '.' ∧ c ≠ 'e' ∧ c ≠ 'E'

theorem stops_nil : Stops [] := fun _ h => nomatch h

theorem stops_cons {c : Char} (h : c.isDigit = false ∧ c ≠ '.' ∧ c ≠ 'e' ∧ c ≠ 'E')
    (rest : List Char) : Stops (c :: rest) := by
  intro d hd
  rw [List.head?_cons, Option.mem_some_iff] at hd
  exact hd ▸ h

theorem Stops.not_digit {rest : List Char} (h : Stops rest) : ∀ c ∈ rest.head?, c.isDigit = false :=
  fun c hc => (h c hc).1

theorem takeWhile_append_stop {p : Char → Bool} {cs rest : List Char} (hcs : ∀ c ∈ cs, p c)
    (hrest : ∀ c ∈ rest.head?, p c = false) :
    (cs ++ rest).takeWhile p = cs ∧ (cs ++ rest).dropWhile p = rest := by
  rw [List.takeWhile_append_of_pos hcs, List.dropWhile_append_of_pos hcs]
  cases rest with
  | nil => simp
  | cons c rest =>
    have hc : ¬p c = true := by simp [hrest c rfl]
    rw [List.takeWhile_cons_of_neg hc, List.dropWhile_cons_of_neg hc, List.append_nil]
    exact ⟨rfl, rfl⟩

theorem spanDigits_append {ds rest : List Char} (hds : ∀ c ∈ ds, c.isDigit)
    (hrest : ∀ c ∈ rest.head?, c.isDigit = false) : Number.spanDigits (ds ++ rest) = (ds, rest) := by
  obtain ⟨htake, hdrop⟩ := takeWhile_append_stop hds hrest
  rw [Number.spanDigits, htake, hdrop]

/-- Digits that are zero alone, or start with another digit, are read as a whole. -/
theorem readWhole_append {ds rest : List Char} (hds : ∀ c ∈ ds, c.isDigit)
    (hstart : ds = ['0'] ∨ ∃ c others, ds = c :: others ∧ c ≠ '0')
    (hrest : ∀ c ∈ rest.head?, c.isDigit = false) : readWhole? (ds ++ rest) = some (ds, rest) := by
  rw [readWhole?, spanDigits_append hds hrest]
  rcases hstart with rfl | ⟨c, others, rfl, hc⟩
  · rfl
  · split
    · rename_i heq
      cases heq
    · rename_i heq
      injection heq with heq _
      injection heq with heq _
      exact absurd heq hc
    · rfl

theorem readPart_absent {marks rest : List Char} (signAllowed : Bool)
    (h : ∀ c ∈ rest.head?, c ∉ marks) : readPart? marks signAllowed rest = some (none, rest) := by
  cases rest with
  | nil => rfl
  | cons c rest =>
    have hc : marks.contains c = false := by simpa using h c rfl
    simp only [readPart?, hc, Bool.false_eq_true, if_false]

theorem readPart_digits {marks ds rest : List Char} {mark : Char} (hmark : mark ∈ marks)
    (hne : ds ≠ []) (hds : ∀ c ∈ ds, c.isDigit) (hrest : ∀ c ∈ rest.head?, c.isDigit = false) :
    readPart? marks false (mark :: (ds ++ rest)) = some (some (false, ds), rest) := by
  have hc : marks.contains mark = true := by simpa using hmark
  obtain ⟨d, others, rfl⟩ := List.exists_cons_of_ne_nil hne
  simp only [readPart?, hc, if_true, Bool.false_eq_true, if_false, spanDigits_append hds hrest]

theorem readPart_signed {marks ds rest : List Char} {mark : Char} (negative : Bool)
    (hmark : mark ∈ marks) (hne : ds ≠ []) (hds : ∀ c ∈ ds, c.isDigit)
    (hrest : ∀ c ∈ rest.head?, c.isDigit = false) :
    readPart? marks true (mark :: (if negative then '-' else '+') :: (ds ++ rest)) =
      some (some (negative, ds), rest) := by
  have hc : marks.contains mark = true := by simpa using hmark
  have hsign : Number.takeSign ((if negative then '-' else '+') :: (ds ++ rest)) =
      (negative, ds ++ rest) := by
    cases negative <;> rfl
  obtain ⟨d, others, rfl⟩ := List.exists_cons_of_ne_nil hne
  simp only [readPart?, hc, if_true, hsign, spanDigits_append hds hrest]

/-- The first character of a number is a digit or a minus sign, and behind a sign stands
a digit. -/
theorem isDigit_head {ds : List Char} (hds : ∀ c ∈ ds, c.isDigit)
    (hstart : ds = ['0'] ∨ ∃ c others, ds = c :: others ∧ c ≠ '0') :
    ∃ c others, ds = c :: others ∧ c.isDigit := by
  rcases hstart with rfl | ⟨c, others, rfl, -⟩
  · exact ⟨'0', [], rfl, rfl⟩
  · exact ⟨c, others, rfl, hds c List.mem_cons_self⟩

/-- The sign of a number is taken off. -/
theorem takeMinus_signed (negative : Bool) {c : Char} (hc : c.isDigit) (others : List Char) :
    takeMinus (Number.signed negative (c :: others)) = (negative, c :: others) := by
  cases negative with
  | true => rfl
  | false =>
    have hne : c ≠ '-' := by
      rintro rfl
      exact absurd hc (by decide)
    simp only [Number.signed, Bool.false_eq_true, if_false]
    rw [takeMinus]
    exact fun rest h => hne (List.cons.inj h).1

theorem signed_append (negative : Bool) (cs rest : List Char) :
    Number.signed negative cs ++ rest = Number.signed negative (cs ++ rest) := by
  cases negative <;> rfl

/-- The fraction of a written decimal is read, or found to be absent. -/
theorem readPart_fractionText {w : Number.Written} (hw : w.IsDecimal) {rest : List Char}
    (hrest : ∀ c ∈ rest.head?, c.isDigit = false ∧ c ≠ '.') :
    readPart? ['.'] false (w.fractionText ++ rest) =
      some (if w.fraction = [] then none else some (false, w.fraction), rest) := by
  simp only [Number.Written.fractionText]
  split
  · exact readPart_absent false fun c hc => by simpa using (hrest c hc).2
  · rename_i hne
    exact readPart_digits (by simp) hne hw.fraction_digits fun c hc => (hrest c hc).1

/-- The exponent of a written decimal is read, or found to be absent. -/
theorem readPart_exponentText {w : Number.Written} (hw : w.IsDecimal) {rest : List Char}
    (hrest : Stops rest) :
    readPart? ['e', 'E'] true (w.exponentText ++ rest) = some (w.exponent, rest) := by
  simp only [Number.Written.exponentText]
  split
  · rename_i hnone
    rw [hnone]
    exact readPart_absent true fun c hc => by simpa using (hrest c hc).2.2
  · rename_i negative ds hsome
    obtain ⟨hne, hds⟩ := hw.exponent_digits _ hsome
    rw [hsome]
    exact readPart_signed negative (by simp) hne hds hrest.not_digit

/-- What stands behind the fraction is no part of it. -/
theorem exponentText_head {w : Number.Written} {rest : List Char} (hrest : Stops rest) :
    ∀ c ∈ (w.exponentText ++ rest).head?, c.isDigit = false ∧ c ≠ '.' := by
  intro c hc
  simp only [Number.Written.exponentText] at hc
  split at hc
  · exact ⟨(hrest c hc).1, (hrest c hc).2.1⟩
  · cases hc
    exact ⟨by decide, by decide⟩

/-- What stands behind the whole digits is no digit. -/
theorem fractionText_head {w : Number.Written} {rest : List Char} (hrest : Stops rest) :
    ∀ c ∈ (w.fractionText ++ (w.exponentText ++ rest)).head?, c.isDigit = false := by
  intro c hc
  simp only [Number.Written.fractionText] at hc
  split at hc
  · exact (exponentText_head hrest c hc).1
  · cases hc
    decide

/-- A written decimal is read as the number that it is rounded to. -/
theorem readNumber_written (negative : Bool) {w : Number.Written} (hw : w.IsDecimal)
    {rest : List Char} (hrest : Stops rest) :
    readNumber? (Number.signed negative w.text ++ rest) =
      some (.float (w.number negative), rest) := by
  obtain ⟨c, others, hwhole, hc⟩ := isDigit_head hw.whole_digits hw.whole_start
  have htext : Number.signed negative w.text ++ rest =
      Number.signed negative (c :: (others ++ (w.fractionText ++ (w.exponentText ++ rest)))) := by
    simp only [Number.Written.text, signed_append, hwhole, List.append_assoc, List.cons_append]
  have hreadWhole := readWhole_append hw.whole_digits hw.whole_start
    (fractionText_head (w := w) hrest)
  have hreadFraction := readPart_fractionText hw (exponentText_head (w := w) hrest)
  have hreadExponent := readPart_exponentText hw hrest
  rw [hwhole, List.cons_append] at hreadWhole
  rw [htext, readNumber?, takeMinus_signed negative hc]
  simp only [hreadWhole, hreadFraction, hreadExponent, Option.bind_eq_bind, Option.bind_some]
  have hplaces : (Option.map Prod.snd (if w.fraction = [] then none else some (false, w.fraction))).getD
      [] = w.fraction := by
    split
    · rename_i hnone
      rw [hnone]
      rfl
    · rfl
  split
  · -- there is a fraction or an exponent, so it is no integer
    rename_i hnone hnone'
    rcases hw.not_integer with hne | hne
    · rw [if_neg hne] at hnone
      cases hnone
    · exact absurd hnone' hne
  · rw [hplaces, ← hwhole]
    rfl

/-- The digits of an integer, behind its sign. -/
theorem toList_toString (n : Int) :
    (toString n).toList = Number.signed (n < 0) (Number.digits n.natAbs) := by
  rw [Int.toString_eq_repr, Int.repr_eq_if]
  split
  · rename_i hpos
    rw [Nat.toList_repr, show n.toNat = n.natAbs by omega, decide_eq_false (by omega)]
    rfl
  · rename_i hneg
    rw [String.toList_append, Nat.toList_repr, show (-n).toNat = n.natAbs by omega,
      decide_eq_true (by omega)]
    rfl

/-- A written integer is read as this integer, if it is not too long, and not at all otherwise. -/
theorem readNumber_integer {n : Int} {rest : List Char} (hrest : Stops rest) :
    readNumber? ((toString n).toList ++ rest) =
      if (Number.digits n.natAbs).length ≤ maxIntegerDigits then some (.integer n, rest) else none := by
  have hdigits : ∀ c ∈ Number.digits n.natAbs, c.isDigit := fun c hc =>
    Number.isDigit_of_mem_digits hc
  have hstart : Number.digits n.natAbs = ['0'] ∨
      ∃ c others, Number.digits n.natAbs = c :: others ∧ c ≠ '0' := by
    rcases Nat.eq_zero_or_pos n.natAbs with hzero | hpos
    · exact Or.inl (by rw [hzero]; rfl)
    · exact Or.inr (Number.digits_head_ne_zero hpos)
  have hvalue : Number.ofDigits (Number.digits n.natAbs) = n.natAbs := Number.ofDigits_digits _
  obtain ⟨c, others, hds, hc⟩ := isDigit_head hdigits hstart
  rw [toList_toString, signed_append]
  rw [hds] at hdigits hstart hvalue ⊢
  have hreadWhole := readWhole_append hdigits hstart hrest.not_digit
  rw [List.cons_append] at hreadWhole ⊢
  rw [readNumber?, takeMinus_signed _ hc]
  have hfraction : readPart? ['.'] false rest = some (none, rest) :=
    readPart_absent false fun d hd => by simpa using (hrest d hd).2.1
  have hexponent : readPart? ['e', 'E'] true rest = some (none, rest) :=
    readPart_absent true fun d hd => by simpa using (hrest d hd).2.2
  simp only [hreadWhole, Option.bind_eq_bind, Option.bind_some, hfraction, hexponent, hvalue,
    decide_eq_true_eq]
  have hsign : (if n < 0 then -(n.natAbs : Int) else n.natAbs) = n := by
    split <;> omega
  rw [hsign]
  by_cases hn : (c :: others).length ≤ maxIntegerDigits
  · rw [if_pos hn, if_neg (Nat.not_lt.mpr hn)]
    rfl
  · rw [if_neg hn, if_pos (Nat.lt_of_not_le hn)]
    rfl

/-! ## Values without brackets -/

/-- A text that opens neither a string nor a bracket starts with a word or a number. -/
theorem readValue_plain {c : Char} (hquote : c ≠ '"') (hlist : c ≠ '[') (hobject : c ≠ '\x7b')
    (fuel room : Nat) (cs : List Char) :
    readValue? (fuel + 1) room (c :: cs) =
      (readWord? (c :: cs)).orElse fun _ => readNumber? (c :: cs) := by
  rw [readValue?]
  · intro rest h
    exact hquote (List.cons.inj h).1
  · intro rest h
    exact hlist (List.cons.inj h).1
  · intro rest h
    exact hobject (List.cons.inj h).1

/-- A text that starts with a digit, or a sign and a digit, is a number. -/
theorem readValue_signed (negative : Bool) {c : Char} (hc : c.isDigit) (fuel room : Nat)
    (cs : List Char) :
    readValue? (fuel + 1) room (Number.signed negative (c :: cs)) =
      readNumber? (Number.signed negative (c :: cs)) := by
  have hne (d : Char) (hd : d.isDigit = false) : c ≠ d := by
    rintro rfl
    rw [hc] at hd
    cases hd
  have hI := hne 'I' rfl
  cases negative with
  | true =>
    have hword : readWord? ('-' :: c :: cs) = none := by
      simp [readWord?, words, Text.afterPrefix?, hI.symm]
    simp only [Number.signed, if_true]
    rw [readValue_plain (by decide) (by decide) (by decide), hword]
    rfl
  | false =>
    have hn := hne 'n' rfl
    have ht := hne 't' rfl
    have hf := hne 'f' rfl
    have hN := hne 'N' rfl
    have hminus := hne '-' rfl
    have hword : readWord? (c :: cs) = none := by
      simp [readWord?, words, Text.afterPrefix?, hn.symm, ht.symm, hf.symm, hN.symm, hI.symm,
        hminus.symm]
    simp only [Number.signed, Bool.false_eq_true, if_false]
    rw [readValue_plain (hne _ rfl) (hne _ rfl) (hne _ rfl), hword]
    rfl

/-- An integer starts with a digit behind its sign. -/
theorem exists_toString (n : Int) :
    ∃ c others, (toString n).toList = Number.signed (n < 0) (c :: others) ∧ c.isDigit := by
  obtain ⟨c, others, hds⟩ := List.exists_cons_of_ne_nil (Nat.toDigits_ne_nil (b := 10) (n := n.natAbs))
  exact ⟨c, others, hds ▸ toList_toString n, Number.isDigit_of_mem_digits
    (n := n.natAbs) (by rw [Number.digits, hds]; exact List.mem_cons_self)⟩

/-- A written integer is a value, if it is not too long. -/
theorem readValue_integer {n : Int} (fuel room : Nat) {rest : List Char} (hrest : Stops rest) :
    readValue? (fuel + 1) room ((toString n).toList ++ rest) =
      if (Number.digits n.natAbs).length ≤ maxIntegerDigits then some (.integer n, rest) else none := by
  obtain ⟨c, others, htext, hc⟩ := exists_toString n
  have hread := readNumber_integer (n := n) hrest
  rw [htext, signed_append, List.cons_append] at hread ⊢
  rw [readValue_signed _ hc, hread]

/-- A style writes a number so that every reader finds this number again. -/
def Style.Keeps (style : Style) (x : Float) : Prop :=
  ∀ (fuel room : Nat) (rest : List Char), Stops rest →
    readValue? (fuel + 1) room ((style.float x).toList ++ rest) = some (.float x, rest)

/-- The shortest form of a finite number is read as this number. -/
theorem readValue_shortest (style : Number.ShortestStyle) {x : Float} {negative : Bool}
    {v : Number.Binary} (h : Number.classify x = .finite negative v) (fuel room : Nat)
    {rest : List Char} (hrest : Stops rest) :
    readValue? (fuel + 1) room ((Number.formatShortest style x).toList ++ rest) =
      some (.float x, rest) := by
  obtain ⟨w, hw, htext, hx⟩ := Number.exists_written_shortest style h
  obtain ⟨c, others, hwhole, hc⟩ := isDigit_head hw.whole_digits hw.whole_start
  have hread := readNumber_written negative hw hrest
  have hshape : w.text = c :: (others ++ w.fractionText ++ w.exponentText) := by
    rw [Number.Written.text, hwhole]
    rfl
  rw [htext, String.toList_ofList]
  rw [hx] at hread
  rw [hshape, signed_append, List.cons_append] at hread ⊢
  rw [readValue_signed negative hc]
  exact hread

/-- Records keep every number, also the three that are not finite. -/
theorem recordFileStyle_keeps (x : Float) : recordFileStyle.Keeps x := by
  intro fuel room rest hrest
  change readValue? (fuel + 1) room ((Number.formatShortest Number.recordStyle x).toList ++ rest) = _
  cases hx : Number.classify x with
  | finite negative v => exact readValue_shortest Number.recordStyle hx fuel room hrest
  | infinite negative =>
    have htext : Number.formatShortest Number.recordStyle x =
        String.ofList (Number.signed negative "Infinity".toList) := by
      simp only [Number.formatShortest, hx]
      rfl
    rw [htext, Number.eq_of_classify_infinite hx, String.toList_ofList]
    cases negative <;> rfl
  | nan =>
    have htext : Number.formatShortest Number.recordStyle x = "NaN" := by
      simp only [Number.formatShortest, hx]
      rfl
    rw [htext, Number.eq_of_classify_nan hx]
    rfl

end Stopwatch.Json
