/-
  A quoted text is a literal for the text.

  Every character between the quotes is itself or an escape, and each escape is read as the
  code of the character that it was written for.  Neither the quote in use nor a line break
  stands between the quotes, so the literal ends where it should.
-/
import Mathlib.Data.Nat.Digits.Lemmas
import Stopwatch.Syntax.StringValue
import Stopwatch.Text.Quoted

namespace Stopwatch

open Syntax

namespace Text

/-! ## Hexadecimal digits -/

theorem hexValue_digitChar : ∀ d < 16, hexValue? d.digitChar = some d := by decide

/-- Characters that are read as the digits of a number, whatever follows. -/
def ReadsAsHex (ds : List Char) (n : Nat) : Prop :=
  ∀ more rest, hexRun (ds.length + more) (ds ++ rest) =
    (ds.length + (hexRun more rest).1, n * 16 ^ (hexRun more rest).1 + (hexRun more rest).2.1,
      (hexRun more rest).2.2)

theorem readsAsHex_digitChar {d : Nat} (hd : d < 16) : ReadsAsHex [d.digitChar] d := by
  intro more rest
  rw [List.length_singleton, Nat.add_comm 1 more, List.singleton_append, hexRun,
    hexValue_digitChar d hd]
  simp only [Nat.add_comm 1]

theorem ReadsAsHex.append {a b : List Char} {m n : Nat} (ha : ReadsAsHex a m) (hb : ReadsAsHex b n) :
    ReadsAsHex (a ++ b) (m * 16 ^ b.length + n) := by
  intro more rest
  rw [List.length_append, Nat.add_assoc, List.append_assoc, ha, hb]
  simp only [Nat.pow_add, Nat.add_mul, Nat.mul_assoc, Nat.add_assoc]

/-- A wider number has one digit more at the end. -/
theorem hexDigits_succ {width : Nat} (hwidth : 0 < width) (n : Nat) :
    hexDigits (width + 1) n = hexDigits width (n / 16) ++ [(n % 16).digitChar] := by
  rw [hexDigits, hexDigits, Nat.toDigits_eq_if (by decide)]
  split
  · rename_i hn
    obtain ⟨w, rfl⟩ : ∃ w, width = w + 1 := ⟨width - 1, by omega⟩
    have hdiv : n / 16 = 0 := Nat.div_eq_of_lt hn
    have hmod : n % 16 = n := Nat.mod_eq_of_lt hn
    simp only [hdiv, hmod, List.length_singleton, Nat.add_sub_cancel]
    rw [List.replicate_succ']
    rfl
  · simp only [List.length_append, List.length_singleton, Nat.add_sub_add_right, List.append_assoc]

theorem hexDigits_one {n : Nat} (hn : n < 16) : hexDigits 1 n = [n.digitChar] := by
  rw [hexDigits, Nat.toDigits_eq_if (by decide), if_pos hn]
  rfl

/-- A number that is written with enough digits is read back. -/
theorem readsAsHex_hexDigits {width n : Nat} (hwidth : 0 < width) (hn : n < 16 ^ width) :
    (hexDigits width n).length = width ∧ ReadsAsHex (hexDigits width n) n := by
  induction width, hwidth using Nat.le_induction generalizing n with
  | base =>
    rw [hexDigits_one hn]
    exact ⟨rfl, readsAsHex_digitChar hn⟩
  | succ width hwidth ih =>
    have hdiv : n / 16 < 16 ^ width := by
      rw [Nat.div_lt_iff_lt_mul (by decide), ← Nat.pow_succ]
      exact hn
    obtain ⟨hlength, hreads⟩ := ih hdiv
    rw [hexDigits_succ hwidth]
    refine ⟨by rw [List.length_append, hlength, List.length_singleton], ?_⟩
    have hboth := hreads.append (readsAsHex_digitChar (Nat.mod_lt n (by decide)))
    rwa [List.length_singleton, Nat.pow_one, Nat.div_add_mod'] at hboth

/-- An escape with digits for the code of a character is read as that code. -/
theorem fixedEscape_hexDigits (width : Nat) {c : Char} (hwidth : 0 < width) (hc : c.toNat < 16 ^ width)
    (short : EscapeFault) (place : Nat) (rest : List Char) :
    fixedEscape width short place (hexDigits width c.toNat ++ rest) = .ok (c.toNat, width + 2, rest) := by
  obtain ⟨hlength, hreads⟩ := readsAsHex_hexDigits hwidth hc
  have hrun : hexRun width (hexDigits width c.toNat ++ rest) = (width, c.toNat, rest) := by
    have hread := hreads 0 rest
    rw [hlength] at hread
    simpa [hexRun] using hread
  have hbound : ¬ c.toNat > 0x10FFFF := by
    have hvalid := c.valid
    have : c.toNat = c.val.toNat := rfl
    simp only [UInt32.isValidChar, Nat.isValidChar] at hvalid
    omega
  simp only [fixedEscape, hrun, if_neg hbound, Nat.lt_irrefl, if_false]

/-! ## Escapes -/

/-- The quotes that texts are written with. -/
def IsQuoteMark (quote : Char) : Prop :=
  quote = '\'' ∨ quote = '"'

theorem isQuoteMark_quoteFor (cs : List Char) : IsQuoteMark (quoteFor cs) := by
  rw [quoteFor]
  split
  · exact Or.inr rfl
  · exact Or.inl rfl

/-- A character in quotes is read as its code, and reading goes on behind it. -/
theorem textCodes_escapeQuoted {quote : Char} (hquote : IsQuoteMark quote) (c : Char)
    (fuel place : Nat) (rest : List Char) :
    ∃ place', textCodes (fuel + 1) place (escapeQuoted quote c ++ rest) =
      (textCodes fuel place' rest).map (c.toNat :: ·) := by
  have hbind (found : Nat × Nat × List Char) :
      (do return found.1 :: (← textCodes fuel (place + found.2.1) found.2.2) :
        Except StringFault (List Nat)) =
      (textCodes fuel (place + found.2.1) found.2.2).map (found.1 :: ·) := by
    cases textCodes fuel (place + found.2.1) found.2.2 <;> rfl
  unfold escapeQuoted
  split
  · rename_i hc
    -- A quote or a backslash stands behind a backslash.
    have hcases : c = '\'' ∨ c = '"' ∨ c = '\\' := by
      rw [Bool.or_eq_true, decide_eq_true_iff, decide_eq_true_iff] at hc
      rcases hc with rfl | rfl
      · rcases hquote with rfl | rfl
        · exact Or.inl rfl
        · exact Or.inr (Or.inl rfl)
      · exact Or.inr (Or.inr rfl)
    refine ⟨place + 2, ?_⟩
    rcases hcases with rfl | rfl | rfl
    · exact hbind (0x27, 2, rest)
    · exact hbind (0x22, 2, rest)
    · exact hbind (0x5C, 2, rest)
  split
  · rename_i hc
    subst hc
    exact ⟨place + 2, hbind (0x0A, 2, rest)⟩
  split
  · rename_i hc
    subst hc
    exact ⟨place + 2, hbind (0x0D, 2, rest)⟩
  split
  · rename_i hc
    subst hc
    exact ⟨place + 2, hbind (0x09, 2, rest)⟩
  split
  · rename_i hbackslash _ _ _ _
    have hc : c ≠ '\\' := by
      rintro rfl
      simp at hbackslash
    refine ⟨place + placeWidth c, ?_⟩
    rw [List.singleton_append, textCodes]
    · cases textCodes fuel (place + placeWidth c) rest <;> rfl
    · intro _ _ h
      exact absurd h hc
  split
  · rename_i hc
    refine ⟨place + 4, ?_⟩
    have hread := fixedEscape_hexDigits 2 (by decide) hc .shortHex place rest
    show (fixedEscape 2 .shortHex place (hexDigits 2 c.toNat ++ rest)).bind _ = _
    rw [hread]
    exact hbind (c.toNat, 4, rest)
  split
  · rename_i hc
    refine ⟨place + 6, ?_⟩
    have hread := fixedEscape_hexDigits 4 (by decide) hc .shortUnicode place rest
    show (fixedEscape 4 .shortUnicode place (hexDigits 4 c.toNat ++ rest)).bind _ = _
    rw [hread]
    exact hbind (c.toNat, 6, rest)
  · refine ⟨place + 10, ?_⟩
    have hc : c.toNat < 16 ^ 8 := by
      have := c.val.toNat_lt
      exact this
    have hread := fixedEscape_hexDigits 8 (by decide) hc .shortLongUnicode place rest
    show (fixedEscape 8 .shortLongUnicode place (hexDigits 8 c.toNat ++ rest)).bind _ = _
    rw [hread]
    exact hbind (c.toNat, 10, rest)

/-- What stands between the quotes of a quoted text is read as the codes of the text. -/
theorem textCodes_flatMap_escapeQuoted {quote : Char} (hquote : IsQuoteMark quote) (cs : List Char)
    {fuel : Nat} (hfuel : cs.length ≤ fuel) (place : Nat) :
    textCodes fuel place (cs.flatMap (escapeQuoted quote)) = .ok (cs.map Char.toNat) := by
  induction cs generalizing fuel place with
  | nil => cases fuel <;> rfl
  | cons c cs ih =>
    rw [List.length_cons] at hfuel
    obtain ⟨fuel, rfl⟩ : ∃ f, fuel = f + 1 := ⟨fuel - 1, by omega⟩
    rw [List.flatMap_cons]
    obtain ⟨place', hread⟩ := textCodes_escapeQuoted hquote c fuel place (cs.flatMap (escapeQuoted quote))
    rw [hread, ih (by omega)]
    rfl

/-! ## Literals -/

theorem return_not_mem_hexDigits (width n : Nat) : '\r' ∉ hexDigits width n := by
  have hchar : ∀ d < 16, '\r' ≠ d.digitChar := by decide
  have hdigits (n : Nat) : '\r' ∉ Nat.toDigits 16 n := by
    induction n using Nat.strongRecOn with
    | _ n ih =>
      rw [Nat.toDigits_eq_if (by decide)]
      split
      · rename_i hn
        rw [List.mem_singleton]
        exact hchar n hn
      · rw [List.mem_append, not_or, List.mem_singleton]
        exact ⟨ih (n / 16) (by omega), hchar (n % 16) (by omega)⟩
  rw [hexDigits, List.mem_append, not_or]
  exact ⟨fun h => absurd (List.eq_of_mem_replicate h) (by decide), hdigits n⟩

/-- An escape does not start with the quote in use, and there is no carriage return in it. -/
theorem escapeQuoted_sound {quote : Char} (hquote : IsQuoteMark quote) (c : Char) :
    (∃ first others, escapeQuoted quote c = first :: others ∧ first ≠ quote) ∧
      '\r' ∉ escapeQuoted quote c := by
  have hbackslash : '\\' ≠ quote := by
    rcases hquote with rfl | rfl <;> decide
  have hquoteReturn : '\r' ≠ quote := by
    rcases hquote with rfl | rfl <;> decide
  unfold escapeQuoted
  split
  · rename_i hc
    refine ⟨⟨'\\', [c], rfl, hbackslash⟩, ?_⟩
    rw [Bool.or_eq_true, decide_eq_true_iff, decide_eq_true_iff] at hc
    rcases hc with rfl | rfl
    · simpa using hquoteReturn
    · decide
  split
  · exact ⟨⟨'\\', ['n'], rfl, hbackslash⟩, by decide⟩
  split
  · exact ⟨⟨'\\', ['r'], rfl, hbackslash⟩, by decide⟩
  split
  · exact ⟨⟨'\\', ['t'], rfl, hbackslash⟩, by decide⟩
  split
  · rename_i hplain _ hreturn _ _
    refine ⟨⟨c, [], rfl, ?_⟩, ?_⟩
    · rintro rfl
      simp at hplain
    · simpa using fun h => hreturn h.symm
  split
  · exact ⟨⟨'\\', _, rfl, hbackslash⟩, by simp [return_not_mem_hexDigits]⟩
  split
  · exact ⟨⟨'\\', _, rfl, hbackslash⟩, by simp [return_not_mem_hexDigits]⟩
  · exact ⟨⟨'\\', _, rfl, hbackslash⟩, by simp [return_not_mem_hexDigits]⟩

theorem normalizeNewlines_of_not_mem {cs : List Char} (h : '\r' ∉ cs) : normalizeNewlines cs = cs := by
  induction cs with
  | nil => rfl
  | cons c cs ih =>
    rw [List.mem_cons, not_or] at h
    rw [normalizeNewlines, ih h.2, if_neg fun hc => h.1 hc.symm]
    intro _ hc
    exact absurd hc.symm h.1

/-- A literal that is one quote, characters of which the first is none, and the quote again. -/
theorem literalParts_of_quoted {quote : Char} (hquote : IsQuoteMark quote) {body : List Char}
    (hfirst : ∀ first others, body = first :: others → first ≠ quote) :
    literalParts? (quote :: body ++ [quote]) = some ([], body) := by
  have hopen : quote? (quote :: body ++ [quote]) = some (⟨quote, false⟩, body ++ [quote]) := by
    cases body with
    | nil => rcases hquote with rfl | rfl <;> rfl
    | cons first others =>
      have hne := hfirst first others rfl
      rcases hquote with rfl | rfl
      · rw [List.cons_append, List.cons_append, quote?]
        · intro _ h
          exact absurd (List.cons.inj h).1 hne
      · rw [List.cons_append, List.cons_append, quote?]
        · intro _ h
          exact absurd (List.cons.inj h).1 hne
  have hspan : (quote :: body ++ [quote]).span (fun c => c ≠ '"' && c ≠ '\'') =
      ([], quote :: body ++ [quote]) := by
    rw [List.span_eq_takeWhile_dropWhile]
    rcases hquote with rfl | rfl <;> rfl
  rw [literalParts?, hspan]
  simp only [hopen, Option.map_some, List.map_nil]
  simp [Quote.chars]

/-- A quoted text is a literal whose value is the text. -/
theorem stringValue_quoted (text : String) :
    stringValue (quoted text) = .ok (.text (text.toList.map Char.toNat)) := by
  let quote := quoteFor text.toList
  let body := text.toList.flatMap (escapeQuoted quote)
  have hquote : IsQuoteMark quote := isQuoteMark_quoteFor _
  have hsound := escapeQuoted_sound hquote
  have hreturn : '\r' ∉ quote :: body ++ [quote] := by
    have hmark : '\r' ≠ quote := by
      rcases hquote with h | h <;> rw [h] <;> decide
    have hbody : '\r' ∉ body := by
      rw [List.mem_flatMap]
      rintro ⟨c, -, hc⟩
      exact (hsound c).2 hc
    simp [hmark, hbody]
  have hfirst : ∀ first others, body = first :: others → first ≠ quote := by
    intro first others hcons
    cases htext : text.toList with
    | nil => simp [body, htext] at hcons
    | cons c cs =>
      obtain ⟨⟨first', others', hescape, hne⟩, -⟩ := hsound c
      simp only [body, htext, List.flatMap_cons, hescape, List.cons_append] at hcons
      rw [← (List.cons.inj hcons).1]
      exact hne
  have hlength : text.toList.length ≤ body.length := by
    have hone (cs : List Char) : cs.length ≤ (cs.flatMap (escapeQuoted quote)).length := by
      induction cs with
      | nil => exact Nat.le_refl 0
      | cons c cs ih =>
        obtain ⟨⟨first, others, hescape, -⟩, -⟩ := hsound c
        rw [List.flatMap_cons, hescape, List.length_append, List.length_cons, List.length_cons]
        omega
    exact hone _
  have hchars : (quoted text).toList = quote :: body ++ [quote] := String.toList_ofList
  rw [stringValue, hchars, normalizeNewlines_of_not_mem hreturn, literalParts_of_quoted hquote hfirst]
  show (textCodes body.length 0 body).map StringValue.text = _
  rw [textCodes_flatMap_escapeQuoted hquote _ hlength]
  rfl

end Text

end Stopwatch
