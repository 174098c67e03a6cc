/-
  The scanner moves forward.

  Whatever the scanner has read, it goes on with the end of the text that it was given.  A
  row starts where the text starts or behind a line break, so what a row starts with is what
  a line of the text starts with.
-/
import Mathlib.Data.List.TakeDrop
import Stopwatch.Proofs.Text.Search
import Stopwatch.Syntax.Scan

namespace Stopwatch.Syntax

attribute [local grind =] Option.map_eq_some_iff Option.bind_eq_some_iff Text.afterPrefix_eq_some
attribute [local grind =] List.suffix_cons_iff

/-! ## Space -/

section

variable {usual : LineBreak}

theorem blanks_eq_append {cs blank rest : List Char} (h : blanks? cs = some (blank, rest)) :
    cs = blank ++ rest := by
  fun_induction blanks? cs generalizing blank rest <;> grind

/-- What follows the blanks at the start of a text does not start with blanks. -/
theorem blanks_of_blanks {cs blank rest : List Char} (h : blanks? cs = some (blank, rest)) :
    blanks? rest = some ([], rest) := by
  fun_induction blanks? cs generalizing blank rest <;> grind [blanks?]

theorem comment_suffix (cs : List Char) : (comment cs).2 <:+ cs := by
  fun_cases comment cs with
  | case1 rest body after hspan =>
    rw [List.span_eq_takeWhile_dropWhile] at hspan
    cases hspan
    exact (List.dropWhile_suffix _).trans (List.suffix_cons _ _)
  | case2 => exact List.suffix_rfl

/-- The end of a text, or a place behind a line break. -/
def EndsLine (cs here : List Char) : Prop :=
  here = [] ∨ ∃ before c, isBreak c = true ∧ cs = before ++ c :: here

/-- A place where a line of a text starts, or its end. -/
def StartsLine (cs here : List Char) : Prop :=
  here = cs ∨ EndsLine cs here

theorem EndsLine.of_suffix {cs cs' here : List Char} (h : EndsLine cs' here) (hsuffix : cs' <:+ cs) :
    EndsLine cs here := by
  rcases h with rfl | ⟨before, c, hc, rfl⟩
  · exact Or.inl rfl
  · obtain ⟨front, rfl⟩ := hsuffix
    exact Or.inr ⟨front ++ before, c, hc, (List.append_assoc ..).symm⟩

theorem EndsLine.suffix {cs here : List Char} (h : EndsLine cs here) : here <:+ cs := by
  rcases h with rfl | ⟨before, c, -, rfl⟩
  · exact List.nil_suffix
  · exact ⟨before ++ [c], by simp⟩

theorem StartsLine.suffix {cs here : List Char} (h : StartsLine cs here) : here <:+ cs := by
  rcases h with rfl | h
  · exact List.suffix_rfl
  · exact h.suffix

theorem StartsLine.trans {cs cs' here : List Char} (h : StartsLine cs cs') (h' : EndsLine cs' here) :
    StartsLine cs here :=
  Or.inr (h'.of_suffix h.suffix)

theorem lineBreak_endsLine {cs after : List Char} {found : LineBreak}
    (h : lineBreak? cs = some (found, after)) : EndsLine cs after := by
  unfold lineBreak? at h
  split at h
  · cases h; exact Or.inr ⟨['\r'], '\n', rfl, rfl⟩
  · cases h; exact Or.inr ⟨[], '\r', rfl, rfl⟩
  · cases h; exact Or.inr ⟨[], '\n', rfl, rfl⟩
  · cases h

/-- The end of a line is the end of the text or a line break. -/
theorem lineEnd_endsLine {lastAllowed : Bool} {cs rest : List Char} {ending : LineEnd}
    (h : lineEnd? usual lastAllowed cs = some (ending, rest)) : EndsLine cs rest := by
  unfold lineEnd? at h
  obtain ⟨⟨blank, afterBlank⟩, hblank, h⟩ := Option.bind_eq_some_iff.mp h
  have hsuffix : (comment afterBlank).2 <:+ cs := by
    rw [blanks_eq_append hblank]
    exact (comment_suffix afterBlank).trans (List.suffix_append blank afterBlank)
  dsimp only at h
  split at h
  · rename_i found after hbreak
    cases h
    exact (lineBreak_endsLine hbreak).of_suffix hsuffix
  · split at h
    · cases h
      exact Or.inl rfl
    · cases h

theorem lineEnd_suffix {lastAllowed : Bool} {cs rest : List Char} {ending : LineEnd}
    (h : lineEnd? usual lastAllowed cs = some (ending, rest)) : rest <:+ cs :=
  (lineEnd_endsLine h).suffix

theorem blankLines_suffix (fuel : Nat) (cs : List Char) : (blankLines usual fuel cs).2 <:+ cs := by
  induction fuel generalizing cs with
  | zero => exact List.suffix_rfl
  | succ fuel ih =>
    rw [blankLines]
    split
    · exact List.suffix_rfl
    · rename_i line rest hline
      exact (ih rest).trans (lineEnd_suffix hline)

theorem gap_suffix {bracketed : Bool} {cs rest : List Char} {gap : Gap}
    (h : gap? usual bracketed cs = some (gap, rest)) : rest <:+ cs := by
  have hblanks {cs blank rest : List Char} (h : blanks? cs = some (blank, rest)) : rest <:+ cs := by
    rw [blanks_eq_append h]
    exact List.suffix_append blank rest
  unfold gap? at h
  split at h
  · split at h
    · rename_i first after hline
      obtain ⟨⟨blank, afterBlank⟩, hblank, h⟩ := Option.bind_eq_some_iff.mp h
      cases h
      exact ((hblanks hblank).trans (blankLines_suffix _ _)).trans (lineEnd_suffix hline)
    · obtain ⟨⟨blank, afterBlank⟩, hblank, h⟩ := Option.bind_eq_some_iff.mp h
      cases h
      exact hblanks hblank
  · obtain ⟨⟨blank, afterBlank⟩, hblank, h⟩ := Option.bind_eq_some_iff.mp h
    cases h
    exact hblanks hblank

/-- Outside of brackets, the space in front of a token consists of blanks. -/
theorem blanks_of_gap {cs rest : List Char} {gap : Gap} (h : gap? usual false cs = some (gap, rest)) :
    ∃ blank, blanks? cs = some (blank, rest) := by
  unfold gap? at h
  obtain ⟨⟨blank, after⟩, hblank, h⟩ := Option.bind_eq_some_iff.mp h
  cases h
  exact ⟨blank, hblank⟩

end

/-! ## Tokens -/

theorem quote_suffix {cs rest : List Char} {q : Quote} (h : quote? cs = some (q, rest)) : rest <:+ cs := by
  unfold quote? at h
  split at h <;> grind

theorem stringBody_suffix {q : Quote} {cs body rest : List Char}
    (h : stringBody? q cs = some (body, rest)) : rest <:+ cs := by
  fun_induction stringBody? q cs generalizing body rest <;> grind

theorem formatText_suffix {place : FormatPlace} {named : Bool} {cs text rest : List Char}
    (h : formatText? place named cs = some (text, rest)) : rest <:+ cs := by
  fun_induction formatText? place named cs generalizing text rest <;> grind

theorem digitsFrom_suffix {isDigit : Char → Bool} {inside : Bool} {cs text rest : List Char}
    (h : digitsFrom? isDigit inside cs = some (text, rest)) : rest <:+ cs := by
  fun_induction digitsFrom? isDigit inside cs generalizing text rest <;> grind

theorem basedDigits_suffix {isDigit : Char → Bool} {base : Char} {cs text rest : List Char}
    (h : basedDigits? isDigit base cs = some (text, rest)) : rest <:+ cs := by
  unfold basedDigits? digitRun? at h
  split at h <;> grind [digitsFrom_suffix]

theorem numeralFraction_suffix {cs text rest : List Char} (h : numeralFraction? cs = some (text, rest)) :
    rest <:+ cs := by
  unfold numeralFraction? digitRun? at h
  split at h <;> grind [digitsFrom_suffix]

theorem numeralExponent_suffix {cs text rest : List Char} (h : numeralExponent? cs = some (text, rest)) :
    rest <:+ cs := by
  unfold numeralExponent? digitRun? at h
  split at h
  · split at h
    · split at h <;> grind [digitsFrom_suffix]
    · grind
  · grind

theorem numeralImaginary_suffix (cs : List Char) : (numeralImaginary cs).2 <:+ cs := by
  unfold numeralImaginary
  split <;> simp

theorem numeralTail_suffix {whole cs text rest : List Char}
    (h : numeralTail? whole cs = some (text, rest)) : rest <:+ cs := by
  unfold numeralTail? at h
  obtain ⟨⟨fraction, afterFraction⟩, hfraction, h⟩ := Option.bind_eq_some_iff.mp h
  obtain ⟨⟨exponent, afterExponent⟩, hexponent, h⟩ := Option.bind_eq_some_iff.mp h
  dsimp only at h
  split at h
  · cases h
  · cases h
    exact ((numeralImaginary_suffix _).trans (numeralExponent_suffix hexponent)).trans
      (numeralFraction_suffix hfraction)

theorem numeral_suffix {cs text rest : List Char} (h : numeral? cs = some (text, rest)) : rest <:+ cs := by
  have hbased {isDigit : Char → Bool} {base : Char} {cs : List Char}
      (h : basedDigits? isDigit base cs = some (text, rest)) : rest <:+ '0' :: base :: cs :=
    (basedDigits_suffix h).trans (List.suffix_append ['0', base] cs)
  have hchecked {isDigit : Char → Bool} {base : Char} {cs : List Char}
      (h : (basedDigits? isDigit base cs).bind noDigitAfter = some (text, rest)) :
      rest <:+ '0' :: base :: cs := by
    obtain ⟨⟨digits, after⟩, hdigits, h⟩ := Option.bind_eq_some_iff.mp h
    unfold noDigitAfter at h
    split at h
    · cases h
    · cases h
      exact (basedDigits_suffix hdigits).trans (List.suffix_append ['0', base] cs)
  unfold numeral? at h
  split at h
  · exact hbased h
  · exact hbased h
  · exact hchecked h
  · exact hchecked h
  · exact hchecked h
  · exact hchecked h
  · exact numeralTail_suffix h
  · obtain ⟨⟨whole, after⟩, hwhole, h⟩ := Option.bind_eq_some_iff.mp h
    exact (numeralTail_suffix h).trans (digitsFrom_suffix hwhole)

theorem operator_eq_append {cs text rest : List Char} (h : operator? cs = some (text, rest)) :
    cs = text ++ rest := by
  obtain ⟨op, -, hop⟩ := List.exists_of_findSome?_eq_some h
  obtain ⟨after, hafter, hpair⟩ := Option.map_eq_some_iff.mp hop
  cases hpair
  exact Text.afterPrefix_eq_some.mp hafter

/-- What an operator was read from is the operator and the rest. -/
theorem scanOperator_eq_append {s : ScanState} {cs : List Char} {found : Scanned}
    (h : scanOperator? s cs = some found) : cs = found.text ++ found.rest ∧ found.kind = .operator := by
  unfold scanOperator? at h
  split at h
  · cases h; exact ⟨rfl, rfl⟩
  · cases h; exact ⟨rfl, rfl⟩
  · cases h; exact ⟨rfl, rfl⟩
  · split at h
    · obtain ⟨state, -, hfound⟩ := Option.map_eq_some_iff.mp h
      cases hfound
      exact ⟨rfl, rfl⟩
    split at h
    · rename_i hcolon
      cases h
      rw [Bool.and_eq_true, decide_eq_true_iff] at hcolon
      rw [hcolon.1]
      exact ⟨rfl, rfl⟩
    · obtain ⟨⟨op, after⟩, hop, hfound⟩ := Option.map_eq_some_iff.mp h
      cases hfound
      exact ⟨operator_eq_append hop, rfl⟩
  · cases h

/-- A word is read as far as its characters go. -/
theorem scanWord_of {s : ScanState} {cs : List Char} {found : Scanned} (h : scanWord? s cs = some found) :
    found.rest <:+ cs ∧ found.kind ≠ .operator ∧ (found.kind = .name → found.text = cs.takeWhile continuesName) := by
  have hrest : cs.dropWhile continuesName <:+ cs := List.dropWhile_suffix _
  simp only [scanWord?, List.span_eq_takeWhile_dropWhile] at h
  split at h
  · rename_i quote after hquote
    have hafter : after <:+ cs := (quote_suffix hquote).trans hrest
    split at h
    · split at h
      · cases h
        exact ⟨hrest, by simp, fun _ => rfl⟩
      · cases h
    split at h
    · cases h
      exact ⟨hafter, by simp, by simp⟩
    · obtain ⟨⟨body, more⟩, hbody, hfound⟩ := Option.map_eq_some_iff.mp h
      cases hfound
      exact ⟨(stringBody_suffix hbody).trans hafter, by simp, by simp⟩
  · split at h
    · cases h
      exact ⟨hrest, by simp, fun _ => rfl⟩
    · cases h

theorem scanToken_suffix {s : ScanState} {cs : List Char} {found : Scanned} (h : scanToken? s cs = some found) :
    found.rest <:+ cs := by
  unfold scanToken? at h
  split at h
  · cases h
  split at h
  · exact (scanWord_of h).1
  split at h
  · obtain ⟨⟨text, after⟩, hnumeral, hfound⟩ := Option.map_eq_some_iff.mp h
    cases hfound
    exact numeral_suffix hnumeral
  split at h
  · rename_i quote after hquote
    obtain ⟨⟨body, more⟩, hbody, hfound⟩ := Option.map_eq_some_iff.mp h
    cases hfound
    exact (stringBody_suffix hbody).trans (quote_suffix hquote)
  · exact ⟨found.text, (scanOperator_eq_append h).1.symm⟩

/-- A keyword is read only where the text goes on with just this word. -/
theorem takeWhile_of_scanToken {s : ScanState} {cs : List Char} {found : Scanned}
    (h : scanToken? s cs = some found) (hkind : found.kind = .name ∨ found.kind = .operator)
    {first : Char} {others : List Char} (hfirst : startsName first = true)
    (htext : found.text = first :: others) : cs.takeWhile continuesName = first :: others := by
  unfold scanToken? at h
  split at h
  · cases h
  rename_i c rest
  split at h
  · obtain ⟨-, hoperator, hname⟩ := scanWord_of h
    have hisName : found.kind = .name := hkind.resolve_right hoperator
    rw [← hname hisName, htext]
  -- Everything else does not start like a name.
  rename_i hstart
  split at h
  · obtain ⟨⟨text, after⟩, -, hfound⟩ := Option.map_eq_some_iff.mp h
    cases hfound
    simp at hkind
  split at h
  · obtain ⟨⟨body, more⟩, -, hfound⟩ := Option.map_eq_some_iff.mp h
    cases hfound
    simp at hkind
  · have hcs := (scanOperator_eq_append h).1
    rw [htext] at hcs
    rw [(List.cons.inj hcs).1] at hstart
    exact absurd hfirst hstart

theorem scanFormat_suffix {s : ScanState} {cs : List Char} {found : Scanned}
    (h : scanFormat? s cs = some (some found)) : found.rest <:+ cs := by
  unfold scanFormat? at h
  split at h
  · cases h
  split at h
  · cases h
  split at h
  · cases h
  · rename_i c text rest htext
    cases h
    exact formatText_suffix htext
  · rename_i rest htext
    split at h
    · rename_i after hafter
      cases h
      have hrest : after <:+ rest := ⟨_, (Text.afterPrefix_eq_some.mp hafter).symm⟩
      exact hrest.trans (formatText_suffix htext)
    · cases h

/-! ## Lines -/

section

variable {usual : LineBreak}

theorem before_eq_some {gap : Gap} {found : Scanned} {line : Option (List Token × LineEnd × List Char)}
    {tokens : List Token} {ending : LineEnd} {rest : List Char}
    (h : found.before gap line = some (tokens, ending, rest)) :
    ∃ others, line = some (others, ending, rest) ∧
      tokens = ⟨found.kind, ⟨gap, String.ofList found.text⟩⟩ :: others := by
  rw [Scanned.before] at h
  obtain ⟨⟨others, ending', rest'⟩, hothers, hfound⟩ := Option.map_eq_some_iff.mp h
  cases hfound
  exact ⟨others, hothers, rfl⟩

/-- A logical line ends where the text ends or behind a line break. -/
theorem scanLine_endsLine {fuel : Nat} {s : ScanState} {cs : List Char} {tokens : List Token}
    {ending : LineEnd} {rest : List Char} (h : scanLine? usual fuel s cs = some (tokens, ending, rest)) :
    EndsLine cs rest := by
  induction fuel generalizing s cs tokens with
  | zero => rw [scanLine?] at h; cases h
  | succ fuel ih =>
    rw [scanLine?] at h
    split at h
    · cases h
    · rename_i found hfound
      obtain ⟨others, hothers, -⟩ := before_eq_some h
      exact (ih hothers).of_suffix (scanFormat_suffix hfound)
    · dsimp only at h
      split at h
      · rename_i ending' rest' hend
        cases h
        split at hend
        · cases hend
        · exact lineEnd_endsLine hend
      · split at h
        · cases h
        · rename_i gap afterGap hgap
          split at h
          · cases h
          · rename_i found hfound
            obtain ⟨others, hothers, -⟩ := before_eq_some h
            exact (ih hothers).of_suffix ((scanToken_suffix hfound).trans (gap_suffix hgap))

/-- The first token of a logical line is read behind its indentation. -/
theorem scanToken_of_scanLine {fuel : Nat} {cs indentation here : List Char} {t : Token} {others : List Token}
    {ending : LineEnd} {rest : List Char} (hblanks : blanks? cs = some (indentation, here))
    (h : scanLine? usual fuel ⟨[], []⟩ here = some (t :: others, ending, rest)) :
    ∃ found, scanToken? ⟨[], []⟩ here = some found ∧ t.kind = found.kind ∧ t.text = String.ofList found.text := by
  cases fuel with
  | zero => rw [scanLine?] at h; cases h
  | succ fuel =>
    rw [scanLine?] at h
    simp only [scanFormat?, List.isEmpty_nil, Bool.not_true, Bool.false_eq_true, if_false] at h
    split at h
    · cases h
    · split at h
      · cases h
      · rename_i gap afterGap hgap
        split at h
        · cases h
        · rename_i found hfound
          obtain ⟨blank, hblank⟩ := blanks_of_gap hgap
          rw [blanks_of_blanks hblanks] at hblank
          cases hblank
          obtain ⟨others', -, hcons⟩ := before_eq_some h
          cases hcons
          exact ⟨found, hfound, rfl, rfl⟩

/-- Where a row with code starts in a text, and where its code starts. -/
structure RowStarts (cs indentation : List Char) (tokens : List Token) : Prop where
  exists_start : ∃ start here, StartsLine cs start ∧ blanks? start = some (indentation, here) ∧
    ∀ t, tokens.head? = some t →
      ∃ found, scanToken? ⟨[], []⟩ here = some found ∧ t.kind = found.kind ∧ t.text = String.ofList found.text

theorem rowStarts_of_rowsFrom {cs : List Char} {fuel : Nat} {here : List Char} {rows : List Row}
    (hhere : StartsLine cs here) (h : rowsFrom? usual fuel here = some rows) {indentation : List Char}
    {tokens : List Token} {ending : LineEnd} (hrow : Row.code indentation tokens ending ∈ rows) :
    RowStarts cs indentation tokens := by
  induction fuel generalizing here rows with
  | zero =>
    cases here with
    | nil => rw [rowsFrom?] at h; cases h; cases hrow
    | cons c here => cases h
  | succ fuel ih =>
    cases here with
    | nil => rw [rowsFrom?] at h; cases h; cases hrow
    | cons c here =>
      rw [rowsFrom?] at h
      · split at h
        · rename_i line rest hline
          obtain ⟨more, hmore, rfl⟩ := Option.map_eq_some_iff.mp h
          rcases List.mem_cons.mp hrow with hrow | hrow
          · cases hrow
          · exact ih (hhere.trans (lineEnd_endsLine hline)) hmore hrow
        · split at h
          · cases h
          · rename_i indentation' code hblanks
            split at h
            · cases h
            · rename_i tokens' ending' after hline
              obtain ⟨more, hmore, rfl⟩ := Option.map_eq_some_iff.mp h
              have hcode : code <:+ c :: here := ⟨_, (blanks_eq_append hblanks).symm⟩
              rcases List.mem_cons.mp hrow with hrow | hrow
              · cases hrow
                refine ⟨c :: here, code, hhere, hblanks, ?_⟩
                intro t ht
                obtain ⟨others, rfl⟩ := List.head?_eq_some_iff.mp ht
                exact scanToken_of_scanLine hblanks hline
              · exact ih (hhere.trans ((scanLine_endsLine hline).of_suffix hcode)) hmore hrow
      · simp

/-- Every row of a text starts where a line of the text starts. -/
theorem rowStarts_of_rows {cs : List Char} {rows : List Row} (h : rows? usual cs = some rows)
    {indentation : List Char} {tokens : List Token} {ending : LineEnd}
    (hrow : Row.code indentation tokens ending ∈ rows) : RowStarts cs indentation tokens :=
  rowStarts_of_rowsFrom (Or.inl rfl) h hrow

end

end Stopwatch.Syntax
