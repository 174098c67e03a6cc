/-
  The words that the lines of a text start with.

  A row with code starts with a keyword only if the text goes on with just this word behind
  the indentation, and a row without indentation only if a line of the text starts with it.
  So for a text that is given line by line, it is enough to look at each of the lines.
-/
import Mathlib.Data.List.Infix
import Stopwatch.Proofs.Syntax.Outline
import Stopwatch.Proofs.Syntax.Scan

namespace Stopwatch.Syntax

/-! ## Indentation -/

/-- Blanks that do not start the count anew make a line deeper. -/
theorem columns_le_depthFrom {blank : List Char} (h : '\x0c' ∉ blank) (d : Depth) :
    d.columns ≤ (depthFrom d blank).columns := by
  fun_induction depthFrom d blank with
  | case1 => exact Nat.le_refl _
  | case2 d rest ih =>
    have hrest := ih fun hmem => h (List.mem_cons_of_mem _ hmem)
    dsimp only at hrest
    omega
  | case3 d rest ih =>
    have hrest := ih fun hmem => h (List.mem_cons_of_mem _ hmem)
    dsimp only at hrest
    omega
  | case4 => exact absurd List.mem_cons_self h
  | case5 d rest hd ih => exact ih fun hmem => h (List.mem_cons_of_mem _ hmem)
  | case6 => exact Nat.le_refl _
  | case7 d c rest _ _ _ _ ih => exact ih fun hmem => h (List.mem_cons_of_mem _ hmem)

theorem first_of_blanks {cs rest blank : List Char} {c : Char} (h : blanks? cs = some (c :: blank, rest)) :
    c = ' ' ∨ c = '\t' ∨ c = '\x0c' ∨ c = '\\' := by
  unfold blanks? at h
  split at h <;> grind [Option.map_eq_some_iff]

/-- A row that is not indented starts with its first token. -/
theorem indentation_eq_nil {cs indentation here : List Char} (h : blanks? cs = some (indentation, here))
    (hdepth : depthFrom ⟨0, 0⟩ indentation = ⟨0, 0⟩) (hfeed : '\x0c' ∉ cs) (hslash : cs.head? ≠ some '\\') :
    indentation = [] := by
  have hcs := blanks_eq_append h
  cases indentation with
  | nil => rfl
  | cons c blank =>
    have hblank : '\x0c' ∉ blank := by
      intro hmem
      apply hfeed
      rw [hcs]
      exact List.mem_append_left _ (List.mem_cons_of_mem _ hmem)
    have hcolumns (d : Depth) := columns_le_depthFrom hblank d
    rcases first_of_blanks h with rfl | rfl | rfl | rfl
    · have hspace : 1 ≤ (depthFrom ⟨0, 0⟩ (' ' :: blank)).columns := hcolumns ⟨1, 1⟩
      rw [hdepth] at hspace
      cases hspace
    · have htab : 8 ≤ (depthFrom ⟨0, 0⟩ ('\t' :: blank)).columns := hcolumns ⟨8, 1⟩
      rw [hdepth] at htab
      cases htab
    · exact absurd (by rw [hcs]; simp) hfeed
    · exact absurd (by rw [hcs]; rfl) hslash

/-! ## Rows -/

/-- A word that a keyword can be: it starts like a name. -/
structure IsWord (word : String) : Prop where
  exists_first : ∃ first others, word.toList = first :: others ∧ startsName first = true

/-- A text in which a word stands nowhere, and in which no line starts with another word, with a
backslash or with blanks that start the indentation anew. -/
structure LacksWords (anywhere atStart : String) (cs : List Char) : Prop where
  anywhere : ∀ here, here <:+ cs → here.takeWhile continuesName ≠ anywhere.toList
  atStart : ∀ start, StartsLine cs start → start.takeWhile continuesName ≠ atStart.toList
  noSlash : ∀ start, StartsLine cs start → start.head? ≠ some '\\'
  noFeed : '\x0c' ∉ cs

/-- A row that starts with a word shows it behind its indentation. -/
theorem takeWhile_of_startsWith {here : List Char} {tokens : List Token} {word : String}
    (hword : IsWord word)
    (hfirst : ∀ t, tokens.head? = some t → ∃ found, scanToken? ⟨[], []⟩ here = some found ∧
      t.kind = found.kind ∧ t.text = String.ofList found.text)
    (h : startsWith word tokens = true) : here.takeWhile continuesName = word.toList := by
  obtain ⟨first, others, hcons, hstarts⟩ := hword.exists_first
  obtain ⟨t, ht, his⟩ : ∃ t, tokens.head? = some t ∧ t.is word = true := by
    cases tokens with
    | nil => cases h
    | cons t tokens => exact ⟨t, rfl, h⟩
  obtain ⟨found, hfound, hkind, htext⟩ := hfirst t ht
  rw [Token.is, Bool.and_eq_true, Bool.or_eq_true, decide_eq_true_iff, decide_eq_true_iff,
    decide_eq_true_iff] at his
  have hchars : found.text = first :: others := by
    rw [← hcons, ← his.2, htext, String.toList_ofList]
  rw [hcons]
  exact takeWhile_of_scanToken hfound (hkind ▸ his.1) hstarts hchars

/-- In a text that lacks two words, no row starts with the one, and no row that is not indented
with the other. -/
theorem fits_of_lacksWords {usual : LineBreak} {anywhere atStart : String} {cs : List Char} {rows : List Row}
    (hanywhere : IsWord anywhere) (hatStart : IsWord atStart) (h : LacksWords anywhere atStart cs)
    (hrows : rows? usual cs = some rows) : ∀ row ∈ rows, row.Fits (Lacks anywhere) (Lacks atStart) := by
  intro row hrow
  cases row with
  | blank line => trivial
  | code indentation tokens ending =>
    obtain ⟨start, here, hstart, hblanks, hfirst⟩ := (rowStarts_of_rows hrows hrow).exists_start
    have hhere : here <:+ start := ⟨_, (blanks_eq_append hblanks).symm⟩
    refine ⟨?_, ?_⟩
    · rw [Lacks, ← Bool.not_eq_true]
      intro hword
      exact h.anywhere here (hhere.trans hstart.suffix)
        (takeWhile_of_startsWith hanywhere hfirst hword)
    · intro hdepth
      rw [Lacks, ← Bool.not_eq_true]
      intro hword
      have hfeed : '\x0c' ∉ start := fun hmem => h.noFeed (hstart.suffix.subset hmem)
      have hnil := indentation_eq_nil hblanks hdepth hfeed (h.noSlash start hstart)
      have hsame : start = here := by
        have hcs := blanks_eq_append hblanks
        rwa [hnil, List.nil_append] at hcs
      rw [← hsame] at hfirst
      exact h.atStart start hstart (takeWhile_of_startsWith hatStart hfirst hword)

/-! ## Texts line by line -/

/-- The text of some lines, each with its line break. -/
def textOf (lines : List (List Char)) : List Char :=
  lines.flatMap fun line => line ++ ['\n']

theorem textOf_cons (line : List Char) (lines : List (List Char)) :
    textOf (line :: lines) = line ++ '\n' :: textOf lines := by
  simp [textOf]

/-- Every end of a text starts somewhere in one of the lines. -/
theorem exists_line_of_suffix {lines : List (List Char)} {here : List Char} (h : here <:+ textOf lines)
    (hne : here ≠ []) :
    ∃ line others part, line :: others <:+ lines ∧ part <:+ line ∧ here = part ++ '\n' :: textOf others := by
  induction lines with
  | nil => exact absurd (List.suffix_nil.mp h) hne
  | cons line lines ih =>
    rw [textOf_cons] at h
    obtain ⟨front, hfront⟩ := h
    rcases List.append_eq_append_iff.mp hfront with ⟨more, rfl, hhere⟩ | ⟨more, rfl, hrest⟩
    · exact ⟨front ++ more, lines, more, List.suffix_rfl, List.suffix_append _ _, hhere⟩
    · cases more with
      | nil => exact ⟨line, lines, [], List.suffix_rfl, List.nil_suffix, hrest.symm⟩
      | cons c more =>
        obtain ⟨line', others, part, hsuffix, hpart, rfl⟩ := ih ⟨more, (List.cons.inj hrest).2.symm⟩
        exact ⟨line', others, part, hsuffix.trans (List.suffix_cons _ _), hpart, rfl⟩

/-- A line without control characters that lacks two words: where it goes on with the letters of
the one, it goes on as a longer name, and it does not start with the other. -/
structure LacksWordsInLine (anywhere atStart line : List Char) : Prop where
  anywhere : ∀ part ∈ line.tails, anywhere.isPrefixOf part = true →
    (part.drop anywhere.length).head?.any continuesName = true
  atStart : line.takeWhile continuesName ≠ atStart
  noSlash : line.head? ≠ some '\\'
  plain : ∀ c ∈ line, 0x20 ≤ c.toNat

instance (anywhere atStart line : List Char) : Decidable (LacksWordsInLine anywhere atStart line) :=
  decidable_of_iff
    ((∀ part ∈ line.tails, anywhere.isPrefixOf part = true →
        (part.drop anywhere.length).head?.any continuesName = true) ∧
      line.takeWhile continuesName ≠ atStart ∧ line.head? ≠ some '\\' ∧
      (line.all fun c => decide (0x20 ≤ c.toNat)) = true) (by
    simp only [List.all_eq_true, decide_eq_true_eq]
    exact ⟨fun h => ⟨h.1, h.2.1, h.2.2.1, h.2.2.2⟩, fun h => ⟨h.anywhere, h.atStart, h.noSlash, h.plain⟩⟩)

/-- A name does not end where a longer one goes on. -/
theorem takeWhile_ne_of_continues {part word : List Char}
    (h : word.isPrefixOf part = true → (part.drop word.length).head?.any continuesName = true) :
    part.takeWhile continuesName ≠ word := by
  intro hword
  have hsplit : part = word ++ part.dropWhile continuesName := by
    rw [← hword, List.takeWhile_append_dropWhile]
  have hdrop : part.drop word.length = part.dropWhile continuesName := by
    conv_lhs => rw [hsplit, List.drop_left]
  have hcontinues := h (List.isPrefixOf_iff_prefix.mpr ⟨_, hsplit.symm⟩)
  rw [hdrop] at hcontinues
  cases hrest : part.dropWhile continuesName with
  | nil => rw [hrest] at hcontinues; cases hcontinues
  | cons c rest =>
    have hstops := List.head_dropWhile_not continuesName (l := part) (by rw [hrest]; exact List.cons_ne_nil _ _)
    simp only [hrest, List.head_cons] at hstops
    rw [hrest] at hcontinues
    change continuesName c = true at hcontinues
    rw [hcontinues] at hstops
    cases hstops

/-- A line break is a control character. -/
theorem not_isBreak_of_le {c : Char} (h : 0x20 ≤ c.toNat) : isBreak c = false ∧ c ≠ '\x0c' := by
  refine ⟨?_, ?_⟩
  · rw [isBreak, Bool.or_eq_false_iff, decide_eq_false_iff_not, decide_eq_false_iff_not]
    refine ⟨?_, ?_⟩ <;>
    · rintro rfl
      exact absurd h (by decide)
  · rintro rfl
    exact absurd h (by decide)

theorem takeWhile_append_newline (part more : List Char) :
    (part ++ '\n' :: more).takeWhile continuesName = part.takeWhile continuesName := by
  rw [List.takeWhile_append]
  split
  · rename_i hall
    have hnewline : ('\n' :: more).takeWhile continuesName = [] := by
      rw [List.takeWhile_cons_of_neg (by decide)]
    rw [hnewline, List.append_nil]
    exact ((List.takeWhile_prefix _).eq_of_length hall).symm
  · rfl

/-- A text lacks the words that all of its lines lack. -/
theorem lacksWords_of_lines {anywhere atStart : String} (hanywhere : IsWord anywhere)
    (hatStart : IsWord atStart) {lines : List (List Char)}
    (h : ∀ line ∈ lines, LacksWordsInLine anywhere.toList atStart.toList line) :
    LacksWords anywhere atStart (textOf lines) := by
  have hnonempty {word : String} (hword : IsWord word) : word.toList ≠ [] := by
    obtain ⟨first, others, hcons, -⟩ := hword.exists_first
    rw [hcons]
    exact List.cons_ne_nil _ _
  -- A line of the text is one of the lines, with the rest of the text behind it.
  have hstart : ∀ start, StartsLine (textOf lines) start →
      start = [] ∨ ∃ line ∈ lines, ∃ more, start = line ++ '\n' :: more := by
    have htext : ∀ others, others <:+ lines →
        textOf others = [] ∨ ∃ line ∈ lines, ∃ more, textOf others = line ++ '\n' :: more := by
      intro others hothers
      cases others with
      | nil => exact Or.inl rfl
      | cons line others =>
        exact Or.inr ⟨line, hothers.subset List.mem_cons_self, textOf others, textOf_cons line others⟩
    intro start hstart
    rcases hstart with rfl | rfl | ⟨before, c, hc, hcs⟩
    · exact htext lines List.suffix_rfl
    · exact Or.inl rfl
    · have hbreak : c :: start <:+ textOf lines := ⟨before, hcs.symm⟩
      obtain ⟨line, others, part, hsuffix, hpart, heq⟩ := exists_line_of_suffix hbreak (List.cons_ne_nil _ _)
      cases part with
      | nil =>
        rw [(List.cons.inj heq).2]
        exact htext others ((List.suffix_cons _ _).trans hsuffix)
      | cons first part =>
        have hmem : first ∈ line := hpart.subset List.mem_cons_self
        have hplain := (h line (hsuffix.subset List.mem_cons_self)).plain first hmem
        have hnone := (not_isBreak_of_le hplain).1
        rw [← (List.cons.inj heq).1, hc] at hnone
        cases hnone
  refine ⟨?_, ?_, ?_, ?_⟩
  · intro here hhere hword
    have hne : here ≠ [] := by
      rintro rfl
      exact hnonempty hanywhere hword.symm
    obtain ⟨line, others, part, hsuffix, hpart, rfl⟩ := exists_line_of_suffix hhere hne
    rw [takeWhile_append_newline] at hword
    exact takeWhile_ne_of_continues
      ((h line (hsuffix.subset List.mem_cons_self)).anywhere part ((List.mem_tails ..).mpr hpart)) hword
  · intro start hstarts hword
    rcases hstart start hstarts with rfl | ⟨line, hline, more, rfl⟩
    · exact hnonempty hatStart hword.symm
    · rw [takeWhile_append_newline] at hword
      exact (h line hline).atStart hword
  · intro start hstarts hslash
    rcases hstart start hstarts with rfl | ⟨line, hline, more, rfl⟩
    · cases hslash
    · cases line with
      | nil => cases hslash
      | cons c line => exact (h (c :: line) hline).noSlash hslash
  · intro hfeed
    rw [textOf, List.mem_flatMap] at hfeed
    obtain ⟨line, hline, hmem⟩ := hfeed
    rw [List.mem_append, List.mem_singleton] at hmem
    rcases hmem with hmem | hmem
    · exact (not_isBreak_of_le ((h line hline).plain _ hmem)).2 rfl
    · exact absurd hmem (by decide)

end Stopwatch.Syntax
