/-
  Marks in a text.

  A mark is found at its first occurrence.  When its last character stands nowhere else in
  it, no occurrence begins in front of the mark and ends inside it, so a mark that is put
  behind a text without it is found where it was put.
-/
import Stopwatch.Text.Blank
import Stopwatch.Text.Lines
import Stopwatch.Text.Search

namespace Stopwatch.Text

/-! ## Occurrences -/

theorem afterPrefix_eq_some {mark text after : List Char} :
    afterPrefix? mark text = some after ↔ text = mark ++ after := by
  induction mark generalizing text with
  | nil =>
    rw [afterPrefix?, Option.some_inj, List.nil_append]
  | cons m mark ih =>
    cases text with
    | nil => simp [afterPrefix?]
    | cons c text =>
      rw [afterPrefix?]
      split
      · rename_i heq
        rw [ih, heq, List.cons_append, List.cons.injEq, and_iff_right rfl]
      · rename_i hne
        simp [Ne.symm hne]

theorem afterPrefix_eq_none {mark text : List Char} :
    afterPrefix? mark text = none ↔ ¬mark <+: text := by
  rw [Option.eq_none_iff_forall_ne_some]
  constructor
  · rintro h ⟨after, heq⟩
    exact h after (afterPrefix_eq_some.mpr heq.symm)
  · intro h after heq
    exact h ⟨after, (afterPrefix_eq_some.mp heq).symm⟩

/-- A text without a mark is not cut. -/
theorem cut_eq_none {mark text : List Char} : cut? mark text = none ↔ ¬mark <:+: text := by
  induction text with
  | nil =>
    rw [cut?, Option.map_eq_none_iff, afterPrefix_eq_none, List.prefix_nil, List.infix_nil]
  | cons c text ih =>
    rw [cut?, List.infix_cons_iff, not_or, ← ih, ← afterPrefix_eq_none]
    cases afterPrefix? mark (c :: text) with
    | none => simp
    | some after => simp

theorem occursIn_eq_false {mark text : List Char} : occursIn mark text = false ↔ ¬mark <:+: text := by
  rw [occursIn, Option.isSome_eq_false_iff, Option.isNone_iff_eq_none, cut_eq_none]

/-- A mark behind a text without it is the first one. -/
theorem cut_append {body before : List Char} {last : Char} (hlast : last ∉ body)
    (h : ¬(body ++ [last]) <:+: before) (after : List Char) :
    cut? (body ++ [last]) (before ++ (body ++ [last] ++ after)) = some (before, after) := by
  induction before with
  | nil =>
    obtain ⟨c, rest, hmark⟩ : ∃ c rest, body ++ [last] = c :: rest :=
      List.exists_cons_of_ne_nil (by simp)
    have hfound : afterPrefix? (body ++ [last]) (body ++ [last] ++ after) = some after :=
      afterPrefix_eq_some.mpr rfl
    rw [hmark, List.cons_append] at hfound ⊢
    rw [List.nil_append, cut?, hfound]
  | cons c before ih =>
    have hbefore : ¬(body ++ [last]) <:+: before := fun hin => h (List.infix_cons hin)
    -- an occurrence that starts here would end inside the mark, at a character of its body
    have hnone : afterPrefix? (body ++ [last]) (c :: (before ++ (body ++ [last] ++ after))) = none := by
      rw [afterPrefix_eq_none]
      intro hbegins
      have hown : c :: before <+: c :: before ++ (body ++ [last] ++ after) := List.prefix_append _ _
      rcases List.prefix_or_prefix_of_prefix hbegins hown with hshort | ⟨q, hq⟩
      · exact h hshort.isInfix
      · have hrest : q <+: body ++ [last] ++ after := by
          have hstart : c :: before ++ q <+: c :: before ++ (body ++ [last] ++ after) := hq ▸ hbegins
          exact (List.prefix_append_right_inj _).mp hstart
        have hlength : q.length < (body ++ [last]).length := by
          rw [← hq, List.length_append, List.length_cons]
          omega
        have hbody : q <+: body := by
          have hmark : q <+: body ++ [last] :=
            List.prefix_of_prefix_length_le hrest (List.prefix_append _ _) (Nat.le_of_lt hlength)
          refine List.prefix_of_prefix_length_le hmark (List.prefix_append _ _) ?_
          simp only [List.length_append, List.length_singleton] at hlength
          omega
        rcases List.eq_nil_or_concat q with rfl | ⟨q', d, rfl⟩
        · rw [List.append_nil] at hq
          exact h (hq ▸ List.infix_refl _)
        · rw [List.concat_eq_append, ← List.append_assoc] at hq
          have hd : [d] = [last] := List.append_inj_right' hq rfl
          exact hlast (hbody.subset (by simp [List.singleton_inj.mp hd]))
    rw [List.cons_append, cut?, hnone]
    simp only [ih hbefore, Option.map_some]

/-- A mark does not come about by a text in which its last character does not stand. -/
theorem not_infix_append {body before after : List Char} {last : Char} (hlast : last ∉ after)
    (hbefore : ¬(body ++ [last]) <:+: before) : ¬(body ++ [last]) <:+: before ++ after := by
  induction after generalizing before with
  | nil => rwa [List.append_nil]
  | cons c after ih =>
    rw [List.mem_cons, not_or] at hlast
    rw [List.append_cons before c after]
    refine ih hlast.2 ?_
    rw [List.infix_concat_iff, not_or]
    refine ⟨?_, hbefore⟩
    rintro ⟨front, hends⟩
    rw [← List.append_assoc] at hends
    exact hlast.1 (List.singleton_inj.mp (List.append_inj_right' hends rfl))

/-- A mark that occurs in two texts with a character between them that is not in the mark occurs in one of
the texts. -/
theorem not_infix_append_cons {mark before after : List Char} {c : Char} (hc : c ∉ mark)
    (hbefore : ¬mark <:+: before) (hafter : ¬mark <:+: after) : ¬mark <:+: before ++ c :: after := by
  rintro ⟨front, rest, heq⟩
  rcases List.append_eq_append_iff.mp heq with ⟨between, hfront, hrest⟩ | ⟨between, hfront, hrest⟩
  · exact hbefore ⟨front, between, hfront.symm⟩
  · cases between with
    | nil =>
      rw [List.append_nil] at hfront
      exact hbefore ⟨front, [], by rw [List.append_nil, hfront]⟩
    | cons d between =>
      obtain ⟨rfl, hafter'⟩ := List.cons.inj hrest
      -- the character stands in front of the occurrence, for it is not part of the mark
      rcases List.append_eq_append_iff.mp hfront with ⟨gap, -, hmark⟩ | ⟨gap, -, hmark⟩
      · exact hc (hmark ▸ List.mem_append_right _ List.mem_cons_self)
      · cases gap with
        | nil =>
          rw [List.nil_append] at hmark
          exact hc (hmark ▸ List.mem_cons_self)
        | cons e gap =>
          obtain ⟨-, hbetween⟩ := List.cons.inj hmark
          exact hafter ⟨gap, rest, by rw [hafter', hbetween]; rfl⟩

/-! ## Blanks -/

/-- Blanks in front of a text do not count. -/
theorem strip_cons {c : Char} (hc : isBlank c = true) (cs : List Char) : strip (c :: cs) = strip cs := by
  rw [strip, strip, trimWhile, trimWhile, List.dropWhile_cons_of_pos hc]

/-- A text without blanks stays as it is. -/
theorem strip_eq_self {cs : List Char} (h : ∀ c ∈ cs, isBlank c = false) : strip cs = cs := by
  have hdrop : ∀ {l : List Char}, (∀ c ∈ l, isBlank c = false) → l.dropWhile isBlank = l := by
    intro l hl
    cases l with
    | nil => rfl
    | cons c l => rw [List.dropWhile_cons_of_neg (by simp [hl c List.mem_cons_self])]
  rw [strip, trimWhile, hdrop h, dropEndWhile, hdrop fun c hc => h c (List.mem_reverse.mp hc), List.reverse_reverse]

/-! ## Lines -/

theorem splitLines_pair (rest : List Char) : splitLines ('\r' :: '\n' :: rest) = [] :: splitLines rest :=
  rfl

theorem splitLines_single {c : Char} {rest : List Char} (hpair : ∀ rest', c = '\r' → rest = '\n' :: rest' → False) :
    splitLines (c :: rest) =
      if isLineBoundary c then [] :: splitLines rest else consLine c (splitLines rest) := by
  rw [splitLines.eq_def]
  split
  · rename_i h
    cases h
  · rename_i rest' h
    cases h
    exact (hpair rest' rfl rfl).elim
  · rename_i h
    cases h
    rfl

theorem splitLines_cons {c : Char} (hc : isLineBoundary c = false) (rest : List Char) :
    splitLines (c :: rest) = consLine c (splitLines rest) := by
  have hpair (rest' : List Char) (hr : c = '\r') : rest = '\n' :: rest' → False := by
    rw [hr] at hc
    cases hc
  rw [splitLines_single hpair, if_neg (by simp [hc])]

theorem splitLines_newline (rest : List Char) : splitLines ('\n' :: rest) = [] :: splitLines rest :=
  rfl

/-- Characters without a boundary, in front of a line break, are one line. -/
theorem splitLines_line {line : List Char} (h : ∀ c ∈ line, isLineBoundary c = false)
    (rest : List Char) : splitLines (line ++ '\n' :: rest) = line :: splitLines rest := by
  induction line with
  | nil => exact splitLines_newline rest
  | cons c line ih =>
    rw [List.cons_append, splitLines_cons (h c List.mem_cons_self),
      ih fun d hd => h d (List.mem_cons_of_mem c hd)]
    rfl

/-- Lines whose first one starts a text and whose others occur in it. -/
def Inside (lines : List (List Char)) (text : List Char) : Prop :=
  ∃ first others, lines = first :: others ∧ first <+: text ∧ ∀ line ∈ others, line <:+: text

theorem Inside.isInfix_of_mem {lines : List (List Char)} {text : List Char} (h : Inside lines text) :
    ∀ line ∈ lines, line <:+: text := by
  obtain ⟨first, others, rfl, hfirst, hothers⟩ := h
  intro line hline
  rcases List.mem_cons.mp hline with rfl | hline
  · exact hfirst.isInfix
  · exact hothers line hline

/-- A line that is put behind a text is glued to what stands behind the last boundary of
the text; the lines before it are the ones of the text. -/
theorem splitLines_glued (before : List Char) {line : List Char} (hne : line ≠ [])
    (hline : ∀ c ∈ line, isLineBoundary c = false) (rest : List Char) :
    ∃ lines last, splitLines (before ++ (line ++ '\n' :: rest)) =
      lines ++ (last ++ line) :: splitLines rest ∧ Inside (lines ++ [last]) before := by
  induction before using splitLines.induct with
  | case1 =>
    refine ⟨[], [], ?_, [], [], rfl, List.nil_prefix, by simp⟩
    exact splitLines_line hline rest
  | case2 before ih =>
    obtain ⟨lines, last, hsplit, hinside⟩ := ih
    refine ⟨[] :: lines, last, ?_, [], lines ++ [last], rfl, List.nil_prefix, ?_⟩
    · rw [List.cons_append, List.cons_append, splitLines_pair, hsplit]
      rfl
    · intro l hl
      exact List.infix_cons (List.infix_cons (hinside.isInfix_of_mem l hl))
  | case3 c before hpair hboundary ih =>
    obtain ⟨lines, last, hsplit, hinside⟩ := ih
    refine ⟨[] :: lines, last, ?_, [], lines ++ [last], rfl, List.nil_prefix, ?_⟩
    · -- no pair is made by what is put behind the text
      have hsingle (rest' : List Char) (hc : c = '\r') : before ++ (line ++ '\n' :: rest) = '\n' :: rest' → False := by
        intro htail
        cases before with
        | nil =>
          obtain ⟨d, line', rfl⟩ := List.exists_cons_of_ne_nil hne
          injection htail with hd _
          have := hline d List.mem_cons_self
          rw [hd] at this
          cases this
        | cons d before =>
          injection htail with hd _
          exact hpair before hc (by rw [hd])
      rw [List.cons_append, splitLines_single hsingle, hsplit, if_pos hboundary]
      rfl
    · intro l hl
      exact List.infix_cons (hinside.isInfix_of_mem l hl)
  | case4 c before hpair hboundary ih =>
    obtain ⟨lines, last, hsplit, first, others, hpieces, hfirst, hothers⟩ := ih
    have hc : isLineBoundary c = false := by simpa using hboundary
    rw [List.cons_append, splitLines_cons hc, hsplit]
    have hfirst' : c :: first <+: c :: before := List.cons_prefix_cons.mpr ⟨rfl, hfirst⟩
    cases lines with
    | nil =>
      injection hpieces with hlast hothers'
      subst hlast hothers'
      exact ⟨[], c :: last, rfl, c :: last, [], rfl, hfirst', by simp⟩
    | cons line' lines =>
      injection hpieces with hline' hothers'
      subst hline' hothers'
      exact ⟨(c :: line') :: lines, last, rfl, c :: line', lines ++ [last], rfl, hfirst',
        fun l hl => List.infix_cons (hothers l hl)⟩

theorem splitLines_eq_nil {text : List Char} : splitLines text = [] ↔ text = [] := by
  constructor
  · intro h
    cases text using splitLines.induct with
    | case1 => rfl
    | case2 rest => cases h
    | case3 c rest hpair hboundary =>
      rw [splitLines_single hpair, if_pos hboundary] at h
      cases h
    | case4 c rest hpair hboundary =>
      rw [splitLines_cons (by simpa using hboundary)] at h
      cases hrest : splitLines rest with
      | nil => simp [hrest, consLine] at h
      | cons _ _ => simp [hrest, consLine] at h
  · rintro rfl
    rfl

/-- A line feed between two texts ends the last line of the first one.  Where that line has its end
already there is one blank line more, unless the two ends are one. -/
theorem splitLines_append_newline (before after : List Char) :
    ∃ blank, (blank = [] ∨ blank = [[]]) ∧
      splitLines (before ++ '\n' :: after) = splitLines before ++ (blank ++ splitLines after) := by
  induction before using splitLines.induct with
  | case1 => exact ⟨[[]], Or.inr rfl, splitLines_newline after⟩
  | case2 before ih =>
    obtain ⟨blank, hblank, hsplit⟩ := ih
    refine ⟨blank, hblank, ?_⟩
    rw [List.cons_append, List.cons_append, splitLines_pair, splitLines_pair, hsplit]
    rfl
  | case3 c before hpair hboundary ih =>
    by_cases hend : c = '\r' ∧ before = []
    · obtain ⟨rfl, rfl⟩ := hend
      exact ⟨[], Or.inl rfl, rfl⟩
    · obtain ⟨blank, hblank, hsplit⟩ := ih
      refine ⟨blank, hblank, ?_⟩
      -- the two ends are not one
      have hsingle (rest' : List Char) (hc : c = '\r') : before ++ '\n' :: after = '\n' :: rest' → False := by
        intro htail
        cases before with
        | nil => exact hend ⟨hc, rfl⟩
        | cons d before =>
          injection htail with hd _
          exact hpair before hc (by rw [hd])
      rw [List.cons_append, splitLines_single hsingle, splitLines_single hpair, if_pos hboundary, if_pos hboundary,
        hsplit]
      rfl
  | case4 c before hpair hboundary ih =>
    have hc : isLineBoundary c = false := by simpa using hboundary
    obtain ⟨blank, hblank, hsplit⟩ := ih
    rw [List.cons_append, splitLines_cons hc, splitLines_cons hc]
    cases hbefore : splitLines before with
    | nil =>
      obtain rfl := splitLines_eq_nil.mp hbefore
      exact ⟨[], Or.inl rfl, by rw [List.nil_append, splitLines_newline]; rfl⟩
    | cons line lines =>
      refine ⟨blank, hblank, ?_⟩
      rw [hsplit, hbefore]
      rfl

/-- The first line of a text starts it, and the others occur in it. -/
theorem inside_splitLines {text : List Char} (h : text ≠ []) : Inside (splitLines text) text := by
  induction text using splitLines.induct with
  | case1 => exact absurd rfl h
  | case2 rest ih =>
    refine ⟨[], splitLines rest, splitLines_pair rest, List.nil_prefix, fun l hl => ?_⟩
    by_cases hrest : rest = []
    · simp [hrest] at hl
    · exact List.infix_cons (List.infix_cons ((ih hrest).isInfix_of_mem l hl))
  | case3 c rest hpair hboundary ih =>
    refine ⟨[], splitLines rest, by rw [splitLines_single hpair, if_pos hboundary], List.nil_prefix,
      fun l hl => ?_⟩
    by_cases hrest : rest = []
    · simp [hrest] at hl
    · exact List.infix_cons ((ih hrest).isInfix_of_mem l hl)
  | case4 c rest hpair hboundary ih =>
    have hc : isLineBoundary c = false := by simpa using hboundary
    rw [splitLines_cons hc]
    by_cases hrest : rest = []
    · subst hrest
      exact ⟨[c], [], rfl, List.prefix_rfl, by simp⟩
    · obtain ⟨first, others, heq, hfirst, hothers⟩ := ih hrest
      rw [heq]
      exact ⟨c :: first, others, rfl, List.cons_prefix_cons.mpr ⟨rfl, hfirst⟩,
        fun l hl => List.infix_cons (hothers l hl)⟩

/-- A line of a text occurs in it. -/
theorem isInfix_of_mem_splitLines {text line : List Char} (h : line ∈ splitLines text) : line <:+: text := by
  have hne : text ≠ [] := by
    rintro rfl
    simp at h
  exact (inside_splitLines hne).isInfix_of_mem line h

end Stopwatch.Text
