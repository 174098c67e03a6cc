/-
  The tokens of the lines of an outline.

  The outliner only nests the rows that it is given, and splits the space in front of their
  tokens.  So what holds of the tokens of all rows, whatever the space in front of them, holds
  of all lines of the outline, such as the word that they start with.  A line that stands in no
  block comes from a row that is not indented.
-/
import Stopwatch.Syntax.Outline

namespace Stopwatch.Syntax

/-- Whether the first of some tokens is a given keyword or operator. -/
def startsWith (word : String) (tokens : List Token) : Bool :=
  tokens.head?.any fun t => t.is word

/-- The tokens of a line. -/
def OutlineLine.tokens : OutlineLine → List Token
  | .leaf _ tokens _ => tokens
  | .head _ tokens _ _ _ _ => tokens

mutual

/-- The tokens of a line, and of all lines in the block that it heads. -/
def OutlineLine.lines : OutlineLine → List (List Token)
  | .leaf _ tokens _ => [tokens]
  | .head _ tokens _ _ block _ => tokens :: linesOf block

/-- The tokens of all lines of a block. -/
def linesOf : List OutlineLine → List (List Token)
  | [] => []
  | l :: ls => l.lines ++ linesOf ls

end

theorem OutlineLine.tokens_mem_lines (l : OutlineLine) : l.tokens ∈ l.lines := by
  cases l with
  | leaf leading tokens ending => simp [lines, OutlineLine.tokens]
  | head leading tokens ending step block footer => simp [lines, OutlineLine.tokens]

theorem mem_linesOf {block : List OutlineLine} {tokens : List Token} :
    tokens ∈ linesOf block ↔ ∃ l ∈ block, tokens ∈ l.lines := by
  induction block with
  | nil => simp [linesOf]
  | cons l block ih => simp [linesOf, ih]

/-- Whether a property of tokens does not depend on the space in front of them. -/
def IgnoresSpace (P : List Token → Prop) : Prop :=
  ∀ indent tokens, P tokens →
    P (tokens.map fun t => { t with lexeme := { t.lexeme with gap := t.lexeme.gap.settle indent } })

/-- Whether tokens do not start with a word. -/
def Lacks (word : String) (tokens : List Token) : Prop :=
  startsWith word tokens = false

theorem ignoresSpace_lacks (word : String) : IgnoresSpace (Lacks word) := by
  intro indent tokens h
  cases tokens with
  | nil => rfl
  | cons t tokens => exact h

section

variable {P Q : List Token → Prop}

/-- A line that fits into a block of a given depth: it and all lines below it have one property, and
if the block is the outermost one, the line itself has the other one. -/
structure OutlineLine.Fits (P Q : List Token → Prop) (depth : Depth) (l : OutlineLine) : Prop where
  anywhere : ∀ tokens ∈ l.lines, P tokens
  outermost : depth = ⟨0, 0⟩ → Q l.tokens

/-- A state all of whose lines fit, and whose outermost block is not indented. -/
structure OutlineState.Fits (P Q : List Token → Prop) (s : OutlineState) : Prop where
  lines : ∀ b ∈ s.inner :: s.outer, ∀ l ∈ b.lines, l.Fits P Q b.depth
  bottom : ∀ b, (s.inner :: s.outer).getLast? = some b → b.depth = ⟨0, 0⟩

/-- A row with the properties. -/
def Row.Fits (P Q : List Token → Prop) : Row → Prop
  | .blank _ => True
  | .code indentation tokens _ => P tokens ∧ (depthFrom ⟨0, 0⟩ indentation = ⟨0, 0⟩ → Q tokens)

/-! ## Blocks -/

theorem fits_attachBlock {usualStep : Option String} {b : OpenBlock} {footer : List BlankLine}
    {depth : Depth} {lines : List OutlineLine}
    (hb : ∀ l ∈ b.lines, l.Fits P Q b.depth)
    (hlines : ∀ l ∈ lines, l.Fits P Q depth) :
    ∀ l ∈ attachBlock usualStep b footer lines, l.Fits P Q depth := by
  unfold attachBlock
  split
  · rename_i leading tokens ending before
    intro l hl
    rcases List.mem_cons.mp hl with rfl | hl
    · have hleaf := hlines (.leaf leading tokens ending) List.mem_cons_self
      refine ⟨?_, hleaf.outermost⟩
      intro found hfound
      rw [OutlineLine.lines, List.mem_cons, mem_linesOf] at hfound
      rcases hfound with rfl | ⟨inner, hinner, hfound⟩
      · exact hleaf.anywhere _ (by rw [OutlineLine.lines]; exact List.mem_singleton_self _)
      · exact (hb inner (List.mem_reverse.mp hinner)).anywhere found hfound
    · exact hlines l (List.mem_cons_of_mem _ hl)
  · exact hlines

namespace OutlineState

theorem fits_close {s s' : OutlineState} (hs : s.Fits P Q) (h : s.close? = some s') :
    s'.Fits P Q ∧ s.outer.length = s'.outer.length + 1 := by
  unfold close? at h
  split at h
  · cases h
  · rename_i parent outer houter
    cases h
    refine ⟨⟨?_, ?_⟩, by rw [houter]; rfl⟩
    · intro b hb
      have hparent : ∀ l ∈ parent.lines, l.Fits P Q parent.depth :=
        hs.lines parent (by rw [houter]; simp)
      rcases List.mem_cons.mp hb with rfl | hb
      · exact fits_attachBlock (hs.lines s.inner List.mem_cons_self) hparent
      · exact hs.lines b (by rw [houter]; simp [hb])
    · intro b hb
      -- The block around the closed one may be the outermost; its depth is the same.
      have hbottom := hs.bottom
      rw [houter] at hbottom
      cases outer with
      | nil =>
        cases hb
        exact hbottom parent rfl
      | cons next more =>
        rw [List.getLast?_cons_cons] at hb
        exact hbottom b (by rw [List.getLast?_cons_cons, List.getLast?_cons_cons]; exact hb)

theorem fits_closeTo {depth : Depth} {fuel : Nat} {s s' : OutlineState} (hs : s.Fits P Q)
    (h : closeTo? depth fuel s = some s') : s'.Fits P Q ∧ s'.inner.depth = depth := by
  induction fuel generalizing s with
  | zero =>
    rw [closeTo?] at h
    split at h
    · rename_i hdepth
      cases h
      exact ⟨hs, hdepth⟩
    · cases h
  | succ fuel ih =>
    rw [closeTo?] at h
    split at h
    · split at h
      · rename_i hdepth
        cases h
        exact ⟨hs, hdepth⟩
      · cases h
    · obtain ⟨closed, hclosed, hrest⟩ := Option.bind_eq_some_iff.mp h
      exact ih (fits_close hs hclosed).1 hrest

theorem fits_open {indentation : List Char} {depth : Depth} {s s' : OutlineState}
    (hs : s.Fits P Q) (h : s.open? indentation depth = some s') :
    s'.Fits P Q ∧ s'.inner.depth = depth := by
  unfold open? at h
  obtain ⟨step, -, h⟩ := Option.bind_eq_some_iff.mp h
  split at h
  · cases h
  · cases h
    refine ⟨⟨?_, ?_⟩, rfl⟩
    · intro b hb
      rcases List.mem_cons.mp hb with rfl | hb
      · intro l hl
        cases hl
      · exact hs.lines b hb
    · intro b hb
      exact hs.bottom b (by rwa [List.getLast?_cons_cons] at hb)

/-! ## Rows -/

theorem fits_addLine (hP : IgnoresSpace P) (hQ : IgnoresSpace Q) {tokens : List Token} {ending : LineEnd}
    {s : OutlineState} (hs : s.Fits P Q) (hanywhere : P tokens) (houtermost : s.inner.depth = ⟨0, 0⟩ → Q tokens) :
    (s.addLine tokens ending).Fits P Q := by
  refine ⟨?_, ?_⟩
  · intro b hb
    rcases List.mem_cons.mp hb with rfl | hb
    · intro l hl
      rcases List.mem_cons.mp hl with rfl | hl
      · refine ⟨?_, fun hdepth => hQ _ _ (houtermost hdepth)⟩
        intro found hfound
        rw [OutlineLine.lines, List.mem_singleton] at hfound
        rw [hfound]
        exact hP _ _ hanywhere
      · exact hs.lines s.inner List.mem_cons_self l hl
    · exact hs.lines b (List.mem_cons_of_mem _ hb)
  · intro b hb
    have hbottom := hs.bottom
    change (_ :: s.outer).getLast? = some b at hb
    cases houter : s.outer with
    | nil =>
      rw [houter] at hb
      cases hb
      exact hbottom s.inner (by rw [houter]; rfl)
    | cons next more =>
      rw [houter, List.getLast?_cons_cons] at hb
      exact hbottom b (by rw [houter, List.getLast?_cons_cons]; exact hb)

/-- A row that fits leaves a state all of whose lines fit. -/
theorem fits_step (hP : IgnoresSpace P) (hQ : IgnoresSpace Q) {s s' : OutlineState} {row : Row}
    (hs : s.Fits P Q) (hrow : row.Fits P Q) (h : s.step? row = some s') : s'.Fits P Q := by
  cases row with
  | blank line =>
    cases h
    exact ⟨hs.lines, hs.bottom⟩
  | code indentation tokens ending =>
    obtain ⟨placed, hplaced, rfl⟩ := Option.map_eq_some_iff.mp h
    have hfits : placed.Fits P Q ∧ placed.inner.depth = depthFrom ⟨0, 0⟩ indentation := by
      split at hplaced
      · exact fits_open hs hplaced
      · exact fits_closeTo hs hplaced
    exact fits_addLine hP hQ hfits.1 hrow.1 (by rw [hfits.2]; exact hrow.2)

theorem fits_foldlM (hP : IgnoresSpace P) (hQ : IgnoresSpace Q) {rows : List Row} {s s' : OutlineState}
    (hs : s.Fits P Q) (hrows : ∀ row ∈ rows, row.Fits P Q) (h : rows.foldlM step? s = some s') :
    s'.Fits P Q := by
  induction rows generalizing s with
  | nil =>
    cases h
    exact hs
  | cons row rows ih =>
    rw [List.foldlM_cons] at h
    obtain ⟨next, hnext, hrest⟩ := Option.bind_eq_some_iff.mp h
    exact ih (fits_step hP hQ hs (hrows row List.mem_cons_self) hnext)
      (fun row hrow => hrows row (List.mem_cons_of_mem _ hrow)) hrest

theorem fits_closeAll {fuel : Nat} {s : OutlineState} (hs : s.Fits P Q)
    (hfuel : s.outer.length = fuel) :
    (s.closeAll fuel).Fits P Q ∧ (s.closeAll fuel).outer = [] := by
  induction fuel generalizing s with
  | zero => exact ⟨hs, List.length_eq_zero_iff.mp hfuel⟩
  | succ fuel ih =>
    rw [closeAll]
    cases hclose : s.close? with
    | none =>
      unfold close? at hclose
      split at hclose
      · rename_i houter
        rw [houter] at hfuel
        cases hfuel
      · cases hclose
    | some closed =>
      obtain ⟨hfits, hlength⟩ := fits_close hs hclose
      exact ih hfits (by omega)

end OutlineState

/-- The lines of an outline have the properties that its rows have. -/
theorem fits_outline (hP : IgnoresSpace P) (hQ : IgnoresSpace Q) {cs : List Char} {o : Outline}
    (h : outline? cs = some o) (hrows : ∀ rows, rows? (usualBreak cs) cs = some rows → ∀ row ∈ rows, row.Fits P Q) :
    ∀ l ∈ o.lines, l.Fits P Q ⟨0, 0⟩ := by
  unfold outline? at h
  obtain ⟨rows, hrows', h⟩ := Option.bind_eq_some_iff.mp h
  obtain ⟨last, hlast, h⟩ := Option.bind_eq_some_iff.mp h
  cases h
  have hstart : OutlineState.Fits P Q ⟨⟨"", "", ⟨0, 0⟩, []⟩, [], [], none⟩ := by
    refine ⟨?_, ?_⟩
    · intro b hb l hl
      rw [List.mem_singleton.mp hb] at hl
      cases hl
    · intro b hb
      cases hb
      rfl
  obtain ⟨hfits, houter⟩ := OutlineState.fits_closeAll
    (OutlineState.fits_foldlM hP hQ hstart (hrows rows hrows') hlast) rfl
  intro l hl
  have hdepth := hfits.bottom _ (by rw [houter]; rfl)
  rw [← hdepth]
  exact hfits.lines _ List.mem_cons_self l (List.mem_reverse.mp hl)

end

end Stopwatch.Syntax
