/-
  How lines become statements.

  Each line of an outline is read on its own, and the lines of a block are then put together.
  So a property of statements holds of everything that is read if it holds of what single
  lines start, and if decorators and clauses keep it.

  `Reads` collects what has to be shown, and `Reads.entries` is the induction on the outline.
  The outermost lines may have more properties than those in blocks, and so may what is read
  from them.
-/
import Stopwatch.Proofs.Syntax.Outline
import Stopwatch.Syntax.Parse

namespace Stopwatch

open Syntax

/-! ## The start of a line -/

namespace Syntax.Grammar

theorem bind_eq_some {p : Parser α} {f : α → Parser β} {tokens rest : List Token} {b : β}
    (h : (p >>= f) tokens = some (b, rest)) :
    ∃ a more, p tokens = some (a, more) ∧ f a more = some (b, rest) := by
  obtain ⟨⟨a, more⟩, ha, hb⟩ := Option.bind_eq_some_iff.mp h
  exact ⟨a, more, ha, hb⟩

theorem orElse_eq_some {p q : Parser α} {tokens rest : List Token} {a : α}
    (h : (p <|> q) tokens = some (a, rest)) : p tokens = some (a, rest) ∨ q tokens = some (a, rest) := by
  change (p tokens <|> q tokens) = some (a, rest) at h
  cases hp : p tokens with
  | none =>
    rw [hp] at h
    exact Or.inr h
  | some found =>
    rw [hp] at h
    exact Or.inl h

theorem tokenWhere_eq_some {accepts : Token → Bool} {tokens rest : List Token} {l : Lexeme}
    (h : tokenWhere accepts tokens = some (l, rest)) :
    ∃ t, tokens = t :: rest ∧ accepts t = true ∧ l = t.lexeme := by
  cases tokens with
  | nil => cases h
  | cons t tokens =>
    rw [tokenWhere] at h
    split at h
    · rename_i ht
      cases h
      exact ⟨t, rfl, ht, rfl⟩
    · cases h

/-- A name is one of some tokens. -/
def NamedBy (tokens : List Token) (name : Lexeme) : Prop :=
  ∃ t ∈ tokens, t.kind = .name ∧ name = t.lexeme

theorem NamedBy.cons {tokens : List Token} {name : Lexeme} (h : NamedBy tokens name) (t : Token) :
    NamedBy (t :: tokens) name := by
  obtain ⟨t', ht', hname⟩ := h
  exact ⟨t', List.mem_cons_of_mem t ht', hname⟩

/-- A name is read behind a keyword. -/
theorem namedBy_of_keyword {word : String} {tokens more rest : List Token} {keyword name : Lexeme}
    (hkeyword : mark word tokens = some (keyword, more)) (hname : identifier more = some (name, rest)) :
    NamedBy tokens name := by
  obtain ⟨first, rfl, -, -⟩ := tokenWhere_eq_some hkeyword
  obtain ⟨t, rfl, ht, rfl⟩ := tokenWhere_eq_some hname
  rw [Token.isName, Bool.and_eq_true, decide_eq_true_iff] at ht
  exact ⟨t, by simp, ht.1, rfl⟩

variable {r : Rules} {leading : List BlankLine} {asynchronous : Option Lexeme} {tokens rest : List Token}
  {found : Opening}

theorem functionHead_eq_some (h : functionHead r leading asynchronous tokens = some (found, rest)) :
    ∃ head, found = .function head ∧ head.asynchronous = asynchronous ∧ NamedBy tokens head.name := by
  unfold functionHead at h
  obtain ⟨keyword, afterKeyword, hkeyword, h⟩ := bind_eq_some h
  obtain ⟨name, afterName, hname, h⟩ := bind_eq_some h
  obtain ⟨types, afterTypes, -, h⟩ := bind_eq_some h
  obtain ⟨opening, afterOpening, -, h⟩ := bind_eq_some h
  obtain ⟨parameters, afterParameters, -, h⟩ := bind_eq_some h
  obtain ⟨closing, afterClosing, -, h⟩ := bind_eq_some h
  obtain ⟨result, afterResult, -, h⟩ := bind_eq_some h
  obtain ⟨colon, afterColon, -, h⟩ := bind_eq_some h
  cases h
  exact ⟨_, rfl, rfl, namedBy_of_keyword hkeyword hname⟩

theorem classHead_eq_some (h : classHead r leading tokens = some (found, rest)) :
    ∃ head, found = .classDef head ∧ NamedBy tokens head.name := by
  unfold classHead at h
  obtain ⟨keyword, afterKeyword, hkeyword, h⟩ := bind_eq_some h
  obtain ⟨name, afterName, hname, h⟩ := bind_eq_some h
  have hnamed := namedBy_of_keyword hkeyword hname
  obtain ⟨types, afterTypes, -, h⟩ := bind_eq_some h
  obtain ⟨hasArguments, afterNext, -, h⟩ := bind_eq_some h
  cases hasArguments with
  | true =>
    obtain ⟨opening, afterOpening, -, h⟩ := bind_eq_some h
    obtain ⟨items, afterItems, -, h⟩ := bind_eq_some h
    obtain ⟨closing, afterClosing, -, h⟩ := bind_eq_some h
    obtain ⟨arguments, afterArguments, -, h⟩ := bind_eq_some h
    obtain ⟨colon, afterColon, -, h⟩ := bind_eq_some h
    cases h
    exact ⟨_, rfl, hnamed⟩
  | false =>
    obtain ⟨arguments, afterArguments, -, h⟩ := bind_eq_some h
    obtain ⟨colon, afterColon, -, h⟩ := bind_eq_some h
    cases h
    exact ⟨_, rfl, hnamed⟩

/-- The keyword of a clause is the first word of its line. -/
theorem clauseHead_eq_some {keywords : List String}
    (h : clauseHead r leading asynchronous keywords tokens = some (found, rest)) :
    ∃ head, found = .clause head ∧ startsWith head.keyword.text tokens = true := by
  unfold clauseHead at h
  obtain ⟨keyword, more, hkeyword, h⟩ := bind_eq_some h
  obtain ⟨condition, afterCondition, -, h⟩ := bind_eq_some h
  obtain ⟨colon, afterColon, -, h⟩ := bind_eq_some h
  cases h
  obtain ⟨t, rfl, ht, rfl⟩ := tokenWhere_eq_some hkeyword
  rw [Bool.and_eq_true, decide_eq_true_iff] at ht
  refine ⟨_, rfl, ?_⟩
  simp [startsWith, Token.is, Token.text, ht.1]

/-- What a line starts: a function, which is asynchronous only if the line starts with `async`, a class,
or a clause.  Only behind `async` does a clause not show its keyword as the first word. -/
theorem opening_eq_some (h : opening r leading tokens = some (found, rest)) :
    (∃ head, found = .function head ∧ (Lacks "async" tokens → head.asynchronous = none) ∧ NamedBy tokens head.name) ∨
    (∃ head, found = .classDef head ∧ NamedBy tokens head.name) ∨
    ∃ head, found = .clause head ∧ (Lacks "async" tokens → startsWith head.keyword.text tokens = true) := by
  unfold opening at h
  obtain ⟨isAsync, more, hnext, h⟩ := bind_eq_some h
  -- looking for `async` takes nothing away
  obtain ⟨hmore, hisAsync⟩ : more = tokens ∧ isAsync = startsWith "async" tokens := by
    cases tokens <;> cases hnext <;> exact ⟨rfl, rfl⟩
  subst hmore
  cases isAsync with
  | true =>
    -- a line that starts with `async` does not lack it, so only the name is left to show
    have hnot : ¬Lacks "async" more := by simp [Lacks, ← hisAsync]
    rw [if_pos rfl] at h
    obtain ⟨asynchronous, afterAsync, hasync, hbehind⟩ := bind_eq_some h
    obtain ⟨first, rfl, -, -⟩ := tokenWhere_eq_some hasync
    rcases orElse_eq_some hbehind with h | h
    · obtain ⟨head, hfound, -, hnamed⟩ := functionHead_eq_some h
      exact Or.inl ⟨head, hfound, fun hlacks => absurd hlacks hnot, hnamed.cons first⟩
    · obtain ⟨head, hfound, -⟩ := clauseHead_eq_some h
      exact Or.inr (Or.inr ⟨head, hfound, fun hlacks => absurd hlacks hnot⟩)
  | false =>
    rw [if_neg Bool.false_ne_true] at h
    rcases orElse_eq_some h with h | h
    · obtain ⟨head, hfound, hasync, hnamed⟩ := functionHead_eq_some h
      exact Or.inl ⟨head, hfound, fun _ => hasync, hnamed⟩
    rcases orElse_eq_some h with h | h
    · exact Or.inr (Or.inl (classHead_eq_some h))
    · obtain ⟨head, hfound, hkeyword⟩ := clauseHead_eq_some h
      exact Or.inr (Or.inr ⟨head, hfound, fun _ => hkeyword⟩)

end Syntax.Grammar

open Syntax.Grammar

/-! ## Blocks -/

/-- What assembling makes of lines: statements with a property, from clauses with a property. -/
structure AssemblesTo (S : Stmt → Prop) (C : Clause → Prop) : Prop where
  decorate : ∀ d s s', S s → s.decorate? d = some s' → S s'
  compound : ∀ c others, C c → (∀ o ∈ others, C o) → S (.compound c others)

/-- An entry that is a statement or a clause with a property. -/
def Syntax.Entry.Meets (S : Stmt → Prop) (C : Clause → Prop) : Syntax.Entry → Prop
  | .statement s => S s
  | .decorator _ => True
  | .clause c => C c

/-- An assembly whose clauses and statements have the properties. -/
structure Syntax.Assembly.Meets (S : Stmt → Prop) (C : Clause → Prop) (a : Assembly) : Prop where
  waiting : ∀ c ∈ a.waiting, C c
  statements : ∀ s ∈ a.statements, S s

section

variable {S : Stmt → Prop} {C : Clause → Prop}

theorem meets_push (h : AssemblesTo S C) {e : Syntax.Entry} {a a' : Assembly} (he : e.Meets S C) (ha : a.Meets S C)
    (hpush : a.push? e = some a') : a'.Meets S C := by
  unfold Assembly.push? at hpush
  cases e with
  | statement s =>
    dsimp only at hpush
    split at hpush
    · cases hpush
      exact ⟨by simp, List.forall_mem_cons.mpr ⟨he, ha.statements⟩⟩
    · cases hpush
  | decorator d =>
    dsimp only at hpush
    split at hpush
    · rename_i s rest hwaiting hstatements
      obtain ⟨s', hs', hfound⟩ := Option.map_eq_some_iff.mp hpush
      cases hfound
      have hall := ha.statements
      rw [hstatements, List.forall_mem_cons] at hall
      exact ⟨by simp, List.forall_mem_cons.mpr ⟨h.decorate d s s' hall.1 hs', hall.2⟩⟩
    · cases hpush
  | clause c =>
    dsimp only at hpush
    split at hpush
    · split at hpush
      · cases hpush
        exact ⟨by simp, List.forall_mem_cons.mpr ⟨h.compound c a.waiting he ha.waiting, ha.statements⟩⟩
      · cases hpush
    · cases hpush
      exact ⟨List.forall_mem_cons.mpr ⟨he, ha.waiting⟩, ha.statements⟩

theorem meets_foldrM (h : AssemblesTo S C) {entries : List Syntax.Entry} (hentries : ∀ e ∈ entries, e.Meets S C)
    {a : Assembly} (ha : entries.foldrM Assembly.push? ⟨[], []⟩ = some a) : a.Meets S C := by
  -- the lines are put together from the last one to the first
  induction entries generalizing a with
  | nil =>
    cases ha
    exact ⟨by simp, by simp⟩
  | cons e entries ih =>
    rw [List.foldrM_cons] at ha
    obtain ⟨later, hlater, hpush⟩ := Option.bind_eq_some_iff.mp ha
    exact meets_push h (hentries e List.mem_cons_self)
      (ih (fun e he => hentries e (List.mem_cons_of_mem _ he)) hlater) hpush

/-- What holds of the lines of a block holds of the statements that they make up. -/
theorem meets_assemble (h : AssemblesTo S C) {entries : List Syntax.Entry} {body : List Stmt}
    (hentries : ∀ e ∈ entries, e.Meets S C) (hbody : assemble? entries = some body) : ∀ s ∈ body, S s := by
  unfold assemble? at hbody
  obtain ⟨a, ha, hbody⟩ := Option.bind_eq_some_iff.mp hbody
  split at hbody
  · cases hbody
    exact (meets_foldrM h hentries ha).statements
  · cases hbody

/-! ## Lines -/

/-- What has to be shown of a line with a property, so that the statement or clause that is read from it
has a property of its own, if its suite has one. -/
structure ReadsLine (P : List Token → Prop) (S : Stmt → Prop) (C : Clause → Prop) (U : Suite → Prop) : Prop where
  line : ∀ leading items ending, S (.line leading items ending)
  inline : ∀ blank items ending, U (.inline blank items ending)
  opening : ∀ {r leading tokens found rest suite}, P tokens → U suite →
    opening r leading tokens = some (found, rest) → (found.entry suite).Meets S C
  clauseHead : ∀ {r leading asynchronous keywords tokens found rest suite}, P tokens → U suite →
    clauseHead r leading asynchronous keywords tokens = some (found, rest) → (found.entry suite).Meets S C

theorem ReadsLine.mono {P P' : List Token → Prop} {U : Suite → Prop} (h : ReadsLine P S C U)
    (hP : ∀ tokens, P' tokens → P tokens) : ReadsLine P' S C U :=
  ⟨h.line, h.inline, fun htokens => h.opening (hP _ htokens), fun htokens => h.clauseHead (hP _ htokens)⟩

/-- What has to be shown of lines with a property, so that all that is read from them and from the blocks
below them has properties of its own. -/
structure Reads (P : List Token → Prop) (S : Stmt → Prop) (C : Clause → Prop) (U : Suite → Prop) : Prop
    extends ReadsLine P S C U, AssemblesTo S C where
  block : ∀ ending step body footer, (∀ s ∈ body, S s) → U (.block ending step body footer)

variable {P : List Token → Prop} {U : Suite → Prop} {leading : List BlankLine} {tokens : List Token}
  {ending : LineEnd} {suite : Suite} {e : Syntax.Entry}

/-- A suite on the line of its colon holds small statements only. -/
theorem inlineSuite_eq_some (h : inlineSuite? tokens ending = some suite) :
    ∃ blank items ending', suite = .inline blank items ending' := by
  unfold inlineSuite? at h
  obtain ⟨⟨items, ending'⟩, -, h⟩ := Option.bind_eq_some_iff.mp h
  cases h
  exact ⟨_, _, _, rfl⟩

theorem ReadsLine.leafEntry (h : ReadsLine P S C U) {inMatch : Bool} (htokens : P tokens)
    (he : leafEntry? inMatch leading tokens ending = some e) : e.Meets S C := by
  have hinline {rest : List Token} {suite : Suite} (hsuite : inlineSuite? rest ending = some suite) : U suite := by
    obtain ⟨blank, items, ending', rfl⟩ := inlineSuite_eq_some hsuite
    exact h.inline blank items ending'
  unfold leafEntry? at he
  cases inMatch with
  | true =>
    simp only [if_true] at he
    split at he
    · rename_i found rest hfound
      obtain ⟨suite, hsuite, rfl⟩ := Option.map_eq_some_iff.mp he
      exact h.clauseHead htokens (hinline hsuite) hfound
    · cases he
  | false =>
    simp only [Bool.false_eq_true, if_false] at he
    split at he
    · rename_i found rest hfound
      obtain ⟨suite, hsuite, rfl⟩ := Option.map_eq_some_iff.mp he
      exact h.opening htokens (hinline hsuite) hfound
    · split at he
      · cases he
        trivial
      · obtain ⟨⟨items, ending'⟩, -, rfl⟩ := Option.map_eq_some_iff.mp he
        exact h.line leading items ending'

theorem ReadsLine.headEntry (h : ReadsLine P S C U) {inMatch : Bool} (htokens : P tokens) (hsuite : U suite)
    (he : headEntry? inMatch leading tokens suite = some e) : e.Meets S C := by
  unfold headEntry? at he
  dsimp only at he
  split at he
  · rename_i found hfound
    cases he
    split at hfound
    · exact h.clauseHead htokens hsuite hfound
    split at hfound
    · exact h.clauseHead htokens hsuite hfound
    · exact h.opening htokens hsuite hfound
  · cases he

mutual

/-- What is read from a line has a property if the line has one, and all lines below it have another one. -/
theorem Reads.entry (inner : Reads P S C U) {P' : List Token → Prop} {S' : Stmt → Prop} {C' : Clause → Prop}
    {U' : Suite → Prop} (outer : ReadsLine P' S' C' U')
    (hblock : ∀ ending step body footer, (∀ s ∈ body, S s) → U' (.block ending step body footer))
    (inMatch : Bool) (l : OutlineLine) {e : Syntax.Entry} (hlines : ∀ tokens ∈ l.lines, P tokens)
    (htokens : P' l.tokens) (he : entry? inMatch l = some e) : e.Meets S' C' := by
  match l with
  | .leaf leading tokens ending =>
    rw [ entry?] at he
    exact outer.leafEntry htokens he
  | .head leading tokens ending step block footer =>
    rw [OutlineLine.lines, List.forall_mem_cons] at hlines
    rw [ entry?] at he
    split at he
    · cases he
    · rename_i read hread
      split at he
      · cases he
      · rename_i body hbody
        have hentries := inner.entries inner.toReadsLine inner.block _ block (fun l hl => by
          have hall (tokens : List Token) (htokens : tokens ∈ l.lines) : P tokens :=
            hlines.2 tokens (mem_linesOf.mpr ⟨l, hl, htokens⟩)
          exact ⟨hall, hall l.tokens l.tokens_mem_lines⟩) hread
        -- the lines of the block are inner ones, whatever the line of its head is
        have hstatements := meets_assemble inner.toAssemblesTo hentries hbody
        exact outer.headEntry htokens (hblock ending step body footer hstatements) he

theorem Reads.entries (inner : Reads P S C U) {P' : List Token → Prop} {S' : Stmt → Prop} {C' : Clause → Prop}
    {U' : Suite → Prop} (outer : ReadsLine P' S' C' U')
    (hblock : ∀ ending step body footer, (∀ s ∈ body, S s) → U' (.block ending step body footer))
    (inMatch : Bool) (block : List OutlineLine) {read : List Syntax.Entry}
    (hlines : ∀ l ∈ block, (∀ tokens ∈ l.lines, P tokens) ∧ P' l.tokens)
    (hread : entries? inMatch block = some read) : ∀ e ∈ read, e.Meets S' C' := by
  match block with
  | [] =>
    rw [entries?] at hread
    cases hread
    simp
  | l :: block =>
    rw [List.forall_mem_cons] at hlines
    rw [entries?] at hread
    split at hread
    · rename_i e es he hes
      cases hread
      exact List.forall_mem_cons.mpr ⟨inner.entry outer hblock inMatch l hlines.1.1 hlines.1.2 he,
        inner.entries outer hblock inMatch block hlines.2 hes⟩
    · cases hread

end

/-! ## Whole texts -/

/-- All statements of a module have a property that the lines in front of them do not matter for, if the
rows of its text have the properties that are needed to read them. -/
theorem Reads.parse (inner : Reads P S C U) {Q : List Token → Prop} {S' : Stmt → Prop} {C' : Clause → Prop}
    {U' : Suite → Prop} (outer : ReadsLine (fun tokens => P tokens ∧ Q tokens) S' C' U')
    (hassembles : AssemblesTo S' C')
    (hblock : ∀ ending step body footer, (∀ s ∈ body, S s) → U' (.block ending step body footer))
    (hleading : ∀ s leading, S' s → S' (s.setLeading leading)) (hP : IgnoresSpace P) (hQ : IgnoresSpace Q)
    {source : String} {m : Module} (h : Module.parse? source = some m)
    (hrows : ∀ usual rows, rows? usual (dropByteOrderMark source.toList) = some rows → ∀ row ∈ rows, row.Fits P Q) :
    ∀ s ∈ m.body, S' s := by
  unfold Module.parse? at h
  obtain ⟨o, ho, h⟩ := Option.bind_eq_some_iff.mp h
  obtain ⟨body, hbody, h⟩ := Option.bind_eq_some_iff.mp h
  obtain ⟨read, hread, hbody⟩ := Option.bind_eq_some_iff.mp hbody
  have hfits := fits_outline hP hQ ho (hrows _)
  have hlines (l : OutlineLine) (hl : l ∈ o.lines) :
      (∀ tokens ∈ l.lines, P tokens) ∧ P l.tokens ∧ Q l.tokens :=
    ⟨(hfits l hl).anywhere, (hfits l hl).anywhere _ l.tokens_mem_lines, (hfits l hl).outermost rfl⟩
  have hstatements := meets_assemble hassembles (inner.entries outer hblock false o.lines hlines hread) hbody
  dsimp only at h
  split at h
  · cases h
    simp
  · cases h
    rw [List.forall_mem_cons] at hstatements
    exact List.forall_mem_cons.mpr ⟨hleading _ [] hstatements.1, hstatements.2⟩

end

end Stopwatch
