/-
  Texts without asynchronous functions and without a guard for the main program.

  A function is asynchronous only if its line starts with `async`, and a guard for the main
  program starts with `if`.  So a text in which no line starts with the one word, and no line
  that is not indented starts with the other, has neither.
-/
import Stopwatch.Proofs.Instrument.Measured
import Stopwatch.Proofs.Syntax.Assembly

namespace Stopwatch

open Syntax

open Syntax.Grammar

/-! ## Statements without asynchronous functions -/

/-- Whether none of some functions is asynchronous. -/
def AllSynchronous (functions : List (FunctionHead × Suite)) : Prop :=
  ∀ f ∈ functions, f.1.asynchronous = none

theorem allSynchronous_append {a b : List (FunctionHead × Suite)} :
    AllSynchronous (a ++ b) ↔ AllSynchronous a ∧ AllSynchronous b :=
  List.forall_mem_append

theorem allSynchronous_function {head : FunctionHead} {suite : Suite} :
    AllSynchronous (functionsIn (.function head suite)) ↔
      AllSynchronous (functionsInSuite suite) ∧ head.asynchronous = none := by
  rw [functionsIn, allSynchronous_append]
  simp [AllSynchronous, FunctionHead.withoutLeading]

/-- Whether no function in a statement is asynchronous, and the statement is no guard for the main
program. -/
structure Syntax.Stmt.IsPlain (s : Stmt) : Prop where
  synchronous : AllSynchronous (functionsIn s)
  noGuard : s.isMainGuard = .ok false

/-- A decorator leaves a function as asynchronous as it was. -/
theorem isPlain_decorate {d : Decorator} {s s' : Stmt} (hs : AllSynchronous (functionsIn s))
    (h : s.decorate? d = some s') : s'.IsPlain := by
  unfold Stmt.decorate? at h
  split at h
  · rw [allSynchronous_function] at hs
    split at h <;> · cases h; exact ⟨allSynchronous_function.mpr hs, rfl⟩
  · rw [functionsIn] at hs
    split at h <;> · cases h; exact ⟨by rwa [functionsIn], rfl⟩
  · cases h

theorem allSynchronous_compound {c : Clause} {others : List Clause} (hc : AllSynchronous (functionsInClause c))
    (hothers : ∀ o ∈ others, AllSynchronous (functionsInClause o)) :
    AllSynchronous (functionsIn (.compound c others)) := by
  rw [functionsIn, allSynchronous_append]
  refine ⟨hc, ?_⟩
  induction others with
  | nil => rw [functionsInClauses]; simp [AllSynchronous]
  | cons o others ih =>
    rw [functionsInClauses, allSynchronous_append]
    exact ⟨hothers o List.mem_cons_self, ih fun o ho => hothers o (List.mem_cons_of_mem _ ho)⟩

theorem allSynchronous_block (ending : LineEnd) (step : Option String) (body : List Stmt) (footer : List BlankLine)
    (h : ∀ s ∈ body, AllSynchronous (functionsIn s)) :
    AllSynchronous (functionsInSuite (.block ending step body footer)) := by
  rw [functionsInSuite, functionsInBody_eq]
  intro f hf
  obtain ⟨s, hs, hfs⟩ := List.mem_flatMap.mp hf
  exact h s hs f hfs

/-- A clause that does not start with `if` is no test. -/
theorem ne_if_of_startsWith {tokens : List Token} {keyword : String} (hlacks : Lacks "if" tokens)
    (h : startsWith keyword tokens = true) : keyword ≠ "if" := by
  rintro rfl
  rw [Lacks, h] at hlacks
  cases hlacks

theorem assemblesTo_plain :
    AssemblesTo Stmt.IsPlain fun c => AllSynchronous (functionsInClause c) ∧ c.keyword ≠ "if" where
  decorate _ _ _ hs h := isPlain_decorate hs.synchronous h
  compound c _ hc hothers :=
    ⟨allSynchronous_compound hc.1 fun o ho => (hothers o ho).1, by obtain ⟨head, suite⟩ := c; exact if_neg hc.2⟩

/-! ## Lines -/

/-- A line that starts neither with `async` nor with `if` reads as a plain statement. -/
theorem readsLine_plain : ReadsLine (fun tokens => Lacks "async" tokens ∧ Lacks "if" tokens) Stmt.IsPlain
    (fun c => AllSynchronous (functionsInClause c) ∧ c.keyword ≠ "if")
    fun suite => AllSynchronous (functionsInSuite suite) where
  line leading items ending := ⟨by rw [functionsIn]; simp [AllSynchronous], rfl⟩
  inline blank items ending := by rw [functionsInSuite]; simp [AllSynchronous]
  opening := by
    intro r leading tokens found rest suite htokens hsuite hfound
    rcases opening_eq_some hfound with ⟨head, rfl, hasync, -⟩ | ⟨head, rfl, -⟩ | ⟨head, rfl, hkeyword⟩
    · exact ⟨allSynchronous_function.mpr ⟨hsuite, hasync htokens.1⟩, rfl⟩
    · exact ⟨by rwa [functionsIn], rfl⟩
    · exact ⟨by rwa [functionsInClause], ne_if_of_startsWith htokens.2 (hkeyword htokens.1)⟩
  clauseHead := by
    intro r leading asynchronous keywords tokens found rest suite htokens hsuite hfound
    obtain ⟨head, rfl, hkeyword⟩ := clauseHead_eq_some hfound
    exact ⟨by rwa [functionsInClause], ne_if_of_startsWith htokens.2 hkeyword⟩

/-- Where no line starts with `async`, no function is asynchronous. -/
theorem reads_synchronous : Reads (Lacks "async") (fun s => AllSynchronous (functionsIn s))
    (fun c => AllSynchronous (functionsInClause c)) fun suite => AllSynchronous (functionsInSuite suite) where
  line leading items ending := by rw [functionsIn]; simp [AllSynchronous]
  inline blank items ending := by rw [functionsInSuite]; simp [AllSynchronous]
  opening := by
    intro r leading tokens found rest suite htokens hsuite hfound
    rcases opening_eq_some hfound with ⟨head, rfl, hasync, -⟩ | ⟨head, rfl, -⟩ | ⟨head, rfl, -⟩
    · exact allSynchronous_function.mpr ⟨hsuite, hasync htokens⟩
    · show AllSynchronous (functionsIn (.classDef head suite))
      rwa [functionsIn]
    · show AllSynchronous (functionsInClause (.mk head suite))
      rwa [functionsInClause]
  clauseHead := by
    intro r leading asynchronous keywords tokens found rest suite htokens hsuite hfound
    obtain ⟨head, rfl, -⟩ := clauseHead_eq_some hfound
    show AllSynchronous (functionsInClause (.mk head suite))
    rwa [functionsInClause]
  decorate _ _ _ hs h := (isPlain_decorate hs h).synchronous
  compound _ _ hc hothers := allSynchronous_compound hc hothers
  block := allSynchronous_block

/-! ## Whole texts -/

@[simp] theorem isMainGuard_setLeading (s : Stmt) (leading : List BlankLine) :
    (s.setLeading leading).isMainGuard = s.isMainGuard := by
  cases s with
  | line _ items ending => rfl
  | function head suite => rfl
  | classDef head suite => rfl
  | compound first others => cases first; rfl

theorem isPlain_setLeading {s : Stmt} (h : s.IsPlain) (leading : List BlankLine) :
    (s.setLeading leading).IsPlain :=
  ⟨by rw [functionsIn_setLeading]; exact h.synchronous, by rw [isMainGuard_setLeading]; exact h.noGuard⟩

/-- The statements of a text are plain if no row starts with `async`, and none that is not indented
starts with `if`. -/
theorem isPlain_parse {source : String} {m : Module} (h : Module.parse? source = some m)
    (hrows : ∀ usual rows, rows? usual (dropByteOrderMark source.toList) = some rows →
      ∀ row ∈ rows, row.Fits (Lacks "async") (Lacks "if")) :
    ∀ s ∈ m.body, s.IsPlain :=
  reads_synchronous.parse readsLine_plain assemblesTo_plain allSynchronous_block (fun _ leading hs => isPlain_setLeading hs leading)
    (ignoresSpace_lacks "async") (ignoresSpace_lacks "if") h hrows

end Stopwatch
