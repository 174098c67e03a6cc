/-
  The names of functions and classes.

  The scanner reads a name as far as its characters go, and the name of a function or of a
  class is a name that has been read.  So no such name holds a sign that ends a name, such as
  a point or `@`.
-/
import Stopwatch.Proofs.Instrument.Classes
import Stopwatch.Proofs.Instrument.Measured
import Stopwatch.Proofs.Syntax.Assembly
import Stopwatch.Proofs.Syntax.Scan

namespace Stopwatch

namespace Syntax

/-! ## What the scanner reads -/

/-- Whether all characters of a text can stand in a name. -/
def IsNameLike (text : String) : Prop :=
  ∀ c ∈ text.toList, continuesName c = true

/-- Whether the names among some tokens have the characters of names. -/
def NamesAreNameLike (tokens : List Token) : Prop :=
  ∀ t ∈ tokens, t.kind = .name → IsNameLike t.text

theorem ignoresSpace_namesAreNameLike : IgnoresSpace NamesAreNameLike := by
  intro indent tokens h t ht
  obtain ⟨t', ht', rfl⟩ := List.mem_map.mp ht
  exact h t' ht'

/-- A name is read as far as the characters of names go. -/
theorem continuesName_of_scanToken {s : ScanState} {cs : List Char} {found : Scanned}
    (h : scanToken? s cs = some found) (hkind : found.kind = .name) : ∀ c ∈ found.text, continuesName c = true := by
  unfold scanToken? at h
  split at h
  · cases h
  split at h
  · rw [(scanWord_of h).2.2 hkind]
    exact fun c hc => List.mem_takeWhile_imp hc
  -- Everything else is no name.
  split at h
  · obtain ⟨⟨text, after⟩, -, rfl⟩ := Option.map_eq_some_iff.mp h
    cases hkind
  split at h
  · obtain ⟨⟨body, more⟩, -, rfl⟩ := Option.map_eq_some_iff.mp h
    cases hkind
  · rw [(scanOperator_eq_append h).2] at hkind
    cases hkind

theorem kind_of_scanFormat {s : ScanState} {cs : List Char} {found : Scanned}
    (h : scanFormat? s cs = some (some found)) : found.kind ≠ .name := by
  unfold scanFormat? at h
  split at h
  · cases h
  split at h
  · cases h
  split at h
  · cases h
  · cases h
    exact TokenKind.noConfusion
  · split at h
    · cases h
      exact TokenKind.noConfusion
    · cases h

variable {usual : LineBreak}

theorem namesAreNameLike_scanLine {fuel : Nat} {s : ScanState} {cs : List Char} {tokens : List Token}
    {ending : LineEnd} {rest : List Char} (h : scanLine? usual fuel s cs = some (tokens, ending, rest)) :
    NamesAreNameLike tokens := by
  induction fuel generalizing s cs tokens with
  | zero => rw [scanLine?] at h; cases h
  | succ fuel ih =>
    -- both ways to find a token put it in front of what the rest of the line is read as
    have hcons {found : Scanned} {gap : Gap} (hfound : found.kind = .name → ∀ c ∈ found.text, continuesName c = true)
        (h : found.before gap (scanLine? usual fuel found.state found.rest) = some (tokens, ending, rest)) :
        NamesAreNameLike tokens := by
      obtain ⟨others, hothers, rfl⟩ := before_eq_some h
      refine List.forall_mem_cons.mpr ⟨fun hkind => ?_, ih hothers⟩
      rw [IsNameLike, Token.text, String.toList_ofList]
      exact hfound hkind
    rw [scanLine?] at h
    split at h
    · cases h
    · rename_i found hfound
      exact hcons (fun hkind => absurd hkind (kind_of_scanFormat hfound)) h
    · dsimp only at h
      split at h
      · cases h
        exact fun t ht => (List.not_mem_nil ht).elim
      · split at h
        · cases h
        · split at h
          · cases h
          · rename_i found hfound
            exact hcons (continuesName_of_scanToken hfound) h

/-- The names in a row have the characters of names. -/
theorem namesAreNameLike_rowsFrom {fuel : Nat} {cs : List Char} {rows : List Row}
    (h : rowsFrom? usual fuel cs = some rows) : ∀ row ∈ rows, row.Fits NamesAreNameLike fun _ => True := by
  induction fuel generalizing cs rows with
  | zero =>
    cases cs with
    | nil => rw [rowsFrom?] at h; cases h; simp
    | cons c cs => cases h
  | succ fuel ih =>
    cases cs with
    | nil => rw [rowsFrom?] at h; cases h; simp
    | cons c cs =>
      rw [rowsFrom?] at h
      · split at h
        · obtain ⟨more, hmore, rfl⟩ := Option.map_eq_some_iff.mp h
          exact List.forall_mem_cons.mpr ⟨trivial, ih hmore⟩
        · split at h
          · cases h
          · split at h
            · cases h
            · rename_i tokens ending after hline
              obtain ⟨more, hmore, rfl⟩ := Option.map_eq_some_iff.mp h
              exact List.forall_mem_cons.mpr ⟨⟨namesAreNameLike_scanLine hline, fun _ => trivial⟩, ih hmore⟩
      · simp

end Syntax

open Syntax Syntax.Grammar

/-! ## What is declared -/

/-- Whether the names of some functions and classes have the characters of names. -/
structure AreNameLike (functions : List (FunctionHead × Suite)) (classes : List String) : Prop where
  functions : ∀ f ∈ functions, IsNameLike f.1.name.text
  classes : ∀ name ∈ classes, IsNameLike name

theorem areNameLike_nil : AreNameLike [] [] :=
  ⟨by simp, by simp⟩

theorem AreNameLike.append {functions functions' : List (FunctionHead × Suite)} {classes classes' : List String}
    (h : AreNameLike functions classes) (h' : AreNameLike functions' classes') :
    AreNameLike (functions ++ functions') (classes ++ classes') :=
  ⟨List.forall_mem_append.mpr ⟨h.functions, h'.functions⟩, List.forall_mem_append.mpr ⟨h.classes, h'.classes⟩⟩

theorem areNameLike_function {head : FunctionHead} {suite : Suite} :
    AreNameLike (functionsIn (.function head suite)) (classesIn (.function head suite)) ↔
      AreNameLike (functionsInSuite suite) (classesInSuite suite) ∧ IsNameLike head.name.text := by
  rw [functionsIn, classesIn]
  constructor
  · intro h
    have hfunctions := List.forall_mem_append.mp h.functions
    exact ⟨⟨hfunctions.1, h.classes⟩, hfunctions.2 _ (List.mem_singleton_self _)⟩
  · intro h
    refine ⟨List.forall_mem_append.mpr ⟨h.1.functions, ?_⟩, h.1.classes⟩
    exact List.forall_mem_singleton.mpr h.2

theorem areNameLike_classDef {head : ClassHead} {suite : Suite} :
    AreNameLike (functionsIn (.classDef head suite)) (classesIn (.classDef head suite)) ↔
      AreNameLike (functionsInSuite suite) (classesInSuite suite) ∧ IsNameLike head.name.text := by
  rw [functionsIn, classesIn]
  constructor
  · intro h
    have hclasses := List.forall_mem_cons.mp h.classes
    exact ⟨⟨h.functions, hclasses.2⟩, hclasses.1⟩
  · intro h
    exact ⟨h.1.functions, List.forall_mem_cons.mpr ⟨h.2, h.1.classes⟩⟩

theorem areNameLike_body {body : List Stmt} (h : ∀ s ∈ body, AreNameLike (functionsIn s) (classesIn s)) :
    AreNameLike (functionsInBody body) (classesInBody body) := by
  induction body with
  | nil => rw [functionsInBody, classesInBody]; exact areNameLike_nil
  | cons s body ih =>
    rw [List.forall_mem_cons] at h
    rw [functionsInBody, classesInBody]
    exact h.1.append (ih h.2)

theorem areNameLike_clauses {cs : List Clause}
    (h : ∀ c ∈ cs, AreNameLike (functionsInClause c) (classesInClause c)) :
    AreNameLike (functionsInClauses cs) (classesInClauses cs) := by
  induction cs with
  | nil => rw [functionsInClauses, classesInClauses]; exact areNameLike_nil
  | cons c cs ih =>
    rw [List.forall_mem_cons] at h
    rw [functionsInClauses, classesInClauses]
    exact h.1.append (ih h.2)

/-- A decorator leaves the name of its function or class as it is. -/
theorem areNameLike_decorate {d : Decorator} {s s' : Stmt} (h : AreNameLike (functionsIn s) (classesIn s))
    (hdecorate : s.decorate? d = some s') : AreNameLike (functionsIn s') (classesIn s') := by
  unfold Stmt.decorate? at hdecorate
  split at hdecorate
  · rw [areNameLike_function] at h
    split at hdecorate <;> · cases hdecorate; exact areNameLike_function.mpr h
  · rw [areNameLike_classDef] at h
    split at hdecorate <;> · cases hdecorate; exact areNameLike_classDef.mpr h
  · cases hdecorate

theorem areNameLike_suite {ending : LineEnd} {step : Option String} {body : List Stmt} {footer : List BlankLine}
    (h : ∀ s ∈ body, AreNameLike (functionsIn s) (classesIn s)) :
    AreNameLike (functionsInSuite (.block ending step body footer))
      (classesInSuite (.block ending step body footer)) := by
  rw [functionsInSuite, classesInSuite]
  exact areNameLike_body h

theorem isNameLike_of_namedBy {tokens : List Token} {name : Lexeme} (htokens : NamesAreNameLike tokens)
    (h : NamedBy tokens name) : IsNameLike name.text := by
  obtain ⟨t, ht, hkind, rfl⟩ := h
  exact htokens t ht hkind

theorem areNameLike_mk {head : ClauseHead} {suite : Suite}
    (h : AreNameLike (functionsInSuite suite) (classesInSuite suite)) :
    AreNameLike (functionsInClause (.mk head suite)) (classesInClause (.mk head suite)) := by
  rwa [functionsInClause, classesInClause]

/-- What is declared by lines bears names that are read from them. -/
theorem reads_areNameLike : Reads NamesAreNameLike (fun s => AreNameLike (functionsIn s) (classesIn s))
    (fun c => AreNameLike (functionsInClause c) (classesInClause c))
    fun suite => AreNameLike (functionsInSuite suite) (classesInSuite suite) where
  line leading items ending := by rw [functionsIn, classesIn]; exact areNameLike_nil
  inline blank items ending := by rw [functionsInSuite, classesInSuite]; exact areNameLike_nil
  opening := by
    intro r leading tokens found rest suite htokens hsuite hfound
    rcases opening_eq_some hfound with ⟨head, rfl, -, hname⟩ | ⟨head, rfl, hname⟩ | ⟨head, rfl, -⟩
    · exact areNameLike_function.mpr ⟨hsuite, isNameLike_of_namedBy htokens hname⟩
    · exact areNameLike_classDef.mpr ⟨hsuite, isNameLike_of_namedBy htokens hname⟩
    · exact areNameLike_mk hsuite
  clauseHead := by
    intro r leading asynchronous keywords tokens found rest suite htokens hsuite hfound
    obtain ⟨head, rfl, -⟩ := clauseHead_eq_some hfound
    exact areNameLike_mk hsuite
  decorate _ _ _ h hdecorate := areNameLike_decorate h hdecorate
  compound c others hc hothers := by
    rw [functionsIn, classesIn]
    exact hc.append (areNameLike_clauses hothers)
  block _ _ _ _ h := areNameLike_suite h

/-- The functions and classes of a module that has been read bear names without other signs. -/
theorem Syntax.Module.areNameLike_of_parse {source : String} {m : Module} (h : Module.parse? source = some m) :
    AreNameLike (functionsInBody m.body) (classesInBody m.body) := by
  refine areNameLike_body ?_
  -- the outermost lines are read as all others are, so the same facts serve for both
  refine reads_areNameLike.parse (reads_areNameLike.mono fun _ h => h.1) reads_areNameLike.toAssemblesTo
    reads_areNameLike.block ?_ ignoresSpace_namesAreNameLike (fun _ _ _ => trivial) h
    fun usual rows hrows => namesAreNameLike_rowsFrom hrows
  intro s leading hs
  rwa [functionsIn_setLeading, classesIn_setLeading]

end Stopwatch
