/-
  What is located in an instrumented module.

  Measuring a function leaves its head, whether it is a stub, and the number of its awaits;
  and the collector has neither an asynchronous function nor a guard for the main program.
  So what is located in a module is located in the instrumented one too, in the same order.
  Only the lines differ, and with them the marks that tell functions of one name apart.
-/
import Stopwatch.Proofs.Instrument.CollectorText
import Stopwatch.Proofs.Instrument.Located

namespace Stopwatch

open Syntax

/-! ## Awaits -/

section

variable {style : Style} {file indent : String} {line : Nat}

theorem bodyAwaits_append (a b : List Stmt) : bodyAwaits (a ++ b) = bodyAwaits a + bodyAwaits b := by
  induction a with
  | nil => rw [bodyAwaits, List.nil_append, Nat.zero_add]
  | cons s a ih => rw [List.cons_append, bodyAwaits, bodyAwaits, ih, Nat.add_assoc]

theorem bodyAwaits_orPass (body : List Stmt) : bodyAwaits (orPass body) = bodyAwaits body := by
  cases body with
  | nil => rfl
  | cons s body => rfl

/-- Nothing that measuring adds awaits. -/
theorem awaitCount_measuredSuite (function : String) (line : Nat) (file : String) (suite : Suite) :
    (measuredSuite function line file suite).awaitCount = suite.awaitCount := by
  have hbody (body : List Stmt) (footer : List BlankLine) :
      bodyAwaits (measuredBody function line file body footer) = bodyAwaits body := by
    have hguard : bodyAwaits [startStatement function,
          guardedStatement (orPass (splitDocstring body).2) footer (recordStatement function line file)] =
        bodyAwaits (orPass (splitDocstring body).2) := by
      simp [bodyAwaits, Stmt.awaitCount, startStatement, plainLine, guardedStatement, plainClause,
        Clause.awaitCount, clauseAwaits, Suite.awaitCount, recordStatement, itemAwaits, Small.awaitCount,
        Expr.awaitCount, collectorCall, collectorName]
    have hsplit : bodyAwaits body =
        bodyAwaits (splitDocstring body).1 + bodyAwaits (splitDocstring body).2 := by
      rw [← bodyAwaits_append, splitDocstring_append]
    rw [measuredBody, bodyAwaits_append, hguard, bodyAwaits_orPass, hsplit]
  cases suite with
  | block ending step body footer => rw [measuredSuite, Suite.awaitCount, hbody, Suite.awaitCount]
  | inline blank items ending =>
    rw [measuredSuite, Suite.awaitCount, hbody, Suite.awaitCount]
    simp [bodyAwaits, Stmt.awaitCount]

end

section

variable (style : Style) (file : String)

mutual

/-- Measuring changes no number of awaits. -/
theorem awaitCount_wrapStmt (indent : String) (line : Nat) (s : Stmt) :
    (wrapStmt style file indent line s).awaitCount = s.awaitCount := by
  match s with
  | .line .. => rw [wrapStmt]
  | .function head suite =>
    rw [wrapStmt, Stmt.awaitCount, Stmt.awaitCount]
    split
    · rw [awaitCount_measuredSuite, awaitCount_wrapSuite]
    · rw [awaitCount_wrapSuite]
  | .classDef head suite => rw [wrapStmt, Stmt.awaitCount, awaitCount_wrapSuite, Stmt.awaitCount]
  | .compound first others =>
    rw [wrapStmt, Stmt.awaitCount, awaitCount_wrapClause, awaitCount_wrapClauses, Stmt.awaitCount]

theorem awaitCount_wrapClause (indent : String) (line : Nat) (c : Clause) :
    (wrapClause style file indent line c).awaitCount = c.awaitCount := by
  match c with
  | .mk head suite => rw [wrapClause, Clause.awaitCount, awaitCount_wrapSuite, Clause.awaitCount]

theorem awaitCount_wrapClauses (indent : String) (line : Nat) (cs : List Clause) :
    clauseAwaits (wrapClauses style file indent line cs) = clauseAwaits cs := by
  match cs with
  | [] => rw [wrapClauses]
  | c :: cs =>
    rw [wrapClauses, clauseAwaits, awaitCount_wrapClause, awaitCount_wrapClauses, clauseAwaits]

theorem awaitCount_wrapSuite (indent : String) (line : Nat) (suite : Suite) :
    (wrapSuite style file indent line suite).awaitCount = suite.awaitCount := by
  match suite with
  | .block ending step body footer =>
    rw [wrapSuite, Suite.awaitCount, awaitCount_wrapBody, Suite.awaitCount]
  | .inline .. => rw [wrapSuite]

theorem awaitCount_wrapBody (indent : String) (line : Nat) (body : List Stmt) :
    bodyAwaits (wrapBody style file indent line body) = bodyAwaits body := by
  match body with
  | [] => rw [wrapBody]
  | s :: body => rw [wrapBody, bodyAwaits, awaitCount_wrapStmt, awaitCount_wrapBody, bodyAwaits]

end

end

/-! ## Located functions without their lines -/

/-- What is located of a function, except for its line. -/
structure Located where
  kind : DeclarationKind
  context : Option String
  head : FunctionHead
  isStub : Bool
  awaitCount : Nat
  column : Nat

/-- Whether a function is asynchronous. -/
def Located.isAsynchronous (d : Located) : Bool :=
  d.head.asynchronous.isSome

/-- A candidate without its line. -/
def Candidate.located (c : Candidate) : Located :=
  ⟨c.kind, c.context, c.head.withoutLeading, c.suite.isStub, c.suite.awaitCount, c.column⟩

/-- The function that a statement defines, without its line. -/
def locatedFunction? (indent : String) (kind : DeclarationKind) (context : Option String) :
    Stmt → Option Located
  | .function head suite =>
    some ⟨kind, context, head.withoutLeading, suite.isStub, suite.awaitCount, indent.length + 1⟩
  | _ => none

/-- The functions that a top-level statement defines, without their lines. -/
def locatedIn (style : Style) : Stmt → List Located
  | .classDef head (.block _ step body _) =>
    body.filterMap (locatedFunction? (deeper style "" step) head.kind (some head.name.text))
  | s => (locatedFunction? "" .function none s).toList

theorem map_located_functionCandidate (style : Style) (indent : String) (kind : DeclarationKind)
    (context : Option String) (line : Nat) (s : Stmt) :
    (functionCandidate? style indent kind context line s).map Candidate.located =
      locatedFunction? indent kind context s := by
  cases s <;> rfl

theorem filterMap_placed {f : Nat → Stmt → Option α} {g : Stmt → Option α} (h : ∀ line s, f line s = g s)
    (style : Style) (indent : String) (line : Nat) (body : List Stmt) :
    (placed style indent line body).filterMap (fun (line, s) => f line s) = body.filterMap g := by
  induction body generalizing line with
  | nil => rfl
  | cons s body ih =>
    rw [placed, List.filterMap_cons, List.filterMap_cons, ih]
    dsimp only
    rw [h]

/-- Where a statement stands does not matter for what is located in it, except for lines. -/
theorem map_located_candidatesOf (style : Style) (line : Nat) (s : Stmt) :
    (candidatesOf style line s).map Candidate.located = locatedIn style s := by
  cases s with
  | line leading items ending => rfl
  | function head suite => rfl
  | compound first others => rfl
  | classDef head suite =>
    cases suite with
    | inline blank items ending => rfl
    | block ending step body footer =>
      rw [candidatesOf, locatedIn, List.map_filterMap]
      exact filterMap_placed (fun line s => map_located_functionCandidate style _ _ _ line s) _ _ _ body

theorem map_located_candidates (m : Module) :
    m.candidates.map Candidate.located =
      (m.body.flatMap (locatedIn m.style)).filter Located.isAsynchronous := by
  have hplaced (line : Nat) (body : List Stmt) :
      ((placed m.style "" line body).flatMap fun (line, s) => candidatesOf m.style line s).map
        Candidate.located = body.flatMap (locatedIn m.style) := by
    induction body generalizing line with
    | nil => rfl
    | cons s body ih =>
      rw [placed, List.flatMap_cons, List.map_append, ih, map_located_candidatesOf, List.flatMap_cons]
  rw [Module.candidates, ← hplaced m.firstLine, List.filter_map]
  rfl

/-! ## Measuring -/

section

variable {style : Style} {file indent : String} {line : Nat}

/-- A function that is measured is no stub. -/
theorem isStub_measuredSuite (function : String) (line : Nat) (file : String) (suite : Suite) :
    (measuredSuite function line file suite).isStub = false := by
  cases suite with
  | block ending step body footer =>
    simp only [measuredSuite, Suite.isStub, Suite.statements, splitDocstring_measuredBody]
  | inline blank items ending =>
    simp only [measuredSuite, Suite.isStub, Suite.statements, splitDocstring_measuredBody]

/-- Measuring leaves what is located of a function. -/
theorem locatedFunction_wrapStmt (indent' : String) (kind : DeclarationKind) (context : Option String)
    (s : Stmt) :
    locatedFunction? indent' kind context (wrapStmt style file indent line s) =
      locatedFunction? indent' kind context s := by
  cases s with
  | line leading items ending => rw [wrapStmt_line]
  | classDef head suite => rw [wrapStmt]; rfl
  | compound first others => rw [wrapStmt]; rfl
  | function head suite =>
    rw [wrapStmt, locatedFunction?, locatedFunction?]
    split
    · rename_i hmeasured
      have hstub : suite.isStub = false := by
        rw [isMeasured, Bool.and_eq_true, Bool.not_eq_true'] at hmeasured
        exact hmeasured.2
      rw [isStub_measuredSuite, awaitCount_measuredSuite, awaitCount_wrapSuite, hstub]
    · rw [isStub_wrapSuite, awaitCount_wrapSuite]

theorem filterMap_wrapBody {f : Stmt → Option α} (hf : ∀ line s, f (wrapStmt style file indent line s) = f s)
    (body : List Stmt) : (wrapBody style file indent line body).filterMap f = body.filterMap f := by
  induction body generalizing line with
  | nil => rw [wrapBody_nil]
  | cons s body ih => rw [wrapBody_cons, List.filterMap_cons, List.filterMap_cons, hf, ih]

theorem map_wrapBody {f : Stmt → α} (hf : ∀ line s, f (wrapStmt style file indent line s) = f s)
    (body : List Stmt) : (wrapBody style file indent line body).map f = body.map f := by
  induction body generalizing line with
  | nil => rw [wrapBody_nil]
  | cons s body ih => rw [wrapBody_cons, List.map_cons, List.map_cons, hf, ih]

theorem locatedIn_wrapStmt (style : Style) (file : String) (line : Nat) (s : Stmt) :
    locatedIn style (wrapStmt style file "" line s) = locatedIn style s := by
  cases s with
  | line leading items ending => rw [wrapStmt_line]
  | function head suite =>
    have hfunction : locatedFunction? "" .function none (wrapStmt style file "" line (.function head suite)) =
        locatedFunction? "" .function none (.function head suite) := locatedFunction_wrapStmt _ _ _ _
    rw [wrapStmt] at hfunction ⊢
    exact congrArg Option.toList hfunction
  | compound first others => rw [wrapStmt]; rfl
  | classDef head suite =>
    cases suite with
    | inline blank items ending => rw [wrapStmt, wrapSuite]
    | block ending step body footer =>
      rw [wrapStmt, wrapSuite, locatedIn, locatedIn]
      exact filterMap_wrapBody (fun line s => locatedFunction_wrapStmt _ _ _ s) body

end

/-! ## Adding the collector -/

@[simp] theorem locatedIn_withoutLeading (style : Style) (s : Stmt) :
    locatedIn style s.withoutLeading = locatedIn style s := by
  cases s with
  | line _ items ending => rfl
  | function head suite => rfl
  | classDef head suite => cases suite <;> rfl
  | compound first others => cases first; rfl

@[simp] theorem isMainGuard_withoutLeading (s : Stmt) : s.withoutLeading.isMainGuard = s.isMainGuard :=
  isMainGuard_setLeading s []

theorem isMainGuard_wrapStmt {style : Style} {file indent : String} (line : Nat) (s : Stmt) :
    (wrapStmt style file indent line s).isMainGuard = s.isMainGuard := by
  cases s with
  | line leading items ending => rw [wrapStmt_line]
  | function head suite => rw [wrapStmt]; rfl
  | classDef head suite => rw [wrapStmt]; rfl
  | compound first others =>
    cases first
    rw [wrapStmt, wrapClause]
    rfl

/-- Whether there is a guard for the main program is asked statement by statement. -/
theorem hasMainGuard_append (a b : List Stmt) :
    hasMainGuard (a ++ b) = (do return (← hasMainGuard a) || (← hasMainGuard b)) := by
  induction a with
  | nil =>
    rw [List.nil_append, hasMainGuard]
    cases hasMainGuard b <;> rfl
  | cons s a ih =>
    rw [List.cons_append, hasMainGuard, hasMainGuard, ih]
    cases s.isMainGuard with
    | error fault => rfl
    | ok here =>
      cases hasMainGuard a with
      | error fault => rfl
      | ok later =>
        cases hasMainGuard b with
        | error fault => rfl
        | ok more => exact congrArg Except.ok (Bool.or_assoc here later more).symm

theorem hasMainGuard_congr {a b : List Stmt} (h : a.map Stmt.isMainGuard = b.map Stmt.isMainGuard) :
    hasMainGuard a = hasMainGuard b := by
  induction a generalizing b with
  | nil =>
    rw [List.map_nil, eq_comm, List.map_eq_nil_iff] at h
    rw [h]
  | cons s a ih =>
    cases b with
    | nil => cases h
    | cons t b =>
      rw [List.map_cons, List.map_cons, List.cons.injEq] at h
      rw [hasMainGuard, hasMainGuard, h.1, ih h.2]

theorem hasMainGuard_of_isPlain {body : List Stmt} (h : ∀ s ∈ body, s.IsPlain) : hasMainGuard body = .ok false := by
  induction body with
  | nil => rfl
  | cons s body ih =>
    rw [List.forall_mem_cons] at h
    rw [hasMainGuard, h.1.noGuard, ih h.2]
    rfl

/-- What is located in a statement is one of the functions in it. -/
theorem exists_function_of_mem_locatedIn {style : Style} {s : Stmt} {d : Located} (h : d ∈ locatedIn style s) :
    ∃ f ∈ functionsIn s, f.1 = d.head := by
  have hfunction {indent : String} {kind : DeclarationKind} {context : Option String} {s : Stmt}
      (h : locatedFunction? indent kind context s = some d) : ∃ f ∈ functionsIn s, f.1 = d.head := by
    cases s with
    | line leading items ending => cases h
    | classDef head suite => cases h
    | compound first others => cases h
    | function head suite =>
      cases h
      refine ⟨(head.withoutLeading, suite), ?_, rfl⟩
      rw [functionsIn]
      exact List.mem_append_right _ List.mem_cons_self
  unfold locatedIn at h
  split at h
  · rename_i head ending step body footer
    obtain ⟨member, hmember, hd⟩ := List.mem_filterMap.mp h
    obtain ⟨f, hf, hhead⟩ := hfunction hd
    refine ⟨f, ?_, hhead⟩
    rw [functionsIn, functionsInSuite, functionsInBody_eq]
    exact List.mem_flatMap.mpr ⟨member, hmember, hf⟩
  · exact hfunction (Option.mem_toList.mp h)

theorem asynchronous_of_isPlain {style : Style} {body : List Stmt} (h : ∀ s ∈ body, s.IsPlain) :
    (body.flatMap (locatedIn style)).filter Located.isAsynchronous = [] := by
  rw [List.filter_eq_nil_iff]
  intro d hd hasync
  obtain ⟨s, hs, hd⟩ := List.mem_flatMap.mp hd
  obtain ⟨f, hf, hhead⟩ := exists_function_of_mem_locatedIn hd
  have hnone := (h s hs).synchronous f hf
  rw [hhead] at hnone
  rw [Located.isAsynchronous, hnone] at hasync
  cases hasync

/-- The statements that give a module its collector are plain. -/
theorem isPlain_of_statements {origin : CollectorOrigin} (hnamed : origin.IsNamed) {added : List Stmt}
    (h : origin.statements? = some added) : ∀ s ∈ added, s.IsPlain := by
  cases origin with
  | definition =>
    rw [CollectorOrigin.statements?, Option.some_inj] at h
    rw [← h]
    exact isPlain_collectorStatements
  | importFrom moduleName =>
    rw [CollectorOrigin.statements?, importStatement_of_isModuleName hnamed] at h
    cases h
    rw [List.forall_mem_singleton]
    refine ⟨?_, rfl⟩
    simp [importLine, plainLine, functionsIn, AllSynchronous]
  | absent =>
    cases h
    simp

/-- Plain statements change neither what is located in a body nor whether it has a guard. -/
theorem located_insertStatements (style : Style) {added : List Stmt} (body : List Stmt) (h : ∀ s ∈ added, s.IsPlain) :
    ((insertStatements added body).flatMap (locatedIn style)).filter Located.isAsynchronous =
        (body.flatMap (locatedIn style)).filter Located.isAsynchronous ∧
      hasMainGuard (insertStatements added body) = hasMainGuard body := by
  refine ⟨?_, ?_⟩
  · have hbody : (body.flatMap (locatedIn style)).filter Located.isAsynchronous =
        ((preamble body ++ behindPreamble body).flatMap (locatedIn style)).filter Located.isAsynchronous := by
      rw [preamble_append]
    rw [List.flatMap_def, map_insertStatements (locatedIn_withoutLeading style), ← List.flatMap_def, hbody]
    simp only [List.flatMap_append, List.filter_append, asynchronous_of_isPlain h, List.nil_append]
  · have hbody : hasMainGuard body = hasMainGuard (preamble body ++ behindPreamble body) := by
      rw [preamble_append]
    rw [hasMainGuard_congr (map_insertStatements isMainGuard_withoutLeading added body), hbody,
      hasMainGuard_append, hasMainGuard_append, hasMainGuard_append, hasMainGuard_of_isPlain h]
    cases hasMainGuard (preamble body) with
    | error fault => rfl
    | ok here => cases hasMainGuard (behindPreamble body) <;> rfl

/-! ## Names -/

/-- A function is named by its context and its own name, perhaps with its line. -/
def AsyncFunction.IsQualifiedBy (context : Option String) (f : AsyncFunction) : Prop :=
  let plain := match context with
    | some context => context ++ "." ++ f.name
    | none => f.name
  f.qualifiedName = plain ∨ f.qualifiedName = plain ++ "@" ++ toString f.line

/-- Two functions that agree in everything but their lines. -/
structure AsyncFunction.Agrees (f f' : AsyncFunction) : Prop where
  name : f'.name = f.name
  kind : f'.kind = f.kind
  hasBody : f'.hasBody = f.hasBody
  awaitCount : f'.awaitCount = f.awaitCount
  column : f'.column = f.column
  qualifiedName : ∃ context, f.IsQualifiedBy context ∧ f'.IsQualifiedBy context

theorem isQualifiedBy_toFunction (c : Candidate) (seen : List String) :
    (c.toFunction (if seen.contains c.plainName then c.plainName ++ "@" ++ toString c.line
      else c.plainName)).IsQualifiedBy c.context := by
  split
  · exact Or.inr rfl
  · exact Or.inl rfl

/-- Candidates that differ only in their lines become functions that agree. -/
theorem agrees_nameCandidates {seen seen' : List String} {cs cs' : List Candidate}
    (h : cs'.map Candidate.located = cs.map Candidate.located) :
    List.Forall₂ AsyncFunction.Agrees (nameCandidates seen cs) (nameCandidates seen' cs') := by
  induction cs generalizing seen seen' cs' with
  | nil =>
    rw [List.map_nil, List.map_eq_nil_iff] at h
    rw [h]
    exact .nil
  | cons c cs ih =>
    cases cs' with
    | nil => cases h
    | cons c' cs' =>
      rw [List.map_cons, List.map_cons, List.cons.injEq] at h
      rw [nameCandidates, nameCandidates]
      refine .cons ?_ (ih h.2)
      have hlocated := h.1
      simp only [Candidate.located, Located.mk.injEq] at hlocated
      obtain ⟨hkind, hcontext, hhead, hstub, hawait, hcolumn⟩ := hlocated
      have hname : c'.head.withoutLeading.name = c.head.withoutLeading.name := congrArg FunctionHead.name hhead
      refine ⟨?_, hkind, ?_, ?_, hcolumn, c.context, isQualifiedBy_toFunction c seen, ?_⟩
      · exact congrArg Lexeme.text hname
      · exact congrArg (!·) hstub
      · show (if c'.suite.isStub then 0 else c'.suite.awaitCount) = if c.suite.isStub then 0 else c.suite.awaitCount
        rw [hstub, hawait]
      · rw [← hcontext]
        exact isQualifiedBy_toFunction c' seen'

/-! ## Whole modules -/

/-- What is located in a module is located in the instrumented module: the same functions in the
same order, with other lines, and an entry point if there was one. -/
theorem analyze_instrument (m : Module) (plan : Plan) (hnamed : plan.origin.IsNamed) {a : Analysis}
    (ha : m.analyze = .ok a) :
    ∃ m' a', m.instrument? plan = some m' ∧ m'.analyze = .ok a' ∧
      List.Forall₂ AsyncFunction.Agrees a.functions a'.functions ∧ a'.hasEntryPoint = a.hasEntryPoint := by
  obtain ⟨added, hadded⟩ := exists_statements hnamed
  have hplain := isPlain_of_statements hnamed hadded
  let body := wrapBody m.style plan.fileName "" m.firstLine m.body
  let m' : Module := { m with body := insertStatements added body }
  have hm' : m.instrument? plan = some m' := by rw [Module.instrument?, hadded, Option.map_some]
  obtain ⟨hlocated, hguard⟩ := located_insertStatements m.style body hplain
  have hwrapped : body.flatMap (locatedIn m.style) = m.body.flatMap (locatedIn m.style) := by
    rw [List.flatMap_def, map_wrapBody (fun line s => locatedIn_wrapStmt m.style plan.fileName line s),
      ← List.flatMap_def]
  have hcandidates : m'.candidates.map Candidate.located = m.candidates.map Candidate.located := by
    rw [map_located_candidates, map_located_candidates, ← hwrapped]
    exact hlocated
  have hsame : hasMainGuard m'.body = hasMainGuard m.body :=
    hguard.trans (hasMainGuard_congr (map_wrapBody (fun line s => isMainGuard_wrapStmt line s) m.body))
  rw [Module.analyze] at ha
  cases hentry : hasMainGuard m.body with
  | error fault => rw [hentry] at ha; cases ha
  | ok hasEntryPoint =>
    rw [hentry] at ha
    cases ha
    refine ⟨m', ⟨nameCandidates [] m'.candidates, hasEntryPoint⟩, hm', ?_, agrees_nameCandidates hcandidates, rfl⟩
    rw [Module.analyze, hsame, hentry]
    rfl

/-- The outer one of two nested functions is located before and after it is measured. -/
theorem analyze_instrument_nested :
    CollectorOrigin.IsNamed .definition ∧
      (moduleOf [nestedFunctions]).analyze = .ok ⟨[⟨"outer", "outer", 0, 1, 1, .function, true⟩], false⟩ ∧
      ∃ m' a', (moduleOf [nestedFunctions]).instrument? ⟨"m.py", .definition⟩ = some m' ∧
        m'.analyze = .ok a' ∧
        List.Forall₂ AsyncFunction.Agrees [⟨"outer", "outer", 0, 1, 1, .function, true⟩] a'.functions ∧
        a'.hasEntryPoint = false := by
  have hanalyze : (moduleOf [nestedFunctions]).analyze =
      .ok ⟨[⟨"outer", "outer", 0, 1, 1, .function, true⟩], false⟩ := rfl
  exact ⟨trivial, hanalyze, analyze_instrument (moduleOf [nestedFunctions]) ⟨"m.py", .definition⟩ trivial hanalyze⟩

end Stopwatch
