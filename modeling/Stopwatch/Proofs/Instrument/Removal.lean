/-
  Taking the measuring out of a module again.

  The statements of the collector stand together behind the preamble, and the statement
  behind them has two more empty lines in front.  In a function that is measured, the start
  of the clock and the `try` are told from all other statements by the name of the collector.
  Where a module does not use this name itself, nothing else is taken out, and the module
  comes back.  Two things stay: a suite on the line of its colon has become a block, and a
  block that held only a docstring has a `pass`.
-/
import Stopwatch.Proofs.Instrument.Located

namespace Stopwatch

open Syntax

/-! ## What is taken out -/

/-- Whether a statement starts the clock for a call of a function. -/
def Syntax.Stmt.isStart (function : String) : Stmt → Bool
  | .line [] [⟨.other (.phrase [.name clockName, .token sign,
      .call (.attribute (.name collector) _ method) _ [] _]), none⟩] _ =>
    clockName.text = startName function && sign.text = "=" &&
      collector.text = Collector.markerName && method.text = "clock"
  | _ => false

/-- Whether a statement records a call. -/
def Syntax.Stmt.isRecord : Stmt → Bool
  | .line [] [⟨.expr (.call (.attribute (.name collector) _ method) _ _ _), none⟩] _ =>
    collector.text = Collector.markerName && method.text = "record"
  | _ => false

/-- What a `try` keeps whose `finally` does nothing but record a call. -/
def Syntax.Stmt.guarded? : Stmt → Option (List Stmt × List BlankLine)
  | .compound (.mk first (.block _ _ kept footer)) [.mk last (.block _ _ [record] _)] =>
    if first.keyword.text = "try" && last.keyword.text = "finally" && record.isRecord then
      some (kept, footer)
    else none
  | _ => none

/-- The suite of a function without the start of the clock and the `try`, if it consists of them
and perhaps a docstring. -/
def Syntax.Suite.released (function : String) : Suite → Suite
  | .block ending step body footer =>
    match splitDocstring body with
    | (docstring, [start, guard]) =>
      match start.isStart function, guard.guarded? with
      | true, some (kept, inner) => .block ending step (docstring ++ kept) (inner ++ footer)
      | _, _ => .block ending step body footer
    | _ => .block ending step body footer
  | .inline blank items ending => .inline blank items ending

mutual

/-- A statement without the measuring of the functions in it. -/
def unwrapStmt : Stmt → Stmt
  | .line leading items ending => .line leading items ending
  | .function head suite => .function head ((unwrapSuite suite).released head.name.text)
  | .classDef head suite => .classDef head (unwrapSuite suite)
  | .compound first others => .compound (unwrapClause first) (unwrapClauses others)

/-- A clause without the measuring of the functions in it. -/
def unwrapClause : Clause → Clause
  | .mk head suite => .mk head (unwrapSuite suite)

/-- Clauses without the measuring of the functions in them. -/
def unwrapClauses : List Clause → List Clause
  | [] => []
  | c :: cs => unwrapClause c :: unwrapClauses cs

/-- A suite without the measuring of the functions in it. -/
def unwrapSuite : Suite → Suite
  | .block ending step body footer => .block ending step (unwrapBody body) footer
  | .inline blank items ending => .inline blank items ending

/-- Statements without the measuring of the functions in them. -/
def unwrapBody : List Stmt → List Stmt
  | [] => []
  | s :: ss => unwrapStmt s :: unwrapBody ss

end

/-- A statement without two of the lines in front of it. -/
def rejoin (s : Stmt) : Stmt :=
  s.setLeading (s.leading.drop 2)

/-- Takes out `count` statements at a place, and two lines in front of what follows them. -/
def removeStatements (place count : Nat) (body : List Stmt) : List Stmt :=
  if count = 0 then body else body.take place ++ mapFirst rejoin (body.drop (place + count))

/-! ## What stays -/

/-- Statements that are not only a docstring. -/
def withPass (body : List Stmt) : List Stmt :=
  (splitDocstring body).1 ++ orPass (splitDocstring body).2

/-- A suite as a block of statements that are not only a docstring. -/
def Syntax.Suite.writtenOut : Suite → Suite
  | .block ending step body footer => .block ending step (withPass body) footer
  | .inline _ items ending => .block ending none (withPass [.line [] items .plain]) []

mutual

/-- A statement in which the suites of all functions that are measured are written out. -/
def expandStmt : Stmt → Stmt
  | .line leading items ending => .line leading items ending
  | .function head suite =>
    .function head (if isMeasured head suite then (expandSuite suite).writtenOut else expandSuite suite)
  | .classDef head suite => .classDef head (expandSuite suite)
  | .compound first others => .compound (expandClause first) (expandClauses others)

/-- A clause in which the suites of all functions that are measured are written out. -/
def expandClause : Clause → Clause
  | .mk head suite => .mk head (expandSuite suite)

/-- Clauses in which the suites of all functions that are measured are written out. -/
def expandClauses : List Clause → List Clause
  | [] => []
  | c :: cs => expandClause c :: expandClauses cs

/-- A suite in which the suites of all functions that are measured are written out. -/
def expandSuite : Suite → Suite
  | .block ending step body footer => .block ending step (expandBody body) footer
  | .inline blank items ending => .inline blank items ending

/-- Statements in which the suites of all functions that are measured are written out. -/
def expandBody : List Stmt → List Stmt
  | [] => []
  | s :: ss => expandStmt s :: expandBody ss

end

/-! ## Tokens -/

mutual

/-- The tokens of a statement. -/
def Syntax.Stmt.lexemes : Stmt → List Lexeme
  | .line _ items _ => items.flatMap fun i => i.statement.lexemes
  | .function head suite =>
    head.decorators.flatMap (fun d => d.value.lexemes) ++ (head.lexemes ++ suite.lexemes)
  | .classDef head suite =>
    head.decorators.flatMap (fun d => d.value.lexemes) ++ (head.lexemes ++ suite.lexemes)
  | .compound first others => first.lexemes ++ lexemesOfClauses others

/-- The tokens of a clause. -/
def Syntax.Clause.lexemes : Clause → List Lexeme
  | .mk head suite => head.lexemes ++ suite.lexemes

/-- The tokens of clauses. -/
def lexemesOfClauses : List Clause → List Lexeme
  | [] => []
  | c :: cs => c.lexemes ++ lexemesOfClauses cs

/-- The tokens of a suite. -/
def Syntax.Suite.lexemes : Suite → List Lexeme
  | .block _ _ body _ => lexemesOfBody body
  | .inline _ items _ => items.flatMap fun i => i.statement.lexemes

/-- The tokens of statements. -/
def lexemesOfBody : List Stmt → List Lexeme
  | [] => []
  | s :: ss => s.lexemes ++ lexemesOfBody ss

end

/-- Whether some tokens do not name the collector. -/
def Unmarked (ls : List Lexeme) : Prop :=
  ∀ l ∈ ls, l.text ≠ Collector.markerName

@[simp] theorem unmarked_append {a b : List Lexeme} : Unmarked (a ++ b) ↔ Unmarked a ∧ Unmarked b := by
  simp [Unmarked, or_imp, forall_and]

/-- The clock is started with the name of the collector. -/
theorem isStart_of_unmarked {s : Stmt} (h : Unmarked s.lexemes) (function : String) :
    s.isStart function = false := by
  unfold Stmt.isStart
  split
  · rename_i clockName sign collector dot method opening closing ending
    have hname : collector.text ≠ Collector.markerName := by
      apply h
      simp [Stmt.lexemes, Small.lexemes, Expr.lexemes]
    simp [hname]
  · rfl

/-! ## One function -/

theorem isStart_startStatement (function : String) : (startStatement function).isStart function = true := by
  simp [startStatement, plainLine, Stmt.isStart, collectorCall, collectorName, Lexeme.bare, Lexeme.spaced]

theorem guarded_guardedStatement (kept : List Stmt) (footer : List BlankLine) (function : String) (line : Nat)
    (file : String) :
    (guardedStatement kept footer (recordStatement function line file)).guarded? = some (kept, footer) := by
  rfl

/-- Releasing takes out what measuring has put in. -/
theorem released_measuredSuite (function : String) (line : Nat) (file : String) (suite : Suite) :
    (measuredSuite function line file suite).released function = suite.writtenOut := by
  cases suite with
  | block ending step body footer =>
    simp only [measuredSuite, Suite.released, splitDocstring_measuredBody, isStart_startStatement, guarded_guardedStatement,
      List.append_nil]
    rfl
  | inline blank items ending =>
    simp only [measuredSuite, Suite.released, splitDocstring_measuredBody, isStart_startStatement, guarded_guardedStatement,
      List.append_nil]
    rfl

/-- Nothing is released where the clock is not started. -/
theorem released_of_isStart {suite : Suite} {function : String}
    (h : ∀ s ∈ suite.statements, s.isStart function = false) : suite.released function = suite := by
  cases suite with
  | inline blank items ending => rfl
  | block ending step body footer =>
    unfold Suite.released
    dsimp only
    split
    · rename_i docstring start guard hsplit
      have hstart : start ∈ body := by
        rw [← splitDocstring_append body, hsplit]
        simp
      rw [h start hstart]
    · rfl

/-! ## Bodies -/

theorem unwrapBody_append (a b : List Stmt) : unwrapBody (a ++ b) = unwrapBody a ++ unwrapBody b := by
  induction a with
  | nil => rw [unwrapBody, List.nil_append, List.nil_append]
  | cons s a ih => rw [List.cons_append, unwrapBody, unwrapBody, ih, List.cons_append]

@[simp] theorem unwrapStmt_line (leading : List BlankLine) (items : List Item) (ending : LineEnd) :
    unwrapStmt (.line leading items ending) = .line leading items ending := by
  rw [unwrapStmt]

theorem isDocstring_unwrapStmt (s : Stmt) : (unwrapStmt s).isDocstring = s.isDocstring := by
  cases s with
  | line leading items ending => rw [unwrapStmt_line]
  | function head suite => rw [unwrapStmt]; rfl
  | classDef head suite => rw [unwrapStmt]; rfl
  | compound first others => rw [unwrapStmt]; rfl

/-- The docstring stays in front of a body from which measuring is taken out. -/
theorem splitDocstring_unwrapBody (body : List Stmt) :
    splitDocstring (unwrapBody body) = ((splitDocstring body).1, unwrapBody (splitDocstring body).2) := by
  cases body with
  | nil => rw [unwrapBody]; rfl
  | cons s body =>
    rw [unwrapBody, splitDocstring, splitDocstring, isDocstring_unwrapStmt]
    split
    · rename_i hdoc
      obtain ⟨leading, items, ending, rfl⟩ := exists_line_of_isDocstring hdoc
      rw [unwrapStmt_line]
    · rw [unwrapBody]

theorem unwrapBody_orPass (body : List Stmt) : unwrapBody (orPass body) = orPass (unwrapBody body) := by
  cases body with
  | nil => rfl
  | cons s body =>
    show unwrapBody (s :: body) = orPass (unwrapBody (s :: body))
    rw [unwrapBody]
    rfl

/-- Taking measuring out of the functions in a function leaves its own measuring. -/
theorem unwrapSuite_measuredSuite (function : String) (line : Nat) (file : String) (suite : Suite) :
    unwrapSuite (measuredSuite function line file suite) =
      measuredSuite function line file (unwrapSuite suite) := by
  have hbody (body : List Stmt) (footer : List BlankLine) :
      unwrapBody (measuredBody function line file body footer) =
        measuredBody function line file (unwrapBody body) footer := by
    have hdoc : unwrapBody (splitDocstring body).1 = (splitDocstring body).1 := by
      cases body with
      | nil => rw [splitDocstring, unwrapBody]
      | cons s body =>
        rw [splitDocstring]
        split
        · rename_i hdoc
          obtain ⟨leading, items, ending, rfl⟩ := exists_line_of_isDocstring hdoc
          simp [unwrapBody]
        · rw [unwrapBody]
    have hguard : unwrapBody [startStatement function, guardedStatement (orPass (splitDocstring body).2) footer
          (recordStatement function line file)] =
        [startStatement function, guardedStatement (unwrapBody (orPass (splitDocstring body).2)) footer
          (recordStatement function line file)] := by
      simp [unwrapBody, unwrapStmt, startStatement, plainLine, guardedStatement, plainClause, unwrapClause,
        unwrapClauses, unwrapSuite, recordStatement]
    rw [measuredBody, measuredBody, splitDocstring_unwrapBody]
    dsimp only
    rw [unwrapBody_append, hdoc, hguard, unwrapBody_orPass]
  cases suite with
  | block ending step body footer => rw [measuredSuite, unwrapSuite, hbody, unwrapSuite, measuredSuite]
  | inline blank items ending =>
    rw [measuredSuite, unwrapSuite, hbody, unwrapSuite, measuredSuite]
    simp [unwrapBody]

theorem isStart_expandStmt (s : Stmt) (function : String) :
    (expandStmt s).isStart function = s.isStart function := by
  cases s with
  | line leading items ending => rw [expandStmt]
  | function head suite => rw [expandStmt]; rfl
  | classDef head suite => rw [expandStmt]; rfl
  | compound first others => rw [expandStmt]; rfl

theorem isStart_of_mem_expandBody {body : List Stmt} (h : Unmarked (lexemesOfBody body)) (function : String)
    {s : Stmt} (hs : s ∈ expandBody body) : s.isStart function = false := by
  induction body with
  | nil => rw [expandBody] at hs; cases hs
  | cons first body ih =>
    rw [lexemesOfBody, unmarked_append] at h
    rw [expandBody, List.mem_cons] at hs
    rcases hs with rfl | hs
    · rw [isStart_expandStmt]
      exact isStart_of_unmarked h.1 function
    · exact ih h.2 hs

/-- Nothing is released from a suite that does not name the collector. -/
theorem released_expandSuite {suite : Suite} (h : Unmarked suite.lexemes) (function : String) :
    (expandSuite suite).released function = expandSuite suite := by
  apply released_of_isStart
  cases suite with
  | block ending step body footer =>
    rw [Suite.lexemes] at h
    rw [expandSuite]
    intro s hs
    exact isStart_of_mem_expandBody h function hs
  | inline blank items ending =>
    rw [expandSuite]
    intro s hs
    rw [List.mem_singleton.mp hs]
    apply isStart_of_unmarked
    rw [Suite.lexemes] at h
    rwa [Stmt.lexemes]

/-! ## The whole tree -/

section

variable (style : Style) (file : String)

mutual

/-- Where the collector is not named, taking measuring out undoes putting it in. -/
theorem unwrapStmt_wrapStmt (indent : String) (line : Nat) (s : Stmt) (h : Unmarked s.lexemes) :
    unwrapStmt (wrapStmt style file indent line s) = expandStmt s := by
  match s with
  | .line .. => rw [wrapStmt_line, unwrapStmt_line, expandStmt]
  | .function head suite =>
    rw [Stmt.lexemes, unmarked_append, unmarked_append] at h
    rw [wrapStmt, unwrapStmt, expandStmt]
    congr 1
    split
    · -- The functions inside come back first, so that the measuring of this one stands open.
      rw [unwrapSuite_measuredSuite, unwrapSuite_wrapSuite indent _ suite h.2.2, released_measuredSuite]
    · rw [unwrapSuite_wrapSuite indent _ suite h.2.2]
      exact released_expandSuite h.2.2 head.name.text
  | .classDef head suite =>
    rw [Stmt.lexemes, unmarked_append, unmarked_append] at h
    rw [wrapStmt, unwrapStmt, expandStmt, unwrapSuite_wrapSuite indent _ suite h.2.2]
  | .compound first others =>
    rw [Stmt.lexemes, unmarked_append] at h
    rw [wrapStmt, unwrapStmt, expandStmt, unwrapClause_wrapClause indent line first h.1,
      unwrapClauses_wrapClauses indent _ others h.2]

theorem unwrapClause_wrapClause (indent : String) (line : Nat) (c : Clause) (h : Unmarked c.lexemes) :
    unwrapClause (wrapClause style file indent line c) = expandClause c := by
  match c with
  | .mk head suite =>
    rw [Clause.lexemes, unmarked_append] at h
    rw [wrapClause, unwrapClause, expandClause, unwrapSuite_wrapSuite indent _ suite h.2]

theorem unwrapClauses_wrapClauses (indent : String) (line : Nat) (cs : List Clause)
    (h : Unmarked (lexemesOfClauses cs)) :
    unwrapClauses (wrapClauses style file indent line cs) = expandClauses cs := by
  match cs with
  | [] => rw [wrapClauses, unwrapClauses, expandClauses]
  | c :: cs =>
    rw [lexemesOfClauses, unmarked_append] at h
    rw [wrapClauses, unwrapClauses, expandClauses, unwrapClause_wrapClause indent line c h.1,
      unwrapClauses_wrapClauses indent _ cs h.2]

theorem unwrapSuite_wrapSuite (indent : String) (line : Nat) (suite : Suite) (h : Unmarked suite.lexemes) :
    unwrapSuite (wrapSuite style file indent line suite) = expandSuite suite := by
  match suite with
  | .block ending step body footer =>
    rw [Suite.lexemes] at h
    rw [wrapSuite, unwrapSuite, expandSuite, unwrapBody_wrapBody _ _ body h]
  | .inline .. => rw [wrapSuite, unwrapSuite, expandSuite]

theorem unwrapBody_wrapBody (indent : String) (line : Nat) (body : List Stmt)
    (h : Unmarked (lexemesOfBody body)) :
    unwrapBody (wrapBody style file indent line body) = expandBody body := by
  match body with
  | [] => rw [wrapBody, unwrapBody, expandBody]
  | s :: body =>
    rw [lexemesOfBody, unmarked_append] at h
    rw [wrapBody, unwrapBody, expandBody, unwrapStmt_wrapStmt indent line s h.1,
      unwrapBody_wrapBody indent _ body h.2]

end

end

/-! ## Whole modules -/

theorem leading_setLeading (s : Stmt) (leading : List BlankLine) : (s.setLeading leading).leading = leading := by
  cases s with
  | line _ items ending => rfl
  | function head suite => rfl
  | classDef head suite => rfl
  | compound first others => cases first; rfl

theorem setLeading_setLeading (s : Stmt) (first second : List BlankLine) :
    (s.setLeading first).setLeading second = s.setLeading second := by
  cases s with
  | line _ items ending => rfl
  | function head suite => rfl
  | classDef head suite => rfl
  | compound c others => cases c; rfl

theorem setLeading_leading (s : Stmt) : s.setLeading s.leading = s := by
  cases s with
  | line _ items ending => rfl
  | function head suite => rfl
  | classDef head suite => rfl
  | compound c others => cases c; rfl

theorem rejoin_setApart (s : Stmt) : rejoin (setApart s) = s := by
  rw [rejoin, setApart, leading_setLeading, setLeading_setLeading]
  exact setLeading_leading s

theorem mapFirst_rejoin (body : List Stmt) : mapFirst rejoin (mapFirst setApart body) = body := by
  cases body with
  | nil => rfl
  | cons s body =>
    show rejoin (setApart s) :: body = s :: body
    rw [rejoin_setApart]

theorem length_announced (preamble added : List Stmt) : (announced preamble added).length = added.length := by
  rw [announced]
  split
  · rfl
  · cases added <;> rfl

/-- What is added to a body stands behind its preamble. -/
theorem take_drop_insertStatements (added body : List Stmt) :
    (((insertStatements added body).drop (preamble body).length).take added.length).map Stmt.withoutLeading =
      added.map Stmt.withoutLeading := by
  cases hadded : added with
  | nil => simp
  | cons first others =>
    rw [← hadded, insertStatements_eq (by simp [hadded]), List.drop_left,
      ← length_announced (preamble body) added, List.take_left, map_withoutLeading_announced]

theorem removeStatements_insertStatements (added body : List Stmt) :
    removeStatements (preamble body).length added.length (insertStatements added body) = body := by
  rw [removeStatements]
  cases hadded : added with
  | nil => rw [List.length_nil, if_pos rfl]; rfl
  | cons first others =>
    rw [← hadded, if_neg (by simp [hadded]), insertStatements_eq (by simp [hadded]), List.take_left,
      ← length_announced (preamble body) added, ← List.length_append, ← List.append_assoc,
      List.drop_left, mapFirst_rejoin, preamble_append]

theorem length_preamble_wrapBody {style : Style} {file indent : String} {line : Nat} (body : List Stmt) :
    (preamble (wrapBody style file indent line body)).length = (preamble body).length := by
  have htake (line : Nat) (body : List Stmt) :
      ((wrapBody style file indent line body).takeWhile Stmt.isFutureImport).length =
        (body.takeWhile Stmt.isFutureImport).length := by
    induction body generalizing line with
    | nil => rw [wrapBody_nil]
    | cons s body ih =>
      rw [wrapBody_cons, List.takeWhile_cons, List.takeWhile_cons, isFutureImport_wrapStmt]
      split
      · rw [List.length_cons, List.length_cons, ih]
      · rfl
  obtain ⟨line', hsplit⟩ := splitDocstring_wrapBody style file indent line body
  rw [preamble_eq, preamble_eq, hsplit, List.length_append, List.length_append, htake]

/-- The module that comes back when the collector and all measuring are taken out of an
instrumented one: the module itself, with the suites of measured functions written out. -/
theorem unwrapBody_instrument (m : Module) (plan : Plan) (hnamed : plan.origin.IsNamed)
    (hunmarked : Unmarked (lexemesOfBody m.body)) :
    ∃ added m', plan.origin.statements? = some added ∧ m.instrument? plan = some m' ∧
      ((m'.body.drop (preamble m.body).length).take added.length).map Stmt.withoutLeading =
        added.map Stmt.withoutLeading ∧
      { m' with body := unwrapBody (removeStatements (preamble m.body).length added.length m'.body) } =
        { m with body := expandBody m.body } := by
  obtain ⟨added, hadded⟩ := exists_statements hnamed
  let body := wrapBody m.style plan.fileName "" m.firstLine m.body
  have hplace : (preamble m.body).length = (preamble body).length := (length_preamble_wrapBody m.body).symm
  refine ⟨added, { m with body := insertStatements added body }, hadded, ?_, ?_, ?_⟩
  · rw [Module.instrument?, hadded, Option.map_some]
  · rw [hplace]
    exact take_drop_insertStatements added body
  · rw [hplace]
    show { m with body := unwrapBody (removeStatements _ _ (insertStatements added body)) } = _
    rw [removeStatements_insertStatements, unwrapBody_wrapBody m.style plan.fileName "" _ m.body hunmarked]

/-- The collector and the measuring are taken out of a module with a function in a function, of
which the inner one is a stub. -/
theorem unwrapBody_instrument_nested :
    CollectorOrigin.IsNamed (.importFrom Collector.moduleName) ∧
      Unmarked (lexemesOfBody [nestedFunctions]) ∧
      ∃ added m', (CollectorOrigin.importFrom Collector.moduleName).statements? = some added ∧
        (moduleOf [nestedFunctions]).instrument? ⟨"m.py", .importFrom Collector.moduleName⟩ = some m' ∧
        { m' with body := unwrapBody (removeStatements 0 added.length m'.body) } =
          moduleOf [nestedFunctions] := by
  have hunmarked : Unmarked (lexemesOfBody [nestedFunctions]) := by
    unfold Unmarked
    decide
  refine ⟨isNamed_moduleName, hunmarked, ?_⟩
  obtain ⟨added, m', hadded, hm', -, hbody⟩ := unwrapBody_instrument (moduleOf [nestedFunctions])
    ⟨"m.py", .importFrom Collector.moduleName⟩ isNamed_moduleName hunmarked
  exact ⟨added, m', hadded, hm', hbody⟩

end Stopwatch
