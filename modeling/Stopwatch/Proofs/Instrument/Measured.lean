/-
  How the functions of a module are measured.

  Outside of functions nothing changes.  Each asynchronous function with a body comes out
  with one statement that starts the clock and one call that records, which stands in the
  `finally` of a `try` around all its statements but the docstring.  All other functions
  keep their statements, and stubs are left as they are.
-/
import Stopwatch.Proofs.Instrument.Insertion
import Stopwatch.Proofs.Instrument.Sites
import Stopwatch.Proofs.Number.Written
import Stopwatch.Proofs.Text.Quoted

namespace Stopwatch

open Syntax

/-! ## Statements without what is in functions -/

mutual

/-- A statement in which the suites of all functions are left out. -/
def Syntax.Stmt.hollow : Stmt → Stmt
  | .line leading items ending => .line leading items ending
  | .function head _ => .function head (.inline "" [] .plain)
  | .classDef head suite => .classDef head suite.hollow
  | .compound first others => .compound first.hollow (hollowClauses others)

/-- A clause in which the suites of all functions are left out. -/
def Syntax.Clause.hollow : Clause → Clause
  | .mk head suite => .mk head suite.hollow

/-- Clauses in which the suites of all functions are left out. -/
def hollowClauses : List Clause → List Clause
  | [] => []
  | c :: cs => c.hollow :: hollowClauses cs

/-- A suite in which the suites of all functions are left out. -/
def Syntax.Suite.hollow : Suite → Suite
  | .block ending step body footer => .block ending step (hollowBody body) footer
  | .inline blank items ending => .inline blank items ending

/-- Statements in which the suites of all functions are left out. -/
def hollowBody : List Stmt → List Stmt
  | [] => []
  | s :: ss => s.hollow :: hollowBody ss

end

section

variable (style : Style) (file : String)

mutual

/-- Wrapping changes nothing outside of functions. -/
theorem hollow_wrapStmt (indent : String) (line : Nat) (s : Stmt) :
    (wrapStmt style file indent line s).hollow = s.hollow := by
  match s with
  | .line .. => rw [wrapStmt]
  | .function head suite => rw [wrapStmt, Stmt.hollow, Stmt.hollow]
  | .classDef head suite => rw [wrapStmt, Stmt.hollow, hollow_wrapSuite, Stmt.hollow]
  | .compound first others =>
    rw [wrapStmt, Stmt.hollow, hollow_wrapClause, hollow_wrapClauses, Stmt.hollow]

theorem hollow_wrapClause (indent : String) (line : Nat) (c : Clause) :
    (wrapClause style file indent line c).hollow = c.hollow := by
  match c with
  | .mk head suite => rw [wrapClause, Clause.hollow, hollow_wrapSuite, Clause.hollow]

theorem hollow_wrapClauses (indent : String) (line : Nat) (cs : List Clause) :
    hollowClauses (wrapClauses style file indent line cs) = hollowClauses cs := by
  match cs with
  | [] => rw [wrapClauses]
  | c :: cs => rw [wrapClauses, hollowClauses, hollow_wrapClause, hollow_wrapClauses, hollowClauses]

theorem hollow_wrapSuite (indent : String) (line : Nat) (suite : Suite) :
    (wrapSuite style file indent line suite).hollow = suite.hollow := by
  match suite with
  | .block ending step body footer => rw [wrapSuite, Suite.hollow, hollow_wrapBody, Suite.hollow]
  | .inline .. => rw [wrapSuite]

theorem hollow_wrapBody (indent : String) (line : Nat) (body : List Stmt) :
    hollowBody (wrapBody style file indent line body) = hollowBody body := by
  match body with
  | [] => rw [wrapBody]
  | s :: body => rw [wrapBody, hollowBody, hollow_wrapStmt, hollow_wrapBody, hollowBody]

end

end

/-! ## The functions that come out -/

/-- The head of a function without the lines in front of it. -/
def Syntax.FunctionHead.withoutLeading (h : FunctionHead) : FunctionHead :=
  { h with leading := [] }

mutual

/-- The functions in a statement, inner ones first, with their heads and suites. -/
def functionsIn : Stmt → List (FunctionHead × Suite)
  | .line .. => []
  | .function head suite => functionsInSuite suite ++ [(head.withoutLeading, suite)]
  | .classDef _ suite => functionsInSuite suite
  | .compound first others => functionsInClause first ++ functionsInClauses others

/-- The functions in a clause. -/
def functionsInClause : Clause → List (FunctionHead × Suite)
  | .mk _ suite => functionsInSuite suite

/-- The functions in clauses. -/
def functionsInClauses : List Clause → List (FunctionHead × Suite)
  | [] => []
  | c :: cs => functionsInClause c ++ functionsInClauses cs

/-- The functions in a suite. -/
def functionsInSuite : Suite → List (FunctionHead × Suite)
  | .block _ _ body _ => functionsInBody body
  | .inline .. => []

/-- The functions in statements. -/
def functionsInBody : List Stmt → List (FunctionHead × Suite)
  | [] => []
  | s :: ss => functionsIn s ++ functionsInBody ss

end

theorem functionsInBody_eq (body : List Stmt) : functionsInBody body = body.flatMap functionsIn := by
  induction body with
  | nil => rw [functionsInBody, List.flatMap_nil]
  | cons s body ih => rw [functionsInBody, ih, List.flatMap_cons]

@[simp] theorem functionsInBody_append (a b : List Stmt) :
    functionsInBody (a ++ b) = functionsInBody a ++ functionsInBody b := by
  simp only [functionsInBody_eq, List.flatMap_append]

@[simp] theorem functionsIn_withoutLeading (s : Stmt) : functionsIn s.withoutLeading = functionsIn s := by
  cases s with
  | line _ items ending => rfl
  | function head suite => simp [Stmt.withoutLeading, Stmt.setLeading, functionsIn, FunctionHead.withoutLeading]
  | classDef head suite => simp [Stmt.withoutLeading, Stmt.setLeading, functionsIn]
  | compound first others =>
    cases first
    simp [Stmt.withoutLeading, Stmt.setLeading, functionsIn, functionsInClause]

@[simp] theorem functionsIn_setLeading (s : Stmt) (leading : List BlankLine) :
    functionsIn (s.setLeading leading) = functionsIn s := by
  rw [← functionsIn_withoutLeading, withoutLeading_setLeading, functionsIn_withoutLeading]

/-- Which functions are among some statements does not depend on the lines in front of these. -/
theorem functionsInBody_of_withoutLeading {a b : List Stmt}
    (h : a.map Stmt.withoutLeading = b.map Stmt.withoutLeading) : functionsInBody a = functionsInBody b := by
  rw [functionsInBody_eq, functionsInBody_eq, List.flatMap_def, List.flatMap_def,
    map_eq_of_withoutLeading functionsIn_withoutLeading h]

/-! ## One function -/

/-- A suite as a block: what stands on the line of the colon becomes a line of its own. -/
def Syntax.Suite.asBlock : Suite → Suite
  | .block ending step body footer => .block ending step body footer
  | .inline _ items ending => .block ending none [.line [] items .plain] []

theorem exists_asBlock (suite : Suite) :
    ∃ ending step body footer, suite.asBlock = .block ending step body footer := by
  cases suite with
  | block ending step body footer => exact ⟨ending, step, body, footer, rfl⟩
  | inline blank items ending => exact ⟨ending, none, [.line [] items .plain], [], rfl⟩

/-- Whether a body starts with a docstring can be seen from the docstring alone. -/
theorem splitDocstring_append_of_not_isDocstring {body : List Stmt} {s : Stmt} (hs : s.isDocstring = false)
    (rest : List Stmt) :
    splitDocstring ((splitDocstring body).1 ++ s :: rest) = ((splitDocstring body).1, s :: rest) := by
  cases body with
  | nil => simp [splitDocstring, hs]
  | cons first body =>
    rw [splitDocstring]
    split
    · rename_i hdoc
      rw [List.singleton_append, splitDocstring, if_pos hdoc]
    · simp [splitDocstring, hs]

/-- The docstring of a function stays in front of what measuring adds. -/
theorem splitDocstring_measuredBody (function : String) (line : Nat) (file : String) (body : List Stmt)
    (footer : List BlankLine) :
    splitDocstring (measuredBody function line file body footer) =
      ((splitDocstring body).1, [startStatement function,
        guardedStatement (orPass (splitDocstring body).2) footer (recordStatement function line file)]) :=
  splitDocstring_append_of_not_isDocstring rfl _

theorem measuredSuite_of_asBlock {suite : Suite} {ending : LineEnd} {step : Option String}
    {body : List Stmt} {footer : List BlankLine} (h : suite.asBlock = .block ending step body footer)
    (name : String) (line : Nat) (file : String) :
    measuredSuite name line file suite = .block ending step (measuredBody name line file body footer) [] := by
  cases suite with
  | block => cases h; rfl
  | inline => cases h; rfl

/-- A statement that records a call: its literals stand for the name of the function, the line
and the name of the file, and the time is what has passed since the start. -/
structure Syntax.Stmt.RecordsCall (s : Stmt) (function : String) (line : Nat) (file : String) : Prop where
  exists_literals : ∃ functionLiteral lineLiteral fileLiteral : Lexeme,
    s = plainLine (.expr (collectorCall "" "record"
      [.argument [] (.string functionLiteral) [.bare ","],
       .argument [] (.phrase
         [collectorCall " " "clock" [], .token (.spaced "-"), .name (.spaced (startName function))]) [.bare ","],
       .argument [] (.number lineLiteral) [.bare ","],
       .argument [] (.string fileLiteral) []])) ∧
    stringValue functionLiteral.text = .ok (.text (function.toList.map Char.toNat)) ∧
    Number.ofDigits lineLiteral.text.toList = line ∧
    stringValue fileLiteral.text = .ok (.text (file.toList.map Char.toNat))

theorem recordsCall_recordStatement (function : String) (line : Nat) (file : String) :
    (recordStatement function line file).RecordsCall function line file := by
  refine ⟨.bare (Text.quoted function), .spaced (toString line), .spaced (Text.quoted file), rfl, ?_, ?_, ?_⟩
  · exact Text.stringValue_quoted function
  · have hdigits : (toString line).toList = Number.digits line := Nat.toList_repr
    show Number.ofDigits (toString line).toList = line
    rw [hdigits, Number.ofDigits_digits]
  · exact Text.stringValue_quoted file

/-- How a function comes out when it is measured: behind its docstring the clock is started, and
the call that records stands in the `finally` of a `try` around all other statements, of which
there is at least a `pass`. -/
structure Site.ComesOutMeasured (file : String) (t : Site) (suite : Suite) : Prop where
  exists_body : ∃ ending step body footer kept record,
    t.suite.asBlock = .block ending step body footer ∧
    hollowBody kept = hollowBody (orPass (splitDocstring body).2) ∧
    record.RecordsCall t.name t.line file ∧
    suite = .block ending step
      ((splitDocstring body).1 ++ [startStatement t.name, guardedStatement kept footer record]) []

/-- How a function comes out when the functions of its module are measured. -/
structure Site.ComesOutAs (file : String) (t : Site) (out : FunctionHead × Suite) : Prop where
  head : out.1 = t.head.withoutLeading
  measured : t.isMeasured = true → t.ComesOutMeasured file out.2
  unmeasured : t.isMeasured = false → out.2.hollow = t.suite.hollow
  stub : t.suite.isStub = true → out.2 = t.suite

section

variable {style : Style} {file indent : String} {line : Nat}

theorem functionsInBody_orPass (body : List Stmt) : functionsInBody (orPass body) = functionsInBody body := by
  cases body with
  | nil => simp [orPass, plainLine, functionsInBody, functionsIn]
  | cons s body => rfl

/-- Measuring a function keeps the functions in it. -/
theorem functionsInSuite_measuredSuite (name : String) (line : Nat) (file : String) (suite : Suite) :
    functionsInSuite (measuredSuite name line file suite) = functionsInSuite suite := by
  have hbody (body : List Stmt) (footer : List BlankLine) :
      functionsInBody (measuredBody name line file body footer) = functionsInBody body := by
    have hsplit : functionsInBody body =
        functionsInBody (splitDocstring body).1 ++ functionsInBody (splitDocstring body).2 := by
      rw [← functionsInBody_append, splitDocstring_append]
    rw [hsplit, measuredBody, functionsInBody_append]
    simp [functionsInBody, functionsIn, startStatement, plainLine, guardedStatement, plainClause,
      recordStatement, functionsInClause, functionsInClauses, functionsInSuite, functionsInBody_orPass]
  cases suite with
  | block ending step body footer => rw [measuredSuite, functionsInSuite, hbody, functionsInSuite]
  | inline blank items ending =>
    rw [measuredSuite, functionsInSuite, hbody, functionsInSuite]
    simp [functionsInBody, functionsIn]

theorem hollowBody_orPass_wrapBody (body : List Stmt) :
    hollowBody (orPass (wrapBody style file indent line body)) = hollowBody (orPass body) := by
  cases body with
  | nil => rw [wrapBody_nil]
  | cons s body =>
    rw [wrapBody_cons]
    show hollowBody (_ :: _) = hollowBody (s :: body)
    rw [hollowBody, hollow_wrapStmt, hollow_wrapBody, hollowBody]

/-- A suite that is wrapped is the same block with its statements wrapped. -/
theorem asBlock_wrapSuite (style : Style) (file indent : String) (line : Nat) {suite : Suite} {ending : LineEnd} {step : Option String}
    {body : List Stmt} {footer : List BlankLine} (h : suite.asBlock = .block ending step body footer) :
    ∃ indent' line', (wrapSuite style file indent line suite).asBlock =
      .block ending step (wrapBody style file indent' line' body) footer := by
  cases suite with
  | block =>
    cases h
    exact ⟨_, _, by rw [wrapSuite, Suite.asBlock]⟩
  | inline =>
    cases h
    exact ⟨indent, line, by simp [wrapSuite, Suite.asBlock]⟩

/-- Lines are not changed by wrapping. -/
theorem wrapBody_of_lines {body : List Stmt}
    (h : ∀ s ∈ body, ∃ leading items ending, s = .line leading items ending) :
    wrapBody style file indent line body = body := by
  induction body generalizing line with
  | nil => rw [wrapBody_nil]
  | cons s body ih =>
    obtain ⟨leading, items, ending, rfl⟩ := h s List.mem_cons_self
    rw [wrapBody_cons, wrapStmt_line, ih fun s hs => h s (List.mem_cons_of_mem _ hs)]

theorem exists_line_of_isEllipsis {s : Stmt} (h : s.isEllipsis = true) :
    ∃ leading items ending, s = .line leading items ending := by
  cases s with
  | line leading items ending => exact ⟨leading, items, ending, rfl⟩
  | function head suite => cases h
  | classDef head suite => cases h
  | compound first others => cases h

/-- A docstring that is split off is a line. -/
theorem exists_line_of_mem_docstring {body : List Stmt} {s : Stmt} (hs : s ∈ (splitDocstring body).1) :
    ∃ leading items ending, s = .line leading items ending := by
  cases body with
  | nil => cases hs
  | cons first body =>
    rw [splitDocstring] at hs
    split at hs
    · rename_i hdoc
      rw [List.mem_singleton.mp hs]
      exact exists_line_of_isDocstring hdoc
    · cases hs

/-- A stub holds no functions, so nothing in it is measured. -/
theorem wrapSuite_of_isStub {suite : Suite} (h : suite.isStub = true) :
    wrapSuite style file indent line suite = suite := by
  cases suite with
  | inline blank items ending => rw [wrapSuite]
  | block ending step body footer =>
    rw [wrapSuite, wrapBody_of_lines]
    intro s hs
    rw [← splitDocstring_append body, List.mem_append] at hs
    rcases hs with hs | hs
    · exact exists_line_of_mem_docstring hs
    · rw [Suite.isStub, Suite.statements] at h
      split at h
      · rename_i only honly
        rw [honly, List.mem_singleton] at hs
        rw [hs]
        exact exists_line_of_isEllipsis h
      · cases h

/-- What the suite of a function is turned into. -/
theorem comesOut_function (indent : String) (before : List String) (head : FunctionHead) (suite : Suite)
    (inner : Nat) :
    Site.ComesOutAs file ⟨before ++ head.preface style indent, head, suite⟩
      (head.withoutLeading,
        if isMeasured head suite then
          measuredSuite head.name.text (1 + countBreaks before + countBreaks (head.preface style indent)) file
            (wrapSuite style file indent inner suite)
        else wrapSuite style file indent inner suite) := by
  let t : Site := ⟨before ++ head.preface style indent, head, suite⟩
  have hline : t.line = 1 + countBreaks before + countBreaks (head.preface style indent) := by
    show 1 + countBreaks (before ++ head.preface style indent) = _
    rw [countBreaks_append, Nat.add_assoc]
  rw [← hline]
  constructor
  · rfl
  · intro hmeasured
    change isMeasured head suite = true at hmeasured
    rw [if_pos hmeasured]
    obtain ⟨ending, step, body, footer, hblock⟩ := exists_asBlock suite
    obtain ⟨indent', line', hwrapped⟩ := asBlock_wrapSuite style file indent inner hblock
    obtain ⟨line'', hsplit⟩ := splitDocstring_wrapBody style file indent' line' body
    refine ⟨ending, step, body, footer, orPass (wrapBody style file indent' line'' (splitDocstring body).2),
      recordStatement t.name t.line file, hblock, hollowBody_orPass_wrapBody _,
      recordsCall_recordStatement _ _ _, ?_⟩
    rw [measuredSuite_of_asBlock hwrapped, measuredBody, hsplit]
    rfl
  · intro hmeasured
    change isMeasured head suite = false at hmeasured
    rw [if_neg (by simp [hmeasured])]
    exact hollow_wrapSuite style file indent inner suite
  · intro hstub
    have hmeasured : isMeasured head suite = false := by
      change suite.isStub = true at hstub
      rw [isMeasured, hstub, Bool.not_true, Bool.and_false]
    rw [if_neg (by simp [hmeasured])]
    exact wrapSuite_of_isStub hstub

end

/-! ## All functions -/

section

variable (style : Style) (file : String)

mutual

/-- Each function in a statement comes out as it should, in the order of the functions. -/
theorem comesOut_wrapStmt (indent : String) (before : List String) (s : Stmt) :
    List.Forall₂ (Site.ComesOutAs file) (sitesOf style indent before s)
      (functionsIn (wrapStmt style file indent (1 + countBreaks before) s)) := by
  match s with
  | .line .. =>
    rw [sitesOf, wrapStmt, functionsIn]
    exact .nil
  | .function head suite =>
    rw [sitesOf, wrapStmt, functionsIn]
    have hsuite := comesOut_wrapSuite indent (before ++ head.pieces style indent) suite
    rw [countBreaks_append, ← Nat.add_assoc] at hsuite
    refine List.rel_append ?_ (.cons (comesOut_function indent before head suite _) .nil)
    split
    · rw [functionsInSuite_measuredSuite]
      exact hsuite
    · exact hsuite
  | .classDef head suite =>
    rw [sitesOf, wrapStmt, functionsIn]
    have hsuite := comesOut_wrapSuite indent (before ++ head.pieces style indent) suite
    rwa [countBreaks_append, ← Nat.add_assoc] at hsuite
  | .compound first others =>
    rw [sitesOf, wrapStmt, functionsIn]
    have hothers := comesOut_wrapClauses indent (before ++ first.pieces style indent) others
    rw [countBreaks_append, ← Nat.add_assoc] at hothers
    exact List.rel_append (comesOut_wrapClause indent before first) hothers

theorem comesOut_wrapClause (indent : String) (before : List String) (c : Clause) :
    List.Forall₂ (Site.ComesOutAs file) (sitesOfClause style indent before c)
      (functionsInClause (wrapClause style file indent (1 + countBreaks before) c)) := by
  match c with
  | .mk head suite =>
    rw [sitesOfClause, wrapClause, functionsInClause]
    have hsuite := comesOut_wrapSuite indent (before ++ head.pieces style indent) suite
    rwa [countBreaks_append, ← Nat.add_assoc] at hsuite

theorem comesOut_wrapClauses (indent : String) (before : List String) (cs : List Clause) :
    List.Forall₂ (Site.ComesOutAs file) (sitesOfClauses style indent before cs)
      (functionsInClauses (wrapClauses style file indent (1 + countBreaks before) cs)) := by
  match cs with
  | [] =>
    rw [sitesOfClauses, wrapClauses, functionsInClauses]
    exact .nil
  | c :: cs =>
    rw [sitesOfClauses, wrapClauses, functionsInClauses]
    have hothers := comesOut_wrapClauses indent (before ++ c.pieces style indent) cs
    rw [countBreaks_append, ← Nat.add_assoc] at hothers
    exact List.rel_append (comesOut_wrapClause indent before c) hothers

theorem comesOut_wrapSuite (indent : String) (before : List String) (suite : Suite) :
    List.Forall₂ (Site.ComesOutAs file) (sitesOfSuite style indent before suite)
      (functionsInSuite (wrapSuite style file indent (1 + countBreaks before) suite)) := by
  match suite with
  | .block ending step body footer =>
    rw [sitesOfSuite, wrapSuite, functionsInSuite]
    have hbody := comesOut_wrapBody (deeper style indent step) (before ++ ending.pieces style) body
    rwa [countBreaks_append, ← Nat.add_assoc] at hbody
  | .inline .. =>
    rw [sitesOfSuite, wrapSuite, functionsInSuite]
    exact .nil

theorem comesOut_wrapBody (indent : String) (before : List String) (body : List Stmt) :
    List.Forall₂ (Site.ComesOutAs file) (sitesOfBody style indent before body)
      (functionsInBody (wrapBody style file indent (1 + countBreaks before) body)) := by
  match body with
  | [] =>
    rw [sitesOfBody, wrapBody, functionsInBody]
    exact .nil
  | s :: body =>
    rw [sitesOfBody, wrapBody, functionsInBody]
    have hbody := comesOut_wrapBody indent (before ++ s.pieces style indent) body
    rw [countBreaks_append, ← Nat.add_assoc] at hbody
    exact List.rel_append (comesOut_wrapStmt indent before s) hbody

end

end

end Stopwatch
