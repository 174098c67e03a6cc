/-
  The classes of an instrumented module.

  Measuring leaves every class where it is, and the import of the collector defines none.  So a module
  that imports the collector defines the same classes as before, in the same order.
-/
import Stopwatch.Proofs.Instrument.Insertion

namespace Stopwatch

open Syntax

/-! ## Classes -/

mutual

/-- The names of the classes that a statement defines, outer ones first. -/
def classesIn : Stmt → List String
  | .line .. => []
  | .function _ suite => classesInSuite suite
  | .classDef head suite => head.name.text :: classesInSuite suite
  | .compound first others => classesInClause first ++ classesInClauses others

/-- The names of the classes that a clause defines. -/
def classesInClause : Clause → List String
  | .mk _ suite => classesInSuite suite

/-- The names of the classes that clauses define. -/
def classesInClauses : List Clause → List String
  | [] => []
  | c :: cs => classesInClause c ++ classesInClauses cs

/-- The names of the classes that a suite defines. -/
def classesInSuite : Suite → List String
  | .block _ _ body _ => classesInBody body
  | .inline .. => []

/-- The names of the classes that statements define. -/
def classesInBody : List Stmt → List String
  | [] => []
  | s :: ss => classesIn s ++ classesInBody ss

end

/-- The names of the classes that a module defines. -/
def Syntax.Module.classes (m : Module) : List String :=
  classesInBody m.body

theorem classesInBody_eq (body : List Stmt) : classesInBody body = body.flatMap classesIn := by
  induction body with
  | nil => rw [classesInBody, List.flatMap_nil]
  | cons s body ih => rw [classesInBody, ih, List.flatMap_cons]

@[simp] theorem classesInBody_append (a b : List Stmt) :
    classesInBody (a ++ b) = classesInBody a ++ classesInBody b := by
  simp only [classesInBody_eq, List.flatMap_append]

@[simp] theorem classesIn_withoutLeading (s : Stmt) : classesIn s.withoutLeading = classesIn s := by
  cases s with
  | line _ items ending => rfl
  | function head suite => simp [Stmt.withoutLeading, Stmt.setLeading, classesIn]
  | classDef head suite => simp [Stmt.withoutLeading, Stmt.setLeading, classesIn]
  | compound first others =>
    cases first
    simp [Stmt.withoutLeading, Stmt.setLeading, classesIn, classesInClause]

@[simp] theorem classesIn_setLeading (s : Stmt) (leading : List BlankLine) :
    classesIn (s.setLeading leading) = classesIn s := by
  rw [← classesIn_withoutLeading, withoutLeading_setLeading, classesIn_withoutLeading]

/-! ## Measuring -/

@[simp] theorem classesIn_plainLine (statement : Small) : classesIn (plainLine statement) = [] := by
  rw [plainLine, classesIn]

theorem classesInBody_orPass (body : List Stmt) : classesInBody (orPass body) = classesInBody body := by
  cases body with
  | nil => simp [orPass, classesInBody]
  | cons s body => rfl

theorem classesInBody_measuredBody (function : String) (line : Nat) (file : String) (body : List Stmt)
    (footer : List BlankLine) :
    classesInBody (measuredBody function line file body footer) = classesInBody body := by
  have hguard : classesInBody [startStatement function,
        guardedStatement (orPass (splitDocstring body).2) footer (recordStatement function line file)] =
      classesInBody (splitDocstring body).2 := by
    simp [classesInBody, startStatement, guardedStatement, recordStatement, plainClause, classesIn, classesInClause,
      classesInClauses, classesInSuite, classesInBody_orPass]
  have hsplit : classesInBody body = classesInBody (splitDocstring body).1 ++ classesInBody (splitDocstring body).2 := by
    rw [← classesInBody_append, splitDocstring_append]
  rw [measuredBody, classesInBody_append, hguard, hsplit]

/-- Nothing that measuring adds is a class. -/
theorem classesInSuite_measuredSuite (function : String) (line : Nat) (file : String) (suite : Suite) :
    classesInSuite (measuredSuite function line file suite) = classesInSuite suite := by
  cases suite with
  | block ending step body footer =>
    rw [measuredSuite, classesInSuite, classesInBody_measuredBody, classesInSuite]
  | inline blank items ending =>
    rw [measuredSuite, classesInSuite, classesInBody_measuredBody, classesInSuite]
    simp [classesInBody, classesIn]

section

variable (style : Style) (file : String)

mutual

/-- Measuring leaves the classes of a statement. -/
theorem classesIn_wrapStmt (indent : String) (line : Nat) (s : Stmt) :
    classesIn (wrapStmt style file indent line s) = classesIn s := by
  match s with
  | .line .. => rw [wrapStmt]
  | .function head suite =>
    rw [wrapStmt, classesIn, classesIn]
    split
    · rw [classesInSuite_measuredSuite, classesInSuite_wrapSuite]
    · rw [classesInSuite_wrapSuite]
  | .classDef head suite => rw [wrapStmt, classesIn, classesInSuite_wrapSuite, classesIn]
  | .compound first others =>
    rw [wrapStmt, classesIn, classesInClause_wrapClause, classesInClauses_wrapClauses, classesIn]

theorem classesInClause_wrapClause (indent : String) (line : Nat) (c : Clause) :
    classesInClause (wrapClause style file indent line c) = classesInClause c := by
  match c with
  | .mk head suite => rw [wrapClause, classesInClause, classesInSuite_wrapSuite, classesInClause]

theorem classesInClauses_wrapClauses (indent : String) (line : Nat) (cs : List Clause) :
    classesInClauses (wrapClauses style file indent line cs) = classesInClauses cs := by
  match cs with
  | [] => rw [wrapClauses]
  | c :: cs =>
    rw [wrapClauses, classesInClauses, classesInClause_wrapClause, classesInClauses_wrapClauses, classesInClauses]

theorem classesInSuite_wrapSuite (indent : String) (line : Nat) (suite : Suite) :
    classesInSuite (wrapSuite style file indent line suite) = classesInSuite suite := by
  match suite with
  | .block ending step body footer => rw [wrapSuite, classesInSuite, classesInBody_wrapBody, classesInSuite]
  | .inline .. => rw [wrapSuite]

theorem classesInBody_wrapBody (indent : String) (line : Nat) (body : List Stmt) :
    classesInBody (wrapBody style file indent line body) = classesInBody body := by
  match body with
  | [] => rw [wrapBody]
  | s :: body => rw [wrapBody, classesInBody, classesIn_wrapStmt, classesInBody_wrapBody, classesInBody]

end

end

/-! ## The import of the collector -/

/-- Statements without classes can be added wherever they belong. -/
theorem classesInBody_insertStatements {added : List Stmt} (hadded : classesInBody added = []) (body : List Stmt) :
    classesInBody (insertStatements added body) = classesInBody body := by
  have hmap (body : List Stmt) : classesInBody body = (body.map classesIn).flatten := by
    rw [classesInBody_eq, List.flatMap_def]
  rw [hmap, map_insertStatements classesIn_withoutLeading, ← hmap, classesInBody_append, classesInBody_append, hadded,
    List.nil_append, ← classesInBody_append, preamble_append]

/-- A module that is given an import of the collector defines no more classes than before. -/
theorem classes_importFrom {m m' : Module} {file : String}
    (h : m.instrument? ⟨file, .importFrom Collector.moduleName⟩ = some m') : m'.classes = m.classes := by
  rw [instrument_importFrom, Option.some_inj] at h
  have hnone : classesInBody [plainLine collectorImport] = [] := by
    simp [classesInBody]
  rw [← h, Module.classes, classesInBody_insertStatements hnone, classesInBody_wrapBody, Module.classes]

end Stopwatch
