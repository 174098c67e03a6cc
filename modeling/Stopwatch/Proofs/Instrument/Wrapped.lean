/-
  What measuring functions leaves as it is.

  Wrapping changes nothing but the suites of functions.  So a line stays the same, a
  statement stays of its kind, and the questions that are asked about the statements of
  a body, such as whether it starts with a docstring, have the same answers afterwards.
-/
import Stopwatch.Instrument

namespace Stopwatch

open Syntax

section

variable {style : Style} {file indent : String} {line : Nat}

/-! ## One statement -/

@[simp] theorem wrapStmt_line (leading : List BlankLine) (items : List Item) (ending : LineEnd) :
    wrapStmt style file indent line (.line leading items ending) = .line leading items ending := by
  rw [wrapStmt]

/-- Wrapping does not turn a line into something else, nor something else into a line. -/
theorem loneExpr_wrapStmt (s : Stmt) : (wrapStmt style file indent line s).loneExpr? = s.loneExpr? := by
  cases s with
  | line leading items ending => rw [wrapStmt_line]
  | function head suite => rw [wrapStmt]; rfl
  | classDef head suite => rw [wrapStmt]; rfl
  | compound first others => rw [wrapStmt]; rfl

@[simp] theorem isDocstring_wrapStmt (s : Stmt) :
    (wrapStmt style file indent line s).isDocstring = s.isDocstring := by
  rw [Stmt.isDocstring, loneExpr_wrapStmt, Stmt.isDocstring]

@[simp] theorem isEllipsis_wrapStmt (s : Stmt) :
    (wrapStmt style file indent line s).isEllipsis = s.isEllipsis := by
  rw [Stmt.isEllipsis, loneExpr_wrapStmt, Stmt.isEllipsis]

@[simp] theorem isFutureImport_wrapStmt (s : Stmt) :
    (wrapStmt style file indent line s).isFutureImport = s.isFutureImport := by
  cases s with
  | line leading items ending => rw [wrapStmt_line]
  | function head suite => rw [wrapStmt]; rfl
  | classDef head suite => rw [wrapStmt]; rfl
  | compound first others => rw [wrapStmt]; rfl

/-- A docstring is a line. -/
theorem exists_line_of_isDocstring {s : Stmt} (h : s.isDocstring = true) :
    ∃ leading items ending, s = .line leading items ending := by
  cases s with
  | line leading items ending => exact ⟨leading, items, ending, rfl⟩
  | function head suite => cases h
  | classDef head suite => cases h
  | compound first others => cases h

theorem wrapStmt_of_isDocstring {s : Stmt} (h : s.isDocstring = true) :
    wrapStmt style file indent line s = s := by
  obtain ⟨leading, items, ending, rfl⟩ := exists_line_of_isDocstring h
  exact wrapStmt_line leading items ending

/-! ## Bodies -/

@[simp] theorem wrapBody_nil : wrapBody style file indent line [] = [] := by
  rw [wrapBody]

@[simp] theorem wrapBody_cons (s : Stmt) (body : List Stmt) :
    wrapBody style file indent line (s :: body) =
      wrapStmt style file indent line s ::
        wrapBody style file indent (line + countBreaks (s.pieces style indent)) body := by
  rw [wrapBody]

/-- A question that wrapping does not touch has the same answer at every place of a body. -/
theorem getElem?_wrapBody_any {f : Stmt → Bool}
    (hf : ∀ line s, f (wrapStmt style file indent line s) = f s) (body : List Stmt) (i : Nat) :
    (wrapBody style file indent line body)[i]?.any f = body[i]?.any f := by
  induction body generalizing line i with
  | nil => rw [wrapBody_nil]
  | cons s body ih =>
    rw [wrapBody_cons]
    cases i with
    | zero => simp [hf]
    | succ i => simpa using ih i

/-- The docstring stays in front of a body that is wrapped. -/
theorem splitDocstring_wrapBody (style : Style) (file indent : String) (line : Nat) (body : List Stmt) :
    ∃ line', splitDocstring (wrapBody style file indent line body) =
      ((splitDocstring body).1, wrapBody style file indent line' (splitDocstring body).2) := by
  cases body with
  | nil => exact ⟨line, by simp [splitDocstring]⟩
  | cons s body =>
    rw [wrapBody_cons, splitDocstring, isDocstring_wrapStmt, splitDocstring]
    split
    · rename_i hdoc
      rw [wrapStmt_of_isDocstring hdoc]
      exact ⟨_, rfl⟩
    · exact ⟨line, by rw [wrapBody_cons]⟩

/-- A suite is a stub after wrapping if it was one before. -/
theorem isStub_wrapSuite (suite : Suite) :
    (wrapSuite style file indent line suite).isStub = suite.isStub := by
  cases suite with
  | inline blank items ending => rw [wrapSuite]
  | block ending step body footer =>
    rw [wrapSuite, Suite.isStub, Suite.isStub, Suite.statements, Suite.statements]
    obtain ⟨line', hsplit⟩ := splitDocstring_wrapBody style file (deeper style indent step)
      (line + countBreaks (ending.pieces style)) body
    rw [hsplit]
    -- The statements behind the docstring are as many as before.
    rcases (splitDocstring body).2 with _ | ⟨first, _ | ⟨second, rest⟩⟩
    · rfl
    · simp
    · simp

end

end Stopwatch
