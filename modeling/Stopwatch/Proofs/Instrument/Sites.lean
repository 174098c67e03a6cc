/-
  The functions of a module and where they stand.

  The functions are listed inner ones first, each with the text in front of its first word,
  so that its line can be counted.  No two functions of a module stand on the same line:
  what is nested in a function starts behind the end of the line of its colon, and what
  follows it starts behind the end of its suite.
-/
import Stopwatch.Instrument

namespace Stopwatch

open Syntax

/-- A function of a module: the pieces of text in front of its first word, its head and its
suite. -/
structure Site where
  before : List String
  head : FunctionHead
  suite : Suite

namespace Site

/-- The line of the first word of a function. -/
def line (t : Site) : Nat :=
  1 + countBreaks t.before

/-- The name of a function. -/
def name (t : Site) : String :=
  t.head.name.text

/-- Whether a function is measured: it is asynchronous and no stub. -/
def isMeasured (t : Site) : Bool :=
  Stopwatch.isMeasured t.head t.suite

/-- The pieces of a function from its first word on. -/
def pieces (style : Style) (indent : String) (t : Site) : List String :=
  indent :: lexemePieces style indent t.head.lexemes ++ t.suite.pieces style indent

end Site

/-! ## Listing the functions -/

mutual

/-- The functions in a statement, inner ones first, given the pieces in front of it. -/
def sitesOf (style : Style) (indent : String) (before : List String) : Stmt → List Site
  | .line .. => []
  | .function head suite =>
    sitesOfSuite style indent (before ++ head.pieces style indent) suite ++
      [⟨before ++ head.preface style indent, head, suite⟩]
  | .classDef head suite => sitesOfSuite style indent (before ++ head.pieces style indent) suite
  | .compound first others =>
    sitesOfClause style indent before first ++
      sitesOfClauses style indent (before ++ first.pieces style indent) others

/-- The functions in a clause. -/
def sitesOfClause (style : Style) (indent : String) (before : List String) : Clause → List Site
  | .mk head suite => sitesOfSuite style indent (before ++ head.pieces style indent) suite

/-- The functions in clauses. -/
def sitesOfClauses (style : Style) (indent : String) (before : List String) : List Clause → List Site
  | [] => []
  | c :: cs =>
    sitesOfClause style indent before c ++
      sitesOfClauses style indent (before ++ c.pieces style indent) cs

/-- The functions in a suite. -/
def sitesOfSuite (style : Style) (indent : String) (before : List String) : Suite → List Site
  | .block ending step body _ =>
    sitesOfBody style (deeper style indent step) (before ++ ending.pieces style) body
  | .inline .. => []

/-- The functions in statements. -/
def sitesOfBody (style : Style) (indent : String) (before : List String) : List Stmt → List Site
  | [] => []
  | s :: ss =>
    sitesOf style indent before s ++ sitesOfBody style indent (before ++ s.pieces style indent) ss

end

/-- The functions of a module, inner ones first. -/
def Syntax.Module.sites (m : Module) : List Site :=
  sitesOfBody m.style "" (blankPieces m.style "" m.header) m.body

/-! ## Names -/

section

variable (style : Style) (indent : String) (before : List String)

/-- The names of the functions that are measured. -/
def namesOfMeasured (sites : List Site) : List String :=
  (sites.filter Site.isMeasured).map Site.name

@[simp] theorem namesOfMeasured_append (a b : List Site) :
    namesOfMeasured (a ++ b) = namesOfMeasured a ++ namesOfMeasured b := by
  simp [namesOfMeasured]

mutual

theorem measuredNames_eq (indent : String) (before : List String) (s : Stmt) :
    measuredNames s = namesOfMeasured (sitesOf style indent before s) := by
  match s with
  | .line .. => simp [measuredNames, sitesOf, namesOfMeasured]
  | .function head suite =>
    rw [measuredNames, sitesOf, namesOfMeasured_append, ← measuredNamesOfSuite_eq]
    congr 1
    rw [namesOfMeasured, List.filter_cons, List.filter_nil, Site.isMeasured]
    cases isMeasured head suite <;> rfl
  | .classDef head suite => rw [measuredNames, sitesOf, ← measuredNamesOfSuite_eq]
  | .compound first others =>
    rw [measuredNames, sitesOf, namesOfMeasured_append, ← measuredNamesOfClause_eq,
      ← measuredNamesOfClauses_eq]

theorem measuredNamesOfClause_eq (indent : String) (before : List String) (c : Clause) :
    measuredNamesOfClause c = namesOfMeasured (sitesOfClause style indent before c) := by
  match c with
  | .mk head suite => rw [measuredNamesOfClause, sitesOfClause, ← measuredNamesOfSuite_eq]

theorem measuredNamesOfClauses_eq (indent : String) (before : List String) (cs : List Clause) :
    measuredNamesOfClauses cs = namesOfMeasured (sitesOfClauses style indent before cs) := by
  match cs with
  | [] => rw [measuredNamesOfClauses, sitesOfClauses]; rfl
  | c :: cs =>
    rw [measuredNamesOfClauses, sitesOfClauses, namesOfMeasured_append, ← measuredNamesOfClause_eq,
      ← measuredNamesOfClauses_eq]

theorem measuredNamesOfSuite_eq (indent : String) (before : List String) (suite : Suite) :
    measuredNamesOfSuite suite = namesOfMeasured (sitesOfSuite style indent before suite) := by
  match suite with
  | .block ending step body footer =>
    rw [measuredNamesOfSuite, sitesOfSuite, ← measuredNamesOfBody_eq]
  | .inline .. => rw [measuredNamesOfSuite, sitesOfSuite]; rfl

theorem measuredNamesOfBody_eq (indent : String) (before : List String) (body : List Stmt) :
    measuredNamesOfBody body = namesOfMeasured (sitesOfBody style indent before body) := by
  match body with
  | [] => rw [measuredNamesOfBody, sitesOfBody]; rfl
  | s :: body =>
    rw [measuredNamesOfBody, sitesOfBody, namesOfMeasured_append, ← measuredNames_eq,
      ← measuredNamesOfBody_eq]

end

end

/-- The names that are given out are those of the asynchronous functions that are no stubs,
in the order of the functions. -/
theorem Syntax.Module.measured_eq (m : Module) : m.measured = namesOfMeasured m.sites :=
  measuredNamesOfBody_eq m.style "" _ m.body

/-! ## Places -/

namespace Site

variable {style : Style} {before between pieces : List String} {t t' : Site}

/-- A function stands among some pieces, in front of which there are others. -/
def StandsIn (style : Style) (before pieces : List String) (t : Site) : Prop :=
  ∃ indent between after, t.before = before ++ between ∧
    pieces = between ++ (t.pieces style indent ++ after)

theorem StandsIn.left (h : t.StandsIn style before pieces) (after : List String) :
    t.StandsIn style before (pieces ++ after) := by
  obtain ⟨indent, between, rest, hbefore, rfl⟩ := h
  exact ⟨indent, between, rest ++ after, hbefore, by simp only [List.append_assoc]⟩

theorem StandsIn.right (h : t.StandsIn style (before ++ between) pieces) :
    t.StandsIn style before (between ++ pieces) := by
  obtain ⟨indent, more, rest, hbefore, rfl⟩ := h
  exact ⟨indent, between ++ more, rest, by rw [hbefore, List.append_assoc], by rw [List.append_assoc]⟩

end Site

section

variable (style : Style)

mutual

/-- A function in a statement stands among the pieces of the statement. -/
theorem standsIn_sitesOf (indent : String) (before : List String) (s : Stmt) {t : Site}
    (ht : t ∈ sitesOf style indent before s) : t.StandsIn style before (s.pieces style indent) := by
  match s with
  | .line .. => simp [sitesOf] at ht
  | .function head suite =>
    rw [sitesOf, List.mem_append, List.mem_singleton] at ht
    rw [Stmt.pieces]
    rcases ht with ht | rfl
    · exact (standsIn_sitesOfSuite indent _ suite ht).right
    · exact ⟨indent, head.preface style indent, [], rfl, by simp [FunctionHead.pieces, Site.pieces]⟩
  | .classDef head suite =>
    rw [sitesOf] at ht
    rw [Stmt.pieces]
    exact (standsIn_sitesOfSuite indent _ suite ht).right
  | .compound first others =>
    rw [sitesOf, List.mem_append] at ht
    rw [Stmt.pieces]
    rcases ht with ht | ht
    · exact (standsIn_sitesOfClause indent before first ht).left _
    · exact (standsIn_sitesOfClauses indent _ others ht).right

theorem standsIn_sitesOfClause (indent : String) (before : List String) (c : Clause) {t : Site}
    (ht : t ∈ sitesOfClause style indent before c) : t.StandsIn style before (c.pieces style indent) := by
  match c with
  | .mk head suite =>
    rw [sitesOfClause] at ht
    rw [Clause.pieces]
    exact (standsIn_sitesOfSuite indent _ suite ht).right

theorem standsIn_sitesOfClauses (indent : String) (before : List String) (cs : List Clause) {t : Site}
    (ht : t ∈ sitesOfClauses style indent before cs) :
    t.StandsIn style before (clausePieces style indent cs) := by
  match cs with
  | [] => simp [sitesOfClauses] at ht
  | c :: cs =>
    rw [sitesOfClauses, List.mem_append] at ht
    rw [clausePieces]
    rcases ht with ht | ht
    · exact (standsIn_sitesOfClause indent before c ht).left _
    · exact (standsIn_sitesOfClauses indent _ cs ht).right

theorem standsIn_sitesOfSuite (indent : String) (before : List String) (suite : Suite) {t : Site}
    (ht : t ∈ sitesOfSuite style indent before suite) :
    t.StandsIn style before (suite.pieces style indent) := by
  match suite with
  | .block ending step body footer =>
    rw [sitesOfSuite] at ht
    rw [Suite.pieces]
    exact ((standsIn_sitesOfBody _ _ body ht).right).left _
  | .inline .. => simp [sitesOfSuite] at ht

theorem standsIn_sitesOfBody (indent : String) (before : List String) (body : List Stmt) {t : Site}
    (ht : t ∈ sitesOfBody style indent before body) :
    t.StandsIn style before (bodyPieces style indent body) := by
  match body with
  | [] => simp [sitesOfBody] at ht
  | s :: body =>
    rw [sitesOfBody, List.mem_append] at ht
    rw [bodyPieces_cons]
    rcases ht with ht | ht
    · exact (standsIn_sitesOf indent before s ht).left _
    · exact (standsIn_sitesOfBody indent _ body ht).right

end

end

/-- The text of a module is what stands in front of a function, the function, and the rest. -/
theorem Syntax.Module.pieces_of_mem_sites {m : Module} {t : Site} (ht : t ∈ m.sites) :
    ∃ indent after, m.pieces = t.before ++ (t.pieces m.style indent ++ after) := by
  obtain ⟨indent, between, after, hbefore, hpieces⟩ := standsIn_sitesOfBody m.style "" _ m.body ht
  refine ⟨indent, after ++ blankPieces m.style "" m.footer, ?_⟩
  rw [Module.pieces, hpieces, hbefore]
  simp only [List.append_assoc]

/-! ## Lines -/

theorem countBreaks_newline (style : Style) (newline : Newline) : countBreaks [newline.text style] = 1 := by
  rw [Newline.text]
  cases newline.getD style.newline <;> decide

theorem one_le_countBreaks_ending (style : Style) (e : LineEnd) : 1 ≤ countBreaks (e.pieces style) := by
  have hpieces : e.pieces style = [e.blank, e.comment.getD ""] ++ [e.newline.text style] := rfl
  rw [hpieces, countBreaks_append, countBreaks_newline]
  exact Nat.le_add_left 1 _

/-- A suite ends at least one line. -/
theorem one_le_countBreaks_suite (style : Style) (indent : String) (suite : Suite) :
    1 ≤ countBreaks (suite.pieces style indent) := by
  cases suite with
  | block ending step body footer =>
    have hending := one_le_countBreaks_ending style ending
    rw [Suite.pieces, countBreaks_append, countBreaks_append]
    omega
  | inline blank items ending =>
    have hending := one_le_countBreaks_ending style ending
    have hpieces : Suite.pieces style indent (.inline blank items ending) =
        (blank :: itemPieces style indent items) ++ ending.pieces style := by
      rw [Suite.pieces]
      rfl
    rw [hpieces, countBreaks_append]
    omega

namespace Site

variable {style : Style} {before pieces : List String} {t t' : Site}

theorem StandsIn.le_line (h : t.StandsIn style before pieces) : 1 + countBreaks before ≤ t.line := by
  obtain ⟨indent, between, after, hbefore, -⟩ := h
  rw [line, hbefore, countBreaks_append]
  omega

theorem StandsIn.line_lt (h : t.StandsIn style before pieces) :
    t.line < 1 + countBreaks (before ++ pieces) := by
  obtain ⟨indent, between, after, hbefore, rfl⟩ := h
  have hsuite := one_le_countBreaks_suite style indent t.suite
  rw [line, hbefore, Site.pieces]
  simp only [countBreaks_append]
  omega

end Site

/-- Functions below some line and functions from there on stand on different lines. -/
theorem nodup_append_lines {a b : List Site} (ha : (a.map Site.line).Nodup) (hb : (b.map Site.line).Nodup)
    {bound : Nat} (hlt : ∀ t ∈ a, t.line < bound) (hle : ∀ t ∈ b, bound ≤ t.line) :
    ((a ++ b).map Site.line).Nodup := by
  rw [List.map_append, List.nodup_append]
  refine ⟨ha, hb, ?_⟩
  intro n hn n' hn'
  obtain ⟨t, ht, rfl⟩ := List.mem_map.mp hn
  obtain ⟨t', ht', rfl⟩ := List.mem_map.mp hn'
  have hlow := hlt t ht
  have hhigh := hle t' ht'
  omega

/-- A function in a suite stands behind the line on which the suite begins. -/
theorem lt_line_of_mem_sitesOfSuite {style : Style} {indent : String} {before : List String} {suite : Suite}
    {t : Site} (ht : t ∈ sitesOfSuite style indent before suite) : 1 + countBreaks before < t.line := by
  cases suite with
  | inline blank items ending => simp [sitesOfSuite] at ht
  | block ending step body footer =>
    rw [sitesOfSuite] at ht
    have hline := (standsIn_sitesOfBody style _ _ body ht).le_line
    have hending := one_le_countBreaks_ending style ending
    rw [countBreaks_append] at hline
    omega

section

variable (style : Style)

mutual

/-- No two functions in a statement stand on the same line. -/
theorem nodup_sitesOf (indent : String) (before : List String) (s : Stmt) :
    ((sitesOf style indent before s).map Site.line).Nodup := by
  match s with
  | .line .. => simp [sitesOf]
  | .function head suite =>
    rw [sitesOf, List.map_append, List.nodup_append]
    refine ⟨nodup_sitesOfSuite indent _ suite, by simp, ?_⟩
    intro n hn n' hn'
    obtain ⟨t, ht, rfl⟩ := List.mem_map.mp hn
    obtain rfl := List.mem_singleton.mp hn'
    have hbelow := lt_line_of_mem_sitesOfSuite ht
    rw [FunctionHead.pieces, ← List.append_assoc, countBreaks_append] at hbelow
    show t.line ≠ 1 + countBreaks (before ++ head.preface style indent)
    omega
  | .classDef head suite =>
    rw [sitesOf]
    exact nodup_sitesOfSuite indent _ suite
  | .compound first others =>
    rw [sitesOf]
    exact nodup_append_lines (nodup_sitesOfClause indent before first)
      (nodup_sitesOfClauses indent _ others)
      (fun t ht => (standsIn_sitesOfClause style indent before first ht).line_lt)
      (fun t ht => (standsIn_sitesOfClauses style indent _ others ht).le_line)

theorem nodup_sitesOfClause (indent : String) (before : List String) (c : Clause) :
    ((sitesOfClause style indent before c).map Site.line).Nodup := by
  match c with
  | .mk head suite =>
    rw [sitesOfClause]
    exact nodup_sitesOfSuite indent _ suite

theorem nodup_sitesOfClauses (indent : String) (before : List String) (cs : List Clause) :
    ((sitesOfClauses style indent before cs).map Site.line).Nodup := by
  match cs with
  | [] => simp [sitesOfClauses]
  | c :: cs =>
    rw [sitesOfClauses]
    exact nodup_append_lines (nodup_sitesOfClause indent before c) (nodup_sitesOfClauses indent _ cs)
      (fun t ht => (standsIn_sitesOfClause style indent before c ht).line_lt)
      (fun t ht => (standsIn_sitesOfClauses style indent _ cs ht).le_line)

theorem nodup_sitesOfSuite (indent : String) (before : List String) (suite : Suite) :
    ((sitesOfSuite style indent before suite).map Site.line).Nodup := by
  match suite with
  | .block ending step body footer =>
    rw [sitesOfSuite]
    exact nodup_sitesOfBody _ _ body
  | .inline .. => simp [sitesOfSuite]

theorem nodup_sitesOfBody (indent : String) (before : List String) (body : List Stmt) :
    ((sitesOfBody style indent before body).map Site.line).Nodup := by
  match body with
  | [] => simp [sitesOfBody]
  | s :: body =>
    rw [sitesOfBody]
    exact nodup_append_lines (nodup_sitesOf indent before s) (nodup_sitesOfBody indent _ body)
      (fun t ht => (standsIn_sitesOf style indent before s ht).line_lt)
      (fun t ht => (standsIn_sitesOfBody style indent _ body ht).le_line)

end

end

/-- No two functions of a module stand on the same line. -/
theorem Syntax.Module.nodup_lines (m : Module) : (m.sites.map Site.line).Nodup :=
  nodup_sitesOfBody m.style "" _ m.body

end Stopwatch
