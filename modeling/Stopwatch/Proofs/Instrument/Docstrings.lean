/-
  The strings that modules and functions start with.

  A body that starts with a plain string is documented by it.  Instrumenting leaves such a
  string in the first place if its line holds nothing else.  If more small statements
  follow on the line, then the line counts as any other: in a function it goes into the
  `try`, behind the start of the clock, and in a module it goes behind the collector,
  unless one of the small statements is an import from `__future__`.

  `leadingStrings_instrument` says this of a module and all functions that are measured
  in it.
-/
import Stopwatch.Proofs.Instrument.Located

namespace Stopwatch

open Syntax

/-! ## The first small statement -/

/-- The expression that a line starts with, whatever follows it. -/
def Syntax.Stmt.firstExpr? : Stmt → Option Expr
  | .line _ (⟨.expr value, _⟩ :: _) _ => some value
  | _ => none

/-- The plain string that some statements start with, whatever follows it on its line. -/
def leadingString? (body : List Stmt) : Option Expr :=
  (body.head?.bind Stmt.firstExpr?).filter Expr.isStringLiteral

/-- Whether some statements start with a line that holds nothing but a plain string. -/
def startsWithDocstring (body : List Stmt) : Bool :=
  body.head?.any Stmt.isDocstring

/-- Whether some statements start with a docstring or an import from `__future__`. -/
def startsWithPreamble (body : List Stmt) : Bool :=
  body.head?.any fun s => s.isDocstring || s.isFutureImport

@[simp] theorem firstExpr_hollow (s : Stmt) : s.hollow.firstExpr? = s.firstExpr? := by
  cases s with
  | line leading items ending => rw [Stmt.hollow]
  | function head suite => rw [Stmt.hollow]; rfl
  | classDef head suite => rw [Stmt.hollow]; rfl
  | compound first others => rw [Stmt.hollow]; rfl

@[simp] theorem firstExpr_setLeading (s : Stmt) (leading : List BlankLine) :
    (s.setLeading leading).firstExpr? = s.firstExpr? := by
  cases s with
  | line _ items ending =>
    rcases items with _ | ⟨⟨statement, semicolon⟩, items⟩
    · rfl
    · cases statement <;> rfl
  | function head suite => rfl
  | classDef head suite => rfl
  | compound first others => cases first; rfl

/-- Only the first statement counts. -/
theorem leadingString_cons (s : Stmt) (body : List Stmt) :
    leadingString? (s :: body) = s.firstExpr?.filter Expr.isStringLiteral := by
  rw [leadingString?, List.head?_cons, Option.bind_some]

theorem exists_cons_of_leadingString {body : List Stmt} {value : Expr} (h : leadingString? body = some value) :
    ∃ s rest, body = s :: rest := by
  cases body with
  | nil => cases h
  | cons s rest => exact ⟨s, rest, rfl⟩

@[simp] theorem leadingString_hollowBody (body : List Stmt) :
    leadingString? (hollowBody body) = leadingString? body := by
  cases body with
  | nil => rw [hollowBody]
  | cons s body => rw [hollowBody, leadingString_cons, leadingString_cons, firstExpr_hollow]

/-- Wrapping keeps the string that a body starts with. -/
theorem leadingString_wrapBody {style : Style} {file indent : String} {line : Nat} (body : List Stmt) :
    leadingString? (wrapBody style file indent line body) = leadingString? body := by
  rw [← leadingString_hollowBody, hollow_wrapBody, leadingString_hollowBody]

/-- Wrapping keeps what a body starts with, as far as docstrings and imports from `__future__` go. -/
theorem startsWithPreamble_wrapBody {style : Style} {file indent : String} {line : Nat} (body : List Stmt) :
    startsWithPreamble (wrapBody style file indent line body) = startsWithPreamble body := by
  cases body with
  | nil => rw [wrapBody_nil]
  | cons s body => simp [startsWithPreamble]

/-! ## Functions -/

theorem splitDocstring_of_startsWith {body : List Stmt} (h : startsWithDocstring body = true) :
    ∃ s rest, body = s :: rest ∧ splitDocstring body = ([s], rest) := by
  cases body with
  | nil => cases h
  | cons s rest =>
    refine ⟨s, rest, rfl, ?_⟩
    rw [splitDocstring, if_pos (by simpa [startsWithDocstring] using h)]

theorem splitDocstring_of_not_startsWith {body : List Stmt} (h : startsWithDocstring body = false) :
    splitDocstring body = ([], body) := by
  cases body with
  | nil => rfl
  | cons s rest =>
    rw [splitDocstring, if_neg (by simpa [startsWithDocstring] using h)]

/-- What becomes of the string that a function starts with when the function is measured: alone on
its line it stays in the first place, and otherwise it is the first thing in the `try`, behind the
start of the clock. -/
structure KeepsLeadingString (function : String) (body out : List Stmt) : Prop where
  alone : startsWithDocstring body = true → ∀ value, leadingString? body = some value →
    leadingString? out = some value
  followed : startsWithDocstring body = false → ∀ value, leadingString? body = some value →
    leadingString? out = none ∧ ∃ kept footer record,
      out = [startStatement function, guardedStatement kept footer record] ∧ leadingString? kept = some value

/-- How a suite starts does not change when it becomes a block. -/
theorem starts_asBlock {suite : Suite} {ending : LineEnd} {step : Option String} {body : List Stmt}
    {footer : List BlankLine} (h : suite.asBlock = .block ending step body footer) :
    leadingString? body = leadingString? suite.statements ∧
      startsWithDocstring body = startsWithDocstring suite.statements := by
  cases suite with
  | block =>
    cases h
    exact ⟨rfl, rfl⟩
  | inline blank items ending =>
    cases h
    -- The block has the same line with another end.
    rcases items with _ | ⟨⟨statement, semicolon⟩, _ | ⟨second, others⟩⟩
    · exact ⟨rfl, rfl⟩
    · cases statement <;> exact ⟨rfl, rfl⟩
    · cases statement <;> exact ⟨rfl, rfl⟩

/-- A function that comes out measured keeps the string it starts with in one of two places. -/
theorem Site.ComesOutMeasured.keepsLeadingString {file : String} {t : Site} {suite : Suite}
    (h : t.ComesOutMeasured file suite) : KeepsLeadingString t.name t.suite.statements suite.statements := by
  -- the statements come out as those of a block, split behind a docstring
  obtain ⟨ending, step, body, footer, kept, record, hblock, hkept, -, rfl⟩ := h.exists_body
  obtain ⟨hleading, hstarts⟩ := starts_asBlock hblock
  rw [Suite.statements]
  constructor
  · intro halone value hvalue
    rw [← hstarts] at halone
    rw [← hleading] at hvalue
    obtain ⟨s, rest, rfl, hsplit⟩ := splitDocstring_of_startsWith halone
    rw [hsplit, List.singleton_append, leadingString_cons]
    rwa [leadingString_cons] at hvalue
  · intro hfollowed value hvalue
    rw [← hstarts] at hfollowed
    rw [← hleading] at hvalue
    have hsplit := splitDocstring_of_not_startsWith hfollowed
    rw [hsplit, List.nil_append]
    refine ⟨rfl, kept, footer, record, rfl, ?_⟩
    obtain ⟨s, rest, rfl⟩ := exists_cons_of_leadingString hvalue
    rw [← leadingString_hollowBody, hkept, hsplit, leadingString_hollowBody]
    exact hvalue

@[simp] theorem leadingString_hollow (suite : Suite) :
    leadingString? suite.hollow.statements = leadingString? suite.statements := by
  cases suite with
  | block ending step body footer =>
    rw [Suite.hollow, Suite.statements, Suite.statements, leadingString_hollowBody]
  | inline blank items ending => rw [Suite.hollow]

/-- A function that is not measured starts as before. -/
theorem Site.ComesOutAs.leadingString {file : String} {t : Site} {out : FunctionHead × Suite}
    (h : t.ComesOutAs file out) (hmeasured : t.isMeasured = false) :
    leadingString? out.2.statements = leadingString? t.suite.statements := by
  rw [← leadingString_hollow, h.unmeasured hmeasured, leadingString_hollow]

/-! ## Modules -/

theorem preamble_of_startsWith {body : List Stmt} (h : startsWithPreamble body = true) :
    ∃ s rest others, body = s :: rest ∧ preamble body = s :: others := by
  cases body with
  | nil => cases h
  | cons s rest =>
    rw [startsWithPreamble, List.head?_cons, Option.any_some, Bool.or_eq_true] at h
    rw [preamble_eq, splitDocstring]
    split
    · exact ⟨s, rest, _, rfl, rfl⟩
    · rename_i hdoc
      have hfuture : s.isFutureImport = true := h.resolve_left hdoc
      rw [List.nil_append, List.takeWhile_cons_of_pos hfuture]
      exact ⟨s, rest, _, rfl, rfl⟩

theorem preamble_of_not_startsWith {body : List Stmt} (h : startsWithPreamble body = false) :
    preamble body = [] ∧ behindPreamble body = body := by
  cases body with
  | nil => exact ⟨rfl, rfl⟩
  | cons s rest =>
    rw [startsWithPreamble, List.head?_cons, Option.any_some, Bool.or_eq_false_iff] at h
    have hsplit : splitDocstring (s :: rest) = ([], s :: rest) := by
      rw [splitDocstring, if_neg (by simp [h.1])]
    rw [preamble_eq, behindPreamble_eq, hsplit, List.nil_append, List.takeWhile_cons_of_neg (by simp [h.2]),
      List.dropWhile_cons_of_neg (by simp [h.2])]
    exact ⟨rfl, rfl⟩

/-- Statements that are added to a module go behind the string it starts with if that belongs to the
preamble. -/
theorem leadingString_insertStatements {added body : List Stmt} {value : Expr}
    (h : leadingString? body = some value) (hfirst : added = [] ∨ startsWithPreamble body = true) :
    leadingString? (insertStatements added body) = some value := by
  rcases hfirst with rfl | hfirst
  · rw [insertStatements]
    exact h
  · cases hadded : added with
    | nil =>
      rw [insertStatements]
      exact h
    | cons s others =>
      obtain ⟨first, rest, more, rfl, hpreamble⟩ := preamble_of_startsWith hfirst
      rw [insertStatements_eq (List.cons_ne_nil s others), hpreamble, List.cons_append, leadingString_cons]
      rwa [leadingString_cons] at h

/-- Otherwise they go in front of it. -/
theorem insertStatements_before_leadingString {added body : List Stmt} {value : Expr}
    (h : leadingString? body = some value) (hne : added ≠ []) (hfirst : startsWithPreamble body = false) :
    ∃ rest, insertStatements added body = added ++ rest ∧ leadingString? rest = some value := by
  obtain ⟨hpreamble, hbehind⟩ := preamble_of_not_startsWith hfirst
  refine ⟨mapFirst setApart body, ?_, ?_⟩
  · rw [insertStatements_eq hne, hpreamble, hbehind, List.nil_append]
    rfl
  · obtain ⟨s, rest, rfl⟩ := exists_cons_of_leadingString h
    rw [mapFirst, setApart, leadingString_cons, firstExpr_setLeading]
    rwa [leadingString_cons] at h

/-- What becomes of the strings that a module and its functions start with. -/
structure Syntax.Module.KeepsLeadingStrings (m : Module) (added : List Stmt) (m' : Module) : Prop where
  inFront : added = [] ∨ startsWithPreamble m.body = true → ∀ value, leadingString? m.body = some value →
    leadingString? m'.body = some value
  behind : added ≠ [] → startsWithPreamble m.body = false → ∀ value, leadingString? m.body = some value →
    ∃ rest, m'.body = added ++ rest ∧ leadingString? rest = some value
  functions : ∃ out, functionsInBody m'.body = functionsInBody added ++ out ∧
    List.Forall₂ (fun t o => o.1 = t.head.withoutLeading ∧
      (t.isMeasured = true → KeepsLeadingString t.name t.suite.statements o.2.statements) ∧
      (t.isMeasured = false → leadingString? o.2.statements = leadingString? t.suite.statements)) m.sites out

/-- A string stays the first statement of a module or of a function that is measured if it is alone
on its line; in a module, an import from `__future__` on its line has the same effect.  In all
other cases what is added comes in front of it. -/
theorem leadingStrings_instrument {m : Module} {plan : Plan} {added : List Stmt}
    (hadded : plan.origin.statements? = some added) :
    ∃ m', m.instrument? plan = some m' ∧ m.KeepsLeadingStrings added m' := by
  let body := wrapBody m.style plan.fileName "" m.firstLine m.body
  have hleading : leadingString? body = leadingString? m.body := leadingString_wrapBody m.body
  have hstarts : startsWithPreamble body = startsWithPreamble m.body := startsWithPreamble_wrapBody m.body
  -- what is added is inserted after all functions have been wrapped, which keeps how the module starts
  refine ⟨{ m with body := insertStatements added body }, by rw [Module.instrument?, hadded, Option.map_some], ?_⟩
  constructor
  · intro hfirst value hvalue
    rw [← hleading] at hvalue
    rw [← hstarts] at hfirst
    exact leadingString_insertStatements hvalue hfirst
  · intro hne hfirst value hvalue
    rw [← hleading] at hvalue
    rw [← hstarts] at hfirst
    exact insertStatements_before_leadingString hvalue hne hfirst
  · refine ⟨functionsInBody body, functionsInBody_insertStatements added body, ?_⟩
    have hout := comesOut_wrapBody m.style plan.fileName "" (blankPieces m.style "" m.header) m.body
    refine hout.imp ?_
    intro t o ho
    exact ⟨ho.head, fun hmeasured => (ho.measured hmeasured).keepsLeadingString, ho.leadingString⟩

/-- An asynchronous function with the given statements. -/
def asyncFunction (body : List Stmt) : Stmt :=
  .function ⟨[], [], [], some (.bare "async"), .spaced "def", .spaced "f", [], .bare ":"⟩ (.block .plain none body [])

/-- A line with a string and a second statement. -/
def sharedStringLine : Stmt :=
  .line [] [⟨.expr (.string (.bare "'text'")), some ⟨.bare ";", ""⟩⟩, ⟨.pass (.spaced "pass"), none⟩] .plain

/-- An import of the collector goes behind the string that a module starts with. -/
theorem leadingStrings_instrument_small :
    (CollectorOrigin.importFrom Collector.moduleName).statements? = some [plainLine collectorImport] ∧
      ∃ m', (moduleOf [stringLine, stringLine]).instrument?
          ⟨"m.py", .importFrom Collector.moduleName⟩ = some m' ∧
        leadingString? m'.body = some (.string (.bare "'text'")) := by
  refine ⟨statements_moduleName, ?_⟩
  obtain ⟨m', hm', hkeeps⟩ :=
    @leadingStrings_instrument (moduleOf [stringLine, stringLine]) ⟨"m.py", .importFrom Collector.moduleName⟩ _
      statements_moduleName
  exact ⟨m', hm', hkeeps.inFront (Or.inr rfl) _ rfl⟩

/-- A string that shares its line with another statement is not the first statement of the measured
function any more. -/
theorem leadingString_of_shared_line :
    leadingString? [sharedStringLine] = some (.string (.bare "'text'")) ∧
      isMeasured ⟨[], [], [], some (.bare "async"), .spaced "def", .spaced "f", [], .bare ":"⟩
        (.block .plain none [sharedStringLine] []) = true ∧
      ((moduleOf [asyncFunction [sharedStringLine]]).instrument? ⟨"m.py", .absent⟩).map
          (fun m' => (functionsInBody m'.body).map fun o => leadingString? o.2.statements) = some [none] := by
  exact ⟨rfl, rfl, rfl⟩

end Stopwatch
