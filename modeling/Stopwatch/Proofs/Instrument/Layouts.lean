/-
  Functions that differ only in their layout.

  What a function consists of is a sequence of statements.  They may stand on lines of
  their own or share lines, in a block or behind the colon, with any space and comments
  between their tokens.  `Suite.singles` is this sequence, one by one and without the
  layout.

  Whether a suite is a stub is asked line by line.  So `...` alone and a string and `...`
  on two lines are stubs in every layout, but a string and `...` that share their line are
  none.  `alike_iff_of_singles` says that this is the only case in which the layout of a
  function makes a difference for how it is located and whether it is measured.
-/
import Stopwatch.Instrument

namespace Stopwatch

open Syntax

/-! ## Tokens without the space in front of them -/

/-- A token with nothing in front of it. -/
def Syntax.Lexeme.withoutGap (l : Lexeme) : Lexeme :=
  .bare l.text

mutual

/-- An expression without the space between its tokens. -/
def Syntax.Expr.withoutGaps : Expr → Expr
  | .token l => .token l.withoutGap
  | .name l => .name l.withoutGap
  | .number l => .number l.withoutGap
  | .string l => .string l.withoutGap
  | .ellipsis l => .ellipsis l.withoutGap
  | .strings parts => .strings (partsWithoutGaps parts)
  | .formatted parts => .formatted (partsWithoutGaps parts)
  | .bracketed opening inner closing => .bracketed opening.withoutGap inner.withoutGaps closing.withoutGap
  | .attribute value dot member => .attribute value.withoutGaps dot.withoutGap member.withoutGap
  | .call callee opening arguments closing =>
    .call callee.withoutGaps opening.withoutGap (partsWithoutGaps arguments) closing.withoutGap
  | .argument lead value comma =>
    .argument (lead.map Lexeme.withoutGap) value.withoutGaps (comma.map Lexeme.withoutGap)
  | .subscript value opening slices closing =>
    .subscript value.withoutGaps opening.withoutGap (partsWithoutGaps slices) closing.withoutGap
  | .await keyword operand => .await keyword.withoutGap operand.withoutGaps
  | .comparison left operator right =>
    .comparison left.withoutGaps (operator.map Lexeme.withoutGap) right.withoutGaps
  | .phrase parts => .phrase (partsWithoutGaps parts)

/-- Expressions without the space between their tokens. -/
def partsWithoutGaps : List Expr → List Expr
  | [] => []
  | e :: es => e.withoutGaps :: partsWithoutGaps es

end

mutual

/-- Space awaits nothing. -/
@[simp] theorem awaitCount_withoutGaps (e : Expr) : e.withoutGaps.awaitCount = e.awaitCount := by
  match e with
  | .token _ | .name _ | .number _ | .string _ | .ellipsis _ => rfl
  | .strings parts | .formatted parts | .phrase parts =>
    simp only [Expr.withoutGaps, Expr.awaitCount, awaitCount_partsWithoutGaps parts]
  | .bracketed _ inner _ => simp only [Expr.withoutGaps, Expr.awaitCount, awaitCount_withoutGaps inner]
  | .attribute value _ _ => simp only [Expr.withoutGaps, Expr.awaitCount, awaitCount_withoutGaps value]
  | .call callee _ arguments _ =>
    simp only [Expr.withoutGaps, Expr.awaitCount, awaitCount_withoutGaps callee, awaitCount_partsWithoutGaps arguments]
  | .argument _ value _ => simp only [Expr.withoutGaps, Expr.awaitCount, awaitCount_withoutGaps value]
  | .subscript value _ slices _ =>
    simp only [Expr.withoutGaps, Expr.awaitCount, awaitCount_withoutGaps value, awaitCount_partsWithoutGaps slices]
  | .await _ operand => simp only [Expr.withoutGaps, Expr.awaitCount, awaitCount_withoutGaps operand]
  | .comparison left _ right =>
    simp only [Expr.withoutGaps, Expr.awaitCount, awaitCount_withoutGaps left, awaitCount_withoutGaps right]

@[simp] theorem awaitCount_partsWithoutGaps (es : List Expr) :
    Expr.awaitCountOf (partsWithoutGaps es) = Expr.awaitCountOf es := by
  match es with
  | [] => rfl
  | e :: es =>
    rw [partsWithoutGaps, Expr.awaitCountOf_cons, Expr.awaitCountOf_cons, awaitCount_withoutGaps e,
      awaitCount_partsWithoutGaps es]

end

/-- Brackets are looked through with or without the space in them. -/
theorem unbracketed_withoutGaps (e : Expr) : e.withoutGaps.unbracketed = e.unbracketed.withoutGaps := by
  fun_induction Expr.unbracketed e with
  | case1 _ inner _ ih => rw [Expr.withoutGaps, Expr.unbracketed, ih]
  | case2 e hbracketed =>
    cases e with
    | bracketed opening inner closing => exact (hbracketed opening inner closing rfl).elim
    | _ => rfl

@[simp] theorem isStringLiteral_withoutGaps (e : Expr) : e.withoutGaps.isStringLiteral = e.isStringLiteral := by
  rw [Expr.isStringLiteral, Expr.isStringLiteral, unbracketed_withoutGaps]
  cases e.unbracketed <;> rfl

@[simp] theorem isEllipsis_withoutGaps (e : Expr) : e.withoutGaps.isEllipsis = e.isEllipsis := by
  rw [Expr.isEllipsis, Expr.isEllipsis, unbracketed_withoutGaps]
  cases e.unbracketed <;> rfl

/-- A small statement without the space between its tokens. -/
def Syntax.Small.withoutGaps : Small → Small
  | .expr value => .expr value.withoutGaps
  | .importFrom keyword dots source rest =>
    .importFrom keyword.withoutGap (dots.map Lexeme.withoutGap) (source.map Expr.withoutGaps) rest.withoutGaps
  | .pass keyword => .pass keyword.withoutGap
  | .other parts => .other parts.withoutGaps

@[simp] theorem awaitCount_smallWithoutGaps (s : Small) : s.withoutGaps.awaitCount = s.awaitCount := by
  cases s with
  | expr value => exact awaitCount_withoutGaps value
  | importFrom => rfl
  | pass => rfl
  | other parts => exact awaitCount_withoutGaps parts

/-- A decorator without the layout of its line. -/
def Syntax.Decorator.withoutGaps (d : Decorator) : Decorator :=
  ⟨[], d.sign.withoutGap, d.value.withoutGaps, .plain⟩

@[simp] theorem decoratorAwaits_withoutGaps (ds : List Decorator) :
    decoratorAwaits (ds.map Decorator.withoutGaps) = decoratorAwaits ds := by
  simp [decoratorAwaits, Decorator.withoutGaps, Function.comp_def]

/-- A function up to the colon, without layout. -/
def Syntax.FunctionHead.withoutGaps (h : FunctionHead) : FunctionHead where
  leading := []
  decorators := h.decorators.map Decorator.withoutGaps
  afterDecorators := []
  asynchronous := h.asynchronous.map Lexeme.withoutGap
  keyword := h.keyword.withoutGap
  name := h.name.withoutGap
  signature := partsWithoutGaps h.signature
  colon := h.colon.withoutGap

@[simp] theorem awaitCount_functionWithoutGaps (h : FunctionHead) : h.withoutGaps.awaitCount = h.awaitCount := by
  simp [FunctionHead.withoutGaps, FunctionHead.awaitCount]

/-- The bases and keywords of a class, without layout. -/
def Syntax.ClassArguments.withoutGaps (a : ClassArguments) : ClassArguments :=
  ⟨a.opening.withoutGap, partsWithoutGaps a.items, a.closing.withoutGap⟩

/-- A class up to the colon, without layout. -/
def Syntax.ClassHead.withoutGaps (h : ClassHead) : ClassHead where
  leading := []
  decorators := h.decorators.map Decorator.withoutGaps
  afterDecorators := []
  keyword := h.keyword.withoutGap
  name := h.name.withoutGap
  typeParameters := partsWithoutGaps h.typeParameters
  arguments := h.arguments.map ClassArguments.withoutGaps
  colon := h.colon.withoutGap

@[simp] theorem awaitCount_classWithoutGaps (h : ClassHead) : h.withoutGaps.awaitCount = h.awaitCount := by
  simp [ClassHead.withoutGaps, ClassHead.awaitCount, ClassArguments.withoutGaps, Function.comp_def]

/-- A clause up to the colon, without layout. -/
def Syntax.ClauseHead.withoutGaps (h : ClauseHead) : ClauseHead where
  leading := []
  asynchronous := h.asynchronous.map Lexeme.withoutGap
  keyword := h.keyword.withoutGap
  condition := partsWithoutGaps h.condition
  colon := h.colon.withoutGap

/-! ## Statements one by one -/

mutual

/-- A statement by itself: a small one, or one with all that is in its suites. -/
inductive Single where
  | small (statement : Small)
  | function (head : FunctionHead) (body : List Single)
  | classDef (head : ClassHead) (body : List Single)
  | compound (clauses : List SingleClause)

/-- A clause with all that is in its suite. -/
inductive SingleClause where
  | mk (head : ClauseHead) (body : List Single)

end

/-- The small statements of a line, one by one. -/
def itemSingles (items : List Item) : List Single :=
  items.map fun i => .small i.statement.withoutGaps

mutual

/-- The statements that stand where the tree has one: those of a line, or a single one. -/
def Syntax.Stmt.singles : Stmt → List Single
  | .line _ items _ => itemSingles items
  | .function head suite => [.function head.withoutGaps suite.singles]
  | .classDef head suite => [.classDef head.withoutGaps suite.singles]
  | .compound first others => [.compound (first.single :: clauseSingles others)]

/-- A clause with the statements of its suite. -/
def Syntax.Clause.single : Clause → SingleClause
  | .mk head suite => .mk head.withoutGaps suite.singles

/-- Clauses with the statements of their suites. -/
def clauseSingles : List Clause → List SingleClause
  | [] => []
  | c :: cs => c.single :: clauseSingles cs

/-- The statements of a suite, one by one. -/
def Syntax.Suite.singles : Suite → List Single
  | .block _ _ body _ => bodySingles body
  | .inline _ items _ => itemSingles items

/-- The statements of some lines, one by one. -/
def bodySingles : List Stmt → List Single
  | [] => []
  | s :: ss => s.singles ++ bodySingles ss

end

/-- The statements of a suite are those of its lines. -/
theorem singles_eq_flatMap (suite : Suite) : suite.singles = suite.statements.flatMap Stmt.singles := by
  cases suite with
  | block ending step body footer =>
    rw [Suite.singles, Suite.statements]
    induction body with
    | nil => rw [bodySingles, List.flatMap_nil]
    | cons s body ih => rw [bodySingles, ih, List.flatMap_cons]
  | inline blank items ending => simp [Suite.singles, Suite.statements, Stmt.singles]

/-! ## Awaits -/

mutual

/-- The number of `await` expressions in a statement. -/
def Single.awaitCount : Single → Nat
  | .small statement => statement.awaitCount
  | .function head body => head.awaitCount + singlesAwaits body
  | .classDef head body => head.awaitCount + singlesAwaits body
  | .compound clauses => singleClauseAwaits clauses

/-- The number of `await` expressions in a clause. -/
def SingleClause.awaitCount : SingleClause → Nat
  | .mk head body => Expr.awaitCountOf head.condition + singlesAwaits body

/-- The number of `await` expressions in clauses. -/
def singleClauseAwaits : List SingleClause → Nat
  | [] => 0
  | c :: cs => c.awaitCount + singleClauseAwaits cs

/-- The number of `await` expressions in statements. -/
def singlesAwaits : List Single → Nat
  | [] => 0
  | s :: ss => s.awaitCount + singlesAwaits ss

end

theorem singlesAwaits_append (a b : List Single) : singlesAwaits (a ++ b) = singlesAwaits a + singlesAwaits b := by
  induction a with
  | nil => rw [singlesAwaits, List.nil_append, Nat.zero_add]
  | cons s a ih => rw [List.cons_append, singlesAwaits, singlesAwaits, ih, Nat.add_assoc]

theorem singlesAwaits_itemSingles (items : List Item) : singlesAwaits (itemSingles items) = itemAwaits items := by
  induction items with
  | nil => rfl
  | cons i items ih =>
    rw [itemSingles] at ih
    rw [itemSingles, List.map_cons, singlesAwaits, Single.awaitCount, awaitCount_smallWithoutGaps, ih, itemAwaits,
      itemAwaits, List.map_cons, List.sum_cons]

mutual

/-- Statements that are taken one by one have the same awaits. -/
theorem singlesAwaits_stmt (s : Stmt) : singlesAwaits s.singles = s.awaitCount := by
  match s with
  | .line _ items _ => rw [Stmt.singles, singlesAwaits_itemSingles, Stmt.awaitCount]
  | .function head suite =>
    simp only [Stmt.singles, singlesAwaits, Single.awaitCount, singlesAwaits_suite suite, Stmt.awaitCount,
      awaitCount_functionWithoutGaps, Nat.add_zero]
  | .classDef head suite =>
    simp only [Stmt.singles, singlesAwaits, Single.awaitCount, singlesAwaits_suite suite, Stmt.awaitCount,
      awaitCount_classWithoutGaps, Nat.add_zero]
  | .compound first others =>
    simp only [Stmt.singles, singlesAwaits, Single.awaitCount, singleClauseAwaits, singlesAwaits_clause first,
      singlesAwaits_clauses others, Stmt.awaitCount, Nat.add_zero]

theorem singlesAwaits_clause (c : Clause) : c.single.awaitCount = c.awaitCount := by
  match c with
  | .mk head suite =>
    simp only [Clause.single, SingleClause.awaitCount, singlesAwaits_suite suite, Clause.awaitCount,
      ClauseHead.withoutGaps, awaitCount_partsWithoutGaps]

theorem singlesAwaits_clauses (cs : List Clause) : singleClauseAwaits (clauseSingles cs) = clauseAwaits cs := by
  match cs with
  | [] => rfl
  | c :: cs =>
    rw [clauseSingles, singleClauseAwaits, singlesAwaits_clause c, singlesAwaits_clauses cs, clauseAwaits]

theorem singlesAwaits_suite (suite : Suite) : singlesAwaits suite.singles = suite.awaitCount := by
  match suite with
  | .block _ _ body _ => rw [Suite.singles, singlesAwaits_body body, Suite.awaitCount]
  | .inline _ items _ => rw [Suite.singles, singlesAwaits_itemSingles, Suite.awaitCount]

theorem singlesAwaits_body (body : List Stmt) : singlesAwaits (bodySingles body) = bodyAwaits body := by
  match body with
  | [] => rfl
  | s :: body => rw [bodySingles, singlesAwaits_append, singlesAwaits_stmt s, singlesAwaits_body body, bodyAwaits]

end

/-! ## Stubs -/

/-- The expression that a statement consists of. -/
def Single.expr? : Single → Option Expr
  | .small (.expr value) => some value
  | _ => none

/-- Whether some statements are `...`, perhaps behind one plain string. -/
def isStubSequence : List Single → Bool
  | [only] => only.expr?.any Expr.isEllipsis
  | [first, only] => first.expr?.any Expr.isStringLiteral && only.expr?.any Expr.isEllipsis
  | _ => false

/-- Whether every line of a suite holds one statement. -/
def Syntax.Suite.isSpread (suite : Suite) : Bool :=
  suite.statements.all fun s => s.singles.length = 1

/-- Where a line has one statement, the two ways to ask for its expression agree. -/
theorem loneExpr_of_singles {s : Stmt} {single : Single} (h : s.singles = [single]) :
    single.expr? = s.loneExpr?.map Expr.withoutGaps := by
  cases s with
  | line leading items ending =>
    rw [Stmt.singles, itemSingles, List.map_eq_singleton_iff] at h
    obtain ⟨⟨statement, semicolon⟩, rfl, rfl⟩ := h
    cases statement <;> rfl
  | function head suite =>
    rw [Stmt.singles] at h
    cases h
    rfl
  | classDef head suite =>
    rw [Stmt.singles] at h
    cases h
    rfl
  | compound first others =>
    rw [Stmt.singles] at h
    cases h
    rfl

theorem isDocstring_of_singles {s : Stmt} {single : Single} (h : s.singles = [single]) :
    s.isDocstring = single.expr?.any Expr.isStringLiteral := by
  rw [loneExpr_of_singles h, Stmt.isDocstring]
  cases s.loneExpr? <;> simp

theorem isEllipsis_of_singles {s : Stmt} {single : Single} (h : s.singles = [single]) :
    s.isEllipsis = single.expr?.any Expr.isEllipsis := by
  rw [loneExpr_of_singles h, Stmt.isEllipsis]
  cases s.loneExpr? <;> simp

/-- A line with a lone expression holds one statement. -/
theorem exists_single_of_loneExpr {s : Stmt} {p : Expr → Bool} (h : s.loneExpr?.any p = true) :
    ∃ single, s.singles = [single] := by
  unfold Stmt.loneExpr? at h
  split at h
  · exact ⟨_, by rw [Stmt.singles, itemSingles, List.map_singleton]⟩
  · cases h

theorem isSpread_iff {suite : Suite} :
    suite.isSpread = true ↔ ∀ s ∈ suite.statements, ∃ single, s.singles = [single] := by
  simp [Suite.isSpread, List.length_eq_one_iff]

/-- The dots of a stub are no docstring. -/
theorem isDocstring_of_isEllipsis {s : Stmt} (h : s.isEllipsis = true) : s.isDocstring = false := by
  rw [Stmt.isEllipsis] at h
  rw [Stmt.isDocstring]
  cases hvalue : s.loneExpr? with
  | none => rfl
  | some value =>
    rw [hvalue, Option.any_some, Expr.isEllipsis] at h
    rw [Option.any_some, Expr.isStringLiteral]
    cases hinner : value.unbracketed <;> simp_all

/-- Whether a suite is a stub depends on its one or two lines. -/
theorem isStub_eq (suite : Suite) :
    suite.isStub = match suite.statements with
      | [only] => only.isEllipsis
      | [first, only] => first.isDocstring && only.isEllipsis
      | _ => false := by
  rw [Suite.isStub]
  rcases suite.statements with _ | ⟨first, _ | ⟨second, rest⟩⟩
  · rfl
  · cases hdoc : first.isDocstring with
    | false => simp [splitDocstring, hdoc]
    | true =>
      cases hellipsis : first.isEllipsis with
      | false => simp [splitDocstring, hdoc, hellipsis]
      | true => rw [isDocstring_of_isEllipsis hellipsis] at hdoc; cases hdoc
  · cases hdoc : first.isDocstring <;> cases rest <;> simp [splitDocstring, hdoc]

/-- A stub is a suite with the statements of a stub, each on a line of its own. -/
theorem isStub_iff (suite : Suite) :
    suite.isStub = true ↔ isStubSequence suite.singles = true ∧ suite.isSpread = true := by
  -- a stub has one line or two, and a sequence of statements may stand on fewer lines than that
  rw [isSpread_iff, singles_eq_flatMap, isStub_eq]
  rcases suite.statements with _ | ⟨first, _ | ⟨second, _ | ⟨third, rest⟩⟩⟩
  · simp [isStubSequence]
  · dsimp only
    constructor
    · intro h
      obtain ⟨single, hsingle⟩ := exists_single_of_loneExpr h
      rw [isEllipsis_of_singles hsingle] at h
      simp [isStubSequence, hsingle, h]
    · rintro ⟨hstub, hspread⟩
      obtain ⟨single, hsingle⟩ := hspread first (by simp)
      rw [isEllipsis_of_singles hsingle]
      simpa [isStubSequence, hsingle] using hstub
  · dsimp only
    constructor
    · intro h
      obtain ⟨hdoc, hellipsis⟩ := Bool.and_eq_true_iff.mp h
      obtain ⟨single, hsingle⟩ := exists_single_of_loneExpr hdoc
      obtain ⟨last, hlast⟩ := exists_single_of_loneExpr hellipsis
      rw [isDocstring_of_singles hsingle] at hdoc
      rw [isEllipsis_of_singles hlast] at hellipsis
      simp [isStubSequence, hsingle, hlast, hdoc, hellipsis]
    · rintro ⟨hstub, hspread⟩
      obtain ⟨single, hsingle⟩ := hspread first (by simp)
      obtain ⟨last, hlast⟩ := hspread second (by simp)
      rw [isDocstring_of_singles hsingle, isEllipsis_of_singles hlast]
      simpa [isStubSequence, hsingle, hlast] using hstub
  · -- Three lines with a statement each are too many.
    refine iff_of_false Bool.false_ne_true ?_
    rintro ⟨hstub, hspread⟩
    obtain ⟨a, ha⟩ := hspread first (by simp)
    obtain ⟨b, hb⟩ := hspread second (by simp)
    obtain ⟨c, hc⟩ := hspread third (by simp)
    simp [isStubSequence, ha, hb, hc] at hstub

/-! ## Functions -/

/-- A function definition as a statement. -/
def Candidate.statement (c : Candidate) : Stmt :=
  .function c.head c.suite

/-- Two functions are located with the same number of awaits and both with or both without a body, and
they are both measured or both left alone. -/
structure Candidate.Alike (c c' : Candidate) : Prop where
  hasBody : ∀ name name', (c.toFunction name).hasBody = (c'.toFunction name').hasBody
  awaitCount : ∀ name name', (c.toFunction name).awaitCount = (c'.toFunction name').awaitCount
  isMeasured : isMeasured c.head c.suite = isMeasured c'.head c'.suite

/-- Functions that are equal without their layout have the same statements, and both or neither are
asynchronous. -/
theorem singles_of_statement {c c' : Candidate} (h : c.statement.singles = c'.statement.singles) :
    c.suite.singles = c'.suite.singles ∧ c.head.asynchronous.isSome = c'.head.asynchronous.isSome := by
  rw [Candidate.statement, Candidate.statement, Stmt.singles, Stmt.singles] at h
  injection h with h
  injection h with hhead hsingles
  have hasynchronous := congrArg (fun head => head.asynchronous.isSome) hhead
  simp only [FunctionHead.withoutGaps, Option.isSome_map] at hasynchronous
  exact ⟨hsingles, hasynchronous⟩

/-- Functions with the same awaits are alike if both or neither are stubs. -/
theorem alike_of_isStub {c c' : Candidate} (h : c.statement.singles = c'.statement.singles)
    (hstub : c.suite.isStub = c'.suite.isStub) : c.Alike c' := by
  obtain ⟨hsingles, hasynchronous⟩ := singles_of_statement h
  have hawaits : c.suite.awaitCount = c'.suite.awaitCount := by
    rw [← singlesAwaits_suite, hsingles, singlesAwaits_suite]
  constructor
  · intro _ _
    rw [Candidate.toFunction, Candidate.toFunction, hstub]
  · intro _ _
    simp only [Candidate.toFunction, hstub, hawaits]
  · rw [isMeasured, isMeasured, hasynchronous, hstub]

/-- The suite of a function is a stub if its statements, taken one by one, are `...` or a plain string and `...`,
and no two of them share a line.  So two functions that differ in nothing but their layout are alike, unless they
have the statements of a stub and share a line in only one of the two. -/
theorem alike_iff_of_singles {c c' : Candidate} (h : c.statement.singles = c'.statement.singles) :
    (c.suite.isStub = true ↔ isStubSequence c.suite.singles = true ∧ c.suite.isSpread = true) ∧
      (c.Alike c' ↔ (isStubSequence c.suite.singles = true → c.suite.isSpread = c'.suite.isSpread)) := by
  refine ⟨isStub_iff c.suite, ?_⟩
  obtain ⟨hsingles, -⟩ := singles_of_statement h
  -- the statements are the same, so that only their lines can make a difference
  have hstub := isStub_iff c.suite
  have hstub' := isStub_iff c'.suite
  rw [← hsingles] at hstub'
  constructor
  · intro halike hsequence
    have hbody := halike.hasBody "" ""
    rw [Candidate.toFunction, Candidate.toFunction, Bool.not_inj_iff] at hbody
    rw [hsequence, eq_self, true_and] at hstub hstub'
    rw [Bool.eq_iff_iff, ← hstub, ← hstub', hbody]
  · intro hspread
    refine alike_of_isStub h (Bool.eq_iff_iff.mpr ?_)
    rw [hstub, hstub']
    exact and_congr_right fun hsequence => by rw [hspread hsequence]

/-- An asynchronous function with a given suite. -/
def functionWith (suite : Suite) : Candidate :=
  ⟨.function, none, ⟨[], [], [], some (.bare "async"), .spaced "def", .spaced "f", [], .bare ":"⟩, suite, 1, 1⟩

/-- A string and another expression behind the colon. -/
def sharedSuite (value : Lexeme → Expr) (text : String) : Suite :=
  .inline " " [⟨.expr (.string (.bare "'text'")), some ⟨.bare ";", ""⟩⟩, ⟨.expr (value (.spaced text)), none⟩] .plain

/-- A string and another expression on two lines. -/
def spreadSuite (value : Lexeme → Expr) (text : String) : Suite :=
  .block .plain none
    [.line [] [⟨.expr (.string (.bare "'text'")), none⟩] .plain,
      .line [] [⟨.expr (value (.bare text)), none⟩] .plain] []

/-- A string and a name are the same body on one line and on two. -/
theorem alike_of_shared_line :
    (functionWith (sharedSuite .name "x")).statement.singles =
        (functionWith (spreadSuite .name "x")).statement.singles ∧
      (functionWith (sharedSuite .name "x")).Alike (functionWith (spreadSuite .name "x")) := by
  have hsame : (functionWith (sharedSuite .name "x")).statement.singles =
      (functionWith (spreadSuite .name "x")).statement.singles := rfl
  refine ⟨hsame, (alike_iff_of_singles hsame).2.mpr fun hsequence => ?_⟩
  cases hsequence

/-- A string and `...` are a stub on two lines and none on one, so that the functions are not alike. -/
theorem isStub_of_shared_line :
    (sharedSuite .ellipsis "...").singles = (spreadSuite .ellipsis "...").singles ∧
      isStubSequence (sharedSuite .ellipsis "...").singles = true ∧
      (sharedSuite .ellipsis "...").isStub = false ∧ (spreadSuite .ellipsis "...").isStub = true ∧
      ¬(functionWith (sharedSuite .ellipsis "...")).Alike (functionWith (spreadSuite .ellipsis "...")) := by
  refine ⟨rfl, rfl, rfl, rfl, fun halike => ?_⟩
  have hbody := halike.hasBody "f" "f"
  cases hbody

end Stopwatch
