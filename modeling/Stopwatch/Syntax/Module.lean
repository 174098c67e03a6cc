/-
  Modules: the tree of a whole source text.

  A module is a list of statements.  A statement is a line of small statements, a
  function, a class, or a compound statement with its clauses; the last three have
  suites, and a suite is a block of deeper lines or small statements on the same
  line.  The cases of a `match` are kept as statements of its block.

  Nothing is lost: `Module.text` gives the source back, up to the indentation of
  lines that were indented in another way than their block.
-/
import Stopwatch.Syntax.Expr

namespace Stopwatch.Syntax

/-! ## The tree -/

/-- A statement without a suite. -/
inductive Small where
  | expr (value : Expr)
  /-- An import of names from a module; `source` is missing if only dots name it. -/
  | importFrom (keyword : Lexeme) (dots : List Lexeme) (source : Option Expr) (rest : Expr)
  | pass (keyword : Lexeme)
  | other (parts : Expr)
  deriving Inhabited

/-- A semicolon; `after` is the blank behind it where no statement follows. -/
structure Semicolon where
  lexeme : Lexeme
  after : String
  deriving Inhabited

/-- A small statement, and the semicolon behind it. -/
structure Item where
  statement : Small
  semicolon : Option Semicolon
  deriving Inhabited

/-- A decorator on a line of its own. -/
structure Decorator where
  leading : List BlankLine
  sign : Lexeme
  value : Expr
  ending : LineEnd
  deriving Inhabited

/-- A function up to the colon. -/
structure FunctionHead where
  leading : List BlankLine
  decorators : List Decorator
  afterDecorators : List BlankLine
  asynchronous : Option Lexeme
  keyword : Lexeme
  name : Lexeme
  signature : List Expr
  colon : Lexeme
  deriving Inhabited

/-- The bases and keywords of a class, in brackets. -/
structure ClassArguments where
  opening : Lexeme
  items : List Expr
  closing : Lexeme
  deriving Inhabited

/-- A class up to the colon. -/
structure ClassHead where
  leading : List BlankLine
  decorators : List Decorator
  afterDecorators : List BlankLine
  keyword : Lexeme
  name : Lexeme
  typeParameters : List Expr
  arguments : Option ClassArguments
  colon : Lexeme
  deriving Inhabited

/-- A clause of a compound statement up to the colon. -/
structure ClauseHead where
  leading : List BlankLine
  asynchronous : Option Lexeme
  keyword : Lexeme
  condition : List Expr
  colon : Lexeme
  deriving Inhabited

mutual

/-- A statement. -/
inductive Stmt where
  | line (leading : List BlankLine) (items : List Item) (ending : LineEnd)
  | function (head : FunctionHead) (suite : Suite)
  | classDef (head : ClassHead) (suite : Suite)
  | compound (first : Clause) (others : List Clause)

/-- A clause of a compound statement. -/
inductive Clause where
  | mk (head : ClauseHead) (suite : Suite)

/-- What a function, a class or a clause consists of. -/
inductive Suite where
  /-- Statements on lines of their own.  `step` is what they are indented by, relative
  to the lines around them. -/
  | block (ending : LineEnd) (step : Option String) (body : List Stmt) (footer : List BlankLine)
  /-- Small statements behind the colon. -/
  | inline (blank : String) (items : List Item) (ending : LineEnd)

end

instance : Inhabited Stmt := ⟨.line [] [] .plain⟩

/-- A source text. -/
structure Module where
  style : Style
  header : List BlankLine
  body : List Stmt
  footer : List BlankLine
  /-- Whether the last line has a line break. -/
  endsInBreak : Bool
  deriving Inhabited

/-! ## Printing -/

/-- The tokens of a small statement. -/
def Small.lexemes : Small → List Lexeme
  | .expr value => value.lexemes
  | .importFrom keyword dots source rest =>
    keyword :: (dots ++ ((source.map Expr.lexemes).getD [] ++ rest.lexemes))
  | .pass keyword => [keyword]
  | .other parts => parts.lexemes

/-- The pieces of a small statement and its semicolon. -/
def Item.pieces (style : Style) (indent : String) (i : Item) : List String :=
  lexemePieces style indent i.statement.lexemes ++
    match i.semicolon with
    | none => []
    | some s => s.lexeme.pieces style indent ++ [s.after]

/-- The pieces of small statements on one line. -/
def itemPieces (style : Style) (indent : String) (items : List Item) : List String :=
  items.flatMap (Item.pieces style indent)

/-- The pieces of a decorator. -/
def Decorator.pieces (style : Style) (indent : String) (d : Decorator) : List String :=
  blankPieces style indent d.leading ++ [indent] ++ d.sign.pieces style indent ++
    lexemePieces style indent d.value.lexemes ++ d.ending.pieces style

/-- The lines in front of a function or a class: blank ones and decorators. -/
def prefacePieces (style : Style) (indent : String) (leading : List BlankLine) (decorators : List Decorator)
    (afterDecorators : List BlankLine) : List String :=
  blankPieces style indent leading ++ decorators.flatMap (Decorator.pieces style indent) ++
    blankPieces style indent afterDecorators

/-- The lines in front of a function. -/
def FunctionHead.preface (style : Style) (indent : String) (h : FunctionHead) : List String :=
  prefacePieces style indent h.leading h.decorators h.afterDecorators

/-- The tokens of a function up to the colon. -/
def FunctionHead.lexemes (h : FunctionHead) : List Lexeme :=
  h.asynchronous.toList ++ h.keyword :: h.name :: (Expr.lexemesOf h.signature ++ [h.colon])

/-- The pieces of a function up to the colon. -/
def FunctionHead.pieces (style : Style) (indent : String) (h : FunctionHead) : List String :=
  h.preface style indent ++ indent :: lexemePieces style indent h.lexemes

/-- The tokens of bases and keywords. -/
def ClassArguments.lexemes (a : ClassArguments) : List Lexeme :=
  a.opening :: (Expr.lexemesOf a.items ++ [a.closing])

/-- The tokens of a class up to the colon. -/
def ClassHead.lexemes (h : ClassHead) : List Lexeme :=
  h.keyword :: h.name ::
    (Expr.lexemesOf h.typeParameters ++ ((h.arguments.map ClassArguments.lexemes).getD [] ++ [h.colon]))

/-- The pieces of a class up to the colon. -/
def ClassHead.pieces (style : Style) (indent : String) (h : ClassHead) : List String :=
  prefacePieces style indent h.leading h.decorators h.afterDecorators ++
    indent :: lexemePieces style indent h.lexemes

/-- The tokens of a clause up to the colon. -/
def ClauseHead.lexemes (h : ClauseHead) : List Lexeme :=
  h.asynchronous.toList ++ h.keyword :: (Expr.lexemesOf h.condition ++ [h.colon])

/-- The pieces of a clause up to the colon. -/
def ClauseHead.pieces (style : Style) (indent : String) (h : ClauseHead) : List String :=
  blankPieces style indent h.leading ++ indent :: lexemePieces style indent h.lexemes

/-- The indentation of the lines of a block. -/
def deeper (style : Style) (indent : String) (step : Option String) : String :=
  indent ++ step.getD style.indent

mutual

/-- The pieces of a statement in a block with the given indentation. -/
def Stmt.pieces (style : Style) (indent : String) : Stmt → List String
  | .line leading items ending =>
    blankPieces style indent leading ++ indent :: (itemPieces style indent items ++ ending.pieces style)
  | .function head suite => head.pieces style indent ++ suite.pieces style indent
  | .classDef head suite => head.pieces style indent ++ suite.pieces style indent
  | .compound first others => first.pieces style indent ++ clausePieces style indent others

/-- The pieces of a clause. -/
def Clause.pieces (style : Style) (indent : String) : Clause → List String
  | .mk head suite => head.pieces style indent ++ suite.pieces style indent

/-- The pieces of clauses. -/
def clausePieces (style : Style) (indent : String) : List Clause → List String
  | [] => []
  | c :: cs => c.pieces style indent ++ clausePieces style indent cs

/-- The pieces of a suite, given the indentation around it. -/
def Suite.pieces (style : Style) (indent : String) : Suite → List String
  | .block ending step body footer =>
    ending.pieces style ++ bodyPieces style (deeper style indent step) body ++
      blankPieces style (deeper style indent step) footer
  | .inline blank items ending => blank :: (itemPieces style indent items ++ ending.pieces style)

/-- The pieces of statements. -/
def bodyPieces (style : Style) (indent : String) : List Stmt → List String
  | [] => []
  | s :: ss => s.pieces style indent ++ bodyPieces style indent ss

end

/-- The pieces of a module, with a line break at the end of every line. -/
def Module.pieces (m : Module) : List String :=
  blankPieces m.style "" m.header ++ bodyPieces m.style "" m.body ++ blankPieces m.style "" m.footer

/-- The pieces of a module whose last line has a line break only if the module says so. -/
def Module.endPieces (m : Module) : List String :=
  let pieces := m.pieces
  if m.endsInBreak then if pieces.isEmpty then [m.style.newline.text] else pieces
  else
    match pieces.getLast? with
    | some last => if [LineBreak.feed, .returnFeed, .carriageReturn].any fun b => b.text = last then pieces.dropLast else pieces
    | none => []

/-- A module as text. -/
def Module.text (m : Module) : String :=
  String.join m.endPieces

@[simp] theorem bodyPieces_nil (style : Style) (indent : String) : bodyPieces style indent [] = [] := by
  rw [bodyPieces]

@[simp] theorem bodyPieces_cons (style : Style) (indent : String) (s : Stmt) (ss : List Stmt) :
    bodyPieces style indent (s :: ss) = s.pieces style indent ++ bodyPieces style indent ss := by
  rw [bodyPieces]

end Stopwatch.Syntax
