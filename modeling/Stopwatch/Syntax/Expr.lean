/-
  Expressions.

  An expression keeps all its tokens, in their order.  Only those shapes have a
  constructor of their own that something asks about: names, literals, attribute
  look-ups, calls, subscripts, `await`, and a comparison of two operands.  Every
  other expression is a phrase: its tokens and its parts one after another.

  Brackets around an expression do not change what it is, so most questions look
  through them.
-/
import Stopwatch.Syntax.Token

namespace Stopwatch.Syntax

/-- An expression, or a part of one. -/
inductive Expr where
  | token (lexeme : Lexeme)
  | name (lexeme : Lexeme)
  | number (literal : Lexeme)
  | string (literal : Lexeme)
  | ellipsis (dots : Lexeme)
  /-- Strings that stand side by side; at least two. -/
  | strings (parts : List Expr)
  /-- A formatted string: quotes, literal text and fields. -/
  | formatted (parts : List Expr)
  | bracketed (opening : Lexeme) (inner : Expr) (closing : Lexeme)
  | attribute (value : Expr) (dot member : Lexeme)
  | call (callee : Expr) (opening : Lexeme) (arguments : List Expr) (closing : Lexeme)
  /-- An argument.  `lead` is empty, a star, two stars, or a keyword and `=`. -/
  | argument (lead : List Lexeme) (value : Expr) (comma : List Lexeme)
  | subscript (value : Expr) (opening : Lexeme) (slices : List Expr) (closing : Lexeme)
  | await (keyword : Lexeme) (operand : Expr)
  /-- Two operands and one operator, which may consist of two words. -/
  | comparison (left : Expr) (operator : List Lexeme) (right : Expr)
  | phrase (parts : List Expr)
  deriving Inhabited

namespace Expr

mutual

/-- The tokens of an expression. -/
def lexemes : Expr → List Lexeme
  | .token l | .name l | .number l | .string l | .ellipsis l => [l]
  | .strings parts | .formatted parts | .phrase parts => lexemesOf parts
  | .bracketed opening inner closing => opening :: (inner.lexemes ++ [closing])
  | .attribute value dot member => value.lexemes ++ [dot, member]
  | .call callee opening arguments closing =>
    callee.lexemes ++ opening :: (lexemesOf arguments ++ [closing])
  | .argument lead value comma => lead ++ (value.lexemes ++ comma)
  | .subscript value opening slices closing =>
    value.lexemes ++ opening :: (lexemesOf slices ++ [closing])
  | .await keyword operand => keyword :: operand.lexemes
  | .comparison left operator right => left.lexemes ++ (operator ++ right.lexemes)

/-- The tokens of expressions that stand one after another. -/
def lexemesOf : List Expr → List Lexeme
  | [] => []
  | e :: es => e.lexemes ++ lexemesOf es

end

mutual

/-- The number of `await` expressions in an expression. -/
def awaitCount : Expr → Nat
  | .token _ | .name _ | .number _ | .string _ | .ellipsis _ => 0
  | .strings parts | .formatted parts | .phrase parts => awaitCountOf parts
  | .bracketed _ inner _ => inner.awaitCount
  | .attribute value _ _ => value.awaitCount
  | .call callee _ arguments _ => callee.awaitCount + awaitCountOf arguments
  | .argument _ value _ => value.awaitCount
  | .subscript value _ slices _ => value.awaitCount + awaitCountOf slices
  | .await _ operand => operand.awaitCount + 1
  | .comparison left _ right => left.awaitCount + right.awaitCount

/-- The number of `await` expressions in several expressions. -/
def awaitCountOf : List Expr → Nat
  | [] => 0
  | e :: es => e.awaitCount + awaitCountOf es

end

/-- The expression inside all brackets around it. -/
def unbracketed : Expr → Expr
  | .bracketed _ inner _ => inner.unbracketed
  | e => e

/-- The last component of a name-like expression; what it is called with and what it
is subscripted with do not count. -/
def terminalName? : Expr → Option String
  | .bracketed _ inner _ => inner.terminalName?
  | .call callee _ _ _ => callee.terminalName?
  | .subscript value _ _ _ => value.terminalName?
  | .attribute _ _ member => some member.text
  | .name lexeme => some lexeme.text
  | _ => none

/-- Whether an expression is a plain string, or several side by side. -/
def isStringLiteral (e : Expr) : Bool :=
  match e.unbracketed with
  | .string _ | .strings _ => true
  | _ => false

/-- Whether an expression is `...`. -/
def isEllipsis (e : Expr) : Bool :=
  match e.unbracketed with
  | .ellipsis _ => true
  | _ => false

/-- Whether an argument is given by keyword, or as a mapping of keywords. -/
def isKeywordArgument : Expr → Bool
  | .argument lead _ _ => lead.length = 2 || lead.any fun l => l.text = "**"
  | _ => false

/-- The value of an argument. -/
def argumentValue : Expr → Expr
  | .argument _ value _ => value
  | e => e

@[simp] theorem lexemesOf_nil : lexemesOf [] = [] := rfl

@[simp] theorem lexemesOf_cons (e : Expr) (es : List Expr) : lexemesOf (e :: es) = e.lexemes ++ lexemesOf es := rfl

@[simp] theorem awaitCountOf_nil : awaitCountOf [] = 0 := rfl

@[simp] theorem awaitCountOf_cons (e : Expr) (es : List Expr) :
    awaitCountOf (e :: es) = e.awaitCount + awaitCountOf es := rfl

end Expr

end Stopwatch.Syntax
