/-
  From rows to an outline.

  The indentation of the logical lines says how they nest: a line with deeper lines
  after it heads a block that consists of them.  The rows are taken one after
  another; the blocks that are still open form a stack.  A line without code goes to
  the code line after it, unless the block that ends there still claims it by its
  indentation: then it stands at the foot of that block.
-/
import Stopwatch.Syntax.Scan

namespace Stopwatch.Syntax

/-- A logical line with the lines in front of it, and the block that it may head.  The
step of a block is `none` if it is the usual one. -/
inductive OutlineLine where
  | leaf (leading : List BlankLine) (tokens : List Token) (ending : LineEnd)
  | head (leading : List BlankLine) (tokens : List Token) (ending : LineEnd)
      (step : Option String) (block : List OutlineLine) (footer : List BlankLine)
  deriving Inhabited

/-- The outline of a text.  `footer` are the lines after the last statement. -/
structure Outline where
  style : Style
  lines : List OutlineLine
  footer : List BlankLine

/-- How far a line is indented, with tabs going to the next multiple of eight, and
with tabs counted as one; the two must agree on how lines nest. -/
structure Depth where
  columns : Nat
  tabless : Nat
  deriving DecidableEq, Repr, Inhabited

/-- The depth of a line.  A form feed starts to count anew, and a line that is
continued keeps the depth of its first part. -/
def depthFrom (d : Depth) : List Char → Depth
  | [] => d
  | ' ' :: rest => depthFrom ⟨d.columns + 1, d.tabless + 1⟩ rest
  | '\t' :: rest => depthFrom ⟨(d.columns / 8 + 1) * 8, d.tabless + 1⟩ rest
  | '\x0c' :: rest => depthFrom ⟨0, 0⟩ rest
  | '\\' :: rest => if d.columns = 0 then depthFrom d rest else d
  | _ :: rest => depthFrom d rest

/-- A block that is still open: the indentation of its lines, the step that it adds
to that of the block around it, its depth, and its lines so far, last one first. -/
structure OpenBlock where
  indent : String
  step : String
  depth : Depth
  lines : List OutlineLine

/-- The state of the outliner: the innermost block, those around it, the lines
without code that are not yet given away, and the first indentation step. -/
structure OutlineState where
  inner : OpenBlock
  outer : List OpenBlock
  pending : List BlankLine
  usualStep : Option String

/-- The most blocks that may be open at once. -/
def maxBlocks : Nat := 100

/-- Splits the lines after a block: those up to the last one with its indentation
are its foot. -/
def takeFooter (indent : String) (lines : List BlankLine) : List BlankLine × List BlankLine :=
  let foreign := lines.reverse.takeWhile fun l => (afterIndent? indent l.blank).isNone
  let footer := lines.take (lines.length - foreign.length)
  (footer.map (BlankLine.settle indent), foreign.reverse)

/-- Gives a block to the last of the lines around it. -/
def attachBlock (usualStep : Option String) (b : OpenBlock) (footer : List BlankLine) :
    List OutlineLine → List OutlineLine
  | .leaf leading tokens ending :: before =>
    let step := if usualStep = some b.step then none else some b.step
    .head leading tokens ending step b.lines.reverse footer :: before
  | lines => lines

/-- Closes the innermost block. -/
def OutlineState.close? (s : OutlineState) : Option OutlineState :=
  match s.outer with
  | [] => none
  | parent :: outer =>
    let (footer, pending) := takeFooter s.inner.indent s.pending
    some { s with
      inner := { parent with lines := attachBlock s.usualStep s.inner footer parent.lines }
      outer
      pending }

/-- Closes blocks until the innermost one has a given depth. -/
def OutlineState.closeTo? (depth : Depth) : Nat → OutlineState → Option OutlineState
  | 0, s => if s.inner.depth = depth then some s else none
  | fuel + 1, s =>
    if s.inner.depth.columns ≤ depth.columns then if s.inner.depth = depth then some s else none
    else s.close?.bind (closeTo? depth fuel)

/-- Closes all blocks but the outermost. -/
def OutlineState.closeAll : Nat → OutlineState → OutlineState
  | 0, s => s
  | fuel + 1, s =>
    match s.close? with
    | none => s
    | some s => s.closeAll fuel

/-- Whether the last line can still head a block. -/
def canHead : List OutlineLine → Bool
  | .leaf .. :: _ => true
  | _ => false

/-- Opens a block below the last line. -/
def OutlineState.open? (indentation : List Char) (depth : Depth) (s : OutlineState) : Option OutlineState := do
  let step ← Text.afterPrefix? s.inner.indent.toList indentation
  if !canHead s.inner.lines || depth.tabless ≤ s.inner.depth.tabless || s.outer.length ≥ maxBlocks then none
  let step := String.ofList step
  pure { s with
    inner := ⟨String.ofList indentation, step, depth, []⟩
    outer := s.inner :: s.outer
    usualStep := s.usualStep.or (some step) }

/-- Adds a logical line to the innermost block. -/
def OutlineState.addLine (tokens : List Token) (ending : LineEnd) (s : OutlineState) : OutlineState :=
  let indent := s.inner.indent
  let leading := s.pending.map (BlankLine.settle indent)
  let settled := tokens.map fun t => { t with lexeme := { t.lexeme with gap := t.lexeme.gap.settle indent } }
  { s with inner := { s.inner with lines := .leaf leading settled ending :: s.inner.lines }, pending := [] }

/-- Takes one row. -/
def OutlineState.step? (s : OutlineState) : Row → Option OutlineState
  | .blank line => some { s with pending := s.pending ++ [line] }
  | .code indentation tokens ending =>
    let depth := depthFrom ⟨0, 0⟩ indentation
    let placed :=
      if depth.columns > s.inner.depth.columns then s.open? indentation depth
      else s.closeTo? depth s.outer.length
    placed.map (OutlineState.addLine tokens ending)

/-- The usual line break of a text is its first one. -/
def usualBreak (cs : List Char) : LineBreak :=
  ((lineBreak? (cs.dropWhile fun c => !isBreak c)).map Prod.fst).getD .feed

/-- The usual indentation step of a text without blocks. -/
def defaultStep : String := "    "

/-- The outline of a text, unless it cannot be cut into tokens or its indentation is
inconsistent. -/
def outline? (cs : List Char) : Option Outline := do
  let usual := usualBreak cs
  let rows ← rows? usual cs
  let last ← rows.foldlM OutlineState.step? ⟨⟨"", "", ⟨0, 0⟩, []⟩, [], [], none⟩
  let last := last.closeAll last.outer.length
  pure {
    style := ⟨usual, last.usualStep.getD defaultStep⟩
    lines := last.inner.lines.reverse
    footer := last.pending.map (BlankLine.settle "") }

end Stopwatch.Syntax
