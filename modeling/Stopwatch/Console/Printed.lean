/-
  Reports on a console.

  Each report is printed as lines that are no longer than the console is wide; only what
  a program has printed is passed on at any length.  Messages, paths and names are
  escaped, so that no tag in them counts.
-/
import Stopwatch.Number.Format
import Stopwatch.Report
import Stopwatch.Console.Markup
import Stopwatch.Console.Table

namespace Stopwatch

open Console

namespace Console

/-- Lines as they are printed. -/
def printedLines (lines : List (List Char)) : String :=
  String.ofList (lines.flatMap fun line => line ++ ['\n'])

/-- A text without markup as it is printed. -/
def printedPlain (width : Nat) (text : String) : String :=
  printedLines (wrap width text.toList)

/-- A message after a label. -/
def printedMessage? (width : Nat) (label message : String) : Option String :=
  (shownLiteral? message.toList).map fun shown => printedLines (wrap width (label.toList ++ shown))

/-- What a program has printed, without the line feeds at its end. -/
def printedOutput (text : String) : String :=
  let kept := Text.dropEndWhile (· = '\n') text.toList
  printedLines (((dropCursorControls kept).splitOn '\n').map expandTabs)

/-- A rule with a title. -/
def printedRule? (width : Nat) (title : String) : Option String :=
  if title.isEmpty then some (printedLines [plainRule width])
  else (shownLiteral? title.toList).map fun shown => printedLines [titledRule width shown]

/-- The line of one file in a summary, and a line for each of its functions. -/
def printedDetails? (width : Nat) (d : FileDetails) : Option String := do
  let path ← shownLiteral? d.path.toList
  let names ← d.functions.mapM fun name => shownLiteral? name.toList
  return printedLines (wrap width ("  ".toList ++ path ++ s!" ({d.count})".toList)) ++
    String.join (names.map fun name => printedLines (wrap width ("    - ".toList ++ name)))

/-- A summary. -/
def printedSummary? (width : Nat) (s : Summary) : Option String := do
  let details ← s.details.mapM (printedDetails? width)
  return printedPlain width
      s!"Files: {s.files}  With async: {s.filesWithAsync}  Async functions: {s.functions}" ++
    String.join details

/-- How many rows of a ranking are printed. -/
def printedRows : Nat := 5

/-- A numbered table of names with a figure each; an empty one is not printed. -/
def printedRanking? (width : Nat) (title figure : String) (rows : List (String × String)) : Option String :=
  if rows = [] then some ""
  else do
    let rows := rows.take printedRows
    let names ← rows.mapM fun row => shownLiteral? row.1.toList
    let columns :=
      [⟨['#'], .right, (List.range rows.length).map fun i => (toString (i + 1)).toList⟩,
       ⟨"Function".toList, .left, names⟩,
       (⟨figure.toList, .right, rows.map fun row => row.2.toList⟩ : Column)]
    return printedLines (tableLines width title.toList columns rows.length)

/-- Statistics: the figures, the slowest calls and the functions called most. -/
def printedStatistics? (width : Nat) (s : Statistics) : Option String := do
  let slowest := s.slowest.map fun m => (m.name, Number.formatFixed 6 m.totalTime)
  let mostCalled := s.mostCalled.map fun (name, calls) => (name, toString calls)
  let rule ← printedRule? width "Execution statistics"
  let slowest ← printedRanking? width "Slowest functions" "Time (s)" slowest
  let mostCalled ← printedRanking? width "Most called functions" "Calls" mostCalled
  return rule ++
    String.join ([s!"Total function calls: {s.calls}", s!"Unique functions: {s.names}",
      s!"Total execution time: {Number.formatFixed 6 s.total}s",
      s!"Average execution time: {Number.formatFixed 6 s.average}s"].map (printedPlain width)) ++
    slowest ++ mostCalled

end Console

/-- A report as it is printed on a console of `width` cells; `none` if a tag in it closed
a style that is not open. -/
def Report.printed? (width : Nat) : Report → Option String
  | .info text => printedMessage? width "" text
  | .warn text => printedMessage? width "Warning: " text
  | .error text => printedMessage? width "Error: " text
  | .execution text => printedRule? width text
  | .output text => some (printedOutput text)
  | .summary s => printedSummary? width s
  | .statistics s => printedStatistics? width s

end Stopwatch
