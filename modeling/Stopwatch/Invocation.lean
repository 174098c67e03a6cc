/-
  Invocations of the program.

  The arguments say what to measure, how long a build may take, and where the results
  go.  Messages are printed on standard output, unless the results are printed there as
  a document: then all messages go to standard error, and only a refused input is still
  told on standard output.
-/
import Stopwatch.Console.Printed
import Stopwatch.Number.Read
import Stopwatch.Run.Whole

namespace Stopwatch

/-! ## Arguments -/

/-- What an invocation asks for. -/
structure Invocation where
  input : Path
  /-- Whether the results are printed as a document. -/
  json : Bool
  /-- Where the results are written. -/
  resultsFile : Option Path
  /-- How long a build may take, in seconds. -/
  timeout : Option Float

/-- Arguments that have been read, in the form in which they were given. -/
structure GivenArguments where
  inputs : List String := []
  json : Bool := false
  help : Bool := false
  resultsFile : Option String := none
  timeout : Option String := none

/-- An option that takes a value. -/
inductive ValuedOption where
  | resultsFile
  | timeout
  deriving DecidableEq, Repr

/-- One argument by itself. -/
inductive GivenArgument where
  | input (text : String)
  | json
  | help
  /-- An option, and its value if that is part of the same argument. -/
  | valued (option : ValuedOption) (value : Option String)
  deriving DecidableEq, Repr

/-- An argument that starts with a hyphen. -/
def GivenArgument.ofOption? (arg : List Char) : Option GivenArgument :=
  let (name, value) := match Text.cut? ['='] arg with
    | some (name, value) => (String.ofList name, some (String.ofList value))
    | none => (String.ofList arg, none)
  match name, value with
  | "--json", none => some .json
  | "--help", none => some .help
  | "--output", _ => some (.valued .resultsFile value)
  | "--timeout", _ => some (.valued .timeout value)
  | _, _ =>
    match arg with
    | ['-', 'o'] => some (.valued .resultsFile none)
    | '-' :: 'o' :: value => some (.valued .resultsFile (some (String.ofList value)))
    | _ => none

/-- What an argument is; a hyphen alone is an input. -/
def GivenArgument.ofText? (arg : String) : Option GivenArgument :=
  match arg.toList with
  | '-' :: c :: rest => GivenArgument.ofOption? ('-' :: c :: rest)
  | _ => some (.input arg)

/-- Sets an option; the last value counts. -/
def GivenArguments.set (a : GivenArguments) (option : ValuedOption) (value : String) : GivenArguments :=
  match option with
  | .resultsFile => { a with resultsFile := some value }
  | .timeout => { a with timeout := some value }

/-- Takes in an argument that needs none after it. -/
def GivenArguments.add? (a : GivenArguments) : GivenArgument → Option GivenArguments
  | .input text => some { a with inputs := a.inputs ++ [text] }
  | .json => some { a with json := true }
  | .help => some { a with help := true }
  | .valued option (some value) => some (a.set option value)
  | .valued _ none => none

/-- Reads arguments after those that have been read.  After two hyphens alone, every
argument is an input. -/
def GivenArguments.read (a : GivenArguments) : List String → Option GivenArguments
  | [] => some a
  | "--" :: rest => some { a with inputs := a.inputs ++ rest }
  | [last] => (GivenArgument.ofText? last).bind a.add?
  | arg :: next :: rest =>
    match GivenArgument.ofText? arg with
    | some (.valued option none) => GivenArguments.read (a.set option next) rest
    | some given =>
      match a.add? given with
      | some a => GivenArguments.read a (next :: rest)
      | none => none
    | none => none

/-- What some arguments ask for. -/
inductive Request where
  | help
  | profile (invocation : Invocation)

/-- The request made by some arguments; `none` if they cannot be understood. -/
def Request.ofArguments? (arguments : List String) : Option Request := do
  let a ← GivenArguments.read {} arguments
  if a.help then return .help
  let timeout ← match a.timeout with
    | none => some none
    | some text => (Number.ofText? text.toList).map some
  match a.inputs with
  | [input] => return .profile ⟨Path.ofText input, a.json, a.resultsFile.map Path.ofText, timeout⟩
  | _ => none

/-- How the program is invoked. -/
def usage : String :=
  "Usage: stopwatch [OPTIONS] PATH\n\n" ++
    "Measures the wall-clock latency of the async functions of a file, a directory or a package.\n\n" ++
    "Options:\n" ++
    "  --json             Print the results as a document.\n" ++
    "  -o, --output PATH  Write the results to a file.\n" ++
    "  --timeout FLOAT    The longest time for a package build, in seconds.\n" ++
    "  --help             Show this text.\n"

/-! ## Carrying out -/

/-- How an invocation has ended. -/
inductive Ending where
  | finished (results : Results)
  /-- A failure was told, and there are no results. -/
  | withoutResults
  /-- The input was refused. -/
  | refused (problem : Problem)

/-- The exit status. -/
def Ending.status : Ending → Nat
  | .finished _ => 0
  | .withoutResults | .refused _ => 1

namespace Invocation

/-- A configuration with the timeout that was asked for. -/
def configured (i : Invocation) (c : Config) : Config :=
  { c with buildTimeout := i.timeout.getD c.buildTimeout }

/-- Writes the results to a file and tells so. -/
def writeResults (results : Results) (file : Path) : Action Unit := do
  Action.writeText file (results.text true ++ "\n")
  Action.report (.info ("Results written to " ++ file.text))

/-- Carries out an invocation. -/
def perform (i : Invocation) (c : Config) : Action Ending := do
  let config := i.configured c
  Config.makeDirectories config
  let log ← RunLog.create config.logDirectory (some (← Action.freshName))
  match ← Action.attempt (Run.run ⟨i.input, config, log⟩) with
  | .ok (some results) =>
    i.resultsFile.forM (writeResults results)
    return .finished results
  | .ok none => return .withoutResults
  | .error (.problem p) => if p.kind.isA .input then return .refused p else Action.raise p
  | .error f => Action.fail f

/-! ## Printing -/

/-- The width of the consoles. -/
def consoleWidth : Nat := 80

/-- All messages as they are printed. -/
def messages? (reports : List Report) : Option String :=
  (reports.mapM (Report.printed? consoleWidth)).map String.join

/-- The line about a refused input, whose markup counts. -/
def refusal? (p : Problem) : Option String :=
  (Console.shown? ("[red]Error:[/red] " ++ p.message).toList).map fun shown =>
    Console.printedLines (Console.wrap consoleWidth shown)

/-- What the ending itself puts on standard output. -/
def conclusion? (i : Invocation) : Ending → Option String
  | .finished results => some (if i.json then results.text true ++ "\n" else "")
  | .withoutResults => some ""
  | .refused p => refusal? p

/-- What is printed on standard output; there is no ending after a failure. -/
def standardOutput? (i : Invocation) (reports : List Report) (ending : Option Ending) : Option String := do
  let told ← if i.json then some "" else messages? reports
  let last ← match ending with
    | some e => i.conclusion? e
    | none => some ""
  return told ++ last

/-- What is printed on standard error. -/
def standardError? (i : Invocation) (reports : List Report) : Option String :=
  if i.json then messages? reports else some ""

end Invocation

end Stopwatch
