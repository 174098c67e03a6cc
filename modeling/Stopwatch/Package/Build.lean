/-
  Building and running a package.

  A package starts either at an entry that its manifest names or at the one source
  with a guard for the main program, for which a launcher is written.  The working copy
  is compiled and packed under one bound, and the executable that comes out is run.
-/
import Stopwatch.Package.Sources
import Stopwatch.Process.FileRun
import Stopwatch.Process.Supervisor

namespace Stopwatch

namespace Package

/-! ## Entry -/

/-- The file that an archive starts with. -/
def launcherFile : String := "__main__.py"

/-- The text of a launcher of a module. -/
def launcherText (module : String) : String :=
  "import runpy\n\nrunpy.run_module(" ++ Text.quoted module ++ ", run_name=\"__main__\", alter_sys=True)\n"

/-- The name of the module in a file, as it is imported from the root of the sources. -/
def moduleName (names : List String) : String :=
  let parts := names.dropLast ++ [(Path.mk .relative names).stem]
  String.intercalate "." (if parts.getLast? = some "__init__" then parts.dropLast else parts)

/-- How many entries the scripts of a manifest have. -/
def countScripts : Toml → Except Failure Nat
  | .table t => .ok t.length
  | .array items => .ok items.length
  | .text s => .ok s.length
  | v => .error (.value (.noLength v.typeName))

/-- The only entry among the scripts of a manifest, if there is just one. -/
def onlyScript? (scripts : Toml) : Except Failure (Option Toml) := do
  if (← countScripts scripts) ≠ 1 then return none
  match scripts with
  | .table ((_, entry) :: _) => return some entry
  | v => .error (.value (.noLookup v.typeName "values"))

/-- Chooses the one source with a guard, and writes a launcher for it. -/
def launch (p : Package) (results : List Instrumented) : Action Unit := do
  match results.filter (·.hasEntryPoint) with
  | [] => Action.raise .noEntryPoint
  | [entry] => do
    let names := (((Path.ofText entry.written).relativeTo? p.sourceRoot).map (·.names)).getD []
    Action.writeText (p.sourceRoot.child launcherFile) (launcherText (moduleName names))
  | entries => Action.raise (.severalEntryPoints (entries.map fun r => (Path.ofText r.written).name))

/-- How the package starts: at an entry, or at the launcher among its sources. -/
def resolveEntry (p : Package) (results : List Instrumented) : Action (Option Toml) := do
  if (← Action.exists? (p.sourceRoot.child launcherFile)) then return none
  let scripts := (Toml.get? (← p.project) "scripts").getD (.table [])
  match onlyScript? scripts with
  | .error f => Action.fail f
  | .ok (some entry) => return some entry
  | .ok none => do
    p.launch results
    return none

/-! ## Build -/

/-- The archive that the package is built to. -/
def archive (p : Package) : Action Path := do
  return p.releaseDirectory.child ((← p.projectName) ++ ".pyz")

/-- The arguments that compile the sources. -/
def compileArguments (p : Package) : List Argument :=
  [p.config.interpreter, "-m", "compileall", "-q", p.sourceRoot.text].map .text

/-- The arguments that pack the sources; an entry that says nothing is left out. -/
def packArguments (p : Package) (target : Path) (entry : Option Toml) : List Argument :=
  [p.config.interpreter, "-m", "zipapp", p.sourceRoot.text, "-o", target.text, "-p", p.config.interpreter].map .text ++
    match entry.filter Toml.isTruthy with
    | none => []
    | some (.text s) => [.text "-m", .text s]
    | some v => [.text "-m", .other v]

/-- Tells the user what was noticed during the build. -/
def tell : Notice → Action Unit
  | .diagnostic line => notify ("  " ++ line)
  | .progress text => notify ("  [Building...] " ++ text)
  | .heartbeat elapsed => notify ("  [Still building... " ++ toString (Number.truncate elapsed) ++ "s elapsed]")

/-- The supervisor of the build. -/
def supervisor (p : Package) : Supervisor :=
  ⟨p.config.buildLog, p.config.buildTimeout, p.config.heartbeatInterval, p.config.progressInterval, .patient⟩

/-- Takes one step of the build, and returns what it printed. -/
def buildStep (p : Package) (deadline : Float) (arguments : List Argument) : Action String := do
  let remaining := Record.atLeastZero (deadline - (← Action.readClock))
  let supervised ← p.supervisor.run ⟨arguments, some p.work.text, none⟩ (some remaining)
  supervised.notices.forM tell
  match supervised.result with
  | .error f => Action.fail f
  | .ok outcome =>
    if outcome.status = 0 then return outcome.output
    else
      notify ("Build failed. Check log at: " ++ p.config.buildLog.text)
      let printed := if outcome.errors = "" then outcome.output else outcome.errors
      Action.raise (.buildFailed (filterDiagnostics printed p.config.noisyMarkers))

/-- Compiles and packs the sources, and returns what was printed. -/
def build (p : Package) (entry : Option Toml) : Action String := do
  let log := p.config.buildLog
  Action.makeDirectories log.parent true
  Action.writeText log ""
  notify ("Build log: " ++ log.text)
  Action.makeDirectories p.releaseDirectory true
  let target ← p.archive
  let deadline := (← Action.readClock) + p.config.buildTimeout
  let compiled ← p.buildStep deadline p.compileArguments
  let packed ← p.buildStep deadline (p.packArguments target entry)
  notify "Build completed successfully"
  return String.intercalate "\n" ([compiled, packed].filter (· ≠ ""))

/-! ## Executable -/

/-- The extensions of files that are never the executable. -/
def otherExtensions : List String :=
  [".py", ".pyc", ".pyo", ".pyd", ".so", ".o", ".a", ".dylib", ".dll", ".json", ".log", ".txt"]

/-- Whether a path may be that of the executable. -/
def isCandidate (fs : Files) (path : Path) : Bool :=
  fs.isExecutable path && !otherExtensions.contains path.extension

/-- All paths in the release directory that may be that of the executable. -/
def candidates (p : Package) (fs : Files) : List Path :=
  match fs.list p.releaseDirectory with
  | .error _ => []
  | .ok found =>
    let paths := (found.map fun e => p.releaseDirectory.child e.1).mergeSort Path.le
    paths.filter (isCandidate fs)

/-- The executable: there must be exactly one. -/
def findExecutable (p : Package) : Action Path := do
  match p.candidates (← get).files with
  | [] => Action.raise (.noExecutable p.config.releaseDirectory)
  | [path] => return path
  | paths => Action.raise (.severalExecutables p.config.releaseDirectory (paths.map (·.name)))

/-- Runs an executable in the directory of the package, and returns its output. -/
def execute (p : Package) (path : Path) : Action String := do
  let searchPath ← Action.observe (·.searchPath)
  let (status, output) ← Action.stage "run" (Action.communicate
    (.ofTexts [p.config.interpreter, path.text] (some p.path.text) (some ⟨searchPath, some "1"⟩)))
  return withStatus status output

/-! ## All stages -/

/-- What building a package comes to. -/
structure Built where
  executable : Path
  work : Path
  output : String
  instrumented : List Instrumented
  deriving Inhabited

/-- Makes the working copy. -/
def prepare (p : Package) : Action Unit := do
  Action.stage "workspace" p.makeWork
  Action.stage "copy" do
    notify "Copying package to temporary location..."
    p.copy

/-- Instruments and builds a working copy. -/
def assemble (p : Package) : Action Built := do
  let results ← Action.stage "instrument" do
    notify "Instrumenting Python files..."
    let results ← p.instrumentSources
    notify ("Instrumented " ++ toString results.length ++ " file(s)")
    return results
  let entry ← Action.stage "entry" (p.resolveEntry results)
  let output ← Action.stage "build" do
    notify "Building instrumented package..."
    p.build entry
  let executable ← Action.stage "locate" p.findExecutable
  return ⟨executable, p.work, output, results⟩

/-- Copies, instruments and builds a package. -/
def instrumentAndBuild (p : Package) : Action Built := do
  notify ("Detected Python package at: " ++ p.path.text)
  p.prepare
  p.assemble

end Package

end Stopwatch
