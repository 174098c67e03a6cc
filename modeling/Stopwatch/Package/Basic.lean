/-
  Packages.

  A directory is a package if it holds a manifest.  A package is instrumented in a
  working copy, so that the package itself stays as it is; here are the working copy,
  what is read from the manifest, and the plan by which the copy is made.
-/
import Stopwatch.Config
import Stopwatch.Files.Copy
import Stopwatch.Toml.Document

namespace Stopwatch

/-- A package, and the directory of its working copy. -/
structure Package where
  path : Path
  config : Config
  work : Path
  deriving Inhabited

namespace Package

/-- The stages in which a package is handled. -/
def stageNames : List String :=
  ["workspace", "copy", "instrument", "entry", "build", "locate", "run", "cleanup"]

/-- What the working directory is called that is made from a number. -/
def workName (n : Nat) : String :=
  "async_profiler_" ++ Action.nameOf n

/-- A package with the working directory of a number. -/
def ofNumber (path : Path) (config : Config) (n : Nat) : Package :=
  ⟨path, config, config.workRoot.child (workName n)⟩

/-- A package with a new working directory, which is not made yet. -/
def create (path : Path) (config : Config) : Action Package := do
  let n ← Action.freshNumber
  Action.plan stageNames
  return ofNumber path config n

/-- The manifest of a package. -/
def manifestPath (p : Package) : Path :=
  p.path.slash p.config.manifestName

/-- Whether a directory is a package. -/
def isPackage (p : Package) (fs : Files) : Bool :=
  fs.isFile p.manifestPath

/-- The directory of the sources in the working copy. -/
def sourceRoot (p : Package) : Path :=
  p.work.slash p.config.sourceDirectory

/-- The directory in the working copy where the package is built to. -/
def releaseDirectory (p : Package) : Path :=
  p.work.slash p.config.releaseDirectory

/-- Tells the user something. -/
def notify (text : String) : Action Unit :=
  Action.report (.info text)

/-! ## The manifest -/

/-- The manifest.  One that cannot be read, or is not TOML, counts as empty. -/
def manifest (p : Package) : Action Toml.Table := do
  match ← Action.attempt (Action.readText p.manifestPath) with
  | .ok text => return (Toml.ofText? text).getD []
  | .error f => if f.isSystem then return [] else Action.fail f

/-- What stands under `project` in a manifest; nothing, if the manifest has no such key. -/
def projectTable (manifest : Toml.Table) : Except Failure Toml.Table :=
  match Toml.get? manifest "project" with
  | none => .ok []
  | some (.table t) => .ok t
  | some v => .error (.value (.noLookup v.typeName "get"))

/-- What stands under `project` in the manifest of a package. -/
def project (p : Package) : Action Toml.Table := do
  match projectTable (← p.manifest) with
  | .ok t => return t
  | .error f => Action.fail f

/-- Whether a character may stand in the name of a file that is built. -/
def isNameChar (c : Char) : Bool :=
  c.isAlphanum || c = '_' || c = '.' || c = '-'

/-- A name with underscores for all characters that may not stand in it. -/
def safeName (name : String) : String :=
  if name = "" then "app" else String.ofList (name.toList.map fun c => if isNameChar c then c else '_')

/-- The name of the directory that a path leads to. -/
def directoryName (fs : Files) (p : Path) : String :=
  match fs.locate p with
  | .ok l => l.getLast?.getD ""
  | .error _ => (fs.absolute p).name

/-- The name of the project: that of the manifest, or else that of the directory. -/
def projectName (p : Package) : Action String := do
  let given := Toml.get? (← p.project) "name"
  let name := (given.filter Toml.isTruthy).map Toml.shown
  return safeName (name.getD (directoryName (← get).files p.path))

/-! ## The working copy -/

/-- One step of the plan by which a package is copied. -/
structure CopyStep where
  name : String
  relative : String
  required : Bool
  deriving DecidableEq, Repr, Inhabited

/-- The plan by which a package is copied; of the lock files, the first one that exists
is copied. -/
def copyPlan (p : Package) (fs : Files) : List CopyStep :=
  let lock := p.config.lockFiles.find? fun file => fs.exists? (p.path.slash file)
  [⟨"manifest", p.config.manifestName, true⟩, ⟨"sources", p.config.sourceDirectory, true⟩,
   ⟨"tests", p.config.testsDirectory, false⟩] ++
    (lock.map fun file => ⟨"lock file", file, false⟩).toList ++
    [⟨"build cache", p.config.buildCacheDirectory, false⟩]

/-- The problem of a required part that is missing. -/
def missingPart (step : CopyStep) : Problem :=
  if step.name = "sources" then .noSourceFiles step.relative else .packageFileMissing step.relative

/-- Takes back a step that has failed, and says why it is skipped. -/
def skipStep (step : CopyStep) (destination : Path) (f : Failure) : Action Unit := do
  discard (Action.attempt (Action.removeTree destination))
  let warning := step.name ++ " (" ++ step.relative ++ "): " ++ f.message
  Action.advance fun pipeline => { pipeline with copyWarnings := pipeline.copyWarnings ++ [warning] }

/-- Takes one step.  A part that is not required may be missing, and may fail. -/
def copyStep (p : Package) (step : CopyStep) : Action Unit := do
  let source := p.path.slash step.relative
  let destination := p.work.slash step.relative
  if (← Action.exists? source) then
    match ← Action.attempt (Action.copy source destination) with
    | .ok _ => pure ()
    | .error f => if step.required || !f.isSystem then Action.fail f else skipStep step destination f
  else if step.required then Action.raise (missingPart step)

/-- Takes all steps of a plan. -/
def copySteps (p : Package) : List CopyStep → Action Unit
  | [] => pure ()
  | step :: rest => do
    p.copyStep step
    p.copySteps rest

/-- Copies the package; what had to be skipped is told in one warning. -/
def copy (p : Package) : Action Unit := do
  p.copySteps (p.copyPlan (← get).files)
  let warnings := (← get).pipeline.copyWarnings
  if !warnings.isEmpty then
    Action.report (.warn ("Optional copy steps skipped: " ++ String.intercalate "; " warnings))

/-- Makes the working directory. -/
def makeWork (p : Package) : Action Unit :=
  Action.makeDirectories p.work false

/-- Removes the working directory. -/
def cleanUp (p : Package) : Action Unit :=
  Action.stage "cleanup" do
    if (← Action.exists? p.work) then Action.removeTree p.work

end Package

end Stopwatch
