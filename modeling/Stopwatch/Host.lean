/-
  The host of a run.

  A run sees and changes a host: the files, a clock, the child processes, the numbers
  from which names are made, and what has been reported and logged.  An action is a
  step of a run.  It may fail, and what it has changed until then stays changed.
-/
import Stopwatch.Clock
import Stopwatch.Failure
import Stopwatch.Process.Child
import Stopwatch.Report
import Stopwatch.Stages

namespace Stopwatch

/-- How far a pipeline has come. -/
structure Pipeline where
  stages : Stages
  /-- What could not be copied although it was wanted. -/
  copyWarnings : List String
  /-- Whether the collector has been put among the sources. -/
  collectorPlaced : Bool
  deriving Inhabited

/-- The fields of an event. -/
abbrev EventFields := List (String × Json)

/-- An event that has been added to a log. -/
structure Event where
  type : String
  data : EventFields
  /-- The milliseconds that it took. -/
  duration : Option Int
  moment : Timestamp
  /-- The files when it was added. -/
  found : Files
  /-- The files when it had been added. -/
  left : Files
  deriving Inhabited

/-- What a run can see and change. -/
structure Host where
  files : Files
  clock : Clock
  /-- How many names have been made from numbers. -/
  named : Nat
  /-- What the next children will do. -/
  upcoming : List Child
  /-- All children so far, the last one last. -/
  spawned : List Spawned
  /-- Where children look for modules, if that has been set. -/
  searchPath : Option String
  /-- Whether anybody listens to reports. -/
  listening : Bool
  reports : List Report
  /-- The pipeline that was started last. -/
  pipeline : Pipeline
  /-- The present moment. -/
  now : Timestamp
  /-- The metrics that have been accepted since earlier ones were forgotten. -/
  gathered : List Metric := []
  /-- The events that have been added to logs, the last one last. -/
  logged : List Event := []
  deriving Inhabited

/-- A step of a run. -/
abbrev Action := ExceptT Failure (StateM Host)

namespace Action

/-- An action that fails. -/
def fail (f : Failure) : Action α :=
  throw f

/-- An action that fails with a problem. -/
def raise (p : Problem) : Action α :=
  fail (.problem p)

/-- The result of an action, or its failure. -/
def attempt (a : Action α) : Action (Except Failure α) := fun host =>
  let (result, host) := a host
  (.ok result, host)

/-- An action, and another one after it however it ends; a failure of the second one
counts more. -/
def ensuring (a : Action α) (last : Action Unit) : Action α := do
  let result ← attempt a
  last
  match result with
  | .ok value => pure value
  | .error f => fail f

/-- The failures that pass a test are handled. -/
def handling (a : Action α) (test : Failure → Bool) (handle : Failure → Action α) : Action α := do
  match ← attempt a with
  | .ok value => pure value
  | .error f => if test f then handle f else fail f

/-- The present state of something on the host. -/
def observe (look : Host → α) : Action α := do
  return look (← get)

/-! ## Clock, names and reports -/

/-- The next reading of the clock. -/
def readClock : Action Float := fun host =>
  let (t, clock) := host.clock.read
  (.ok t, { host with clock })

/-- The name that is made from a number: thirty-two digits of base sixteen. -/
def nameOf (n : Nat) : String :=
  let digits := Nat.toDigits 16 n
  String.ofList (List.replicate (32 - digits.length) '0' ++ digits)

/-- A number from which no name has been made before. -/
def freshNumber : Action Nat := fun host =>
  (.ok (host.named + 1), { host with named := host.named + 1 })

/-- A name that has not been made before. -/
def freshName : Action String := do
  return nameOf (← freshNumber)

/-- Reports something to whoever listens. -/
def report (r : Report) : Action Unit :=
  modify fun host => if host.listening then { host with reports := host.reports ++ [r] } else host

/-! ## Files -/

/-- Turns a refusal of the file system into a failure that names the path. -/
def refusing (path : String) (result : Except SystemFault α) : Action α :=
  match result with
  | .ok value => pure value
  | .error fault => fail (.system (.refused fault path))

/-- Changes the files, unless the file system refuses. -/
def changeFiles (path : String) (change : Files → Except SystemFault Files) : Action Unit := do
  let files ← refusing path (change (← get).files)
  modify fun host => { host with files }

/-- The bytes of a file. -/
def readBytes (p : Path) : Action (List UInt8) := do
  refusing p.text ((← get).files.read p)

/-- The text of a file, which must be UTF-8; every line break becomes a line feed. -/
def readText (p : Path) : Action String := do
  match Text.Utf8.decode (← readBytes p) with
  | .ok cs => pure (String.ofList (Text.normalizeNewlines cs))
  | .error e => fail (.undecodable e)

/-- Gives a file a text. -/
def writeText (p : Path) (text : String) : Action Unit :=
  changeFiles p.text fun fs => fs.write p fun _ => Text.Utf8.encode text

/-- Adds a text at the end of a file. -/
def appendText (p : Path) (text : String) : Action Unit :=
  changeFiles p.text fun fs => fs.write p fun bytes => bytes ++ Text.Utf8.encode text

/-- Whether a path leads to something. -/
def exists? (p : Path) : Action Bool :=
  observe fun host => host.files.exists? p

/-! ## Stages -/

/-- Starts a pipeline of some stages. -/
def plan (names : List String) : Action Unit :=
  modify fun host => { host with pipeline := ⟨Stages.ofNames names, [], false⟩ }

/-- Changes the state of the pipeline. -/
def advance (change : Pipeline → Pipeline) : Action Unit :=
  modify fun host => { host with pipeline := change host.pipeline }

/-- Sets the status of a stage. -/
def mark (name : String) (status : StageStatus) : Action Unit :=
  advance fun p => { p with stages := p.stages.mark name status }

/-- Does the work of a stage: it is running until the work is done, and then has
succeeded or failed. -/
def stage (name : String) (work : Action α) : Action α := do
  mark name .running
  match ← attempt work with
  | .ok value => do
    mark name .succeeded
    pure value
  | .error f => do
    mark name .failed
    fail f

/-! ## Making and removing -/

/-- Makes a directory.  One that is there already is refused unless `mayExist`. -/
def makeDirectory (p : Path) (mayExist : Bool) : Action Unit := do
  let files := (← get).files
  match files.makeDirectory p with
  | .ok files => modify fun host => { host with files }
  | .error fault =>
    if mayExist && files.isDirectory p then pure () else fail (.system (.refused fault p.text))

/-- Makes a directory and the directories above it that are missing. -/
def makeDirectories (p : Path) (mayExist : Bool) : Action Unit :=
  go p.names.length p mayExist
where
  /-- Makes at most the given number of directories above. -/
  go : Nat → Path → Bool → Action Unit
    | 0, p, mayExist => makeDirectory p mayExist
    | levels + 1, p, mayExist => do
      match (← get).files.makeDirectory p with
      | .error .missing =>
        go levels p.parent true
        makeDirectory p mayExist
      | _ => makeDirectory p mayExist

/-- Removes a file or a link; one that is missing does not matter. -/
def removeFile (p : Path) : Action Unit := do
  match (← get).files.remove p with
  | .ok files => modify fun host => { host with files }
  | .error .missing => pure ()
  | .error fault => fail (.system (.refused fault p.text))

/-- Removes a directory and all below it. -/
def removeTree (p : Path) : Action Unit := do
  let files := (← get).files
  let l ← refusing p.text (files.locateLink p)
  match files.find? l with
  | some .directory => modify fun host => { host with files := files.eraseTree l }
  | some (.link _) => fail (.system .linkedTree)
  | some _ => fail (.system (.refused .notDirectory p.text))
  | none => fail (.system (.refused .missing p.text))

/-! ## Children -/

/-- Puts an entry under a path that a child writes; the directories above it are made
as needed. -/
def putContent (p : Path) (content : Content) : Action Unit := do
  makeDirectories p.parent true
  match content with
  | .file bytes executable =>
    changeFiles p.text fun fs => fs.write p fun _ => bytes
    if executable then modify fun host => { host with files := host.files.setExecutable p true }
  | .directory => makeDirectories p true
  | .link target => changeFiles p.text fun fs => fs.makeLink p target
  | .pipe => changeFiles p.text fun fs => fs.makePipe p

/-- Puts entries under some paths, one after the other. -/
def putContents : List (String × Content) → Action Unit
  | [] => pure ()
  | (path, content) :: rest => do
    putContent (Path.ofText path) content
    putContents rest

/-- Notes something about the last child. -/
def noteLast (note : Spawned → Spawned) : Action Unit :=
  modify fun host =>
    match host.spawned.getLast? with
    | some last => { host with spawned := host.spawned.dropLast ++ [note last] }
    | none => host

/-- Says what has become of the last child. -/
def settle (fate : Fate) : Action Unit :=
  noteLast fun last => { last with fate }

/-- Writes what a child writes. -/
def perform (child : Child) (arguments : List Argument) : Action Unit := do
  putContents child.files
  if child.archive then
    if let some target := archiveTarget? arguments then
      putContent (Path.ofText target) (.file (Text.Utf8.encode "PK") true)

/-- Starts the next child. -/
def start (command : Command) : Action Child := do
  let child := (← get).upcoming.headD Child.idle
  modify fun host =>
    { host with
      upcoming := host.upcoming.tail
      spawned := host.spawned ++ [⟨child, command, .running, host.files, host.files⟩] }
  match child.refusal with
  | some text =>
    settle .refused
    fail (.system (.notStarted text))
  | none =>
    ensuring (perform child command.arguments) do
      let files ← observe (·.files)
      noteLast fun last => { last with left := files }
    pure child

end Action

end Stopwatch
