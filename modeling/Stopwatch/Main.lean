/-
  The command line.

  Standard input lists the files that the program may see, one path on each line.  They
  are read first, the invocation is carried out on what was read, and what has changed is
  written back.  No other programs are started from here: each child is refused.
-/
import Std.Time.DateTime.Timestamp
import Stopwatch.Invocation

namespace Stopwatch.CommandLine

/-- A child that cannot be started. -/
def refusedChild : Child :=
  { Child.idle with refusal := some "no other programs are started from here" }

/-- A file that exists, with its bytes. -/
def readFile? (path : String) : IO (Option (String × List UInt8)) :=
  try
    return some (path, (← IO.FS.readBinFile path).toList)
  catch _ => return none

/-- The files whose paths are listed on a stream. -/
partial def listedFiles (input : IO.FS.Stream) : IO (List (String × List UInt8)) := do
  let line ← input.getLine
  if line.isEmpty then return []
  let first ← readFile? (line.dropEndWhile (· = '\n')).toString
  return first.toList ++ (← listedFiles input)

/-- A host with some directories and files. -/
def hostOf (workingDirectory : Path) (directories : List Path) (files : List (String × List UInt8))
    (reading : Float) (now : Timestamp) : Host :=
  let setUp : Action Unit := do
    for d in workingDirectory :: directories do Action.makeDirectories d true
    for (path, bytes) in files do Action.putContent (Path.ofText path) (.file bytes false)
  let host : Host :=
    { files := ⟨[], workingDirectory.names⟩
      clock := ⟨[reading]⟩
      named := 0
      upcoming := List.replicate (2 * files.length + 3) refusedChild
      spawned := []
      searchPath := none
      listening := true
      reports := []
      pipeline := ⟨⟨[]⟩, [], false⟩
      now }
  (setUp.run.run host).2

/-- Writes what differs between two states of the files. -/
def writeBack (before after : Files) : IO Unit := do
  let pathOf (l : Location) : String := "/" ++ "/".intercalate l
  for (l, e) in after.entries.reverse do
    if before.find? l ≠ some e then
      match e with
      | .directory => IO.FS.createDirAll (pathOf l)
      | .file bytes _ => IO.FS.writeBinFile (pathOf l) ⟨bytes.toArray⟩
      | .link _ | .pipe => pure ()
  for (l, e) in before.entries do
    if after.find? l = none && e ≠ .directory then IO.FS.removeFile (pathOf l)

/-- Carries out an invocation and gives the exit status. -/
def profile (i : Invocation) : IO UInt32 := do
  let home := Path.ofText ((← IO.getEnv "HOME").getD "/")
  let config := Config.usual (home.child ".async-latency") (Path.ofText "/tmp") "python3"
  let nanoseconds := (← Std.Time.Timestamp.now).toNanosecondsSinceUnixEpoch.toInt
  let now := (Timestamp.ofEpoch? (nanoseconds / 1000)).getD default
  let log ← readFile? ((RunLog.mk config.logDirectory none).file now.dayText).text
  let files ← listedFiles (← IO.getStdin)
  let reading := Float.ofNat (← IO.monoNanosNow) / 1000000000.0
  let workingDirectory := Path.ofText (toString (← IO.currentDir))
  let before := hostOf workingDirectory [home, config.workRoot] (log.toList ++ files) reading now
  let (result, after) := (i.perform config).run.run before
  writeBack before.files after.files
  let ending := match result with
    | .ok e => some e
    | .error _ => none
  IO.print ((i.standardOutput? after.reports ending).getD "")
  IO.eprint ((i.standardError? after.reports).getD "")
  if let .error f := result then IO.eprintln f.message
  return match ending with
    | some e => e.status.toUInt32
    | none => 1

end Stopwatch.CommandLine

open Stopwatch in
def main (arguments : List String) : IO UInt32 := do
  match Request.ofArguments? arguments with
  | some (.profile i) => CommandLine.profile i
  | some .help =>
    IO.print usage
    return 0
  | none =>
    IO.eprint usage
    return 2
