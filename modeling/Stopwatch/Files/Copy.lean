/-
  Copying files.

  A file is copied with its right to be executed.  A directory is copied with all that
  is below it, links as links; parts that cannot be copied are left out and named in
  the failure at the end.
-/
import Stopwatch.Host

namespace Stopwatch

namespace Files

/-- Everything below a directory, parents first. -/
def below (fs : Files) (directory : Location) : List (List String × Entry) :=
  let found := fs.entries.filterMap fun e =>
    match Path.namesAfter? directory e.1 with
    | some [] => none
    | some names => some (names, e.2)
    | none => none
  found.mergeSort fun a b => Path.partsLe a.1 b.1

end Files

namespace Action

/-- Puts bytes under a path and says whether they may be executed. -/
def putFile (p : Path) (bytes : List UInt8) (executable : Bool) : Action Unit := do
  changeFiles p.text fun fs => fs.write p fun _ => bytes
  modify fun host => { host with files := host.files.setExecutable p executable }

/-- Puts a copy of one entry under a path. -/
def copyEntry (source : String) (entry : Entry) (destination : Path) : Action Unit :=
  match entry with
  | .file bytes executable => putFile destination bytes executable
  | .directory => changeFiles destination.text fun fs => fs.makeDirectory destination
  | .link target => do
    match (← get).files.makeLink destination target with
    | .ok files => modify fun host => { host with files }
    | .error fault => fail (.system (.linkRefused fault target destination.text))
  | .pipe => fail (.system (.namedPipe source))

/-- The text of a path below another one. -/
def textBelow (p : Path) (names : List String) : String :=
  p.text ++ "/" ++ String.intercalate "/" names

/-- Copies what is below a directory, and returns what could not be copied. -/
def copyEntries (source destination : Path) : List (List String × Entry) → Action (List (String × String × String))
  | [] => pure []
  | (names, entry) :: rest => do
    let from_ := textBelow source names
    match ← attempt (copyEntry from_ entry ⟨destination.anchor, destination.names ++ names⟩) with
    | .ok _ => copyEntries source destination rest
    | .error f => return (from_, textBelow destination names, f.message) :: (← copyEntries source destination rest)

/-- Copies a directory to a path where there is none yet. -/
def copyTree (source destination : Path) : Action Unit := do
  let files := (← get).files
  let l ← refusing source.text (files.locate source)
  makeDirectories destination false
  match ← copyEntries source destination (files.below l) with
  | [] => pure ()
  | parts => fail (.system (.notCopied parts))

/-- Refuses a path that leads to a pipe. -/
def refusePipe (files : Files) (p : Path) : Action Unit :=
  if files.status? p = some .pipe then fail (.system (.namedPipe p.text)) else pure ()

/-- Copies a file to a path, or into a directory. -/
def copyFile (source destination : Path) : Action Unit := do
  let files := (← get).files
  let target := if files.isDirectory destination then destination.slash source.name else destination
  refusePipe files source
  refusePipe files target
  let bytes ← readBytes source
  putFile target bytes (files.isExecutable source)

/-- Copies a file or a directory; directories above the copy of a file are made as
needed. -/
def copy (source destination : Path) : Action Unit := do
  if (← get).files.isDirectory source then copyTree source destination
  else
    makeDirectories destination.parent true
    copyFile source destination

end Action

end Stopwatch
