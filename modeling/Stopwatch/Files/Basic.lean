/-
  A tree of files.

  The tree maps locations to entries.  A location is the list of names from the
  root, so it never holds a link or a double dot; a path is brought to a location by
  `walk`, which follows links, at most forty of them.  Every change is made at one
  location and leaves all other entries as they are.
-/
import Stopwatch.Path

namespace Stopwatch

/-- The names from the root to an entry. -/
abbrev Location := List String

/-- What can stand at a location. -/
inductive Entry where
  | file (bytes : List UInt8) (executable : Bool)
  | directory
  | link (target : String)
  | pipe
  deriving DecidableEq, Repr, Inhabited

/-- Why the file system refuses a request. -/
inductive SystemFault where
  | missing
  | present
  | notDirectory
  | isDirectory
  | tooManyLinks
  deriving DecidableEq, Repr, Inhabited

/-- Entries at locations, and the working directory. -/
structure Files where
  entries : List (Location × Entry)
  workingDirectory : Location
  deriving Repr, Inhabited

namespace Files

/-! ## Entries -/

/-- The entry at a location; the root is a directory. -/
def find? (fs : Files) (l : Location) : Option Entry :=
  if l = [] then some .directory else (fs.entries.find? fun e => e.1 = l).map Prod.snd

/-- Removes the entry at a location. -/
def erase (fs : Files) (l : Location) : Files :=
  { fs with entries := fs.entries.filter fun e => e.1 ≠ l }

/-- Puts an entry at a location. -/
def insert (fs : Files) (l : Location) (e : Entry) : Files :=
  { fs with entries := (l, e) :: (fs.erase l).entries }

/-- Removes the entry at a location and all below it. -/
def eraseTree (fs : Files) (l : Location) : Files :=
  { fs with entries := fs.entries.filter fun e => !l.isPrefixOf e.1 }

/-- The entries directly in a directory, by name. -/
def children (fs : Files) (l : Location) : List (String × Entry) :=
  fs.entries.filterMap fun (at_, e) =>
    match Path.namesAfter? l at_ with
    | some [name] => some (name, e)
    | _ => none

/-! ## From paths to locations -/

/-- The most links that are followed on the way to a location. -/
def maxLinks : Nat := 40

/-- Where names lead to from a location.  All names but the last must be those of
directories; whether a link under the last name is followed is said by `follow`, and how
links are followed by `through`.  Nothing need stand at the location found. -/
def walkThrough (fs : Files) (follow : Bool) (through : Location → List String → Except SystemFault Location) :
    Location → List String → Except SystemFault Location
  | here, [] => .ok here
  | here, name :: rest =>
    match fs.find? here with
    | none => .error .missing
    | some .directory =>
      if name = ".." then walkThrough fs follow through here.dropLast rest
      else
        match fs.find? (here ++ [name]) with
        | some (.link target) =>
          if rest.isEmpty && !follow then .ok (here ++ [name])
          else
            let p := Path.ofText target
            through (if p.isAbsolute then [] else here) (p.names ++ rest)
        | _ => walkThrough fs follow through (here ++ [name]) rest
    | some _ => .error .notDirectory

/-- Where names lead to from a location when at most a given number of links is followed. -/
def walk (fs : Files) (follow : Bool) : Nat → Location → List String → Except SystemFault Location
  | 0 => walkThrough fs follow fun _ _ => .error .tooManyLinks
  | links + 1 => walkThrough fs follow (walk fs follow links)

/-- Where a path starts. -/
def start (fs : Files) (p : Path) : Location :=
  if p.isAbsolute then [] else fs.workingDirectory

/-- A path from the root, without double dots.  Links are not looked at. -/
def absolute (fs : Files) (p : Path) : Path :=
  if p.isAbsolute then ⟨p.anchor, Path.settle p.names⟩
  else ⟨.root, Path.settle (fs.workingDirectory ++ p.names)⟩

/-- The location that a path leads to, all links followed. -/
def locate (fs : Files) (p : Path) : Except SystemFault Location :=
  fs.walk true maxLinks (fs.start p) p.names

/-- The location of a path itself, which may be that of a link. -/
def locateLink (fs : Files) (p : Path) : Except SystemFault Location :=
  fs.walk false maxLinks (fs.start p) p.names

/-! ## Questions -/

/-- The entry that a path leads to. -/
def status? (fs : Files) (p : Path) : Option Entry :=
  match fs.locate p with
  | .ok l => fs.find? l
  | .error _ => none

/-- The entry of a path itself. -/
def linkStatus? (fs : Files) (p : Path) : Option Entry :=
  match fs.locateLink p with
  | .ok l => fs.find? l
  | .error _ => none

/-- Whether a path leads to something. -/
def exists? (fs : Files) (p : Path) : Bool :=
  (fs.status? p).isSome

/-- Whether a path leads to a regular file. -/
def isFile (fs : Files) (p : Path) : Bool :=
  match fs.status? p with
  | some (.file ..) => true
  | _ => false

/-- Whether a path leads to a directory. -/
def isDirectory (fs : Files) (p : Path) : Bool :=
  fs.status? p = some .directory

/-- Whether a path leads to a regular file that may be executed. -/
def isExecutable (fs : Files) (p : Path) : Bool :=
  match fs.status? p with
  | some (.file _ executable) => executable
  | _ => false

/-- The bytes of the file that a path leads to. -/
def read (fs : Files) (p : Path) : Except SystemFault (List UInt8) := do
  match fs.find? (← fs.locate p) with
  | some (.file bytes _) => .ok bytes
  | some .directory => .error .isDirectory
  | some _ => .ok []
  | none => .error .missing

/-! ## Changes -/

/-- Gives a file new bytes; makes the file where there is none. -/
def write (fs : Files) (p : Path) (change : List UInt8 → List UInt8) : Except SystemFault Files := do
  let l ← fs.locate p
  match fs.find? l with
  | some (.file bytes executable) => .ok (fs.insert l (.file (change bytes) executable))
  | some .directory => .error .isDirectory
  | some _ => .ok fs
  | none => .ok (fs.insert l (.file (change []) false))

/-- Puts a new entry under a path, which must not lead to one yet. -/
def make (fs : Files) (p : Path) (e : Entry) : Except SystemFault Files := do
  let l ← fs.locateLink p
  match fs.find? l with
  | some _ => .error .present
  | none => .ok (fs.insert l e)

/-- Makes a directory. -/
def makeDirectory (fs : Files) (p : Path) : Except SystemFault Files :=
  fs.make p .directory

/-- Makes a link. -/
def makeLink (fs : Files) (p : Path) (target : String) : Except SystemFault Files :=
  fs.make p (.link target)

/-- Makes a pipe. -/
def makePipe (fs : Files) (p : Path) : Except SystemFault Files :=
  fs.make p .pipe

/-- Removes a file or a link. -/
def remove (fs : Files) (p : Path) : Except SystemFault Files := do
  let l ← fs.locateLink p
  match fs.find? l with
  | some .directory => .error .isDirectory
  | some _ => .ok (fs.erase l)
  | none => .error .missing

/-- Says whether a file may be executed. -/
def setExecutable (fs : Files) (p : Path) (executable : Bool) : Files :=
  match fs.locate p with
  | .error _ => fs
  | .ok l =>
    match fs.find? l with
    | some (.file bytes _) => fs.insert l (.file bytes executable)
    | _ => fs

/-- The names in the directory that a path leads to. -/
def list (fs : Files) (p : Path) : Except SystemFault (List (String × Entry)) := do
  let l ← fs.locate p
  match fs.find? l with
  | some .directory => .ok (fs.children l)
  | some _ => .error .notDirectory
  | none => .error .missing

/-! ## Entries after a change -/

@[simp] theorem find?_nil (fs : Files) : fs.find? [] = some .directory := rfl

end Files

end Stopwatch
