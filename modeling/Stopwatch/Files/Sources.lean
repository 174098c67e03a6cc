/-
  Source files.

  The sources under a directory are all entries whose name ends in `.py`, except
  instrumented copies, which are told by their name, and everything below directories
  that are hidden or hold caches.  They are listed in the order of their paths.
-/
import Stopwatch.Files.Basic
import Stopwatch.Text.Search

namespace Stopwatch

/-- The directories that are never looked into, besides those whose name starts with a
dot. -/
def skippedDirectories : List String :=
  ["__pycache__", ".build", ".git", ".venv", "venv", "node_modules"]

/-- Whether a directory is not looked into. -/
def isSkipped (name : String) : Bool :=
  skippedDirectories.contains name || name.toList.head? = some '.'

/-- Whether a path is that of an instrumented copy: its stem ends in a given suffix. -/
def Path.isInstrumented (p : Path) (suffix : String) : Bool :=
  Text.endsWith p.stem.toList suffix.toList

/-- Whether the entry under some names below a directory is a source. -/
def isSource (suffix : String) (names : List String) : Bool :=
  match names.getLast? with
  | none => false
  | some name =>
    Text.endsWith name.toList ".py".toList && !(Path.mk .relative names).isInstrumented suffix &&
      !names.dropLast.any isSkipped

namespace Files

/-- The names below a directory under which sources stand, in order. -/
def sourceNames (fs : Files) (directory : Location) (suffix : String) : List (List String) :=
  let below := fs.entries.filterMap fun e => Path.namesAfter? directory e.1
  (below.filter (isSource suffix)).mergeSort Path.partsLe

/-- The sources under a path.  A path that leads to a file is the only source itself. -/
def sources (fs : Files) (root : Path) (suffix : String) : List Path :=
  if fs.isFile root then [root]
  else
    match fs.locate root with
    | .error _ => []
    | .ok l =>
      if fs.find? l = some .directory then
        (fs.sourceNames l suffix).map fun names => ⟨root.anchor, root.names ++ names⟩
      else []

/-- A path as it is shown: relative to a root that it lies under, and by its name alone
if the root is a file. -/
def shown (fs : Files) (p root : Path) : String :=
  if fs.isFile root then p.name
  else ((p.relativeTo? root).getD p).text

end Files

end Stopwatch
