/-
  The collector of a running program.

  A collector keeps one entry for each completed call, in the order in which they
  complete.  When it is flushed it writes its entries to a file and announces the
  file; if the file cannot be written it prints a tagged line for each entry instead.
  It is flushed once: a second flush does nothing.
-/
import Stopwatch.Metric.Recover

namespace Stopwatch

/-- A number as a program hands it over. -/
inductive Quantity where
  | integer (value : Int)
  | float (value : Float)
  deriving Inhabited

namespace Quantity

/-- A number as a document. -/
def document : Quantity → Json
  | .integer n => .integer n
  | .float x => .float x

/-- A number as a floating-point number. -/
def toFloat : Quantity → Float
  | .integer n => Json.floatOfInt n
  | .float x => x

end Quantity

/-- What a collector keeps of one completed call. -/
structure CollectedEntry where
  function : String
  duration : Quantity
  timestamp : Quantity
  line : Int
  file : String
  thread : Int
  deriving Inhabited

namespace CollectedEntry

/-- An entry as a document. -/
def document (e : CollectedEntry) : Json :=
  Record.fieldsDocument e.function e.duration.document e.timestamp.document e.line e.file e.thread

/-- An entry as a tagged line. -/
def taggedLine (e : CollectedEntry) : String :=
  latencyTag ++ " " ++ e.function ++ latencySeparator ++ Number.formatFixed 6 e.duration.toFloat ++ "s\n"

end CollectedEntry

/-- A collector: where it will write, what it has collected, and whether it has been
flushed. -/
structure Collector where
  path : String
  entries : List CollectedEntry
  flushed : Bool
  deriving Inhabited

/-- What a flush leaves behind. -/
structure Flush where
  collector : Collector
  files : Files
  printed : String
  /-- The path of the file, if it has been written. -/
  written : Option String
  deriving Inhabited

namespace Collector

/-- A collector that has nothing yet. -/
def ofPath (path : String) : Collector :=
  ⟨path, [], false⟩

/-- The collector of the process of a given number.  It writes to a file in the
directory for temporary files; a file that an earlier process has left there is
removed. -/
def forProcess (fs : Files) (directory : String) (process : Nat) : Except SystemError (Collector × Files) :=
  let path := directory ++ "/async_profile_" ++ toString process ++ ".json"
  let p := Path.ofText path
  if fs.exists? p then
    match fs.remove p with
    | .ok fs => .ok (ofPath path, fs)
    | .error fault => .error (.refused fault path)
  else .ok (ofPath path, fs)

/-- Adds an entry. -/
def record (c : Collector) (e : CollectedEntry) : Collector :=
  { c with entries := c.entries ++ [e] }

/-- The entries as a document. -/
def snapshot (c : Collector) : Json :=
  .array (c.entries.map CollectedEntry.document)

/-- The last part of a path as it is written. -/
def lastPart (path : String) : List Char :=
  (Path.splitSlashes path.toList).getLast?.getD []

/-- Whether a path ends in a name, and not in a slash or in a dot. -/
def endsInName (path : String) : Bool :=
  lastPart path ≠ [] && lastPart path ≠ ['.']

/-- Writes the file.  An empty path leads nowhere, and one that does not end in a name
can only be that of a directory. -/
def writeFile (fs : Files) (path text : String) : Except SystemFault Files :=
  let p := Path.ofText path
  if endsInName path then fs.write p fun _ => Text.Utf8.encode text
  else if path = "" then .error .missing
  else
    match fs.status? p with
    | some .directory => .error .isDirectory
    | some _ => .error .notDirectory
    | none => (fs.locate p).bind fun _ => .error (if lastPart path = [] then .isDirectory else .missing)

/-- Writes the entries and announces the file, or prints them. -/
def flush (c : Collector) (fs : Files) : Flush :=
  if c.flushed then ⟨c, fs, "", none⟩
  else
    let after := { c with flushed := true }
    match writeFile fs c.path (Record.fileText (c.entries.map CollectedEntry.document)) with
    | .ok fs => ⟨after, fs, announcement ++ (fs.absolute (Path.ofText c.path)).text ++ "\n", some c.path⟩
    | .error fault =>
      ⟨after, fs,
        "Failed to write metrics: " ++ (SystemError.refused fault c.path).message ++ "\n" ++
          String.join (c.entries.map CollectedEntry.taggedLine),
        none⟩

end Collector

/-! ## Programs with collectors -/

/-- A running program: its files, its collectors, which of them are to be flushed
when it ends, and what it has printed. -/
structure Program where
  files : Files
  collectors : List Collector
  hooks : List Nat
  printed : String
  deriving Inhabited

namespace Program

/-- Adds a collector, which is the one in use from now on. -/
def adopt (p : Program) (c : Collector) : Program :=
  { p with collectors := p.collectors ++ [c] }

/-- The number of the collector in use. -/
def current (p : Program) : Nat :=
  p.collectors.length - 1

/-- The collector in use. -/
def collector (p : Program) : Collector :=
  p.collectors.getLast?.getD (Collector.ofPath "")

/-- Adds an entry to the collector in use. -/
def record (p : Program) (e : CollectedEntry) : Program :=
  { p with collectors := p.collectors.set p.current (p.collector.record e) }

/-- Has the collector in use flushed when the program ends. -/
def install (p : Program) : Program :=
  { p with hooks := p.hooks ++ [p.current] }

/-- Flushes one collector. -/
def flushAt (p : Program) (i : Nat) : Program × Option String :=
  match p.collectors[i]? with
  | none => (p, none)
  | some c =>
    let f := c.flush p.files
    ({ p with files := f.files, collectors := p.collectors.set i f.collector, printed := p.printed ++ f.printed },
      f.written)

/-- Flushes the collector in use. -/
def flush (p : Program) : Program × Option String :=
  p.flushAt p.current

/-- Flushes some collectors, one after the other. -/
def flushAll (p : Program) : List Nat → Program × List (Option String)
  | [] => (p, [])
  | i :: rest =>
    let (p, written) := p.flushAt i
    let (p, more) := p.flushAll rest
    (p, written :: more)

/-- The end of a program: what was installed last is flushed first. -/
def exit (p : Program) : Program × List (Option String) :=
  p.flushAll p.hooks.reverse

end Program

end Stopwatch
