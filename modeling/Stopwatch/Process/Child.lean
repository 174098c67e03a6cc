/-
  Child processes.

  What a child process does is known beforehand: the files it writes, what it prints
  and in which pieces, whether and how it ends.  Every child is recorded with its
  arguments, with what it was given, and with what became of it.
-/
import Stopwatch.Files.Basic
import Stopwatch.Toml.Basic

namespace Stopwatch

/-- A piece of a stream as it arrives: some bytes, or a failure to read. -/
inductive Chunk where
  | bytes (data : List UInt8)
  | failure (text : String)
  deriving DecidableEq, Repr, Inhabited

/-- What stands in a file that a child process writes. -/
inductive Content where
  | file (bytes : List UInt8) (executable : Bool)
  | directory
  | link (target : String)
  | pipe
  deriving DecidableEq, Repr, Inhabited

/-- What a child process does. -/
structure Child where
  /-- Why it cannot be started. -/
  refusal : Option String
  /-- The files it writes when it is started. -/
  files : List (String × Content)
  /-- Whether it makes an executable file under the name behind `-o`. -/
  archive : Bool
  /-- What it prints; `none` if there is no such stream. -/
  output : Option (List Chunk)
  /-- What it prints to its second stream. -/
  errors : Option (List Chunk)
  /-- Its exit status. -/
  status : Int
  /-- Whether it never ends by itself. -/
  hangs : Bool
  deriving Repr, Inhabited

/-- A child that does nothing and ends well. -/
def Child.idle : Child :=
  ⟨none, [], false, some [], some [], 0, false⟩

/-- The environment that a child is given, as far as it concerns a run. -/
structure Environment where
  searchPath : Option String
  unbuffered : Option String
  deriving DecidableEq, Repr, Inhabited

/-- An argument of a program.  One that comes out of a manifest can be any value. -/
inductive Argument where
  | text (value : String)
  | other (value : Toml)
  deriving Inhabited

/-- What a child is started with. -/
structure Command where
  arguments : List Argument
  directory : Option String
  environment : Option Environment
  deriving Inhabited

/-- A command whose arguments are all texts. -/
def Command.ofTexts (arguments : List String) (directory : Option String) (environment : Option Environment) :
    Command :=
  ⟨arguments.map .text, directory, environment⟩

/-- What has become of a child. -/
inductive Fate where
  /-- It could not be started. -/
  | refused
  | running
  | exited (status : Int)
  /-- It has been killed, and has ended. -/
  | killed
  deriving DecidableEq, Repr, Inhabited

/-- A child, or the attempt to start one. -/
structure Spawned where
  child : Child
  command : Command
  fate : Fate
  /-- The files when it was started. -/
  found : Files
  /-- The files when it had written all that it writes. -/
  left : Files
  deriving Inhabited

/-- How a child ended, and what it printed. -/
structure Outcome where
  status : Int
  output : String
  errors : String
  elapsed : Float
  deriving Inhabited

/-- The argument behind `-o`. -/
def archiveTarget? : List Argument → Option String
  | .text "-o" :: .text target :: _ => some target
  | _ :: rest => archiveTarget? rest
  | [] => none

end Stopwatch
