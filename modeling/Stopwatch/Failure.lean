/-
  Failures.

  A problem is a failure that the pipeline itself raises; each kind of problem is a
  special case of another, up to the general kind.  The other failures come from the
  file system, from text that is malformed, or from values of the wrong shape.  The
  wording of each failure is fixed here and nowhere else.
-/
import Stopwatch.Files.Basic
import Stopwatch.Json.Decode
import Stopwatch.Number.Format
import Stopwatch.Syntax.StringValue
import Stopwatch.Text.Quoted
import Stopwatch.Text.Utf8

namespace Stopwatch

/-! ## Problems -/

/-- The kinds of problems. -/
inductive ProblemKind where
  | general
  | input
  | alreadyInstrumented
  | compilation
  | package
  | noSourceFiles
  | buildFailed
  | buildTimeout
  | entryPoint
  | executableNotFound
  | ambiguousExecutable
  deriving DecidableEq, Repr, Inhabited

/-- The kind that a kind is a special case of. -/
def ProblemKind.parent? : ProblemKind → Option ProblemKind
  | .general => none
  | .input | .alreadyInstrumented | .compilation | .package => some .general
  | .noSourceFiles | .buildFailed | .buildTimeout | .entryPoint | .executableNotFound => some .package
  | .ambiguousExecutable => some .executableNotFound

/-- A kind and all the kinds that it is a special case of, nearest first. -/
def ProblemKind.lineage (k : ProblemKind) : List ProblemKind :=
  let above := fun k : ProblemKind => k.parent?.toList
  k :: (above k ++ (above k).flatMap above ++ ((above k).flatMap above).flatMap above)

/-- Whether a kind is a special case of another, or the same. -/
def ProblemKind.isA (k other : ProblemKind) : Bool :=
  k.lineage.contains other

/-- A failure that the pipeline raises. -/
inductive Problem where
  /-- A problem with its own wording. -/
  | stated (kind : ProblemKind) (text : String)
  | pathMissing (path : String)
  | derivedPath (name : String)
  | alreadyInstrumented (path : String)
  | compilationFailed (diagnostics : String)
  | packageFileMissing (path : String)
  | noSourceFiles (directory : String)
  | buildFailed (output : String)
  | buildTimeout (seconds : Float)
  | noEntryPoint
  | severalEntryPoints (names : List String)
  | noExecutable (directory : String)
  | severalExecutables (directory : String) (names : List String)
  deriving Inhabited

/-- The kind of a problem. -/
def Problem.kind : Problem → ProblemKind
  | .stated kind _ => kind
  | .pathMissing _ | .derivedPath _ => .input
  | .alreadyInstrumented _ => .alreadyInstrumented
  | .compilationFailed _ => .compilation
  | .packageFileMissing _ => .package
  | .noSourceFiles _ => .noSourceFiles
  | .buildFailed _ => .buildFailed
  | .buildTimeout _ => .buildTimeout
  | .noEntryPoint | .severalEntryPoints _ => .entryPoint
  | .noExecutable _ => .executableNotFound
  | .severalExecutables .. => .ambiguousExecutable

/-- The wording of a problem. -/
def Problem.message : Problem → String
  | .stated _ text => text
  | .pathMissing path => "Path does not exist: " ++ path
  | .derivedPath name => "Refusing to instrument an already-instrumented path: " ++ name
  | .alreadyInstrumented path => "File is already instrumented: " ++ path
  | .compilationFailed diagnostics => "Compilation failed:\n" ++ diagnostics
  | .packageFileMissing path => "Missing required package file: " ++ path
  | .noSourceFiles directory => "No Python files found in " ++ directory ++ "/"
  | .buildFailed output => "Package build failed:\n" ++ output
  | .buildTimeout seconds => "Build timeout after " ++ Number.formatGeneral seconds ++ "s"
  | .noEntryPoint => "No entry point found: add a single [project.scripts] entry or a __main__ guard"
  | .severalEntryPoints names =>
    "Multiple entry points found (" ++ String.intercalate ", " names ++ "); declare one in [project.scripts]"
  | .noExecutable directory => "Could not find built executable in " ++ directory ++ "/"
  | .severalExecutables directory names =>
    "Ambiguous executables in " ++ directory ++ "/: " ++ String.intercalate ", " names

/-! ## Failures of the file system -/

/-- A request that the file system or the system around it refuses. -/
inductive SystemError where
  | refused (fault : SystemFault) (path : String)
  | linkRefused (fault : SystemFault) (target path : String)
  /-- A pipe cannot be copied. -/
  | namedPipe (path : String)
  /-- A link cannot be removed as if it were a tree. -/
  | linkedTree
  /-- A program that cannot be started. -/
  | notStarted (text : String)
  /-- A stream that cannot be read. -/
  | unreadable (text : String)
  /-- The parts of a tree that could not be copied: from where, to where, and why. -/
  | notCopied (parts : List (String × String × String))
  deriving DecidableEq, Repr, Inhabited

/-- The number under which the system knows a fault. -/
def SystemFault.number : SystemFault → Nat
  | .missing => 2
  | .present => 17
  | .notDirectory => 20
  | .isDirectory => 21
  | .tooManyLinks => 40

/-- The system's wording of a fault. -/
def SystemFault.describe : SystemFault → String
  | .missing => "No such file or directory"
  | .present => "File exists"
  | .notDirectory => "Not a directory"
  | .isDirectory => "Is a directory"
  | .tooManyLinks => "Too many levels of symbolic links"

/-- A fault with its number. -/
def SystemFault.message (f : SystemFault) : String :=
  "[Errno " ++ toString f.number ++ "] " ++ f.describe

/-- One part of a tree that could not be copied, as text. -/
def notCopiedText (part : String × String × String) : String :=
  "(" ++ Text.quoted part.1 ++ ", " ++ Text.quoted part.2.1 ++ ", " ++ Text.quoted part.2.2 ++ ")"

/-- The wording of a refusal. -/
def SystemError.message : SystemError → String
  | .refused fault path => fault.message ++ ": " ++ Text.quoted path
  | .linkRefused fault target path =>
    fault.message ++ ": " ++ Text.quoted target ++ " -> " ++ Text.quoted path
  | .namedPipe path => "`" ++ path ++ "` is a named pipe"
  | .linkedTree => "Cannot call rmtree on a symbolic link"
  | .notStarted text => text
  | .unreadable text => text
  | .notCopied parts => "[" ++ String.intercalate ", " (parts.map notCopiedText) ++ "]"

/-! ## All failures -/

/-- A value that cannot be used as it has to be. -/
inductive ValueFault where
  /-- Something other than a table is looked into. -/
  | noLookup (type member : String)
  /-- Something without a length is counted. -/
  | noLength (type : String)
  /-- An argument of a program that is no text. -/
  | notText (index : Nat) (type : String)
  /-- A name that cannot be that of a file. -/
  | badName (name : String)
  /-- An integer that is too long to be written. -/
  | tooManyDigits
  deriving DecidableEq, Repr, Inhabited

/-- The wording of such a fault. -/
def ValueFault.message : ValueFault → String
  | .noLookup type member => "'" ++ type ++ "' object has no attribute '" ++ member ++ "'"
  | .noLength type => "object of type '" ++ type ++ "' has no len()"
  | .notText index type =>
    "sequence item " ++ toString index ++ ": expected str instance, " ++ type ++ " found"
  | .badName name => "Invalid name " ++ Text.quoted name
  | .tooManyDigits =>
    "Exceeds the limit (" ++ toString Json.maxIntegerDigits ++ " digits) for integer string conversion"

/-- Why an operation fails. -/
inductive Failure where
  | problem (p : Problem)
  | system (e : SystemError)
  | undecodable (e : Text.Utf8.DecodeError)
  | malformedSource
  | malformedString (f : Syntax.StringFault)
  | value (f : ValueFault)
  | invalid (issues : List Json.Issue)
  deriving Inhabited

/-- The wording of a failure. -/
def Failure.message : Failure → String
  | .problem p => p.message
  | .system e => e.message
  | .undecodable e => e.message
  | .malformedSource => "<parse error>"
  | .malformedString f => f.message
  | .value f => f.message
  | .invalid issues => toString issues.length ++ " validation errors"

/-- Whether a failure is a problem of a given kind. -/
def Failure.isProblem (kind : ProblemKind) : Failure → Bool
  | .problem p => p.kind.isA kind
  | _ => false

/-- Whether a failure comes from the system. -/
def Failure.isSystem : Failure → Bool
  | .system _ => true
  | _ => false

end Stopwatch
