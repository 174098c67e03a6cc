/-
  Configuration.

  Where a run keeps its own files, how it names things, how a package is laid out, and
  how long its children may take.
-/
import Stopwatch.Path

namespace Stopwatch

/-- The configuration of a run. -/
structure Config where
  /-- The directory of the logs. -/
  base : Path
  /-- The directory for temporary files. -/
  workRoot : Path
  /-- The program that compiles, packs and runs instrumented sources. -/
  interpreter : String
  buildTimeout : Float
  heartbeatInterval : Float
  progressInterval : Float
  /-- What the stem of an instrumented copy ends in. -/
  instrumentedSuffix : String
  manifestName : String
  sourceDirectory : String
  testsDirectory : String
  buildCacheDirectory : String
  releaseDirectory : String
  lockFiles : List String
  /-- What marks a line of the interpreter's output as noise. -/
  noisyMarkers : List String
  deriving Inhabited

namespace Config

/-- The usual configuration, given its directories and its interpreter. -/
def usual (base workRoot : Path) (interpreter : String) : Config where
  base
  workRoot
  interpreter
  buildTimeout := 600.0
  heartbeatInterval := 30.0
  progressInterval := 5.0
  instrumentedSuffix := "_instrumented"
  manifestName := "pyproject.toml"
  sourceDirectory := "src"
  testsDirectory := "tests"
  buildCacheDirectory := ".build"
  releaseDirectory := ".build/release"
  lockFiles := ["uv.lock", "poetry.lock", "pdm.lock", "requirements.lock"]
  noisyMarkers := ["PYTHONASYNCIODEBUG"]

/-- The directory of the logs. -/
def logDirectory (c : Config) : Path :=
  c.base.child "logs"

/-- The log of builds. -/
def buildLog (c : Config) : Path :=
  c.logDirectory.child "build.log"

end Config

end Stopwatch
