/-
  The instrumented sources of a package.

  Every source of the working copy is instrumented in place.  The collector stands in one
  module of its own, which all of them import.  A source that cannot be read, is no
  program text, or has been instrumented before is left as it is.
-/
import Stopwatch.Files.Sources
import Stopwatch.Instrument
import Stopwatch.Package.Basic

namespace Stopwatch

open Syntax

/-- The module of a text; the text must be UTF-8, must not have been instrumented, and
must be a program.  `name` is what the file is called if it has been instrumented. -/
def Action.readModule (p : Path) (name : String) : Action Module := do
  let source ← Action.readText p
  if hasMarker source then Action.raise (.alreadyInstrumented name)
  match Module.parse? source with
  | some m => return m
  | none => Action.fail .malformedSource

/-- What can be located in a module, or the failure that a string in it is malformed. -/
def Action.analyze (m : Module) : Action Analysis :=
  match m.analyze with
  | .ok analysis => pure analysis
  | .error f => Action.fail (.malformedString f)

/-- A module with measured functions, as text. -/
def Action.instrumentModule (m : Module) (p : Path) (origin : CollectorOrigin) : Action String :=
  match m.instrument? ⟨recordedFileName p.text p.name, origin⟩ with
  | some instrumented => pure instrumented.text
  | none => Action.fail .malformedSource

namespace Package

/-- The name of the file that holds the collector. -/
def collectorFile : String :=
  Collector.moduleName ++ ".py"

/-- Puts the collector among the sources, unless that has been done. -/
def placeCollector (p : Package) : Action Unit := do
  if !(← get).pipeline.collectorPlaced then
    Action.writeText (p.sourceRoot.child collectorFile) Collector.moduleText
    Action.advance fun pipeline => { pipeline with collectorPlaced := true }

/-- The sources of the working copy, without the collector. -/
def sources (p : Package) (fs : Files) : List Path :=
  (fs.sources p.sourceRoot p.config.instrumentedSuffix).filter fun path => path.name ≠ collectorFile

/-- A path of the working copy as it is shown, and the path of the package that it was
copied from. -/
def originOf (p : Package) (path : Path) : String × Path :=
  let relative := (path.relativeTo? p.work).getD path
  (relative.text, p.path.join relative)

/-- Instruments one module of the working copy. -/
def instrumentModule (p : Package) (path : Path) (m : Module) : Action Instrumented := do
  let analysis ← Action.analyze m
  p.placeCollector
  let text ← Action.instrumentModule m path (.importFrom Collector.moduleName)
  Action.writeText path text
  return ⟨(p.originOf path).2.text, path.text, analysis.functions, analysis.hasEntryPoint⟩

/-- Instruments one source, or says why it is left as it is. -/
def instrument? (p : Package) (path : Path) : Action (Option Instrumented) := do
  let (relative, _) := p.originOf path
  match ← Action.attempt (Action.readModule path relative) with
  | .ok m => return some (← p.instrumentModule path m)
  | .error f => do
    Action.report (.warn ("Failed to instrument " ++ relative ++ ": " ++ f.message))
    return none

/-- Instruments some sources, one after the other. -/
def instrumentAll (p : Package) : List Path → Action (List Instrumented)
  | [] => pure []
  | path :: rest => do
    let first ← p.instrument? path
    let more ← p.instrumentAll rest
    return first.toList ++ more

/-- Instruments all sources of the working copy. -/
def instrumentSources (p : Package) : Action (List Instrumented) := do
  match p.sources (← get).files with
  | [] => Action.raise (.noSourceFiles p.config.sourceDirectory)
  | paths => p.instrumentAll paths

end Package

end Stopwatch
