/-
  Instrumenting the sources of a package.

  The sources are instrumented one after the other, and only the collector's module and
  sources that hold a module are written.  An invariant that such writes keep is kept by all
  of it; what fails besides the system is the analysis of a source.
-/
import Stopwatch.Proofs.Host.Modules

namespace Stopwatch

namespace Package

open Files Action

variable {p : Package} {I : Host → Prop} {F : Failure → Prop} {W : Path → Prop} {paths : List Path}
  {host h : Host}

/-- The path of the module that holds the collector. -/
def collectorPath (p : Package) : Path :=
  p.sourceRoot.child collectorFile

/-- What is asked of an invariant while sources are instrumented.  `W` says which of them may be
written. -/
structure Instruments (p : Package) (I : Host → Prop) (F : Failure → Prop) (W : Path → Prop)
    (paths : List Path) : Prop where
  quiet : Quiet I
  system : ∀ e, F (.system e)
  module : ∀ h path m, path ∈ paths → I h → h.files.HasModule path m → W path
  analyze : ∀ h path m f, path ∈ paths → I h → h.files.HasModule path m → m.analyze = .error f →
    F (.malformedString f)
  collector : ∀ h files, I h →
    (h.files.write p.collectorPath fun _ => Text.Utf8.encode Collector.moduleText) = .ok files →
    I { h with files }
  source : ∀ h path text files, W path → I h → hasMarker text = true →
    (h.files.write path fun _ => Text.Utf8.encode text) = .ok files → I { h with files }

namespace Instruments

/-- The collector is written once. -/
theorem placeCollector (hI : p.Instruments I F W paths) (hi : I h) :
    Stays I F p.placeCollector h := by
  rw [Package.placeCollector]
  refine .get_bind ?_
  split
  · refine (stays_writeText hI.system hi fun files hwrite => hI.collector h files hi hwrite).bind
      fun _ h hi => ?_
    exact Stays.advance hI.quiet hi _
  · exact .pure hi ()

theorem instrumentModule (hI : p.Instruments I F W paths) {path : Path} (hpath : path ∈ paths)
    {m : Syntax.Module} (hmodule : h.files.HasModule path m) (hi : I h) :
    Stays I F (p.instrumentModule path m) h := by
  have hwritable := hI.module h path m hpath hi hmodule
  rw [Package.instrumentModule, Stays, ends_bind, ends_analyze]
  cases hanalyze : m.analyze with
  | error f => exact ⟨hi, hI.analyze h path m f hpath hi hmodule hanalyze⟩
  | ok analysis =>
    refine (hI.placeCollector hi).bind fun _ h hi => ?_
    -- the text always exists, and it is marked
    have hsome := instrument_importFrom m (recordedFileName path.text path.name)
    rw [Action.instrumentModule, hsome]
    refine (stays_writeText hI.system hi fun files hwrite => ?_).bind fun _ h hi => .pure hi _
    exact hI.source h path _ files hwritable hi (hasMarker_importFrom hsome) hwrite

theorem instrument? (hI : p.Instruments I F W paths) {path : Path} (hpath : path ∈ paths) (hi : I h) :
    Stays I F (p.instrument? path) h := by
  rw [Package.instrument?]
  dsimp only
  rw [Stays, ends_bind, ends_attempt, ends_readModule]
  cases hmodule : h.files.moduleAt path (p.originOf path).1 with
  | ok m => exact (hI.instrumentModule hpath (moduleAt_eq_ok.mp hmodule) hi).bind fun _ h hi => .pure hi _
  | error f => exact (Stays.report hI.quiet hi _).bind fun _ h hi => .pure hi none

theorem instrumentAll (hI : p.Instruments I F W paths) {some_ : List Path} (hsome : some_ ⊆ paths)
    (hi : I h) : Stays I F (p.instrumentAll some_) h := by
  induction some_ generalizing h with
  | nil => exact .pure hi []
  | cons path rest ih =>
    rw [Package.instrumentAll]
    refine (hI.instrument? (hsome List.mem_cons_self) hi).bind fun first h hi => ?_
    refine (ih (fun other hother => hsome (List.mem_cons_of_mem _ hother)) hi).bind fun more h hi => ?_
    exact .pure hi _

/-- All sources of the working copy are instrumented. -/
theorem instrumentSources (hproblem : ∀ q : Problem, q.kind.isA .package = true → F (.problem q))
    (hI : p.Instruments I F W (p.sources h.files)) (hi : I h) : Stays I F p.instrumentSources h := by
  rw [Package.instrumentSources]
  refine .get_bind ?_
  split
  · exact .fail hi (hproblem _ rfl)
  · exact hI.instrumentAll (List.Subset.refl _) hi

end Instruments

end Package

end Stopwatch
