/-
  Runs on files.

  A source that cannot be read as a module is skipped with a warning, and programs that
  cannot be run are ordinary results.  So a run raises only what comes from the analysis of
  a source, from an instrumented copy that cannot be written, or from the log of events.
-/
import Stopwatch.Proofs.Run.Measuring

namespace Stopwatch

open Action Files

variable {I : Host → Prop} {F : Failure → Prop} {h : Host}

namespace Run

variable {r : Run} {host : Host} {fs₀ fs : Files} {sources : List Path}

/-- The sources that a run on files instruments. -/
def paths (r : Run) (fs : Files) : List Path :=
  fs.sources r.input r.config.instrumentedSuffix

/-! ## Skipped sources -/

/-- A source that cannot be read as a module is skipped, and nothing but a warning is left of
it. -/
theorem instrument?_eq_none {path : Path} {f : Failure} (hname : '/' ∉ (r.copyPath path).name.toList)
    (hfailed : h.files.moduleAt path (r.shown h.files path) = .error f) :
    r.instrument? path h =
      (.ok none, (Action.report (.warn (skipText (r.shown h.files path) f)) h).2) := by
  suffices hends : Ends (r.instrument? path) h fun result h' => (result, h') =
      (.ok none, (Action.report (.warn (skipText (r.shown h.files path) f)) h).2) from hends
  have hcheck : checkName (r.copyPath path) = pure () := by
    rw [checkName, if_neg (by simpa using hname)]
  rw [instrument?, hcheck, pure_bind, ends_bind, ends_get]
  dsimp only
  rw [ends_bind, ends_attempt, ends_readModule, hfailed]
  dsimp only
  rw [ends_bind]
  rfl

/-! ## Causes -/

/-- Why a run on files raises a failure. -/
inductive Cause (r : Run) (host : Host) : Failure → Prop
  /-- A source compares a malformed string at its top level. -/
  | source {path : Path} {module : Syntax.Module} {e : Syntax.StringFault}
      (hpath : path ∈ r.paths host.files)
      (hmodule : host.files.HasModule path module) (hanalyze : module.analyze = .error e) :
      Cause r host (.malformedString e)
  /-- The name of an instrumented copy cannot be that of a file. -/
  | name {path : Path} (hpath : path ∈ r.paths host.files)
      (hname : '/' ∈ (r.copyPath path).name.toList) :
      Cause r host (.value (.badName (r.copyPath path).name))
  /-- An instrumented copy cannot be written. -/
  | copy {path : Path} {fault : SystemFault}
      (hpath : path ∈ r.paths host.files) :
      Cause r host (.system (.refused fault (r.copyPath path).text))
  /-- An event cannot be logged. -/
  | log (fault : SystemFault) :
      Cause r host (.system (.refused fault (r.log.file host.now.dayText).text))

/-- What is asked of the start of a run on files: no source is written as the log of events or as
an instrumented copy, and every child that is started with a pipe for its output has one. -/
structure StartsApart (r : Run) (host : Host) : Prop where
  log : ∀ path ∈ r.paths host.files, ∀ l,
    host.files.locate path = .ok l → host.files.locate (r.log.file host.now.dayText) ≠ .ok l
  copies : ∀ path ∈ r.paths host.files,
    ∀ other ∈ r.paths host.files, ∀ l,
    host.files.locate path = .ok l → host.files.locate (r.copyPath other) ≠ .ok l
  children : ∀ c ∈ host.upcoming, c.output ≠ none

/-! ## Instrumenting -/

/-- The files while sources are instrumented: all ways are those of the start, and so is what the
sources lead to. -/
structure IsApart (sources : List Path) (fs₀ fs : Files) : Prop where
  ways : fs₀.SameWays fs
  here : fs.workingDirectory = fs₀.workingDirectory
  same : ∀ path ∈ sources, ∀ l, fs₀.locate path = .ok l → fs.find? l = fs₀.find? l

namespace IsApart

theorem locate (hi : IsApart sources fs₀ fs) {path : Path} {l : Location} :
    fs.locate path = .ok l ↔ fs₀.locate path = .ok l :=
  hi.ways.locate hi.here

/-- A path is written that no source leads to. -/
theorem write (hi : IsApart sources fs₀ fs) {target : Path}
    (htarget : ∀ path ∈ sources, ∀ l, fs₀.locate path = .ok l → fs₀.locate target ≠ .ok l)
    {change : List UInt8 → List UInt8} {fs' : Files} (hwrite : fs.write target change = .ok fs') :
    IsApart sources fs₀ fs' := by
  rcases write_inv hwrite with rfl | ⟨l, bytes, executable, hlocate, hplace, rfl⟩
  · exact hi
  · have hways : fs.SameWays (fs.insert l (.file bytes executable)) :=
      sameWays_insert hplace.way?_eq_none rfl
    refine ⟨fun l' => (hi.ways l').trans (hways l'), hi.here, fun path hpath l' hl' => ?_⟩
    have hne : l' ≠ l := by
      rintro rfl
      exact htarget path hpath l' hl' (hi.locate.mp hlocate)
    rw [find?_insert_of_ne fs hne]
    exact hi.same path hpath l' hl'

/-- A source has the module that it had at the start. -/
theorem hasModule (hi : IsApart sources fs₀ fs) {path : Path} (hpath : path ∈ sources) {module : Syntax.Module}
    (hmodule : fs.HasModule path module) : fs₀.HasModule path module := by
  obtain ⟨l, hlocate⟩ := hmodule.exists_location
  have hthere := hi.locate.mp hlocate
  have htext : fs.textAt path = fs₀.textAt path := by
    refine textAt_congr (hlocate.trans hthere.symm) fun l' hl' => ?_
    exact hi.same path hpath l' hl'
  obtain ⟨source, hsource, hrest⟩ := hmodule
  exact ⟨source, htext ▸ hsource, hrest⟩

end IsApart

/-- The definition of the collector can always be put into a module. -/
theorem exists_instrument_definition (m : Syntax.Module) (file : String) :
    ∃ m', m.instrument? ⟨file, .definition⟩ = some m' :=
  ⟨_, rfl⟩

section Instrument

variable (hstart : r.StartsApart host)

/-- The host while sources are instrumented. -/
def IsCopying (r : Run) (host h : Host) : Prop :=
  During host (IsApart (r.paths host.files) host.files) h

theorem quiet_isCopying : Quiet (r.IsCopying host) :=
  quiet_during host _

include hstart

theorem StartsApart.writeCopy {path : Path} (hpath : path ∈ r.paths host.files) (hi : r.IsCopying host h)
    {m : Syntax.Module} (hm : h.files.HasModule path m) :
    Stays (r.IsCopying host) (r.Cause host) (Run.writeCopy path (r.copyPath path) m) h := by
  rw [Run.writeCopy, Stays, ends_bind, ends_analyze]
  cases hanalyze : m.analyze with
  | error e => exact ⟨hi, .source hpath (hi.2.hasModule hpath hm) hanalyze⟩
  | ok analysis =>
    obtain ⟨m', hm'⟩ := exists_instrument_definition m (recordedFileName path.text path.name)
    have htext : Action.instrumentModule m path .definition = pure m'.text := by
      rw [Action.instrumentModule, hm']
    have hwrite {h : Host} (hi : r.IsCopying host h) :
        Stays (r.IsCopying host) (r.Cause host) (Action.writeText (r.copyPath path) m'.text) h := by
      refine .changeFiles_refused hi (fun _ => .copy hpath) fun files hwrite => ?_
      exact hi.change (hi.2.write (fun other hother l hl => hstart.copies other hother path hpath l hl) hwrite)
    simp only [htext, pure_bind]
    refine Stays.observe_bind ?_
    split
    · refine (Stays.report quiet_isCopying hi _).bind fun _ h hi => ?_
      exact (hwrite hi).bind fun _ h hi => .pure hi _
    · exact (hwrite hi).bind fun _ h hi => .pure hi _

theorem StartsApart.instrument? {path : Path} (hpath : path ∈ r.paths host.files) (hi : r.IsCopying host h) :
    Stays (r.IsCopying host) (r.Cause host) (r.instrument? path) h := by
  by_cases hname : '/' ∈ (r.copyPath path).name.toList
  · have hcheck : checkName (r.copyPath path) = fail (.value (.badName (r.copyPath path).name)) := by
      rw [checkName, if_pos (by simpa using hname)]
    rw [Run.instrument?, hcheck]
    exact ⟨hi, .name hpath hname⟩
  · cases hmodule : h.files.moduleAt path (r.shown h.files path) with
    | error f =>
      rw [Stays, Ends, instrument?_eq_none hname hmodule]
      exact ⟨(Stays.report (F := fun _ => True) quiet_isCopying hi _).1, trivial⟩
    | ok m =>
      have hcheck : checkName (r.copyPath path) = pure () := by
        rw [checkName, if_neg (by simpa using hname)]
      rw [Run.instrument?, hcheck, pure_bind]
      refine Stays.get_bind ?_
      rw [Stays, ends_bind, ends_attempt, ends_readModule, hmodule]
      exact (hstart.writeCopy hpath hi (moduleAt_eq_ok.mp hmodule)).bind fun _ h hi => .pure hi _

/-- Events are logged where no source is. -/
theorem StartsApart.instrumentLogged {path : Path} (hpath : path ∈ r.paths host.files)
    (hi : r.IsCopying host h) : Stays (r.IsCopying host) (r.Cause host) (r.instrumentLogged path) h := by
  refine RunLog.stays_timed quiet_isCopying hi (fun h text hi => ?_) fun h hi => hstart.instrument? hpath hi
  have hnow : h.now = host.now := congrArg Prod.fst hi.1
  rw [hnow]
  exact .changeFiles_refused hi .log fun files hwrite => hi.change (hi.2.write hstart.log hwrite)

theorem StartsApart.instrumentAll {some_ : List Path} (hsome : some_ ⊆ r.paths host.files)
    (hi : r.IsCopying host h) : Stays (r.IsCopying host) (r.Cause host) (r.instrumentAll some_) h := by
  induction some_ generalizing h with
  | nil => exact .pure hi []
  | cons path rest ih =>
    rw [Run.instrumentAll]
    refine (hstart.instrumentLogged (hsome List.mem_cons_self) hi).bind fun first h hi => ?_
    refine (ih (fun other hother => hsome (List.mem_cons_of_mem _ hother)) hi).bind fun more h hi => ?_
    exact .pure hi _

end Instrument

/-! ## Measuring -/

/-- The host while copies are run: the day is that of the start, and children of the script are to
come. -/
def IsMeasuring (host h : Host) : Prop :=
  h.now = host.now ∧ h.upcoming <:+ host.upcoming

theorem quiet_isMeasuring : Quiet (IsMeasuring host) := by
  intro h h' hview hi
  simp only [view, Prod.mk.injEq] at hview
  exact ⟨hview.2.1.trans hi.1, hview.2.2.1 ▸ hi.2⟩

/-- A child of the script is started, or an idle one. -/
theorem IsMeasuring.adds {K : Files → Prop} (hi : IsMeasuring host h) {d : Deed} {h' : Host} (hd : Adds K h d h') :
    IsMeasuring host h' ∧ (d.child = Child.idle ∨ d.child ∈ host.upcoming) := by
  have hview := hd.view_eq
  simp only [view, Prod.mk.injEq] at hview
  obtain ⟨-, hnow, hupcoming, -⟩ := hview
  refine ⟨⟨hnow.trans hi.1, hupcoming ▸ (List.tail_suffix _).trans hi.2⟩, ?_⟩
  rw [hd.child_eq]
  cases hcoming : h.upcoming with
  | nil => exact Or.inl rfl
  | cons child rest => exact Or.inr (hi.2.subset (by simp [hcoming]))

/-- Only the log of events can be refused while copies are run. -/
theorem measures_isMeasuring (hchildren : ∀ c ∈ host.upcoming, c.output ≠ none) :
    r.Measures (fun _ _ => True) (IsMeasuring host) (IsMeasuring host) (fun _ _ => True) (r.Cause host) where
  quiet := quiet_isMeasuring
  quiet_last := quiet_isMeasuring
  quiet_path _ _ _ _ _ := trivial
  weaken _ := id
  lasting _ := lasting_true
  begins _ _ := trivial
  start _ _ _ hi hd := (hi.adds hd).1
  unread h d h' f hi hd hf := by
    refine Or.inl (printed_eq_error hf ?_)
    rcases (hi.adds hd).2 with hidle | hchild
    · rw [hidle]
      exact Option.some_ne_none _
    · exact hchildren _ hchild
  announced _ _ _ _ _ _ _ _ _ := trivial
  remove _ _ _ hi _ := ⟨hi, fun _ _ => trivial⟩
  take _ _ _ _ hi _ _ := hi
  append h text hi := by
    rw [appendText, Leaves, ends_changeFiles]
    split
    · exact .ok hi
    · refine .error ⟨hi, ?_⟩
      rw [hi.1]
      exact .log _

/-! ## Whole runs -/

/-- What has been gathered before is not looked at. -/
theorem ends_forget_bind {α : Type} {a : Action α} {Q : Except Failure α → Host → Prop} (hi : view h = view host)
    (ha : ∀ h, view h = view host → Ends a h Q) : Ends (do forget; a) h Q :=
  ha _ hi

/-- A run on files raises nothing but what has a cause. -/
theorem StartsApart.singleFiles (hstart : r.StartsApart host) (hi : view h = view host) :
    Stays (IsMeasuring host) (r.Cause host) r.singleFiles h := by
  rw [Run.singleFiles]
  refine ends_forget_bind hi fun h hi => ?_
  have hcopying : r.IsCopying host h :=
    quiet_isCopying host h hi ⟨rfl, fun _ => rfl, rfl, fun _ _ _ _ => rfl⟩
  have hweaken (h : Host) (hi : r.IsCopying host h) : IsMeasuring host h := by
    obtain ⟨hview, -⟩ := hi
    simp only [view, Prod.mk.injEq] at hview
    exact ⟨hview.1, hview.2.1 ▸ List.suffix_rfl⟩
  have hfiles : h.files = host.files := congrArg Prod.fst hi
  have hinstrument {h : Host} (hi : r.IsCopying host h) :
      Stays (IsMeasuring host) (r.Cause host) (do
        let instrumented ← r.instrumentAll (r.paths host.files)
        let files := (← get).files
        let summary := Summary.ofInstrumented instrumented fun p => r.shown files (Path.ofText p)
        Action.report (.summary summary)
        let entries := instrumented.filter (·.hasEntryPoint)
        if !instrumented.isEmpty && entries.isEmpty then
          Action.report (.info
            "No executable files found (no `__main__` guard). Instrumented files have been created.")
        r.measureAll entries
        results summary) h := by
    refine (hstart.instrumentAll (List.Subset.refl _) hi).bind_weaken hweaken fun instrumented h hi => ?_
    have hmeasure (summary : Summary) (entries : List Instrumented) {h : Host} (hi : IsMeasuring host h) :
        Stays (IsMeasuring host) (r.Cause host) (do
          r.measureAll entries
          results summary) h :=
      ((measures_isMeasuring hstart.children).measureAll hi entries).stays.bind fun _ h hi => Stays.get_bind (.pure hi _)
    refine Stays.get_bind ?_
    refine (Stays.report quiet_isMeasuring (hweaken h hi) _).bind fun _ h hi => ?_
    dsimp only
    split
    · exact (Stays.report quiet_isMeasuring hi _).bind fun _ h hi => hmeasure _ _ hi
    · exact hmeasure _ _ hi
  refine Stays.get_bind ?_
  rw [hfiles]
  dsimp only
  split
  · exact (Stays.report quiet_isCopying hcopying _).bind_weaken hweaken fun _ h hi => hinstrument hi
  · exact hinstrument hcopying

end Run

end Stopwatch
