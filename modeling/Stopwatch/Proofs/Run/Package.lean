/-
  Runs of packages.

  A run builds the package, executes it, tells what came out, and removes the working copy
  however that ended.  An invariant of the build, and a weaker one once the output has been
  looked at, are invariants of the whole.
-/
import Stopwatch.Proofs.Metric.Recovered
import Stopwatch.Proofs.Package.Build
import Stopwatch.Proofs.Package.Prepare

namespace Stopwatch

open Action

/-! ## Execution -/

/-- The executable is a child like any other; its output is what has been printed. -/
theorem Package.ends_execute {K : Files → Prop} (hK : Files.Lasting K) (p : Package) (path : Path)
    {host : Host} (h : K host.files) :
    Ends (p.execute path) host fun r h => ∃ d, Adds K host d h ∧
      match r with
      | .ok output => d.output = .ok output
      | .error f => IsSystem f ∨ d.child.printed = .error f := by
  rw [Package.execute, ends_bind, ends_observe]
  dsimp only
  rw [ends_bind]
  refine Ends.mono (ends_stage (Q := fun r h => ∃ d, Adds K host d h ∧
    match r with
    | .ok (status, text) => status = d.child.status ∧ d.child.printed = .ok text
    | .error f => IsSystem f ∨ d.child.printed = .error f) ?_ ?_) ?_
  · rintro r h h' hview ⟨d, hd, hr⟩
    exact ⟨d, hd.of_view hview, hr⟩
  · intro h' hview
    have hfiles : h'.files = host.files := congrArg Prod.fst hview
    refine Ends.mono (ends_communicate hK _ (hfiles ▸ h)) ?_
    rintro r h'' ⟨s, hs, hr⟩
    exact ⟨_, hs.adds.from_view hview, hr⟩
  · rintro r h' ⟨d, hd, hr⟩
    cases r with
    | error f => exact ⟨d, hd, hr⟩
    | ok found =>
      obtain ⟨hstatus, hprinted⟩ := hr
      refine ⟨d, hd, ?_⟩
      rw [Deed.output, hprinted, hstatus]
      rfl

namespace Run

variable {α : Type} {r : Run} {p : Package} {I J : Host → Prop} {F F' : Failure → Prop} {host h : Host}

/-- What is asked of the invariants of a run of a package: `I` holds from the build on, and `J`
when the output of the executable has been looked at, or when something has failed. -/
structure Packs (r : Run) (p : Package) (I J : Host → Prop) (F : Failure → Prop) (h : Host) : Prop where
  quiet : Quiet I
  quiet_last : Quiet J
  weaken : ∀ h, I h → J h
  append : ∀ h text, I h → Stays I F (appendText (r.log.file h.now.dayText) text) h
  append_last : ∀ h text, J h → Stays J F (appendText (r.log.file h.now.dayText) text) h
  build : ∀ h', view h' = view h → Ends p.instrumentAndBuild h' fun result h =>
    match result with
    | .ok _ => I h
    | .error f => J h ∧ F f
  execute : ∀ path h, I h → Stays J F (do
    let output ← p.execute path
    return (output, ← recover fun fs => fs.recover output)) h

namespace Packs

/-- The build is logged, however it ends. -/
theorem buildLogged (hr : r.Packs p I J F h) :
    Ends (r.buildLogged p) h fun result h =>
      match result with
      | .ok _ => I h
      | .error f => J h ∧ F f := by
  rw [Run.buildLogged]
  have hquiet (result : Except Failure Package.Built) (h h' : Host) (hview : view h' = view h) :
      (match result with
        | .ok _ => I h
        | .error f => J h ∧ F f) →
      match result with
        | .ok _ => I h'
        | .error f => J h' ∧ F f := by
    intro hresult
    cases result with
    | ok built => exact hr.quiet h h' hview hresult
    | error f => exact ⟨hr.quiet_last h h' hview hresult.1, hresult.2⟩
  refine RunLog.ends_timed hquiet (fun result h _ hresult => hquiet result h _ rfl hresult)
    (fun result h text hresult => ?_) fun h' hview => hr.build h' hview
  · cases result with
    | ok built =>
      refine Ends.mono (hr.append h text hresult) fun r' h' hr' => ?_
      cases r' with
      | ok _ => exact hr'.1
      | error f => exact ⟨hr.weaken h' hr'.1, hr'.2⟩
    | error f =>
      refine Ends.mono (hr.append_last h text hresult.1) fun r' h' hr' => ?_
      cases r' with
      | ok _ => exact ⟨hr'.1, hresult.2⟩
      | error f' => exact hr'

theorem executeLogged (hr : r.Packs p I J F h) {h' : Host} (hi : I h') (path : Path) :
    Stays J F (r.executeLogged p path) h' := by
  rw [Run.executeLogged]
  refine RunLog.ends_timed (fun result h h' hview hresult => ⟨hr.quiet_last h h' hview hresult.1, hresult.2⟩)
    (fun result h _ hresult => ⟨hr.quiet_last h _ rfl hresult.1, hresult.2⟩)
    (fun result h text hresult => ?_) fun h'' hview => hr.execute path h'' (hr.quiet h' h'' hview hi)
  refine Ends.mono (hr.append_last h text hresult.1) fun r' h' hr' => ?_
  cases r' with
  | ok _ => exact ⟨hr'.1, hresult.2⟩
  | error f => exact hr'

theorem buildAndExecute (hr : r.Packs p I J F h) : Stays J F (r.buildAndExecute p) h := by
  rw [Run.buildAndExecute]
  refine Stays.bind_of_ends hr.buildLogged (fun built h hi => ?_) fun f h hresult => hresult
  refine (Stays.report hr.quiet hi _).bind_weaken hr.weaken fun _ h hi => ?_
  exact (hr.executeLogged hi _).bind fun found h hi => .pure hi _

end Packs

/-- What came out is told. -/
theorem stays_conclude (hJ : Quiet J) (hi : J h) (built : Package.Built) (output : String)
    (recovered : Recovered) : Stays J F (r.conclude built output recovered) h := by
  have hreport (report : Report) {h : Host} (hi : J h) : Stays J F (Action.report report) h :=
    Stays.report hJ hi report
  rw [Run.conclude]
  refine Stays.bind (.modify (hJ h _ rfl hi)) fun _ h hi => ?_
  refine (hreport _ hi).bind fun _ h hi => ?_
  have haccept : Stays J F (accept recovered) h :=
    Stays.bind (.modify (hJ h _ rfl hi)) fun _ h hi => hreport _ hi
  refine haccept.bind fun _ h hi => ?_
  refine .get_bind ?_
  refine (hreport _ hi).bind fun _ h hi => ?_
  exact Stays.get_bind (.pure hi _)

/-- A failure that is told leaves no results; any other one is passed on. -/
theorem Packs.package {J' : Host → Prop} (hr : r.Packs p I J F h)
    (hclean : ∀ h, J h → Stays J' F' p.cleanUp h) (hF : ∀ f, F f → isTold f = false → F' f) :
    Stays J' F' (r.package p) h := by
  rw [Run.package]
  refine Stays.ensuring (Stays.attempt_bind hr.buildAndExecute (fun found h hi => ?_) fun f h hi hf => ?_)
    hclean
  · exact (stays_conclude hr.quiet_last hi _ _ _).bind fun results h hi => .pure hi _
  · dsimp only
    split
    · exact (Stays.report hr.quiet_last hi _).bind fun _ h hi => .pure hi none
    · rename_i htold
      exact .fail hi (hF f hf (by simpa using htold))

/-! ## Whole runs -/

/-- Refusing an input changes nothing. -/
theorem ends_validate {Q : Except Failure Unit → Host → Prop} :
    Ends r.validate host Q ↔
      match r.inputProblem? host.files with
      | some problem => Q (.error (.problem problem)) host
      | none => Q (.ok ()) host := by
  rw [validate, ends_bind, ends_get]
  dsimp only
  cases r.inputProblem? host.files <;> rfl

/-- The working directory of a package gets its name from the next number. -/
theorem ends_create {path : Path} {config : Config} {Q : Except Failure Package → Host → Prop} :
    Ends (Package.create path config) host Q ↔
      Q (.ok (Package.ofNumber path config (host.named + 1)))
        { host with
          named := host.named + 1
          pipeline := ⟨Stages.ofNames Package.stageNames, [], false⟩ } := Iff.rfl

theorem stays_tellStatistics (hI : Quiet I) (hi : I h) (results : Results) :
    Stays I F (tellStatistics results) h := by
  rw [tellStatistics]
  split
  · exact .pure hi ()
  · exact Stays.report hI hi _

/-- The run of a directory with a manifest is that of a package, and statistics at its end. -/
theorem ends_run_package {Q : Except Failure (Option Results) → Host → Prop}
    (hdirectory : host.files.isDirectory r.input = true)
    (hpackage : (Package.ofNumber r.input r.config (host.named + 1)).isPackage host.files = true)
    (haccepted : r.inputProblem? host.files = none) :
    Ends r.run host Q ↔
      Ends (r.package (Package.ofNumber r.input r.config (host.named + 1)))
        (Package.create r.input r.config host).2 fun result h =>
          match result with
          | .error f => Q (.error f) h
          | .ok none => Q (.ok none) h
          | .ok (some results) =>
            Ends (tellStatistics results) h fun told h =>
              match told with
              | .error f => Q (.error f) h
              | .ok _ => Q (.ok (some results)) h := by
  have hmode : (host.files.isDirectory r.input &&
      (Package.ofNumber r.input r.config (host.named + 1)).isPackage host.files) = true := by
    rw [hdirectory, hpackage]
    rfl
  rw [Run.run, ends_bind, ends_validate, haccepted]
  dsimp only
  rw [ends_bind, ends_create]
  dsimp only
  rw [ends_bind, dispatch, ends_bind, ends_get]
  dsimp only
  rw [if_pos hmode]
  refine iff_of_eq (congrArg (Ends _ _) ?_)
  funext result h
  rcases result with f | found
  · rfl
  · cases found with
    | none => rfl
    | some results =>
      dsimp only
      rw [ends_bind]
      refine congrArg (Ends _ _) ?_
      funext told h
      cases told <;> rfl

/-- What holds after the work on the package holds after the run, if it does so once the results that
there may be have been told. -/
theorem ends_run_package_of {P Q : Except Failure (Option Results) → Host → Prop}
    (hdirectory : host.files.isDirectory r.input = true)
    (hpackage : (Package.ofNumber r.input r.config (host.named + 1)).isPackage host.files = true)
    (haccepted : r.inputProblem? host.files = none)
    (hwork : Ends (r.package (Package.ofNumber r.input r.config (host.named + 1)))
      (Package.create r.input r.config host).2 P)
    (hfailed : ∀ f h, P (.error f) h → Q (.error f) h) (hnone : ∀ h, P (.ok none) h → Q (.ok none) h)
    (hresults : ∀ results h, P (.ok (some results)) h → Ends (tellStatistics results) h fun told h' =>
      match told with
      | .error f => Q (.error f) h'
      | .ok _ => Q (.ok (some results)) h') : Ends r.run host Q := by
  rw [ends_run_package hdirectory hpackage haccepted]
  -- any work would do: nothing below looks into this one
  generalize r.package _ = work at hwork ⊢
  refine hwork.mono fun result h hP => ?_
  rcases result with f | _ | results
  · exact hfailed f h hP
  · exact hnone h hP
  · exact hresults results h hP

/-- A run of a directory with a manifest is that of a package, unless the input is refused. -/
theorem ends_run {Q : Except Failure (Option Results) → Host → Prop}
    (hQ : ∀ results h h', view h' = view h → Q (.ok (some results)) h → Q (.ok (some results)) h')
    (hdirectory : host.files.isDirectory r.input = true)
    (hpackage : (Package.ofNumber r.input r.config (host.named + 1)).isPackage host.files = true)
    (hrefused : ∀ problem, r.inputProblem? host.files = some problem → Q (.error (.problem problem)) host)
    (hrun : ∀ h, view h = view host → r.inputProblem? host.files = none →
      Ends (r.package (Package.ofNumber r.input r.config (host.named + 1))) h Q) :
    Ends r.run host Q := by
  cases hproblem : r.inputProblem? host.files with
  | some problem =>
    rw [Run.run, ends_bind, ends_validate, hproblem]
    exact hrefused problem hproblem
  | none =>
    refine ends_run_package_of hdirectory hpackage hproblem (hrun _ rfl hproblem) (fun _ _ hq => hq)
      (fun _ hq => hq) fun results h hresult => ?_
    have htold : Stays (Q (.ok (some results))) (fun _ => False) (tellStatistics results) h :=
      stays_tellStatistics (fun h h' hview hq => hQ results h h' hview hq) hresult results
    refine Ends.mono htold fun r' h' hr' => ?_
    cases r' with
    | ok _ => exact hr'.1
    | error f => exact hr'.2.elim

/-! ## What only children change -/

section Children

variable {C : Timestamp × List Child × List Deed → Prop}
  (hstart : ∀ h d h', C (view h).2 → Adds (fun _ => True) h d h' → C (view h').2)

theorem quiet_children : Quiet fun h => C (view h).2 := by
  intro h h' hview hi
  rw [hview]
  exact hi

include hstart

theorem stays_start_children {h : Host} (hi : C (view h).2) (command : Command) :
    Stays (fun h => C (view h).2) (fun _ => True) (Action.start command) h := by
  refine Ends.mono (ends_start Files.lasting_true command trivial) ?_
  rintro result h' ⟨s, hs, -⟩
  refine ⟨hstart h _ h' hi hs.adds, ?_⟩
  cases result <;> trivial

theorem stays_execute_children {h : Host} (hi : C (view h).2) (path : Path) :
    Stays (fun h => C (view h).2) (fun _ => True) (do
      let output ← p.execute path
      return (output, ← recover fun fs => fs.recover output)) h := by
  rw [Stays, ends_bind]
  refine Ends.mono (p.ends_execute Files.lasting_true path trivial) ?_
  rintro result h' ⟨d, hd, -⟩
  have hi' := hstart h d h' hi hd
  cases result with
  | error f => exact ⟨hi', trivial⟩
  | ok output => exact ⟨hi', trivial⟩

/-- What does not depend on the files, and is kept whenever a child is started, is kept by the
stages behind the copy. -/
theorem stays_assemble_children {h : Host} (hi : C (view h).2) :
    Stays (fun h => C (view h).2) (fun _ => True) p.assemble h := by
  have hgrows : Grows fun h => C (view h).2 := fun _ _ _ _ hi _ => hi
  refine Package.stays_assemble (W := fun _ => True) (R := fun _ => True)
    ⟨quiet_children, fun _ => trivial, fun _ _ _ _ _ _ => trivial, fun _ _ _ _ _ _ _ _ => trivial,
      fun _ _ hi _ => hi, fun _ _ _ _ _ hi _ _ => hi⟩
    (fun _ hi => hi) quiet_children
    ⟨fun _ => trivial, fun _ _ => trivial, fun _ _ _ _ => trivial, fun _ _ _ _ => trivial, trivial,
      fun _ _ _ hi _ => hi⟩
    (fun _ hi => hi) (fun entry _ => ?_) hi
  exact {
    quiet := quiet_children
    grows := hgrows
    log := fun _ _ hi _ => hi
    problem := fun _ _ => trivial
    project := fun _ _ _ _ => trivial
    weaken := fun _ hi => hi
    supervised := fun arguments _ =>
      { quiet := quiet_children
        system := fun _ => trivial
        grows := hgrows
        append := fun _ _ hi => Stays.changeFiles (fun _ => trivial) hi fun _ _ => hi
        start := fun _ hi => stays_start_children hstart hi _
        arguments := fun _ _ => trivial }
    arguments := fun _ _ _ => trivial }

/-- What does not depend on the files, and is kept whenever a child is started, is kept by a
whole run of a package. -/
theorem stays_run_children {w : String}
    (hfresh : (Package.ofNumber r.input r.config (host.named + 1)).IsFresh w host.files)
    (happart : r.config.IsApart) (hdirectory : host.files.isDirectory r.input = true)
    (hpackage : (Package.ofNumber r.input r.config (host.named + 1)).isPackage host.files = true)
    (hi : C (view host).2) : Stays (fun h => C (view h).2) (fun _ => True) r.run host := by
  refine ends_run (fun results h h' hview hr => ⟨quiet_children h h' hview hr.1, trivial⟩) hdirectory
    hpackage (fun problem _ => ⟨hi, trivial⟩) fun h hview _ => ?_
  have happend {h : Host} (text : String) (hi : C (view h).2) :
      Stays (fun h => C (view h).2) (fun _ => True) (appendText (r.log.file h.now.dayText) text) h :=
    Stays.changeFiles (fun _ => trivial) hi fun _ _ => hi
  have hpacks : r.Packs (Package.ofNumber r.input r.config (host.named + 1)) (fun h => C (view h).2)
      (fun h => C (view h).2) (fun _ => True) h :=
    { quiet := quiet_children
      quiet_last := quiet_children
      weaken := fun _ hi => hi
      append := fun _ text hi => happend text hi
      append_last := fun _ text hi => happend text hi
      execute := fun path h hi => stays_execute_children hstart hi path
      build := fun h₁ hview₁ => by
        rw [Package.instrumentAndBuild]
        refine ends_report_bind fun h₂ hview₂ => ?_
        have hstarted : During host (· = host.files) h₂ :=
          quiet_during host _ host h₂ (hview₂.trans (hview₁.trans hview)) ⟨rfl, rfl⟩
        rw [ends_bind]
        refine Ends.mono (Package.ends_prepare (F := fun _ => True) (fun _ => trivial) hfresh
          (fun _ _ => trivial) happart hstarted) fun result h₃ hresult => ?_
        cases result with
        | error f => exact ⟨by rw [hresult.2.1]; exact hi, trivial⟩
        | ok _ =>
          have hi₃ : C (view h₃).2 := by
            rw [hresult.1]
            exact hi
          refine Ends.mono (stays_assemble_children hstart hi₃) fun result h hresult => ?_
          cases result with
          | error f => exact hresult
          | ok built => exact hresult.1 }
  refine hpacks.package (fun h hi => ?_) fun _ _ _ => trivial
  exact Package.stays_cleanUp (fun _ => trivial) quiet_children hi fun _ _ hi _ => hi

end Children

/-- No children are to come, and those behind the first `n` have done nothing. -/
def AreIdle (n : Nat) (v : Timestamp × List Child × List Deed) : Prop :=
  v.2.1 = [] ∧ n ≤ v.2.2.length ∧ ∀ d ∈ v.2.2.drop n, d.child = Child.idle ∧ d.left = d.found

theorem areIdle_view {n : Nat} {h : Host} :
    AreIdle n (view h).2 ↔ h.upcoming = [] ∧ n ≤ (deeds h).length ∧
      ∀ d ∈ (deeds h).drop n, d.child = Child.idle ∧ d.left = d.found := Iff.rfl

/-- If no children are to come, those that are started do nothing. -/
theorem deeds_run_of_idle {w : String}
    (hfresh : (Package.ofNumber r.input r.config (host.named + 1)).IsFresh w host.files)
    (happart : r.config.IsApart) (hdirectory : host.files.isDirectory r.input = true)
    (hpackage : (Package.ofNumber r.input r.config (host.named + 1)).isPackage host.files = true)
    (hupcoming : host.upcoming = []) :
    ∀ d ∈ (deeds (r.run host).2).drop (deeds host).length, d.child = Child.idle ∧ d.left = d.found := by
  have hrun : Stays (fun h => AreIdle (deeds host).length (view h).2) (fun _ => True) r.run host := by
    refine stays_run_children ?_ hfresh happart hdirectory hpackage ?_
    · intro h d h' hi hd
      obtain ⟨hnone, hcount, hidle⟩ := areIdle_view.mp hi
      have hchild : d.child = Child.idle := by rw [hd.child_eq, hnone]; rfl
      rw [hd.view_eq]
      refine ⟨by rw [hnone]; rfl, ?_, fun d' hd' => ?_⟩
      · rw [List.length_append]
        exact Nat.le_add_right_of_le hcount
      · rw [List.drop_append_of_le_length hcount, List.mem_append, List.mem_singleton] at hd'
        rcases hd' with hd' | rfl
        · exact hidle d' hd'
        · exact ⟨hchild, hd.same (hchild ▸ writesNothing_idle)⟩
    · refine areIdle_view.mpr ⟨hupcoming, Nat.le_refl _, fun d hd => ?_⟩
      rw [List.drop_length] at hd
      cases hd
  exact (areIdle_view.mp hrun.1).2.2

/-! ## A small package -/

/-- The files of a small package, beside the directories for logs and for temporary files. -/
def smallFiles : Files where
  entries :=
    [(["tmp"], .directory), (["home"], .directory), (["home", "logs"], .directory),
     (["pkg"], .directory), (["pkg", "pyproject.toml"], .file (Text.Utf8.encode "[project]\n") false),
     (["pkg", "src"], .directory),
     (["pkg", "src", "main.py"], .file (Text.Utf8.encode "async def main(): pass\n") false)]
  workingDirectory := []

/-- A host with a small package, on which no children are to come. -/
def smallHost : Host where
  files := smallFiles
  clock := ⟨[]⟩
  named := 0
  upcoming := []
  spawned := []
  searchPath := none
  listening := true
  reports := []
  pipeline := ⟨Stages.ofNames [], [], false⟩
  now := ⟨2025, 1, 1, 12, 0, 0, 0, none⟩

/-- A run of the small package. -/
def smallRun : Run where
  input := Path.ofText "/pkg"
  config := Config.usual (Path.ofText "/home") (Path.ofText "/tmp") "python3"
  log := ⟨Path.ofText "/home/logs", none⟩

/-- The working directory of the small package. -/
def smallName : String :=
  Package.workName 1

theorem isFresh_small :
    (Package.ofNumber smallRun.input smallRun.config (smallHost.named + 1)).IsFresh smallName smallHost.files where
  work := rfl
  name := by decide +kernel
  not_mem := by decide +kernel
  tree := by decide +kernel
  lacks := Files.lacks_of_entries (by decide +kernel)

theorem isApart_small : smallRun.config.IsApart := by
  decide +kernel

theorem isDirectory_small : smallHost.files.isDirectory smallRun.input = true := by
  decide +kernel

theorem isPackage_small :
    (Package.ofNumber smallRun.input smallRun.config (smallHost.named + 1)).isPackage smallHost.files = true := by
  decide +kernel

end Run

end Stopwatch
