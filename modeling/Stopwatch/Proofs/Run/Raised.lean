/-
  What a run of a package raises.

  A stage that fails is told and leaves no results, and the working copy can be removed
  however the run ends.  What is raised all the same comes from the manifest, of which
  nothing is checked, or from a source in which the guard for the main program is looked
  for.
-/
import Stopwatch.Proofs.Run.Manifest

namespace Stopwatch

open Action Files

/-- A tree stays a tree when metrics are recovered. -/
theorem Files.IsTree.recover {fs : Files} (h : fs.IsTree) (output : String) : (fs.recover output).files.IsTree := by
  rcases fs.recover_files output with heq | ⟨-, own, -, -, -, -, -, -, hother, heq⟩
  · rw [heq]
    exact h
  · rw [heq]
    exact h.erase hother

namespace Package

variable {p : Package} {w : String} {fs fs' : Files}

/-! ## The working directory -/

/-- The working directory has been made in the directory for temporary files. -/
def IsMade (p : Package) (w : String) (fs : Files) : Prop :=
  ∃ root, fs.locate p.config.workRoot = .ok root ∧ fs.find? root = some .directory ∧
    fs.find? (root ++ [w]) = some .directory

theorem IsPrepared.isMade {fs₀ : Files} (h : p.IsPrepared w fs₀ fs) : p.IsMade w fs := by
  obtain ⟨fs₁, root, -, hroom, hcopy⟩ := h
  exact ⟨root, locate_eq_ok_iff.mpr (hcopy.leads_root hroom), hcopy.directory_root hroom, hcopy.work⟩

namespace IsMade

theorem of_extends (h : p.IsMade w fs) (hhere : fs'.workingDirectory = fs.workingDirectory)
    (hext : fs.Extends fs') : p.IsMade w fs' := by
  obtain ⟨root, hlocate, hroot, hwork⟩ := h
  have hroot' := hext root _ rfl hroot
  refine ⟨root, ?_, hroot', hext _ _ rfl hwork⟩
  have hstart : fs'.start p.config.workRoot = fs.start p.config.workRoot := by
    rw [Files.start, Files.start, hhere]
  rw [locate_eq_ok_iff, hstart]
  refine (locate_eq_ok_iff.mp hlocate).of_extends hext fun target hlink => ?_
  rw [hroot'] at hlink
  cases hlink

/-- A file of records that is taken is not on the way to the working directory. -/
theorem recover (h : p.IsMade w fs) (output : String) : p.IsMade w (fs.recover output).files := by
  rcases fs.recover_files output with heq | ⟨path, own, l, bytes, executable, hlocate, hfile, hown, hother, heq⟩
  · rw [heq]
    exact h
  · obtain ⟨root, hroot, hdirectory, hwork⟩ := h
    have hkept {l' : Location} (hfound : fs.find? l' = some .directory) :
        (fs.erase own).find? l' = some .directory := by
      have hne : l' ≠ own := by
        rintro rfl
        exact hother hfound
      rw [find?_erase_of_ne fs hne]
      exact hfound
    rw [heq]
    refine ⟨root, locate_eq_ok_iff.mpr ?_, hkept hdirectory, hkept hwork⟩
    exact (locate_eq_ok_iff.mp hroot).erase_own hdirectory hfile hother (locate_eq_ok_iff.mp hlocate)
      (locateLink_eq_ok_iff.mp hown)

/-- The path of a working directory that has been made is its own. -/
theorem locateLink (h : p.IsMade w fs) (hwork : p.work = p.config.workRoot.child w) (hname : w ≠ "..") :
    ∃ l, fs.locateLink p.work = .ok l ∧ fs.find? l = some .directory := by
  obtain ⟨root, hlocate, hroot, hfound⟩ := h
  refine ⟨root ++ [w], ?_, hfound⟩
  rw [locateLink_eq_ok_iff, hwork]
  refine (locate_eq_ok_iff.mp hlocate).concat hroot hname fun target hlink => ?_
  rw [hfound] at hlink
  cases hlink

end IsMade

/-- Where nothing has the name of the working directory, it does not exist. -/
theorem not_exists_work (hlacks : fs.Lacks w) (hwork : p.work = p.config.workRoot.child w) (hname : w ≠ "..") :
    fs.exists? p.work = false := by
  rw [Files.exists?, status?]
  cases hlocate : fs.locate p.work with
  | error fault => rfl
  | ok l =>
    rw [hwork, locate_eq_ok_iff] at hlocate
    have hname_ne : [w] ≠ [] := List.cons_ne_nil w []
    obtain ⟨links, mid, -, hlast⟩ := Leads.split hname_ne hlocate
    have hnone : fs.find? (mid ++ [w]) = none := hlacks _ (by simp)
    cases hlast with
    | up => exact absurd rfl hname
    | into _ _ _ h =>
      cases h
      dsimp only
      rw [hnone]
      rfl
    | kept _ _ _ hfollow => cases hfollow
    | through _ _ hlink =>
      rw [hnone] at hlink
      cases hlink

/-- A working directory that has been made can be removed. -/
theorem ends_cleanUp_ok (hwork : p.work = p.config.workRoot.child w) (hname : w ≠ "..") {h : Host}
    (hi : p.IsMade w h.files ∨ h.files.Lacks w) : Ends p.cleanUp h fun result _ => result = .ok () := by
  refine ends_stage (fun _ _ _ _ hr => hr) fun h' hview => ?_
  have hfiles : h'.files = h.files := congrArg Prod.fst hview
  rw [ends_bind, Action.exists?, ends_observe, hfiles]
  dsimp only
  rcases hi with hmade | hlacks
  · split
    · obtain ⟨l, hlocate, hfound⟩ := hmade.locateLink hwork hname
      rw [Action.removeTree, ends_bind, ends_get]
      dsimp only
      rw [ends_bind, hfiles, hlocate, ends_refusing]
      dsimp only
      rw [hfound]
      rfl
    · rfl
  · rw [not_exists_work hlacks hwork hname]
    rfl

/-- Nothing is reported when a working directory is removed. -/
theorem ends_cleanUp_reports (h : Host) : Ends p.cleanUp h fun _ h' => h'.reports = h.reports := by
  let I : Host → Prop := fun h' => h'.reports = h.reports
  have hmark (name : String) (status : StageStatus) {h' : Host} (hi : I h') :
      Stays I (fun _ => True) (mark name status) h' := .modify hi
  have hwork {h' : Host} (hi : I h') : Stays I (fun _ => True) (do
      if (← Action.exists? p.work) then Action.removeTree p.work) h' := by
    refine Stays.observe_bind ?_
    split
    · exact Stays.removeTree (fun _ => trivial) hi fun _ _ _ => hi
    · exact .pure hi ()
  have hstage : Stays I (fun _ => True) p.cleanUp h := by
    refine (hmark _ _ rfl).bind fun _ h hi => ?_
    exact (hwork hi).attempt_bind (fun _ h hi => (hmark _ _ hi).bind fun _ h hi => .pure hi _)
      fun _ h hi _ => (hmark _ _ hi).bind fun _ h hi => .fail hi trivial
  exact hstage.1

end Package

namespace Run

variable {r : Run} {p : Package} {w : String} {m e : Location} {log : Path} {fs₀ copied : Files}
  {host h : Host}

/-! ## Invariants -/

/-- A failure that is told, or that has a cause. -/
def IsToldOrCaused (p : Package) (fs₀ copied : Files) (f : Failure) : Prop :=
  isTold f = true ∨ p.Cause fs₀ copied f

theorem isToldOrCaused_system (error : SystemError) : IsToldOrCaused p fs₀ copied (.system error) :=
  Or.inl rfl

theorem isToldOrCaused_problem (q : Problem) (hq : q.kind.isA .package = true) :
    IsToldOrCaused p fs₀ copied (.problem q) := by
  refine Or.inl ?_
  rw [isTold, Failure.isProblem, hq]
  rfl

/-- The host from the build on: the working directory has been made, and children of the script
are to come. -/
structure IsRunning (p : Package) (w : String) (host h : Host) : Prop where
  now : h.now = host.now
  upcoming : h.upcoming <:+ host.upcoming
  tree : h.files.IsTree
  made : p.IsMade w h.files

/-- The host when the run is about to end: the working directory has been made, or nothing has
its name, and events are logged elsewhere. -/
structure IsEnding (p : Package) (w : String) (log : Path) (e : Location) (host h : Host) : Prop where
  now : h.now = host.now
  tree : h.files.IsTree
  work : p.IsMade w h.files ∨ h.files.Lacks w ∧ h.files.locate log = .ok e

theorem quiet_isRunning : Quiet (IsRunning p w host) := by
  intro h h' hview hi
  simp only [view, Prod.mk.injEq] at hview
  obtain ⟨hfiles, hnow, hupcoming, -⟩ := hview
  exact ⟨hnow.trans hi.now, hupcoming ▸ hi.upcoming, hfiles ▸ hi.tree, hfiles ▸ hi.made⟩

theorem quiet_isEnding : Quiet (IsEnding p w log e host) := by
  intro h h' hview hi
  simp only [view, Prod.mk.injEq] at hview
  obtain ⟨hfiles, hnow, -, -⟩ := hview
  exact ⟨hnow.trans hi.now, hfiles ▸ hi.tree, hfiles ▸ hi.work⟩

theorem IsRunning.isEnding (hi : IsRunning p w host h) : IsEnding p w log e host h :=
  ⟨hi.now, hi.tree, Or.inl hi.made⟩

/-- What lasts while entries are put among files. -/
theorem IsRunning.change (hi : IsRunning p w host h) {files : Files}
    (hfiles : files.IsTree ∧ files.workingDirectory = h.files.workingDirectory ∧ h.files.Extends files) :
    IsRunning p w host { h with files } :=
  ⟨hi.now, hi.upcoming, hfiles.1, hi.made.of_extends hfiles.2.1 hfiles.2.2⟩

theorem IsRunning.write (hi : IsRunning p w host h) {path : Path} {change : List UInt8 → List UInt8}
    {files : Files} (hwrite : h.files.write path change = .ok files) : IsRunning p w host { h with files } :=
  hi.change ((Files.lasting_extends h.files).write ⟨hi.tree, rfl, Extends.refl _⟩ hwrite)

theorem grows_isRunning : Grows (IsRunning p w host) := fun h _ _ _ hi hmake =>
  hi.change ((Files.lasting_extends h.files).make ⟨hi.tree, rfl, Extends.refl _⟩ hmake)

/-- An event that is logged elsewhere does not get the name of the working directory. -/
theorem IsEnding.write (hi : IsEnding p w log e host h) (he : w ∉ e) {change : List UInt8 → List UInt8}
    {files : Files} (hwrite : h.files.write log change = .ok files) :
    IsEnding p w log e host { h with files } := by
  have hlasting := (Files.lasting_extends h.files).write ⟨hi.tree, rfl, Extends.refl _⟩ hwrite
  refine ⟨hi.now, hlasting.1, ?_⟩
  rcases hi.work with hmade | ⟨hlacks, hlocate⟩
  · exact Or.inl (hmade.of_extends hlasting.2.1 hlasting.2.2)
  · rcases write_inv hwrite with heq | ⟨l, bytes, executable, hlocate', hplace, heq⟩
    · rw [heq]
      exact Or.inr ⟨hlacks, hlocate⟩
    · obtain rfl : e = l := Except.ok.inj (hlocate.symm.trans hlocate')
      rw [heq]
      refine Or.inr ⟨fun l' hl' => ?_, locate_insert hlocate hplace bytes executable⟩
      have hne : l' ≠ e := fun heq => he (heq ▸ hl')
      rw [find?_insert_of_ne _ hne]
      exact hlacks l' hl'

/-! ## Stages -/

section Stages

variable (hspared : p.SparesManifest copied) (hlocate : copied.locate p.manifestPath = .ok m)

include hspared hlocate

theorem instruments_isSpared :
    p.Instruments (During host fun fs => Package.IsSpared m copied fs ∧ Package.HasOnlyMarked copied fs)
      (IsToldOrCaused p fs₀ copied) (fun path => copied.locate path ≠ .ok m) (p.sources copied) where
  quiet := quiet_during host _
  system := isToldOrCaused_system
  module _ path module hpath hi hmodule := by
    have hcopied := hi.2.1.hasModule hi.2.2 hmodule
    rw [← hlocate]
    exact hspared path (Or.inr (Or.inr ⟨hpath, module, hcopied⟩))
  analyze _ _ _ _ hpath hi hmodule hanalyze :=
    Or.inr (.source hpath (hi.2.1.hasModule hi.2.2 hmodule) hanalyze)
  collector _ _ hi hwrite := by
    refine hi.change ⟨hi.2.1.write ?_ hwrite, hi.2.2.write hasMarker_moduleText hwrite⟩
    rw [← hlocate]
    exact hspared _ (Or.inl rfl)
  source _ _ _ _ hpath hi hmarker hwrite :=
    hi.change ⟨hi.2.1.write hpath hwrite, hi.2.2.write hmarker hwrite⟩

theorem resolves_isSpared (htext : copied.textAt p.manifestPath = fs₀.textAt p.manifestPath) :
    p.Resolves (During host (Package.IsSpared m copied)) (IsToldOrCaused p fs₀ copied)
      fun entry => ∀ value, entry = some value → p.scriptAt fs₀ = .ok (some value) where
  system := isToldOrCaused_system
  problem := isToldOrCaused_problem
  script h f hi hscript := by
    rw [Package.scriptAt_congr ((hi.2.textAt_manifest hlocate).trans htext)] at hscript
    exact Or.inr (Package.cause_of_scriptAt hscript)
  entry h found hi hscript value hvalue := by
    cases hvalue
    rw [Package.scriptAt_congr ((hi.2.textAt_manifest hlocate).trans htext)] at hscript
    exact hscript
  none _ hvalue := nomatch hvalue
  launcher _ _ _ hi hwrite := by
    refine hi.change (hi.2.write ?_ hwrite)
    rw [← hlocate]
    exact hspared _ (Or.inr (Or.inl rfl))

end Stages

/-- What a child writes leaves the working directory where it is. -/
theorem IsRunning.adds (hi : IsRunning p w host h) {d : Deed} {h' : Host}
    (hd : Adds (fun fs => fs.IsTree ∧ fs.workingDirectory = h.files.workingDirectory ∧ h.files.Extends fs)
      h d h') : IsRunning p w host h' := by
  have hview := hd.view_eq
  simp only [view, Prod.mk.injEq] at hview
  obtain ⟨hfiles, hnow, hupcoming, -⟩ := hview
  refine ⟨hnow.trans hi.now, ?_, hfiles ▸ hd.left.1, ?_⟩
  · rw [hupcoming]
    exact (List.tail_suffix _).trans hi.upcoming
  · rw [hfiles]
    exact hi.made.of_extends hd.left.2.1 hd.left.2.2

section Children

variable {F : Failure → Prop} (hF : ∀ error, F (.system error)) (hi : IsRunning p w host h)

include hF hi

theorem stays_start_isRunning (command : Command) : Stays (IsRunning p w host) F (Action.start command) h := by
  have hstart : h.files.IsTree ∧ h.files.workingDirectory = h.files.workingDirectory ∧
      h.files.Extends h.files := ⟨hi.tree, rfl, Extends.refl _⟩
  refine Ends.mono (ends_start (Files.lasting_extends h.files) command hstart) ?_
  rintro result h' ⟨s, hs, hresult⟩
  refine ⟨hi.adds hs.adds, ?_⟩
  cases result with
  | ok _ => trivial
  | error f =>
    obtain ⟨error, rfl⟩ := IsSystem.exists_eq hresult.1
    exact hF error

/-- The executable is a child with an output, so only the system fails; and taking the file of
records that it announces leaves the working directory where it is. -/
theorem stays_execute_isRunning (hchildren : ∀ c ∈ host.upcoming, c.output ≠ none) (path : Path) :
    Stays (IsEnding p w log e host) F (do
      let output ← p.execute path
      return (output, ← recover fun fs => fs.recover output)) h := by
  have hstart : h.files.IsTree ∧ h.files.workingDirectory = h.files.workingDirectory ∧
      h.files.Extends h.files := ⟨hi.tree, rfl, Extends.refl _⟩
  rw [Stays, ends_bind]
  refine Ends.mono (p.ends_execute (Files.lasting_extends h.files) path hstart) ?_
  rintro result h' ⟨d, hd, hresult⟩
  have hi' := hi.adds hd
  cases result with
  | error f =>
    refine ⟨hi'.isEnding, ?_⟩
    have houtput : d.child.output ≠ none := by
      rw [hd.child_eq]
      cases hupcoming : h.upcoming with
      | nil => simp [Child.idle]
      | cons child rest => exact hchildren child (hi.upcoming.subset (by simp [hupcoming]))
    have hsystem : IsSystem f := hresult.elim id fun hprinted => printed_eq_error hprinted houtput
    obtain ⟨error, rfl⟩ := hsystem.exists_eq
    exact hF error
  | ok output =>
    exact ⟨⟨hi'.now, hi'.tree.recover output, Or.inl (hi'.made.recover output)⟩, trivial⟩

end Children

/-- The manifest that is read before children are started has a cause for every failure. -/
theorem builds_isReadable (hlocate : copied.locate p.manifestPath = .ok m) {bytes : List UInt8}
    {executable : Bool} (hm : copied.find? m = some (.file bytes executable)) (hmade : p.IsMade w copied)
    (htext : copied.textAt p.manifestPath = fs₀.textAt p.manifestPath) {entry : Option Toml}
    (hentry : ∀ value, entry = some value → p.scriptAt fs₀ = .ok (some value)) :
    p.Builds (During host (Package.IsReadable m copied)) (IsRunning p w host)
      (IsToldOrCaused p fs₀ copied) entry where
  quiet := quiet_during host _
  grows _ _ _ _ hi hmake := hi.change (hi.2.makeDirectory hm hmake)
  log h _ hi hwrite := by
    have hempty : Text.Utf8.encode "" = [] := by simp [Text.Utf8.encode_eq_flatMap]
    rw [hempty] at hwrite
    exact hi.change (hi.2.empty hwrite)
  problem := isToldOrCaused_problem
  project h f hi hproject := by
    rcases hi.2.projectAt hlocate with hsame | hempty
    · rw [hsame, Package.projectAt_congr htext] at hproject
      exact Or.inr (Package.cause_of_projectAt hproject)
    · rw [hempty] at hproject
      cases hproject
  weaken h hi := by
    obtain ⟨hview, hfiles⟩ := hi
    simp only [view, Prod.mk.injEq] at hview
    obtain ⟨hnow, hupcoming, -⟩ := hview
    exact ⟨hnow, hupcoming ▸ List.suffix_rfl, hfiles.tree, hmade.of_extends hfiles.here hfiles.extends_⟩
  supervised arguments harguments :=
    { quiet := quiet_isRunning
      system := isToldOrCaused_system
      grows := grows_isRunning
      append := fun h text hi => Stays.changeFiles isToldOrCaused_system hi fun files hwrite =>
        hi.write hwrite
      start := fun h hi => stays_start_isRunning isToldOrCaused_system hi _
      arguments := harguments }
  arguments target f hjoin := Or.inr (Package.cause_of_joinArguments hentry hjoin)

/-- What is asked of the start of a run of a package. -/
structure StartsSparing (r : Run) (w : String) (e : Location) (host : Host) : Prop where
  fresh : (Package.ofNumber r.input r.config (host.named + 1)).IsFresh w host.files
  apart : r.config.IsApart
  manifest : (Package.ofNumber r.input r.config (host.named + 1)).isPackage host.files = true
  events : host.files.locate (r.log.file host.now.dayText) = .ok e
  events_outside : w ∉ e
  spared : ∀ h h', h.files = host.files →
    (Package.ofNumber r.input r.config (host.named + 1)).prepare h = (.ok (), h') →
    (Package.ofNumber r.input r.config (host.named + 1)).SparesManifest h'.files
  /-- A child that is started with a pipe for its output has an output. -/
  children : ∀ c ∈ host.upcoming, c.output ≠ none

/-- Why a run of a package raises a failure: the working copy has been made, and there is a cause
in it or in the manifest. -/
def IsCaused (r : Run) (host : Host) (f : Failure) : Prop :=
  ∃ h₁ h₂, h₁.files = host.files ∧
    (Package.ofNumber r.input r.config (host.named + 1)).prepare h₁ = (.ok (), h₂) ∧
    (Package.ofNumber r.input r.config (host.named + 1)).Cause host.files h₂.files f

section Whole

variable (hr : r.StartsSparing w e host)

include hr

/-- The manifest is a file outside the working directory. -/
theorem StartsSparing.exists_manifest :
    ∃ m bytes executable, w ∉ m ∧
      host.files.locate (Package.ofNumber r.input r.config (host.named + 1)).manifestPath = .ok m ∧
      host.files.find? m = some (.file bytes executable) := by
  have hmanifest := hr.manifest
  rw [Package.isPackage, Files.isFile, status?] at hmanifest
  cases hlocate : host.files.locate (Package.ofNumber r.input r.config (host.named + 1)).manifestPath with
  | error fault =>
    rw [hlocate] at hmanifest
    cases hmanifest
  | ok m =>
    rw [hlocate] at hmanifest
    split at hmanifest
    · rename_i bytes executable hfile
      exact ⟨m, bytes, executable, hr.fresh.lacks.not_mem hfile, rfl, hfile⟩
    · cases hmanifest

/-- The build ends with a working directory, or with a failure that is told or has a cause. -/
theorem StartsSparing.instrumentAndBuild (hi : During host (· = host.files) h) :
    Ends (Package.ofNumber r.input r.config (host.named + 1)).instrumentAndBuild h fun result h' =>
      match result with
      | .ok _ => IsRunning (Package.ofNumber r.input r.config (host.named + 1)) w host h'
      | .error f =>
        IsEnding (Package.ofNumber r.input r.config (host.named + 1)) w (r.log.file host.now.dayText) e host h' ∧
          (isTold f = true ∨ r.IsCaused host f) := by
  rw [Package.instrumentAndBuild]
  refine ends_report_bind fun h₁ hview => ?_
  have hi₁ := quiet_during host _ h h₁ hview hi
  have hprepare := Package.ends_prepare (F := fun f => isTold f = true) (fun _ => rfl) hr.fresh
    (fun q hq => by rw [isTold, Failure.isProblem, hq]; rfl) hr.apart hi₁
  have hitself : Ends (Package.ofNumber r.input r.config (host.named + 1)).prepare h₁ fun result h₂ =>
      (Package.ofNumber r.input r.config (host.named + 1)).prepare h₁ = (result, h₂) := rfl
  rw [ends_bind]
  refine Ends.mono (Ends.and hprepare hitself) ?_
  rintro result h₂ ⟨hresult, heq⟩
  have hnow {K : Files → Prop} (h : During host K h₂) : h₂.now = host.now := congrArg Prod.fst h.1
  cases result with
  | error f =>
    refine ⟨?_, Or.inl hresult.1⟩
    rcases hresult.2.2 with hground | hprepared
    · refine ⟨hnow hresult.2, hground.tree, Or.inr ⟨hground.lacks, ?_⟩⟩
      exact hground.same.locate hr.fresh.lacks hr.events_outside hr.events
    · exact ⟨hnow hresult.2, hprepared.tree, Or.inl hprepared.isMade⟩
  | ok _ =>
    have hprepared := hresult.2
    obtain ⟨m, bytes, executable, hm, hlocate, hfile⟩ := hr.exists_manifest
    have hcopied := hprepared.same.locate hr.fresh.lacks hm hlocate
    have hsame : h₂.files.find? m = host.files.find? m := by
      rcases hprepared.same.entries m hm with hsame | ⟨hnone, -⟩ | ⟨hlog, -⟩
      · exact hsame
      · rw [hfile] at hnone
        cases hnone
      · cases hlog
    have htext : h₂.files.textAt (Package.ofNumber r.input r.config (host.named + 1)).manifestPath =
        host.files.textAt (Package.ofNumber r.input r.config (host.named + 1)).manifestPath := by
      refine textAt_congr (hcopied.trans hlocate.symm) fun l hl => ?_
      rw [hlocate] at hl
      cases hl
      exact hsame
    have hstart : During host (fun fs => Package.IsSpared m h₂.files fs ∧
        Package.HasOnlyMarked h₂.files fs) h₂ :=
      ⟨hresult.1, Package.IsSpared.refl hprepared.tree, fun _ => Or.inl rfl⟩
    have hspared := hr.spared h₁ h₂ hi₁.2 heq
    have hassemble := Package.stays_assemble
      (instruments_isSpared hspared hcopied) (fun _ hi => hi.mono fun _ hfs => hfs.1)
      (quiet_during host _) (resolves_isSpared hspared hcopied htext)
      (fun _ hi => hi.mono fun _ hfs => hfs.isReadable)
      (fun _ hentry => builds_isReadable hcopied (hsame.trans hfile) hprepared.isMade htext hentry) hstart
    refine Ends.mono hassemble fun result h hresult => ?_
    cases result with
    | ok _ => exact hresult.1
    | error f =>
      exact ⟨hresult.1.isEnding, hresult.2.imp_right fun hcause => ⟨h₁, h₂, hi₁.2, heq, hcause⟩⟩

/-- A run of a package raises nothing but what has a cause. -/
theorem StartsSparing.package (hi : During host (· = host.files) h) :
    Stays (fun _ => True) (r.IsCaused host) (r.package (Package.ofNumber r.input r.config (host.named + 1))) h := by
  have hsystem (error : SystemError) : isTold (.system error) = true ∨ r.IsCaused host (.system error) :=
    Or.inl rfl
  have hpacks : r.Packs (Package.ofNumber r.input r.config (host.named + 1))
      (IsRunning (Package.ofNumber r.input r.config (host.named + 1)) w host)
      (IsEnding (Package.ofNumber r.input r.config (host.named + 1)) w (r.log.file host.now.dayText) e host)
      (fun f => isTold f = true ∨ r.IsCaused host f) h :=
    { quiet := quiet_isRunning
      quiet_last := quiet_isEnding
      weaken := fun _ hi => hi.isEnding
      append := fun h text hi => Stays.changeFiles hsystem hi fun files hwrite => hi.write hwrite
      append_last := fun h text hi => Stays.changeFiles hsystem hi fun files hwrite => by
        rw [hi.now] at hwrite
        exact hi.write hr.events_outside hwrite
      build := fun h' hview => hr.instrumentAndBuild (quiet_during host _ h h' hview hi)
      execute := fun path h hi => stays_execute_isRunning hsystem hi hr.children path }
  refine hpacks.package (fun h hi => ?_) fun f hf htold => hf.resolve_left (by simp [htold])
  refine Ends.mono (Package.ends_cleanUp_ok hr.fresh.work hr.fresh.name (hi.work.imp_right And.left))
    fun result h' hresult => ?_
  rw [hresult]
  exact ⟨trivial, trivial⟩

end Whole

/-- The last thing that is told by a run of a package is why the build or the executable has
failed. -/
def HasTold (r : Run) (p : Package) (host h : Host) : Prop :=
  ∃ f h₁, r.buildAndExecute p host = (.error f, h₁) ∧ isTold f = true ∧
    h.reports = (Action.report (.error f.message) h₁).2.reports

/-- A run of a package that returns nothing has told a failure. -/
theorem ends_package_none (r : Run) (p : Package) (h : Host) :
    Ends (r.package p) h fun result h' => result = .ok none → r.HasTold p h h' := by
  have hitself : Ends (r.buildAndExecute p) h fun result h₁ => r.buildAndExecute p h = (result, h₁) := rfl
  have hlast (result : Except Failure (Option Results)) (h₂ : Host)
      (hr : result = .ok none → r.HasTold p h h₂) :
      Ends (do
        p.cleanUp
        match result with
        | .ok value => pure value
        | .error f => fail f) h₂ fun result h' => result = .ok none → r.HasTold p h h' := by
    rw [ends_bind]
    refine Ends.mono (p.ends_cleanUp_reports h₂) fun cleaned h' hreports => ?_
    have htold (htold : r.HasTold p h h₂) : r.HasTold p h h' := by
      obtain ⟨f, h₁, heq, hisTold, hlast⟩ := htold
      exact ⟨f, h₁, heq, hisTold, hreports.trans hlast⟩
    cases cleaned with
    | error f =>
      intro hfalse
      cases hfalse
    | ok _ =>
      cases result with
      | error f =>
        intro hfalse
        cases hfalse
      | ok found => exact fun heq => htold (hr heq)
  rw [Run.package, ensuring, ends_bind, ends_attempt, ends_bind, ends_attempt]
  refine Ends.mono hitself fun result h₁ heq => ?_
  cases result with
  | ok found =>
    dsimp only
    rw [ends_bind]
    refine Ends.mono (Q := fun _ _ => True) trivial fun concluded h₂ _ => ?_
    cases concluded with
    | error f' => exact hlast (.error f') h₂ fun hfalse => absurd hfalse (by simp)
    | ok results => exact hlast (.ok (some results)) h₂ fun hfalse => absurd hfalse (by simp)
  | error f =>
    dsimp only
    split
    · rename_i htold
      rw [ends_bind]
      exact hlast (.ok none) (Action.report (.error f.message) h₁).2 fun _ => ⟨f, h₁, heq, htold, rfl⟩
    · exact hlast (.error f) h₁ fun hfalse => absurd hfalse (by simp)

theorem startsSparing_small :
    smallRun.StartsSparing smallName ["home", "logs", "async-latency-2025-01-01.jsonl"] smallHost where
  fresh := isFresh_small
  apart := isApart_small
  manifest := isPackage_small
  events := startsOutside_small.events
  events_outside := startsOutside_small.events_outside
  spared h h' hfiles hprepare := by
    have hlocate : smallHost.files.locate
        (Package.ofNumber smallRun.input smallRun.config (smallHost.named + 1)).manifestPath =
          .ok ["pkg", "pyproject.toml"] := by decide +kernel
    have houtside : smallName ∉ ["pkg", "pyproject.toml"] := by decide +kernel
    have hcopied := (isPrepared_small hfiles hprepare).same.locate isFresh_small.lacks houtside hlocate
    exact (startsOutside_small.inside h h' hfiles hprepare).sparesManifest hcopied houtside
  children _ hc := nomatch hc

end Run

end Stopwatch
