/-
  What a run of a package leaves as it was.

  Everything that a run of a package writes lies in the working directory, or is one of its
  two logs, as long as no path that is written in the working copy goes through a link to
  the outside.  The children are asked for the same.
-/
import Stopwatch.Proofs.Files.Sources
import Stopwatch.Proofs.Run.Package

namespace Stopwatch

open Action Files

/-! ## What is asked of the copy and of the children -/

namespace Package

/-- The paths of a working copy that may be written when it is instrumented. -/
def Writes (p : Package) (fs : Files) (path : Path) : Prop :=
  path = p.collectorPath ∨ path = p.launcherPath ∨ path ∈ p.sources fs ∧ ∃ m, fs.HasModule path m

/-- All paths of a working copy that may be written lead into the working directory, if they lead
anywhere. -/
def WritesInside (p : Package) (w : String) (fs : Files) : Prop :=
  ∀ path, p.Writes fs path → ∀ l, fs.locate path = .ok l → w ∈ l

/-- A path that is written in a working copy lies below its directory, if that of the sources
does. -/
theorem Writes.exists_names {p : Package} {fs : Files} {path : Path} (h : p.Writes fs path)
    (htree : fs.IsTree) (hplain : Path.IsPlain p.config.sourceDirectory) :
    ∃ names, names ≠ [] ∧ ".." ∉ names ∧ path = p.below names := by
  have hroot : p.sourceRoot = p.below (Path.ofText p.config.sourceDirectory).names := slash_work hplain
  obtain ⟨-, hne, hup⟩ := hplain
  have hchild {name : String} (hname : name ≠ "..") :
      ∃ names, names ≠ [] ∧ ".." ∉ names ∧ p.sourceRoot.child name = p.below names :=
    ⟨(Path.ofText p.config.sourceDirectory).names ++ [name], by simp, by simp [hup, Ne.symm hname],
      by simp [hroot, Path.child, below]⟩
  rcases h with rfl | rfl | ⟨hsource, -⟩
  · exact hchild (by decide)
  · exact hchild (by decide)
  · rcases mem_sources.mp (List.mem_filter.mp hsource).1 with ⟨-, rfl⟩ | ⟨-, l, names, -, -, hnames, rfl⟩
    · exact ⟨_, hne, hup, hroot⟩
    · refine ⟨(Path.ofText p.config.sourceDirectory).names ++ names, by simp [hne], ?_,
        by simp [hroot, below]⟩
      rw [List.mem_append, not_or]
      exact ⟨hup, htree.not_up_of_mem_sourceNames hnames⟩

/-- Where there are no links, no path leads out of a working copy. -/
theorem IsPrepared.writesInside {p : Package} {w : String} {fs₀ fs : Files}
    (h : p.IsPrepared w fs₀ fs) (hfree : fs₀.NoLinks) (hplain : Path.IsPlain p.config.sourceDirectory) :
    p.WritesInside w fs := by
  intro path hwrites l hlocate
  obtain ⟨names, hne, hup, rfl⟩ := hwrites.exists_names h.tree hplain
  obtain ⟨fs₁, root, hground, hroom, hcopy⟩ := h
  have hnone : IsCopy w fs₁ root (fun _ => False) fs :=
    ⟨hcopy.same, hcopy.tree, hcopy.work, fun names target => hcopy.free (hground.free hfree) _ target,
      hcopy.free⟩
  rw [hnone.locate_below hroom hne hup (fun _ _ _ => id) hlocate]
  exact mem_inside names

end Package

/-- A child that has changed nothing outside. -/
def Action.Deed.KeepsTo (w : String) (d : Deed) : Prop :=
  ∀ l, w ∉ l → d.left.find? l = d.found.find? l

/-- A child whose output does not announce a file of records outside. -/
def Action.Deed.TakesNothing (w : String) (d : Deed) : Prop :=
  ∀ output, d.output = .ok output → ∀ l, w ∉ l → (d.left.recover output).files.find? l = d.left.find? l

namespace Run

variable {r : Run} {p : Package} {w : String} {logs : List Location} {b e : Location}
  {copied fs fs' : Files} {F : Failure → Prop} {host h : Host}

/-! ## Invariants -/

/-- The files while a working copy is instrumented: outside they are those of the copy. -/
structure IsInstrumented (w : String) (copied fs : Files) : Prop where
  tree : fs.IsTree
  ways : copied.SameWays fs
  here : fs.workingDirectory = copied.workingDirectory
  same : ∀ l, w ∉ l → fs.find? l = copied.find? l

/-- The host from the build on. -/
structure IsKept (w : String) (logs : List Location) (host h : Host) : Prop where
  now : h.now = host.now
  tree : h.files.IsTree
  count : (deeds host).length ≤ (deeds h).length
  same : (∀ d ∈ (deeds h).drop (deeds host).length, d.KeepsTo w) →
    SameOutside w logs host.files h.files

/-- The host when the output of the executable may have been looked at. -/
structure IsKeptAfter (w : String) (logs : List Location) (host h : Host) : Prop where
  now : h.now = host.now
  same : (∀ d ∈ (deeds h).drop (deeds host).length, d.KeepsTo w) →
    (∀ d, ((deeds h).drop (deeds host).length).getLast? = some d → d.TakesNothing w) →
    SameOutside w logs host.files h.files

theorem IsKept.after (hi : IsKept w logs host h) : IsKeptAfter w logs host h :=
  ⟨hi.now, fun hkeeps _ => hi.same hkeeps⟩

theorem quiet_isKept : Quiet (IsKept w logs host) := by
  intro h h' hview hi
  simp only [view, Prod.mk.injEq] at hview
  obtain ⟨hfiles, hnow, -, hdeeds⟩ := hview
  exact ⟨hnow.trans hi.now, hfiles ▸ hi.tree, hdeeds ▸ hi.count, by rw [hfiles, hdeeds]; exact hi.same⟩

theorem quiet_isKeptAfter : Quiet (IsKeptAfter w logs host) := by
  intro h h' hview hi
  simp only [view, Prod.mk.injEq] at hview
  obtain ⟨hfiles, hnow, -, hdeeds⟩ := hview
  exact ⟨hnow.trans hi.now, by rw [hfiles, hdeeds]; exact hi.same⟩

/-! ## The working copy -/

/-- A path into the working directory is written while the copy is instrumented. -/
theorem IsInstrumented.write (hi : IsInstrumented w copied fs) {path : Path}
    (hinside : ∀ l, copied.locate path = .ok l → w ∈ l) {change : List UInt8 → List UInt8}
    (hwrite : fs.write path change = .ok fs') : IsInstrumented w copied fs' := by
  rcases write_inv hwrite with rfl | ⟨l, bytes, executable, hlocate, hplace, rfl⟩
  · exact hi
  · have hl : w ∈ l := by
      refine hinside l (locate_eq_ok_iff.mpr ?_)
      have hstart : copied.start path = fs.start path := by rw [Files.start, Files.start, hi.here]
      rw [hstart]
      exact (locate_eq_ok_iff.mp hlocate).of_sameWays hi.ways.symm
    have hways : fs.SameWays (fs.insert l (.file bytes executable)) :=
      sameWays_insert hplace.way?_eq_none rfl
    refine ⟨hi.tree.insert (hi.tree.put_file hlocate hplace bytes executable), fun l' => ?_, hi.here,
      fun l' hl' => ?_⟩
    · rw [hi.ways l', hways l']
    · have hne : l' ≠ l := fun heq => hl' (heq ▸ hl)
      rw [find?_insert_of_ne fs hne]
      exact hi.same l' hl'

/-- A source outside has the module that it had in the copy. -/
theorem IsInstrumented.hasModule (hi : IsInstrumented w copied fs) {path : Path} {l : Location}
    (hlocate : copied.locate path = .ok l) (hl : w ∉ l) {m : Syntax.Module} (hm : fs.HasModule path m) :
    copied.HasModule path m := by
  have hstart : fs.start path = copied.start path := by rw [Files.start, Files.start, hi.here]
  have hsame : fs.locate path = .ok l := by
    rw [locate_eq_ok_iff, hstart]
    exact (locate_eq_ok_iff.mp hlocate).of_sameWays hi.ways
  have htext : fs.textAt path = copied.textAt path := by
    refine textAt_congr (hsame.trans hlocate.symm) fun l' hl' => ?_
    rw [hlocate] at hl'
    cases hl'
    exact hi.same l hl
  obtain ⟨source, hsource, hmarker, hparse⟩ := hm
  exact ⟨source, htext ▸ hsource, hmarker, hparse⟩

/-- Instrumenting keeps everything outside, as all that is written lies inside. -/
theorem instruments_isInstrumented (hinside : p.WritesInside w copied) :
    p.Instruments (During host (IsInstrumented w copied)) (fun _ => True)
      (fun path => ∀ l, copied.locate path = .ok l → w ∈ l) (p.sources copied) where
  quiet := quiet_during host _
  system _ := trivial
  module h path m hpath hi hm l hlocate := by
    by_contra hl
    exact hl (hinside path (Or.inr (Or.inr ⟨hpath, m, hi.2.hasModule hlocate hl hm⟩)) l hlocate)
  analyze _ _ _ _ _ _ _ _ := trivial
  collector _ _ hi hwrite := hi.change (hi.2.write (hinside _ (Or.inl rfl)) hwrite)
  source _ _ _ _ hpath hi _ hwrite := hi.change (hi.2.write hpath hwrite)

theorem resolves_isInstrumented (hinside : p.WritesInside w copied) :
    p.Resolves (During host (IsInstrumented w copied)) (fun _ => True) (fun _ => True) where
  system _ := trivial
  problem _ _ := trivial
  script _ _ _ _ := trivial
  entry _ _ _ _ := trivial
  none := trivial
  launcher _ _ _ hi hwrite := hi.change (hi.2.write (hinside _ (Or.inr (Or.inl rfl))) hwrite)

/-! ## From the build on -/

/-- A log is written where its path led at the start. -/
theorem sameOutside_write_log (hsame : SameOutside w logs host.files fs) (hlacks : host.files.Lacks w)
    {path : Path} {l : Location} (hlocate : host.files.locate path = .ok l) (hl : w ∉ l) (hlog : l ∈ logs)
    {change : List UInt8 → List UInt8} (hwrite : fs.write path change = .ok fs') :
    SameOutside w logs host.files fs' := by
  have hthere := hsame.locate hlacks hl hlocate
  rcases write_inv hwrite with rfl | ⟨l', bytes, executable, hlocate', hplace, rfl⟩
  · exact hsame
  · obtain rfl : l = l' := Except.ok.inj (hthere.symm.trans hlocate')
    exact hsame.insert_log hlog hplace bytes executable

section Kept

variable (hlacks : host.files.Lacks w) {path : Path} {l : Location}
  (hlocate : host.files.locate path = .ok l) (hl : w ∉ l) (hlog : l ∈ logs)

include hlacks hlocate hl hlog

theorem IsKept.write_log (hi : IsKept w logs host h) {change : List UInt8 → List UInt8} {files : Files}
    (hwrite : h.files.write path change = .ok files) : IsKept w logs host { h with files } := by
  refine ⟨hi.now, ?_, hi.count, fun hkeeps => ?_⟩
  · rcases write_inv hwrite with rfl | ⟨l', bytes, executable, hlocate', hplace, rfl⟩
    · exact hi.tree
    · exact hi.tree.insert (hi.tree.put_file hlocate' hplace bytes executable)
  · exact sameOutside_write_log (hi.same hkeeps) hlacks hlocate hl hlog hwrite

theorem IsKeptAfter.write_log (hi : IsKeptAfter w logs host h) {change : List UInt8 → List UInt8}
    {files : Files} (hwrite : h.files.write path change = .ok files) :
    IsKeptAfter w logs host { h with files } :=
  ⟨hi.now, fun hkeeps htakes =>
    sameOutside_write_log (hi.same hkeeps htakes) hlacks hlocate hl hlog hwrite⟩

end Kept

theorem grows_isKept : Grows (IsKept w logs host) := by
  intro h q files _ hi hmake
  obtain ⟨l, -, hput, rfl⟩ := hi.tree.put_of_make hmake
  have hnone : h.files.find? l = none := by
    rcases hput.place with hnone | ⟨-, hway⟩
    · exact hnone
    · cases hway
  exact ⟨hi.now, hi.tree.insert hput, hi.count, fun hkeeps =>
    (hi.same hkeeps).insert_directory hput.ne_nil hnone⟩

/-- A child that keeps to the working directory changes nothing outside. -/
theorem IsKept.adds (hi : IsKept w logs host h) {d : Deed} {h' : Host}
    (hd : Adds (fun fs => fs.IsTree ∧ fs.workingDirectory = h.files.workingDirectory ∧ h.files.Extends fs)
      h d h') : IsKept w logs host h' ∧ h'.files = d.left ∧
        (deeds h').drop (deeds host).length = (deeds h).drop (deeds host).length ++ [d] := by
  have hview := hd.view_eq
  simp only [view, Prod.mk.injEq] at hview
  obtain ⟨hfiles, hnow, -, hdeeds⟩ := hview
  have hdrop : (deeds h').drop (deeds host).length = (deeds h).drop (deeds host).length ++ [d] := by
    rw [hdeeds, List.drop_append_of_le_length hi.count]
  refine ⟨⟨hnow.trans hi.now, hfiles ▸ hd.left.1, ?_, fun hkeeps => ?_⟩, hfiles, hdrop⟩
  · rw [hdeeds, List.length_append]
    exact Nat.le_add_right_of_le hi.count
  · rw [hdrop] at hkeeps
    have hbefore := hi.same fun d' hd' => hkeeps d' (List.mem_append_left _ hd')
    have hchild := hkeeps d (by simp)
    rw [hfiles]
    refine hbefore.trans ⟨hd.left.2.1, fun l hl => Or.inl ?_⟩
    rw [hchild l hl, hd.found_eq]

theorem stays_start_isKept (hF : ∀ f, F f) (hi : IsKept w logs host h) (command : Command) :
    Stays (IsKept w logs host) F (Action.start command) h := by
  have hstart : h.files.IsTree ∧ h.files.workingDirectory = h.files.workingDirectory ∧
      h.files.Extends h.files := ⟨hi.tree, rfl, Extends.refl _⟩
  refine Ends.mono (ends_start (Files.lasting_extends h.files) command hstart) ?_
  rintro result h' ⟨s, hs, -⟩
  refine ⟨(hi.adds hs.adds).1, ?_⟩
  cases result with
  | ok _ => trivial
  | error f => exact hF f

/-- The executable is run, and the file of records that it announces is taken. -/
theorem stays_execute_isKept (hF : ∀ f, F f) (hi : IsKept w logs host h) (path : Path) :
    Stays (IsKeptAfter w logs host) F (do
      let output ← p.execute path
      return (output, ← recover fun fs => fs.recover output)) h := by
  have hstart : h.files.IsTree ∧ h.files.workingDirectory = h.files.workingDirectory ∧
      h.files.Extends h.files := ⟨hi.tree, rfl, Extends.refl _⟩
  rw [Stays, ends_bind]
  refine Ends.mono (p.ends_execute (Files.lasting_extends h.files) path hstart) ?_
  rintro result h' ⟨d, hd, hresult⟩
  obtain ⟨hi', hfiles, hdrop⟩ := hi.adds hd
  cases result with
  | error f => exact ⟨hi'.after, hF f⟩
  | ok output =>
    refine ⟨⟨hi'.now, fun hkeeps htakes => ?_⟩, trivial⟩
    have hbefore := hi'.same hkeeps
    have hlast : d.TakesNothing w := htakes d (by
      change ((deeds h').drop (deeds host).length).getLast? = some d
      rw [hdrop, List.getLast?_concat])
    refine hbefore.trans ⟨?_, fun l hl => Or.inl ?_⟩
    · change (h'.files.recover output).files.workingDirectory = h'.files.workingDirectory
      rcases h'.files.recover_files output with heq | ⟨-, own, -, -, -, -, -, -, -, heq⟩
      · rw [heq]
      · rw [heq, workingDirectory_erase]
    · change (h'.files.recover output).files.find? l = h'.files.find? l
      rw [hfiles]
      exact hlast output hresult l hl

/-! ## The whole run -/

/-- Before children are started, what a working copy keeps is kept. -/
theorem isKept_of_during {K : Files → Prop} (hi : During host K h)
    (htree : ∀ fs, K fs → fs.IsTree) (hsame : ∀ fs, K fs → SameOutside w logs host.files fs) :
    IsKept w logs host h := by
  obtain ⟨hview, hfiles⟩ := hi
  simp only [view, Prod.mk.injEq] at hview
  obtain ⟨hnow, -, hdeeds⟩ := hview
  exact ⟨hnow, htree _ hfiles, Nat.le_of_eq (by rw [hdeeds]), fun _ => hsame _ hfiles⟩

/-- What is asked of the start of a run of a package. -/
structure StartsOutside (r : Run) (w : String) (b e : Location) (host : Host) : Prop where
  fresh : (Package.ofNumber r.input r.config (host.named + 1)).IsFresh w host.files
  apart : r.config.IsApart
  build : host.files.locate r.config.buildLog = .ok b
  build_outside : w ∉ b
  events : host.files.locate (r.log.file host.now.dayText) = .ok e
  events_outside : w ∉ e
  inside : ∀ h h', h.files = host.files →
    (Package.ofNumber r.input r.config (host.named + 1)).prepare h = (.ok (), h') →
    (Package.ofNumber r.input r.config (host.named + 1)).WritesInside w h'.files

section Whole

variable (hr : r.StartsOutside w b e host)

include hr

theorem StartsOutside.builds (entry : Option Toml) :
    (Package.ofNumber r.input r.config (host.named + 1)).Builds (IsKept w [b, e] host)
      (IsKept w [b, e] host) (fun _ => True) entry where
  quiet := quiet_isKept
  grows := grows_isKept
  log _ _ hi hwrite := hi.write_log hr.fresh.lacks hr.build hr.build_outside (by simp) hwrite
  problem _ _ := trivial
  project _ _ _ _ := trivial
  weaken _ hi := hi
  supervised arguments _ :=
    { quiet := quiet_isKept
      system := fun _ => trivial
      grows := grows_isKept
      append := fun h text hi => Stays.changeFiles (fun _ => trivial) hi fun files hwrite =>
        hi.write_log hr.fresh.lacks hr.build hr.build_outside (by simp) hwrite
      start := fun h hi => stays_start_isKept (fun _ => trivial) hi _
      arguments := fun _ _ => trivial }
  arguments _ _ _ := trivial

/-- The build keeps everything outside. -/
theorem StartsOutside.instrumentAndBuild (hi : During host (· = host.files) h) :
    Stays (IsKept w [b, e] host) (fun _ => True)
      (Package.ofNumber r.input r.config (host.named + 1)).instrumentAndBuild h := by
  rw [Package.instrumentAndBuild]
  refine ends_report_bind fun h₁ hview => ?_
  have hi₁ := quiet_during host _ h h₁ hview hi
  have hprepare := Package.ends_prepare (F := fun _ => True) (fun _ => trivial) hr.fresh
    (fun _ _ => trivial) hr.apart hi₁
  have hitself : Ends (Package.ofNumber r.input r.config (host.named + 1)).prepare h₁ fun result h₂ =>
      (Package.ofNumber r.input r.config (host.named + 1)).prepare h₁ = (result, h₂) := rfl
  rw [ends_bind]
  refine Ends.mono (Ends.and hprepare hitself) ?_
  rintro result h₂ ⟨hresult, heq⟩
  cases result with
  | error f =>
    refine ⟨isKept_of_during hresult.2 (fun fs hfs => ?_) fun fs hfs => ?_, trivial⟩
    · exact hfs.elim (·.tree) (·.tree)
    · exact (hfs.elim (·.same) (·.same)).mono (List.nil_subset _)
  | ok _ =>
    have hinside := hr.inside h₁ h₂ hi₁.2 heq
    have hprepared := hresult.2
    have hcopied : During host (IsInstrumented w h₂.files) h₂ :=
      ⟨hresult.1, hprepared.tree, fun _ => rfl, rfl, fun _ _ => rfl⟩
    refine Package.stays_assemble (instruments_isInstrumented hinside) (fun _ hi => hi)
      (quiet_during host _) (resolves_isInstrumented hinside) (fun h hi => ?_)
      (fun entry _ => hr.builds entry) hcopied
    refine isKept_of_during hi (fun fs hfs => hfs.tree) fun fs hfs => ?_
    have hsame := hprepared.same.trans ⟨hfs.here, fun l hl => Or.inl (hfs.same l hl)⟩
    exact hsame.mono (List.nil_subset _)

/-- A run of a package keeps everything outside, however it ends. -/
theorem StartsOutside.package (hi : During host (· = host.files) h) :
    Stays (IsKeptAfter w [b, e] host) (fun _ => True)
      (r.package (Package.ofNumber r.input r.config (host.named + 1))) h := by
  have hpacks : r.Packs (Package.ofNumber r.input r.config (host.named + 1)) (IsKept w [b, e] host)
      (IsKeptAfter w [b, e] host) (fun _ => True) h :=
    { quiet := quiet_isKept
      quiet_last := quiet_isKeptAfter
      weaken := fun _ hi => hi.after
      append := fun h text hi => Stays.changeFiles (fun _ => trivial) hi fun files hwrite => by
        rw [hi.now] at hwrite
        exact hi.write_log hr.fresh.lacks hr.events hr.events_outside (by simp) hwrite
      append_last := fun h text hi => Stays.changeFiles (fun _ => trivial) hi fun files hwrite => by
        rw [hi.now] at hwrite
        exact hi.write_log hr.fresh.lacks hr.events hr.events_outside (by simp) hwrite
      build := fun h' hview => by
        refine Ends.mono (hr.instrumentAndBuild (quiet_during host _ h h' hview hi)) fun result h hresult => ?_
        cases result with
        | ok _ => exact hresult.1
        | error f => exact ⟨hresult.1.after, trivial⟩
      execute := fun path h hi => stays_execute_isKept (fun _ => trivial) hi path }
  refine hpacks.package (fun h hi => ?_) fun _ _ _ => trivial
  refine Package.stays_cleanUp (fun _ => trivial) quiet_isKeptAfter hi fun h l hi hlocate => ?_
  have hl := Package.mem_of_locateLink_work hr.fresh.work hr.fresh.name hlocate
  exact ⟨hi.now, fun hkeeps htakes => (hi.same hkeeps htakes).eraseTree_inside hl⟩

/-- A whole run keeps everything outside. -/
theorem StartsOutside.run (hdirectory : host.files.isDirectory r.input = true)
    (hpackage : (Package.ofNumber r.input r.config (host.named + 1)).isPackage host.files = true) :
    Stays (IsKeptAfter w [b, e] host) (fun _ => True) r.run host := by
  refine ends_run (fun results h h' hview hq => ⟨quiet_isKeptAfter h h' hview hq.1, trivial⟩) hdirectory
    hpackage (fun problem _ => ⟨?_, trivial⟩) fun h hview _ => hr.package ?_
  · exact ⟨rfl, fun _ _ => SameOutside.refl w [b, e] host.files⟩
  · exact quiet_during host _ host h hview ⟨rfl, rfl⟩

end Whole

/-- Whatever a run of a package does, and however it ends: outside the working directory and the
two logs nothing is changed, removed or added but for directories that were missing.  The links
that are kept in the working copy must not lead what is written there to the outside, and the
children must keep to the working directory themselves. -/
theorem find?_outside_run (hdirectory : host.files.isDirectory r.input = true)
    (hpackage : (Package.ofNumber r.input r.config (host.named + 1)).isPackage host.files = true)
    (hstart : r.StartsOutside w b e host)
    (hkeeps : ∀ d ∈ (deeds (r.run host).2).drop (deeds host).length, d.KeepsTo w)
    (htakes : ∀ d, ((deeds (r.run host).2).drop (deeds host).length).getLast? = some d → d.TakesNothing w)
    {l : Location} (hl : w ∉ l) (hb : l ≠ b) (he : l ≠ e) :
    (r.run host).2.files.find? l = host.files.find? l ∨
      host.files.find? l = none ∧ (r.run host).2.files.find? l = some .directory := by
  have hkept := (hstart.run hdirectory hpackage).1
  rcases (hkept.same hkeeps htakes).entries l hl with hsame | hmade | ⟨hlog, -⟩
  · exact Or.inl hsame
  · exact Or.inr hmade
  · rcases List.mem_cons.mp hlog with rfl | hlog
    · exact absurd rfl hb
    · exact absurd (List.mem_singleton.mp hlog) he

theorem isPrepared_small {h h' : Host} (hfiles : h.files = smallHost.files)
    (hprepare : (Package.ofNumber smallRun.input smallRun.config (smallHost.named + 1)).prepare h = (.ok (), h')) :
    (Package.ofNumber smallRun.input smallRun.config (smallHost.named + 1)).IsPrepared smallName smallHost.files
      h'.files := by
  have hstart : During h (· = h.files) h := ⟨rfl, rfl⟩
  have hprepared := Package.ends_prepare (F := fun _ => True) (fun _ => trivial)
    (hfiles.symm ▸ isFresh_small) (fun _ _ => trivial) isApart_small hstart
  rw [Ends, hprepare, hfiles] at hprepared
  exact hprepared.2

theorem startsOutside_small :
    smallRun.StartsOutside smallName ["home", "logs", "build.log"]
      ["home", "logs", "async-latency-2025-01-01.jsonl"] smallHost where
  fresh := isFresh_small
  apart := isApart_small
  build := by decide +kernel
  build_outside := by decide +kernel
  events := by decide +kernel
  events_outside := by decide +kernel
  inside h h' hfiles hprepare := by
    have hnolinks : smallHost.files.NoLinks := Files.noLinks_of_entries (by simp [smallHost, smallFiles])
    exact (isPrepared_small hfiles hprepare).writesInside hnolinks (by decide +kernel)

/-- The source of the small package is left alone. -/
theorem find?_outside_run_small :
    (smallRun.run smallHost).2.files.find? ["pkg", "src", "main.py"] =
        smallHost.files.find? ["pkg", "src", "main.py"] ∨
      smallHost.files.find? ["pkg", "src", "main.py"] = none ∧
        (smallRun.run smallHost).2.files.find? ["pkg", "src", "main.py"] = some .directory := by
  have hidle := deeds_run_of_idle isFresh_small isApart_small isDirectory_small isPackage_small rfl
  refine find?_outside_run isDirectory_small isPackage_small startsOutside_small (fun d hd l _ => ?_)
    (fun d hd output houtput l _ => ?_) (by decide +kernel) (by decide) (by decide)
  · rw [(hidle d hd).2]
  · -- a child that prints nothing announces nothing
    have hprinted : Deed.output d = .ok "" := by
      rw [Deed.output, (hidle d (List.mem_of_getLast? hd)).1]
      rfl
    obtain rfl : "" = output := Except.ok.inj (hprinted.symm.trans houtput)
    rfl

end Run

end Stopwatch
