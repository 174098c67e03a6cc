/-
  The archive of a package.

  The archive that is packed stands in the release directory, beside whatever an earlier build or the
  children have left there.  When both children have ended well, what comes of the build depends on
  the candidates for the executable alone.
-/
import Stopwatch.Proofs.Package.Executable
import Stopwatch.Proofs.Package.Steps

namespace Stopwatch

namespace Package

open Action

variable {p : Package} {host h h' : Host} {target : Path}

/-! ## Steps of the build -/

/-- No child has been started, and the files have been edited. -/
def Still (host h : Host) : Prop :=
  h.spawned = host.spawned ∧ host.files.Edits h.files

instance : IsStageFrame Still where
  aside := by
    rintro host h ⟨_, _, _, _, _, rfl, hfiles, -⟩
    exact ⟨rfl, hfiles⟩
  trans := fun h h' => ⟨h'.1.trans h.1, h.2.trans h'.2⟩
  pipeline := fun _ _ => ⟨rfl, .refl⟩

/-- One child has been started with some arguments in the working directory, and has ended well; since it
has written its files, only the log has grown. -/
structure Steps (p : Package) (arguments : List Argument) (host : Host) (s : Spawned) (h : Host) : Prop where
  spawned : h.spawned = host.spawned ++ [s]
  command : s.command = ⟨arguments, some p.work.text, none⟩
  fate : s.fate = .exited 0
  edits : host.files.Edits s.left
  logs : ∃ text, p.supervisor.Logs text s.left h.files

/-- At most one child has been started, and it has not ended well. -/
def Breaks (host h : Host) : Prop :=
  h.spawned = host.spawned ∨ ∃ s, h.spawned = host.spawned ++ [s] ∧ s.fate ≠ .exited 0

/-- A step of the build has a result just if its child has ended well. -/
theorem ends_buildStep (deadline : Float) (arguments : List Argument) :
    Ends (p.buildStep deadline arguments) host fun r h =>
      match r with
      | .ok _ => ∃ s, p.Steps arguments host s h
      | .error _ => Breaks host h := by
  refine Ends.mono (ends_buildStep_takes deadline arguments) fun r h hr => ?_
  cases r with
  | ok printed =>
    obtain ⟨s, hs, hedits, hlogs⟩ := hr
    exact ⟨s, hs.spawned, hs.command, hs.fate, hedits, hlogs⟩
  | error f =>
    refine hr.imp_right ?_
    rintro ⟨s, hs, hfate⟩
    exact ⟨s, hs.spawned, hfate⟩

/-! ## The whole build -/

/-- Two more children have been started, and both have ended well. -/
def BothEnded (before after : List Spawned) : Prop :=
  ∃ first second, after = before ++ [first, second] ∧ first.fate = .exited 0 ∧ second.fate = .exited 0

theorem not_bothEnded_self (before : List Spawned) : ¬BothEnded before before := by
  rintro ⟨first, second, hafter, -⟩
  simpa using congrArg List.length hafter

theorem Breaks.not_bothEnded (h : Breaks host h') : ¬BothEnded host.spawned h'.spawned := by
  rintro ⟨first, second, hafter, -⟩
  rcases h with hnone | ⟨s, hone, -⟩
  · simpa [hnone] using congrArg List.length hafter
  · simpa [hone] using congrArg List.length hafter

/-- The second of two children has not ended well, if there is one. -/
theorem Breaks.not_bothEnded_second {s : Spawned} (hfirst : h.spawned = host.spawned ++ [s]) (hbroken : Breaks h h') :
    ¬BothEnded host.spawned h'.spawned := by
  rintro ⟨first, second, hafter, -, hsecond⟩
  rcases hbroken with hnone | ⟨s', hone, hfate⟩
  · simpa [hfirst, hafter] using congrArg List.length hnone
  · rw [hafter, hfirst, List.append_assoc, List.append_right_inj] at hone
    simp only [List.singleton_append, List.cons.injEq, and_true] at hone
    exact hfate (hone.2 ▸ hsecond)

/-- The sources have been compiled, and have been packed to a target; since then only the log has grown. -/
structure Packs (p : Package) (target : Path) (entry : Option Toml) (host : Host) (packed : Spawned) (h : Host) :
    Prop where
  spawned : ∃ compiled, h.spawned = host.spawned ++ [compiled, packed]
  command : packed.command = ⟨p.packArguments target entry, some p.work.text, none⟩
  edits : host.files.Edits packed.left
  logs : ∃ text, p.supervisor.Logs text packed.left h.files

theorem Packs.of_still {entry : Option Toml} {packed : Spawned} (hstill : Still host h)
    (hpacks : p.Packs target entry h packed h') : p.Packs target entry host packed h' :=
  ⟨hstill.1 ▸ hpacks.spawned, hpacks.command, hstill.2.trans hpacks.edits, hpacks.logs⟩

/-- An archive that was left as an executable file is a candidate for the executable. -/
theorem Packs.mem_candidates {name : String} {entry : Option Toml} {packed : Spawned}
    (hpacks : p.Packs (p.releaseDirectory.child (safeName name ++ ".pyz")) entry host packed h)
    (hleft : packed.left.isExecutable (p.releaseDirectory.child (safeName name ++ ".pyz")) = true) :
    p.releaseDirectory.child (safeName name ++ ".pyz") ∈ p.candidates h.files := by
  obtain ⟨text, hlogs⟩ := hpacks.logs
  refine Package.mem_candidates (archive_ne_up name) ?_
  rw [isCandidate, Files.isExecutable_of_write hlogs hleft, otherExtensions_archive]
  rfl

theorem Packs.isListing {entry : Option Toml} {packed : Spawned} (hpacks : p.Packs target entry host packed h)
    (honce : host.files.IsListing) : h.files.IsListing := by
  obtain ⟨text, hlogs⟩ := hpacks.logs
  exact (hpacks.edits.trans (Files.edits_write hlogs)).isListing honce

section Still

variable {α β : Type} {a : Action α} {f : α → Action β} {R : α → Prop} {Q : Except Failure β → Host → Prop}

/-- What is done before any child is started. -/
theorem Still.bind (hstill : Still host h) (ha : Returns Still R a)
    (hf : ∀ x h, R x → Still host h → Ends (f x) h Q) (herror : ∀ e h, Still host h → Q (.error e) h) :
    Ends (a >>= f) h Q := by
  refine Ends.bind (ha h) (fun x h' hr => hf x h' hr.2 (IsFrame.trans hstill hr.1)) fun e h' hr => ?_
  exact herror e h' (IsFrame.trans hstill hr.1)

end Still

theorem ends_build (entry : Option Toml) :
    Ends (p.build entry) host fun r h =>
      match r with
      | .ok _ => ∃ name packed, p.Packs (p.releaseDirectory.child (safeName name ++ ".pyz")) entry host packed h
      | .error _ => ¬BothEnded host.spawned h.spawned := by
  have herror (_ : Failure) (h : Host) (hstill : Still host h) : ¬BothEnded host.spawned h.spawned :=
    hstill.1 ▸ not_bothEnded_self _
  rw [build]
  -- the log, the directories and the name of the archive come before any child
  refine Still.bind (IsFrame.refl host) (works_makeDirectories _ _).returns (fun _ h _ hstill => ?_) herror
  refine hstill.bind (works_writeText _ _).returns (fun _ h _ hstill => ?_) herror
  refine hstill.bind (works_notify _).returns (fun _ h _ hstill => ?_) herror
  refine hstill.bind (works_makeDirectories _ _).returns (fun _ h _ hstill => ?_) herror
  refine hstill.bind p.returns_archive (fun target h hname hstill => ?_) herror
  obtain ⟨name, rfl⟩ := hname
  refine hstill.bind works_readClock.returns (fun now h _ hstill => ?_) herror
  -- the sources are compiled
  rw [ends_bind]
  refine Ends.mono (ends_buildStep _ _) ?_
  rintro r h₁ hr
  cases r with
  | error e => exact hstill.1 ▸ hr.not_bothEnded
  | ok compiled =>
    obtain ⟨first, hfirst⟩ := hr
    have hspawned₁ : h₁.spawned = host.spawned ++ [first] := hstill.1 ▸ hfirst.spawned
    dsimp only
    -- the sources are packed
    rw [ends_bind]
    refine Ends.mono (ends_buildStep _ _) ?_
    rintro r h₂ hr
    cases r with
    | error e => exact hr.not_bothEnded_second hspawned₁
    | ok packed =>
      obtain ⟨second, hsecond⟩ := hr
      dsimp only
      rw [ends_bind]
      refine Ends.mono (ends_notify _) ?_
      rintro _ h₃ ⟨rfl, hspawned₃, hfiles₃⟩
      obtain ⟨text, hlogs⟩ := hsecond.logs
      obtain ⟨text₁, hlogs₁⟩ := hfirst.logs
      have hspawned : h₃.spawned = host.spawned ++ [first, second] := by
        rw [hspawned₃, hsecond.spawned, hspawned₁, List.append_assoc, List.cons_append, List.nil_append]
      have hedits : host.files.Edits second.left :=
        hstill.2.trans (hfirst.edits.trans ((Files.edits_write hlogs₁).trans hsecond.edits))
      exact ⟨name, second, ⟨first, hspawned⟩, hsecond.command, hedits, text, hfiles₃ ▸ hlogs⟩

/-- The build as a stage. -/
theorem ends_buildStage (entry : Option Toml) :
    Ends (p.buildStage entry) host fun r h =>
      match r with
      | .ok _ => ∃ name packed, p.Packs (p.releaseDirectory.child (safeName name ++ ".pyz")) entry host packed h
      | .error _ => ¬BothEnded host.spawned h.spawned := by
  refine ends_stage_aside (fun r h pipeline hr => ?_) fun pipeline => ?_
  · cases r with
    | error e => exact hr
    | ok output =>
      obtain ⟨name, packed, hpacks⟩ := hr
      exact ⟨name, packed, hpacks.spawned, hpacks.command, hpacks.edits, hpacks.logs⟩
  · have hstill : Still host { host with pipeline } := IsStageFrame.pipeline host pipeline
    refine hstill.bind (works_notify _).returns (fun _ h _ hstill => ?_) fun _ h hstill => ?_
    · refine Ends.mono (ends_build entry) fun r h' hr => ?_
      cases r with
      | error e => exact hstill.1 ▸ hr
      | ok output =>
        obtain ⟨name, packed, hpacks⟩ := hr
        exact ⟨name, packed, hpacks.of_still hstill⟩
    · exact hstill.1 ▸ not_bothEnded_self _

/-- What has come of a build whose two children have ended well. -/
def IsBuilt (p : Package) (host : Host) (r : Except Failure Path) (h : Host) : Prop :=
  ∃ name entry packed, p.Packs (p.releaseDirectory.child (safeName name ++ ".pyz")) entry host packed h ∧
    (packed.left.isExecutable (p.releaseDirectory.child (safeName name ++ ".pyz")) = true →
      p.Chosen h.files (p.releaseDirectory.child (safeName name ++ ".pyz")) r)

theorem ends_assemble (honce : host.files.IsListing) :
    Ends p.assemble host fun r h => BothEnded host.spawned h.spawned →
      p.IsBuilt host (r.map (·.executable)) h := by
  have herror {P : Prop} {h : Host} (hstill : Still host h) (hended : BothEnded host.spawned h.spawned) : P :=
    absurd (hstill.1 ▸ hended) (not_bothEnded_self _)
  rw [assemble_eq]
  refine Still.bind (IsFrame.refl host) p.works_instrumentStage.returns (fun results h₁ _ hstill₁ => ?_) fun _ _ => herror
  refine hstill₁.bind ((p.works_resolveEntry results).stage _).returns (fun entry h₂ _ hstill₂ => ?_) fun _ _ => herror
  rw [ends_bind]
  refine Ends.mono (ends_buildStage entry) fun r h₃ hr => ?_
  cases r with
  | error e => exact fun hended => absurd (hstill₂.1.symm ▸ hended) hr
  | ok output =>
    obtain ⟨name, packed, hpacks⟩ := hr
    have hpacks := hpacks.of_still hstill₂
    have hlocate : Ends (stage "locate" p.findExecutable) h₃ fun r h =>
        p.IsBuilt host r h := by
      refine ends_stage_aside (fun r h pipeline hr => ?_) fun pipeline => ?_
      · obtain ⟨name, entry, packed, hpacks, hchosen⟩ := hr
        exact ⟨name, entry, packed, ⟨hpacks.spawned, hpacks.command, hpacks.edits, hpacks.logs⟩, hchosen⟩
      · rw [Ends, host_findExecutable]
        refine ⟨name, entry, packed, ⟨hpacks.spawned, hpacks.command, hpacks.edits, hpacks.logs⟩, fun hleft => ?_⟩
        exact @chosen_of_mem p { h₃ with pipeline } _ (hpacks.isListing honce) (hpacks.mem_candidates hleft)
    dsimp only
    rw [ends_bind]
    refine Ends.mono hlocate fun r h₄ hr => ?_
    cases r with
    | error e => exact fun _ => hr
    | ok executable => exact fun _ => hr

theorem ends_instrumentAndBuild (honce : host.files.IsListing) :
    Ends p.instrumentAndBuild host fun r h => BothEnded host.spawned h.spawned →
      p.IsBuilt host (r.map (·.executable)) h := by
  have herror {P : Prop} {h : Host} (hstill : Still host h) (hended : BothEnded host.spawned h.spawned) : P :=
    absurd (hstill.1 ▸ hended) (not_bothEnded_self _)
  rw [instrumentAndBuild]
  refine Still.bind (IsFrame.refl host) (works_notify _).returns (fun _ h₁ _ hstill₁ => ?_) fun _ _ => herror
  refine hstill₁.bind p.works_prepare.returns (fun _ h₂ _ hstill₂ => ?_) fun _ _ => herror
  refine Ends.mono (ends_assemble (hstill₂.2.isListing honce)) fun r h hr hended => ?_
  obtain ⟨name, entry, packed, hpacks, hchosen⟩ := hr (hstill₂.1.symm ▸ hended)
  exact ⟨name, entry, packed, hpacks.of_still hstill₂, hchosen⟩

/-- A build whose two children have ended well, and whose archive was left as an executable file.  The archive
stands directly in the release directory, and it is one of the candidates for the executable.  It is the
executable if it is the only candidate; otherwise all of the candidates are named, and there is no result. -/
theorem chosen_of_instrumentAndBuild (honce : host.files.IsListing) {compiled packed : Spawned}
    (hspawned : (p.instrumentAndBuild host).2.spawned = host.spawned ++ [compiled, packed])
    (hcompiled : compiled.fate = .exited 0) (hpacked : packed.fate = .exited 0) :
    ∃ name entry, Path.IsName name ∧ name ≠ ".." ∧
      packed.command = ⟨p.packArguments (p.releaseDirectory.child name) entry, some p.work.text, none⟩ ∧
      (packed.left.isExecutable (p.releaseDirectory.child name) = true →
        p.releaseDirectory.child name ∈ p.candidates (p.instrumentAndBuild host).2.files ∧
          p.Chosen (p.instrumentAndBuild host).2.files (p.releaseDirectory.child name)
            ((p.instrumentAndBuild host).1.map (·.executable))) := by
  obtain ⟨name, entry, last, hpacks, hchosen⟩ :=
    ends_instrumentAndBuild honce ⟨compiled, packed, hspawned, hcompiled, hpacked⟩
  obtain ⟨first, hfirst⟩ := hpacks.spawned
  have hlast : last = packed := by
    rw [hspawned, List.append_right_inj] at hfirst
    simp only [List.cons.injEq, and_true] at hfirst
    exact hfirst.2.symm
  subst hlast
  exact ⟨_, entry, isName_archive name, archive_ne_up name, hpacks.command, fun hleft =>
    ⟨hpacks.mem_candidates hleft, hchosen hleft⟩⟩

/-! ## Two executables

Sorting two candidates is too much to be computed with the proof, so the host is followed from stage to
stage up to the search, and the search is said by `ends_locate_of_two`.
-/

/-- A package with one source, and nothing beside it. -/
def plainEntries : List (Location × Entry) :=
  [(["tmp"], .directory), (["home"], .directory), (["home", "logs"], .directory), (["pkg"], .directory),
   (["pkg", "pyproject.toml"], .file [] false), (["pkg", "src"], .directory),
   (["pkg", "src", launcherFile], .file [255] false)]

/-- The same, with the working copy of the package. -/
def copiedEntries : List (Location × Entry) :=
  [(["tmp", workName 1, "src", launcherFile], .file [255] false), (["tmp", workName 1, "src"], .directory),
   (["tmp", workName 1, "pyproject.toml"], .file [] false), (["tmp", workName 1], .directory)] ++ plainEntries

def plainPackage : Package :=
  ofNumber (Path.ofText "/pkg") (Config.usual (Path.ofText "/home") (Path.ofText "/tmp") "python3") 1

/-- The archive of that package. -/
def plainTarget : Path := plainPackage.releaseDirectory.child "pkg.pyz"

/-- Another file in its release directory. -/
def crowdingPath : Path := plainPackage.releaseDirectory.child "old"

/-- A host on which the package can be built, but whose first child leaves an executable file of its own in the
release directory. -/
def crowdedHost : Host where
  files := ⟨plainEntries, []⟩
  clock := ⟨[]⟩
  named := 1
  upcoming := [{ Child.idle with files := [(crowdingPath.text, .file [] true)] }, { Child.idle with archive := true }]
  spawned := []
  searchPath := none
  listening := false
  reports := []
  pipeline := ⟨Stages.ofNames stageNames, [], false⟩
  now := ⟨2025, 1, 1, 12, 0, 0, 0, none⟩

/-- The host that an action leaves, with its entries written out. -/
def hostAfter {α : Type} (a : Action α) (host : Host) (entries : List (Location × Entry)) : Host :=
  { (a host).2 with files := ⟨entries, []⟩ }

theorem eq_hostAfter {α : Type} {a : Action α} {x : α} {entries : List (Location × Entry)} (test : α → Bool)
    (htest : ∀ y, test y = true → y = x) (hok : (a host).1.toOption.any test = true)
    (hfiles : ((a host).2.files.entries, (a host).2.files.workingDirectory) = (entries, [])) :
    a host = (.ok x, hostAfter a host entries) := by
  obtain ⟨rfl, hhere⟩ := Prod.mk.inj hfiles
  rcases hresult : a host with ⟨_ | y, h⟩
  · rw [hresult] at hok
    cases hok
  · rw [hresult] at hok hhere
    rw [htest y hok, hostAfter, hresult, ← hhere]

def crowdedPrepared : Host := hostAfter plainPackage.prepare crowdedHost copiedEntries

def crowdedInstrumented : Host := hostAfter plainPackage.instrumentStage crowdedPrepared copiedEntries

def crowdedResolved : Host := hostAfter (stage "entry" (plainPackage.resolveEntry [])) crowdedInstrumented copiedEntries

theorem prepare_crowded : plainPackage.prepare crowdedHost = (.ok (), crowdedPrepared) :=
  eq_hostAfter (fun _ => true) (fun _ _ => rfl) (by decide +kernel) (by decide +kernel)

theorem instrumentStage_crowded : plainPackage.instrumentStage crowdedPrepared = (.ok [], crowdedInstrumented) :=
  eq_hostAfter List.isEmpty (fun _ => List.isEmpty_iff.mp) (by decide +kernel) (by decide +kernel)

theorem resolveEntry_crowded :
    stage "entry" (plainPackage.resolveEntry []) crowdedInstrumented = (.ok none, crowdedResolved) :=
  eq_hostAfter Option.isNone (fun _ => Option.isNone_iff_eq_none.mp) (by decide +kernel) (by decide +kernel)

/-- The host when the package has been built. -/
def crowdedBuilt : Host := (plainPackage.buildStage none crowdedResolved).2

/-- Both children have ended well, and the archive has been left as an executable file. -/
theorem spawned_crowdedBuilt :
    crowdedBuilt.spawned.map (fun s => (s.fate, archiveTarget? s.command.arguments)) =
        [(.exited 0, none), (.exited 0, some plainTarget.text)] ∧
      crowdedBuilt.spawned.map (·.left.isExecutable plainTarget) = [false, true] := by
  decide +kernel

theorem buildStage_crowded : ∃ output, plainPackage.buildStage none crowdedResolved = (.ok output, crowdedBuilt) := by
  have hok : (plainPackage.buildStage none crowdedResolved).1.toBool = true := by decide +kernel
  rcases hresult : plainPackage.buildStage none crowdedResolved with ⟨_ | output, h⟩
  · rw [hresult] at hok
    cases hok
  · exact ⟨output, by rw [crowdedBuilt, hresult]⟩

theorem mem_candidates_crowded :
    plainTarget ∈ plainPackage.candidates crowdedBuilt.files ∧ crowdingPath ∈ plainPackage.candidates crowdedBuilt.files :=
  ⟨mem_candidates (by decide) (by decide +kernel), mem_candidates (by decide) (by decide +kernel)⟩

/-- Neither of the two executables is chosen. -/
theorem ends_crowded :
    Ends plainPackage.instrumentAndBuild crowdedHost fun r h =>
      h.spawned = crowdedBuilt.spawned ∧ ∃ f, r = .error f := by
  obtain ⟨output, hbuilt⟩ := buildStage_crowded
  obtain ⟨hfirst, hsecond⟩ := mem_candidates_crowded
  have hne : plainTarget ≠ crowdingPath := by decide +kernel
  have hlocate : Ends (stage "locate" plainPackage.findExecutable) crowdedBuilt fun r h =>
      h.spawned = crowdedBuilt.spawned ∧ ∃ f, r = .error f := ends_locate_of_two hfirst hsecond hne
  have hdetected : notify ("Detected Python package at: " ++ plainPackage.path.text) crowdedHost = (.ok (), crowdedHost) :=
    rfl
  rw [instrumentAndBuild]
  refine ends_bind_of_eq hdetected (ends_bind_of_eq prepare_crowded ?_)
  rw [assemble_eq]
  refine ends_bind_of_eq instrumentStage_crowded (ends_bind_of_eq resolveEntry_crowded (ends_bind_of_eq hbuilt ?_))
  refine Ends.bind hlocate (fun _ _ hr => ?_) fun f _ hr => ⟨hr.1, f, rfl⟩
  obtain ⟨-, f, hf⟩ := hr
  cases hf

/-- The archive is what stands behind `-o`. -/
theorem archiveTarget?_packArguments {entry : Option Toml} (hinterpreter : p.config.interpreter ≠ "-o")
    (hsources : p.sourceRoot.text ≠ "-o") : archiveTarget? (p.packArguments target entry) = some target.text := by
  simp [packArguments, archiveTarget?, hinterpreter, hsources]

theorem exists_two_spawned {spawned : List Spawned} {archive : String}
    (hfates : spawned.map (fun s => (s.fate, archiveTarget? s.command.arguments)) =
      [(.exited 0, none), (.exited 0, some archive)])
    (hleft : spawned.map (·.left.isExecutable target) = [false, true]) :
    ∃ compiled packed, spawned = [compiled, packed] ∧ compiled.fate = .exited 0 ∧ packed.fate = .exited 0 ∧
      archiveTarget? packed.command.arguments = some archive ∧ packed.left.isExecutable target = true := by
  obtain ⟨compiled, rest, rfl, hcompiled, hfates⟩ := List.map_eq_cons_iff.mp hfates
  obtain ⟨packed, rest, rfl, hpacked, hfates⟩ := List.map_eq_cons_iff.mp hfates
  obtain rfl := List.map_eq_nil_iff.mp hfates
  simp only [Prod.mk.injEq] at hcompiled hpacked
  simp only [List.map_cons, List.map_nil, List.cons.injEq, and_true] at hleft
  exact ⟨compiled, packed, rfl, hcompiled.1, hpacked.1, hpacked.2, hleft.2⟩

theorem chosen_of_instrumentAndBuild_crowded :
    ∃ compiled packed, (plainPackage.instrumentAndBuild crowdedHost).2.spawned = crowdedHost.spawned ++ [compiled, packed] ∧
      compiled.fate = .exited 0 ∧ packed.fate = .exited 0 ∧ packed.left.isExecutable plainTarget = true ∧
      plainPackage.Chosen (plainPackage.instrumentAndBuild crowdedHost).2.files plainTarget
        ((plainPackage.instrumentAndBuild crowdedHost).1.map (·.executable)) := by
  obtain ⟨compiled, packed, htwo, hcompiled, hpacked, harchive, hleft⟩ :=
    exists_two_spawned spawned_crowdedBuilt.1 spawned_crowdedBuilt.2
  have hspawned : (plainPackage.instrumentAndBuild crowdedHost).2.spawned = crowdedHost.spawned ++ [compiled, packed] :=
    ends_crowded.1.trans htwo
  have honce : crowdedHost.files.IsListing := by decide +kernel
  obtain ⟨name, entry, -, -, hcommand, hchosen⟩ := chosen_of_instrumentAndBuild honce hspawned hcompiled hpacked
  rw [hcommand, archiveTarget?_packArguments (by decide +kernel) (by decide +kernel), Option.some_inj] at harchive
  obtain rfl : name = "pkg.pyz" := Path.child_text_inj harchive
  have htarget : plainTarget = plainPackage.releaseDirectory.child "pkg.pyz" := rfl
  rw [← htarget] at hchosen
  exact ⟨compiled, packed, hspawned, hcompiled, hpacked, hleft, (hchosen hleft).2⟩

/-- Both children have ended well and the archive is there, and yet there is no result. -/
theorem not_chosen_crowded :
    (plainPackage.instrumentAndBuild crowdedHost).2.spawned.map
          (fun s => (s.fate, archiveTarget? s.command.arguments)) =
        [(.exited 0, none), (.exited 0, some plainTarget.text)] ∧
      (plainPackage.instrumentAndBuild crowdedHost).2.spawned.map (·.left.isExecutable plainTarget) = [false, true] ∧
      ∀ built, (plainPackage.instrumentAndBuild crowdedHost).1 ≠ .ok built := by
  obtain ⟨hspawned, f, hr⟩ := ends_crowded
  rw [hspawned, hr]
  exact ⟨spawned_crowdedBuilt.1, spawned_crowdedBuilt.2, fun _ h => of_failure h⟩

end Package

end Stopwatch
