/-
  The order of the children of a run.

  A run of a package starts at most three children: one compiles the sources, one packs them, and the last
  one runs the executable, each only after the one before has ended well.  A run on files asks one child
  after the other to compile a copy, and each time that has gone well another one to run what has been
  compiled.
-/
import Stopwatch.Proofs.Package.Order
import Stopwatch.Proofs.Run.Frames
import Stopwatch.Proofs.Run.Gathered

namespace Stopwatch

open Action

variable {host h h' : Host}

/-- A child has been heard to its end, and has ended well. -/
def Spawned.EndsWell (s : Spawned) : Prop :=
  s.fate = .exited 0 ∧ ∃ text, s.child.printed = .ok text

namespace Action

/-- The frame of actions that change neither where children look for modules nor the day. -/
def Around (host h : Host) : Prop :=
  h.searchPath = host.searchPath ∧ h.now = host.now

instance : IsRunFrame Around where
  aside := by
    rintro host h ⟨_, _, _, _, _, rfl, -, -⟩
    exact ⟨rfl, rfl⟩
  trans := fun h h' => ⟨h'.1.trans h.1, h'.2.trans h.2⟩
  settled := fun _ _ => ⟨rfl, rfl⟩
  pipeline := fun _ _ => ⟨rfl, rfl⟩
  named := fun _ _ => ⟨rfl, rfl⟩

theorem admits_around (command : Command) : Admits Around command := by
  intro host h s hs
  rw [hs.host_eq]
  exact ⟨rfl, rfl⟩

end Action

/-! ## Runs of packages -/

namespace Package

variable {p : Package} {log executable : Path} {start : Host}

/-- The children that have been started since the start of a build are in order, and none has been started
unless the stages before the build have succeeded. -/
def IsGuarded (p : Package) (log : Path) (start h : Host) : Prop :=
  p.IsOrdered log start h ∧ IsPreceded start h

theorem IsOrdered.of_spawned (hordered : p.IsOrdered log start h) (hspawned : h'.spawned = h.spawned) :
    p.IsOrdered log start h' := by
  obtain ⟨children, hchildren, horder⟩ := hordered
  exact ⟨children, hspawned.trans hchildren, horder⟩

theorem IsGuarded.idle (hguarded : p.IsGuarded log start h) (hidle : Idle h h') : p.IsGuarded log start h' :=
  ⟨hguarded.1.of_spawned hidle.1, hguarded.2.imp (fun hspawned => hidle.1.trans hspawned) fun h => h.idle hidle⟩

/-- Work between children. -/
theorem IsGuarded.stays {α : Type} {a : Action α} (hguarded : p.IsGuarded log start h) (ha : Works Idle a) :
    Stays (p.IsGuarded log start) (fun _ => True) a h :=
  (ha h).mono (fun _ => hguarded.idle) fun _ _ => trivial

theorem IsGuarded.cleanUp (hguarded : p.IsGuarded log start h) :
    Stays (p.IsGuarded log start) (fun _ => True) p.cleanUp h := by
  have hspawned : Ends p.cleanUp h fun _ h' => h'.spawned = h.spawned := by
    refine ends_stage_aside (fun _ _ _ hr => hr) fun pipeline => ?_
    exact Ends.mono ((p.works_removeWork (K := Idle)) { h with pipeline }) fun _ _ hr => hr.1.1
  have hkept (hsucceeded : Succeeded preparation h) : Ends p.cleanUp h fun _ h' => Succeeded preparation h' :=
    ends_stage_other p.unstaged_removeWork (by decide) hsucceeded
  have hallows (result : Except Failure Unit) : Allows (fun _ => True) result := by cases result <;> trivial
  -- cleaning up marks a stage of its own, so those before the build stay as they are
  rcases hguarded.2 with hnone | hsucceeded
  · refine Ends.mono hspawned fun r h' hr => ?_
    exact ⟨⟨hguarded.1.of_spawned hr, .inl (hr.trans hnone)⟩, hallows r⟩
  · refine Ends.mono (hspawned.and (hkept hsucceeded)) fun r h' hr => ?_
    exact ⟨⟨hguarded.1.of_spawned hr.1, .inr hr.2⟩, hallows r⟩

/-- The package has been built, and only an event has been logged since then. -/
def HasBuilt (p : Package) (log : Path) (start : Host) (executable : Path) (h : Host) : Prop :=
  ∃ entry target begun c z change, p.IsPacked start entry target begun c z ∧ h.spawned = start.spawned ++ [c, z] ∧
    p.candidates (p.packed entry target begun).files = [executable] ∧
    (p.packed entry target begun).files.write log change = .ok h.files

/-- The executable is run by one child, and nothing about the stages before the build changes. -/
theorem ends_execute_command (p : Package) (executable : Path) (hsucceeded : Succeeded preparation h) :
    Ends (p.execute executable) h fun _ h' => Succeeded preparation h' ∧ ∃ a, h'.spawned = h.spawned ++ [a] ∧
      a.found = h.files ∧ a.command =
        .ofTexts [p.config.interpreter, executable.text] (some p.path.text) (some ⟨h.searchPath, some "1"⟩) := by
  rw [execute, ends_bind, ends_observe]
  dsimp only
  generalize hcommand : Command.ofTexts [p.config.interpreter, executable.text] (some p.path.text)
    (some ⟨h.searchPath, some "1"⟩) = command
  have hrun : Ends (stage "run" (communicate command)) h fun _ h' => ∃ a, h'.spawned = h.spawned ++ [a] ∧
      a.found = h.files ∧ a.command = command := by
    refine ends_stage_aside (fun _ _ _ hr => hr) fun pipeline => ?_
    refine Ends.mono (ends_communicate_answered Files.lasting_true _ trivial) ?_
    rintro _ h' ⟨a, ha, -⟩
    exact ⟨a, congrArg Host.spawned ha.host_eq, ha.found_eq, ha.command_eq⟩
  have hkept : Ends (stage "run" (communicate command)) h fun _ h' => Succeeded preparation h' :=
    ends_stage_other (works_communicate (admits_bookkept _)).unstaged (by decide) hsucceeded
  exact Ends.bind (hkept.and hrun) (fun _ _ hr => hr) fun _ _ hr => hr

end Package

namespace Run

variable {r : Run} {p : Package} {executable : Path} {start : Host}

/-- Building a package and logging that: the clock is read before the build starts. -/
theorem ends_buildLogged_inOrder (r : Run) (p : Package) (host : Host) :
    Ends (r.buildLogged p) host fun result h =>
      p.IsGuarded (r.logPath host.now) (Package.timed host) h ∧ ∀ built, result = .ok built →
        p.HasBuilt (r.logPath host.now) (Package.timed host) built.executable h ∧ Around host h := by
  have hbuild : Ends p.instrumentAndBuild (Package.timed host) fun result h =>
      (p.IsBuiltTo (r.logPath host.now) (Package.timed host) result h ∧ Package.IsPreceded (Package.timed host) h) ∧
        Around host h := by
    have hworks : Works Around p.instrumentAndBuild :=
      (p.returns_instrumentAndBuild (p.admitsBuild admits_around)).works
    exact (p.ends_instrumentAndBuild_inOrder _ _).and (Ends.mono (hworks (Package.timed host)) fun _ _ hr => hr.1)
  refine RunLog.ends_timed_work (fun _ _ _ hr => hr) ?_ hbuild
  rintro result h clock text ⟨⟨hbuilt, hpreceded⟩, haround⟩
  have hordered : p.IsOrdered (r.logPath host.now) (Package.timed host) h := by
    cases result with
    | ok built => exact hbuilt.1.isOrdered
    | error f => exact hbuilt
  rw [appendText, ends_changeFiles, haround.2]
  dsimp only
  split
  · rename_i files hwrite
    refine ⟨⟨hordered, hpreceded⟩, fun built hresult => ?_⟩
    subst hresult
    obtain ⟨⟨entry, target, begun, c, z, hpacked, hchildren, hfiles⟩, hchosen⟩ := hbuilt
    rw [hfiles] at hchosen hwrite
    exact ⟨⟨entry, target, begun, c, z, _, hpacked, hchildren, hchosen, hwrite⟩, haround.1, rfl⟩
  · exact ⟨⟨hordered, hpreceded⟩, fun _ => of_failure⟩

/-- Running a package that has been built, and logging that. -/
theorem stays_executeLogged_inOrder {log : Path} (hbuilt : p.HasBuilt log start executable h)
    (hguarded : p.IsGuarded log start h) (hsearch : h.searchPath = start.searchPath) :
    Stays (p.IsGuarded log start) (fun _ => True) (r.executeLogged p executable) h := by
  obtain ⟨entry, target, begun, c, z, change, hpacked, hspawned, hchosen, hlog⟩ := hbuilt
  -- two children have been started, so the package has been prepared
  have hsucceeded : Succeeded Package.preparation h := hguarded.2.resolve_left (by simp [hspawned])
  have hexecute (clock : Clock) : Stays (p.IsGuarded log start) (fun _ => True) (do
      let output ← p.execute executable
      return (output, ← recover fun fs => fs.recover output)) { h with clock } := by
    have hcommand : Ends (p.execute executable) { h with clock } fun _ h' => p.IsGuarded log start h' := by
      refine Ends.mono (p.ends_execute_command executable hsucceeded) ?_
      rintro _ h' ⟨hsucceeded', a, hspawned', hfound, ha⟩
      rw [← hfound] at hlog
      rw [hsearch] at ha
      refine ⟨⟨[c, z, a], ?_, .execute hpacked hchosen hlog ha⟩, .inr hsucceeded'⟩
      rw [hspawned', hspawned, List.append_assoc]
      rfl
    refine Stays.bind_of_ends hcommand (fun output h hguarded => ?_) fun f h hguarded => ⟨hguarded, trivial⟩
    exact (hguarded.stays (works_recover fun fs => fs.edits_recoverFrom _ _)).bind fun _ _ hi => .pure hi _
  refine RunLog.ends_timed_aside (fun _ _ _ hr => hr) ?_ hexecute
  rintro result h' clock text ⟨hguarded', hresult⟩
  refine Ends.mono ((works_appendText (K := Idle) _ _) { h' with clock }) ?_
  rintro r' h'' ⟨hidle, -⟩
  have hguarded'' := hguarded'.idle hidle
  cases r' with
  | ok _ => exact ⟨hguarded'', hresult⟩
  | error f => exact ⟨hguarded'', trivial⟩

theorem stays_buildAndExecute_inOrder (r : Run) (p : Package) (host : Host) :
    Stays (p.IsGuarded (r.logPath host.now) (Package.timed host)) (fun _ => True) (r.buildAndExecute p) host := by
  rw [buildAndExecute]
  refine Stays.bind_of_ends (r.ends_buildLogged_inOrder p host) ?_ fun f h hr => ⟨hr.1, trivial⟩
  rintro built h ⟨hguarded, hbuilt⟩
  obtain ⟨hbuilt, haround⟩ := hbuilt built rfl
  refine IgnoresReports.ends_report_bind fun reports => ?_
  have hexecute : Stays (p.IsGuarded (r.logPath host.now) (Package.timed host)) (fun _ => True)
      (r.executeLogged p built.executable) { h with reports } := stays_executeLogged_inOrder hbuilt hguarded haround.1
  exact hexecute.bind fun _ _ hi => .pure hi _

/-- The children of a package are in order however its run ends. -/
theorem stays_package_inOrder (r : Run) (p : Package) (host : Host) :
    Stays (p.IsGuarded (r.logPath host.now) (Package.timed host)) (fun _ => True) (r.package p) host := by
  rw [package]
  refine Stays.ensuring (I := p.IsGuarded (r.logPath host.now) (Package.timed host)) ?_ fun h hguarded => hguarded.cleanUp
  refine Stays.attempt_bind (r.stays_buildAndExecute_inOrder p host) (fun found h hguarded => ?_)
    fun f h hguarded _ => ?_
  · exact (hguarded.stays (r.works_conclude _ _ _)).bind fun _ _ hi => .pure hi _
  · dsimp only
    split
    · exact (hguarded.stays (works_report _)).bind fun _ _ hi => .pure hi none
    · exact .fail hguarded trivial

/-! ## Runs on files -/

/-- The children of a copy in their turn: one compiles it to a binary, and exactly if that one has been
heard to end well, another one is started on what it has left and runs that binary. -/
inductive InTurn (r : Run) (existing : Option String) (s : Share) : Prop
  | compile {c : Spawned} (hchildren : s.children = [c])
      (hc : c.command = FileRun.compiling r.config (Path.ofText s.entry.written) (r.binaryOf s.number))
      (hbad : ¬c.EndsWell) : InTurn r existing s
  | run {c e : Spawned} (hchildren : s.children = [c, e])
      (hc : c.command = FileRun.compiling r.config (Path.ofText s.entry.written) (r.binaryOf s.number))
      (hgood : c.EndsWell)
      (he : e.command = FileRun.running r.config (Path.ofText s.entry.written) (r.binaryOf s.number) existing)
      (hfound : e.found = c.left) : InTurn r existing s

theorem endsWell_iff_of_answered {s : Spawned} {found : Int × String} (h : Answered s (.ok found)) :
    s.EndsWell ↔ found.1 = 0 := by
  cases h with
  | @heard text hfate hprinted =>
    refine ⟨fun hwell => ?_, fun hstatus => ⟨hfate.trans (congrArg Fate.exited hstatus), text, hprinted⟩⟩
    exact Fate.exited.inj (hfate.symm.trans hwell.1)

theorem not_endsWell_of_lost {s : Spawned} {f : Failure} (h : Answered s (.error f)) : ¬s.EndsWell := by
  rintro ⟨hfate, -⟩
  rcases FileRun.isLost_of_answered h with hlost | hlost <;> simp [hlost] at hfate

theorem inTurn_of_runs {entry : Instrumented} {number : Nat} {existing : Option String} {fs files : Files}
    {children : List Spawned} {ran : Except Failure FileRun}
    (hruns : FileRun.Runs r.config (Path.ofText entry.written) (r.binaryOf number) existing fs children ran files) :
    r.InTurn existing ⟨entry, number, children⟩ := by
  cases hruns with
  | uncompiled hcompile => exact .compile rfl hcompile.command_eq (not_endsWell_of_lost hcompile.answered)
  | rejected hcompile hstatus =>
    exact .compile rfl hcompile.command_eq fun hwell => hstatus ((endsWell_iff_of_answered hcompile.answered).mp hwell)
  | unfinished hcompile hrun | finished hcompile hrun =>
    have hwell := (endsWell_iff_of_answered hcompile.answered).mpr rfl
    exact .run rfl hcompile.command_eq hwell hrun.command_eq hrun.found_eq

/-- Copies have been run one after the other, their binaries named from the numbers after a given one. -/
structure Turns (r : Run) (host : Host) (shares : List Share) (h : Host) : Prop where
  spawned : h.spawned = host.spawned ++ shares.flatMap Share.children
  numbers : shares.map Share.number = List.range' (host.named + 1) shares.length
  inTurn : ∀ s ∈ shares, r.InTurn host.searchPath s

theorem Turns.nil (r : Run) (host : Host) : r.Turns host [] host :=
  ⟨(List.append_nil _).symm, rfl, fun _ hs => absurd hs List.not_mem_nil⟩

/-- What has been gathered before makes no difference. -/
theorem Turns.of_crew {shares : List Share} {gathered : List Metric} (hturns : r.Turns h shares h')
    (hcrew : crew h = crew { host with gathered }) : r.Turns host shares h' := by
  simp only [crew, Prod.mk.injEq] at hcrew
  obtain ⟨hnamed, -, hspawned, -, hsearch, -⟩ := hcrew
  exact ⟨hspawned ▸ hturns.spawned, hnamed ▸ hturns.numbers, hsearch ▸ hturns.inTurn⟩

/-- One more copy has been run, before the others. -/
theorem Turns.cons {entry : Instrumented} {children : List Spawned} {gathered : List Metric} {shares : List Share}
    (hturn : r.InTurn host.searchPath ⟨entry, host.named + 1, children⟩)
    (hcrew : crew h = crewAfter host children gathered) (hturns : r.Turns h shares h') :
    r.Turns host (⟨entry, host.named + 1, children⟩ :: shares) h' := by
  simp only [crew, crewAfter, Prod.mk.injEq] at hcrew
  obtain ⟨hnamed, -, hspawned, -, hsearch, -⟩ := hcrew
  refine ⟨?_, ?_, fun s hs => ?_⟩
  · rw [hturns.spawned, hspawned, List.flatMap_cons, List.append_assoc]
  · rw [List.map_cons, hturns.numbers, hnamed, List.length_cons, List.range'_succ]
  · rcases List.mem_cons.mp hs with rfl | hs
    · exact hturn
    · exact hsearch ▸ hturns.inTurn s hs

/-- Some copies are run one after the other: all of them, unless a failure is raised. -/
theorem ends_measureAll_turns (r : Run) (entries : List Instrumented) :
    Ends (r.measureAll entries) host fun result h => ∃ shares, r.Turns host shares h ∧
      shares.map Share.entry <+: entries ∧ (result = .ok () → shares.map Share.entry = entries) := by
  -- by induction on the copies that are left; the host each starts on has the numbers used before
  induction entries generalizing host with
  | nil => exact ⟨[], .nil r host, List.prefix_rfl, fun _ => rfl⟩
  | cons entry rest ih =>
    rw [measureAll]
    refine Ends.bind (ends_measure Files.lasting_true r entry trivial) ?_ ?_
    · rintro _ h₁ ⟨children, ran, files, gathered, -, hm, -⟩
      refine Ends.mono ih ?_
      rintro result h₂ ⟨shares, hturns, hinitial, hall⟩
      refine ⟨_, hturns.cons (inTurn_of_runs hm.runs) hm.crew_eq, ?_, fun hresult => ?_⟩
      · exact (List.prefix_cons_inj entry).mpr hinitial
      · exact congrArg (entry :: ·) (hall hresult)
    · rintro f h₁ ⟨children, ran, files, gathered, -, hm, -⟩
      refine ⟨_, (Turns.nil r h₁).cons (inTurn_of_runs hm.runs) hm.crew_eq, ?_, of_failure⟩
      exact List.prefix_append [entry] rest

/-- What is known of a run on files in the end: either no child has been started because the sources could
not be instrumented, or copies have been run in their order. -/
def IsInTurn (r : Run) (host : Host) (result : Except Failure Results) (h : Host) : Prop :=
  (h.spawned = host.spawned ∧ ∃ f reports, result = .error f ∧
    (r.instrumentAll (r.paths host.files) { host with gathered := [], reports }).1 = .error f) ∨
  ∃ instrumented files shares, r.Instruments host.now host.files (r.paths host.files) instrumented files ∧
    r.Turns host shares h ∧ shares.map Share.entry <+: instrumented.filter (·.hasEntryPoint) ∧
    ∀ results, result = .ok results → shares.map Share.entry = instrumented.filter (·.hasEntryPoint)

theorem ends_singleFiles_isInTurn (r : Run) : Ends r.singleFiles host (r.IsInTurn host) := by
  have hwrites {fs fs' : Files} {p : Path} {change : List UInt8 → List UInt8} (_ : True)
      (_ : fs.write p change = .ok fs') : True := trivial
  refine ends_singleFiles_of (P := fun result h => crew h = crew { host with gathered := [] } ∧
      (∀ found, result = .ok found → ∃ files, r.Instruments host.now host.files (r.paths host.files) found files) ∧
      ∃ reports, (r.instrumentAll (r.paths host.files) { host with gathered := [], reports }).1 = result)
    (fun _ _ _ h => h) (fun reports => ?_) ?_ ?_
  · have hself : Ends (r.instrumentAll (r.paths host.files)) { host with gathered := [], reports } fun result _ =>
        (r.instrumentAll (r.paths host.files) { host with gathered := [], reports }).1 = result := rfl
    refine Ends.mono ((ends_instrumentAll hwrites r (r.paths host.files) trivial).and hself) ?_
    rintro result h ⟨⟨hcrew, -, hinstruments⟩, heq⟩
    exact ⟨hcrew, fun found hfound => ⟨_, hinstruments found hfound⟩, reports, heq⟩
  · rintro f h ⟨hcrew, -, reports, hfailed⟩
    exact .inl ⟨congrArg (fun c => c.2.2.1) hcrew, f, reports, rfl, hfailed⟩
  · rintro instrumented files h ⟨hcrew, hinstruments, -⟩ -
    obtain ⟨files', hinstruments⟩ := hinstruments instrumented rfl
    have hturned {result : Except Failure Results} {h' : Host} {shares : List Share} (hturns : r.Turns h shares h')
        (hinitial : shares.map Share.entry <+: instrumented.filter (·.hasEntryPoint))
        (hall : ∀ results, result = .ok results → shares.map Share.entry = instrumented.filter (·.hasEntryPoint)) :
        r.IsInTurn host result h' :=
      .inr ⟨instrumented, files', shares, hinstruments, hturns.of_crew hcrew, hinitial, hall⟩
    refine Ends.bind (r.ends_measureAll_turns _) ?_ ?_
    · rintro _ h' ⟨shares, hturns, hinitial, hall⟩
      exact hturned hturns hinitial fun _ _ => hall rfl
    · rintro f h' ⟨shares, hturns, hinitial, -⟩
      exact hturned hturns hinitial fun _ => of_failure

/-! ## Whole runs -/

/-- The host when the build of a package starts: the package has its number, and the clock has been read. -/
def buildStart (r : Run) (host : Host) : Host :=
  Package.timed (Package.create r.input r.config host).2

/-- The children of a run: there are none if the input is refused; a package has its three in order, and
none unless it has been prepared; and a run on files has those of the copies that can be run, in the order
of the paths of their sources, of all of them unless a failure is raised. -/
inductive Spawns (r : Run) (host : Host) : Except Failure (Option Results) → Host → List Spawned → Prop
  | refused {problem : Problem} {h : Host} (hproblem : r.inputProblem? host.files = some problem) :
      Spawns r host (.error (.problem problem)) h []
  | onPackage {result : Except Failure (Option Results)} {h : Host} {children : List Spawned}
      (haccepted : r.inputProblem? host.files = none) (hmode : ¬r.IsOnFiles host)
      (horder : (Package.ofNumber r.input r.config (host.named + 1)).InOrder (r.logPath host.now) (r.buildStart host)
        children)
      (hprepared : children ≠ [] → Succeeded Package.preparation h) : Spawns r host result h children
  /-- A failure is raised while sources are instrumented. -/
  | uninstrumented {f : Failure} {h : Host} {reports : List Report} (haccepted : r.inputProblem? host.files = none)
      (hmode : r.IsOnFiles host) (hfailed : (r.instrumentAll (r.paths host.files)
        { (Package.create r.input r.config host).2 with gathered := [], reports }).1 = .error f) :
      Spawns r host (.error f) h []
  | onFiles {result : Except Failure (Option Results)} {h : Host} {instrumented : List Instrumented} {files : Files}
      {shares : List Share} (haccepted : r.inputProblem? host.files = none) (hmode : r.IsOnFiles host)
      (hpaths : (r.paths host.files).Pairwise fun p q => p.le q = true)
      (hinstruments : r.Instruments host.now host.files (r.paths host.files) instrumented files)
      (hinitial : shares.map Share.entry <+: instrumented.filter (·.hasEntryPoint))
      (hall : ∀ found, result = .ok found → shares.map Share.entry = instrumented.filter (·.hasEntryPoint))
      (hnumbers : shares.map Share.number = List.range' (host.named + 2) shares.length)
      (hturns : ∀ s ∈ shares, r.InTurn host.searchPath s) :
      Spawns r host result h (shares.flatMap Share.children)

/-- The children that have been started since a run began are those that `Spawns` says. -/
def HasSpawned (r : Run) (host : Host) (result : Except Failure (Option Results)) (h : Host) : Prop :=
  ∃ children, h.spawned = host.spawned ++ children ∧ r.Spawns host result h children

theorem hasSpawned_of_isInTurn {result : Except Failure Results} (haccepted : r.inputProblem? host.files = none)
    (hmode : r.IsOnFiles host) (hturns : r.IsInTurn (Package.create r.input r.config host).2 result h)
    (reports : List Report) : r.HasSpawned host (result.map some) { h with reports } := by
  rcases hturns with ⟨hspawned, f, reports', rfl, hfailed⟩ |
    ⟨instrumented, files, shares, hinstruments, hturns, hinitial, hall⟩
  · exact ⟨[], hspawned.trans (List.append_nil _).symm, .uninstrumented haccepted hmode hfailed⟩
  · have hpaths := Files.pairwise_sources host.files r.input r.config.instrumentedSuffix
    refine ⟨_, hturns.spawned, .onFiles haccepted hmode hpaths hinstruments hinitial (fun found hfound => ?_)
      hturns.numbers hturns.inTurn⟩
    cases result with
    | ok results => exact hall results rfl
    | error f => cases hfound

theorem hasSpawned_of_isGuarded {result : Except Failure (Option Results)}
    (haccepted : r.inputProblem? host.files = none) (hmode : ¬r.IsOnFiles host)
    (hguarded : (Package.ofNumber r.input r.config (host.named + 1)).IsGuarded (r.logPath host.now)
      (r.buildStart host) h) : r.HasSpawned host result h := by
  obtain ⟨⟨children, hspawned, horder⟩, hguard⟩ := hguarded
  refine ⟨children, hspawned, .onPackage haccepted hmode horder fun hne => hguard.resolve_left fun hnone => hne ?_⟩
  rwa [hnone, List.self_eq_append_right] at hspawned

/-- The files of the small tree, and another program whose copy cannot be written: there is a directory in
its place. -/
def blockedFiles : Files :=
  ⟨treeFiles.entries ++ [(["tree", "next.py"], .file (Text.Utf8.encode "pass\n") false),
    (["tree", "next_instrumented.py"], .directory)], []⟩

def blockedHost : Host :=
  { treeHost [] with files := blockedFiles }

theorem paths_blocked : treeRun.paths blockedFiles = [Path.ofText "/tree/main.py", Path.ofText "/tree/next.py"] := by
  have hlocate : blockedFiles.locate treeRun.input = .ok ["tree"] := by decide +kernel
  have hnames : blockedFiles.sourceNames ["tree"] treeRun.config.instrumentedSuffix = [["main.py"], ["next.py"]] := by
    rw [Files.sourceNames, List.mergeSort_of_pairwise (by decide +kernel)]
    decide +kernel
  rw [paths, Files.sources, if_neg (by decide +kernel), hlocate]
  dsimp only
  rw [if_pos (by decide +kernel), hnames]
  rfl

/-- The first copy of the tree has been written, but a failure has been raised, and no child has been
started. -/
def IsBlocked {α : Type} (result : Except Failure α) (h : Host) : Prop :=
  h.files.isFile (treeRun.copyPath (Path.ofText "/tree/main.py")) = true ∧ result.toBool = false ∧ h.spawned.length = 0

end Run

end Stopwatch
