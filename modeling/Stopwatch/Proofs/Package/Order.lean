/-
  The order of the children of a build.

  A build starts no child before the package has been copied and instrumented and its entry is known.
  Then one child compiles the sources, and when it has ended well in time another one packs them.  A build
  has a result only if that child has ended well in time as well, and if there is one candidate for the
  executable.
-/
import Stopwatch.Proofs.Package.Steps
import Stopwatch.Proofs.Stages

namespace Stopwatch

open Action

namespace Action

variable {α β γ : Type} {names : List String} {name : String} {work : Action α} {host start h : Host}

/-- Some stages have succeeded. -/
def Succeeded (names : List String) (h : Host) : Prop :=
  ∀ name ∈ names, h.pipeline.stages.status name = .succeeded

/-- A stage that succeeds is one more. -/
theorem ends_stage_succeeded (hwork : Unstaged work) (h : Succeeded names host) :
    Ends (stage name work) host fun r h => ∀ x, r = .ok x → Succeeded (names ++ [name]) h := by
  refine Ends.mono (ends_stage_marked hwork) fun r h' hr x hx other hother => ?_
  subst hx
  rw [hr, Stages.status_mark, Stages.status_mark]
  by_cases heq : other = name
  · rw [if_pos heq]
    rfl
  · rw [if_neg heq, if_neg heq]
    exact h other ((List.mem_append.mp hother).resolve_right fun hlast => heq (List.mem_singleton.mp hlast))

/-- Stages that have succeeded before another one stay so, however that one ends. -/
theorem ends_stage_other (hwork : Unstaged work) (hname : name ∉ names) (h : Succeeded names host) :
    Ends (stage name work) host fun _ h => Succeeded names h := by
  refine Ends.mono (ends_stage_marked hwork) fun r h' hr other hother => ?_
  have heq : other ≠ name := fun heq => hname (heq ▸ hother)
  rw [hr, Stages.status_mark, Stages.status_mark, if_neg heq, if_neg heq]
  exact h other hother

/-! ## Work between children -/

/-- The frame of actions that start no child and mark no stage. -/
def Idle (host h : Host) : Prop :=
  h.spawned = host.spawned ∧ h.pipeline.stages = host.pipeline.stages

instance : IsFrame Idle where
  aside := by
    rintro host h ⟨_, _, _, _, _, rfl, -, hstages⟩
    exact ⟨rfl, hstages⟩
  trans := fun h h' => ⟨h'.1.trans h.1, h'.2.trans h.2⟩

theorem Succeeded.idle (h' : Succeeded names host) (hidle : Idle host h) : Succeeded names h := by
  intro name hname
  rw [hidle.2]
  exact h' name hname

/-- Some stages have succeeded, and no child has been started since the start of some work that is not over
yet: what is left of it comes to the same as the whole. -/
structure Reaches (names : List String) (start : Host) (whole rest : Action γ) (h : Host) : Prop where
  spawned : h.spawned = start.spawned
  succeeded : Succeeded names h
  rest_eq : rest h = whole start

section Reaches

variable {R : α → Prop} {a : Action α} {f : α → Action β} {g : α → Action γ} {whole : Action γ}
  {Q : Except Failure β → Host → Prop}

/-- An action is known by what it comes to. -/
theorem apply_bind_of_eq {x : α} (heq : a host = (.ok x, h)) : (a >>= g) host = g x h := by
  have hrun : (a >>= g) host = ExceptT.bindCont g (a host).1 (a host).2 := rfl
  rw [hrun, heq]
  rfl

/-- The work goes on when a part of it is over that has started no child. -/
theorem Reaches.advance {names' : List String} (h' : Reaches names start whole (a >>= g) h)
    (ha : Ends a h fun r h => h.spawned = start.spawned ∧ ∀ x, r = .ok x → Succeeded names' h)
    (hf : ∀ x h, Reaches names' start whole (g x) h → Ends (f x) h Q)
    (herror : ∀ e h, h.spawned = start.spawned → Q (.error e) h) : Ends (a >>= f) h Q := by
  have hself : Ends a h fun r h'' => a h = (r, h'') := rfl
  refine Ends.bind (hself.and ha) ?_ fun e h'' hr => herror e h'' hr.2.1
  rintro x h'' ⟨heq, hspawned, hsucceeded⟩
  -- the whole comes to what the rest comes to from here
  have hrest : g x h'' = whole start := (apply_bind_of_eq heq).symm.trans h'.rest_eq
  exact hf x h'' ⟨hspawned, hsucceeded x rfl, hrest⟩

/-- What is done between children. -/
theorem Reaches.bind (h' : Reaches names start whole (a >>= g) h) (ha : Returns Idle R a)
    (hf : ∀ x h, Reaches names start whole (g x) h → Ends (f x) h Q)
    (herror : ∀ e h, h.spawned = start.spawned → Q (.error e) h) : Ends (a >>= f) h Q := by
  refine h'.advance (Ends.mono (ha h) ?_) hf herror
  rintro _ h'' ⟨hidle, -⟩
  exact ⟨hidle.1.trans h'.spawned, fun _ _ => h'.succeeded.idle hidle⟩

/-- A stage without children. -/
theorem Reaches.stage_bind (h' : Reaches names start whole (stage name work >>= g) h)
    (hwork : ∀ {K : Host → Host → Prop} [IsFrame K], Works K work)
    (hf : ∀ x h, Reaches (names ++ [name]) start whole (g x) h → Ends (f x) h Q)
    (herror : ∀ e h, h.spawned = start.spawned → Q (.error e) h) : Ends (stage name work >>= f) h Q := by
  have hspawned : Ends (stage name work) h fun _ h => h.spawned = start.spawned := by
    refine ends_stage_aside (fun _ _ _ hr => hr) fun pipeline => ?_
    exact Ends.mono ((hwork (K := Idle)) { h with pipeline }) fun _ _ hr => hr.1.1.trans h'.spawned
  exact h'.advance (hspawned.and (ends_stage_succeeded hwork.unstaged h'.succeeded)) hf herror

/-- Another stage is running now. -/
theorem Reaches.running {g : Unit → Action γ} (h' : Reaches names start whole (mark name .running >>= g) h)
    (hname : name ∉ names) : Reaches names start whole (g ())
      { h with pipeline := { h.pipeline with stages := h.pipeline.stages.mark name .running } } := by
  refine ⟨h'.spawned, fun other hother => ?_, h'.rest_eq⟩
  have heq : other ≠ name := fun heq => hname (heq ▸ hother)
  rw [Stages.status_mark, if_neg heq]
  exact h'.succeeded other hother

end Reaches

end Action

namespace Package

variable {p : Package} {log : Path} {start h : Host} {entry : Option Toml} {target : Path}

/-! ## The order of children -/

/-- The stages before the build. -/
def preparation : List String :=
  ["workspace", "copy", "instrument", "entry"]

/-- What is done of a build before its time begins; it is found out where the archive will stand. -/
def buildOutset (p : Package) (entry : Option Toml) : Action (Option Toml × Path) := do
  notify "Building instrumented package..."
  Action.makeDirectories p.config.buildLog.parent true
  Action.writeText p.config.buildLog ""
  notify ("Build log: " ++ p.config.buildLog.text)
  Action.makeDirectories p.releaseDirectory true
  let target ← p.archive
  return (entry, target)

/-- What is done of a working copy before the time of the build begins. -/
def assembleOutset (p : Package) : Action (Option Toml × Path) := do
  let results ← p.instrumentStage
  let entry ← stage "entry" (p.resolveEntry results)
  mark "build" .running
  p.buildOutset entry

/-- All that is done before the time of the build begins. -/
def outset (p : Package) : Action (Option Toml × Path) := do
  notify ("Detected Python package at: " ++ p.path.text)
  stage "workspace" p.makeWork
  stage "copy" do
    notify "Copying package to temporary location..."
    p.copy
  p.assembleOutset

/-- When a build must be over whose time begins on a host. -/
def deadline (p : Package) (h : Host) : Float :=
  h.clock.read.1 + p.config.buildTimeout

/-- The host when its clock has been read. -/
def timed (h : Host) : Host :=
  { h with clock := h.clock.read.2 }

/-- The host when the sources have been compiled, or that has failed. -/
def compiled (p : Package) (h : Host) : Host :=
  (p.buildStep (p.deadline h) p.compileArguments (timed h)).2

/-- The host when the sources have been packed, or that has failed. -/
def packed (p : Package) (entry : Option Toml) (target : Path) (h : Host) : Host :=
  (p.buildStep (p.deadline h) (p.packArguments target entry) (p.compiled h)).2

/-- The time of a build begins: the stages before it have succeeded, and no child has been started. -/
structure Begins (p : Package) (start : Host) (entry : Option Toml) (target : Path) (h : Host) : Prop where
  outset_eq : p.outset start = (.ok (entry, target), h)
  spawned : h.spawned = start.spawned
  succeeded : Succeeded preparation h

/-- After that the sources have been compiled, and that has ended well in time. -/
structure IsCompiled (p : Package) (start : Host) (entry : Option Toml) (target : Path) (h : Host)
    (c : Spawned) : Prop extends p.Begins start entry target h where
  compiled : p.TakesInTime (p.deadline h) p.compileArguments (timed h) c (p.compiled h)

/-- After that the sources have been packed as well, in the time that was left. -/
structure IsPacked (p : Package) (start : Host) (entry : Option Toml) (target : Path) (h : Host)
    (c z : Spawned) : Prop extends p.IsCompiled start entry target h c where
  packed : p.TakesInTime (p.deadline h) (p.packArguments target entry) (p.compiled h) z (p.packed entry target h)

/-- The children of a package in their order, each only if the one before has ended well in time.  The
executable is looked for when the sources have been packed, and only an event is logged before it is
run. -/
inductive InOrder (p : Package) (log : Path) (start : Host) : List Spawned → Prop
  | none : InOrder p log start []
  /-- The sources are compiled. -/
  | compile {entry : Option Toml} {target : Path} {h : Host} {c : Spawned} (hbegins : p.Begins start entry target h)
      (hc : p.Takes p.compileArguments (timed h) c (p.compiled h)) : InOrder p log start [c]
  /-- Then they are packed. -/
  | pack {entry : Option Toml} {target : Path} {h : Host} {c z : Spawned}
      (hcompiled : p.IsCompiled start entry target h c)
      (hz : p.Takes (p.packArguments target entry) (p.compiled h) z (p.packed entry target h)) :
      InOrder p log start [c, z]
  /-- Then the only candidate for the executable is run. -/
  | execute {entry : Option Toml} {target executable : Path} {h : Host} {c z a : Spawned}
      {change : List UInt8 → List UInt8} (hpacked : p.IsPacked start entry target h c z)
      (hchosen : p.candidates (p.packed entry target h).files = [executable])
      (hlog : (p.packed entry target h).files.write log change = .ok a.found)
      (ha : a.command = .ofTexts [p.config.interpreter, executable.text] (some p.path.text)
        (some ⟨start.searchPath, some "1"⟩)) : InOrder p log start [c, z, a]

/-- The children that have been started since the start of a build are in order. -/
def IsOrdered (p : Package) (log : Path) (start h : Host) : Prop :=
  ∃ children, h.spawned = start.spawned ++ children ∧ p.InOrder log start children

/-- The sources have been packed; since then no child has been started, and the files are the same. -/
def HasPacked (p : Package) (start h : Host) : Prop :=
  ∃ entry target begun c z, p.IsPacked start entry target begun c z ∧ h.spawned = start.spawned ++ [c, z] ∧
    h.files = (p.packed entry target begun).files

theorem isOrdered_none (hspawned : h.spawned = start.spawned) : p.IsOrdered log start h :=
  ⟨[], by rw [List.append_nil, hspawned], .none⟩

theorem HasPacked.isOrdered (h' : p.HasPacked start h) : p.IsOrdered log start h := by
  obtain ⟨entry, target, begun, c, z, hpacked, hspawned, -⟩ := h'
  exact ⟨[c, z], hspawned, .pack hpacked.toIsCompiled hpacked.packed.toTakes⟩

/-! ## The build -/

/-- The two children of a build, whose time begins when it is known where the archive will stand. -/
theorem ends_build_inOrder (h' : Reaches preparation start p.outset (p.buildOutset entry) h) :
    Ends (do
      notify "Building instrumented package..."
      p.build entry) h fun r h =>
      match r with
      | .ok _ => p.HasPacked start h
      | .error _ => p.IsOrdered log start h := by
  have herror (_ : Failure) (h : Host) (hspawned : h.spawned = start.spawned) : p.IsOrdered log start h :=
    isOrdered_none hspawned
  refine h'.bind (works_notify _).returns (fun _ h h' => ?_) herror
  rw [build]
  refine h'.bind (works_makeDirectories _ _).returns (fun _ h h' => ?_) herror
  refine h'.bind (works_writeText _ _).returns (fun _ h h' => ?_) herror
  refine h'.bind (works_notify _).returns (fun _ h h' => ?_) herror
  refine h'.bind (works_makeDirectories _ _).returns (fun _ h h' => ?_) herror
  refine h'.bind p.returns_archive (fun target h h' => ?_) herror
  have hbegins : p.Begins start entry target h := ⟨h'.rest_eq.symm, h'.spawned, h'.succeeded⟩
  rw [ends_bind, ends_readClock]
  change Ends _ (timed h) _
  -- the sources are compiled
  have hcompile : Ends (p.buildStep (p.deadline h) p.compileArguments) (timed h) fun _ h₁ =>
      p.compiled h = h₁ := rfl
  refine Ends.bind (hcompile.and (ends_buildStep_takes _ _)) ?_ ?_
  · rintro _ _ ⟨rfl, c, hc, -⟩
    have hspawned : (p.compiled h).spawned = start.spawned ++ [c] := h'.spawned ▸ hc.spawned
    have hboth {z : Spawned}
        (hz : p.Takes (p.packArguments target entry) (p.compiled h) z (p.packed entry target h)) :
        (p.packed entry target h).spawned = start.spawned ++ [c, z] := by
      rw [hz.spawned, hspawned, List.append_assoc, List.cons_append, List.nil_append]
    -- the sources are packed
    have hpack : Ends (p.buildStep (p.deadline h) (p.packArguments target entry)) (p.compiled h) fun _ h₂ =>
        p.packed entry target h = h₂ := rfl
    refine Ends.bind (hpack.and (ends_buildStep_takes _ _)) ?_ ?_
    · rintro _ _ ⟨rfl, z, hz, -⟩
      rw [ends_bind]
      refine Ends.mono (ends_notify _) ?_
      rintro _ h₃ ⟨rfl, hspawned₃, hfiles₃⟩
      exact ⟨entry, target, h, c, z, ⟨⟨hbegins, hc⟩, hz⟩, hspawned₃.trans (hboth hz.toTakes), hfiles₃⟩
    · rintro f _ ⟨rfl, hnone | ⟨z, hz, -⟩⟩
      · exact ⟨[c], hnone.trans hspawned, .compile hbegins hc.toTakes⟩
      · exact ⟨[c, z], hboth hz, .pack ⟨hbegins, hc⟩ hz⟩
  · rintro f _ ⟨rfl, hnone | ⟨c, hc, -⟩⟩
    · exact isOrdered_none (hnone.trans h'.spawned)
    · exact ⟨[c], h'.spawned ▸ hc.spawned, .compile hbegins hc⟩

/-- The search for the executable says how many candidates there are. -/
theorem ends_findExecutable : Ends p.findExecutable h fun r h' =>
    h' = h ∧ ∀ executable, r = .ok executable → p.candidates h.files = [executable] := by
  rw [findExecutable, ends_bind, ends_get]
  dsimp only
  split
  · exact ⟨rfl, fun _ => of_failure⟩
  · rename_i path hpath
    refine ⟨rfl, fun executable heq => ?_⟩
    cases heq
    exact hpath
  · exact ⟨rfl, fun _ => of_failure⟩

/-- What has come of a build: the sources have been packed, and there is one candidate for the executable;
or there is no result, and the children are in order all the same. -/
def IsBuiltTo (p : Package) (log : Path) (start : Host) (r : Except Failure Built) (h : Host) : Prop :=
  match r with
  | .ok built => p.HasPacked start h ∧ p.candidates h.files = [built.executable]
  | .error _ => p.IsOrdered log start h

/-- No child has been started, or the stages before the build have succeeded. -/
def IsPreceded (start h : Host) : Prop :=
  h.spawned = start.spawned ∨ Succeeded preparation h

theorem ends_assemble_inOrder (h' : Reaches ["workspace", "copy"] start p.outset p.assembleOutset h) :
    Ends p.assemble h fun r h => p.IsBuiltTo log start r h ∧ IsPreceded start h := by
  have herror (f : Failure) (h : Host) (hspawned : h.spawned = start.spawned) :
      p.IsBuiltTo log start (.error f) h ∧ IsPreceded start h :=
    ⟨isOrdered_none hspawned, .inl hspawned⟩
  rw [assemble_eq]
  refine h'.stage_bind ((works_notify _).bind fun _ => p.works_instrumentSources.bind fun _ =>
    (works_notify _).bind fun _ => .pure _) (fun results h h' => ?_) herror
  refine h'.stage_bind (p.works_resolveEntry results) (fun entry h h' => ?_) herror
  -- the package has been prepared
  have hprepared : Succeeded preparation h := h'.succeeded
  have hbuild : Ends (p.buildStage entry) h fun r h =>
      match r with
      | .ok _ => p.HasPacked start h
      | .error _ => p.IsOrdered log start h := by
    refine ends_stage_running (fun r h pipeline hr => ?_) (ends_build_inOrder (h'.running (by decide)))
    cases r with
    | ok output => exact hr
    | error f => exact hr
  have hkept : Ends (p.buildStage entry) h fun _ h => Succeeded preparation h :=
    ends_stage_other ((works_notify _).bind fun _ => p.works_build (p.admitsBuild admits_bookkept) entry).unstaged
      (by decide) hprepared
  refine Ends.bind (hbuild.and hkept) ?_ fun f h hr => ⟨hr.1, .inr hr.2⟩
  rintro output h ⟨hpacked, hsucceeded⟩
  have hlocate : Ends (stage "locate" p.findExecutable) h fun r h =>
      p.HasPacked start h ∧ ∀ executable, r = .ok executable → p.candidates h.files = [executable] := by
    refine ends_stage_aside (fun _ _ _ hr => hr) fun pipeline => Ends.mono ends_findExecutable ?_
    rintro r _ ⟨rfl, hchosen⟩
    exact ⟨hpacked, hchosen⟩
  have hkept : Ends (stage "locate" p.findExecutable) h fun _ h => Succeeded preparation h :=
    ends_stage_other p.returns_findExecutable.works.unstaged (by decide) hsucceeded
  refine Ends.bind (hlocate.and hkept) (fun executable h hr => ?_) fun f h hr => ⟨hr.1.1.isOrdered, .inr hr.2⟩
  exact ⟨⟨hr.1.1, hr.1.2 executable rfl⟩, .inr hr.2⟩

theorem ends_instrumentAndBuild_inOrder (p : Package) (log : Path) (start : Host) :
    Ends p.instrumentAndBuild start fun r h => p.IsBuiltTo log start r h ∧ IsPreceded start h := by
  have herror (f : Failure) (h : Host) (hspawned : h.spawned = start.spawned) :
      p.IsBuiltTo log start (.error f) h ∧ IsPreceded start h :=
    ⟨isOrdered_none hspawned, .inl hspawned⟩
  have h' : Reaches [] start p.outset p.outset start := ⟨rfl, fun _ hname => absurd hname List.not_mem_nil, rfl⟩
  rw [instrumentAndBuild]
  refine h'.bind (works_notify _).returns (fun _ h h' => ?_) herror
  rw [prepare, bind_assoc]
  refine h'.stage_bind (works_makeDirectories _ _) (fun _ h h' => ?_) herror
  refine h'.stage_bind ((works_notify _).bind fun _ => p.works_copy) (fun _ h h' => ?_) herror
  exact ends_assemble_inOrder h'

end Package

end Stopwatch
