/-
  How far a pipeline comes.

  The stages of a pipeline are done one after the other until one of them fails.  So at any time some
  first stages have succeeded, the next one may have failed, and those behind it have not been started.
  Only the cleaning up comes last however far the others have come.
-/
import Stopwatch.Proofs.Host.Unstaged
import Stopwatch.Proofs.Package.Frames
import Stopwatch.Proofs.Process.FileRun

namespace Stopwatch

open Action

/-! ## Tables -/

namespace Stages

/-- The statuses after the first `done` of some stages have succeeded: the next one has the status
`next`, and those behind it have not been started. -/
def upTo (names : List String) (done : Nat) (next : StageStatus) : List (String × StageStatus) :=
  names.mapIdx fun i name => (name, if i < done then .succeeded else if i = done then next else .notStarted)

variable {names : List String} {name : String} {done : Nat} {next status : StageStatus}

/-- A stage that has succeeded is one more, and the one behind it has not been started. -/
theorem upTo_succeeded : upTo names done .succeeded = upTo names (done + 1) .notStarted := by
  refine List.mapIdx_eq_mapIdx_iff.mpr fun i hi => congrArg (Prod.mk names[i]) ?_
  split_ifs <;> first | rfl | omega

/-- Marking the next stage. -/
theorem mark_upTo (hnames : names.Nodup) (hname : names[done]? = some name) :
    (mark ⟨upTo names done next⟩ name status).statuses = upTo names done status := by
  obtain ⟨hlt, rfl⟩ := List.getElem?_eq_some_iff.mp hname
  have hany : (upTo names done next).any (fun stage => stage.1 = names[done]) = true := by
    refine List.any_eq_true.mpr ⟨(names[done], next), ?_, decide_eq_true rfl⟩
    exact List.mem_mapIdx.mpr ⟨done, hlt, by simp⟩
  rw [mark, if_pos hany]
  dsimp only
  refine List.ext_getElem (by simp [upTo]) fun i hi _ => ?_
  have hlt : i < names.length := by simpa [upTo] using hi
  simp only [upTo, List.getElem_map, List.getElem_mapIdx]
  by_cases heq : i = done
  · subst heq
    simp
  · have hother : names[i] ≠ names[done] := fun h => heq (hnames.getElem_inj_iff.mp h)
    rw [if_neg hother, if_neg heq, if_neg heq]

/-- The last stage stands behind the table of the others. -/
theorem upTo_concat {last : String} (h : done < names.length ∨ done = names.length ∧ next = .notStarted) :
    upTo (names ++ [last]) done next = upTo names done next ++ [(last, .notStarted)] := by
  have hdone : ¬names.length < done := by omega
  have hnext : (if names.length = done then next else .notStarted) = .notStarted := by
    split_ifs with heq
    · exact h.elim (fun hlt => absurd heq (by omega)) And.right
    · rfl
  simp [upTo, List.mapIdx_append, hdone, hnext]

/-- Marking the last stage. -/
theorem mark_concat {front : List (String × StageStatus)} {last : String} {old : StageStatus}
    (hlast : ∀ stage ∈ front, stage.1 ≠ last) :
    (mark ⟨front ++ [(last, old)]⟩ last status).statuses = front ++ [(last, status)] := by
  have hfront : front.map (fun stage => if stage.1 = last then (last, status) else stage) = front :=
    List.map_congr_left (fun stage hstage => if_neg (hlast stage hstage)) |>.trans (List.map_id front)
  simp [mark, hfront]

/-- Marking a stage changes its own status only. -/
theorem status_mark (s : Stages) (name other : String) (status : StageStatus) :
    (s.mark name status).status other = if other = name then status else s.status other := by
  rw [mark]
  by_cases hany : s.statuses.any fun stage => stage.1 = name
  · rw [if_pos hany, Stages.status, Stages.status, List.find?_map]
    have hnames : ((fun stage : String × StageStatus => decide (stage.1 = other)) ∘
        fun stage => if stage.1 = name then (name, status) else stage) = fun stage => decide (stage.1 = other) := by
      funext stage
      by_cases hname : stage.1 = name <;> simp [hname]
    rw [hnames]
    cases hfound : s.statuses.find? fun stage => stage.1 = other with
    | none =>
      rw [if_neg]
      · rfl
      · rintro rfl
        obtain ⟨stage, hstage, hname⟩ := List.any_eq_true.mp hany
        exact List.find?_eq_none.mp hfound stage hstage hname
    | some stage =>
      have hstage : stage.1 = other := by simpa using List.find?_some hfound
      subst hstage
      by_cases hname : stage.1 = name <;> simp [hname]
  · rw [if_neg hany, Stages.status, Stages.status, List.find?_append]
    have hnone : s.statuses.find? (fun stage => stage.1 = name) = none :=
      List.find?_eq_none.mpr fun stage hstage hname => hany (List.any_eq_true.mpr ⟨stage, hstage, hname⟩)
    by_cases hname : other = name
    · subst hname
      simp [hnone]
    · simp [hname, Ne.symm hname]

/-- No stage in a table is running, if the next one is not. -/
theorem ne_running_of_mem_upTo (hnext : next ≠ .running) {stage : String × StageStatus}
    (h : stage ∈ upTo names done next) : stage.2 ≠ .running := by
  obtain ⟨i, hi, rfl⟩ := List.mem_mapIdx.mp h
  dsimp only
  split_ifs
  · exact nofun
  · exact hnext
  · exact nofun

theorem ne_of_mem_upTo (h : name ∉ names) {stage : String × StageStatus} (hstage : stage ∈ upTo names done next) :
    stage.1 ≠ name := by
  obtain ⟨i, hi, rfl⟩ := List.mem_mapIdx.mp hstage
  exact fun heq => h (heq ▸ List.getElem_mem hi)

end Stages

/-! ## One stage after the other -/

section Done

variable {α : Type} {names : List String} {name last : String} {done : Nat} {next : StageStatus} {host : Host}

/-- Of the stages of a pipeline, the first ones have succeeded, the next one has a given status, and
those behind it have not been started. -/
def Done (names : List String) (done : Nat) (next : StageStatus) (h : Host) : Prop :=
  h.pipeline.stages.statuses = Stages.upTo names done next

/-- A stage leaves the mark of its end, whatever its work does. -/
theorem ends_stage_marked {work : Action α} (hwork : Unstaged work) :
    Ends (stage name work) host fun r h => h.pipeline.stages =
      (host.pipeline.stages.mark name .running).mark name (if r.isOk then .succeeded else .failed) := by
  rw [stage, ends_bind, mark, advance, ends_modify]
  dsimp only
  rw [ends_bind, ends_attempt]
  refine Ends.mono (hwork _) fun r h hkept => ?_
  have hstages : h.pipeline.stages = host.pipeline.stages.mark name .running := congrArg Prod.snd hkept
  cases r with
  | ok x =>
    dsimp only
    rw [ends_bind, mark, advance, ends_modify, ← hstages]
    rfl
  | error f =>
    dsimp only
    rw [ends_bind, mark, advance, ends_modify, ← hstages]
    rfl

/-- The next stage succeeds, or it fails and those behind it are left. -/
theorem Done.stage (h : Done names done .notStarted host) (hnames : names.Nodup)
    (hname : names[done]? = some name) {work : Action α} (hwork : Unstaged work) :
    Leaves (fun _ => Done names (done + 1) .notStarted) (fun _ => Done names done .failed)
      (Action.stage name work) host := by
  refine Ends.mono (ends_stage_marked hwork) fun r h' hr => ?_
  have hrunning : host.pipeline.stages.mark name .running = ⟨Stages.upTo names done .running⟩ := by
    have hbefore : host.pipeline.stages = ⟨Stages.upTo names done .notStarted⟩ := congrArg Stages.mk h
    rw [hbefore]
    exact congrArg Stages.mk (Stages.mark_upTo hnames hname)
  have hafter : h'.pipeline.stages.statuses =
      Stages.upTo names done (if r.isOk then .succeeded else .failed) := by
    rw [hr, hrunning]
    exact Stages.mark_upTo hnames hname
  cases r with
  | ok x => exact .ok (hafter.trans Stages.upTo_succeeded)
  | error f => exact .error hafter

/-- The last stage is done however far the others have come. -/
theorem Done.ends_last (h : Done (names ++ [last]) done next host)
    (hdone : done < names.length ∨ done = names.length ∧ next = .notStarted) (hlast : last ∉ names) {work : Action α} (hwork : Unstaged work) :
    Ends (Action.stage last work) host fun r h => h.pipeline.stages.statuses =
      Stages.upTo names done next ++ [(last, if r.isOk then .succeeded else .failed)] := by
  refine Ends.mono (ends_stage_marked hwork) fun r h' hr => ?_
  have hother : ∀ stage ∈ Stages.upTo names done next, stage.1 ≠ last :=
    fun stage => Stages.ne_of_mem_upTo hlast
  have hrunning : host.pipeline.stages.mark last .running =
      ⟨Stages.upTo names done next ++ [(last, .running)]⟩ := by
    have hbefore : host.pipeline.stages = ⟨Stages.upTo names done next ++ [(last, .notStarted)]⟩ :=
      congrArg Stages.mk (h.trans (Stages.upTo_concat hdone))
    rw [hbefore]
    exact congrArg Stages.mk (Stages.mark_concat hother)
  rw [hr, hrunning]
  exact Stages.mark_concat hother

end Done

/-! ## Packages -/

namespace Package

variable (p : Package)

/-- The stages of a package but the last one. -/
def ownStages : List String :=
  ["workspace", "copy", "instrument", "entry", "build", "locate", "run"]

/-- Removes the working directory, if there is one. -/
def removeWork : Action Unit := do
  if (← Action.exists? p.work) then Action.removeTree p.work

theorem works_removeWork {K : Host → Host → Prop} [IsFrame K] : Works K p.removeWork := by
  refine (works_observe _).bind fun present => ?_
  split
  · exact works_removeTree _
  · exact .pure ()

theorem unstaged_removeWork : Unstaged p.removeWork :=
  p.works_removeWork.unstaged

/-- What comes of removing the working directory, as far as the files decide it. -/
def removal (fs : Files) : Except Failure Unit :=
  if fs.exists? p.work then
    match fs.locateLink p.work with
    | .error fault => .error (.system (.refused fault p.work.text))
    | .ok l =>
      match fs.find? l with
      | some .directory => .ok ()
      | some (.link _) => .error (.system .linkedTree)
      | some _ => .error (.system (.refused .notDirectory p.work.text))
      | none => .error (.system (.refused .missing p.work.text))
  else .ok ()

theorem ends_removeWork (host : Host) : Ends p.removeWork host fun r _ => r = p.removal host.files := by
  rw [removeWork, ends_bind, Action.exists?, ends_observe, removal]
  dsimp only
  split
  · rw [Action.removeTree, ends_bind, ends_get]
    dsimp only
    rw [ends_bind, ends_refusing]
    cases host.files.locateLink p.work with
    | error fault => rfl
    | ok l =>
      dsimp only
      cases host.files.find? l with
      | none => rfl
      | some entry => cases entry <;> rfl
  · rfl

theorem ends_cleanUp_removal (host : Host) : Ends p.cleanUp host fun r _ => r = p.removal host.files :=
  ends_stage_aside (fun _ _ _ hr => hr) fun pipeline => p.ends_removeWork { host with pipeline }

/-- The place where a pipeline of a package has stopped. -/
def StoppedIn (h : Host) : Prop :=
  ∃ k < 6, Done stageNames k .failed h

/-- The next stage of a package. -/
theorem leaves_stage {α : Type} {k : Nat} {name : String} {work : Action α} {host : Host}
    (h : Done stageNames k .notStarted host) (hname : stageNames[k]? = some name) (hk : k < 6)
    (hwork : Unstaged work) :
    Leaves (fun _ => Done stageNames (k + 1) .notStarted) (fun _ => StoppedIn) (stage name work) host :=
  (h.stage (by decide) hname hwork).mono (fun _ _ hdone => hdone) fun _ _ hfailed => ⟨k, hk, hfailed⟩

/-- All stages up to the executable are done, or one of them fails. -/
theorem leaves_instrumentAndBuild {host : Host} (h : Done stageNames 0 .notStarted host) :
    Leaves (fun _ => Done stageNames 6 .notStarted) (fun _ => StoppedIn) p.instrumentAndBuild host := by
  have hnotified : Leaves (fun _ => Done stageNames 0 .notStarted) (fun _ => StoppedIn)
      (notify ("Detected Python package at: " ++ p.path.text)) host := by
    refine .ok ?_
    change Done stageNames 0 .notStarted (if host.listening then _ else host)
    split <;> exact h
  refine hnotified.bind fun _ h₀ hdone₀ => Leaves.bind (S := fun _ => Done stageNames 2 .notStarted) ?_ fun _ h₂ hdone₂ => ?_
  · refine Leaves.bind (leaves_stage hdone₀ rfl (by decide) (works_makeDirectories _ _).unstaged) fun _ h₁ hdone₁ => ?_
    exact leaves_stage hdone₁ rfl (by decide) ((works_notify _).bind fun _ => p.works_copy).unstaged
  · refine Leaves.bind (leaves_stage hdone₂ rfl (by decide) ?_) fun results h₃ hdone₃ => ?_
    · exact Works.unstaged ((works_notify _).bind fun _ => p.works_instrumentSources.bind fun _ =>
        (works_notify _).bind fun _ => .pure _)
    refine Leaves.bind (leaves_stage hdone₃ rfl (by decide) (p.works_resolveEntry results).unstaged) fun entry h₄ hdone₄ => ?_
    refine Leaves.bind (leaves_stage hdone₄ rfl (by decide) ?_) fun output h₅ hdone₅ => ?_
    · exact Works.unstaged ((works_notify _).bind fun _ => p.works_build (p.admitsBuild admits_bookkept) entry)
    refine Leaves.bind (leaves_stage hdone₅ rfl (by decide) p.returns_findExecutable.works.unstaged) fun executable h₆ hdone₆ => ?_
    exact .pure hdone₆

/-- What handling a package leaves: how far it has come, and whether it could be cleaned up. -/
theorem ends_build_cleanUp {host : Host} (h : Done stageNames 0 .notStarted host) :
    ∃ k ≤ 6, (k < 6 ↔ ∃ f, (p.instrumentAndBuild host).1 = .error f) ∧
      Ends (Action.ensuring p.instrumentAndBuild p.cleanUp) host fun _ h => h.pipeline.stages.statuses =
        Stages.upTo ownStages k (if k < 6 then .failed else .notStarted) ++
          [("cleanup", if (p.removal (p.instrumentAndBuild host).2.files).isOk then .succeeded else .failed)] := by
  -- the cleaning up does not see what the building came to
  have hlast {k : Nat} {next : StageStatus} (hdone : Done stageNames k next (p.instrumentAndBuild host).2) (hk : k < 7) :
      Ends (Action.ensuring p.instrumentAndBuild p.cleanUp) host fun _ h => h.pipeline.stages.statuses =
        Stages.upTo ownStages k next ++
          [("cleanup", if (p.removal (p.instrumentAndBuild host).2.files).isOk then .succeeded else .failed)] := by
    have hcleaned : Ends p.cleanUp (p.instrumentAndBuild host).2 fun _ h => h.pipeline.stages.statuses =
        Stages.upTo ownStages k next ++
          [("cleanup", if (p.removal (p.instrumentAndBuild host).2.files).isOk then .succeeded else .failed)] := by
      have hall : Done (ownStages ++ ["cleanup"]) k next (p.instrumentAndBuild host).2 := hdone
      have hmarked := hall.ends_last (Or.inl hk) (by decide) p.unstaged_removeWork
      refine Ends.mono (hmarked.and (p.ends_cleanUp_removal _)) ?_
      rintro _ h ⟨hstages, rfl⟩
      exact hstages
    rw [Action.ensuring, ends_bind, ends_attempt, Ends]
    dsimp only
    rw [ends_bind]
    refine Ends.mono hcleaned fun cleaned h hstages => ?_
    cases cleaned with
    | error f => exact hstages
    | ok _ => cases (p.instrumentAndBuild host).1 <;> exact hstages
  rcases (p.leaves_instrumentAndBuild h).cases with ⟨built, hbuilt, hdone⟩ | ⟨f, hfailed, k, hk, hdone⟩
  · exact ⟨6, le_rfl, by simp [hbuilt], hlast hdone (by decide)⟩
  · refine ⟨k, hk.le, by simp [hk, hfailed], ?_⟩
    rw [if_pos hk]
    exact hlast hdone (by omega)

end Package

/-! ## Files -/

namespace FileRun

/-- A run that has failed, with a result that says so or with a failure. -/
def hasFailed : Except Failure FileRun → Bool
  | .ok (.failed _) | .error _ => true
  | .ok _ => false

/-- The stages of a run but the last one. -/
def ownStages : List String :=
  ["compile", "run", "extract"]

theorem hasFailed_settled (f : Failure) : hasFailed (settled (.error f)) = true := by
  rw [settled, ofLost]
  split
  · rfl
  · split <;> rfl

theorem hasFailed_ofOutput (output : String) : hasFailed (.ok (ofOutput output)) = false := by
  rw [ofOutput]
  split <;> rfl

/-- The place where a run has stopped. -/
def StoppedIn (h : Host) : Prop :=
  ∃ k < 3, Done stageNames k .failed h

variable {config : Config} {source binary : Path} {host : Host}

/-- The output of a program is looked at after the program has been compiled and run. -/
theorem leaves_attemptRun (h : Done stageNames 0 .notStarted host) :
    Leaves (fun x h => hasFailed (.ok x) = false ∧ Done stageNames 3 .notStarted h) (fun _ => StoppedIn)
      (attemptRun config source binary) host := by
  have hnames : stageNames.Nodup := by decide
  have hcompile : Unstaged (compile config source binary) := (works_compile _ _ _ admits_bookkept).unstaged
  have hexecute : Unstaged (execute config binary source.parent) := (works_execute _ _ _ admits_bookkept).unstaged
  refine Leaves.bind ((h.stage hnames rfl hcompile).mono (fun _ _ hdone => hdone) ?_) fun _ h₁ hdone₁ => ?_
  · exact fun _ _ hfailed => ⟨0, by decide, hfailed⟩
  refine Leaves.bind ((hdone₁.stage hnames rfl hexecute).mono (fun _ _ hdone => hdone) ?_) fun output h₂ hdone₂ => ?_
  · exact fun _ _ hfailed => ⟨1, by decide, hfailed⟩
  have hresult : Ends (Action.stage "extract" (pure (ofOutput output))) h₂ fun r _ => r = .ok (ofOutput output) := rfl
  refine Ends.mono ((hdone₂.stage hnames rfl (Works.pure (ofOutput output)).unstaged).and hresult) ?_
  rintro r h₃ ⟨hr, rfl⟩
  cases hr with
  | ok hdone₃ => exact .ok ⟨hasFailed_ofOutput output, hdone₃⟩

/-- What has become of a run before it is cleaned up. -/
theorem ends_stopped (h : Done stageNames 0 .notStarted host) :
    Ends (Action.handling (attemptRun config source binary) (fun _ => true) ofFailure) host fun r h =>
      ∃ k ≤ 3, (k < 3 ↔ hasFailed r = true) ∧
        Done stageNames k (if k < 3 then .failed else .notStarted) h := by
  rw [Action.handling, ends_bind, ends_attempt]
  refine Ends.mono (leaves_attemptRun h) fun r h hr => ?_
  cases hr with
  | @ok outcome h hs =>
    refine ⟨3, le_rfl, ?_, hs.2⟩
    change 3 < 3 ↔ hasFailed (.ok outcome) = true
    simp [hs.1]
  | @error f h he =>
    obtain ⟨k, hk, hfailed⟩ := he
    dsimp only
    rw [if_pos rfl, ends_ofFailure]
    refine ⟨k, hk.le, by simp [hk, hasFailed_settled], ?_⟩
    rw [if_pos hk]
    exact hfailed

/-- A binary that cannot be removed is no failure. -/
theorem ends_cleanUp_marked {k : Nat} (hk : k ≤ 3) (h : Done stageNames k (if k < 3 then .failed else .notStarted) host) :
    Ends (cleanUp binary) host fun r h => r = .ok () ∧ h.pipeline.stages.statuses =
      Stages.upTo ownStages k (if k < 3 then .failed else .notStarted) ++ [("cleanup", .succeeded)] := by
  have hok : Ends (cleanUp binary) host fun r _ => r = .ok () := by
    have hafter : after host [] host.files host.pipeline = host := by
      simp [after]
    rw [← hafter]
    exact Ends.mono ends_cleanUp fun _ _ hr => hr.1
  have hremove : Unstaged (Action.handling (Action.removeFile binary) Failure.isSystem fun _ => pure ()) :=
    (works_removeBinary binary).unstaged
  have hdone : k < ownStages.length ∨
      k = ownStages.length ∧ (if k < 3 then StageStatus.failed else .notStarted) = .notStarted := by
    change k < 3 ∨ k = 3 ∧ _
    rcases Nat.lt_or_eq_of_le hk with hlt | rfl
    · exact Or.inl hlt
    · exact Or.inr ⟨rfl, rfl⟩
  have hall : Done (ownStages ++ ["cleanup"]) k (if k < 3 then .failed else .notStarted) host := h
  refine Ends.mono (hok.and (hall.ends_last hdone (by decide) hremove)) ?_
  rintro _ h' ⟨rfl, hstages⟩
  exact ⟨rfl, hstages⟩

/-- How far a run of a file has come, whatever the stages of the host were before. -/
theorem ends_run_stages (config : Config) (source : Path) (host : Host) :
    Ends (run config source) host fun r h => ∃ k ≤ 3, (k < 3 ↔ hasFailed r = true) ∧
      h.pipeline.stages.statuses =
        Stages.upTo ownStages k (if k < 3 then .failed else .notStarted) ++ [("cleanup", .succeeded)] := by
  rw [run, ends_bind, plan, ends_modify]
  dsimp only
  rw [ends_bind, ends_freshName]
  dsimp only
  rw [Action.ensuring, ends_bind, ends_attempt]
  refine Ends.mono (ends_stopped rfl) ?_
  rintro r h ⟨k, hk, hfailed, hdone⟩
  dsimp only
  rw [ends_bind]
  refine Ends.mono (ends_cleanUp_marked hk hdone) ?_
  rintro _ h' ⟨rfl, hstages⟩
  cases r with
  | ok outcome => exact ⟨k, hk, hfailed, hstages⟩
  | error f => exact ⟨k, hk, hfailed, hstages⟩

end FileRun

/-! ## Both pipelines -/

/-- A new package is planned with all stages before it, and is then built and cleaned up: some first
stages have succeeded; the next one has failed if building has, and otherwise all up to the executable
have succeeded; those behind, and the run of the executable, have not been started; and the cleaning up
has succeeded if the working directory could be removed.  The same holds of a run of a file, which has
no directory to remove, whatever was on the host before.  So no stage is left running. -/
theorem stages_of_pipelines (host : Host) (path source : Path) (config : Config) :
    (∃ planned, ∃ p : Package, Package.create path config host = (.ok p, planned) ∧
      ∃ k ≤ 6, (k < 6 ↔ ∃ f, (p.instrumentAndBuild planned).1 = .error f) ∧
        (Action.ensuring p.instrumentAndBuild p.cleanUp planned).2.pipeline.stages.statuses =
          Stages.upTo ["workspace", "copy", "instrument", "entry", "build", "locate", "run"] k
              (if k < 6 then .failed else .notStarted) ++
            [("cleanup", if (p.removal (p.instrumentAndBuild planned).2.files).isOk then .succeeded else .failed)] ∧
        ∀ stage ∈ (Action.ensuring p.instrumentAndBuild p.cleanUp planned).2.pipeline.stages.statuses,
          stage.2 ≠ .running) ∧
    ∃ k ≤ 3, (k < 3 ↔ FileRun.hasFailed (FileRun.run config source host).1 = true) ∧
      (FileRun.run config source host).2.pipeline.stages.statuses =
        Stages.upTo ["compile", "run", "extract"] k (if k < 3 then .failed else .notStarted) ++
          [("cleanup", .succeeded)] ∧
      ∀ stage ∈ (FileRun.run config source host).2.pipeline.stages.statuses, stage.2 ≠ .running := by
  have hnext {c : Prop} [Decidable c] : (if c then StageStatus.failed else .notStarted) ≠ .running := by
    split <;> exact nofun
  constructor
  · let p := Package.ofNumber path config (host.named + 1)
    let planned : Host :=
      { host with named := host.named + 1, pipeline := ⟨Stages.ofNames Package.stageNames, [], false⟩ }
    have hplanned : Done Package.stageNames 0 .notStarted planned := rfl
    obtain ⟨k, hk, hfailed, hstages⟩ := p.ends_build_cleanUp hplanned
    refine ⟨planned, p, rfl, k, hk, hfailed, hstages, ?_⟩
    rw [show (Action.ensuring p.instrumentAndBuild p.cleanUp planned).2.pipeline.stages.statuses = _ from hstages]
    intro stage hstage
    rcases List.mem_append.mp hstage with hown | hlast
    · exact Stages.ne_running_of_mem_upTo hnext hown
    · rw [List.mem_singleton.mp hlast]
      dsimp only
      split <;> exact nofun
  · obtain ⟨k, hk, hfailed, hstages⟩ := FileRun.ends_run_stages config source host
    refine ⟨k, hk, hfailed, hstages, ?_⟩
    rw [hstages]
    intro stage hstage
    rcases List.mem_append.mp hstage with hown | hlast
    · exact Stages.ne_running_of_mem_upTo hnext hown
    · rw [List.mem_singleton.mp hlast]
      exact nofun

end Stopwatch
