/-
  Blocks of stages.

  Work in stages enters and leaves blocks.  What is entered and left follows from the work
  alone, and blocks are nested: the one that is left is the last that was entered and is still
  open.  A stage is running only inside a block of its name, and in the end its status is that
  of the block of its name that ended last, however blocks of one name stand inside or behind
  each other.
-/
import Stopwatch.Proofs.Metric.Statistics
import Stopwatch.Proofs.Stages

namespace Stopwatch

/-! ## Steps -/

namespace Work

/-- What happens at one moment of some work. -/
inductive Step where
  | look (name : String)
  | enter (name : String)
  /-- A block is left; the text is that of the failure that leaves it. -/
  | leave (name : String) (failure : Option String)

/-- All that happens while some work is done, each step with the names of the blocks that are open
after it, innermost first, and the failure that is left. -/
structure Trace where
  steps : List (Step × List String)
  failure : Option String

mutual

/-- What happens while a piece of work is done inside some blocks. -/
def trace (within : List String) : Work → Trace
  | .look name => ⟨[(.look name, within)], none⟩
  | .breaks text => ⟨[], some text⟩
  | .stage name steps contained =>
    let t := traceAll (name :: within) steps
    ⟨(.enter name, name :: within) :: t.steps ++ [(.leave name t.failure, within)],
      if contained then none else t.failure⟩

/-- What happens while pieces of work are done inside some blocks, up to the first failure. -/
def traceAll (within : List String) : List Work → Trace
  | [] => ⟨[], none⟩
  | work :: rest =>
    let t := work.trace within
    match t.failure with
    | some text => ⟨t.steps, some text⟩
    | none => ⟨t.steps ++ (traceAll within rest).steps, (traceAll within rest).failure⟩

end

namespace Step

/-- The name of the block that a step enters. -/
def entered? : Step → Option String
  | .enter name => some name
  | .look _ | .leave .. => none

/-- How a block of a given name ends that a step leaves. -/
def ending? (name : String) : Step → Option (Option String)
  | .leave left failure => if name = left then some failure else none
  | .look _ | .enter _ => none

end Step

/-- The names of the blocks that some steps enter. -/
def entered (steps : List Step) : List String :=
  steps.filterMap Step.entered?

/-- How the blocks of one name that some steps leave have ended. -/
def endings (name : String) (steps : List Step) : List (Option String) :=
  steps.filterMap (Step.ending? name)

theorem mem_entered_concat {name : String} {steps : List Step} {step : Step} :
    name ∈ entered (steps ++ [step]) ↔ name ∈ entered steps ∨ step.entered? = some name := by
  rw [entered, List.filterMap_append, List.mem_append, ← entered]
  simp

theorem getLast?_endings_concat (name : String) (steps : List Step) (step : Step) :
    (endings name (steps ++ [step])).getLast? = (step.ending? name).or (endings name steps).getLast? := by
  rw [endings, List.filterMap_append, ← endings]
  cases hending : step.ending? name <;> simp [hending]

end Work

open Work

/-! ## What one step does -/

/-- The status of a stage whose block has ended. -/
def StageStatus.ofEnding (failure : Option String) : StageStatus :=
  if failure.isSome then .failed else .succeeded

/-- What can be seen at a moment in which some stages are shown. -/
def Work.Step.moment (s : Stages) : Step → Moment
  | .look name => .looked (s.status name) s
  | .enter _ => .entered s
  | .leave _ failure => .left failure s

/-- The stages that are shown at a moment. -/
def Moment.stages : Moment → Stages
  | .looked _ s | .entered s | .left _ s => s

@[simp]
theorem Work.Step.stages_moment (s : Stages) (step : Step) : (step.moment s).stages = s := by
  cases step <;> rfl

namespace Stages

/-- The stages after a step. -/
def after (s : Stages) : Step → Stages
  | .look _ => s
  | .enter name => s.mark name .running
  | .leave name failure => s.mark name (.ofEnding failure)

/-- The stages after some steps. -/
def afterAll (s : Stages) (steps : List Step) : Stages :=
  steps.foldl after s

/-- What can be seen during some steps. -/
def moments (s : Stages) : List Step → List Moment
  | [] => []
  | step :: rest => step.moment (s.after step) :: (s.after step).moments rest

theorem moments_append (s : Stages) (steps steps' : List Step) :
    s.moments (steps ++ steps') = s.moments steps ++ (s.afterAll steps).moments steps' := by
  induction steps generalizing s with
  | nil => rfl
  | cons step steps ih =>
    rw [List.cons_append, moments, moments, ih, List.cons_append, afterAll, afterAll, List.foldl_cons]

theorem length_moments (s : Stages) (steps : List Step) : (s.moments steps).length = steps.length := by
  induction steps generalizing s with
  | nil => rfl
  | cons step steps ih => rw [moments, List.length_cons, List.length_cons, ih]

/-- At each moment the stages are shown that the steps so far have left. -/
theorem getElem?_moments (s : Stages) (steps : List Step) (i : Nat) :
    (s.moments steps)[i]? = steps[i]?.map fun step => step.moment (s.afterAll (steps.take (i + 1))) := by
  induction steps generalizing s i with
  | nil => rfl
  | cons step steps ih =>
    cases i with
    | zero => rfl
    | succ i => exact ih (s.after step) i

end Stages

/-! ## Runs -/

mutual

/-- Doing a piece of work takes its steps. -/
theorem Work.run_eq_trace (s : Stages) (within : List String) (work : Work) :
    work.run s = ⟨s.afterAll ((work.trace within).steps.map Prod.fst),
      s.moments ((work.trace within).steps.map Prod.fst), (work.trace within).failure⟩ := by
  match work with
  | .look name => rw [Work.run, trace]; rfl
  | .breaks text => rw [Work.run, trace]; rfl
  | .stage name steps contained =>
    rw [Work.run, trace, runAll_eq_traceAll _ (name :: within) steps]
    simp [Stages.afterAll, Stages.moments, Stages.moments_append, Stages.after, StageStatus.ofEnding, Step.moment]

/-- Doing pieces of work takes the steps of all that are done. -/
theorem runAll_eq_traceAll (s : Stages) (within : List String) (works : List Work) :
    runAll s works = ⟨s.afterAll ((traceAll within works).steps.map Prod.fst),
      s.moments ((traceAll within works).steps.map Prod.fst), (traceAll within works).failure⟩ := by
  match works with
  | [] => rw [runAll, traceAll]; rfl
  | work :: rest =>
    rw [runAll, traceAll, work.run_eq_trace s within]
    dsimp only
    cases (work.trace within).failure with
    | some text => rfl
    | none =>
      dsimp only
      rw [runAll_eq_traceAll _ within rest, List.map_append, Stages.moments_append, Stages.afterAll, Stages.afterAll,
        Stages.afterAll, List.foldl_append]

end

/-! ## Nested blocks -/

/-- Some steps are nested: they begin inside the blocks `within`, each one enters a block or leaves the
innermost one that is open, and they end inside the blocks `last`. -/
inductive Work.Nests : List String → List (Step × List String) → List String → Prop
  | nil {within : List String} : Nests within [] within
  | look {within last : List String} {name : String} {rest : List (Step × List String)}
      (h : Nests within rest last) : Nests within ((.look name, within) :: rest) last
  | enter {within last : List String} {name : String} {rest : List (Step × List String)}
      (h : Nests (name :: within) rest last) : Nests within ((.enter name, name :: within) :: rest) last
  | leave {within last : List String} {name : String} {failure : Option String} {rest : List (Step × List String)}
      (h : Nests within rest last) : Nests (name :: within) ((.leave name failure, within) :: rest) last

namespace Work.Nests

variable {within mid last : List String} {l l' : List (Step × List String)}

theorem append (h : Nests within l mid) (h' : Nests mid l' last) : Nests within (l ++ l') last := by
  induction h with
  | nil => exact h'
  | look _ ih => exact .look (ih h')
  | enter _ ih => exact .enter (ih h')
  | leave _ ih => exact .leave (ih h')

/-- Up to one of its steps nested work is nested, and ends inside the blocks that are open then. -/
theorem take {i : Nat} {step : Step} (h : Nests within l last) (hi : l[i]? = some (step, mid)) :
    Nests within (l.take (i + 1)) mid := by
  induction h generalizing i with
  | nil => cases hi
  | look _ ih =>
    cases i with
    | zero => cases hi; exact .look .nil
    | succ i => exact .look (ih hi)
  | enter _ ih =>
    cases i with
    | zero => cases hi; exact .enter .nil
    | succ i => exact .enter (ih hi)
  | leave _ ih =>
    cases i with
    | zero => cases hi; exact .leave .nil
    | succ i => exact .leave (ih hi)

end Work.Nests

mutual

/-- The steps of a piece of work are nested, and leave all blocks that they enter. -/
theorem Work.nests_trace (within : List String) (work : Work) : Nests within (work.trace within).steps within := by
  match work with
  | .look name => rw [trace]; exact .look .nil
  | .breaks text => rw [trace]; exact .nil
  | .stage name steps contained =>
    rw [trace]
    exact .enter ((nests_traceAll (name :: within) steps).append (.leave .nil))

theorem nests_traceAll (within : List String) (works : List Work) : Nests within (traceAll within works).steps within := by
  match works with
  | [] => rw [traceAll]; exact .nil
  | work :: rest =>
    rw [traceAll]
    cases (work.trace within).failure with
    | some text => exact work.nests_trace within
    | none => exact (work.nests_trace within).append (nests_traceAll within rest)

end

/-! ## All nested blocks -/

namespace Work

variable {within : List String} {works : List Work} {l : List (Step × List String)}

theorem traceAll_cons {work : Work} (h : (work.trace within).failure = none) (rest : List Work) :
    traceAll within (work :: rest) =
      ⟨(work.trace within).steps ++ (traceAll within rest).steps, (traceAll within rest).failure⟩ := by
  rw [traceAll, h]

theorem traceAll_append (h : (traceAll within works).failure = none) (more : List Work) :
    traceAll within (works ++ more) =
      ⟨(traceAll within works).steps ++ (traceAll within more).steps, (traceAll within more).failure⟩ := by
  induction works with
  | nil => rfl
  | cons work works ih =>
    cases hfailure : (work.trace within).failure with
    | some text =>
      rw [traceAll, hfailure] at h
      cases h
    | none =>
      rw [traceAll_cons hfailure] at h
      rw [List.cons_append, traceAll_cons hfailure, traceAll_cons hfailure, ih h, List.append_assoc]

/-- A block around some work, with a failure behind it if there is one; outside of the block the failure
is not seen. -/
def block (name : String) (works : List Work) (failure : Option String) : Work :=
  .stage name (works ++ (failure.map .breaks).toList) true

theorem trace_block {name : String} (h : (traceAll (name :: within) works).failure = none) (failure : Option String) :
    (block name works failure).trace within =
      ⟨(.enter name, name :: within) :: (traceAll (name :: within) works).steps ++ [(.leave name failure, within)],
        none⟩ := by
  rw [block, trace, traceAll_append h]
  cases failure <;> simp [traceAll, trace]

/-- Steps that begin inside some blocks and leave one after the other, with work in front of each end and
behind the last. -/
inductive Closes : List String → List (Step × List String) → Prop
  | done (works : List Work) (h : (traceAll [] works).failure = none) : Closes [] (traceAll [] works).steps
  | leave {name : String} {within : List String} {rest : List (Step × List String)} (works : List Work)
      (failure : Option String) (h : (traceAll (name :: within) works).failure = none) (hrest : Closes within rest) :
      Closes (name :: within) ((traceAll (name :: within) works).steps ++ (.leave name failure, within) :: rest)

/-- One more piece of work in front. -/
theorem Closes.cons (h : Closes within l) (work : Work) (hwork : (work.trace within).failure = none) :
    Closes within ((work.trace within).steps ++ l) := by
  cases h with
  | done works hnone =>
    have hdone := Closes.done (work :: works) (by rw [traceAll_cons hwork, hnone])
    rwa [traceAll_cons hwork] at hdone
  | leave works failure hnone hrest =>
    have hleave := Closes.leave (work :: works) failure (by rw [traceAll_cons hwork, hnone]) hrest
    rwa [traceAll_cons hwork, List.append_assoc] at hleave

theorem Nests.closes {last : List String} (h : Nests within l last) (hlast : last = []) : Closes within l := by
  induction h with
  | nil => exact hlast ▸ .done [] rfl
  | @look within _ name _ _ ih => exact (ih hlast).cons (.look name) rfl
  | @enter within _ name _ _ ih =>
    -- the steps up to the end of the block are those of one piece of work
    cases ih hlast with
    | leave works failure hnone hrest =>
      have hblock := hrest.cons (block name works failure) (by rw [trace_block hnone])
      rw [trace_block hnone] at hblock
      simpa using hblock
  | leave _ ih => exact .leave [] _ rfl (ih hlast)

/-- Some work takes given nested steps: any blocks of any names, each left by a failure or not. -/
theorem exists_trace_eq (h : Nests [] l []) : ∃ works, (traceAll [] works).steps = l := by
  cases h.closes rfl with
  | done works _ => exact ⟨works, rfl⟩

end Work

/-! ## Tables of stages -/

namespace Stages

variable {s : Stages} {names front within last : List String} {name : String} {steps : List Step}
  {l : List (Step × List String)}

/-- The names of the stages, in their order. -/
def listed (s : Stages) : List String :=
  s.statuses.map Prod.fst

/-- A stage that is marked keeps its place, or joins at the end. -/
theorem listed_mark (s : Stages) (name : String) (status : StageStatus) :
    (s.mark name status).listed = if name ∈ s.listed then s.listed else s.listed ++ [name] := by
  have hany : (s.statuses.any fun stage => stage.1 = name) = true ↔ name ∈ s.listed := by
    simp [listed]
  rw [mark]
  by_cases hname : name ∈ s.listed
  · rw [if_pos (hany.mpr hname), if_pos hname, listed, listed, List.map_map]
    refine List.map_congr_left fun stage _ => ?_
    by_cases heq : stage.1 = name <;> simp [heq]
  · rw [if_neg (hany.not.mpr hname), if_neg hname]
    simp [listed]

theorem status_of_mem (hnames : s.listed.Nodup) {stage : String × StageStatus} (h : stage ∈ s.statuses) :
    s.status stage.1 = stage.2 := by
  cases hfound : s.statuses.find? fun other => other.1 = stage.1 with
  | none => exact absurd (decide_eq_true rfl) (List.find?_eq_none.mp hfound stage h)
  | some other =>
    have hname : other.1 = stage.1 := by simpa using List.find?_some hfound
    have heq : other = stage := List.inj_on_of_nodup_map hnames (List.mem_of_find?_eq_some hfound) h hname
    rw [Stages.status, hfound, heq]
    rfl

/-- The stages that have failed, by their status. -/
theorem failed_eq (hnames : s.listed.Nodup) : s.failed = s.listed.filter fun name => s.status name = .failed := by
  rw [failed, listed, List.filter_map]
  refine congrArg _ (List.filter_congr fun stage hstage => ?_)
  rw [Function.comp_apply, status_of_mem hnames hstage]

theorem ofNames_concat (names : List String) (name : String) :
    ofNames (names ++ [name]) = (ofNames names).mark name .notStarted := by
  rw [ofNames, List.foldl_concat, ← ofNames]

theorem listed_ofNames (names : List String) : (ofNames names).listed = names.eraseDups := by
  induction names using List.reverseRecOn with
  | nil => rfl
  | append_singleton names name ih =>
    rw [ofNames_concat, listed_mark, ih, Statistics.eraseDups_concat]
    simp only [List.mem_eraseDups]

theorem status_ofNames (names : List String) (name : String) : (ofNames names).status name = .notStarted := by
  induction names using List.reverseRecOn with
  | nil => rfl
  | append_singleton names other ih => rw [ofNames_concat, status_mark, ih, ite_self]

/-! ## What the stages tell of nested steps -/

theorem afterAll_cons (s : Stages) (step : Step) (steps : List Step) :
    s.afterAll (step :: steps) = (s.after step).afterAll steps := rfl

theorem afterAll_concat (s : Stages) (steps : List Step) (step : Step) :
    s.afterAll (steps ++ [step]) = (s.afterAll steps).after step := by
  rw [afterAll, List.foldl_concat]
  rfl

theorem ofEnding_ne (failure : Option String) :
    StageStatus.ofEnding failure ≠ .running ∧ StageStatus.ofEnding failure ≠ .notStarted := by
  cases failure <;> exact ⟨nofun, nofun⟩

/-- Stages of which only those with an open block are running. -/
def IsCovered (s : Stages) (within : List String) : Prop :=
  ∀ name, s.status name = .running → name ∈ within

/-- Nested steps run a stage only inside a block of its name. -/
theorem IsCovered.afterAll (h : s.IsCovered within) (hl : Work.Nests within l last) :
    (s.afterAll (l.map Prod.fst)).IsCovered last := by
  induction hl generalizing s with
  | nil => exact h
  | look _ ih => exact ih h
  | @enter within _ name _ _ ih =>
    refine ih fun other hother => ?_
    rw [after, status_mark] at hother
    split at hother
    · rename_i heq
      exact heq ▸ List.mem_cons_self
    · exact List.mem_cons_of_mem _ (h other hother)
  | @leave within _ name failure _ _ ih =>
    -- the block that is left may not be the only one of its name, but its stage is not running any more
    refine ih fun other hother => ?_
    rw [after, status_mark] at hother
    split at hother
    · exact absurd hother (ofEnding_ne failure).1
    · rename_i hne
      exact List.mem_of_ne_of_mem hne (h other hother)

/-- Nested steps add stages in the order in which they enter them first. -/
theorem listed_afterAll (hl : Nests within l last) (hs : s.listed = front.eraseDups) (hwithin : within ⊆ front) :
    (s.afterAll (l.map Prod.fst)).listed = (front ++ entered (l.map Prod.fst)).eraseDups := by
  induction hl generalizing s front with
  | nil => rw [List.map_nil, entered, List.filterMap_nil, List.append_nil]; exact hs
  | look _ ih => exact ih hs hwithin
  | @enter within _ name rest _ ih =>
    have hentered : front ++ entered (((.enter name, name :: within) :: rest).map Prod.fst) =
        front ++ [name] ++ entered (rest.map Prod.fst) := by
      rw [List.append_assoc]
      rfl
    rw [hentered]
    refine ih ?_ fun other hother => ?_
    · rw [after, listed_mark, hs, Statistics.eraseDups_concat]
      simp only [List.mem_eraseDups]
    · rcases List.mem_cons.mp hother with rfl | hother
      · exact List.mem_append_right _ (List.mem_singleton.mpr rfl)
      · exact List.mem_append_left _ (hwithin hother)
  | @leave within _ name failure _ _ ih =>
    -- the stage is in the table since its block was entered
    refine ih ?_ fun other hother => hwithin (List.mem_cons_of_mem _ hother)
    rw [after, listed_mark, hs, if_pos (List.mem_eraseDups.mpr (hwithin List.mem_cons_self))]

/-- Nested steps leave a stage as it is if no block of its name is open or entered. -/
theorem status_of_not_entered (hl : Nests within l last) (hwithin : name ∉ within)
    (hentered : name ∉ entered (l.map Prod.fst)) : (s.afterAll (l.map Prod.fst)).status name = s.status name := by
  induction hl generalizing s with
  | nil => rfl
  | look _ ih => exact ih hwithin hentered
  | @enter within _ other rest _ ih =>
    have hne : name ≠ other := fun heq => hentered (heq ▸ List.mem_cons_self)
    rw [List.map_cons, afterAll_cons,
      ih (List.not_mem_cons_of_ne_of_not_mem hne hwithin) fun hmem => hentered (List.mem_cons_of_mem _ hmem),
      after, status_mark, if_neg hne]
  | @leave within _ other failure _ _ ih =>
    obtain ⟨hne, hrest⟩ := not_or.mp (List.mem_cons.not.mp hwithin)
    rw [List.map_cons, afterAll_cons, ih hrest hentered, after, status_mark, if_neg hne]

/-- A stage that is not running has the status of the block of its name that ended last. -/
theorem status_of_not_running (s : Stages) (steps : List Step) (name : String)
    (h : (s.afterAll steps).status name ≠ .running) :
    (s.afterAll steps).status name = ((endings name steps).getLast?.map StageStatus.ofEnding).getD (s.status name) := by
  induction steps using List.reverseRecOn with
  | nil => rfl
  | append_singleton steps step ih =>
    rw [afterAll_concat] at h ⊢
    rw [getLast?_endings_concat]
    cases step with
    | look other => exact ih h
    | enter other =>
      rw [after, status_mark] at h ⊢
      split at h
      · contradiction
      · rename_i hne
        rw [if_neg hne]
        exact ih h
    | leave other failure =>
      rw [after, status_mark] at h ⊢
      rw [Step.ending?]
      split at h
      · rename_i heq
        rw [if_pos heq, if_pos heq]
        rfl
      · rename_i hne
        rw [if_neg hne, if_neg hne]
        exact ih h

/-- A stage that has been entered has been started for good. -/
theorem started_of_entered (s : Stages) (h : name ∈ entered steps) : (s.afterAll steps).status name ≠ .notStarted := by
  induction steps using List.reverseRecOn with
  | nil => cases h
  | append_singleton steps step ih =>
    rw [mem_entered_concat] at h
    rw [afterAll_concat]
    cases step with
    | look other => exact ih (h.resolve_right nofun)
    | enter other =>
      rw [after, status_mark]
      split
      · exact nofun
      · rename_i hne
        exact ih (h.resolve_right fun heq => hne (Option.some.inj heq).symm)
    | leave other failure =>
      rw [after, status_mark]
      split
      · exact (ofEnding_ne failure).2
      · exact ih (h.resolve_right nofun)

/-- A stage that has been entered and is not running any more has the status of the block of its name that
ended last, and there is such a block. -/
theorem exists_last_ending (names : List String) (hentered : name ∈ entered steps)
    (h : ((ofNames names).afterAll steps).status name ≠ .running) :
    ∃ failure, (endings name steps).getLast? = some failure ∧
      ((ofNames names).afterAll steps).status name = .ofEnding failure := by
  have hlast := status_of_not_running (ofNames names) steps name h
  rw [status_ofNames] at hlast
  cases hends : (endings name steps).getLast? with
  | none =>
    rw [hends] at hlast
    exact absurd hlast (started_of_entered _ hentered)
  | some failure =>
    rw [hends] at hlast
    exact ⟨failure, rfl, hlast⟩

end Stages

/-! ## What the stages tell of work -/

/-- What some stages tell of all steps up to a moment in which some blocks are open: only stages with
an open block are running; stages that have not been entered are as they were; and the stages that have
failed are listed in the order in which they were named or entered first. -/
structure Stages.Tells (s : Stages) (names : List String) (steps : List Step) (within : List String) : Prop where
  running : ∀ stage ∈ s.statuses, stage.2 = .running → stage.1 ∈ within
  untouched : ∀ name, name ∉ entered steps → s.status name = (Stages.ofNames names).status name
  failed : s.failed = (names ++ entered steps).eraseDups.filter fun name => s.status name = .failed

theorem Stages.isCovered_ofNames (names : List String) : (ofNames names).IsCovered [] := fun name hname => by
  rw [status_ofNames] at hname
  cases hname

theorem Stages.tells_afterAll {names last : List String} {l : List (Step × List String)} (hl : Nests [] l last) :
    ((ofNames names).afterAll (l.map Prod.fst)).Tells names (l.map Prod.fst) last := by
  have hlisted := listed_afterAll hl (listed_ofNames names) (List.nil_subset names)
  have hnodup : ((ofNames names).afterAll (l.map Prod.fst)).listed.Nodup :=
    hlisted ▸ Statistics.nodup_eraseDups _
  refine ⟨fun stage hstage hrunning => ?_, fun name hname => ?_, ?_⟩
  · exact (isCovered_ofNames names).afterAll hl stage.1 ((status_of_mem hnodup hstage).trans hrunning)
  · exact status_of_not_entered hl List.not_mem_nil hname
  · rw [failed_eq hnodup, hlisted]

/-- Work takes nested steps, and any nested steps are those of some work, with failures that are contained
or not.  At each moment the stages tell of the steps so far, so that a stage is running only inside a block
of its name; in the end no stage is running, and the status of every stage that was entered is that of the
block of its name that ended last. -/
theorem Work.stages_of_blocks :
    (∀ l, Nests [] l [] ↔ ∃ works, (traceAll [] works).steps = l) ∧
    ∀ (names : List String) (works : List Work),
      let p : Progress := runAll (Stages.ofNames names) works
      let t : Trace := traceAll [] works
      let steps : List Step := t.steps.map Prod.fst
      (p.failure = t.failure ∧ p.moments.length = t.steps.length ∧
        ∀ (i : Nat) (moment : Moment), p.moments[i]? = some moment →
          ∃ (step : Step) (within : List String), t.steps[i]? = some (step, within) ∧
            moment = step.moment moment.stages ∧ moment.stages.Tells names (steps.take (i + 1)) within) ∧
      p.stages.Tells names steps [] ∧
      (∀ stage ∈ p.stages.statuses, stage.2 ≠ .running) ∧
      ∀ name ∈ entered steps,
        (p.stages.status name = .failed ↔ ∃ text, (endings name steps).getLast? = some (some text)) ∧
        (p.stages.status name = .succeeded ↔ (endings name steps).getLast? = some none) := by
  refine ⟨fun l => ⟨exists_trace_eq, fun ⟨works, hworks⟩ => hworks ▸ nests_traceAll [] works⟩, ?_⟩
  intro names works p t steps
  have hrun : p = ⟨(Stages.ofNames names).afterAll steps, (Stages.ofNames names).moments steps, t.failure⟩ :=
    runAll_eq_traceAll _ [] works
  have hstages : p.stages = (Stages.ofNames names).afterAll steps := congrArg Progress.stages hrun
  have hnests : Nests [] t.steps [] := nests_traceAll [] works
  have htells : p.stages.Tells names steps [] := hstages ▸ Stages.tells_afterAll hnests
  refine ⟨⟨congrArg Progress.failure hrun, ?_, fun i moment hi => ?_⟩, htells, fun stage hstage hrunning => ?_,
    fun name hname => ?_⟩
  · rw [hrun, Stages.length_moments, List.length_map]
  · rw [hrun, Stages.getElem?_moments, List.getElem?_map] at hi
    obtain ⟨step, hstep, rfl⟩ := Option.map_eq_some_iff.mp hi
    obtain ⟨⟨step, within⟩, hx, rfl⟩ := Option.map_eq_some_iff.mp hstep
    refine ⟨step, within, hx, by rw [Step.stages_moment], ?_⟩
    rw [Step.stages_moment, ← List.map_take]
    exact Stages.tells_afterAll (hnests.take hx)
  · exact absurd (htells.running stage hstage hrunning) List.not_mem_nil
  · have hidle : ((Stages.ofNames names).afterAll steps).status name ≠ .running := fun hrunning =>
      List.not_mem_nil ((Stages.isCovered_ofNames names).afterAll hnests name hrunning)
    obtain ⟨failure, hends, hlast⟩ := Stages.exists_last_ending names hname hidle
    rw [hstages, hlast, hends]
    cases failure <;> simp [StageStatus.ofEnding]

/-- Inside a block its stage may have failed already, if a block of the same name has ended there. -/
example : (runAll (Stages.ofNames []) [.stage "a" [.stage "a" [.breaks "no"] true, .look "a"] false]).moments =
    [.entered ⟨[("a", .running)]⟩, .entered ⟨[("a", .running)]⟩, .left (some "no") ⟨[("a", .failed)]⟩,
      .looked .failed ⟨[("a", .failed)]⟩, .left none ⟨[("a", .succeeded)]⟩] := by
  decide

end Stopwatch
