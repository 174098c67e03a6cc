/-
  Stages of a pipeline.

  Each stage has a status.  Stages keep the order in which they were named first; a
  stage that is entered without having been named joins at the end.  `Work` is nested
  work in stages, and `Work.run` says what can be seen while it is done.
-/

namespace Stopwatch

/-- How far a stage has come. -/
inductive StageStatus where
  | notStarted
  | running
  | succeeded
  | failed
  deriving DecidableEq, Repr, Inhabited

/-- The stages of a pipeline, each with its status. -/
structure Stages where
  statuses : List (String × StageStatus)
  deriving DecidableEq, Repr, Inhabited

namespace Stages

/-- Sets the status of a stage. -/
def mark (s : Stages) (name : String) (status : StageStatus) : Stages :=
  if s.statuses.any fun stage => stage.1 = name then
    ⟨s.statuses.map fun stage => if stage.1 = name then (name, status) else stage⟩
  else ⟨s.statuses ++ [(name, status)]⟩

/-- Stages that have not been started; a name that is repeated counts once. -/
def ofNames (names : List String) : Stages :=
  names.foldl (fun s name => s.mark name .notStarted) ⟨[]⟩

/-- The status of a stage. -/
def status (s : Stages) (name : String) : StageStatus :=
  ((s.statuses.find? fun stage => stage.1 = name).map Prod.snd).getD .notStarted

/-- The stages that have failed. -/
def failed (s : Stages) : List String :=
  (s.statuses.filter fun stage => stage.2 = .failed).map Prod.fst

end Stages

/-! ## Work in stages -/

/-- Work that is done in stages. -/
inductive Work where
  /-- Looks at the status of a stage. -/
  | look (name : String)
  /-- Fails. -/
  | breaks (text : String)
  /-- Does some work as a stage.  If it is `contained`, its failure ends there. -/
  | stage (name : String) (steps : List Work) (contained : Bool)
  deriving Inhabited

/-- What can be seen at one moment of the work. -/
inductive Moment where
  | looked (status : StageStatus) (stages : Stages)
  | entered (stages : Stages)
  /-- A stage has ended; the text is that of the failure that ended it. -/
  | left (failure : Option String) (stages : Stages)
  deriving DecidableEq, Repr, Inhabited

/-- The stages after some work, all that was seen, and the failure that is left. -/
structure Progress where
  stages : Stages
  moments : List Moment
  failure : Option String
  deriving DecidableEq, Repr, Inhabited

mutual

/-- Does one piece of work. -/
def Work.run (s : Stages) : Work → Progress
  | .look name => ⟨s, [.looked (s.status name) s], none⟩
  | .breaks text => ⟨s, [], some text⟩
  | .stage name steps contained =>
    let entered := s.mark name .running
    let p := runAll entered steps
    let left := p.stages.mark name (if p.failure.isSome then .failed else .succeeded)
    ⟨left, .entered entered :: p.moments ++ [.left p.failure left], if contained then none else p.failure⟩

/-- Does pieces of work one after the other, up to the first failure. -/
def runAll (s : Stages) : List Work → Progress
  | [] => ⟨s, [], none⟩
  | work :: rest =>
    let p := work.run s
    match p.failure with
    | some _ => p
    | none =>
      let q := runAll p.stages rest
      ⟨q.stages, p.moments ++ q.moments, q.failure⟩

end

end Stopwatch
