/-
  How actions end.

  `Ends a host Q` says that the result of an action, and the host that it leaves, satisfy
  `Q`.  `Stays I F a host` is the case that is met most: the action keeps an invariant and
  fails only with failures of a given kind.  There is one rule for each way in which actions
  are put together, so what a whole run does follows from what its smallest steps do.
-/
import Stopwatch.Host

namespace Stopwatch.Action

variable {α β : Type} {a : Action α} {host : Host} {Q Q' : Except Failure α → Host → Prop}

/-- The result of an action and the host afterwards satisfy `Q`. -/
def Ends (a : Action α) (host : Host) (Q : Except Failure α → Host → Prop) : Prop :=
  Q (a host).1 (a host).2

/-! ## Ends -/

theorem Ends.mono (h : Ends a host Q) (hQ : ∀ r h, Q r h → Q' r h) : Ends a host Q' :=
  hQ _ _ h

theorem ends_congr (h : ∀ r h, Q r h ↔ Q' r h) : Ends a host Q ↔ Ends a host Q' :=
  h _ _

theorem Ends.and (h : Ends a host Q) (h' : Ends a host Q') : Ends a host fun r h => Q r h ∧ Q' r h :=
  ⟨h, h'⟩

@[simp]
theorem ends_pure (x : α) : Ends (pure x) host Q ↔ Q (.ok x) host := Iff.rfl

@[simp]
theorem ends_fail (f : Failure) : Ends (fail f : Action α) host Q ↔ Q (.error f) host := Iff.rfl

/-- An action after another one starts where the first one ended, if that has not failed. -/
theorem ends_bind {f : α → Action β} {Q : Except Failure β → Host → Prop} :
    Ends (a >>= f) host Q ↔ Ends a host fun r h =>
      match r with
      | .ok x => Ends (f x) h Q
      | .error e => Q (.error e) h := by
  have hrun : (a >>= f) host = ExceptT.bindCont f (a host).1 (a host).2 := rfl
  rw [Ends, Ends, hrun]
  cases (a host).1 <;> rfl

/-- The rule for one action after another, where the first one is known by its endings. -/
theorem Ends.bind {f : α → Action β} {Q' : Except Failure β → Host → Prop} (ha : Ends a host Q)
    (hok : ∀ x h, Q (.ok x) h → Ends (f x) h Q') (herror : ∀ e h, Q (.error e) h → Q' (.error e) h) :
    Ends (a >>= f) host Q' := by
  rw [ends_bind]
  refine Ends.mono ha fun r h hr => ?_
  cases r with
  | ok x => exact hok x h hr
  | error e => exact herror e h hr

/-- An action after another one of which it is known what it comes to. -/
theorem ends_bind_of_eq {f : α → Action β} {Q' : Except Failure β → Host → Prop} {x : α} {h : Host}
    (heq : a host = (.ok x, h)) (hf : Ends (f x) h Q') : Ends (a >>= f) host Q' := by
  rw [ends_bind, Ends, heq]
  exact hf

/-- A failure is no result. -/
theorem of_failure {P : Prop} {f : Failure} {x : α} (h : (.error f : Except Failure α) = .ok x) : P := by
  cases h

theorem ends_map {f : α → β} {Q : Except Failure β → Host → Prop} :
    Ends (f <$> a) host Q ↔ Ends a host fun r h => Q (r.map f) h := by
  rw [map_eq_pure_bind, ends_bind, Ends, Ends]
  cases (a host).1 <;> rfl

@[simp]
theorem ends_get {Q : Except Failure Host → Host → Prop} :
    Ends (get : Action Host) host Q ↔ Q (.ok host) host := Iff.rfl

@[simp]
theorem ends_modify {change : Host → Host} {Q : Except Failure Unit → Host → Prop} :
    Ends (modify change : Action Unit) host Q ↔ Q (.ok ()) (change host) := Iff.rfl

@[simp]
theorem ends_observe {look : Host → α} :
    Ends (observe look) host Q ↔ Q (.ok (look host)) host := Iff.rfl

@[simp]
theorem ends_readClock {Q : Except Failure Float → Host → Prop} :
    Ends readClock host Q ↔ Q (.ok host.clock.read.1) { host with clock := host.clock.read.2 } := Iff.rfl

/-- The name is that of the next number. -/
@[simp]
theorem ends_freshName {Q : Except Failure String → Host → Prop} :
    Ends freshName host Q ↔ Q (.ok (nameOf (host.named + 1))) { host with named := host.named + 1 } := Iff.rfl

/-- An attempt does not fail; its result is that of the action. -/
@[simp]
theorem ends_attempt {Q : Except Failure (Except Failure α) → Host → Prop} :
    Ends (attempt a) host Q ↔ Ends a host fun r h => Q (.ok r) h := Iff.rfl

/-! ## Invariants -/

/-- A result that is no failure, or a failure of a given kind. -/
def Allows (F : Failure → Prop) : Except Failure α → Prop
  | .ok _ => True
  | .error f => F f

/-- An action that keeps an invariant and fails only as `F` says. -/
def Stays (I : Host → Prop) (F : Failure → Prop) (a : Action α) (host : Host) : Prop :=
  Ends a host fun r h => I h ∧ Allows F r

variable {I I' : Host → Prop} {F F' : Failure → Prop}

theorem Stays.mono (h : Stays I F a host) (hI : ∀ h, I h → I' h) (hF : ∀ f, F f → F' f) :
    Stays I' F' a host := by
  refine Ends.mono h fun r h hr => ⟨hI h hr.1, ?_⟩
  cases r with
  | ok x => trivial
  | error f => exact hF f hr.2

theorem Stays.pure (h : I host) (x : α) : Stays I F (pure x) host :=
  ⟨h, trivial⟩

theorem Stays.fail (h : I host) {f : Failure} (hf : F f) : Stays I F (fail f : Action α) host :=
  ⟨h, hf⟩

/-- The rule for one action after another; the second one may use how the first one ended. -/
theorem Stays.bind_of_ends {f : α → Action β} (ha : Ends a host Q)
    (hok : ∀ x h, Q (.ok x) h → Stays I F (f x) h) (herror : ∀ e h, Q (.error e) h → I h ∧ F e) :
    Stays I F (a >>= f) host :=
  Ends.bind ha hok herror

theorem Stays.bind {f : α → Action β} (ha : Stays I F a host) (hf : ∀ x h, I h → Stays I F (f x) h) :
    Stays I F (a >>= f) host :=
  bind_of_ends ha (fun x h hr => hf x h hr.1) fun _ _ hr => hr

/-- After the first one of two actions, a weaker invariant may be kept. -/
theorem Stays.bind_weaken {f : α → Action β} (ha : Stays I F a host) (hI : ∀ h, I h → I' h)
    (hf : ∀ x h, I h → Stays I' F (f x) h) : Stays I' F (a >>= f) host :=
  bind_of_ends ha (fun x h hr => hf x h hr.1) fun _ h hr => ⟨hI h hr.1, hr.2⟩

/-- What is looked at does not change anything. -/
theorem Stays.get_bind {f : Host → Action β} (hf : Stays I F (f host) host) :
    Stays I F (get >>= f) host :=
  hf

theorem Stays.observe_bind {look : Host → α} {f : α → Action β} (hf : Stays I F (f (look host)) host) :
    Stays I F (observe look >>= f) host :=
  hf

theorem Stays.modify {change : Host → Host} (h : I (change host)) :
    Stays I F (modify change : Action Unit) host :=
  ⟨h, trivial⟩

/-- After an attempt, both endings have to be looked at. -/
theorem Stays.attempt_bind {f : Except Failure α → Action β} (ha : Stays I F' a host)
    (hok : ∀ x h, I h → Stays I' F (f (.ok x)) h)
    (herror : ∀ e h, I h → F' e → Stays I' F (f (.error e)) h) : Stays I' F (attempt a >>= f) host := by
  rw [Stays, ends_bind, ends_attempt]
  refine Ends.mono ha fun r h hr => ?_
  cases r with
  | ok x => exact hok x h hr.1
  | error e => exact herror e h hr.1 hr.2

theorem Stays.attempt (ha : Stays I F' a host) : Stays I F (attempt a) host := by
  rw [Stays, ends_attempt]
  exact Ends.mono ha fun r h hr => ⟨hr.1, trivial⟩

theorem Stays.ensuring {last : Action Unit} (ha : Stays I F a host)
    (hlast : ∀ h, I h → Stays I' F last h) : Stays I' F (ensuring a last) host :=
  attempt_bind ha (fun x h hi => (hlast h hi).bind fun _ _ hi => .pure hi x)
    fun _ h hi hf => (hlast h hi).bind fun _ _ hi => .fail hi hf

theorem Stays.handling {test : Failure → Bool} {handle : Failure → Action α} (ha : Stays I F' a host)
    (hhandle : ∀ e h, I h → F' e → test e = true → Stays I F (handle e) h)
    (hother : ∀ e, F' e → test e = false → F e) : Stays I F (handling a test handle) host := by
  refine attempt_bind ha (fun x h hi => .pure hi x) fun e h hi hf => ?_
  cases htest : test e with
  | true => simpa [htest] using hhandle e h hi hf htest
  | false => simpa [htest] using Stays.fail hi (hother e hf htest)

theorem Stays.discard (ha : Stays I F a host) : Stays I F (discard a) host := by
  have hmap : Ends ((fun _ => ()) <$> a) host fun r h => I h ∧ Allows F r := by
    refine ends_map.mpr (Ends.mono ha fun r h hr => ?_)
    cases r with
    | ok x => exact hr
    | error f => exact hr
  exact hmap

/-! ## Results -/

/-- An action that keeps an invariant, fails only as `F` says, and has results of which `R`
holds. -/
def Yields (I : Host → Prop) (F : Failure → Prop) (R : α → Prop) (a : Action α) (host : Host) : Prop :=
  Ends a host fun r h => I h ∧
    match r with
    | .ok x => R x
    | .error f => F f

variable {R : α → Prop}

theorem Yields.pure (h : I host) {x : α} (hx : R x) : Yields I F R (pure x) host :=
  ⟨h, hx⟩

theorem Yields.fail (h : I host) {f : Failure} (hf : F f) : Yields I F R (fail f : Action α) host :=
  ⟨h, hf⟩

theorem Yields.stays (h : Yields I F R a host) : Stays I F a host := by
  refine Ends.mono h fun r h hr => ⟨hr.1, ?_⟩
  cases r with
  | ok x => trivial
  | error f => exact hr.2

theorem Stays.yields (h : Stays I F a host) : Yields I F (fun _ => True) a host := by
  refine Ends.mono h fun r h hr => ⟨hr.1, ?_⟩
  cases r with
  | ok x => trivial
  | error f => exact hr.2

/-- The second one of two actions may use what is known of the result of the first one. -/
theorem Yields.bind {f : α → Action β} {R' : β → Prop} (ha : Yields I F R a host)
    (hf : ∀ x h, I h → R x → Yields I F R' (f x) h) : Yields I F R' (a >>= f) host := by
  rw [Yields, ends_bind]
  refine Ends.mono ha fun r h hr => ?_
  cases r with
  | ok x => exact hf x h hr.1 hr.2
  | error e => exact hr

/-! ## Results and failures -/

/-- A result of which `S` holds, or a failure of which `E` holds. -/
inductive OneOf (S : α → Host → Prop) (E : Failure → Host → Prop) : Except Failure α → Host → Prop
  | ok {x : α} {h : Host} (hs : S x h) : OneOf S E (.ok x) h
  | error {f : Failure} {h : Host} (he : E f h) : OneOf S E (.error f) h

/-- An action that ends well as `S` says, or fails as `E` says. -/
def Leaves (S : α → Host → Prop) (E : Failure → Host → Prop) (a : Action α) (host : Host) : Prop :=
  Ends a host (OneOf S E)

section Leaves

variable {S : α → Host → Prop} {E E' : Failure → Host → Prop}

theorem Leaves.pure {x : α} (h : S x host) : Leaves S E (pure x) host := .ok h

theorem Leaves.fail {f : Failure} (h : E f host) : Leaves S E (fail f : Action α) host := .error h

theorem Leaves.mono {S' : α → Host → Prop} (h : Leaves S E a host) (hok : ∀ x h, S x h → S' x h)
    (herror : ∀ f h, E f h → E' f h) : Leaves S' E' a host := by
  refine Ends.mono h fun r h hr => ?_
  cases hr with
  | ok hs => exact .ok (hok _ h hs)
  | error he => exact .error (herror _ h he)

/-- What is known of an action that has ended well. -/
theorem Leaves.of_ok (h : Leaves S E a host) {x : α} (hresult : (a host).1 = .ok x) : S x (a host).2 := by
  rw [Leaves, Ends, hresult] at h
  cases h with
  | ok hs => exact hs

/-- An action has ended well, or it has failed. -/
theorem Leaves.cases (h : Leaves S E a host) :
    (∃ x, (a host).1 = .ok x ∧ S x (a host).2) ∨ ∃ f, (a host).1 = .error f ∧ E f (a host).2 := by
  rw [Leaves, Ends] at h
  cases hresult : (a host).1 with
  | ok x =>
    rw [hresult] at h
    cases h with
    | ok hs => exact Or.inl ⟨x, rfl, hs⟩
  | error f =>
    rw [hresult] at h
    cases h with
    | error he => exact Or.inr ⟨f, rfl, he⟩

/-- The second one of two actions starts where the first one has ended well. -/
theorem Leaves.bind {f : α → Action β} {S' : β → Host → Prop} (ha : Leaves S E a host)
    (hf : ∀ x h, S x h → Leaves S' E (f x) h) : Leaves S' E (a >>= f) host := by
  rw [Leaves, ends_bind]
  refine Ends.mono ha fun r h hr => ?_
  cases hr with
  | ok hs => exact hf _ h hs
  | error he => exact .error he

theorem Leaves.get_bind {f : Host → Action β} {S' : β → Host → Prop} (hf : Leaves S' E (f host) host) :
    Leaves S' E (get >>= f) host := hf

theorem Leaves.observe_bind {look : Host → α} {f : α → Action β} {S' : β → Host → Prop}
    (hf : Leaves S' E (f (look host)) host) : Leaves S' E (observe look >>= f) host := hf

/-- Both endings of an action are looked at by the one that comes last. -/
theorem Leaves.ensuring {S' : α → Host → Prop} {last : Action Unit} (ha : Leaves S E a host)
    (hok : ∀ x h, S x h → Leaves (fun _ => S' x) E' last h)
    (herror : ∀ f h, E f h → Leaves (fun _ => E' f) E' last h) : Leaves S' E' (ensuring a last) host := by
  rw [Action.ensuring, Leaves, ends_bind, ends_attempt]
  refine Ends.mono ha fun r h hr => ?_
  cases hr with
  | ok hs => exact (hok _ h hs).bind fun _ h hs => .pure hs
  | error he => exact (herror _ h he).bind fun _ h he => .fail he

/-- All failures are handled. -/
theorem Leaves.handling {handle : Failure → Action α} (ha : Leaves S E a host)
    (hhandle : ∀ f h, E f h → Leaves S E' (handle f) h) :
    Leaves S E' (handling a (fun _ => true) handle) host := by
  rw [Action.handling, Leaves, ends_bind, ends_attempt]
  refine Ends.mono ha fun r h hr => ?_
  cases hr with
  | ok hs => exact .ok hs
  | error he => exact hhandle _ h he

theorem Stays.leaves (h : Stays I F a host) : Leaves (fun _ => I) (fun f h => I h ∧ F f) a host := by
  refine Ends.mono h fun r h hr => ?_
  cases r with
  | ok x => exact .ok hr.1
  | error f => exact .error hr

/-- An invariant that is kept however the action ends. -/
theorem Leaves.stays (h : Leaves (fun _ => I) (fun f h => I h ∧ F f) a host) : Stays I F a host := by
  refine Ends.mono h fun r h hr => ?_
  cases hr with
  | ok hs => exact ⟨hs, trivial⟩
  | error he => exact he

end Leaves

/-! ## What invariants do not look at -/

/-- What a child has been seen to do: the files that it found, and those that it left. -/
structure Deed where
  child : Child
  found : Files
  left : Files

/-- What all children so far have done. -/
def deeds (h : Host) : List Deed :=
  h.spawned.map fun s => ⟨s.child, s.found, s.left⟩

/-- The part of a host that invariants look at: the files, the day, what children will do and
what they have done. -/
def view (h : Host) : Files × Timestamp × List Child × List Deed :=
  (h.files, h.now, h.upcoming, deeds h)

/-- An invariant that looks at nothing else. -/
def Quiet (I : Host → Prop) : Prop :=
  ∀ h h' : Host, view h' = view h → I h → I h'

section Quiet

variable (hI : Quiet I) (h : I host)

include hI h

theorem Stays.readClock : Stays I F readClock host :=
  ⟨hI host _ rfl h, trivial⟩

theorem Stays.freshNumber : Stays I F freshNumber host :=
  ⟨hI host _ rfl h, trivial⟩

theorem Stays.freshName : Stays I F freshName host :=
  (Stays.freshNumber hI h).bind fun n _ hi => .pure hi (nameOf n)

theorem Stays.report (r : Report) : Stays I F (report r) host := by
  refine .modify ?_
  split
  · exact hI host _ rfl h
  · exact h

theorem Stays.plan (names : List String) : Stays I F (plan names) host :=
  .modify (hI host _ rfl h)

theorem Stays.advance (change : Pipeline → Pipeline) : Stays I F (advance change) host :=
  .modify (hI host _ rfl h)

theorem Stays.mark (name : String) (status : StageStatus) : Stays I F (mark name status) host :=
  .advance hI h _

/-- What becomes of a child is not looked at. -/
theorem Stays.settle (fate : Fate) : Stays I F (settle fate) host := by
  refine .modify ?_
  cases hlast : host.spawned.getLast? with
  | none => exact h
  | some last =>
    obtain ⟨front, hfront⟩ := List.getLast?_eq_some_iff.mp hlast
    refine hI host _ ?_ h
    simp [view, deeds, hfront]

/-- The work of a stage, between changes of the pipeline. -/
theorem Stays.stage {name : String} {work : Action α} (hwork : ∀ h, I h → Stays I F work h) :
    Stays I F (stage name work) host := by
  refine (Stays.mark hI h name .running).bind fun _ h hi => ?_
  refine attempt_bind (hwork h hi) (fun x h hi => ?_) fun e h hi hf => ?_
  · exact (Stays.mark hI hi name .succeeded).bind fun _ _ hi => .pure hi x
  · exact (Stays.mark hI hi name .failed).bind fun _ _ hi => .fail hi hf

end Quiet

/-- What holds of the work of a stage, which begins when the stage is running, holds of the stage, if it
has nothing to do with the pipeline. -/
theorem ends_stage_running (hQ : ∀ r h pipeline, Q r h → Q r { h with pipeline }) {name : String} {work : Action α}
    (hwork : Ends work { host with pipeline := { host.pipeline with stages := host.pipeline.stages.mark name .running } } Q) :
    Ends (stage name work) host Q := by
  rw [stage, ends_bind, mark, advance, ends_modify]
  dsimp only
  rw [ends_bind, ends_attempt]
  refine Ends.mono hwork fun r h hr => ?_
  cases r with
  | ok x =>
    dsimp only
    rw [ends_bind, mark, advance, ends_modify]
    exact hQ _ h _ hr
  | error f =>
    dsimp only
    rw [ends_bind, mark, advance, ends_modify]
    exact hQ _ h _ hr

/-- What holds of the work of a stage however the pipeline is holds of the stage, if it has nothing to do
with the pipeline. -/
theorem ends_stage_aside (hQ : ∀ r h pipeline, Q r h → Q r { h with pipeline }) {name : String} {work : Action α}
    (hwork : ∀ pipeline, Ends work { host with pipeline } Q) : Ends (stage name work) host Q :=
  ends_stage_running hQ (hwork _)

/-- What holds of the work of a stage holds of the stage, if it does not depend on what is not
looked at. -/
theorem ends_stage (hQ : ∀ r h h', view h' = view h → Q r h → Q r h') {name : String} {work : Action α}
    (hwork : ∀ h, view h = view host → Ends work h Q) : Ends (stage name work) host Q :=
  ends_stage_aside (fun r h _ hr => hQ r h _ rfl hr) fun _ => hwork _ rfl

theorem Leaves.stage {S : α → Host → Prop} {E : Failure → Host → Prop} (hS : ∀ x, Quiet (S x))
    (hE : ∀ f, Quiet (E f)) {name : String} {work : Action α}
    (hwork : ∀ h, view h = view host → Leaves S E work h) : Leaves S E (stage name work) host := by
  refine ends_stage (fun r h h' hview hr => ?_) hwork
  cases hr with
  | ok hs => exact .ok (hS _ h h' hview hs)
  | error he => exact .error (hE _ h h' hview he)

theorem Yields.stage (hI : Quiet I) (h : I host) {name : String} {work : Action α}
    (hwork : ∀ h, I h → Yields I F R work h) : Yields I F R (stage name work) host := by
  refine ends_stage (fun r h h' hview hr => ⟨hI h h' hview hr.1, ?_⟩) fun h' hview =>
    hwork h' (hI host h' hview h)
  cases r with
  | ok x => exact hr.2
  | error f => exact hr.2

theorem view_report (r : Report) : view (report r host).2 = view host := by
  change view (if host.listening then { host with reports := host.reports ++ [r] } else host) = view host
  split <;> rfl

/-- What is reported is not looked at. -/
theorem ends_report_bind {r : Report} (h : ∀ h, view h = view host → Ends a h Q) :
    Ends (do report r; a) host Q := by
  rw [ends_bind]
  exact h _ (view_report r)

/-! ## Between children -/

/-- No child has been started since a host, and `K` holds of the files. -/
def During (host : Host) (K : Files → Prop) (h : Host) : Prop :=
  (view h).2 = (view host).2 ∧ K h.files

section During

variable {K K' : Files → Prop} {h : Host}

theorem quiet_during (host : Host) (K : Files → Prop) : Quiet (During host K) := by
  rintro h h' hview ⟨hsame, hfiles⟩
  refine ⟨by rw [hview, hsame], ?_⟩
  have heq : h'.files = h.files := congrArg Prod.fst hview
  exact heq ▸ hfiles

theorem During.change (h' : During host K h) {files : Files} (hfiles : K' files) :
    During host K' { h with files } :=
  ⟨h'.1, hfiles⟩

theorem During.mono (h' : During host K h) (hK : ∀ files, K files → K' files) : During host K' h :=
  ⟨h'.1, hK _ h'.2⟩

end During

end Stopwatch.Action
