/-
  Actions that mirror each other.

  Two actions mirror each other if they come to results on two hosts that are related, or fail alike on
  both.  It may happen that the two sides part; then nothing more is said of them, but it can be seen on
  the second side that they have.  There is one rule for each way in which actions are put together, as
  in a logic for two runs at once.
-/
import Stopwatch.Proofs.Host.Children

namespace Stopwatch.Action

variable {α β γ α' β' : Type} {B : Host → Prop} {R P P' : Host → Host → Prop}

/-! ## Two runs at once -/

/-- It makes no difference which of two runs is looked at first. -/
theorem ends_swap {a : Action α} {a' : Action β} {h h' : Host}
    {Q : Except Failure α → Host → Except Failure β → Host → Prop} :
    (Ends a h fun r g => Ends a' h' fun r' g' => Q r g r' g') ↔ Ends a' h' fun r' g' => Ends a h fun r g => Q r g r' g' :=
  Iff.rfl

/-- Two failures that are the same, or both come from the system. -/
def AlikeFailures (f f' : Failure) : Prop :=
  f = f' ∨ IsSystem f ∧ IsSystem f'

/-- Two endings that mirror each other: results of which `S` holds, or failures that are alike. -/
inductive Mirrored (R : Host → Host → Prop) (S : α → β → Host → Host → Prop) :
    Except Failure α → Host → Except Failure β → Host → Prop
  | ok {x : α} {y : β} {h h' : Host} (hs : S x y h h') : Mirrored R S (.ok x) h (.ok y) h'
  | error {f f' : Failure} {h h' : Host} (hf : AlikeFailures f f') (hr : R h h') :
    Mirrored R S (.error f) h (.error f') h'

theorem Mirrored.imp {R' : Host → Host → Prop} {S S' : α → β → Host → Host → Prop} {r : Except Failure α}
    {r' : Except Failure β} {h h' k k' : Host} (hm : Mirrored R S r h r' h') (hS : ∀ x y, S x y h h' → S' x y k k')
    (hR : R h h' → R' k k') : Mirrored R' S' r k r' k' := by
  cases hm with
  | ok hs => exact .ok (hS _ _ hs)
  | error hf hr => exact .error hf (hR hr)

/-- Two endings with the same result, or with failures that are alike; either way `R` holds. -/
abbrev SameEnding (R : Host → Host → Prop) (r : Except Failure α) (h : Host) (r' : Except Failure α) (h' : Host) : Prop :=
  Mirrored R (fun x y h h' => x = y ∧ R h h') r h r' h'

/-- Hosts that have changed are still related, so nothing else has changed. -/
theorem SameEnding.change {R' : Host → Host → Prop} {r r' : Except Failure α} {h h' k k' : Host}
    (hm : SameEnding R r h r' h') (hR : R h h' → R' k k') : SameEnding R' r k r' k' :=
  hm.imp (fun _ _ hs => ⟨hs.1, hR hs.2⟩) hR

theorem SameEnding.toOption_eq {r r' : Except Failure α} {h h' : Host} (hm : SameEnding R r h r' h') :
    r'.toOption = r.toOption := by
  cases hm with
  | ok hs => rw [hs.1]
  | error hf hr => rfl

theorem SameEnding.related {r r' : Except Failure α} {h h' : Host} (hm : SameEnding R r h r' h') : R h h' := by
  cases hm with
  | ok hs => exact hs.2
  | error hf hr => exact hr

/-- Where two actions begin as `P` says they mirror each other, unless `B` holds in the end on the second
side; once it holds there it goes on to hold. -/
structure Mirrors (B : Host → Prop) (R P : Host → Host → Prop) (S : α → β → Host → Host → Prop) (a : Action α)
    (a' : Action β) : Prop where
  lasts : ∀ h', B h' → Ends a' h' fun _ g' => B g'
  ends : ∀ h h', P h h' → Ends a h fun r g => Ends a' h' fun r' g' => B g' ∨ Mirrored R S r g r' g'

/-- How far the pipelines have come does not matter to a relation. -/
def IgnoresPipelines (R : Host → Host → Prop) : Prop :=
  ∀ g g' pipeline pipeline', R g g' → R { g with pipeline } { g' with pipeline := pipeline' }

namespace Mirrors

variable {S : α → α' → Host → Host → Prop} {S' : β → β' → Host → Host → Prop} {a : Action α} {a' : Action α'}

theorem mono {S' : α → α' → Host → Host → Prop} (ha : Mirrors B R P S a a') (hP : ∀ h h', P' h h' → P h h')
    (hS : ∀ x y h h', S x y h h' → S' x y h h') : Mirrors B R P' S' a a' where
  lasts := ha.lasts
  ends h h' hp := Ends.mono (ha.ends h h' (hP h h' hp)) fun _ g hr => Ends.mono hr fun _ g' hr' =>
    hr'.imp_right fun hm => hm.imp (fun x y => hS x y g g') id

theorem pure {x : α} {y : α'} (h : ∀ g g', P g g' → S x y g g') :
    Mirrors B R P S (Pure.pure x) (Pure.pure y) where
  lasts _ hb := hb
  ends g g' hp := Or.inr (.ok (h g g' hp))

theorem fail {f f' : Failure} (hf : AlikeFailures f f') (hP : ∀ g g', P g g' → R g g') :
    Mirrors B R P S (Action.fail f) (Action.fail f') where
  lasts _ hb := hb
  ends g g' hp := Or.inr (.error hf (hP g g' hp))

/-- The second one of two actions begins where the first one has come to results on both sides. -/
theorem bind [Nonempty α] {f : α → Action β} {f' : α' → Action β'} (ha : Mirrors B R P S a a')
    (hf : ∀ x y, Mirrors B R (S x y) S' (f x) (f' y)) : Mirrors B R P S' (a >>= f) (a' >>= f') where
  lasts h' hb := by
    rw [ends_bind]
    refine Ends.mono (ha.lasts h' hb) fun r' g' hb' => ?_
    cases r' with
    | ok y => exact (hf (Classical.arbitrary α) y).lasts g' hb'
    | error e => exact hb'
  ends h h' hp := by
    rw [ends_bind]
    refine Ends.mono (ha.ends h h' hp) fun r g hr => ?_
    cases r with
    | error e =>
      dsimp only
      rw [ends_bind]
      refine Ends.mono hr fun r' g' hr' => ?_
      cases r' with
      | error e' =>
        refine hr'.imp_right fun hm => ?_
        cases hm with
        | error hf hr => exact .error hf hr
      | ok y =>
        -- results on the second side alone: there is nothing to compare
        refine Ends.mono ((hf (Classical.arbitrary α) y).lasts g' (hr'.resolve_right fun hm => ?_)) fun _ _ => Or.inl
        cases hm
    | ok x =>
      refine ends_swap.mpr ?_
      rw [ends_bind]
      refine Ends.mono hr fun r' g' hr' => ?_
      cases r' with
      | error e' =>
        refine Ends.mono (Q := fun _ _ => B g') (hr'.resolve_right fun hm => ?_) fun _ _ => Or.inl
        cases hm
      | ok y =>
        refine ends_swap.mpr ?_
        rcases hr' with hb | hm
        · exact Ends.mono (Q := fun _ _ => True) trivial fun _ _ _ => Ends.mono ((hf x y).lasts g' hb) fun _ _ => Or.inl
        · cases hm with
          | ok hs => exact (hf x y).ends g g' hs

/-- What holds of no host goes on to hold. -/
theorem frame {V : Prop} (ha : Mirrors B R P S a a') :
    Mirrors B R (fun g g' => V ∧ P g g') (fun x y g g' => V ∧ S x y g g') a a' where
  lasts := ha.lasts
  ends h h' hp := Ends.mono (ha.ends h h' hp.2) fun _ _ hr => Ends.mono hr fun _ _ hr' =>
    hr'.imp_right fun hm => hm.imp (fun _ _ hs => ⟨hp.1, hs⟩) id

/-- Where the sides have parted before, nothing more need be known. -/
theorem of_not (ha : Mirrors B R (fun g g' => P g g' ∧ ¬B g') S a a') : Mirrors B R P S a a' where
  lasts := ha.lasts
  ends h h' hp := by
    by_cases hb : B h'
    · exact Ends.mono (Q := fun _ _ => True) trivial fun _ _ _ => Ends.mono (ha.lasts h' hb) fun _ _ => Or.inl
    · exact ha.ends h h' ⟨hp, hb⟩

/-- Where both sides come to what is related, it is enough to go on with that. -/
theorem bind_related [Nonempty α] {V : α → α' → Prop} {Q : α → α' → Host → Host → Prop} {f : α → Action β}
    {f' : α' → Action β'} (hV : ∀ y, ∃ x, V x y) (ha : Mirrors B R P (fun x y g g' => V x y ∧ Q x y g g') a a')
    (hf : ∀ x y, V x y → Mirrors B R (Q x y) S' (f x) (f' y)) : Mirrors B R P S' (a >>= f) (a' >>= f') := by
  refine ha.bind fun x y => ⟨?_, fun g g' hq => (hf x y hq.1).ends g g' hq.2⟩
  obtain ⟨x', hx'⟩ := hV y
  exact (hf x' y hx').lasts

/-- Where both sides come to the same, it is enough to go on with that. -/
theorem bind_same [Nonempty α] {Q : α → Host → Host → Prop} {a a' : Action α} {f : α → Action β} {f' : α → Action β'}
    (ha : Mirrors B R P (fun x y g g' => x = y ∧ Q x g g') a a') (hf : ∀ x, Mirrors B R (Q x) S' (f x) (f' x)) :
    Mirrors B R P S' (a >>= f) (a' >>= f') := by
  refine ha.bind_related (fun y => ⟨y, rfl⟩) fun x y heq => ?_
  rw [← heq]
  exact hf x

/-- What is looked at is the same on both sides. -/
theorem observe_bind {look : Host → γ} {f : γ → Action β} {f' : γ → Action β'} (hlook : ∀ g g', P g g' → look g' = look g)
    (hf : ∀ c, Mirrors B R P S' (f c) (f' c)) : Mirrors B R P S' (observe look >>= f) (observe look >>= f') where
  lasts h' hb := (hf (look h')).lasts h' hb
  ends h h' hp := by
    change Ends (f (look h)) h fun r g => Ends (f' (look h')) h' fun r' g' => B g' ∨ Mirrored R S' r g r' g'
    rw [hlook h h' hp]
    exact (hf (look h)).ends h h' hp

theorem modify {T : Unit → Unit → Host → Host → Prop} {change change' : Host → Host} (hB : ∀ h, B h → B (change' h))
    (h : ∀ g g', P g g' → T () () (change g) (change' g')) :
    Mirrors B R P T (modify change : Action Unit) (modify change' : Action Unit) where
  lasts g' hb := hB g' hb
  ends g g' hp := Or.inr (.ok (h g g' hp))

/-- After an attempt, both endings have to be looked at. -/
theorem attempt_bind [Nonempty α] {f : Except Failure α → Action β} {f' : Except Failure α' → Action β'}
    (ha : Mirrors B R P S a a') (hok : ∀ x y, Mirrors B R (S x y) S' (f (.ok x)) (f' (.ok y)))
    (herror : ∀ e e', AlikeFailures e e' → Mirrors B R R S' (f (.error e)) (f' (.error e'))) :
    Mirrors B R P S' (attempt a >>= f) (attempt a' >>= f') := by
  have hattempt : Mirrors B R P (fun r r' g g' => Mirrored R S r g r' g') (attempt a) (attempt a') :=
    ⟨fun h' hb => ha.lasts h' hb, fun h h' hp => by
      rw [ends_attempt]
      refine Ends.mono (ha.ends h h' hp) fun r g hr => ?_
      rw [ends_attempt]
      exact Ends.mono hr fun r' g' hr' => hr'.imp_right .ok⟩
  refine hattempt.bind fun r r' => ⟨fun h' hb => ?_, fun g g' hm => ?_⟩
  · cases r' with
    | ok y => exact (hok (Classical.arbitrary α) y).lasts h' hb
    | error e => exact (herror e e (Or.inl rfl)).lasts h' hb
  · cases hm with
    | ok hs => exact (hok _ _).ends g g' hs
    | error hf hr => exact (herror _ _ hf).ends g g' hr

theorem ensuring [Nonempty α] {last last' : Action Unit} (ha : Mirrors B R P S a a')
    (hok : ∀ x y, Mirrors B R (S x y) (fun _ _ => S x y) last last') (herror : Mirrors B R R (fun _ _ => R) last last') :
    Mirrors B R P S (ensuring a last) (ensuring a' last') :=
  ha.attempt_bind (fun x y => (hok x y).bind fun _ _ => .pure fun _ _ => id) fun _ _ hf =>
    herror.bind fun _ _ => .fail hf fun _ _ => id

/-- All failures are handled. -/
theorem handling [Nonempty α] {handle : Failure → Action α} {handle' : Failure → Action α'} (ha : Mirrors B R P S a a')
    (hhandle : ∀ e e', AlikeFailures e e' → Mirrors B R R S (handle e) (handle' e')) :
    Mirrors B R P S (handling a (fun _ => true) handle) (handling a' (fun _ => true) handle') :=
  ha.attempt_bind (fun _ _ => .pure fun _ _ => id) hhandle

/-- What is reported may differ. -/
theorem report (hB : ∀ h reports, B h → B { h with reports })
    (hP : ∀ g g' reports reports', P g g' → P { g with reports } { g' with reports := reports' }) (said said' : Report) :
    Mirrors B R P (fun _ _ => P) (report said) (report said') := by
  refine .modify (fun h hb => ?_) fun g g' hp => ?_
  · split
    · exact hB h _ hb
    · exact hb
  · have hkept (h : Host) (said : Report) : ∃ reports,
        (if h.listening then { h with reports := h.reports ++ [said] } else h) = { h with reports } := by
      split
      · exact ⟨_, rfl⟩
      · exact ⟨h.reports, rfl⟩
    obtain ⟨reports, heq⟩ := hkept g said
    obtain ⟨reports', heq'⟩ := hkept g' said'
    rw [heq, heq']
    exact hP g g' reports reports' hp

/-- What is known of the first side alone. -/
theorem and_left {I K : Host → Prop} {J : α → Host → Prop} (ha : Mirrors B R P S a a')
    (hI : ∀ h, I h → Leaves J (fun _ => K) a h) :
    Mirrors B (fun g g' => R g g' ∧ K g) (fun g g' => P g g' ∧ I g) (fun x y g g' => S x y g g' ∧ J x g) a a' where
  lasts := ha.lasts
  ends h h' hp := by
    refine Ends.mono ((ha.ends h h' hp.1).and (hI h hp.2)) ?_
    rintro r g ⟨hr, hleft⟩
    refine Ends.mono hr fun r' g' hr' => hr'.imp_right fun hm => ?_
    cases hm with
    | ok hs =>
      cases hleft with
      | ok hj => exact .ok ⟨hs, hj⟩
    | error hf hr =>
      cases hleft with
      | error hk => exact .error hf ⟨hr, hk⟩

/-- The work of a stage. -/
theorem stage [Nonempty α] (hB : ∀ h pipeline, B h → B { h with pipeline }) (hP : IgnoresPipelines P)
    (hR : IgnoresPipelines R) (hS : ∀ x y, IgnoresPipelines (S x y)) (ha : Mirrors B R P S a a') (name : String) :
    Mirrors B R P S (stage name a) (stage name a') := by
  have hmark {T : Host → Host → Prop} (hT : IgnoresPipelines T) (status : StageStatus) :
      Mirrors B R T (fun _ _ => T) (mark name status) (mark name status) :=
    .modify (fun h hb => hB h _ hb) fun g g' ht => hT g g' _ _ ht
  refine (hmark hP .running).bind fun _ _ => ha.attempt_bind (fun x y => ?_) fun e e' hf => ?_
  · exact (hmark (hS x y) .succeeded).bind fun _ _ => .pure fun _ _ => id
  · exact (hmark hR .failed).bind fun _ _ => .fail hf fun _ _ => id

end Mirrors

end Stopwatch.Action
