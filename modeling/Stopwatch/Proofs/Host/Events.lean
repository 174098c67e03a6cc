/-
  Events of logged work.

  Work that is logged adds one event, which says how the work has ended: it is told to have
  succeeded if the work has come to something, and it tells the failure otherwise.  The event is one
  line behind all that its file held before.  If the line is refused no event is added, and the
  refusal is what the logged work fails with.
-/
import Stopwatch.Proofs.Host.Aside
import Stopwatch.Proofs.Host.Files
import Stopwatch.Proofs.Json.Integers
import Stopwatch.Proofs.Json.Lines
import Stopwatch.RunLog

namespace Stopwatch

open Action

variable {α β : Type} {a : Action α} {host h : Host}

/-! ## Work that adds no event -/

namespace Action

/-- The frame of actions that add no event. -/
def Unrecorded (host h : Host) : Prop :=
  h.logged = host.logged

instance : IsRunFrame Unrecorded where
  aside := by
    rintro host h ⟨_, _, _, _, _, rfl, -, -⟩
    rfl
  trans := fun h h' => h'.trans h
  settled := fun _ _ => rfl
  pipeline := fun _ _ => rfl
  named := fun _ _ => rfl

theorem admits_unrecorded (command : Command) : Admits Unrecorded command := by
  intro host h s hs
  rw [hs.host_eq]
  rfl

end Action

/-! ## Durations -/

/-- What is left of a number without its fraction is smaller than all numbers that are too large for the
format. -/
theorem Number.natAbs_truncate_lt (x : Float) : (truncate x).natAbs < 2 ^ 1024 := by
  have hfinite {negative : Bool} {v : Binary} (hx : classify x = .finite negative v) :
      (v.scaled 0).1 / (v.scaled 0).2 < 2 ^ 1024 := by
    refine (Nat.div_le_self _ _).trans_lt ?_
    by_cases hzero : v.mantissa = 0
    · rw [Binary.scaled, hzero, Nat.zero_mul, Nat.zero_mul]
      exact Nat.two_pow_pos _
    · have hv := isCanonical_of_classify hx hzero
      have hexponent : v.exponent.toNat ≤ 971 := by
        have := hv.exponent_le
        omega
      calc (v.scaled 0).1 = v.mantissa * 2 ^ v.exponent.toNat := by simp [Binary.scaled]
        _ < 2 ^ 53 * 2 ^ v.exponent.toNat := Nat.mul_lt_mul_of_pos_right hv.mantissa_lt (Nat.two_pow_pos _)
        _ ≤ 2 ^ 53 * 2 ^ 971 := Nat.mul_le_mul_left _ (Nat.pow_le_pow_right (by decide) hexponent)
        _ = 2 ^ 1024 := by rw [← Nat.pow_add]
  rw [truncate]
  cases hx : classify x with
  | finite negative v =>
    have habs : (((v.scaled 0).1 : ℤ) / (v.scaled 0).2).natAbs < 2 ^ 1024 := by
      rw [← Int.natCast_div, Int.natAbs_natCast]
      exact hfinite hx
    cases negative with
    | false => exact habs
    | true => exact (Int.natAbs_neg _).trans_lt habs
  | infinite _ | nan => exact Nat.two_pow_pos _

theorem Json.isShort_of_lt {n : ℤ} (h : n.natAbs < 10 ^ maxIntegerDigits) : IsShort n :=
  (Nat.length_toDigits_le_iff (by decide) (by decide)).mpr h

/-- The milliseconds of an event are short enough for the reader. -/
theorem RunLog.isShort_milliseconds (start stop : Float) : Json.IsShort (milliseconds start stop) := by
  refine Json.isShort_of_lt ?_
  calc (milliseconds start stop).natAbs < 2 ^ 1024 := Number.natAbs_truncate_lt _
    _ ≤ 10 ^ 1024 := Nat.pow_le_pow_left (by decide) _
    _ ≤ 10 ^ Json.maxIntegerDigits := Nat.pow_le_pow_right (by decide) (by decide)

/-! ## Lines -/

/-- How many metrics an event tells of. -/
def EventFields.count (data : EventFields) : Nat :=
  match data.lookup "metrics" with
  | some (.integer n) => n.toNat
  | _ => 0

namespace RunLog

variable {log : RunLog} {type path : String} {work : Action α} {note : α → EventFields}

/-- An event as it is written. -/
def line (log : RunLog) (e : Event) : String :=
  Json.render Json.eventStyle (log.document e.type e.data e.duration e.moment)

/-- An event has been added to a log: its line stands behind all that the file held before, it is a single
one, and it is read as the event.  No reader takes an integer of more than some thousand digits. -/
structure IsAdded (log : RunLog) (e : Event) : Prop where
  write : e.found.write (log.file e.moment.dayText) (fun bytes => bytes ++ Text.Utf8.encode (log.line e ++ "\n")) =
    .ok e.left
  single : '\n' ∉ (log.line e).toList
  read : e.data.count < 10 ^ Json.maxIntegerDigits →
    Json.read? (log.line e).toList = some (log.document e.type e.data e.duration e.moment)

/-- The fields of an event about work on a path: whether the work has come to something, and what is noted
about that, or how it has failed. -/
def told (path : String) (note : α → EventFields) : Except Failure α → EventFields
  | .ok value => ("status", .string "success") :: ("path", .string path) :: note value
  | .error f => [("status", .string "error"), ("path", .string path), ("error", .string f.message)]

/-- A note has fields of its own, and all that it tells but a number of metrics can be read. -/
structure IsNote (note : α → EventFields) : Prop where
  told_eq : ∀ path value, setFields [("status", .string "started"), ("path", .string path)]
    (note value ++ [("status", .string "success")]) = told path note (.ok value)
  fits : ∀ value room, (note value).count < 10 ^ Json.maxIntegerDigits →
    Json.FitFields Json.eventStyle (room + 1) (note value)

theorem outcomeFields_eq_told (hnote : IsNote note) (path : String) (result : Except Failure α) :
    outcomeFields (setFields [("status", .string "started")] [("path", .string path)]) note result =
      told path note result := by
  cases result with
  | ok value => exact hnote.told_eq path value
  | error f => rfl

/-- The number of metrics that an event tells of is the one in the note. -/
theorem count_told (path : String) (note : α → EventFields) (result : Except Failure α) :
    (told path note result).count = match result with
      | .ok value => (note value).count
      | .error _ => 0 := by
  cases result <;> rfl

theorem fits_document (hnote : IsNote note) {result : Except Failure α} {duration : Int} {moment : Timestamp}
    (hduration : Json.IsShort duration) (hcount : (told path note result).count < 10 ^ Json.maxIntegerDigits) :
    Json.Fits Json.eventStyle Json.maxDepth
      (log.document type (told path note result) (some duration) moment) := by
  have hdata : Json.FitFields Json.eventStyle 198 (told path note result) := by
    cases result with
    | ok value => exact ⟨trivial, trivial, hnote.fits value 197 hcount⟩
    | error f => exact ⟨trivial, trivial, trivial, trivial⟩
  have hrun : Json.Fits Json.eventStyle 199 (Metric.optional .string log.run) := by
    cases log.run <;> trivial
  exact ⟨trivial, hdata, hrun, hduration, trivial, trivial⟩

/-! ## Logged work -/

/-- The event about work that has been started on one host and has ended on another one. -/
def eventOf (type : String) (data : EventFields) (start stop : Host) (left : Files) : Event :=
  ⟨type, data, some (milliseconds start.clock.read.1 stop.clock.read.1), stop.now, stop.files, left⟩

/-- Work on a path has been done and logged: an event is added that tells how the work has ended, or its
line is refused. -/
inductive Logs (log : RunLog) (type path : String) (work : Action α) (note : α → EventFields) (host : Host) :
    Except Failure α → Host → List Event → Prop
  | added {result : Except Failure α} {stop : Host} {e : Event}
      (hwork : work { host with clock := host.clock.read.2 } = (result, stop))
      (hevent : e = eventOf type (told path note result) host stop e.left) (hadded : log.IsAdded e) :
      Logs log type path work note host result
        { stop with clock := stop.clock.read.2, files := e.left, logged := stop.logged ++ [e] } [e]
  | refused {result : Except Failure α} {stop : Host} {fault : SystemFault}
      (hwork : work { host with clock := host.clock.read.2 } = (result, stop))
      (hrefused : stop.files.write (log.file stop.now.dayText) (fun bytes => bytes ++ Text.Utf8.encode
        (log.line (eventOf type (told path note result) host stop stop.files) ++ "\n")) = .error fault) :
      Logs log type path work note host (.error (.system (.refused fault (log.file stop.now.dayText).text)))
        { stop with clock := stop.clock.read.2 } []

theorem Logs.type_eq {result : Except Failure α} {events : List Event}
    (h' : log.Logs type path work note host result h events) : ∀ e ∈ events, e.type = type := by
  cases h' with
  | added _ hevent => exact List.forall_mem_singleton.mpr (congrArg Event.type hevent)
  | refused => exact fun _ he => absurd he List.not_mem_nil

/-- Work that has come to something has one event, which tells of as many metrics as are noted. -/
theorem Logs.sum_count_eq {value : α} {events : List Event}
    (h' : log.Logs type path work note host (.ok value) h events) :
    (events.map (·.data.count)).sum = (note value).count := by
  cases h' with
  | @added _ _ e _ hevent =>
    have hdata : e.data = told path note (.ok value) := congrArg Event.data hevent
    rw [List.map_singleton, List.sum_singleton, hdata, count_told]

/-- The events that have been added since a host was left, and what holds of them. -/
def Records (log : RunLog) (host : Host) (P : Except Failure α → Host → List Event → Prop)
    (result : Except Failure α) (h : Host) : Prop :=
  ∃ events, h.logged = host.logged ++ events ∧ (∀ e ∈ events, log.IsAdded e) ∧ P result h events

theorem Records.mono {P : Except Failure α → Host → List Event → Prop} {result : Except Failure α}
    {Q : Except Failure β → Host → List Event → Prop} {result' : Except Failure β} (h' : log.Records host P result h)
    (hPQ : ∀ events, P result h events → Q result' h events) : log.Records host Q result' h := by
  obtain ⟨events, hlogged, hadded, hP⟩ := h'
  exact ⟨events, hlogged, hadded, hPQ events hP⟩

/-- No event has been added. -/
theorem Records.none {P : Except Failure α → Host → List Event → Prop} {result : Except Failure α}
    (hlogged : h.logged = host.logged) (hP : P result h []) : log.Records host P result h :=
  ⟨[], by rw [List.append_nil, hlogged], fun _ he => absurd he List.not_mem_nil, hP⟩

/-- Events that have been added before are counted as well. -/
theorem Records.after {first : List Event} {Q : Except Failure α → Host → List Event → Prop} {result : Except Failure α}
    {h' : Host} (hfirst : h.logged = host.logged ++ first) (hadded : ∀ e ∈ first, log.IsAdded e)
    (hmore : log.Records h (fun result h' more => Q result h' (first ++ more)) result h') : log.Records host Q result h' := by
  obtain ⟨more, hlogged, hadded', hQ⟩ := hmore
  refine ⟨first ++ more, by rw [hlogged, hfirst, List.append_assoc], fun e he => ?_, hQ⟩
  exact (List.mem_append.mp he).elim (hadded e) (hadded' e)

/-- One action after another: the events of both. -/
theorem Records.bind {P : Except Failure α → Host → List Event → Prop} {f : α → Action β}
    {Q : Except Failure β → Host → List Event → Prop} (ha : Ends a host (log.Records host P))
    (hok : ∀ x h first, P (.ok x) h first →
      Ends (f x) h (log.Records h fun result h' more => Q result h' (first ++ more)))
    (herror : ∀ f h events, P (.error f) h events → Q (.error f) h events) :
    Ends (a >>= f) host (log.Records host Q) := by
  refine Ends.bind ha ?_ fun f h hf => hf.mono (herror f h)
  rintro x h ⟨first, hfirst, hadded, hP⟩
  exact Ends.mono (hok x h first hP) fun _ _ hmore => hmore.after hfirst hadded

/-- A last action that adds no event, though it may fail. -/
theorem Records.ensuring {Q : Except Failure α → List Event → Prop} {last : Action Unit}
    (ha : Ends a host (log.Records host fun result _ => Q result)) (hlast : Works Unrecorded last)
    (herror : ∀ result f events, Q result events → Q (.error f) events) :
    Ends (ensuring a last) host (log.Records host fun result _ => Q result) := by
  rw [Action.ensuring, ends_bind, ends_attempt]
  refine Ends.mono ha ?_
  rintro result h ⟨events, hlogged, hadded, hQ⟩
  dsimp only
  rw [ends_bind]
  refine Ends.mono (hlast h) fun ended h' hended => ?_
  have hlogged' : h'.logged = host.logged ++ events := hended.1.trans hlogged
  cases ended with
  | error f => exact ⟨events, hlogged', hadded, herror result f events hQ⟩
  | ok _ => cases result <;> exact ⟨events, hlogged', hadded, hQ⟩

/-- Work that is logged adds the event about it, if it adds none itself. -/
theorem ends_timed_logs (hnote : IsNote note) (hwork : Works Unrecorded work) :
    Ends (log.timed type [("path", .string path)] work note) host
      (log.Records host (log.Logs type path work note host)) := by
  rw [timed, ends_bind, ends_readClock]
  dsimp only
  rw [ends_bind, ends_attempt]
  have hsilent := (hwork { host with clock := host.clock.read.2 }).1
  -- the event is told from what the work has come to, whatever that is
  rw [Ends]
  generalize hresult : work { host with clock := host.clock.read.2 } = ran at hsilent ⊢
  obtain ⟨result, stop⟩ := ran
  dsimp only
  rw [ends_bind, ends_readClock]
  dsimp only
  rw [outcomeFields_eq_told hnote, ends_bind, write, ends_bind, ends_observe]
  dsimp only
  rw [ends_bind, ends_observe]
  dsimp only
  rw [ends_bind, appendText, ends_changeFiles]
  dsimp only
  -- the line is either added to the file or refused
  split
  · rename_i files hwrite
    have hadded : log.IsAdded (eventOf type (told path note result) host stop files) :=
      ⟨hwrite, Json.not_mem_render_event _, fun hcount => Json.read_render_event
        (fits_document hnote (isShort_milliseconds _ _) hcount)⟩
    have hlogs := Logs.added hresult rfl hadded
    rw [ends_modify]
    cases result <;> exact ⟨_, congrArg (· ++ _) hsilent, List.forall_mem_singleton.mpr hadded, hlogs⟩
  · rename_i fault hrefused
    exact .none hsilent (.refused hresult hrefused)

/-! ## Series -/

/-- Steps are taken one after the other until one of them fails: what they come to, the host that they
leave, and the events of all of them. -/
inductive Series {ι : Type} (step : ι → Host → Except Failure α → Host → List Event → Prop) :
    List ι → Host → Except Failure (List α) → Host → List Event → Prop
  | nil (h : Host) : Series step [] h (.ok []) h []
  | cons {item : ι} {rest : List ι} {h h₁ h₂ : Host} {value : α} {result : Except Failure (List α)}
      {events more : List Event} (hstep : step item h (.ok value) h₁ events) (hrest : Series step rest h₁ result h₂ more) :
      Series step (item :: rest) h (result.map (value :: ·)) h₂ (events ++ more)
  | stopped {item : ι} {rest : List ι} {h h₁ : Host} {f : Failure} {events : List Event}
      (hstep : step item h (.error f) h₁ events) : Series step (item :: rest) h (.error f) h₁ events

section Series

variable {ι : Type} {step : ι → Host → Except Failure α → Host → List Event → Prop} {items : List ι}
  {events : List Event}

/-- What holds of the events of each step holds of all events. -/
theorem Series.forall_mem {P : Event → Prop} {result : Except Failure (List α)} (hs : Series step items host result h events)
    (hstep : ∀ item h result h' events, step item h result h' events → ∀ e ∈ events, P e) : ∀ e ∈ events, P e := by
  induction hs with
  | nil => exact fun _ he => absurd he List.not_mem_nil
  | cons hfirst _ ih => exact fun e he => (List.mem_append.mp he).elim (hstep _ _ _ _ _ hfirst e) (ih e)
  | stopped hfirst => exact hstep _ _ _ _ _ hfirst

/-- What the events of each step that succeeds add up to is what all events add up to. -/
theorem Series.sum_eq {weight : Event → Nat} {size : α → Nat} {result : Except Failure (List α)} {values : List α}
    (hs : Series step items host result h events) (hresult : result = .ok values)
    (hstep : ∀ item h value h' events, step item h (.ok value) h' events → (events.map weight).sum = size value) :
    (events.map weight).sum = (values.map size).sum := by
  induction hs generalizing values with
  | nil =>
    cases hresult
    rfl
  | @cons _ _ _ _ _ _ result _ _ hfirst _ ih =>
    cases result with
    | error f => cases hresult
    | ok rest =>
      cases hresult
      rw [List.map_append, List.sum_append, hstep _ _ _ _ _ hfirst, ih rfl, List.map_cons, List.sum_cons]
  | stopped => cases hresult

end Series

end RunLog

end Stopwatch
