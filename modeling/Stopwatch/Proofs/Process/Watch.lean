/-
  Watched streams.

  Whatever the order in which the events of two streams come in, a watch that nothing stops
  gains the lines of each stream in their order, puts every one of them into the log once,
  and notices the diagnostics among them in the order of the log.  What a stream gains depends
  on its own events only, and in the end on nothing but its bytes.
-/
import Stopwatch.Process.Supervisor
import Stopwatch.Proofs.Process.Lines

namespace Stopwatch

/-! ## Streams apart -/

/-- The stream that an event belongs to. -/
def StreamEvent.channel : StreamEvent → Channel
  | .opened channel => channel
  | .arrived channel _ => channel
  | .ended channel => channel
  | .broke channel _ => channel

/-- One of the streams of a child. -/
def Child.stream (c : Child) : Channel → Option (List Chunk)
  | .output => c.output
  | .errors => c.errors

/-- The events of both streams of a child, mixed in any way. -/
def Child.Interleaves (c : Child) (events : List StreamEvent) : Prop :=
  ∀ channel, events.filter (fun e => e.channel = channel) = Supervisor.eventsOf channel (c.stream channel)

/-- A child prints bytes to its streams, in any pieces. -/
def Child.Prints (c : Child) (bytes : Channel → List UInt8) : Prop :=
  ∀ channel, ∃ pieces : List (List UInt8), c.stream channel = some (pieces.map .bytes) ∧ pieces.flatten = bytes channel

/-- The lines of one stream among lines of both. -/
def linesOn (channel : Channel) (lines : List (Channel × String)) : List String :=
  (lines.filter fun line => line.1 = channel).map Prod.snd

/-- The diagnostics among notices. -/
def diagnostics (notices : List Notice) : List String :=
  notices.filterMap fun
    | .diagnostic line => some line
    | _ => none

theorem linesOn_append (channel : Channel) (lines lines' : List (Channel × String)) :
    linesOn channel (lines ++ lines') = linesOn channel lines ++ linesOn channel lines' := by
  rw [linesOn, List.filter_append, List.map_append]
  rfl

/-- Lines that all belong to one stream. -/
theorem linesOn_map (channel channel' : Channel) (lines : List String) :
    linesOn channel' (lines.map fun line => (channel, line)) = if channel = channel' then lines else [] := by
  rw [linesOn, List.filter_map, List.map_map]
  split
  · rename_i heq
    simp [heq, Function.comp_def]
  · rename_i hne
    simp [hne, Function.comp_def]

theorem diagnostics_append (notices notices' : List Notice) :
    diagnostics (notices ++ notices') = diagnostics notices ++ diagnostics notices' :=
  List.filterMap_append

/-! ## One stream -/

/-- The lines that an event finishes in its stream, and the bytes that are left of the line
behind them. -/
def StreamEvent.finishes (pending : List UInt8) : StreamEvent → List String × List UInt8
  | .opened _ => ([], pending)
  | .arrived _ data => ((cutLines (pending ++ data)).1.map lineText, (cutLines (pending ++ data)).2)
  | .ended _ => (if pending = [] then [] else [lineText pending], [])
  | .broke _ _ => ([], pending)

/-- The lines that the events of one stream finish. -/
def finishedBy (pending : List UInt8) : List StreamEvent → List String
  | [] => []
  | e :: events => (e.finishes pending).1 ++ finishedBy (e.finishes pending).2 events

/-- Pieces finish the lines of the bytes that they are the pieces of. -/
theorem finishedBy_arrivals (channel : Channel) (front : List UInt8) (pieces : List (List UInt8)) :
    (cutLines front).1.map lineText ++
        finishedBy (cutLines front).2 (Supervisor.eventsOf.arrivals channel (pieces.map .bytes)) =
      streamLines (front ++ pieces.flatten) := by
  induction pieces generalizing front with
  | nil =>
    rw [streamLines_eq, List.flatten_nil, List.append_nil, finishLines]
    change _ ++ ((if _ then _ else _) ++ []) = _
    rw [List.append_nil]
  | cons piece pieces ih =>
    have hstep := cutLines_append front piece
    rw [List.flatten_cons, ← List.append_assoc, ← ih (front ++ piece), hstep]
    change _ ++ (((cutLines ((cutLines front).2 ++ piece)).1.map lineText) ++ finishedBy _ _) = _
    rw [List.map_append, List.append_assoc]
    rfl

theorem finishedBy_eventsOf (channel : Channel) (pieces : List (List UInt8)) :
    finishedBy [] (Supervisor.eventsOf channel (some (pieces.map .bytes))) = streamLines pieces.flatten := by
  have h := finishedBy_arrivals channel [] pieces
  rwa [List.nil_append] at h

theorem channel_of_mem_arrivals {channel : Channel} {chunks : List Chunk} {e : StreamEvent}
    (h : e ∈ Supervisor.eventsOf.arrivals channel chunks) : e.channel = channel := by
  induction chunks with
  | nil =>
    obtain rfl := List.mem_singleton.mp h
    rfl
  | cons chunk chunks ih =>
    cases chunk with
    | bytes data =>
      rcases List.mem_cons.mp h with rfl | h
      · rfl
      · exact ih h
    | failure text =>
      obtain rfl := List.mem_singleton.mp h
      rfl

/-- A stream that is read to its end does not break. -/
theorem broke_not_mem_arrivals (channel channel' : Channel) (text : String) (pieces : List (List UInt8)) :
    .broke channel' text ∉ Supervisor.eventsOf.arrivals channel (pieces.map .bytes) := by
  induction pieces with
  | nil => exact fun h => nomatch List.mem_singleton.mp h
  | cons piece pieces ih =>
    intro h
    rcases List.mem_cons.mp h with heq | h
    · cases heq
    · exact ih h

/-- The events of one stream all belong to it. -/
theorem channel_of_mem_eventsOf {channel : Channel} {stream : Option (List Chunk)} {e : StreamEvent}
    (h : e ∈ Supervisor.eventsOf channel stream) : e.channel = channel := by
  cases stream with
  | none => cases h
  | some chunks =>
    rcases List.mem_cons.mp h with rfl | h
    · rfl
    · exact channel_of_mem_arrivals h

/-- Nothing breaks while a child prints bytes. -/
theorem Child.Interleaves.broke_not_mem {c : Child} {bytes : Channel → List UInt8} {events : List StreamEvent}
    (hevents : c.Interleaves events) (hprints : c.Prints bytes) (channel : Channel) (text : String) :
    .broke channel text ∉ events := by
  intro hmem
  obtain ⟨pieces, hstream, -⟩ := hprints channel
  have hkept : .broke channel text ∈ events.filter fun e => e.channel = channel :=
    List.mem_filter.mpr ⟨hmem, decide_eq_true rfl⟩
  rw [hevents channel, hstream] at hkept
  rcases List.mem_cons.mp hkept with heq | hrest
  · cases heq
  · exact broke_not_mem_arrivals channel channel text pieces hrest

/-- Output first and the other stream after it is one way of mixing them. -/
theorem interleaves_events (c : Child) : c.Interleaves (Supervisor.events c) := by
  have hkept (channel : Channel) (stream : Option (List Chunk)) :
      (Supervisor.eventsOf channel stream).filter (fun e => e.channel = channel) =
        Supervisor.eventsOf channel stream := by
    rw [List.filter_eq_self]
    exact fun e he => decide_eq_true (channel_of_mem_eventsOf he)
  have hdropped {channel channel' : Channel} (hne : channel ≠ channel') (stream : Option (List Chunk)) :
      (Supervisor.eventsOf channel stream).filter (fun e => e.channel = channel') = [] := by
    rw [List.filter_eq_nil_iff]
    exact fun e he => by simpa [channel_of_mem_eventsOf he] using hne
  intro channel
  rw [Supervisor.events, List.filter_append]
  cases channel with
  | output => rw [hkept, hdropped (by decide), List.append_nil]; rfl
  | errors => rw [hkept, hdropped (by decide), List.nil_append]; rfl

namespace Watch

variable {rules : WatchRules} {w w' w'' : Watch} {lines lines' : List (Channel × String)}

/-! ## What a watch gains -/

/-- One watch follows from another one by lines of both streams that have come in. -/
structure Gains (rules : WatchRules) (lines : List (Channel × String)) (w w' : Watch) : Prop where
  drains : ∀ channel, (w'.drain channel).lines = (w.drain channel).lines ++ linesOn channel lines
  log : w'.log = w.log ++ lines.map Prod.snd
  notices : rules.listener.attentive = true →
    diagnostics w'.notices = diagnostics w.notices ++ (lines.map Prod.snd).filter isDiagnostic

theorem Gains.nil (hdrains : ∀ channel, (w'.drain channel).lines = (w.drain channel).lines)
    (hlog : w'.log = w.log) (hnotices : w'.notices = w.notices) : Gains rules [] w w' := by
  refine ⟨fun channel => ?_, ?_, fun _ => ?_⟩
  · rw [hdrains, linesOn, List.filter_nil, List.map_nil, List.append_nil]
  · rw [hlog, List.map_nil, List.append_nil]
  · rw [hnotices, List.map_nil, List.filter_nil, List.append_nil]

theorem Gains.refl (rules : WatchRules) (w : Watch) : Gains rules [] w w :=
  .nil (fun _ => rfl) rfl rfl

theorem Gains.trans (h : Gains rules lines w w') (h' : Gains rules lines' w' w'') :
    Gains rules (lines ++ lines') w w'' := by
  refine ⟨fun channel => ?_, ?_, fun hattentive => ?_⟩
  · rw [h'.drains, h.drains, linesOn_append, List.append_assoc]
  · rw [h'.log, h.log, List.map_append, List.append_assoc]
  · rw [h'.notices hattentive, h.notices hattentive, List.map_append, List.filter_append, List.append_assoc]

/-- What else changes in a watch does not count as a gain. -/
theorem Gains.congr (h : Gains rules lines w w') (hdrains : ∀ channel, (w''.drain channel).lines = (w'.drain channel).lines)
    (hlog : w''.log = w'.log) (hnotices : w''.notices = w'.notices) : Gains rules lines w w'' := by
  have hnil : Gains rules [] w' w'' := .nil hdrains hlog hnotices
  have hall := h.trans hnil
  rwa [List.append_nil] at hall

/-! ## Single lines -/

theorem drain_changeDrain (w : Watch) (change : Drain → Drain) (channel channel' : Channel) :
    (w.changeDrain change channel).drain channel' =
      if channel = channel' then change (w.drain channel') else w.drain channel' := by
  cases channel <;> cases channel' <;> rfl

theorem log_changeDrain (w : Watch) (change : Drain → Drain) (channel : Channel) :
    (w.changeDrain change channel).log = w.log := by
  cases channel <;> rfl

theorem notices_changeDrain (w : Watch) (change : Drain → Drain) (channel : Channel) :
    (w.changeDrain change channel).notices = w.notices := by
  cases channel <;> rfl

theorem failure_changeDrain (w : Watch) (change : Drain → Drain) (channel : Channel) :
    (w.changeDrain change channel).failure = w.failure := by
  cases channel <;> rfl

/-- Keeping a line stops no watch. -/
theorem failure_keep (w : Watch) (channel : Channel) (line : String) :
    (w.keep channel line).failure = w.failure := by
  cases channel <;> rfl

/-- A line that is kept is one more of its stream. -/
theorem drain_keep (w : Watch) (channel channel' : Channel) (line : String) :
    ((w.keep channel line).drain channel').lines = (w.drain channel').lines ++ linesOn channel' [(channel, line)] ∧
      ((w.keep channel line).drain channel').pending = (w.drain channel').pending := by
  cases channel <;> cases channel' <;> simp [keep, changeDrain, drain, linesOn]

theorem log_keep (w : Watch) (channel : Channel) (line : String) : (w.keep channel line).log = w.log ++ [line] := rfl

theorem notices_keep (w : Watch) (channel : Channel) (line : String) : (w.keep channel line).notices = w.notices := by
  cases channel <;> rfl

/-- Progress is noticed beside the lines. -/
theorem gains_noticeProgress (w : Watch) (line : String) : Gains rules [] w (w.noticeProgress rules line) := by
  unfold noticeProgress
  split
  · dsimp only
    split
    · refine ⟨fun channel => ?_, ?_, fun _ => ?_⟩
      · cases channel <;> simp [drain, linesOn]
      · exact (List.append_nil _).symm
      · simp [diagnostics]
    · exact .nil (fun channel => by cases channel <;> rfl) rfl rfl
  · exact .refl rules w

theorem pending_noticeProgress (w : Watch) (line : String) (channel : Channel) :
    ((w.noticeProgress rules line).drain channel).pending = (w.drain channel).pending := by
  unfold noticeProgress
  split
  · dsimp only
    split <;> cases channel <;> rfl
  · rfl

theorem failure_of_emit {channel : Channel} {raw : List UInt8} (h : (emit rules channel w raw).failure = none) :
    w.failure = none := by
  rw [emit] at h
  split at h
  · exact h
  · rename_i hgoing
    simpa using hgoing

/-- A line that comes in, unless it stops the watch. -/
theorem gains_emit {channel : Channel} {raw : List UInt8} (h : (emit rules channel w raw).failure = none) :
    Gains rules [(channel, lineText raw)] w (emit rules channel w raw) := by
  have hgoing : ¬w.failure.isSome = true := by simp [failure_of_emit h]
  rw [emit, if_neg hgoing] at h ⊢
  dsimp only at h ⊢
  by_cases hdiagnostic : isDiagnostic (lineText raw) = true
  · rw [if_pos hdiagnostic, noticeDiagnostic] at h ⊢
    by_cases hattentive : rules.listener.attentive = true
    · rw [if_pos hattentive] at h ⊢
      cases hobjection : rules.listener.objection (lineText raw) with
      | some problem =>
        rw [hobjection] at h
        cases h
      | none =>
        refine ⟨fun channel' => (drain_keep w channel channel' _).1, log_keep w channel _, fun _ => ?_⟩
        dsimp only
        rw [diagnostics_append, notices_keep]
        simp [diagnostics, hdiagnostic]
    · rw [if_neg hattentive]
      exact ⟨fun channel' => (drain_keep w channel channel' _).1, log_keep w channel _,
        fun hyes => absurd hyes hattentive⟩
  · rw [if_neg hdiagnostic]
    have hkept : Gains rules [(channel, lineText raw)] w (w.keep channel (lineText raw)) := by
      refine ⟨fun channel' => (drain_keep w channel channel' _).1, log_keep w channel _, fun _ => ?_⟩
      rw [notices_keep]
      simp [hdiagnostic]
    cases channel with
    | output => exact hkept.trans (gains_noticeProgress _ _)
    | errors => exact hkept

theorem pending_emit (channel channel' : Channel) (w : Watch) (raw : List UInt8) :
    ((emit rules channel w raw).drain channel').pending = (w.drain channel').pending := by
  unfold emit
  split
  · rfl
  · dsimp only
    split
    · unfold noticeDiagnostic
      split
      · split
        · exact (drain_keep w channel channel' _).2
        · exact (drain_keep w channel channel' _).2
      · exact (drain_keep w channel channel' _).2
    · cases channel with
      | output => exact (pending_noticeProgress _ _ _).trans (drain_keep w .output channel' _).2
      | errors => exact (drain_keep w .errors channel' _).2

/-! ## Several lines -/

theorem failure_of_foldl_emit {channel : Channel} {raws : List (List UInt8)}
    (h : (raws.foldl (emit rules channel) w).failure = none) : w.failure = none := by
  induction raws generalizing w with
  | nil => exact h
  | cons raw raws ih => exact failure_of_emit (ih h)

theorem gains_foldl_emit {channel : Channel} {raws : List (List UInt8)}
    (h : (raws.foldl (emit rules channel) w).failure = none) :
    Gains rules ((raws.map lineText).map fun line => (channel, line)) w (raws.foldl (emit rules channel) w) := by
  induction raws generalizing w with
  | nil => exact .refl rules w
  | cons raw raws ih =>
    have hfirst : (emit rules channel w raw).failure = none := failure_of_foldl_emit h
    exact (gains_emit hfirst).trans (ih h)

theorem pending_foldl_emit (channel channel' : Channel) (w : Watch) (raws : List (List UInt8)) :
    ((raws.foldl (emit rules channel) w).drain channel').pending = (w.drain channel').pending := by
  induction raws generalizing w with
  | nil => rfl
  | cons raw raws ih => rw [List.foldl_cons, ih, pending_emit]

/-! ## Events -/

theorem failure_of_see {e : StreamEvent} (h : (see rules w e).failure = none) : w.failure = none := by
  cases e with
  | opened channel =>
    rw [see, failure_changeDrain] at h
    exact h
  | arrived channel data =>
    rw [see, failure_changeDrain] at h
    exact failure_of_foldl_emit h
  | ended channel =>
    simp only [see] at h
    split at h
    · exact h
    · rw [failure_changeDrain] at h
      exact failure_of_emit h
  | broke channel text =>
    simp only [see] at h
    split at h
    · exact h
    · cases h

/-- An event gives its own stream the lines that it finishes. -/
theorem gains_see {e : StreamEvent} (h : (see rules w e).failure = none) :
    Gains rules ((e.finishes (w.drain e.channel).pending).1.map fun line => (e.channel, line)) w (see rules w e) := by
  cases e with
  | opened channel =>
    refine .nil (fun channel' => ?_) (log_changeDrain _ _ _) (notices_changeDrain _ _ _)
    rw [see, drain_changeDrain]
    split <;> cases channel' <;> rfl
  | arrived channel data =>
    rw [see, failure_changeDrain] at h
    refine (gains_foldl_emit h).congr (fun channel' => ?_) (log_changeDrain _ _ _) (notices_changeDrain _ _ _)
    rw [see, drain_changeDrain]
    split <;> rfl
  | ended channel =>
    change Gains rules ((if (w.drain channel).pending = [] then [] else _).map _) w _
    by_cases hrest : (w.drain channel).pending = []
    · rw [if_pos hrest, see, if_pos hrest]
      exact .refl rules w
    · rw [see, if_neg hrest, failure_changeDrain] at h
      rw [if_neg hrest, see, if_neg hrest]
      refine (gains_emit h).congr (fun channel' => ?_) (log_changeDrain _ _ _) (notices_changeDrain _ _ _)
      rw [drain_changeDrain]
      split <;> rfl
  | broke channel text =>
    simp only [see] at h ⊢
    split at h
    · rename_i hstopped
      rw [h] at hstopped
      cases hstopped
    · cases h

/-- An event changes the unfinished line of its own stream only. -/
theorem pending_see (w : Watch) (e : StreamEvent) (channel : Channel) :
    ((see rules w e).drain channel).pending =
      if e.channel = channel then (e.finishes (w.drain channel).pending).2 else (w.drain channel).pending := by
  cases e with
  | opened channel' =>
    change _ = if channel' = channel then (w.drain channel).pending else _
    rw [see, drain_changeDrain, ite_self]
    split <;> cases channel <;> rfl
  | arrived channel' data =>
    change _ = if channel' = channel then (cutLines ((w.drain channel).pending ++ data)).2 else _
    rw [see, drain_changeDrain]
    by_cases heq : channel' = channel
    · rw [if_pos heq, if_pos heq, heq]
    · rw [if_neg heq, if_neg heq, pending_foldl_emit]
  | ended channel' =>
    change _ = if channel' = channel then [] else _
    rw [see]
    by_cases heq : channel' = channel
    · rw [if_pos heq, heq]
      split
      · assumption
      · rw [drain_changeDrain, if_pos rfl]
    · rw [if_neg heq]
      split
      · rfl
      · rw [drain_changeDrain, if_neg heq, pending_emit]
  | broke channel' text =>
    change _ = if channel' = channel then (w.drain channel).pending else _
    rw [see, ite_self]
    split <;> cases channel <;> rfl

/-! ## Watches that nothing stops -/

section Accepting

variable (haccepts : ∀ line, rules.listener.objection line = none)

theorem failure_noticeProgress (w : Watch) (line : String) :
    (w.noticeProgress rules line).failure = w.failure := by
  unfold noticeProgress
  split
  · dsimp only
    split <;> rfl
  · rfl

include haccepts

/-- A listener who accepts every diagnostic stops no watch. -/
theorem failure_noticeDiagnostic (w : Watch) (line : String) :
    (w.noticeDiagnostic rules line).failure = w.failure := by
  rw [noticeDiagnostic, haccepts]
  split <;> rfl

theorem failure_emit (channel : Channel) (w : Watch) (raw : List UInt8) :
    (emit rules channel w raw).failure = w.failure := by
  unfold emit
  split
  · rfl
  · dsimp only
    split
    · rw [failure_noticeDiagnostic haccepts, failure_keep]
    · cases channel with
      | output => rw [failure_noticeProgress, failure_keep]
      | errors => rw [failure_keep]

theorem failure_foldl_emit (channel : Channel) (raws : List (List UInt8)) (w : Watch) :
    (raws.foldl (emit rules channel) w).failure = w.failure := by
  induction raws generalizing w with
  | nil => rfl
  | cons raw raws ih => rw [List.foldl_cons, ih, failure_emit haccepts]

/-- Then only a stream that breaks stops the watch. -/
theorem failure_see {e : StreamEvent} (he : ∀ channel text, e ≠ .broke channel text) (w : Watch) :
    (see rules w e).failure = w.failure := by
  cases e with
  | opened channel => rw [see, failure_changeDrain]
  | arrived channel data => rw [see, failure_changeDrain, failure_foldl_emit haccepts]
  | ended channel =>
    rw [see]
    split
    · rfl
    · rw [failure_changeDrain, failure_emit haccepts]
  | broke channel text => exact absurd rfl (he channel text)

theorem failure_run {events : List StreamEvent} (hevents : ∀ channel text, .broke channel text ∉ events)
    (w : Watch) : (w.run rules events).failure = w.failure := by
  induction events generalizing w with
  | nil => rfl
  | cons e events ih =>
    have he (channel : Channel) (text : String) : e ≠ .broke channel text := by
      rintro rfl
      exact hevents channel text List.mem_cons_self
    have hrest := ih (fun channel text h => hevents channel text (List.mem_cons_of_mem _ h)) (see rules w e)
    exact hrest.trans (failure_see haccepts he w)

end Accepting

/-! ## Whole streams -/

theorem failure_of_run {events : List StreamEvent} (h : (w.run rules events).failure = none) : w.failure = none := by
  induction events generalizing w with
  | nil => exact h
  | cons e events ih => exact failure_of_see (ih h)

/-- What a watch gains, stream by stream, is what the events of that stream finish. -/
theorem exists_gains_run {events : List StreamEvent} (h : (w.run rules events).failure = none) :
    ∃ lines, Gains rules lines w (w.run rules events) ∧
      ∀ channel, linesOn channel lines =
        finishedBy (w.drain channel).pending (events.filter fun e => e.channel = channel) := by
  induction events generalizing w with
  | nil => exact ⟨[], .refl rules w, fun _ => rfl⟩
  | cons e events ih =>
    obtain ⟨lines, hgains, hlines⟩ := ih h
    refine ⟨_, (gains_see (failure_of_run (w := see rules w e) h)).trans hgains, fun channel => ?_⟩
    rw [linesOn_append, linesOn_map, hlines, pending_see, List.filter_cons]
    by_cases heq : e.channel = channel
    · simp only [heq, decide_true, if_true]
      rfl
    · simp only [heq, decide_false, Bool.false_eq_true, if_false, List.nil_append]

/-- Both streams of a child have been watched to their ends, and nothing has stopped the watch: each
has the lines of its bytes, whatever pieces these came in and however the streams were mixed. -/
theorem exists_lines_run {c : Child} {bytes : Channel → List UInt8} (hprints : c.Prints bytes)
    {events : List StreamEvent} (hevents : c.Interleaves events) {clock : Clock}
    (h : ((start clock).run rules events).failure = none) :
    ∃ lines : List (Channel × String),
      (∀ channel, linesOn channel lines = streamLines (bytes channel)) ∧
        Gains rules lines (start clock) ((start clock).run rules events) := by
  obtain ⟨lines, hgains, hlines⟩ := exists_gains_run h
  refine ⟨lines, fun channel => ?_, hgains⟩
  obtain ⟨pieces, hstream, hpieces⟩ := hprints channel
  have hpending : ((start clock).drain channel).pending = [] := by cases channel <;> rfl
  rw [hlines, hpending, hevents channel, hstream, finishedBy_eventsOf, hpieces]

end Watch

end Stopwatch
