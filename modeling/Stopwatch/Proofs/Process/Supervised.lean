/-
  Supervised children.

  A supervised run starts a child, begins its log, watches the streams, and ends in one of four
  ways.  What is returned, what has been added to the log and what has become of the child are
  said once for all of them; the lines of the streams, the merge of them in the log and the fate
  of the child follow from that.
-/
import Stopwatch.Proofs.Diagnostics
import Stopwatch.Proofs.Host.Children
import Stopwatch.Proofs.Process.Watch
import Stopwatch.Proofs.Text.Utf8

namespace Stopwatch

open Action

/-- Lines as they stand in a log. -/
def logLines (lines : List String) : String :=
  String.join (lines.map (· ++ "\n"))

namespace Supervisor

variable {s : Supervisor} {command : Command} {host h h' : Host} {fs fs' fs'' : Files} {text text' : String}

/-! ## Logs -/

/-- The log has grown by a text, and the files are the same otherwise. -/
def Logs (s : Supervisor) (text : String) (fs fs' : Files) : Prop :=
  (fs.write s.log fun bytes => bytes ++ Text.Utf8.encode text) = .ok fs'

/-- The line that begins the log of a command. -/
def commandLine (arguments : List String) : String :=
  "$ " ++ String.intercalate " " arguments ++ "\n"

/-- The line that ends the log of a child which has exceeded its bound. -/
def timeoutLine (bound : Float) : String :=
  "Timed out after " ++ Number.formatGeneral bound ++ "s\n"

/-- The command can be written into the log: bytes can be written there, and all arguments are
texts. -/
def CanLog (s : Supervisor) (command : Command) (fs : Files) : Prop :=
  fs.Takes s.log ∧ ∃ arguments : List String, command.arguments = arguments.map .text

theorem Logs.trans (h : s.Logs text fs fs') (h' : s.Logs text' fs' fs'') : s.Logs (text ++ text') fs fs'' := by
  rw [Logs, Files.write_write h] at h'
  rw [Logs, ← h', Text.Utf8.encode_append]
  congr 1
  funext bytes
  exact (List.append_assoc bytes _ _).symm

theorem Logs.takes (h : s.Logs text fs fs') : fs.Takes s.log :=
  (Files.takes_iff _).mpr ⟨fs', h⟩

/-- A log that has been begun goes on. -/
theorem ends_appendText (hgrown : s.Logs text fs h.files) (text' : String) :
    Ends (appendText s.log text') h fun r h' =>
      r = .ok () ∧ h'.spawned = h.spawned ∧ h'.clock = h.clock ∧ s.Logs (text ++ text') fs h'.files := by
  obtain ⟨fs', hfs'⟩ := (Files.takes_iff _).mp (Files.Takes.of_write hgrown)
  rw [appendText, ends_changeFiles, hfs']
  exact ⟨rfl, rfl, rfl, hgrown.trans hfs'⟩

theorem joinArguments_map (index : Nat) (texts : List String) :
    joinArguments index (texts.map .text) = .ok texts := by
  induction texts generalizing index with
  | nil => rfl
  | cons text texts ih =>
    rw [List.map_cons, joinArguments, ih]
    rfl

theorem joinArguments_eq_ok {index : Nat} {arguments : List Argument} {texts : List String}
    (h : joinArguments index arguments = .ok texts) : arguments = texts.map .text := by
  induction arguments generalizing index texts with
  | nil =>
    cases h
    rfl
  | cons argument arguments ih =>
    cases argument with
    | text value =>
      rw [joinArguments] at h
      cases hrest : joinArguments (index + 1) arguments with
      | error f =>
        rw [hrest] at h
        cases h
      | ok rest =>
        rw [hrest] at h
        cases h
        rw [List.map_cons, ih hrest]
    | other value => cases h

/-- The log is begun, or else the command cannot be written into it. -/
theorem ends_logCommand (s : Supervisor) (command : Command) (h : Host) :
    Ends (s.logCommand command) h fun r h' =>
      h'.spawned = h.spawned ∧ h'.clock = h.clock ∧
        match r with
        | .ok () => ∃ arguments : List String, command.arguments = arguments.map .text ∧
          s.Logs (commandLine arguments) h.files h'.files
        | .error _ => ¬s.CanLog command h.files := by
  rw [logCommand, ends_bind, appendText, ends_changeFiles]
  cases hwrite : h.files.write s.log fun bytes => bytes ++ Text.Utf8.encode "" with
  | error fault =>
    refine ⟨rfl, rfl, fun hlog => ?_⟩
    obtain ⟨fs', hfs'⟩ := (Files.takes_iff _).mp hlog.1
    cases hwrite.symm.trans hfs'
  | ok files =>
    have hbegun : s.Logs "" h.files { h with files }.files := hwrite
    dsimp only
    cases hjoin : joinArguments 0 command.arguments with
    | error f =>
      refine ⟨rfl, rfl, fun hlog => ?_⟩
      obtain ⟨arguments, harguments⟩ := hlog.2
      rw [harguments, joinArguments_map] at hjoin
      cases hjoin
    | ok arguments =>
      refine Ends.mono (ends_appendText hbegun _) ?_
      rintro _ h' ⟨rfl, hspawned, hclock, hgrown⟩
      exact ⟨hspawned, hclock, arguments, joinArguments_eq_ok hjoin, hgrown⟩

/-! ## Endings -/

/-- The watch of the events of a supervised child. -/
def watched (s : Supervisor) (clock : Clock) (events : List StreamEvent) : Watch :=
  (Watch.start clock).run ⟨s.listener, s.progressInterval⟩ events

/-- How a child that has been watched ends: what is returned, what is added to the log behind the
command, and what becomes of the child. -/
inductive Ending (w : Watch) (bound : Float) (child : Child) : Supervised → String → Fate → Prop
  /-- There is no time at all. -/
  | late (hbound : bound ≤ 0.0) :
      Ending w bound child ⟨[], .error (.problem (.buildTimeout bound))⟩ (timeoutLine bound) .killed
  /-- The watch is stopped. -/
  | stopped {f : Failure} (hbound : ¬bound ≤ 0.0) (hw : w.failure = some f) :
      Ending w bound child ⟨w.notices, .error f⟩ (logLines w.log) .killed
  /-- The child does not end before the bound. -/
  | expired {beats : List Notice} (hbound : ¬bound ≤ 0.0) (hw : w.failure = none) (hhangs : child.hangs = true)
      (hbeats : diagnostics beats = []) :
      Ending w bound child ⟨w.notices ++ beats, .error (.problem (.buildTimeout bound))⟩
        (logLines w.log ++ timeoutLine bound) .killed
  /-- The child ends by itself. -/
  | exited (elapsed : Float) (hbound : ¬bound ≤ 0.0) (hw : w.failure = none) (hends : child.hangs = false) :
      Ending w bound child
        ⟨w.notices, .ok ⟨child.status, String.intercalate "\n" w.output.lines,
          String.intercalate "\n" w.errors.lines, elapsed⟩⟩
        (logLines w.log) (.exited child.status)

section Attend

variable {front : List Spawned} {last : Spawned} (hlast : h.spawned = front ++ [last])

theorem ends_watch (hgrown : s.Logs text fs h.files) (events : List StreamEvent) :
    Ends (s.watch events) h fun r h' => r = .ok (s.watched h.clock events) ∧ h'.spawned = h.spawned ∧
      s.Logs (text ++ logLines (s.watched h.clock events).log) fs h'.files := by
  rw [Supervisor.watch, ends_bind, ends_observe]
  dsimp only
  rw [ends_bind, ends_modify]
  dsimp only
  rw [ends_bind]
  refine Ends.mono (ends_appendText (h := { h with clock := (s.watched h.clock events).clock }) hgrown _) ?_
  rintro _ h' ⟨rfl, hspawned, -, hgrown⟩
  exact ⟨rfl, hspawned, hgrown⟩

/-- Heartbeats are no diagnostics. -/
theorem ends_beat (start : Float) (n : Nat) (h : Host) :
    Ends (s.beat start n) h fun r h' =>
      h'.spawned = h.spawned ∧ h'.files = h.files ∧ ∃ beats, r = .ok beats ∧ diagnostics beats = [] := by
  induction n generalizing h with
  | zero => exact ⟨rfl, rfl, [], rfl, rfl⟩
  | succ n ih =>
    rw [beat, ends_bind, ends_readClock]
    dsimp only
    rw [ends_bind]
    refine Ends.mono (ih _) ?_
    rintro _ h' ⟨hspawned, hfiles, beats, rfl, hbeats⟩
    exact ⟨hspawned, hfiles, _, rfl, hbeats⟩

include hlast

theorem ends_settle (fate : Fate) {Q : Except Failure Unit → Host → Prop}
    (hQ : Q (.ok ()) { h with spawned := front ++ [{ last with fate }] }) : Ends (settle fate) h Q :=
  (ends_noteLast hlast).mpr hQ

theorem ends_expire (hgrown : s.Logs text fs h.files) (bound : Float) :
    Ends (s.expire bound) h fun r h' => r = .ok (.error (.problem (.buildTimeout bound))) ∧
      h'.spawned = front ++ [{ last with fate := .killed }] ∧ s.Logs (text ++ timeoutLine bound) fs h'.files := by
  rw [expire, ends_bind]
  refine ends_settle hlast .killed ?_
  dsimp only
  rw [ends_bind]
  refine Ends.mono (ends_appendText
    (h := { h with spawned := front ++ [{ last with fate := .killed }] }) hgrown _) ?_
  rintro _ h' ⟨rfl, hspawned, -, hgrown⟩
  exact ⟨rfl, hspawned, hgrown⟩

/-- Attending to a child comes to one of the endings, unless its log cannot be begun. -/
theorem ends_attend (s : Supervisor) (events : List StreamEvent) (command : Command) (bound start : Float)
    (child : Child) :
    Ends (s.attend events command bound start child) h fun r h' =>
      match r with
      | .error _ => ¬s.CanLog command h.files ∧ h'.spawned = h.spawned
      | .ok supervised => ∃ (arguments : List String) (text : String) (fate : Fate), command.arguments = arguments.map .text ∧
        Ending (s.watched h.clock events) bound child supervised text fate ∧
        s.Logs (commandLine arguments ++ text) h.files h'.files ∧ h'.spawned = front ++ [{ last with fate }] := by
  rw [attend, ends_bind]
  refine Ends.mono (ends_logCommand s command h) ?_
  rintro r h₁ ⟨hspawned₁, hclock, hr⟩
  cases r with
  | error f => exact ⟨hr, hspawned₁⟩
  | ok _ =>
    obtain ⟨arguments, harguments, hbegun⟩ := hr
    have hlast₁ : h₁.spawned = front ++ [last] := hspawned₁.trans hlast
    dsimp only
    by_cases hbound : bound ≤ 0.0
    · rw [if_pos hbound, ends_bind]
      refine Ends.mono (ends_expire hlast₁ hbegun bound) ?_
      rintro _ h' ⟨rfl, hspawned, hgrown⟩
      exact ⟨arguments, _, _, harguments, .late hbound, hgrown, hspawned⟩
    · rw [if_neg hbound, ends_bind]
      refine Ends.mono (ends_watch hbegun events) ?_
      rintro _ h₂ ⟨rfl, hspawned₂, hgrown₂⟩
      have hlast₂ : h₂.spawned = front ++ [last] := hspawned₂.trans hlast₁
      rw [hclock] at hgrown₂
      rw [hclock]
      dsimp only
      cases hw : (s.watched h.clock events).failure with
      | some f =>
        dsimp only
        rw [ends_bind, abort, ends_bind]
        refine ends_settle hlast₂ .killed ?_
        exact ⟨arguments, _, _, harguments, .stopped hbound hw, hgrown₂, rfl⟩
      | none =>
        dsimp only
        cases hhangs : child.hangs with
        | true =>
          rw [if_pos rfl, ends_bind]
          refine Ends.mono (ends_beat start _ h₂) ?_
          rintro _ h₃ ⟨hspawned₃, hfiles₃, beats, rfl, hbeats⟩
          dsimp only
          rw [ends_bind]
          refine Ends.mono (ends_expire (hspawned₃.trans hlast₂) (hfiles₃ ▸ hgrown₂) bound) ?_
          rintro _ h' ⟨rfl, hspawned, hgrown⟩
          rw [String.append_assoc] at hgrown
          exact ⟨arguments, _, _, harguments, .expired hbound hw hhangs hbeats, hgrown, hspawned⟩
        | false =>
          rw [if_neg Bool.false_ne_true, ends_bind]
          refine ends_settle hlast₂ (.exited child.status) ?_
          dsimp only
          rw [ends_bind, ends_readClock]
          exact ⟨arguments, _, _, harguments, .exited _ hbound hw hhangs, hgrown₂, rfl⟩

end Attend

/-! ## A small run -/

/-- A child that prints a letter of two bytes, cut in the middle, and a diagnostic. -/
def tornChild : Child :=
  { Child.idle with
    output := some [.bytes [0xC3], .bytes [0xA9, 13], .bytes [10, 98]]
    errors := some [.bytes [101, 114, 114, 111, 114, 10]] }

/-- What it prints as a whole. -/
def tornBytes : Channel → List UInt8
  | .output => [0xC3, 0xA9, 13, 10, 98]
  | .errors => [101, 114, 114, 111, 114, 10]

theorem prints_tornChild : tornChild.Prints tornBytes
  | .output => ⟨[[0xC3], [0xA9, 13], [10, 98]], rfl, rfl⟩
  | .errors => ⟨[[101, 114, 114, 111, 114, 10]], rfl, rfl⟩

/-- Its streams, mixed in between their pieces. -/
def tornEvents (_ : Child) : List StreamEvent :=
  [.opened .errors, .opened .output, .arrived .output [0xC3], .arrived .errors [101, 114, 114, 111, 114, 10],
    .arrived .output [0xA9, 13], .ended .errors, .arrived .output [10, 98], .ended .output]

theorem interleaves_tornEvents : tornChild.Interleaves (tornEvents tornChild) := by
  intro channel
  cases channel <;> rfl

/-- A patient supervisor. -/
def patientSupervisor : Supervisor :=
  ⟨Path.ofText "build.log", 600.0, 30.0, 5.0, .patient⟩

/-- A command. -/
def makeCommand : Command :=
  .ofTexts ["make"] none none

/-- A host with nothing on it, and a child to come. -/
def hostOf (c : Child) : Host :=
  { (default : Host) with upcoming := [c] }

/-! ## Launching -/

section Launch

variable {arrange : Child → List StreamEvent} {bound : Option Float} {t : Float} {child : Child}
  {bytes : Channel → List UInt8}

/-- What has come of launching a child: it has been started and has written its files, or else no child is
running that could be attended to. -/
theorem ends_launch (s : Supervisor) (command : Command) {K : Files → Prop} (hK : Files.Lasting K) (hi : K host.files) :
    Ends (s.launch command) host fun r h =>
      match r with
      | .ok (_, child) => ∃ last, h.spawned = host.spawned ++ [last] ∧ last.child = child ∧ last.command = command ∧
        last.fate = .running ∧ h.files = last.left ∧ K last.left
      | .error _ => h.spawned = host.spawned ∨
        ∃ last, h.spawned = host.spawned ++ [last] ∧ last.command = command ∧ last.IsLost := by
  rw [launch, ends_bind, ends_readClock]
  dsimp only
  rw [ends_bind]
  have hdirectories (h : Host) (hh : K h.files) : Stays (OnlyFiles K h) IsSystem (makeDirectories s.log.parent true) h :=
    Stays.makeDirectories isSystem_system (OnlyFiles.grows hK) ⟨h.files, rfl, hh⟩ _ true
  refine Ends.mono (hdirectories _ hi) ?_
  rintro r h₁ ⟨⟨files, rfl, hfiles⟩, -⟩
  cases r with
  | error f => exact .inl rfl
  | ok _ =>
    dsimp only
    rw [ends_bind]
    refine Ends.mono (ends_start hK command hfiles) ?_
    rintro r h₂ ⟨last, hstarted, hr⟩
    have hspawned : h₂.spawned = host.spawned ++ [last] := congrArg Host.spawned hstarted.host_eq
    cases r with
    | error f => exact .inr ⟨last, hspawned, hstarted.command_eq, hr.2⟩
    | ok child =>
      exact ⟨last, hspawned, hr.1.symm, hstarted.command_eq, hr.2, congrArg Host.files hstarted.host_eq, hstarted.left⟩

/-- A child that has been launched is the last one so far, and it is running. -/
theorem exists_last_of_launch (hlaunch : s.launch command host = (.ok (t, child), h)) :
    ∃ last, h.spawned = host.spawned ++ [last] ∧ last.child = child ∧ last.command = command ∧
      last.fate = .running := by
  have hends := @ends_launch host s command (fun _ => True) Files.lasting_true trivial
  rw [Ends, hlaunch] at hends
  obtain ⟨last, hspawned, hchild, hcommand, hrunning, -⟩ := hends
  exact ⟨last, hspawned, hchild, hcommand, hrunning⟩

/-- A child that has been launched is attended to. -/
theorem supervise_eq (hlaunch : s.launch command host = (.ok (t, child), h)) :
    s.supervise arrange command bound host =
      s.attend (arrange child) command (bound.getD s.timeout) t child h := by
  suffices hends : Ends (s.supervise arrange command bound) host fun r h' =>
      (r, h') = s.attend (arrange child) command (bound.getD s.timeout) t child h from hends
  rw [supervise, ends_bind, Ends, hlaunch]
  rfl

/-- A supervised run of a child that has been launched comes to one of the endings, unless its log
cannot be begun. -/
theorem cases_of_supervise (hlaunch : s.launch command host = (.ok (t, child), h))
    {r : Except Failure Supervised} (hrun : s.supervise arrange command bound host = (r, h')) :
    ∃ last, h.spawned = host.spawned ++ [last] ∧ last.child = child ∧ last.command = command ∧
      match r with
      | .error _ => ¬s.CanLog command h.files ∧ h'.spawned = host.spawned ++ [{ last with fate := .running }]
      | .ok supervised => ∃ (arguments : List String) (text : String) (fate : Fate),
        command.arguments = arguments.map .text ∧
        Ending (s.watched h.clock (arrange child)) (bound.getD s.timeout) child supervised text fate ∧
        s.Logs (commandLine arguments ++ text) h.files h'.files ∧
        h'.spawned = host.spawned ++ [{ last with fate }] := by
  obtain ⟨last, hlast, hchild, hcommand, hrunning⟩ := exists_last_of_launch hlaunch
  refine ⟨last, hlast, hchild, hcommand, ?_⟩
  have hends := ends_attend hlast s (arrange child) command (bound.getD s.timeout) t child
  rw [Ends, ← supervise_eq hlaunch, hrun] at hends
  cases r with
  | error f => exact ⟨hends.1, by rw [hends.2, hlast, ← hrunning]⟩
  | ok supervised => exact hends

/-! ## Lines -/

/-- Both streams of a child have been watched to their ends: their lines are those of their bytes,
and the log is a merge of them that holds the diagnostics in the order in which they are
noticed. -/
theorem exists_lines_watched (hprints : child.Prints bytes) {events : List StreamEvent}
    (hmixed : child.Interleaves events) {clock : Clock} (hw : (s.watched clock events).failure = none) :
    (∀ channel, ((s.watched clock events).drain channel).lines = streamLines (bytes channel)) ∧
      ∃ lines : List (Channel × String), (∀ channel, linesOn channel lines = streamLines (bytes channel)) ∧
        (s.watched clock events).log = lines.map Prod.snd ∧
        (s.listener.attentive = true →
          diagnostics (s.watched clock events).notices = (lines.map Prod.snd).filter isDiagnostic) := by
  obtain ⟨lines, hlines, hgains⟩ := Watch.exists_lines_run hprints hmixed hw
  refine ⟨fun channel => ?_, lines, hlines, hgains.log, hgains.notices⟩
  have hdrains := hgains.drains channel
  rw [hlines] at hdrains
  cases channel <;> exact hdrains

/-- A child that has ended by itself: the lines of each stream are those of all its bytes, decoded
as a whole, in whatever pieces the bytes have come.  They are what is returned, what stands in
the log behind the command, and where the diagnostics are found. -/
theorem lines_of_outcome (hlaunch : s.launch command host = (.ok (t, child), h)) (hprints : child.Prints bytes)
    (hmixed : child.Interleaves (arrange child)) {notices : List Notice} {outcome : Outcome}
    (hrun : s.supervise arrange command bound host = (.ok ⟨notices, .ok outcome⟩, h')) :
    (∀ channel, ((s.watched h.clock (arrange child)).drain channel).lines = streamLines (bytes channel)) ∧
      outcome.output = String.intercalate "\n" (streamLines (bytes .output)) ∧
      outcome.errors = String.intercalate "\n" (streamLines (bytes .errors)) ∧
      ∃ (arguments : List String) (lines : List (Channel × String)), command.arguments = arguments.map .text ∧
        (∀ channel, linesOn channel lines = streamLines (bytes channel)) ∧
        s.Logs (commandLine arguments ++ logLines (lines.map Prod.snd)) h.files h'.files ∧
        (s.listener.attentive = true →
          diagnostics notices = (lines.filter fun line => isDiagnostic line.2).map Prod.snd) := by
  obtain ⟨last, -, -, -, arguments, text, fate, harguments, hending, hlogs, -⟩ := cases_of_supervise hlaunch hrun
  generalize hresult : (⟨notices, .ok outcome⟩ : Supervised) = supervised at hending
  cases hending with
  | late | stopped | expired => cases hresult
  | exited elapsed hbound hw hends =>
    obtain ⟨rfl, houtcome⟩ := Supervised.mk.inj hresult
    obtain rfl := Except.ok.inj houtcome
    obtain ⟨hcollected, lines, hlines, hlog, hnotices⟩ := exists_lines_watched hprints hmixed hw
    refine ⟨hcollected, ?_, ?_, arguments, lines, harguments, hlines, hlog ▸ hlogs, fun hattentive => ?_⟩
    · exact congrArg (String.intercalate "\n") (hcollected .output)
    · exact congrArg (String.intercalate "\n") (hcollected .errors)
    · rw [hnotices hattentive, List.filter_map]
      rfl

theorem lines_of_outcome_torn : ∃ (notices : List Notice) (outcome : Outcome) (h' : Host),
    patientSupervisor.supervise tornEvents makeCommand none (hostOf tornChild) =
        (.ok ⟨notices, .ok outcome⟩, h') ∧
      outcome.output = String.intercalate "\n" (streamLines (tornBytes .output)) := by
  have hended : ((patientSupervisor.supervise tornEvents makeCommand none
      (hostOf tornChild)).1.bind Supervised.result).toBool = true := by decide +kernel
  rcases hrun : patientSupervisor.supervise tornEvents makeCommand none
    (hostOf tornChild) with ⟨_ | ⟨notices, _ | outcome⟩, h'⟩
  · rw [hrun] at hended
    cases hended
  · rw [hrun] at hended
    cases hended
  · refine ⟨notices, outcome, h', rfl, ?_⟩
    exact (lines_of_outcome (Prod.ext rfl rfl) prints_tornChild interleaves_tornEvents hrun).2.1

/-- However the events of two streams are mixed, nothing of either is lost, doubled or torn: the log
holds, behind the command, a merge of the lines of both streams, each in its own order, and the
diagnostics are noticed in the order of the log. -/
theorem exists_merge (hlaunch : s.launch command host = (.ok (t, child), h)) (hprints : child.Prints bytes)
    (hmixed : child.Interleaves (arrange child)) (hlog : s.CanLog command h.files)
    (hbound : ¬bound.getD s.timeout ≤ 0.0) (haccepts : ∀ line, s.listener.objection line = none) :
    ∃ (supervised : Supervised) (h' : Host) (arguments : List String) (lines : List (Channel × String))
      (tail : String), s.supervise arrange command bound host = (.ok supervised, h') ∧
      command.arguments = arguments.map .text ∧
      s.Logs (commandLine arguments ++ logLines (lines.map Prod.snd) ++ tail) h.files h'.files ∧
      (∀ channel, linesOn channel lines = streamLines (bytes channel)) ∧
      (s.listener.attentive = true →
        diagnostics supervised.notices = (lines.map Prod.snd).filter isDiagnostic) ∧
      (∀ line, isDiagnostic line = true ↔ Text.HasWord ["error".toList, "warning".toList] false line.toList) ∧
      match supervised.result with
      | .ok outcome => tail = "" ∧ outcome.output = String.intercalate "\n" (streamLines (bytes .output)) ∧
        outcome.errors = String.intercalate "\n" (streamLines (bytes .errors))
      | .error f => tail = timeoutLine (bound.getD s.timeout) ∧ child.hangs = true ∧
        f = .problem (.buildTimeout (bound.getD s.timeout)) := by
  have hgoing : (s.watched h.clock (arrange child)).failure = none :=
    Watch.failure_run haccepts (hmixed.broke_not_mem hprints) _
  obtain ⟨hcollected, lines, hlines, hlogged, hnotices⟩ := exists_lines_watched hprints hmixed hgoing
  rcases hrun : s.supervise arrange command bound host with ⟨r, h'⟩
  obtain ⟨last, -, -, -, hcases⟩ := cases_of_supervise hlaunch hrun
  cases r with
  | error f => exact absurd hlog hcases.1
  | ok supervised =>
    obtain ⟨arguments, text, fate, harguments, hending, hlogs, -⟩ := hcases
    cases hending with
    | late hnotime => exact absurd hnotime hbound
    | stopped _ hstopped => cases hgoing.symm.trans hstopped
    | expired _ _ hhangs hbeats =>
      refine ⟨_, h', arguments, lines, _, rfl, harguments, ?_, hlines, fun hattentive => ?_,
        isDiagnostic_iff, rfl, hhangs, rfl⟩
      · rw [String.append_assoc]
        exact hlogged ▸ hlogs
      · rw [diagnostics_append, hbeats, List.append_nil]
        exact hnotices hattentive
    | exited elapsed _ _ hends =>
      refine ⟨_, h', arguments, lines, "", rfl, harguments, ?_, hlines, hnotices,
        isDiagnostic_iff, rfl, ?_, ?_⟩
      · rw [String.append_empty]
        exact hlogged ▸ hlogs
      · exact congrArg (String.intercalate "\n") (hcollected .output)
      · exact congrArg (String.intercalate "\n") (hcollected .errors)

theorem exists_merge_torn : ∃ (supervised : Supervised) (h' : Host) (lines : List (Channel × String)),
    patientSupervisor.supervise tornEvents makeCommand none (hostOf tornChild) =
        (.ok supervised, h') ∧
      (∀ channel, linesOn channel lines = streamLines (tornBytes channel)) ∧
      diagnostics supervised.notices = (lines.map Prod.snd).filter isDiagnostic := by
  have hlaunch : patientSupervisor.launch makeCommand (hostOf tornChild) =
      (.ok (0.0, tornChild), (patientSupervisor.launch makeCommand (hostOf tornChild)).2) := Prod.ext rfl rfl
  have hlog : patientSupervisor.CanLog makeCommand (patientSupervisor.launch makeCommand (hostOf tornChild)).2.files :=
    ⟨⟨["build.log"], rfl, by decide⟩, ["make"], rfl⟩
  have hbound : ¬(none : Option Float).getD patientSupervisor.timeout ≤ 0.0 := by decide +kernel
  obtain ⟨supervised, h', -, lines, -, hrun, -, -, hlines, hnotices, -⟩ :=
    exists_merge hlaunch prints_tornChild interleaves_tornEvents hlog hbound fun _ => rfl
  exact ⟨supervised, h', lines, hrun, hlines, hnotices rfl⟩

/-! ## Fates -/

end Launch

end Supervisor

end Stopwatch
