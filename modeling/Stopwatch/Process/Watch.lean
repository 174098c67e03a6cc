/-
  Watching the streams of a child process.

  The bytes of each stream are cut into lines as they arrive.  A line is kept, goes
  into the log, and may be noticed: a diagnostic always, any other line of output if
  the last notice of progress is long enough ago.  What has been watched is a value,
  and every event leads from one such value to the next, so the two streams may be
  mixed in any way.
-/
import Stopwatch.Clock
import Stopwatch.Diagnostics
import Stopwatch.Failure

namespace Stopwatch

/-! ## Lines of bytes -/

/-- The lines that line feeds end, and the bytes behind the last of them. -/
def cutLines : List UInt8 → List (List UInt8) × List UInt8
  | [] => ([], [])
  | b :: bs =>
    let (complete, rest) := cutLines bs
    if b = 10 then ([] :: complete, rest)
    else
      match complete with
      | [] => ([], b :: rest)
      | line :: lines => ((b :: line) :: lines, rest)

/-- The text of a line, without carriage returns at its end. -/
def lineText (line : List UInt8) : String :=
  String.ofList (Text.dropEndWhile (· = '\r') (Text.Utf8.decodeLossy line))

/-! ## Events and notices -/

/-- The two streams of a child. -/
inductive Channel where
  | output
  | errors
  deriving DecidableEq, Repr, Inhabited

/-- What can happen to a stream. -/
inductive StreamEvent where
  | opened (channel : Channel)
  | arrived (channel : Channel) (data : List UInt8)
  | ended (channel : Channel)
  | broke (channel : Channel) (text : String)
  deriving DecidableEq, Repr, Inhabited

/-- What whoever listens is told. -/
inductive Notice where
  | diagnostic (line : String)
  | progress (text : String)
  | heartbeat (elapsed : Float)
  deriving Inhabited

/-- Who listens. -/
structure Listener where
  /-- Whether anybody listens at all. -/
  attentive : Bool
  /-- The problem that a diagnostic is answered with, if it is not accepted. -/
  objection : String → Option Problem

/-- A listener who accepts everything. -/
def Listener.patient : Listener :=
  ⟨true, fun _ => none⟩

/-! ## What has been watched -/

/-- One stream: the bytes of its unfinished line, and its lines. -/
structure Drain where
  pending : List UInt8
  lines : List String
  /-- When progress was noticed last, or else when the stream was opened. -/
  lastProgress : Float
  deriving Inhabited

/-- Both streams, the lines of the log, the notices, and what stopped the watch. -/
structure Watch where
  output : Drain
  errors : Drain
  log : List String
  notices : List Notice
  clock : Clock
  failure : Option Failure
  deriving Inhabited

/-- How a stream is watched. -/
structure WatchRules where
  listener : Listener
  /-- The time that must pass between two notices of progress. -/
  interval : Float

namespace Watch

/-- Nothing has been watched yet. -/
def start (clock : Clock) : Watch :=
  ⟨⟨[], [], 0.0⟩, ⟨[], [], 0.0⟩, [], [], clock, none⟩

/-- One of the streams. -/
def drain (w : Watch) : Channel → Drain
  | .output => w.output
  | .errors => w.errors

/-- Changes one of the streams. -/
def changeDrain (w : Watch) (change : Drain → Drain) : Channel → Watch
  | .output => { w with output := change w.output }
  | .errors => { w with errors := change w.errors }

/-- The most characters of a line that a notice of progress shows. -/
def progressLength : Nat := 60

/-- Keeps a line and writes it into the log. -/
def keep (w : Watch) (channel : Channel) (line : String) : Watch :=
  { w.changeDrain (fun d => { d with lines := d.lines ++ [line] }) channel with log := w.log ++ [line] }

/-- Notices a diagnostic. -/
def noticeDiagnostic (rules : WatchRules) (w : Watch) (line : String) : Watch :=
  if rules.listener.attentive then
    match rules.listener.objection line with
    | some problem => { w with failure := some (.problem problem) }
    | none => { w with notices := w.notices ++ [.diagnostic line] }
  else w

/-- Notices progress, unless the last notice is too recent. -/
def noticeProgress (rules : WatchRules) (w : Watch) (line : String) : Watch :=
  if rules.listener.attentive then
    let (now, clock) := w.clock.read
    if now - w.output.lastProgress > rules.interval then
      { w with
        clock
        output := { w.output with lastProgress := now }
        notices := w.notices ++ [.progress (String.ofList (line.toList.take progressLength))] }
    else { w with clock }
  else w

/-- One line of a stream; nothing happens any more once the watch has been stopped. -/
def emit (rules : WatchRules) (channel : Channel) (w : Watch) (raw : List UInt8) : Watch :=
  if w.failure.isSome then w
  else
    let line := lineText raw
    let w := w.keep channel line
    if isDiagnostic line then w.noticeDiagnostic rules line
    else
      match channel with
      | .output => w.noticeProgress rules line
      | .errors => w

/-- One event. -/
def see (rules : WatchRules) (w : Watch) : StreamEvent → Watch
  | .opened channel =>
    let (now, clock) := w.clock.read
    { w with clock }.changeDrain (fun d => { d with lastProgress := now }) channel
  | .arrived channel data =>
    let (complete, rest) := cutLines ((w.drain channel).pending ++ data)
    (complete.foldl (emit rules channel) w).changeDrain (fun d => { d with pending := rest }) channel
  | .ended channel =>
    let rest := (w.drain channel).pending
    if rest = [] then w
    else (emit rules channel w rest).changeDrain (fun d => { d with pending := [] }) channel
  | .broke _ text => if w.failure.isSome then w else { w with failure := some (.system (.unreadable text)) }

/-- Several events, one after the other. -/
def run (rules : WatchRules) (w : Watch) (events : List StreamEvent) : Watch :=
  events.foldl (see rules) w

end Watch

end Stopwatch
