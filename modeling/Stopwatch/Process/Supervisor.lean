/-
  Supervised children.

  A child is started, its streams are watched and written to a log, and it must end
  within a bound.  If the bound is exceeded, or watching fails, the child is killed.
-/
import Stopwatch.Host
import Stopwatch.Process.Watch

namespace Stopwatch

/-- How children are supervised. -/
structure Supervisor where
  log : Path
  timeout : Float
  heartbeatInterval : Float
  progressInterval : Float
  listener : Listener

namespace Supervisor

/-- The events of one stream: it is opened, its pieces arrive, and it ends or breaks. -/
def eventsOf (channel : Channel) : Option (List Chunk) → List StreamEvent
  | none => []
  | some chunks => .opened channel :: arrivals chunks
where
  /-- The events after a stream has been opened. -/
  arrivals : List Chunk → List StreamEvent
    | [] => [.ended channel]
    | .bytes data :: rest => .arrived channel data :: arrivals rest
    | .failure text :: _ => [.broke channel text]

/-- Everything that happens to the streams of a child: output arrives first. -/
def events (child : Child) : List StreamEvent :=
  eventsOf .output child.output ++ eventsOf .errors child.errors

/-- The most heartbeats that are counted. -/
def maxHeartbeats : Nat := 1000

/-- How many heartbeats there are before a bound. -/
def heartbeats (interval bound : Float) : Nat → Nat
  | 0 => 0
  | n + 1 =>
    let before := heartbeats interval bound n
    if before = n && Float.ofNat (n + 1) * interval < bound then n + 1 else before

/-- The notices of a child that does not end before the bound. -/
def beat (s : Supervisor) (start : Float) : Nat → Action (List Notice)
  | 0 => pure []
  | n + 1 => do
    let now ← Action.readClock
    return .heartbeat (now - start) :: (← beat s start n)

/-- Arguments on one line.  All of them must be texts; `index` counts those before. -/
def joinArguments (index : Nat) : List Argument → Except Failure (List String)
  | [] => .ok []
  | .text s :: rest => (joinArguments (index + 1) rest).map (s :: ·)
  | .other v :: _ => .error (.value (.notText index v.typeName))

/-- Writes the command into the log. -/
def logCommand (s : Supervisor) (command : Command) : Action Unit := do
  Action.appendText s.log ""
  match joinArguments 0 command.arguments with
  | .ok texts => Action.appendText s.log ("$ " ++ String.intercalate " " texts ++ "\n")
  | .error f => Action.fail f

/-- What a supervised run comes to: what was noticed, and how it ended. -/
structure Supervised where
  notices : List Notice
  result : Except Failure Outcome

/-- Kills a child because of a failure. -/
def abort (f : Failure) : Action (Except Failure Outcome) := do
  Action.settle .killed
  return .error f

/-- Kills a child that has exceeded the bound. -/
def expire (s : Supervisor) (bound : Float) : Action (Except Failure Outcome) := do
  Action.settle .killed
  Action.appendText s.log ("Timed out after " ++ Number.formatGeneral bound ++ "s\n")
  return .error (.problem (.buildTimeout bound))

/-- Watches streams while their events come in. -/
def watch (s : Supervisor) (events : List StreamEvent) : Action Watch := do
  let clock ← Action.observe (·.clock)
  let watch := (Watch.start clock).run ⟨s.listener, s.progressInterval⟩ events
  modify fun host => { host with clock := watch.clock }
  Action.appendText s.log (String.join (watch.log.map (· ++ "\n")))
  return watch

/-- Makes room for the log and starts a child; also returns when that began. -/
def launch (s : Supervisor) (command : Command) : Action (Float × Child) := do
  let start ← Action.readClock
  Action.makeDirectories s.log.parent true
  return (start, ← Action.start command)

/-- Attends to a child that has been started until it has ended, or has been killed. -/
def attend (s : Supervisor) (events : List StreamEvent) (command : Command) (bound start : Float) (child : Child) :
    Action Supervised := do
  s.logCommand command
  if bound ≤ 0.0 then return ⟨[], ← s.expire bound⟩
  let watch ← s.watch events
  match watch.failure with
  | some f => return ⟨watch.notices, ← abort f⟩
  | none =>
    if child.hangs then
      let count := if s.listener.attentive then heartbeats s.heartbeatInterval bound maxHeartbeats else 0
      let beats ← s.beat start count
      return ⟨watch.notices ++ beats, ← s.expire bound⟩
    else
      Action.settle (.exited child.status)
      let now ← Action.readClock
      return ⟨watch.notices,
        .ok ⟨child.status, String.intercalate "\n" watch.output.lines, String.intercalate "\n" watch.errors.lines,
          now - start⟩⟩

/-- Starts a child and supervises it to its end.  The events of both its streams come in the
order that `arrange` gives them. -/
def supervise (s : Supervisor) (arrange : Child → List StreamEvent) (command : Command) (bound : Option Float) :
    Action Supervised := do
  let (start, child) ← s.launch command
  s.attend (arrange child) command (bound.getD s.timeout) start child

/-- Supervises a child whose output arrives first. -/
def run (s : Supervisor) (command : Command) (bound : Option Float) : Action Supervised :=
  s.supervise events command bound

end Supervisor

end Stopwatch
