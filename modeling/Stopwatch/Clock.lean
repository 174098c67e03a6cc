/-
  A clock.

  A clock is read again and again; what it will show is a list of readings, the last of
  which repeats.
-/

namespace Stopwatch

/-- Readings of a clock. -/
structure Clock where
  readings : List Float
  deriving Inhabited

/-- The next reading, and the clock after it. -/
def Clock.read (c : Clock) : Float × Clock :=
  match c.readings with
  | [] => (0.0, c)
  | [t] => (t, c)
  | t :: rest => (t, ⟨rest⟩)

end Stopwatch
