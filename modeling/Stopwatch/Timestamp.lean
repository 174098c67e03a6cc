/-
  Timestamps.

  A timestamp is a day, a time of day to the microsecond, and perhaps the offset of
  its zone.  It is written in the international format; `Z` stands for an offset of
  zero.  When it is read, seconds may be missing, digits beyond the sixth of a
  fraction are dropped, and a number counts seconds since 1970, or milliseconds if
  it is large.
-/
import Stopwatch.Number.Read

namespace Stopwatch

-- The powers of the core library are meant, whatever else is imported.
attribute [local instance (high)] instPowNat instNatPowNat

/-- A day and a time of day.  `offset` are the minutes that the zone is ahead. -/
structure Timestamp where
  year : Nat
  month : Nat
  day : Nat
  hour : Nat
  minute : Nat
  second : Nat
  microsecond : Nat
  offset : Option Int
  deriving DecidableEq, Repr, Inhabited

namespace Timestamp

/-! ## Days -/

/-- Whether a year has a leap day. -/
def isLeap (year : Nat) : Bool :=
  year % 4 = 0 && (year % 100 ≠ 0 || year % 400 = 0)

/-- The number of days in a month. -/
def daysIn (year month : Nat) : Nat :=
  match month with
  | 2 => if isLeap year then 29 else 28
  | 4 | 6 | 9 | 11 => 30
  | _ => 31

/-- The year, the month and the day that are some days after the first of March of
the year zero. -/
def ofDays (days : Nat) : Nat × Nat × Nat :=
  let era := days / 146097
  let dayOfEra := days % 146097
  let yearOfEra := (dayOfEra - dayOfEra / 1460 + dayOfEra / 36524 - dayOfEra / 146096) / 365
  let dayOfYear := dayOfEra - (365 * yearOfEra + yearOfEra / 4 - yearOfEra / 100)
  let shifted := (5 * dayOfYear + 2) / 153
  let day := dayOfYear - (153 * shifted + 2) / 5 + 1
  let month := if shifted < 10 then shifted + 3 else shifted - 9
  (yearOfEra + era * 400 + (if month ≤ 2 then 1 else 0), month, day)

/-- The number of days from the first of March of the year zero to the start of 1970. -/
def epochDays : Nat := 719468

/-- The microseconds of a day. -/
def dayLength : Nat := 86400000000

/-- The timestamp some microseconds after the start of 1970, if its year is one to
9999. -/
def ofEpoch? (microseconds : Int) : Option Timestamp :=
  let total := microseconds + epochDays * dayLength
  if total < 0 then none
  else
    let (year, month, day) := ofDays (total.toNat / dayLength)
    let rest := total.toNat % dayLength
    if year = 0 || year > 9999 then none
    else
      let seconds := rest / 1000000
      some ⟨year, month, day, seconds / 3600, seconds / 60 % 60, seconds % 60, rest % 1000000, some 0⟩

/-- Above this number a count is in milliseconds. -/
def watershed : Nat := 20000000000

/-- The timestamp that a count stands for; the fraction is given in millionths. -/
def ofCount? (whole : Int) (millionths : Nat) : Option Timestamp :=
  if whole.natAbs > watershed then ofEpoch? (whole * 1000 + millionths / 1000)
  else ofEpoch? (whole * 1000000 + millionths)

/-! ## Writing -/

/-- A number with zeros in front up to a given width. -/
def padded (width n : Nat) : String :=
  let ds := toString n
  String.ofList (List.replicate (width - ds.length) '0') ++ ds

/-- The offset of a zone as text. -/
def offsetText (minutes : Int) : String :=
  if minutes = 0 then "Z"
  else
    (if minutes < 0 then "-" else "+") ++ padded 2 (minutes.natAbs / 60) ++ ":" ++ padded 2 (minutes.natAbs % 60)

/-- The day of a timestamp as text. -/
def dayText (t : Timestamp) : String :=
  padded 4 t.year ++ "-" ++ padded 2 t.month ++ "-" ++ padded 2 t.day

/-- A timestamp as text. -/
def text (t : Timestamp) : String :=
  t.dayText ++ "T" ++
    padded 2 t.hour ++ ":" ++ padded 2 t.minute ++ ":" ++ padded 2 t.second ++
    (if t.microsecond = 0 then "" else "." ++ padded 6 t.microsecond) ++
    (t.offset.map offsetText).getD ""

/-! ## Reading -/

/-- Exactly `count` digits, and what follows them. -/
def digits? (count : Nat) (cs : List Char) : Option (Nat × List Char) :=
  let ds := cs.take count
  if ds.length = count && ds.all Char.isDigit then some (Number.ofDigits ds, cs.drop count) else none

/-- A given character, and what follows it. -/
def after? (accepts : Char → Bool) : List Char → Option (List Char)
  | c :: rest => if accepts c then some rest else none
  | [] => none

/-- A year, a month and a day. -/
def date? (cs : List Char) : Option ((Nat × Nat × Nat) × List Char) := do
  let (year, rest) ← digits? 4 cs
  let rest ← after? (· = '-') rest
  let (month, rest) ← digits? 2 rest
  let rest ← after? (· = '-') rest
  let (day, rest) ← digits? 2 rest
  if year = 0 || month = 0 || month > 12 || day = 0 || day > daysIn year month then none
  pure ((year, month, day), rest)

/-- The fraction of a second in microseconds. -/
def fraction? : List Char → Option (Nat × List Char)
  | '.' :: rest =>
    let (ds, after) := Number.spanDigits rest
    if ds = [] then none
    else
      let kept := ds.take 6
      some (Number.ofDigits kept * 10 ^ (6 - kept.length), after)
  | rest => some (0, rest)

/-- The offset of a zone up to the end of the text. -/
def zone? : List Char → Option (Option Int)
  | [] => some none
  | ['Z'] | ['z'] => some (some 0)
  | sign :: rest => do
    if sign ≠ '+' && sign ≠ '-' && sign ≠ '\u2212' then none
    let (hours, rest) ← digits? 2 rest
    let rest := match rest with
      | ':' :: more => more
      | _ => rest
    let (minutes, rest) ← digits? 2 rest
    if rest ≠ [] || minutes > 59 || hours > 23 then none
    let total : Int := hours * 60 + minutes
    pure (some (if sign = '+' then total else -total))

/-- A day, a separator and a time of day. -/
def readFull? (cs : List Char) : Option Timestamp := do
  let ((year, month, day), rest) ← date? cs
  let rest ← after? (fun c => c = 'T' || c = 't' || c = ' ' || c = '_') rest
  let (hour, rest) ← digits? 2 rest
  let rest ← after? (· = ':') rest
  let (minute, rest) ← digits? 2 rest
  let (second, microsecond, rest) ← match rest with
    | ':' :: more => do
      let (second, more) ← digits? 2 more
      let (microsecond, more) ← fraction? more
      pure (second, microsecond, more)
    | _ => pure (0, 0, rest)
  if hour > 23 || minute > 59 || second > 59 then none
  pure ⟨year, month, day, hour, minute, second, microsecond, ← zone? rest⟩

/-- A count of seconds or milliseconds, perhaps with a fraction. -/
def readCount? (cs : List Char) : Option Timestamp := do
  let (negative, body) := Number.takeSign cs
  let (whole, rest) := Number.spanDigits body
  let (millionths, rest) ← fraction? rest
  if whole = [] || rest ≠ [] then none
  let n : Int := Number.ofDigits whole
  if negative then
    if millionths = 0 then ofCount? (-n) 0 else ofCount? (-n - 1) (1000000 - millionths)
  else ofCount? n millionths

/-- A day alone, which starts at midnight. -/
def readDay? (cs : List Char) : Option Timestamp := do
  match ← date? cs with
  | ((year, month, day), []) => pure ⟨year, month, day, 0, 0, 0, 0, none⟩
  | _ => none

/-- The timestamp that a text stands for. -/
def ofText? (text : String) : Option Timestamp :=
  let cs := text.toList
  (readFull? cs).or ((readCount? cs).or (readDay? cs))

/-- The timestamp that a floating-point count stands for. -/
def ofFloat? (x : Float) : Option Timestamp :=
  if x.isFinite then
    let whole := x.floor
    let millionths := ((x - whole) * 1000000.0).round
    let n : Int := if whole < 0.0 then -((-whole).toUInt64.toNat : Int) else whole.toUInt64.toNat
    if whole.abs > 1e17 then none else ofCount? n millionths.toUInt64.toNat
  else none

end Timestamp

end Stopwatch
