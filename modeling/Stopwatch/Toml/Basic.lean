/-
  TOML values.

  A table keeps its keys in the order in which they were set.  A value can be shown
  as text in two ways: plainly, and inside another value, where texts are quoted and
  dates are spelled out.
-/
import Stopwatch.Number.Format
import Stopwatch.Text.Quoted
import Stopwatch.Timestamp

namespace Stopwatch

/-- A TOML value. -/
inductive Toml where
  | text (value : String)
  | integer (value : Int)
  | float (value : Float)
  | bool (value : Bool)
  | date (year month day : Nat)
  | time (hour minute second microsecond : Nat)
  | moment (value : Timestamp)
  | array (items : List Toml)
  | table (fields : List (String × Toml))
  deriving Inhabited

namespace Toml

/-- The keys of a table and their values. -/
abbrev Table := List (String × Toml)

/-- The value of a key. -/
def get? (t : Table) (key : String) : Option Toml :=
  (t.find? fun field => field.1 = key).map Prod.snd

/-- Sets the value of a key, in its old place if it has one, else at the end. -/
def set (key : String) (value : Toml) : Table → Table
  | [] => [(key, value)]
  | field :: rest => if field.1 = key then (key, value) :: rest else field :: set key value rest

/-- Whether a value counts as something: empty texts, arrays and tables, zero and false
do not. -/
def isTruthy : Toml → Bool
  | .text s => s ≠ ""
  | .integer n => n ≠ 0
  | .float x => !(x == 0.0)
  | .bool b => b
  | .array items => !items.isEmpty
  | .table fields => !fields.isEmpty
  | _ => true

/-- The name of the type of a value. -/
def typeName : Toml → String
  | .text _ => "str"
  | .integer _ => "int"
  | .float _ => "float"
  | .bool _ => "bool"
  | .date .. => "datetime.date"
  | .time .. => "datetime.time"
  | .moment _ => "datetime.datetime"
  | .array _ => "list"
  | .table _ => "dict"

/-! ## Dates and times as text -/

/-- A fraction of a second, if there is one. -/
def fractionText (microsecond : Nat) : String :=
  if microsecond = 0 then "" else "." ++ Timestamp.padded 6 microsecond

/-- A time of day. -/
def timeText (hour minute second microsecond : Nat) : String :=
  Timestamp.padded 2 hour ++ ":" ++ Timestamp.padded 2 minute ++ ":" ++ Timestamp.padded 2 second ++
    fractionText microsecond

/-- The offset of a zone in hours and minutes. -/
def offsetText (minutes : Int) : String :=
  (if minutes < 0 then "-" else "+") ++ Timestamp.padded 2 (minutes.natAbs / 60) ++ ":" ++
    Timestamp.padded 2 (minutes.natAbs % 60)

/-- A day and a time of day. -/
def momentText (t : Timestamp) : String :=
  t.dayText ++ " " ++ timeText t.hour t.minute t.second t.microsecond ++ ((t.offset.map offsetText).getD "")

/-- Numbers between commas. -/
def listed (ns : List Nat) : String :=
  String.intercalate ", " (ns.map toString)

/-- What is said of a time below the minute: nothing, the second, or both parts. -/
def belowMinute (second microsecond : Nat) : List Nat :=
  if microsecond ≠ 0 then [second, microsecond] else if second ≠ 0 then [second] else []

/-- The offset of a zone, spelled out. -/
def zoneText (minutes : Int) : String :=
  if minutes = 0 then "datetime.timezone.utc"
  else
    let seconds := minutes * 60
    let span :=
      if seconds < 0 then "days=-1, seconds=" ++ toString (86400 + seconds) else "seconds=" ++ toString seconds
    "datetime.timezone(datetime.timedelta(" ++ span ++ "))"

/-- A day and a time of day, spelled out. -/
def spelledMoment (t : Timestamp) : String :=
  "datetime.datetime(" ++
    listed ([t.year, t.month, t.day, t.hour, t.minute] ++ belowMinute t.second t.microsecond) ++
    ((t.offset.map fun minutes => ", tzinfo=" ++ zoneText minutes).getD "") ++ ")"

/-! ## Values as text -/

/-- A truth value. -/
def boolText (b : Bool) : String :=
  if b then "True" else "False"

mutual

/-- A value inside another one. -/
def inner : Toml → String
  | .text s => Text.quoted s
  | .integer n => toString n
  | .float x => Number.plain x
  | .bool b => boolText b
  | .date year month day => "datetime.date(" ++ listed [year, month, day] ++ ")"
  | .time hour minute second microsecond =>
    "datetime.time(" ++ listed ([hour, minute] ++ belowMinute second microsecond) ++ ")"
  | .moment t => spelledMoment t
  | .array items => "[" ++ String.intercalate ", " (innerItems items) ++ "]"
  | .table fields => "\x7b" ++ String.intercalate ", " (innerFields fields) ++ "\x7d"

/-- The items of an array. -/
def innerItems : List Toml → List String
  | [] => []
  | item :: rest => inner item :: innerItems rest

/-- The fields of a table. -/
def innerFields : Table → List String
  | [] => []
  | (key, value) :: rest => (Text.quoted key ++ ": " ++ inner value) :: innerFields rest

end

/-- A value by itself. -/
def shown : Toml → String
  | .text s => s
  | .date year month day =>
    Timestamp.padded 4 year ++ "-" ++ Timestamp.padded 2 month ++ "-" ++ Timestamp.padded 2 day
  | .time hour minute second microsecond => timeText hour minute second microsecond
  | .moment t => momentText t
  | value => inner value

end Toml

end Stopwatch
