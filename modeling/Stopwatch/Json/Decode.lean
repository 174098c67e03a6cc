/-
  Taking values out of a document.

  Values are taken leniently: a number may be written as a text, an integer as a
  number without fraction, and truth values count as one and zero.  What does not fit
  is an issue at a place in the document; all issues are collected, in the order in
  which the fields are declared.
-/
import Stopwatch.Json.Reader
import Stopwatch.Number.Binary
import Stopwatch.Timestamp

namespace Stopwatch.Json

/-- What can be wrong with a value. -/
inductive IssueKind where
  | missing
  | invalidDocument
  | notRecord
  | notList
  | notText
  | notFloat
  | floatUnreadable
  | notInteger
  | integerUnreadable
  | integerTooLong
  | integerHasFraction
  | notFinite
  | tooSmall
  | notTimestamp
  | timestampUnreadable
  | timestampOutOfRange
  deriving DecidableEq, Repr, Inhabited

/-- The code that an issue is reported under. -/
def IssueKind.code : IssueKind → String
  | .missing => "missing"
  | .invalidDocument => "json_invalid"
  | .notRecord => "model_type"
  | .notList => "list_type"
  | .notText => "string_type"
  | .notFloat => "float_type"
  | .floatUnreadable => "float_parsing"
  | .notInteger => "int_type"
  | .integerUnreadable => "int_parsing"
  | .integerTooLong => "int_parsing_size"
  | .integerHasFraction => "int_from_float"
  | .notFinite => "finite_number"
  | .tooSmall => "greater_than_equal"
  | .notTimestamp => "datetime_type"
  | .timestampUnreadable => "datetime_from_date_parsing"
  | .timestampOutOfRange => "datetime_parsing"

/-- A step into a document. -/
inductive Step where
  | field (name : String)
  | item (index : Nat)
  deriving DecidableEq, Repr, Inhabited

/-- Something that is wrong, and where. -/
structure Issue where
  kind : IssueKind
  place : List Step
  deriving DecidableEq, Repr, Inhabited

/-- A value, or all that is wrong with it. -/
abbrev Decoded (α : Type) := Except (List Issue) α

/-- A way to take a value out of a document. -/
abbrev Decoder (α : Type) := Json → Decoded α

namespace Decoded

/-- A single issue with the value itself. -/
def fail (kind : IssueKind) : Decoded α :=
  .error [⟨kind, []⟩]

/-- A value that stands one step deeper. -/
def within (step : Step) (d : Decoded α) : Decoded α :=
  d.mapError fun issues => issues.map fun i => { i with place := step :: i.place }

/-- Both values, or the issues of both. -/
def both : Decoded α → Decoded β → Decoded (α × β)
  | .ok a, .ok b => .ok (a, b)
  | .ok _, .error issues => .error issues
  | .error issues, .ok _ => .error issues
  | .error a, .error b => .error (a ++ b)

/-- All items from a given place on, or the issues of all. -/
def items (decode : Decoder α) (index : Nat) : List Json → Decoded (List α)
  | [] => .ok []
  | item :: rest =>
    (both ((decode item).within (.item index)) (items decode (index + 1) rest)).map fun (a, as) => a :: as

end Decoded

open Decoded

/-! ## Plain values -/

/-- A text. -/
def decodeText : Decoder String
  | .string s => .ok s
  | _ => fail .notText

/-- A number in a text: underscores may stand between digits, and the names of
infinity and of no number are allowed. -/
def floatOfText? (cs : List Char) : Option Float :=
  let body := Text.trimWhile Text.isWhiteSpace cs
  (Number.readSigned? body).or ((Number.joinDigits? body).bind Number.readSigned?)

/-- The number nearest to an integer. -/
def floatOfInt (n : Int) : Float :=
  let x := Number.nearest n.natAbs 0
  if n < 0 then -x else x

/-- A floating-point number. -/
def decodeFloat : Decoder Float
  | .float x => .ok x
  | .integer n => .ok (floatOfInt n)
  | .bool b => .ok (if b then 1.0 else 0.0)
  | .string s =>
    match floatOfText? s.toList with
    | some x => .ok x
    | none => fail .floatUnreadable
  | _ => fail .notFloat

/-- Drops a point with nothing but zeros behind it. -/
def dropZeroFraction (cs : List Char) : List Char :=
  let (whole, rest) := cs.span (· ≠ '.')
  match rest with
  | _ :: zeros => if zeros.all (· = '0') then whole else cs
  | [] => cs

/-- An integer in a text. -/
def integerOfText? (cs : List Char) : Option Int := do
  let (negative, body) := Number.takeSign cs
  let joined ← Number.joinDigits? (dropZeroFraction body)
  if joined = [] || !joined.all Char.isDigit then none
  let n : Int := Number.ofDigits joined
  pure (if negative then -n else n)

/-- The integer that a finite number without fraction is equal to. -/
def integerOfFloat? (x : Float) : Option Int :=
  match Number.classify x with
  | .finite negative v =>
    let (num, den) := v.scaled 0
    if num % den = 0 then
      let n : Int := num / den
      some (if negative then -n else n)
    else none
  | _ => none

/-- The integers that a number may be taken for have sixty-four bits. -/
def isMachineSized (n : Int) : Bool :=
  -9223372036854775808 ≤ n && n < 9223372036854775808

/-- An integer. -/
def decodeInteger : Decoder Int
  | .integer n => .ok n
  | .bool b => .ok (if b then 1 else 0)
  | .float x =>
    if x.isFinite then
      match integerOfFloat? x with
      | some n => if isMachineSized n then .ok n else fail .integerTooLong
      | none => fail .integerHasFraction
    else fail .notFinite
  | .string s =>
    let body := Text.trimWhile Text.isWhiteSpace s.toList
    if body.length > maxIntegerDigits then fail .integerTooLong
    else
      match integerOfText? body with
      | some n => .ok n
      | none => fail .integerUnreadable
  | _ => fail .notInteger

/-- A timestamp. -/
def decodeTimestamp : Decoder Timestamp
  | .string s =>
    match Timestamp.ofText? s with
    | some t => .ok t
    | none => fail .timestampUnreadable
  | .integer n =>
    match Timestamp.ofCount? n 0 with
    | some t => .ok t
    | none => fail .timestampOutOfRange
  | .float x =>
    match Timestamp.ofFloat? x with
    | some t => .ok t
    | none => fail .timestampOutOfRange
  | _ => fail .notTimestamp

/-- Nothing, or a value. -/
def decodeOptional (decode : Decoder α) : Decoder (Option α)
  | .null => .ok none
  | document => (decode document).map some

/-- A list. -/
def decodeList (decode : Decoder α) : Decoder (List α)
  | .array list => items decode 0 list
  | _ => fail .notList

/-! ## Fields -/

/-- The fields of a record. -/
def decodeFields (decode : List (String × Json) → Decoded α) : Decoder α
  | .object fields => decode fields
  | _ => fail .notRecord

/-- A field that is known under two names, of which the first one counts more.  A
field that is absent has the value `absent`, if there is one, and else is missing
under its first name. -/
def field (name other : String) (absent : Option α) (decode : Decoder α) (fields : List (String × Json)) :
    Decoded α :=
  match lookup? fields name, lookup? fields other, absent with
  | some value, _, _ => (decode value).within (.field name)
  | none, some value, _ => (decode value).within (.field other)
  | none, none, some value => .ok value
  | none, none, none => (fail .missing).within (.field name)

end Stopwatch.Json
