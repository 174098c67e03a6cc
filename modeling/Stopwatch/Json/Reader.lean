/-
  Reading a JSON document.

  The grammar is the standard one, without exceptions for comments, single quotes
  or commas at the end, and with three names more for numbers that are not finite.
  A text that holds anything after its document is refused, and so is one with
  more than two hundred open brackets or with an integer of more than 4300 digits.
-/
import Stopwatch.Json.Basic
import Stopwatch.Number.Read
import Stopwatch.Text.Search
import Stopwatch.Text.Utf8

namespace Stopwatch.Json

/-- The four characters that may stand between tokens. -/
def isSpace (c : Char) : Bool :=
  c = ' ' || c = '\t' || c = '\n' || c = '\r'

/-- Drops the space at the start. -/
def skipSpace (cs : List Char) : List Char :=
  cs.dropWhile isSpace

/-- The value of a hexadecimal digit. -/
def hexDigit? (c : Char) : Option Nat :=
  if '0' ≤ c && c ≤ '9' then some (c.toNat - '0'.toNat)
  else if 'a' ≤ c && c ≤ 'f' then some (c.toNat - 'a'.toNat + 10)
  else if 'A' ≤ c && c ≤ 'F' then some (c.toNat - 'A'.toNat + 10)
  else none

/-- The value of four hexadecimal digits. -/
def hexUnit? (a b c d : Char) : Option Nat := do
  pure ((((← hexDigit? a) * 16 + (← hexDigit? b)) * 16 + (← hexDigit? c)) * 16 + (← hexDigit? d))

/-- The character named by the letter after a backslash. -/
def shortEscape? : Char → Option Char
  | '"' => some '"'
  | '\\' => some '\\'
  | '/' => some '/'
  | 'b' => some '\x08'
  | 'f' => some '\x0c'
  | 'n' => some '\n'
  | 'r' => some '\r'
  | 't' => some '\t'
  | _ => none

/-- The characters of a string up to its closing quote, and what follows it.  A
half of a surrogate pair that stands alone is refused. -/
def readString? : List Char → Option (List Char × List Char)
  | [] => none
  | '"' :: rest => some ([], rest)
  | '\\' :: 'u' :: a :: b :: c :: d :: '\\' :: 'u' :: e :: f :: g :: h :: rest =>
    match hexUnit? a b c d, hexUnit? e f g h with
    | some high, some low =>
      if 0xD800 ≤ high && high < 0xDC00 then
        if 0xDC00 ≤ low && low < 0xE000 then
          (readString? rest).map fun (cs, after) =>
            (Char.ofNat (0x10000 + (high - 0xD800) * 0x400 + (low - 0xDC00)) :: cs, after)
        else none
      else if 0xDC00 ≤ high && high < 0xE000 then none
      else
        (readString? ('\\' :: 'u' :: e :: f :: g :: h :: rest)).map fun (cs, after) =>
          (Char.ofNat high :: cs, after)
    | _, _ => none
  | '\\' :: 'u' :: a :: b :: c :: d :: rest =>
    match hexUnit? a b c d with
    | some unit =>
      if 0xD800 ≤ unit && unit < 0xE000 then none
      else (readString? rest).map fun (cs, after) => (Char.ofNat unit :: cs, after)
    | none => none
  | '\\' :: letter :: rest =>
    match shortEscape? letter with
    | some c => (readString? rest).map fun (cs, after) => (c :: cs, after)
    | none => none
  | ['\\'] => none
  | c :: rest =>
    if c.toNat < 0x20 then none
    else (readString? rest).map fun (cs, after) => (c :: cs, after)
termination_by cs => cs.length

/-- The most digits an integer may have. -/
def maxIntegerDigits : Nat := 4300

/-- The digits of a number before its point: `0`, or digits that start with another. -/
def readWhole? (cs : List Char) : Option (List Char × List Char) :=
  match Number.spanDigits cs with
  | ([], _) => none
  | ('0' :: _ :: _, _) => none
  | found => some found

/-- An optional part of a number that starts with one of `marks` and needs digits. -/
def readPart? (marks : List Char) (signAllowed : Bool) (cs : List Char) :
    Option (Option (Bool × List Char) × List Char) :=
  match cs with
  | [] => some (none, [])
  | mark :: rest =>
    if marks.contains mark then
      let (negative, body) := if signAllowed then Number.takeSign rest else (false, rest)
      match Number.spanDigits body with
      | ([], _) => none
      | (ds, after) => some (some (negative, ds), after)
    else some (none, cs)

/-- An optional minus sign at the start, and what follows it. -/
def takeMinus : List Char → Bool × List Char
  | '-' :: rest => (true, rest)
  | rest => (false, rest)

/-- A number, and what follows it. -/
def readNumber? (cs : List Char) : Option (Json × List Char) := do
  let (negative, body) := takeMinus cs
  let (whole, rest) ← readWhole? body
  let (fraction, rest) ← readPart? ['.'] false rest
  let (exponent, rest) ← readPart? ['e', 'E'] true rest
  match fraction, exponent with
  | none, none =>
    if whole.length > maxIntegerDigits then none
    let n := Number.ofDigits whole
    pure (.integer (if negative then -(n : Int) else n), rest)
  | _, _ =>
    let places := (fraction.map Prod.snd).getD []
    let shift : Int := match exponent with
      | none => 0
      | some (down, ds) => if down then -(Number.ofDigits ds : Int) else Number.ofDigits ds
    let x := Number.nearest (Number.ofDigits (whole ++ places)) (shift - places.length)
    pure (.float (if negative then -x else x), rest)

/-- The documents that are written as a word. -/
def words : List (List Char × Json) :=
  [("null".toList, .null), ("true".toList, .bool true), ("false".toList, .bool false),
   ("NaN".toList, .float (0.0 / 0.0)), ("Infinity".toList, .float (1.0 / 0.0)),
   ("-Infinity".toList, .float (-1.0 / 0.0))]

/-- A document written as a word, and what follows it. -/
def readWord? (cs : List Char) : Option (Json × List Char) :=
  words.findSome? fun (word, document) => (Text.afterPrefix? word cs).map fun rest => (document, rest)

/-- The most brackets that may be open at once. -/
def maxDepth : Nat := 200

mutual

/-- A document at the start of a text, and what follows it.  `fuel` bounds the
number of steps and `room` the number of brackets that may still be opened. -/
def readValue? : Nat → Nat → List Char → Option (Json × List Char)
  | 0, _, _ => none
  | fuel + 1, room, cs =>
    match cs with
    | '"' :: rest => (readString? rest).map fun (s, after) => (.string (String.ofList s), after)
    | '[' :: rest =>
      match room with
      | 0 => none
      | room + 1 =>
        match skipSpace rest with
        | ']' :: after => some (.array [], after)
        | first => (readItems? fuel room first).map fun (items, after) => (.array items, after)
    | '{' :: rest =>
      match room with
      | 0 => none
      | room + 1 =>
        match skipSpace rest with
        | '}' :: after => some (.object [], after)
        | first => (readFields? fuel room first).map fun (fields, after) => (.object fields, after)
    | _ => (readWord? cs).orElse fun _ => readNumber? cs

/-- The items of an array that has at least one, up to its closing bracket. -/
def readItems? : Nat → Nat → List Char → Option (List Json × List Char)
  | 0, _, _ => none
  | fuel + 1, room, cs =>
    match readValue? fuel room (skipSpace cs) with
    | none => none
    | some (item, rest) =>
      match skipSpace rest with
      | ']' :: after => some ([item], after)
      | ',' :: more => (readItems? fuel room more).map fun (items, after) => (item :: items, after)
      | _ => none

/-- The fields of an object that has at least one, up to its closing bracket. -/
def readFields? : Nat → Nat → List Char → Option (List (String × Json) × List Char)
  | 0, _, _ => none
  | fuel + 1, room, cs =>
    match skipSpace cs with
    | '"' :: rest =>
      match readString? rest with
      | none => none
      | some (name, afterName) =>
        match skipSpace afterName with
        | ':' :: afterColon =>
          match readValue? fuel room (skipSpace afterColon) with
          | none => none
          | some (value, afterValue) =>
            match skipSpace afterValue with
            | '}' :: after => some ([(String.ofList name, value)], after)
            | ',' :: more =>
              (readFields? fuel room more).map fun (fields, after) =>
                ((String.ofList name, value) :: fields, after)
            | _ => none
        | _ => none
    | _ => none

end

/-- The document that a text holds, if it holds exactly one. -/
def read? (cs : List Char) : Option Json :=
  match readValue? (2 * cs.length + 2) maxDepth (skipSpace cs) with
  | some (document, rest) => if skipSpace rest = [] then some document else none
  | none => none

/-- The document in a byte sequence, which must be UTF-8. -/
def readBytes? (bytes : List UInt8) : Option Json :=
  match Text.Utf8.decode bytes with
  | .ok cs => read? cs
  | .error _ => none

end Stopwatch.Json
