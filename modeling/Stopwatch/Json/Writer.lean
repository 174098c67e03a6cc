/-
  Writing a JSON document.

  Two dialects are written.  Records and events are in ASCII: every other
  character is escaped, as a pair of units when it lies beyond the first plane.
  Result documents keep characters as they are and write `null` for numbers that
  are not finite.  Each can be written on one line or with an indentation of two.
-/
import Stopwatch.Json.Basic
import Stopwatch.Number.Format

namespace Stopwatch.Json

/-- How a document is written. -/
structure Style where
  /-- Escape everything outside printable ASCII. -/
  ascii : Bool
  /-- One item a line, two blanks deeper at every level. -/
  indented : Bool
  /-- The text between items on one line. -/
  comma : String
  /-- The text between a name and its value. -/
  colon : String
  /-- Write the members of an object in the order of their names. -/
  sorted : Bool
  /-- How numbers are written. -/
  float : Float → String

/-- Shortest decimals, with names for numbers that are not finite. -/
def recordFloat (x : Float) : String :=
  Number.formatShortest Number.recordStyle x

/-- Shortest decimals, with `null` for numbers that are not finite. -/
def documentFloat (x : Float) : String :=
  if x.isFinite then Number.formatShortest Number.documentStyle x else "null"

/-- One line of a log of events. -/
def eventStyle : Style := ⟨true, false, ", ", ": ", false, recordFloat⟩

/-- The file of collected records. -/
def recordFileStyle : Style := ⟨true, true, ",", ": ", true, recordFloat⟩

/-- A result document on one line. -/
def compactStyle : Style := ⟨false, false, ",", ":", false, documentFloat⟩

/-- A result document with one item a line. -/
def prettyStyle : Style := ⟨false, true, ",", ": ", false, documentFloat⟩

/-- Four hexadecimal digits. -/
def hexUnit (n : Nat) : List Char :=
  [n / 0x1000 % 16, n / 0x100 % 16, n / 0x10 % 16, n % 16].map Nat.digitChar

/-- One UTF-16 unit as an escape. -/
def escapeUnit (n : Nat) : List Char :=
  '\\' :: 'u' :: hexUnit n

/-- A character inside a string. -/
def escapeChar (ascii : Bool) (c : Char) : List Char :=
  if c = '"' then ['\\', '"']
  else if c = '\\' then ['\\', '\\']
  else if c = '\n' then ['\\', 'n']
  else if c = '\r' then ['\\', 'r']
  else if c = '\t' then ['\\', 't']
  else if c = '\x08' then ['\\', 'b']
  else if c = '\x0c' then ['\\', 'f']
  else if c.toNat < 0x20 then escapeUnit c.toNat
  else if ascii && c.toNat ≥ 0x7F then
    if c.toNat < 0x10000 then escapeUnit c.toNat
    else
      let n := c.toNat - 0x10000
      escapeUnit (0xD800 + n / 0x400) ++ escapeUnit (0xDC00 + n % 0x400)
  else [c]

/-- A string in quotes. -/
def quote (ascii : Bool) (s : String) : List Char :=
  '"' :: s.toList.flatMap (escapeChar ascii) ++ ['"']

/-- A line break and the blanks that start a line at a given depth. -/
def breakLine (depth : Nat) : List Char :=
  '\n' :: List.replicate (2 * depth) ' '

/-- Written items between two brackets. -/
def bracket (style : Style) (depth : Nat) (opening closing : Char) (items : List (List Char)) : List Char :=
  if items = [] then [opening, closing]
  else if style.indented then
    opening :: breakLine (depth + 1) ++
      (items.intersperse (style.comma.toList ++ breakLine (depth + 1))).flatten ++
      breakLine depth ++ [closing]
  else opening :: (items.intersperse style.comma.toList).flatten ++ [closing]

/-- Puts a field among fields in the ascending order of their names, before the first
greater one. -/
def insertByName (field : String × α) : List (String × α) → List (String × α)
  | [] => [field]
  | other :: rest => if field.1 < other.1 then field :: other :: rest else other :: insertByName field rest

/-- Fields in the order that a style writes them in. -/
def Style.arrange (style : Style) (fields : List (String × α)) : List (String × α) :=
  if style.sorted then fields.foldl (fun sorted f => insertByName f sorted) [] else fields

mutual

/-- A document that starts at a given depth of brackets. -/
def renderAt (style : Style) (depth : Nat) : Json → List Char
  | .null => "null".toList
  | .bool b => (if b then "true" else "false").toList
  | .integer n => (toString n).toList
  | .float x => (style.float x).toList
  | .string s => quote style.ascii s
  | .array items => bracket style depth '[' ']' (renderItems style (depth + 1) items)
  | .object fields => bracket style depth '\x7b' '\x7d'
    ((style.arrange (renderFields style (depth + 1) fields)).map Prod.snd)

/-- The items of an array. -/
def renderItems (style : Style) (depth : Nat) : List Json → List (List Char)
  | [] => []
  | item :: items => renderAt style depth item :: renderItems style depth items

/-- The fields of an object, each under its name. -/
def renderFields (style : Style) (depth : Nat) : List (String × Json) → List (String × List Char)
  | [] => []
  | (name, value) :: fields =>
    (name, quote style.ascii name ++ style.colon.toList ++ renderAt style depth value) ::
      renderFields style depth fields

end

/-- A document as text. -/
def render (style : Style) (document : Json) : String :=
  String.ofList (renderAt style 0 document)

end Stopwatch.Json
