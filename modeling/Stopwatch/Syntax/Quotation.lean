/-
  Reading strings.

  A string ends at the first quote like its own that no backslash hides.  A string
  in single quotes ends on its line.  The literal text of a formatted string ends
  also at a brace, where a replacement field starts or ends; a doubled brace is
  text.
-/
import Stopwatch.Syntax.Layout
import Stopwatch.Text.Search

namespace Stopwatch.Syntax

/-- A quote: one character, or the same character three times. -/
structure Quote where
  mark : Char
  triple : Bool
  deriving DecidableEq, Repr, Inhabited

/-- The characters of a quote. -/
def Quote.chars (q : Quote) : List Char :=
  if q.triple then [q.mark, q.mark, q.mark] else [q.mark]

/-- The quote at the start of a text, and what follows it. -/
def quote? : List Char → Option (Quote × List Char)
  | '"' :: '"' :: '"' :: rest => some (⟨'"', true⟩, rest)
  | '\'' :: '\'' :: '\'' :: rest => some (⟨'\'', true⟩, rest)
  | '"' :: rest => some (⟨'"', false⟩, rest)
  | '\'' :: rest => some (⟨'\'', false⟩, rest)
  | _ => none

/-- Whether a character breaks a line. -/
def isBreak (c : Char) : Bool :=
  c = '\n' || c = '\r'

/-- The text of a string up to and with its closing quote, and what follows it. -/
def stringBody? (q : Quote) : List Char → Option (List Char × List Char)
  | [] => none
  | '\\' :: '\r' :: '\n' :: rest =>
    (stringBody? q rest).map fun (body, after) => ('\\' :: '\r' :: '\n' :: body, after)
  | '\\' :: c :: rest => (stringBody? q rest).map fun (body, after) => ('\\' :: c :: body, after)
  | c :: rest =>
    match Text.afterPrefix? q.chars (c :: rest) with
    | some after => some (q.chars, after)
    | none =>
      if isBreak c && !q.triple then none
      else (stringBody? q rest).map fun (body, after) => (c :: body, after)

/-- Where the literal text of a formatted string stands. -/
structure FormatPlace where
  quote : Quote
  raw : Bool
  /-- Inside the format of a field. -/
  inSpec : Bool
  deriving DecidableEq, Repr, Inhabited

/-- The literal text of a formatted string up to a brace or the closing quote, and
what follows it.  `named` says that the name of a character is open. -/
def formatText? (place : FormatPlace) (named : Bool) : List Char → Option (List Char × List Char)
  | [] => none
  | '\x7b' :: '\x7b' :: rest =>
    if place.inSpec then some ([], '\x7b' :: '\x7b' :: rest)
    else (formatText? place named rest).map fun (text, after) => ('\x7b' :: '\x7b' :: text, after)
  | '\x7b' :: rest => some ([], '\x7b' :: rest)
  | '\x7d' :: rest =>
    if named then (formatText? place false rest).map fun (text, after) => ('\x7d' :: text, after)
    else if place.inSpec then some ([], '\x7d' :: rest)
    else
      match rest with
      | '\x7d' :: more =>
        (formatText? place false more).map fun (text, after) => ('\x7d' :: '\x7d' :: text, after)
      | _ => some ([], '\x7d' :: rest)
  | '\\' :: 'N' :: '\x7b' :: rest =>
    if place.raw || place.inSpec then
      (formatText? place named ('N' :: '\x7b' :: rest)).map fun (text, after) => ('\\' :: text, after)
    else (formatText? place true rest).map fun (text, after) => ('\\' :: 'N' :: '\x7b' :: text, after)
  | '\\' :: '\r' :: '\n' :: rest =>
    if place.raw then
      (formatText? place named ('\r' :: '\n' :: rest)).map fun (text, after) => ('\\' :: text, after)
    else (formatText? place named rest).map fun (text, after) => ('\\' :: '\r' :: '\n' :: text, after)
  | '\\' :: c :: rest =>
    if c = '\x7b' || c = '\x7d' || (place.raw && c ≠ '"' && c ≠ '\'') then
      (formatText? place named (c :: rest)).map fun (text, after) => ('\\' :: text, after)
    else (formatText? place named rest).map fun (text, after) => ('\\' :: c :: text, after)
  | c :: rest =>
    match Text.afterPrefix? place.quote.chars (c :: rest) with
    | some _ => some ([], c :: rest)
    | none =>
      if isBreak c && !place.quote.triple then none
      else (formatText? place named rest).map fun (text, after) => (c :: text, after)
termination_by cs => cs.length

/-- The marks that may stand in front of a quote, in lower case. -/
def stringMarks : List String :=
  ["u", "b", "r", "br", "rb", "f", "fr", "rf", "t", "tr", "rt"]

/-- Whether a mark makes a string a formatted one. -/
def isFormatMark (mark : List Char) : Bool :=
  mark.any fun c => c = 'f' || c = 't'

end Stopwatch.Syntax
