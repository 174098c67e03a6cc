/-
  Console markup.

  Text for a console may hold tags in brackets that open and close a style, and short
  names of pictographs between colons.  A backslash takes its meaning from a tag, so a
  text is shown as it is once its tags are escaped; names of pictographs are replaced
  even then.  Control characters that would move the cursor are never shown.
-/
import Stopwatch.Text.Blank
import Stopwatch.Text.Search
import Stopwatch.Console.Pictograph

namespace Stopwatch.Console

open Text (isBlank strip dropEndWhile)

/-! ## Pictographs -/

/-- A name between colons, and the selector that it asks for. -/
def selectorOf (name : List Char) : List Char × List Char :=
  if Text.endsWith name "-emoji".toList then (name.take (name.length - 6), ['\ufe0f'])
  else if Text.endsWith name "-text".toList then (name.take (name.length - 5), ['\ufe0e'])
  else (name, [])

/-- What is shown for a name between colons; an unknown name stays as it is. -/
def namedPictograph (name : List Char) : List Char :=
  let (base, selector) := selectorOf name
  match pictograph? (base.map Char.toLower) with
  | some chars => chars ++ selector
  | none => ':' :: name ++ [':']

/-- The parts of a text after each of its colons, put together again with pictographs in
place of their names.  A name has no blanks, and a colon belongs to one name only. -/
def replaceNames : List (List Char) → List Char
  | [] => []
  | [last] => ':' :: last
  | name :: after :: rest =>
    if name.any isBlank then ':' :: name ++ replaceNames (after :: rest)
    else namedPictograph name ++ after ++ replaceNames rest

/-- A text with pictographs in place of their names. -/
def withPictographs (cs : List Char) : List Char :=
  match cs.splitOn ':' with
  | [] => []
  | first :: rest => first ++ replaceNames rest

/-! ## Tags -/

/-- Whether a character may follow the bracket of a tag. -/
def startsTag (c : Char) : Bool :=
  ('a' ≤ c && c ≤ 'z') || c = '#' || c = '/' || c = '@'

/-- The inside of a tag and what follows it, out of the text after an opening bracket. -/
def tagInside? (cs : List Char) : Option (List Char × List Char) :=
  match cs with
  | [] => none
  | c :: _ => if startsTag c && cs.contains ']' then Text.cut? [']'] cs else none

/-- A piece of marked-up text. -/
inductive Piece where
  | plain (text : List Char)
  /-- A tag, and the number of backslashes in front of it. -/
  | tag (backslashes : Nat) (inside : List Char)
  deriving DecidableEq, Repr

/-- The number of backslashes at the end of a text. -/
def backslashesAtEnd (cs : List Char) : Nat :=
  (cs.reverse.takeWhile (· = '\\')).length

/-- The pieces of a text: `before` has no tag in it, and the other parts each follow an
opening bracket. -/
def piecesFrom (before : List Char) : List (List Char) → List Piece
  | [] => [.plain before]
  | part :: parts =>
    match tagInside? part with
    | some (inside, after) =>
      .plain (dropEndWhile (· = '\\') before) :: .tag (backslashesAtEnd before) inside ::
        piecesFrom after parts
    | none => piecesFrom (before ++ '[' :: part) parts

/-- The pieces of a text. -/
def pieces (cs : List Char) : List Piece :=
  match cs.splitOn '[' with
  | [] => []
  | first :: rest => piecesFrom first rest

/-- A tag as it is written. -/
def bracketed (inside : List Char) : List Char :=
  '[' :: inside ++ [']']

/-- A piece written so that it is shown as it is. -/
def Piece.escaped : Piece → List Char
  | .plain text => text
  | .tag backslashes inside => List.replicate (2 * backslashes + 1) '\\' ++ bracketed inside

/-- A text written so that none of its tags counts as one.  A single backslash at its
end is doubled, in case a tag follows. -/
def escape (cs : List Char) : List Char :=
  let escaped := (pieces cs).flatMap Piece.escaped
  if backslashesAtEnd escaped = 1 then escaped ++ ['\\'] else escaped

/-! ## Styles -/

/-- The short words for styles. -/
def styleWords : List (String × String) :=
  [("b", "bold"), ("d", "dim"), ("i", "italic"), ("u", "underline"), ("uu", "underline2"),
   ("r", "reverse"), ("c", "conceal"), ("s", "strike"), ("o", "overline")]

/-- The style that a tag names; case, short words and blanks between words do not matter. -/
def styleName (name : List Char) : List String :=
  let words := (String.ofList (name.map Char.toLower)).splitOn " "
  (words.filter (· ≠ "")).map fun word => (styleWords.lookup word).getD word

/-- The open styles after a tag, innermost first; `none` for a tag that closes a style
which is not open. -/
def afterTag (opened : List (List String)) (inside : List Char) : Option (List (List String)) :=
  let name := inside.takeWhile (· ≠ '=')
  match name with
  | '/' :: closing =>
    let closing := strip closing
    if closing = [] then if opened = [] then none else some (opened.drop 1)
    else
      let style := styleName closing
      if opened.contains style then some (opened.erase style) else none
  | _ => some (styleName name :: opened)

/-! ## Showing -/

/-- A text without the backslashes in front of opening brackets. -/
def dropBracketEscapes : List Char → List Char
  | '\\' :: '[' :: rest => '[' :: dropBracketEscapes rest
  | c :: rest => c :: dropBracketEscapes rest
  | [] => []

/-- What is shown of a piece of text. -/
def shownText (cs : List Char) : List Char :=
  withPictographs (dropBracketEscapes cs)

/-- What is shown of some pieces, given the open styles. -/
def shownPieces (opened : List (List String)) : List Piece → Option (List Char)
  | [] => some []
  | .plain text :: rest => (shownPieces opened rest).map (shownText text ++ ·)
  | .tag backslashes inside :: rest => do
    let opened' ← if backslashes % 2 = 1 then some opened else afterTag opened inside
    let after ← shownPieces opened' rest
    return List.replicate (backslashes / 2) '\\' ++
      (if backslashes % 2 = 1 then shownText (bracketed inside) else []) ++ after

/-- Whether a character is left out: the bell, the backspace, the vertical tabulator, the
form feed and the carriage return. -/
def isCursorControl (c : Char) : Bool :=
  c = '\x07' || c = '\x08' || c = '\x0b' || c = '\x0c' || c = '\r'

/-- A text without the characters that are left out. -/
def dropCursorControls (cs : List Char) : List Char :=
  cs.filter fun c => !isCursorControl c

/-- What is shown of a marked-up text; `none` if a tag closes a style that is not open. -/
def shown? (cs : List Char) : Option (List Char) :=
  (if cs.contains '[' then shownPieces [] (pieces cs) else some (withPictographs cs)).map
    dropCursorControls

/-- What is shown of a text whose tags are escaped. -/
def shownLiteral? (cs : List Char) : Option (List Char) :=
  shown? (escape cs)

end Stopwatch.Console
