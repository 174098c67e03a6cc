/-
  From text to rows.

  A row is either a line without code or a logical line: its indentation, its
  tokens, and its end.  A logical line goes on over line breaks inside brackets and
  inside strings in triple quotes.  Nothing is said yet about what the tokens mean,
  nor about how the rows nest.
-/
import Stopwatch.Syntax.Numeral
import Stopwatch.Syntax.Quotation
import Stopwatch.Syntax.Space
import Stopwatch.Syntax.Token
import Stopwatch.Text.Identifier

namespace Stopwatch.Syntax

/-- A formatted string that is open.  `brackets` counts the brackets that are open
inside it, `specs` the fields whose format has begun. -/
structure OpenFormat where
  quote : Quote
  raw : Bool
  brackets : Nat
  specs : Nat
  deriving DecidableEq, Repr, Inhabited

/-- Whether ordinary tokens come next, not literal text. -/
def OpenFormat.inField (f : OpenFormat) : Bool :=
  f.brackets > f.specs

/-- Whether the format of a field is being read. -/
def OpenFormat.inSpec (f : OpenFormat) : Bool :=
  !f.inField && f.specs > 0

/-- The brackets and the formatted strings that are open, innermost first; a bracket
is kept as the one that closes it. -/
structure ScanState where
  closings : List Char
  formats : List OpenFormat
  deriving DecidableEq, Repr, Inhabited

/-- Changes the innermost formatted string. -/
def ScanState.mapFormat (change : OpenFormat → OpenFormat) (s : ScanState) : ScanState :=
  match s.formats with
  | [] => s
  | f :: outer => { s with formats := change f :: outer }

/-- Opens a bracket that `closing` will close. -/
def ScanState.openBracket (closing : Char) (s : ScanState) : ScanState :=
  { s with closings := closing :: s.closings }.mapFormat fun f => { f with brackets := f.brackets + 1 }

/-- Closes a bracket, which must be the innermost one. -/
def ScanState.closeBracket? (closing : Char) (s : ScanState) : Option ScanState :=
  match s.closings with
  | [] => none
  | expected :: outer =>
    if expected = closing then
      some <| { s with closings := outer }.mapFormat fun f =>
        { f with brackets := f.brackets - 1, specs := if f.inSpec then f.specs - 1 else f.specs }
    else none

/-- Whether a colon starts the format of a field. -/
def ScanState.atSpec (s : ScanState) : Bool :=
  s.formats.head?.any fun f => f.brackets = f.specs + 1

/-- What one step of the scanner found. -/
structure Scanned where
  kind : TokenKind
  text : List Char
  rest : List Char
  state : ScanState

/-- Whether a character can start a name, as far as the scanner looks. -/
def startsName (c : Char) : Bool :=
  c.isAlpha || c = '_' || c.toNat ≥ 0x80

/-- Whether a character can continue a name, as far as the scanner looks. -/
def continuesName (c : Char) : Bool :=
  startsName c || c.isDigit

/-- Whether a word is an identifier. -/
def isIdentifier : List Char → Bool
  | [] => false
  | c :: rest => Text.isIdentifierStart c && rest.all Text.isIdentifierContinue

/-- A name, or a string with a mark in front of its quote. -/
def scanWord? (s : ScanState) (cs : List Char) : Option Scanned :=
  let (word, rest) := cs.span continuesName
  let mark := word.map Char.toLower
  match quote? rest with
  | some (quote, after) =>
    if !stringMarks.contains (String.ofList mark) then
      if isIdentifier word then some ⟨.name, word, rest, s⟩ else none
    else if isFormatMark mark then
      some ⟨.formatOpen, word ++ quote.chars, after,
        { s with formats := ⟨quote, mark.contains 'r', 0, 0⟩ :: s.formats }⟩
    else (stringBody? quote after).map fun (body, more) => ⟨.string, word ++ quote.chars ++ body, more, s⟩
  | none => if isIdentifier word then some ⟨.name, word, rest, s⟩ else none

/-- The longest operator at the start of a text, and what follows it. -/
def operator? (cs : List Char) : Option (List Char × List Char) :=
  operators.findSome? fun op => (Text.afterPrefix? op cs).map fun rest => (op, rest)

/-- An operator; brackets are kept track of. -/
def scanOperator? (s : ScanState) (cs : List Char) : Option Scanned :=
  match cs with
  | '(' :: rest => some ⟨.operator, ['('], rest, s.openBracket ')'⟩
  | '[' :: rest => some ⟨.operator, ['['], rest, s.openBracket ']'⟩
  | '\x7b' :: rest => some ⟨.operator, ['\x7b'], rest, s.openBracket '\x7d'⟩
  | c :: rest =>
    if c = ')' || c = ']' || c = '\x7d' then
      (s.closeBracket? c).map fun state => ⟨.operator, [c], rest, state⟩
    else if c = ':' && s.atSpec then
      some ⟨.operator, [':'], rest, s.mapFormat fun f => { f with specs := f.specs + 1 }⟩
    else (operator? cs).map fun (op, after) => ⟨.operator, op, after, s⟩
  | [] => none

/-- A token at the start of a text that is no literal text of a formatted string. -/
def scanToken? (s : ScanState) (cs : List Char) : Option Scanned :=
  match cs with
  | [] => none
  | c :: rest =>
    if startsName c then scanWord? s cs
    else if c.isDigit || (c = '.' && rest.head?.any Char.isDigit) then
      (numeral? cs).map fun (text, after) => ⟨.number, text, after, s⟩
    else
      match quote? cs with
      | some (quote, after) =>
        (stringBody? quote after).map fun (body, more) => ⟨.string, quote.chars ++ body, more, s⟩
      | none => scanOperator? s cs

/-- Literal text of a formatted string, or its closing quote. -/
def scanFormat? (s : ScanState) (cs : List Char) : Option (Option Scanned) :=
  match s.formats with
  | [] => some none
  | f :: outer =>
    if f.inField then some none
    else
      match formatText? ⟨f.quote, f.raw, f.inSpec⟩ false cs with
      | none => none
      | some (c :: text, rest) => some (some ⟨.formatText, c :: text, rest, s⟩)
      | some ([], rest) =>
        match Text.afterPrefix? f.quote.chars rest with
        | some after => some (some ⟨.formatClose, f.quote.chars, after, { s with formats := outer }⟩)
        | none => some none

/-- One token in front of the rest of its line. -/
def Scanned.before (gap : Gap) (found : Scanned) (line : Option (List Token × LineEnd × List Char)) :
    Option (List Token × LineEnd × List Char) :=
  line.map fun (tokens, ending, rest) =>
    (⟨found.kind, ⟨gap, String.ofList found.text⟩⟩ :: tokens, ending, rest)

/-- The tokens of a logical line, its end, and what follows it. -/
def scanLine? (usual : LineBreak) : Nat → ScanState → List Char → Option (List Token × LineEnd × List Char)
  | 0, _, _ => none
  | fuel + 1, s, cs =>
    match scanFormat? s cs with
    | none => none
    | some (some found) => found.before (.inline "") (scanLine? usual fuel found.state found.rest)
    | some none =>
      let bracketed := !s.closings.isEmpty
      match if bracketed then none else lineEnd? usual true cs with
      | some (ending, rest) => some ([], ending, rest)
      | none =>
        match gap? usual bracketed cs with
        | none => none
        | some (gap, rest) =>
          match scanToken? s rest with
          | none => none
          | some found => found.before gap (scanLine? usual fuel found.state found.rest)

/-- A line without code, or a logical line. -/
inductive Row where
  | blank (line : BlankLine)
  | code (indentation : List Char) (tokens : List Token) (ending : LineEnd)
  deriving Repr, Inhabited

/-- The rows of a text. -/
def rowsFrom? (usual : LineBreak) : Nat → List Char → Option (List Row)
  | _, [] => some []
  | 0, _ => none
  | fuel + 1, cs =>
    match lineEnd? usual true cs with
    | some (line, rest) => (rowsFrom? usual fuel rest).map (.blank line.toBlankLine :: ·)
    | none =>
      match blanks? cs with
      | none => none
      | some (indentation, rest) =>
        match scanLine? usual (rest.length + 1) ⟨[], []⟩ rest with
        | none => none
        | some (tokens, ending, after) =>
          (rowsFrom? usual fuel after).map (.code indentation tokens ending :: ·)

/-- The rows of a text whose usual line break is given. -/
def rows? (usual : LineBreak) (cs : List Char) : Option (List Row) :=
  rowsFrom? usual cs.length cs

end Stopwatch.Syntax
