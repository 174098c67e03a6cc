/-
  Reading TOML statements.

  A text is a list of statements, one a line: headers of tables, headers of arrays of
  tables, and keys with their values.  Every function takes a construct off the start
  of a text and returns it with what follows; none is returned for what the grammar
  does not allow.
-/
import Stopwatch.Json.Reader
import Stopwatch.Toml.Basic

namespace Stopwatch.Toml

/-! ## Blanks and comments -/

/-- The blanks of a line. -/
def isBlank (c : Char) : Bool :=
  c = ' ' || c = '\t'

/-- Blanks and line feeds. -/
def isLoose (c : Char) : Bool :=
  isBlank c || c = '\n'

/-- The characters that may not stand in a line. -/
def isControl (c : Char) : Bool :=
  (c.toNat < 0x20 && c ≠ '\t') || c.toNat = 0x7F

/-- Drops the blanks at the start. -/
def skipBlanks (cs : List Char) : List Char :=
  cs.dropWhile isBlank

/-- What follows a comment, which ends before the line feed. -/
def skipComment? : List Char → Option (List Char)
  | [] => some []
  | '\n' :: rest => some ('\n' :: rest)
  | c :: rest => if isControl c then none else skipComment? rest

/-- What follows blanks, line feeds and comments. -/
def skipLoose? (inComment : Bool) : List Char → Option (List Char)
  | [] => some []
  | c :: rest =>
    if c = '\n' then skipLoose? false rest
    else if inComment then (if isControl c then none else skipLoose? true rest)
    else if isBlank c then skipLoose? false rest
    else if c = '#' then skipLoose? true rest
    else some (c :: rest)

/-! ## Texts -/

/-- A literal text up to its closing quote. -/
def readLiteral? : List Char → Option (List Char × List Char)
  | [] => none
  | '\'' :: rest => some ([], rest)
  | c :: rest =>
    if isControl c then none else (readLiteral? rest).map fun (cs, after) => (c :: cs, after)

/-- A literal text of several lines up to its three closing quotes. -/
def readLongLiteral? : List Char → Option (List Char × List Char)
  | [] => none
  | '\'' :: '\'' :: '\'' :: rest => some ([], rest)
  | c :: rest =>
    if isControl c && c ≠ '\n' then none else (readLongLiteral? rest).map fun (cs, after) => (c :: cs, after)

/-- The character that stands for itself and a letter after a backslash. -/
def shortEscape? : Char → Option Char
  | 'b' => some '\x08'
  | 't' => some '\t'
  | 'n' => some '\n'
  | 'f' => some '\x0c'
  | 'r' => some '\r'
  | '"' => some '"'
  | '\\' => some '\\'
  | _ => none

/-- The character of a number in hexadecimal digits. -/
def hexChar? (ds : List Char) : Option Char := do
  let n ← ds.foldlM (fun n d => (Json.hexDigit? d).map fun v => n * 16 + v) 0
  if n.isValidChar then some (Char.ofNat n) else none

/-- A text up to its closing quote. -/
def readBasic? : List Char → Option (List Char × List Char)
  | [] => none
  | '"' :: rest => some ([], rest)
  | '\\' :: 'u' :: a :: b :: c :: d :: rest =>
    match hexChar? [a, b, c, d] with
    | some x => (readBasic? rest).map fun (cs, after) => (x :: cs, after)
    | none => none
  | '\\' :: 'U' :: a :: b :: c :: d :: e :: f :: g :: h :: rest =>
    match hexChar? [a, b, c, d, e, f, g, h] with
    | some x => (readBasic? rest).map fun (cs, after) => (x :: cs, after)
    | none => none
  | '\\' :: letter :: rest =>
    match shortEscape? letter with
    | some x => (readBasic? rest).map fun (cs, after) => (x :: cs, after)
    | none => none
  | c :: rest =>
    if c = '\\' || isControl c then none else (readBasic? rest).map fun (cs, after) => (c :: cs, after)

/-- Whether nothing but blanks stands before the next line feed. -/
def endsLine (cs : List Char) : Bool :=
  (skipBlanks cs).head? = some '\n'

/-- A text of several lines up to its three closing quotes.  A backslash at the end of
a line takes all blanks and line feeds with it; `skipping` says that this is under
way. -/
def readLongBasic? (skipping : Bool) : List Char → Option (List Char × List Char)
  | [] => none
  | '"' :: '"' :: '"' :: rest => some ([], rest)
  | '\\' :: 'u' :: a :: b :: c :: d :: rest =>
    match hexChar? [a, b, c, d] with
    | some x => (readLongBasic? false rest).map fun (cs, after) => (x :: cs, after)
    | none => none
  | '\\' :: 'U' :: a :: b :: c :: d :: e :: f :: g :: h :: rest =>
    match hexChar? [a, b, c, d, e, f, g, h] with
    | some x => (readLongBasic? false rest).map fun (cs, after) => (x :: cs, after)
    | none => none
  | '\\' :: letter :: rest =>
    match shortEscape? letter with
    | some x => (readLongBasic? false rest).map fun (cs, after) => (x :: cs, after)
    | none => if endsLine (letter :: rest) then readLongBasic? true rest else none
  | c :: rest =>
    if skipping && isLoose c then readLongBasic? true rest
    else if c = '\\' || (isControl c && c ≠ '\n') then none
    else (readLongBasic? false rest).map fun (cs, after) => (c :: cs, after)

/-- At most two more quotes behind the closing ones, which belong to the text. -/
def moreQuotes (quote : Char) (found : List Char × List Char) : List Char × List Char :=
  match found with
  | (cs, a :: b :: rest) =>
    if a = quote then
      if b = quote then (cs ++ [a, b], rest) else (cs ++ [a], b :: rest)
    else found
  | (cs, [a]) => if a = quote then (cs ++ [a], []) else found
  | _ => found

/-- Drops the line feed that a text of several lines may start with. -/
def dropFirstFeed : List Char → List Char
  | '\n' :: rest => rest
  | cs => cs

/-- A quoted text. -/
def readText? : List Char → Option (String × List Char)
  | '"' :: '"' :: '"' :: rest =>
    (readLongBasic? false (dropFirstFeed rest)).map fun found =>
      let (cs, after) := moreQuotes '"' found
      (String.ofList cs, after)
  | '\'' :: '\'' :: '\'' :: rest =>
    (readLongLiteral? (dropFirstFeed rest)).map fun found =>
      let (cs, after) := moreQuotes '\'' found
      (String.ofList cs, after)
  | '"' :: rest => (readBasic? rest).map fun (cs, after) => (String.ofList cs, after)
  | '\'' :: rest => (readLiteral? rest).map fun (cs, after) => (String.ofList cs, after)
  | _ => none

/-! ## Keys -/

/-- A key: the names on the way to a value. -/
abbrev Key := List String

/-- The characters of a name without quotes. -/
def isBare (c : Char) : Bool :=
  c.isAlphanum || c = '-' || c = '_'

/-- One name of a key. -/
def readName? (cs : List Char) : Option (String × List Char) :=
  match cs with
  | '"' :: rest => (readBasic? rest).map fun (name, after) => (String.ofList name, after)
  | '\'' :: rest => (readLiteral? rest).map fun (name, after) => (String.ofList name, after)
  | _ =>
    match cs.takeWhile isBare with
    | [] => none
    | name => some (String.ofList name, cs.dropWhile isBare)

/-- A key, whose names are separated by dots; `count` bounds their number. -/
def readKey? : Nat → List Char → Option (Key × List Char)
  | 0, _ => none
  | count + 1, cs =>
    match readName? cs with
    | none => none
    | some (name, rest) =>
      match skipBlanks rest with
      | '.' :: more => (readKey? count (skipBlanks more)).map fun (key, after) => (name :: key, after)
      | after => some ([name], after)

/-! ## Dates and numbers -/

/-- A number of two digits in a range. -/
def twoDigits? (low high : Nat) (cs : List Char) : Option (Nat × List Char) :=
  match Timestamp.digits? 2 cs with
  | some (n, rest) => if low ≤ n && n ≤ high then some (n, rest) else none
  | none => none

/-- A given character. -/
def expect? (c : Char) : List Char → Option (List Char)
  | d :: rest => if d = c then some rest else none
  | [] => none

/-- A time of day in hours, minutes, seconds and microseconds. -/
def readTime? (cs : List Char) : Option ((Nat × Nat × Nat × Nat) × List Char) := do
  let (hour, rest) ← twoDigits? 0 23 cs
  let (minute, rest) ← twoDigits? 0 59 (← expect? ':' rest)
  let (second, rest) ← twoDigits? 0 59 (← expect? ':' rest)
  match rest with
  | '.' :: more =>
    match Timestamp.fraction? rest with
    | some (microsecond, after) => pure ((hour, minute, second, microsecond), after)
    | none => pure ((hour, minute, second, 0), '.' :: more)
  | _ => pure ((hour, minute, second, 0), rest)

/-- The offset of a zone, if there is one. -/
def readOffset (cs : List Char) : Option Int × List Char :=
  match cs with
  | 'Z' :: rest | 'z' :: rest => (some 0, rest)
  | sign :: rest =>
    let found := do
      if sign ≠ '+' && sign ≠ '-' then none
      let (hours, rest) ← twoDigits? 0 23 rest
      let (minutes, rest) ← twoDigits? 0 59 (← expect? ':' rest)
      let total : Int := hours * 60 + minutes
      pure (some (if sign = '-' then -total else total), rest)
    found.getD (none, cs)
  | [] => (none, [])

/-- A day, perhaps with a time of day. -/
def readDate? (cs : List Char) : Option (Toml × List Char) := do
  let ((year, month, day), rest) ← Timestamp.date? cs
  let withTime := do
    let (separator, more) ← rest.head?.map fun c => (c, rest.tail)
    if separator ≠ 'T' && separator ≠ 't' && separator ≠ ' ' then none
    let ((hour, minute, second, microsecond), more) ← readTime? more
    let (offset, after) := readOffset more
    pure (Toml.moment ⟨year, month, day, hour, minute, second, microsecond, offset⟩, after)
  pure (withTime.getD (.date year month day, rest))

/-- Digits of some kind with single underscores between them, after the first one. -/
def moreDigits (isDigit : Char → Bool) : List Char → List Char × List Char
  | [] => ([], [])
  | '_' :: c :: rest =>
    if isDigit c then
      let (ds, after) := moreDigits isDigit rest
      (c :: ds, after)
    else ([], '_' :: c :: rest)
  | c :: rest =>
    if isDigit c then
      let (ds, after) := moreDigits isDigit rest
      (c :: ds, after)
    else ([], c :: rest)

/-- Digits of some kind with single underscores between them. -/
def readDigits? (isDigit : Char → Bool) : List Char → Option (List Char × List Char)
  | [] => none
  | c :: rest =>
    if isDigit c then
      let (ds, after) := moreDigits isDigit rest
      some (c :: ds, after)
    else none

/-- An integer in another base than ten. -/
def readRadix? : List Char → Option (Toml × List Char)
  | '0' :: mark :: rest =>
    let read (base : Nat) := do
      let isDigit (c : Char) : Bool :=
        match Json.hexDigit? c with
        | some v => v < base
        | none => false
      let (ds, after) ← readDigits? isDigit rest
      let n := ds.foldl (fun n d => n * base + (Json.hexDigit? d).getD 0) 0
      pure (Toml.integer n, after)
    match mark with
    | 'x' => read 16
    | 'o' => read 8
    | 'b' => read 2
    | _ => none
  | _ => none

/-- The part of a number behind its point. -/
def readFraction (cs : List Char) : List Char × List Char :=
  match cs with
  | '.' :: rest => (readDigits? Char.isDigit rest).getD ([], cs)
  | _ => ([], cs)

/-- The exponent of a number, if it has one. -/
def readExponent (cs : List Char) : Option Int × List Char :=
  match cs with
  | mark :: rest =>
    if mark = 'e' || mark = 'E' then
      let (negative, body) := Number.takeSign rest
      match readDigits? Char.isDigit body with
      | some (ds, after) =>
        let n : Int := Number.ofDigits ds
        (some (if negative then -n else n), after)
      | none => (none, cs)
    else (none, cs)
  | [] => (none, [])

/-- A decimal number: an integer if it has neither a fraction nor an exponent. -/
def readDecimal? (cs : List Char) : Option (Toml × List Char) := do
  let (negative, body) := Number.takeSign cs
  let (whole, rest) ← match body with
    | '0' :: rest => some (['0'], rest)
    | _ => readDigits? Char.isDigit body
  let (fraction, rest) := readFraction rest
  let (exponent, rest) := readExponent rest
  if fraction = [] && exponent = none then
    let n : Int := Number.ofDigits whole
    pure (.integer (if negative then -n else n), rest)
  else
    let x := Number.nearest (Number.ofDigits (whole ++ fraction)) (exponent.getD 0 - fraction.length)
    pure (.float (if negative then -x else x), rest)

/-- The values that are written as a word. -/
def words : List (List Char × Toml) :=
  [("true".toList, .bool true), ("false".toList, .bool false),
   ("inf".toList, .float (1.0 / 0.0)), ("+inf".toList, .float (1.0 / 0.0)), ("-inf".toList, .float (-1.0 / 0.0)),
   ("nan".toList, .float (0.0 / 0.0)), ("+nan".toList, .float (0.0 / 0.0)), ("-nan".toList, .float (0.0 / 0.0))]

/-- A value written as a word. -/
def readWord? (cs : List Char) : Option (Toml × List Char) :=
  words.findSome? fun (word, value) => (Text.afterPrefix? word cs).map fun rest => (value, rest)

/-- A time of day as a value. -/
def readClock? (cs : List Char) : Option (Toml × List Char) :=
  (readTime? cs).map fun ((hour, minute, second, microsecond), after) =>
    (.time hour minute second microsecond, after)

/-- A value that is no array and no table. -/
def readPlain? (cs : List Char) : Option (Toml × List Char) :=
  if cs.head? = some '"' || cs.head? = some '\'' then
    (readText? cs).map fun (s, after) => (.text s, after)
  else
    (readWord? cs).or ((readDate? cs).or ((readClock? cs).or ((readRadix? cs).or (readDecimal? cs))))

/-! ## Tables -/

/-- Changes the table that a key leads to.  Tables that are missing on the way are
made; an array stands for its last item if `throughArrays`. -/
def changeAt? (throughArrays : Bool) (change : Table → Option Table) : Key → Table → Option Table
  | [], t => change t
  | name :: rest, t =>
    match get? t name with
    | none => (changeAt? throughArrays change rest []).map fun inner => set name (.table inner) t
    | some (.table inner) =>
      (changeAt? throughArrays change rest inner).map fun inner => set name (.table inner) t
    | some (.array items) =>
      match throughArrays, items.getLast? with
      | true, some (.table inner) =>
        (changeAt? throughArrays change rest inner).map fun inner =>
          set name (.array (items.dropLast ++ [.table inner])) t
      | _, _ => none
    | some _ => none

/-- Adds a new field to a table. -/
def addField? (name : String) (value : Toml) (t : Table) : Option Table :=
  match get? t name with
  | some _ => none
  | none => some (t ++ [(name, value)])

/-- Whether a value is an array or a table. -/
def isNest : Toml → Bool
  | .array _ | .table _ => true
  | _ => false

/-- A table out of its pairs.  Arrays and tables among the values are closed: no later
key may lead into them. -/
def inlineTable? (closed : List Key) (t : Table) : List (Key × Toml) → Option Table
  | [] => some t
  | (key, value) :: rest =>
    if closed.any fun k => k.isPrefixOf key then none
    else
      match changeAt? false (addField? (key.getLast?.getD "") value) key.dropLast t with
      | some t => inlineTable? (if isNest value then key :: closed else closed) t rest
      | none => none

/-! ## Values -/

mutual

/-- A value.  `fuel` bounds the number of steps. -/
def readValue? : Nat → List Char → Option (Toml × List Char)
  | 0, _ => none
  | fuel + 1, cs =>
    match cs with
    | '[' :: rest =>
      match skipLoose? false rest with
      | some (']' :: after) => some (.array [], after)
      | some first => (readItems? fuel first).map fun (items, after) => (.array items, after)
      | none => none
    | '{' :: rest =>
      match skipBlanks rest with
      | '}' :: after => some (.table [], after)
      | first =>
        match readPairs? fuel first with
        | some (pairs, after) => (inlineTable? [] [] pairs).map fun t => (.table t, after)
        | none => none
    | _ => readPlain? cs

/-- The items of an array that has at least one, up to its closing bracket. -/
def readItems? : Nat → List Char → Option (List Toml × List Char)
  | 0, _ => none
  | fuel + 1, cs =>
    match readValue? fuel cs with
    | none => none
    | some (item, rest) =>
      match skipLoose? false rest with
      | some (']' :: after) => some ([item], after)
      | some (',' :: more) =>
        match skipLoose? false more with
        | some (']' :: after) => some ([item], after)
        | some next => (readItems? fuel next).map fun (items, after) => (item :: items, after)
        | none => none
      | _ => none

/-- The pairs of a table on one line that has at least one, up to its closing brace. -/
def readPairs? : Nat → List Char → Option (List (Key × Toml) × List Char)
  | 0, _ => none
  | fuel + 1, cs =>
    match readPair? fuel cs with
    | none => none
    | some (pair, rest) =>
      match skipBlanks rest with
      | '}' :: after => some ([pair], after)
      | ',' :: more =>
        (readPairs? fuel (skipBlanks more)).map fun (pairs, after) => (pair :: pairs, after)
      | _ => none

/-- A key and its value. -/
def readPair? : Nat → List Char → Option ((Key × Toml) × List Char)
  | 0, _ => none
  | fuel + 1, cs =>
    match readKey? cs.length cs with
    | some (key, '=' :: rest) =>
      (readValue? fuel (skipBlanks rest)).map fun (value, after) => ((key, value), after)
    | _ => none

end

/-! ## Statements -/

/-- A statement. -/
inductive Statement where
  | header (key : Key)
  | arrayHeader (key : Key)
  | pair (key : Key) (value : Toml)
  deriving Inhabited

/-- A header of an array of tables, behind its two brackets. -/
def readArrayHeader? (cs : List Char) : Option (Statement × List Char) :=
  match readKey? cs.length (skipBlanks cs) with
  | some (key, ']' :: ']' :: rest) => some (.arrayHeader key, rest)
  | _ => none

/-- A header of a table, behind its bracket. -/
def readHeader? (cs : List Char) : Option (Statement × List Char) :=
  match readKey? cs.length (skipBlanks cs) with
  | some (key, ']' :: rest) => some (.header key, rest)
  | _ => none

/-- A statement at the start of a line, if there is one. -/
def readStatement? (cs : List Char) : Option (Option Statement × List Char) :=
  match cs with
  | [] | '\n' :: _ | '#' :: _ => some (none, cs)
  | '[' :: '[' :: rest => (readArrayHeader? rest).map fun (s, after) => (some s, after)
  | '[' :: rest => (readHeader? rest).map fun (s, after) => (some s, after)
  | _ => (readPair? (2 * cs.length + 2) cs).map fun ((key, value), after) => (some (.pair key value), after)

/-- What follows the end of a line: blanks, perhaps a comment, and a line feed. -/
def endLine? (cs : List Char) : Option (List Char) :=
  let ended := match skipBlanks cs with
    | '#' :: rest => skipComment? rest
    | rest => some rest
  match ended with
  | some [] => some []
  | some ('\n' :: rest) => some rest
  | _ => none

/-- All statements of a text; `lines` bounds the number of its lines. -/
def readStatements? : Nat → List Char → Option (List Statement)
  | 0, _ => none
  | _ + 1, [] => some []
  | lines + 1, cs =>
    match readStatement? (skipBlanks cs) with
    | none => none
    | some (statement, rest) =>
      match endLine? rest with
      | none => none
      | some after => (readStatements? lines after).map fun more => statement.toList ++ more

end Stopwatch.Toml
