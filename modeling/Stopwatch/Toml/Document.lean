/-
  TOML documents.

  Statements are put together into one table.  A table may be opened by one header
  only, a key may be set once, and arrays and tables that are written as values are
  closed: nothing can be added to them.
-/
import Stopwatch.Toml.Reader

namespace Stopwatch.Toml

/-- A table that is being put together. -/
structure Builder where
  root : Table
  /-- The key of the header in force. -/
  header : Key
  /-- The keys of tables that cannot be opened by a header any more. -/
  opened : List Key
  /-- The same, from the next header on. -/
  pending : List Key
  /-- The keys of values that nothing can be added to. -/
  closed : List Key

namespace Builder

/-- Nothing has been put together yet. -/
def empty : Builder := ⟨[], [], [], [], []⟩

/-- Whether a key is that of a closed value or leads into one. -/
def isClosed (b : Builder) (key : Key) : Bool :=
  b.closed.any fun k => k.isPrefixOf key

/-- A new header comes into force. -/
def settle (b : Builder) : Builder :=
  { b with opened := b.pending ++ b.opened, pending := [] }

/-- Opens a table. -/
def openTable? (b : Builder) (key : Key) : Option Builder :=
  let b := b.settle
  if b.opened.contains key || b.isClosed key then none
  else
    (changeAt? true some key b.root).map fun root =>
      { b with root, header := key, opened := key :: b.opened }

/-- Adds an empty table to an array of tables. -/
def addTable? (name : String) (t : Table) : Option Table :=
  match get? t name with
  | none => some (t ++ [(name, .array [.table []])])
  | some (.array items) => some (set name (.array (items ++ [.table []])) t)
  | some _ => none

/-- Opens the next table of an array of tables, whose inner tables can then be opened
anew. -/
def openItem? (b : Builder) (key : Key) : Option Builder :=
  let b := b.settle
  if b.isClosed key then none
  else
    let kept (keys : List Key) := keys.filter fun k => !key.isPrefixOf k
    (changeAt? true (addTable? (key.getLast?.getD "")) key.dropLast b.root).map fun root =>
      { b with root, header := key, opened := key :: kept b.opened, closed := kept b.closed }

/-- The keys on the way to a key that has several names, without the key itself. -/
def waypoints (header : Key) : Key → List Key
  | name :: next :: rest => (header ++ [name]) :: waypoints (header ++ [name]) (next :: rest)
  | _ => []

/-- Sets a key in the table that is open. -/
def setKey? (b : Builder) (key : Key) (value : Toml) : Option Builder :=
  let ways := waypoints b.header key
  if ways.any b.opened.contains || b.isClosed (b.header ++ key.dropLast) then none
  else
    (changeAt? true (addField? (key.getLast?.getD "") value) (b.header ++ key.dropLast) b.root).map fun root =>
      { b with
        root
        pending := ways ++ b.pending
        closed := if isNest value then (b.header ++ key) :: b.closed else b.closed }

/-- Adds a statement. -/
def add? (b : Builder) : Statement → Option Builder
  | .header key => b.openTable? key
  | .arrayHeader key => b.openItem? key
  | .pair key value => b.setKey? key value

/-- Adds all statements. -/
def addAll? (b : Builder) : List Statement → Option Builder
  | [] => some b
  | s :: rest =>
    match b.add? s with
    | some b => b.addAll? rest
    | none => none

end Builder

/-- The table that a text stands for.  Its lines end in line feeds. -/
def ofText? (text : String) : Option Table := do
  let cs := text.toList
  let statements ← readStatements? (cs.length + 1) cs
  let built ← Builder.empty.addAll? statements
  pure built.root

end Stopwatch.Toml
