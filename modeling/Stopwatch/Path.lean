/-
  Paths.

  A path is a list of names behind an anchor, which is empty for a relative path.
  Empty names and single dots are dropped when a text is read; double dots are kept,
  since what they lead to depends on the files.
-/

namespace Stopwatch

/-- Where a path starts.  Exactly two slashes in front are an anchor of their own. -/
inductive Anchor where
  | relative
  | root
  | doubleRoot
  deriving DecidableEq, Repr, Inhabited

/-- An anchor as text. -/
def Anchor.text : Anchor → String
  | .relative => ""
  | .root => "/"
  | .doubleRoot => "//"

/-- A path. -/
structure Path where
  anchor : Anchor
  names : List String
  deriving DecidableEq, Repr, Inhabited

namespace Path

/-- The parts of a text between slashes. -/
def splitSlashes : List Char → List (List Char)
  | [] => [[]]
  | '/' :: rest => [] :: splitSlashes rest
  | c :: rest =>
    match splitSlashes rest with
    | [] => [[c]]
    | part :: parts => (c :: part) :: parts

/-- The anchor of a path that is written as a text. -/
def anchorOf : List Char → Anchor
  | '/' :: '/' :: '/' :: _ => .root
  | '/' :: '/' :: _ => .doubleRoot
  | '/' :: _ => .root
  | _ => .relative

/-- The path that a text stands for. -/
def ofText (text : String) : Path :=
  let cs := text.toList
  let names := (splitSlashes cs).filter fun part => part ≠ [] && part ≠ ['.']
  ⟨anchorOf cs, names.map String.ofList⟩

/-- The working directory, as a path. -/
def here : Path := ⟨.relative, []⟩

/-- A path as text; the empty path is a dot. -/
def text (p : Path) : String :=
  if p.anchor = .relative && p.names.isEmpty then "."
  else p.anchor.text ++ String.intercalate "/" p.names

/-- Whether a path does not depend on the working directory. -/
def isAbsolute (p : Path) : Bool :=
  p.anchor ≠ .relative

/-- A path behind another; an absolute one stands for itself. -/
def join (p q : Path) : Path :=
  if q.isAbsolute then q else ⟨p.anchor, p.names ++ q.names⟩

/-- A path with one more name. -/
def child (p : Path) (name : String) : Path :=
  ⟨p.anchor, p.names ++ [name]⟩

/-- A path behind another, written as a text. -/
def slash (p : Path) (text : String) : Path :=
  p.join (ofText text)

/-- The last name; empty if there is none. -/
def name (p : Path) : String :=
  p.names.getLast?.getD ""

/-- The path without its last name. -/
def parent (p : Path) : Path :=
  ⟨p.anchor, p.names.dropLast⟩

/-- The path with another last name. -/
def withName (p : Path) (name : String) : Path :=
  p.parent.child name

/-- A name cut before its last dot, if that stands neither first nor last. -/
def splitExtension (name : List Char) : List Char × List Char :=
  let extension := (name.reverse.takeWhile (· ≠ '.')).reverse
  let stem := name.take (name.length - extension.length - 1)
  if extension.length < name.length && stem ≠ [] && extension ≠ [] then (stem, '.' :: extension)
  else (name, [])

/-- The last name without its extension. -/
def stem (p : Path) : String :=
  String.ofList (splitExtension p.name.toList).1

/-- The extension of the last name, with its dot; empty if it has none. -/
def extension (p : Path) : String :=
  String.ofList (splitExtension p.name.toList).2

/-- What follows `front` in a list of names that starts with it. -/
def namesAfter? : List String → List String → Option (List String)
  | [], names => some names
  | _ :: _, [] => none
  | a :: front, b :: names => if a = b then namesAfter? front names else none

/-- The path relative to another one that it starts with. -/
def relativeTo? (p root : Path) : Option Path :=
  if p.anchor = root.anchor then (namesAfter? root.names p.names).map fun names => ⟨.relative, names⟩
  else none

/-- Names without double dots: each one takes back the name before it, if there is
one. -/
def settle (names : List String) : List String :=
  names.foldl (fun settled name => if name = ".." then settled.dropLast else settled ++ [name]) []

/-- The parts of a path in the order in which paths are compared. -/
def parts (p : Path) : List String :=
  if p.isAbsolute then p.anchor.text :: p.names else p.names

/-- Whether one list of parts stands before another or is equal to it. -/
def partsLe : List String → List String → Bool
  | [], _ => true
  | _ :: _, [] => false
  | a :: as, b :: bs => if a = b then partsLe as bs else a < b

/-- Whether a path stands before another or is equal to it. -/
def le (p q : Path) : Bool :=
  partsLe p.parts q.parts

end Path

end Stopwatch
