/-
  Searching a text for another.

  `cut? pattern text` splits `text` around the first occurrence of `pattern`.
  Everything else that looks for a mark in a line is said with it.
-/

namespace Stopwatch.Text

/-- What follows `pattern` at the start of a text, if the text starts with it. -/
def afterPrefix? : List Char → List Char → Option (List Char)
  | [], text => some text
  | _ :: _, [] => none
  | p :: ps, c :: cs => if p = c then afterPrefix? ps cs else none

/-- The parts of a text before and after the first occurrence of `pattern`. -/
def cut? (pattern : List Char) : List Char → Option (List Char × List Char)
  | [] => (afterPrefix? pattern []).map fun after => ([], after)
  | c :: cs =>
    match afterPrefix? pattern (c :: cs) with
    | some after => some ([], after)
    | none => (cut? pattern cs).map fun (before, after) => (c :: before, after)

/-- Whether `pattern` occurs in a text. -/
def occursIn (pattern text : List Char) : Bool :=
  (cut? pattern text).isSome

/-- Whether `pattern` occurs in a string. -/
def contains (text pattern : String) : Bool :=
  occursIn pattern.toList text.toList

/-- Whether a text ends with `ending`. -/
def endsWith (text ending : List Char) : Bool :=
  ending.reverse.isPrefixOf text.reverse

end Stopwatch.Text
