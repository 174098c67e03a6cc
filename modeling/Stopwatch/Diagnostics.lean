/-
  Diagnostics.

  A line is a diagnostic if it contains the word "error" or the word "warning", in any
  case.  Lines that are known to be noise can be taken out of an output by the markers
  they contain.
-/
import Stopwatch.Text.Lines
import Stopwatch.Text.Search
import Stopwatch.Text.Word

namespace Stopwatch

namespace Text

/-- Whether a character is a given small letter in either case.  The letter i has two
more forms, with and without a dot. -/
def isLetter (letter c : Char) : Bool :=
  c = letter || c = letter.toUpper || (letter = 'i' && (c = '\u0130' || c = '\u0131'))

/-- Whether a text starts with a word in any case, and the word ends there. -/
def startsWithWord : List Char → List Char → Bool
  | [], [] => true
  | [], c :: _ => !isWordChar c
  | _ :: _, [] => false
  | letter :: word, c :: cs => isLetter letter c && startsWithWord word cs

/-- Whether a text contains one of some words as a whole; `inside` says whether a word
character stands in front of the text. -/
def containsWord (words : List (List Char)) (inside : Bool) : List Char → Bool
  | [] => false
  | c :: cs =>
    (!inside && words.any fun word => startsWithWord word (c :: cs)) || containsWord words (isWordChar c) cs

end Text

/-- The words that make a line a diagnostic. -/
def diagnosticWords : List (List Char) :=
  ["error".toList, "warning".toList]

/-- Whether a line is a diagnostic. -/
def isDiagnostic (line : String) : Bool :=
  Text.containsWord diagnosticWords false line.toList

/-- An output without the lines that contain a marker. -/
def filterDiagnostics (output : String) (markers : List String) : String :=
  String.intercalate "\n" ((Text.lines output).filter fun line => !markers.any (Text.contains line))

end Stopwatch
