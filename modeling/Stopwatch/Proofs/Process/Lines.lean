/-
  The lines of a stream.

  The lines of a stream are those of its whole text, cut at line feeds.  They come out the
  same when the bytes are cut first and the lines decoded afterwards, and also when the bytes
  arrive in pieces and only the unfinished line is kept for the next piece.
-/
import Stopwatch.Process.Watch
import Stopwatch.Proofs.Text.LineFeeds

namespace Stopwatch

/-- The pieces of a text between line feeds, without an empty one at the end. -/
def Text.linePieces (cs : List Char) : List (List Char) :=
  let pieces := cs.splitOn '\n'
  if pieces.getLast? = some [] then pieces.dropLast else pieces

/-- The lines of a whole stream: the pieces of its text, without carriage returns at their ends. -/
def streamLines (bytes : List UInt8) : List String :=
  (Text.linePieces (Text.Utf8.decodeLossy bytes)).map fun piece =>
    String.ofList (Text.dropEndWhile (· = '\r') piece)

/-- The lines that are finished, and the one that the end of the stream finishes. -/
def finishLines (cut : List (List UInt8) × List UInt8) : List String :=
  cut.1.map lineText ++ if cut.2 = [] then [] else [lineText cut.2]

/-! ## Cutting -/

theorem splitOn_eq_cutLines (bytes : List UInt8) :
    bytes.splitOn 10 = (cutLines bytes).1 ++ [(cutLines bytes).2] := by
  induction bytes with
  | nil => rfl
  | cons b bytes ih =>
    rw [List.splitOn_cons_eq_if_modifyHead, ih, cutLines]
    by_cases hb : b = 10
    · simp [hb]
    · simp only [beq_iff_eq, hb, if_false]
      cases (cutLines bytes).1 <;> rfl

/-- Bytes that arrive later continue the unfinished line. -/
theorem cutLines_append (front back : List UInt8) :
    cutLines (front ++ back) =
      ((cutLines front).1 ++ (cutLines ((cutLines front).2 ++ back)).1,
        (cutLines ((cutLines front).2 ++ back)).2) := by
  induction front with
  | nil => rfl
  | cons b front ih =>
    rw [List.cons_append, cutLines, ih, cutLines.eq_2 b front]
    by_cases hb : b = 10
    · simp only [hb, if_true, List.cons_append]
    · simp only [hb, if_false]
      cases (cutLines front).1 with
      | nil =>
        simp only [List.nil_append, List.cons_append, cutLines, hb, if_false]
      | cons line lines => rfl

/-! ## Lines of the whole text -/

/-- Cutting the text at line feeds and cutting its bytes at line feeds gives the same lines. -/
theorem streamLines_eq (bytes : List UInt8) : streamLines bytes = finishLines (cutLines bytes) := by
  rw [streamLines, Text.linePieces, Text.Utf8.splitOn_decodeLossy, splitOn_eq_cutLines, finishLines]
  simp only [List.map_append, List.map_cons, List.map_nil, List.getLast?_concat, List.dropLast_concat,
    Option.some_inj, Text.Utf8.decodeLossy_eq_nil]
  split
  · rw [List.append_nil, List.map_map]
    rfl
  · rw [List.map_append, List.map_map]
    rfl

end Stopwatch
