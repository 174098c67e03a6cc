/-
  Results.

  The results of a run say which files were looked at, which asynchronous functions
  were found in them, and what was measured.  They are handed on as a document, which
  can be read again.
-/
import Stopwatch.Json.Writer
import Stopwatch.Locate
import Stopwatch.Metric.Basic

namespace Stopwatch

-- The zero of numerals is meant, whatever else is imported.
attribute [local instance (high)] Zero.ofOfNat0

/-- A source that has been instrumented: where it was, where the instrumented text
is, and what was located in it. -/
structure Instrumented where
  source : String
  written : String
  functions : List AsyncFunction
  hasEntryPoint : Bool
  deriving Inhabited

/-- What is said about one file. -/
structure FileDetails where
  path : String
  count : Int
  functions : List String
  deriving DecidableEq, Repr, Inhabited

/-- What is said about all files. -/
structure Summary where
  files : Int
  filesWithAsync : Int
  functions : Int
  details : List FileDetails
  deriving DecidableEq, Repr, Inhabited

/-- The results of a run. -/
structure Results where
  summary : Summary
  metrics : List Metric
  timestamp : Timestamp
  deriving Inhabited

namespace FileDetails

/-- The details of one file, out of the fields of a document. -/
def ofFields (fields : List (String × Json)) : Json.Decoded FileDetails :=
  let path := Json.field "path" "path" none Json.decodeText fields
  let count := Json.field "asyncFunctionCount" "async_function_count" none Json.decodeInteger fields
  let functions := Json.field "functions" "functions" none (Json.decodeList Json.decodeText) fields
  (path.both (count.both functions)).map fun (path, count, functions) => ⟨path, count, functions⟩

/-- The details of one file, out of a document. -/
def decode : Json.Decoder FileDetails :=
  Json.decodeFields ofFields

/-- The details of one file as a document. -/
def document (d : FileDetails) : Json :=
  .object
    [("path", .string d.path), ("asyncFunctionCount", .integer d.count),
     ("functions", .array (d.functions.map .string))]

end FileDetails

namespace Summary

/-- The summary of some instrumented files.  `display` says how a path is shown. -/
def ofInstrumented (results : List Instrumented) (display : String → String) : Summary :=
  let found := results.filter fun r => !r.functions.isEmpty
  { files := results.length
    filesWithAsync := found.length
    functions := (results.map fun r => r.functions.length).sum
    details := found.map fun r => ⟨display r.source, r.functions.length, r.functions.map (·.qualifiedName)⟩ }

/-- A summary out of the fields of a document. -/
def ofFields (fields : List (String × Json)) : Json.Decoded Summary :=
  let files := Json.field "totalFiles" "total_files" (some 0) Json.decodeInteger fields
  let withAsync := Json.field "filesWithAsync" "files_with_async" (some 0) Json.decodeInteger fields
  let functions := Json.field "totalAsyncFunctions" "total_async_functions" (some 0) Json.decodeInteger fields
  let details := Json.field "fileDetails" "file_details" (some []) (Json.decodeList FileDetails.decode) fields
  (files.both (withAsync.both (functions.both details))).map
    fun (files, withAsync, functions, details) => ⟨files, withAsync, functions, details⟩

/-- A summary out of a document. -/
def decode : Json.Decoder Summary :=
  Json.decodeFields ofFields

/-- A summary as a document. -/
def document (s : Summary) : Json :=
  .object
    [("totalFiles", .integer s.files), ("filesWithAsync", .integer s.filesWithAsync),
     ("totalAsyncFunctions", .integer s.functions), ("fileDetails", .array (s.details.map FileDetails.document))]

end Summary

namespace Results

/-- Results out of the fields of a document; results without a timestamp are those of
the present moment. -/
def ofFields (now : Timestamp) (fields : List (String × Json)) : Json.Decoded Results :=
  let summary := Json.field "summary" "summary" none Summary.decode fields
  let metrics := Json.field "executionMetrics" "execution_metrics" (some []) (Json.decodeList Metric.decode) fields
  let timestamp := Json.field "timestamp" "timestamp" (some now) Json.decodeTimestamp fields
  (summary.both (metrics.both timestamp)).map fun (summary, metrics, timestamp) => ⟨summary, metrics, timestamp⟩

/-- Results out of a document. -/
def decode (now : Timestamp) : Json.Decoder Results :=
  Json.decodeFields (ofFields now)

/-- Results out of a text. -/
def ofText (now : Timestamp) (text : String) : Json.Decoded Results :=
  match Json.read? text.toList with
  | some document => decode now document
  | none => Json.Decoded.fail .invalidDocument

/-- Results as a document. -/
def document (r : Results) : Json :=
  .object
    [("summary", r.summary.document), ("executionMetrics", .array (r.metrics.map Metric.document)),
     ("timestamp", .string r.timestamp.text)]

/-- Results as text, on one line or with one item a line. -/
def text (r : Results) (indented : Bool) : String :=
  Json.render (if indented then Json.prettyStyle else Json.compactStyle) r.document

end Results

end Stopwatch
