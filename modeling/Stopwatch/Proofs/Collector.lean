/-
  What a collector has written is recovered.

  A collector that can write its file announces it, and the announcement is found in
  whatever output it is glued to.  The file is read as the entries of the collector, which
  give one metric each, and is removed.
-/
import Stopwatch.Collector.Basic
import Stopwatch.Process.FileRun
import Stopwatch.Proofs.Files.Change
import Stopwatch.Proofs.Metric.Announced
import Stopwatch.Proofs.Metric.Record

namespace Stopwatch

/-! ## Entries -/

namespace Quantity

/-- A number that is not infinite. -/
def IsFinite : Quantity → Prop
  | .integer _ => True
  | .float x => x.isFinite = true

theorem IsFinite.isNaN_toFloat {q : Quantity} (h : q.IsFinite) : q.toFloat.isNaN = false := by
  cases q with
  | integer n => exact Number.isNaN_floatOfInt n
  | float x => exact Number.isNaN_of_isFinite h

theorem decodeFloat_document (q : Quantity) : Json.decodeFloat q.document = .ok q.toFloat := by
  cases q <;> rfl

end Quantity

namespace CollectedEntry

/-- An entry as it is made by a call: the call took a finite time, and no integer has more
digits than the text of an integer may have. -/
structure IsSound (e : CollectedEntry) : Prop where
  finite : e.duration.IsFinite
  duration : Record.IsNumber e.duration.document
  timestamp : Record.IsNumber e.timestamp.document
  line : Record.IsNumber (.integer e.line)
  thread : Record.IsNumber (.integer e.thread)

/-- An entry as a record. -/
def record (e : CollectedEntry) : Record :=
  ⟨e.function, e.duration.toFloat, e.timestamp.toFloat, e.line, e.file, e.thread⟩

/-- The metric of the call that an entry is about. -/
def metric (e : CollectedEntry) : Metric :=
  Metric.ofCall e.function (Record.atLeastZero e.duration.toFloat)

/-- The file of some entries is read as their records. -/
theorem ofBytes_fileText {entries : List CollectedEntry} (h : ∀ e ∈ entries, e.IsSound) :
    Record.ofBytes (Text.Utf8.encode (Record.fileText (entries.map document))) =
      .ok (entries.map record) := by
  have hfits : Json.Fits Json.recordFileStyle Json.maxDepth (.array (entries.map document)) := by
    have hitems (room : Nat) :
        Json.FitItems Json.recordFileStyle (room + 1) (entries.map document) := by
      induction entries with
      | nil => trivial
      | cons e entries ih =>
        have he := h e List.mem_cons_self
        exact ⟨Record.fits_fieldsDocument he.duration he.timestamp _ _ he.line he.thread room,
          ih fun e he => h e (List.mem_cons_of_mem _ he)⟩
    exact hitems _
  have hread := Json.read_render Record.recordFileStyle_isReadable hfits
  have hdecode : ∀ e ∈ entries,
      Record.decode (Json.arranged Json.recordFileStyle e.document) = .ok e.record := by
    intro e he
    have hsound := h e he
    exact Record.decode_arranged hsound.duration e.duration.decodeFloat_document hsound.timestamp
      e.timestamp.decodeFloat_document e.function e.file e.line e.thread
  rw [Record.ofBytes, Json.readBytes?, Text.Utf8.decode_encode, Record.fileText]
  simp only [hread, Json.arranged, Json.arrangedItems_eq_map, List.map_map, Json.decodeList]
  exact Json.Decoded.items_map entries hdecode 0

/-- The records of some entries give one metric an entry. -/
theorem metrics_record {entries : List CollectedEntry} (h : ∀ e ∈ entries, e.IsSound) :
    Record.metrics (entries.map record) = .ok (entries.map metric) := by
  have hnumbers : ∀ r ∈ entries.map record, r.duration.isNaN = false := by
    intro r hr
    obtain ⟨e, he, rfl⟩ := List.mem_map.mp hr
    exact (h e he).finite.isNaN_toFloat
  rw [Record.metrics_eq_ok hnumbers, List.map_map]
  rfl

end CollectedEntry

/-! ## Flushes -/

namespace Collector

/-- A collector keeps every entry, in the order of the calls. -/
theorem foldl_record (entries : List CollectedEntry) (c : Collector) :
    entries.foldl record c = { c with entries := c.entries ++ entries } := by
  induction entries generalizing c with
  | nil => rw [List.foldl_nil, List.append_nil]
  | cons e entries ih => rw [List.foldl_cons, ih, record, List.append_assoc, List.singleton_append]

/-- A flush that finds a place for the file writes the entries there and announces the
place. -/
theorem flush_eq {fs : Files} {path : String} {l : Location} (entries : List CollectedEntry)
    (hname : endsInName path = true) (hlocate : fs.locate (Path.ofText path) = .ok l)
    (hplace : fs.IsPlace l) :
    ∃ executable,
      ((entries.foldl record (ofPath path)).flush fs).files =
          fs.insert l (.file (Text.Utf8.encode
            (Record.fileText (entries.map CollectedEntry.document))) executable) ∧
        ((entries.foldl record (ofPath path)).flush fs).printed =
          announcement ++ (fs.absolute (Path.ofText path)).text ++ "\n" := by
  obtain ⟨executable, hwrite⟩ := Files.write_eq_ok hlocate hplace
    (Text.Utf8.encode (Record.fileText (entries.map CollectedEntry.document)))
  refine ⟨executable, ?_⟩
  simp only [foldl_record, flush, ofPath, Bool.false_eq_true, if_false, List.nil_append, writeFile,
    hname, if_true, hwrite, true_and]
  rfl

end Collector

/-! ## Recovery -/

/-- A file that holds the entries of a collector is taken and removed, whichever path leads
to it. -/
theorem Files.takeMetrics_eq_some {fs : Files} {path : String} {l : Location}
    {entries : List CollectedEntry} {executable : Bool} (hentries : ∀ e ∈ entries, e.IsSound)
    (hlocate : fs.locate (Path.ofText path) = .ok l)
    (hfile : fs.find? l = some (.file (Text.Utf8.encode
      (Record.fileText (entries.map CollectedEntry.document))) executable)) :
    ∃ own, fs.locateLink (Path.ofText path) = .ok own ∧
      fs.takeMetrics? path = some (entries.map CollectedEntry.metric, fs.erase own) ∧
      (fs.erase own).exists? (Path.ofText path) = false := by
  obtain ⟨own, hown, hremove, hgone⟩ := Files.remove_eq_ok hlocate hfile
  refine ⟨own, hown, ?_, hgone⟩
  have hread : fs.read (Path.ofText path) = .ok (Text.Utf8.encode
      (Record.fileText (entries.map CollectedEntry.document))) := by
    rw [Files.read, hlocate]
    simp only [bind, Except.bind, hfile]
  have hmetrics : fs.metricsAt (Path.ofText path) = .ok (entries.map CollectedEntry.metric) := by
    rw [Files.metricsAt, hread]
    simp only [CollectedEntry.ofBytes_fileText hentries, CollectedEntry.metrics_record hentries]
    rfl
  rw [Files.takeMetrics?]
  simp only [hmetrics, hremove]
  rfl

/-- The text of an output that tells a bad exit status starts with the output. -/
theorem exists_withStatus (status : Int) (output : String) :
    ∃ rest, withStatus status output = output ++ rest := by
  rw [withStatus]
  split
  · exact ⟨"", by rw [String.append_empty]⟩
  · exact ⟨"\nProcess exited with code: " ++ toString status, by rw [String.append_assoc]⟩

end Stopwatch
