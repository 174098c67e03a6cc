/-
  Files of records written.

  A file of records has one layout: one value a line, in the order of the names.  Records that are
  written from outside and entries that a collector flushes come to the same bytes if their values are
  the same, and the file is read back as one metric a record.
-/
import Stopwatch.Proofs.Collector

namespace Stopwatch

/-! ## Layout -/

namespace Record

/-- The lines of a record in a file, in the order of their names. -/
def lines (r : Record) : List (List Char) :=
  ["\"duration\": ".toList ++ (Json.recordFloat r.duration).toList, "\"file\": ".toList ++ Json.quote true r.file,
    "\"function\": ".toList ++ Json.quote true r.function, "\"line\": ".toList ++ (toString r.line).toList,
    "\"threadId\": ".toList ++ (toString r.thread).toList,
    "\"timestamp\": ".toList ++ (Json.recordFloat r.timestamp).toList]

/-- A record as it stands in a file. -/
def shape (r : Record) : List Char :=
  "\x7b\n    ".toList ++ List.intercalate ",\n    ".toList r.lines ++ "\n  \x7d".toList

/-- A file of records as a text. -/
def layout (records : List Record) : String :=
  if records = [] then "[]"
  else String.ofList ("[\n  ".toList ++ List.intercalate ",\n  ".toList (records.map shape) ++ "\n]".toList)

/-- Items that are not written on one line. -/
theorem bracket_recordFileStyle (depth : Nat) (opening closing : Char) {items : List (List Char)} (h : items ≠ []) :
    Json.bracket Json.recordFileStyle depth opening closing items =
      opening :: Json.breakLine (depth + 1) ++
        List.intercalate (",".toList ++ Json.breakLine (depth + 1)) items ++ Json.breakLine depth ++ [closing] :=
  if_neg h

theorem renderAt_document (r : Record) : Json.renderAt Json.recordFileStyle 1 r.document = r.shape := by
  have hfields : (Json.recordFileStyle.arrange (Json.renderFields Json.recordFileStyle 2
      [("function", .string r.function), ("duration", .float r.duration), ("timestamp", .float r.timestamp),
        ("line", .integer r.line), ("file", .string r.file), ("threadId", .integer r.thread)])).map Prod.snd =
      r.lines := by
    simp only [Json.renderFields, Json.Style.arrange, Json.recordFileStyle, if_true, List.foldl_cons, List.foldl_nil,
      Json.insertByName, String.reduceLT, if_false, List.map_cons, List.map_nil, Json.renderAt]
    rfl
  have hlines : r.lines ≠ [] := List.cons_ne_nil _ _
  rw [document, fieldsDocument, Json.renderAt, hfields, bracket_recordFileStyle 1 _ _ hlines]
  unfold shape
  simp [Json.breakLine, List.replicate]

/-- The file of some records is laid out as said, whatever the order in which their values are given. -/
theorem fileText_document (records : List Record) : fileText (records.map document) = layout records := by
  rw [fileText, Json.render, Json.renderAt, Json.renderItems_eq_map, List.map_map, layout]
  simp only [Function.comp_def, Nat.zero_add, renderAt_document]
  split
  · rename_i hnone
    rw [hnone]
    rfl
  · rename_i hsome
    rw [bracket_recordFileStyle 0 _ _ (mt List.map_eq_nil_iff.mp hsome)]
    simp [Json.breakLine, List.replicate]

/-- A record as the entry that a collector keeps of the same call. -/
def entry (r : Record) : CollectedEntry :=
  ⟨r.function, .float r.duration, .float r.timestamp, r.line, r.file, r.thread⟩

theorem map_document_entry (records : List Record) :
    (records.map entry).map CollectedEntry.document = records.map document := by
  rw [List.map_map]
  rfl

/-- A record that can be written is that of a sound entry, if its call took a finite time. -/
theorem isSound_entry {r : Record} (hfinite : r.duration.isFinite = true) (hwritable : r.isWritable = true) :
    r.entry.IsSound := by
  simp only [isWritable, List.all_cons, List.all_nil, Bool.and_true, Bool.and_eq_true, decide_eq_true_eq] at hwritable
  exact ⟨hfinite, .float, .float, .integer hwritable.1, .integer hwritable.2⟩

end Record

/-! ## Writing -/

namespace Files

variable {fs fs' : Files} {p : Path} {bytes : List UInt8}

/-- A regular file that has been written holds what was written. -/
theorem read_of_write (hwrite : (fs.write p fun _ => bytes) = .ok fs') (hfile : fs'.isFile p = true) :
    fs'.read p = .ok bytes := by
  have hput (l : Location) (executable : Bool) (hlocate : fs.locate p = .ok l) (hplace : fs.IsPlace l) :
      (fs.insert l (.file bytes executable)).read p = .ok bytes := by
    -- what is put at a place does not change the way to it
    rw [read, locate_insert hlocate hplace]
    simp only [bind, Except.bind, find?_insert_self fs hplace.ne_nil]
  rw [write_eq] at hwrite
  cases hlocate : fs.locate p with
  | error fault =>
    rw [hlocate] at hwrite
    cases hwrite
  | ok l =>
    rw [hlocate] at hwrite
    dsimp only at hwrite
    cases hfound : fs.find? l with
    | none =>
      rw [hfound] at hwrite
      cases hwrite
      refine hput l _ hlocate fun e he => ?_
      cases hfound.symm.trans he
    | some e =>
      rw [hfound] at hwrite
      cases e with
      | file old executable =>
        cases hwrite
        refine hput l _ hlocate fun e he => ?_
        obtain rfl := Option.some.inj (hfound.symm.trans he)
        exact ⟨old, executable, rfl⟩
      | directory => cases hwrite
      | link target | pipe =>
        -- the bytes are gone, but then the path does not lead to a regular file
        cases hwrite
        rw [isFile, status?, hlocate] at hfile
        simp only [hfound] at hfile
        cases hfile

/-- Records are written where their integers have texts and the system takes the bytes. -/
theorem writeRecords_eq_ok {records : List Record} :
    fs.writeRecords p records = .ok fs' ↔ (∀ r ∈ records, r.isWritable = true) ∧
      (fs.write p fun _ => Text.Utf8.encode (Record.layout records)) = .ok fs' := by
  rw [writeRecords, ← Record.fileText_document, ← List.all_eq_true]
  split
  · rename_i hall
    cases hwrite : fs.write p fun _ => Text.Utf8.encode (Record.fileText (records.map Record.document)) <;> simp [hall]
  · rename_i hsome
    simp [hsome]

/-- A path that does not end in a name takes no file. -/
theorem writeFile_eq_error (fs : Files) {path : String} (h : Collector.endsInName path = false) (text : String) :
    ∃ fault, Collector.writeFile fs path text = .error fault := by
  simp only [Collector.writeFile, h, Bool.false_eq_true, if_false]
  split
  · exact ⟨_, rfl⟩
  · split
    · exact ⟨_, rfl⟩
    · exact ⟨_, rfl⟩
    · cases fs.locate (Path.ofText path) <;> exact ⟨_, rfl⟩

/-- A flush of entries writes the file of the records that have the same values, or nothing at all. -/
theorem flush_entries (fs : Files) (path : String) (records : List Record) :
    let flush := ((records.map Record.entry).foldl Collector.record (Collector.ofPath path)).flush fs
    let bytes := Text.Utf8.encode (Record.layout records)
    ((fs.write (Path.ofText path) fun _ => bytes) = .ok flush.files ∧ flush.written = some path) ∨
      (flush.written = none ∧
        (Collector.endsInName path = true → ∃ fault, (fs.write (Path.ofText path) fun _ => bytes) = .error fault)) := by
  intro flush bytes
  have hflush : flush = ({ path, entries := records.map Record.entry, flushed := false } : Collector).flush fs := by
    change Collector.flush (List.foldl _ _ _) fs = _
    rw [Collector.foldl_record]
    rfl
  rw [hflush, Collector.flush, if_neg Bool.false_ne_true, Record.map_document_entry, Record.fileText_document]
  dsimp only
  cases hname : Collector.endsInName path with
  | false =>
    obtain ⟨fault, hfault⟩ := writeFile_eq_error fs hname (Record.layout records)
    rw [hfault]
    exact .inr ⟨rfl, fun hfalse => absurd hfalse Bool.false_ne_true⟩
  | true =>
    rw [Collector.writeFile, hname, if_pos rfl]
    cases hwrite : fs.write (Path.ofText path) fun _ => bytes with
    | error fault => exact .inr ⟨rfl, fun _ => ⟨fault, rfl⟩⟩
    | ok fs' => exact .inl ⟨rfl, rfl⟩

/-- Records that are written to a regular file come to the bytes of their layout, which are those that a collector
flushes for entries with the same values, at the same place or at any other.  The file is read back as one metric a
record, in their order: with the name of the function, with the duration, or zero for a negative one, and with the
depth that the name stands for. -/
theorem metricsAt_writeRecords {records : List Record} (hfinite : ∀ r ∈ records, r.duration.isFinite = true)
    (hwrite : fs.writeRecords p records = .ok fs') (hfile : fs'.isFile p = true) :
    fs'.read p = .ok (Text.Utf8.encode (Record.layout records)) ∧
      (∀ path, Path.ofText path = p → Collector.endsInName path = true →
        let flush := ((records.map Record.entry).foldl Collector.record (Collector.ofPath path)).flush fs
        flush.written = some path ∧ flush.files = fs') ∧
      (∀ (gs : Files) (path : String),
        let flush := ((records.map Record.entry).foldl Collector.record (Collector.ofPath path)).flush gs
        flush.written = some path → flush.files.isFile (Path.ofText path) = true →
          flush.files.read (Path.ofText path) = fs'.read p) ∧
      fs'.metricsAt p = .ok (records.map fun r => Metric.ofCall r.function (Record.atLeastZero r.duration)) := by
  obtain ⟨hwritable, hput⟩ := writeRecords_eq_ok.mp hwrite
  have hread := read_of_write hput hfile
  refine ⟨hread, ?_, ?_, ?_⟩
  · rintro path rfl hname flush
    rcases flush_entries fs path records with ⟨hput', hwritten⟩ | ⟨-, hrefused⟩
    · exact ⟨hwritten, Except.ok.inj (hput'.symm.trans hput)⟩
    · obtain ⟨fault, hfault⟩ := hrefused hname
      cases hfault.symm.trans hput
  · intro gs path flush hwritten hregular
    rcases flush_entries gs path records with ⟨hput', -⟩ | ⟨hnone, -⟩
    · rw [hread]
      exact read_of_write hput' hregular
    · cases hnone.symm.trans hwritten
  · -- the same bytes as those of entries, of which it is known how they are read
    have hsound : ∀ e ∈ records.map Record.entry, e.IsSound := by
      intro e he
      obtain ⟨r, hr, rfl⟩ := List.mem_map.mp he
      exact Record.isSound_entry (hfinite r hr) (hwritable r hr)
    have hrecords := CollectedEntry.ofBytes_fileText hsound
    rw [Record.map_document_entry, Record.fileText_document] at hrecords
    rw [metricsAt, hread]
    simp only [hrecords, CollectedEntry.metrics_record hsound, Except.mapError]
    rw [List.map_map]
    rfl

/-- The same on two calls, one of which took less than no time. -/
theorem metricsAt_writeRecords_small :
    let fs : Files := ⟨[(["work"], .directory)], ["work"]⟩
    let p := Path.ofText "m.json"
    let records : List Record := [⟨"main", -0.5, 12.25, 3, "a.py", -7⟩, ⟨"\u00e9", 0.25, 12.5, 4, "a\"b.py", 7⟩]
    ∃ fs', fs.writeRecords p records = .ok fs' ∧ fs'.isFile p = true ∧
      (∀ r ∈ records, r.duration.isFinite = true) ∧
      fs'.metricsAt p = .ok [Metric.ofCall "main" 0.0, Metric.ofCall "\u00e9" 0.25] := by
  intro fs p records
  have hwritten : (match fs.writeRecords p records with
      | .ok fs' => fs'.isFile p
      | .error _ => false) = true := by
    decide +kernel
  split at hwritten
  · rename_i fs' hwrite
    have hfinite : ∀ r ∈ records, r.duration.isFinite = true := by
      have hall : (records.all fun r => r.duration.isFinite) = true := by decide +kernel
      simpa using hall
    have htimes : Record.atLeastZero (-0.5) = 0.0 ∧ Record.atLeastZero 0.25 = 0.25 := by decide +kernel
    refine ⟨fs', hwrite, hwritten, hfinite, (metricsAt_writeRecords hfinite hwrite hwritten).2.2.2.trans ?_⟩
    simp only [records, List.map_cons, List.map_nil, htimes]
  · cases hwritten

end Files

end Stopwatch
