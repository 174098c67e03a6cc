/-
  Results read back.

  Results that are written, on one line or with one item a line, are read again, and the text that is
  written then is the same.  The summary and the metrics stay as they are, with one exception: a number
  that is not finite is written as `null`, so such a time of computing or of waiting is read as none, and
  results with such a total time are not read at all.

  Both directions go through the document `written`, which is what the text says: `text` writes it, and
  `decode` takes it apart.
-/
import Stopwatch.Proofs.Json.Integers
import Stopwatch.Proofs.Json.RoundTrip
import Stopwatch.Proofs.Metric.Record
import Stopwatch.Proofs.Timestamp
import Stopwatch.Results

namespace Stopwatch

/-! ## Result documents -/

namespace Json

/-- The style of results. -/
def resultStyle (indented : Bool) : Style :=
  if indented then prettyStyle else compactStyle

theorem resultStyle_isReadable (indented : Bool) : (resultStyle indented).IsReadable := by
  cases indented with
  | false => exact ⟨⟨[], rfl, by simp⟩, ⟨[], rfl, by simp⟩⟩
  | true => exact ⟨⟨[], rfl, by simp⟩, ⟨[' '], rfl, List.forall_mem_singleton.mpr rfl⟩⟩

@[simp]
theorem resultStyle_float (indented : Bool) : (resultStyle indented).float = documentFloat := by
  cases indented <;> rfl

theorem resultStyle_sorted (indented : Bool) : (resultStyle indented).sorted = false := by
  cases indented <;> rfl

/-- Results keep every finite number. -/
theorem resultStyle_keeps (indented : Bool) {x : Float} (h : x.isFinite = true) : (resultStyle indented).Keeps x := by
  obtain ⟨negative, v, hclass⟩ := Number.isFinite_iff_classify.mp h
  intro fuel room rest hrest
  rw [resultStyle_float, documentFloat, if_pos h]
  exact readValue_shortest Number.documentStyle hclass fuel room hrest

/-- A number that is not finite is written as nothing. -/
theorem renderAt_not_finite (indented : Bool) (depth : Nat) {x : Float} (h : x.isFinite = false) :
    renderAt (resultStyle indented) depth (.float x) = renderAt (resultStyle indented) depth .null := by
  rw [renderAt, renderAt, resultStyle_float, documentFloat, if_neg (by simp [h])]

end Json

/-! ## What is kept -/

/-- A metric without the times of computing and of waiting that are not finite. -/
def Metric.kept (m : Metric) : Metric :=
  { m with
    computeTime := m.computeTime.filter (·.isFinite)
    suspendTime := m.suspendTime.filter (·.isFinite) }

/-- Results with what is kept of their metrics. -/
def Results.kept (r : Results) : Results :=
  { r with metrics := r.metrics.map Metric.kept }

/-- A metric as it is written: there is nothing where a number is not finite. -/
def Metric.written (m : Metric) : Json :=
  .object
    [("name", .string m.name), ("totalTime", optional .float ((some m.totalTime).filter (·.isFinite))),
     ("computeTime", optional .float (m.computeTime.filter (·.isFinite))),
     ("suspendTime", optional .float (m.suspendTime.filter (·.isFinite))),
     ("awaitCount", optional .integer m.awaitCount), ("depth", .integer m.depth)]

/-- Results as they are written. -/
def Results.written (r : Results) : Json :=
  .object
    [("summary", r.summary.document), ("executionMetrics", .array (r.metrics.map Metric.written)),
     ("timestamp", .string r.timestamp.text)]

/-- A time that is not finite is written as if there were none. -/
theorem Metric.renderAt_filter (indented : Bool) (depth : Nat) (time : Option Float) :
    Json.renderAt (Json.resultStyle indented) depth (optional .float (time.filter (·.isFinite))) =
      Json.renderAt (Json.resultStyle indented) depth (optional .float time) := by
  cases time with
  | none => rfl
  | some x =>
    cases hfinite : x.isFinite with
    | true => rw [Option.filter_some, if_pos hfinite]
    | false =>
      rw [Option.filter_some, if_neg (by simp [hfinite])]
      exact (Json.renderAt_not_finite indented depth hfinite).symm

theorem Metric.renderAt_written (indented : Bool) (depth : Nat) (m : Metric) :
    Json.renderAt (Json.resultStyle indented) depth m.written =
      Json.renderAt (Json.resultStyle indented) depth m.document := by
  have htotal := renderAt_filter indented (depth + 1) (some m.totalTime)
  simp only [document, written, Json.renderAt, Json.renderFields, renderAt_filter, htotal]
  rfl

theorem Results.text_eq (r : Results) (indented : Bool) :
    r.text indented = Json.render (Json.resultStyle indented) r.written := by
  have hitems (depth : Nat) :
      Json.renderItems (Json.resultStyle indented) depth (r.metrics.map Metric.written) =
        Json.renderItems (Json.resultStyle indented) depth (r.metrics.map Metric.document) := by
    rw [Json.renderItems_eq_map, Json.renderItems_eq_map, List.map_map, List.map_map]
    exact List.map_congr_left fun m _ => Metric.renderAt_written indented depth m
  change Json.render (Json.resultStyle indented) r.document = _
  simp only [Json.render, document, written, Json.renderAt, Json.renderFields, hitems]

theorem Metric.written_kept (m : Metric) : m.kept.written = m.written := by
  simp only [written, kept, Option.filter_filter, Bool.and_self]

/-- What is not kept is not written either. -/
theorem Results.text_kept (r : Results) (indented : Bool) : r.kept.text indented = r.text indented := by
  have hmetrics : r.kept.metrics.map Metric.written = r.metrics.map Metric.written := by
    rw [kept, List.map_map]
    exact List.map_congr_left fun m _ => m.written_kept
  rw [text_eq, text_eq, written, written, hmetrics, kept]

/-! ## Sound results -/

/-- A file whose number of functions is short enough to be read. -/
def FileDetails.IsSound (d : FileDetails) : Prop :=
  Json.IsShort d.count

/-- A summary whose numbers are short enough to be read. -/
structure Summary.IsSound (s : Summary) : Prop where
  files : Json.IsShort s.files
  filesWithAsync : Json.IsShort s.filesWithAsync
  functions : Json.IsShort s.functions
  details : ∀ d ∈ s.details, d.IsSound

/-- A metric whose time is not negative, and whose integers are short enough to be read. -/
structure Metric.IsSound (m : Metric) : Prop where
  totalTime : 0.0 ≤ m.totalTime
  awaitCount : ∀ n ∈ m.awaitCount, Json.IsShort n
  depth : Json.IsShort m.depth

/-- Results of which all parts are sound. -/
structure Results.IsSound (r : Results) : Prop where
  summary : r.summary.IsSound
  metrics : ∀ m ∈ r.metrics, m.IsSound
  timestamp : r.timestamp.IsValid

/-! ## Documents that fit -/

theorem Json.fitItems_iff {style : Json.Style} {room : Nat} {items : List Json} :
    Json.FitItems style room items ↔ ∀ d ∈ items, Json.Fits style room d := by
  induction items with
  | nil => simp [FitItems]
  | cons item items ih => simp [FitItems, ih]

theorem FileDetails.fits_document (indented : Bool) (room : Nat) {d : FileDetails} (h : d.IsSound) :
    Json.Fits (Json.resultStyle indented) (room + 2) d.document := by
  have hfunctions : Json.FitItems (Json.resultStyle indented) room (d.functions.map .string) := by
    rw [Json.fitItems_iff]
    intro item hitem
    obtain ⟨name, -, rfl⟩ := List.mem_map.mp hitem
    cases room <;> trivial
  exact ⟨trivial, h, hfunctions, trivial⟩

theorem Summary.fits_document (indented : Bool) (room : Nat) {s : Summary} (h : s.IsSound) :
    Json.Fits (Json.resultStyle indented) (room + 4) s.document := by
  have hdetails : Json.FitItems (Json.resultStyle indented) (room + 2) (s.details.map FileDetails.document) := by
    rw [Json.fitItems_iff]
    intro item hitem
    obtain ⟨d, hd, rfl⟩ := List.mem_map.mp hitem
    exact d.fits_document indented room (h.details d hd)
  exact ⟨h.files, h.filesWithAsync, h.functions, hdetails, trivial⟩

theorem Metric.fits_written (indented : Bool) (room : Nat) {m : Metric} (h : m.IsSound) :
    Json.Fits (Json.resultStyle indented) (room + 2) m.written := by
  have htime (time : Option Float) :
      Json.Fits (Json.resultStyle indented) (room + 1) (optional .float (time.filter (·.isFinite))) := by
    cases hkept : time.filter (·.isFinite) with
    | none => trivial
    | some x => exact Json.resultStyle_keeps indented (Option.mem_filter_iff.mp hkept).2
  have hawaits : Json.Fits (Json.resultStyle indented) (room + 1) (optional .integer m.awaitCount) := by
    cases hcount : m.awaitCount with
    | none => trivial
    | some n => exact h.awaitCount n hcount
  exact ⟨trivial, htime _, htime _, htime _, hawaits, h.depth, trivial⟩

/-- Sound results fit as they are written. -/
theorem Results.fits_written (indented : Bool) {r : Results} (h : r.IsSound) :
    Json.Fits (Json.resultStyle indented) Json.maxDepth r.written := by
  have hmetrics : Json.FitItems (Json.resultStyle indented) 198 (r.metrics.map Metric.written) := by
    rw [Json.fitItems_iff]
    intro item hitem
    obtain ⟨m, hm, rfl⟩ := List.mem_map.mp hitem
    exact m.fits_written indented 196 (h.metrics m hm)
  exact ⟨r.summary.fits_document indented 195 h.summary, hmetrics, trivial, trivial⟩

/-- Sound results are read from their text as they are written. -/
theorem Results.ofText_text_eq (now : Timestamp) (indented : Bool) {r : Results} (h : r.IsSound) :
    ofText now (r.text indented) = decode now r.written := by
  have hread := Json.read_render (Json.resultStyle_isReadable indented) (r.fits_written indented h)
  rw [Json.arranged_of_unsorted (Json.resultStyle_sorted _)] at hread
  rw [ofText, text_eq, hread]

/-! ## Documents taken apart -/

/-- A list of documents that are taken apart one by one. -/
theorem Json.decodeList_map {β : Type} {decode : Json.Decoder β} {write : β → Json} (bs : List β)
    (h : ∀ b ∈ bs, decode (write b) = .ok b) : Json.decodeList decode (.array (bs.map write)) = .ok bs := by
  rw [decodeList, @Decoded.items_map _ _ decode write id bs h 0, List.map_id]

theorem FileDetails.decode_document (d : FileDetails) : decode d.document = .ok d := by
  have hfunctions : Json.decodeList Json.decodeText (.array (d.functions.map .string)) = .ok d.functions :=
    Json.decodeList_map d.functions fun _ _ => rfl
  rw [decode, document, Json.decodeFields, ofFields]
  simp only [Json.field, Json.lookup?, List.reverse_cons, List.reverse_nil, List.nil_append, List.cons_append,
    List.find?_cons, String.reduceEq, decide_false, decide_true, Option.map_some, hfunctions]
  rfl

theorem Summary.decode_document (s : Summary) : decode s.document = .ok s := by
  have hdetails := Json.decodeList_map s.details fun d _ => d.decode_document
  rw [decode, document, Json.decodeFields, ofFields]
  simp only [Json.field, Json.lookup?, List.reverse_cons, List.reverse_nil, List.nil_append, List.cons_append,
    List.find?_cons, String.reduceEq, decide_false, decide_true, Option.map_some, hdetails]
  rfl

/-- A metric is taken apart as what is kept of it, if its time is finite. -/
theorem Metric.decode_written {m : Metric} (h : 0.0 ≤ m.totalTime) (hfinite : m.totalTime.isFinite = true) :
    decode m.written = .ok m.kept := by
  have htotal : decodeTime (optional .float ((some m.totalTime).filter (·.isFinite))) = .ok m.totalTime := by
    rw [Option.filter_some, if_pos hfinite]
    simp only [optional, decodeTime, Json.decodeFloat, ge_iff_le, if_pos h]
  have htime (time : Option Float) : Json.decodeOptional Json.decodeFloat (optional .float time) = .ok time := by
    cases time <;> rfl
  have hawaits : Json.decodeOptional Json.decodeInteger (optional .integer m.awaitCount) = .ok m.awaitCount := by
    cases m.awaitCount <;> rfl
  rw [decode, written, Json.decodeFields, ofFields]
  simp only [Json.field, Json.lookup?, List.reverse_cons, List.reverse_nil, List.nil_append, List.cons_append,
    List.find?_cons, String.reduceEq, decide_false, decide_true, Option.map_some, htotal, htime, hawaits]
  rfl

/-- A metric whose time is not finite is no metric as it is written. -/
theorem Metric.decode_written_ne {m m' : Metric} (h : m.totalTime.isFinite = false) : decode m.written ≠ .ok m' := by
  intro hdecode
  rw [decode, written, Option.filter_some, if_neg (by simp [h]), Json.decodeFields, ofFields] at hdecode
  simp only [Json.Decoded.map_eq_ok] at hdecode
  obtain ⟨⟨name, total, others⟩, hparts, -⟩ := hdecode
  obtain ⟨-, hparts⟩ := Json.Decoded.both_eq_ok.mp hparts
  obtain ⟨htotal, -⟩ := Json.Decoded.both_eq_ok.mp hparts
  simp only [Json.field, Json.lookup?, List.reverse_cons, List.reverse_nil, List.nil_append, List.cons_append,
    List.find?_cons, String.reduceEq, decide_false, decide_true, Option.map_some] at htotal
  cases htotal

/-- The parts of results are taken apart one by one. -/
theorem Results.decode_written (now : Timestamp) {r : Results} (htimestamp : r.timestamp.IsValid) :
    decode now r.written =
      ((Json.decodeList Metric.decode (.array (r.metrics.map Metric.written))).within (.field "executionMetrics")).map
        fun metrics => { r with metrics } := by
  have htime : Json.decodeTimestamp (.string r.timestamp.text) = .ok r.timestamp := by
    simp only [Json.decodeTimestamp, Timestamp.ofText?_text htimestamp]
  rw [decode, written, Json.decodeFields, ofFields]
  simp only [Json.field, Json.lookup?, List.reverse_cons, List.reverse_nil, List.nil_append, List.cons_append,
    List.find?_cons, String.reduceEq, decide_false, decide_true, Option.map_some, r.summary.decode_document, htime]
  cases Json.decodeList Metric.decode (.array (r.metrics.map Metric.written)) <;> rfl

/-! ## What is read is sound -/

section Read

variable {α : Type}

/-- The value of a field is taken out of one of the fields, unless it is absent. -/
theorem Json.field_eq_ok {name other : String} {absent : Option α} {decode : Decoder α} {fields : List (String × Json)}
    {a : α} (h : field name other absent decode fields = .ok a) :
    absent = some a ∨ ∃ f ∈ fields, decode f.2 = .ok a := by
  have hmem {key : String} {value : Json} (hvalue : lookup? fields key = some value) :
      ∃ f ∈ fields, f.2 = value := by
    obtain ⟨f, hf, rfl⟩ := Option.map_eq_some_iff.mp hvalue
    exact ⟨f, List.mem_reverse.mp (List.mem_of_find?_eq_some hf), rfl⟩
  rw [field.eq_def] at h
  split at h
  · rename_i hvalue
    obtain ⟨f, hf, rfl⟩ := hmem hvalue
    exact Or.inr ⟨f, hf, Decoded.within_eq_ok.mp h⟩
  · rename_i hvalue
    obtain ⟨f, hf, rfl⟩ := hmem hvalue
    exact Or.inr ⟨f, hf, Decoded.within_eq_ok.mp h⟩
  · cases h
    exact Or.inl rfl
  · cases h

/-- An integer of a field is short, if the integers of all fields are. -/
theorem Json.isShort_of_field {name other : String} {absent : Option Int} {fields : List (String × Json)} {n : Int}
    (hfields : ∀ f ∈ fields, HasShortIntegers f.2) (habsent : ∀ n ∈ absent, IsShort n)
    (h : field name other absent decodeInteger fields = .ok n) : IsShort n := by
  rcases field_eq_ok h with hnone | ⟨f, hf, hdecode⟩
  · exact habsent n hnone
  · exact isShort_of_decodeInteger (hfields f hf) hdecode

/-- Items of a list are sound, if a decoder makes sound items of short documents. -/
theorem Json.decodeList_sound {decode : Decoder α} {P : α → Prop} {d : Json} {values : List α}
    (hd : HasShortIntegers d) (hdecode : ∀ d a, HasShortIntegers d → decode d = .ok a → P a)
    (h : decodeList decode d = .ok values) : ∀ a ∈ values, P a := by
  cases d with
  | array items =>
    rw [HasShortIntegers, haveShortIntegers_iff] at hd
    have hitems := (List.forall₂_and_left items values).mpr ⟨hd, Decoded.items_eq_ok.mp h⟩
    have hsound : List.Forall₂ (fun d a => P a ∧ HasShortIntegers d) items values :=
      hitems.imp fun d a hitem => ⟨hdecode d a hitem.1 hitem.2, hitem.1⟩
    exact ((List.forall₂_and_left _ _).mp hsound.flip).1
  | null | bool _ | integer _ | float _ | string _ | object _ => cases h

/-- The fields of a record whose integers are short. -/
theorem Json.decodeFields_eq_ok {decode : List (String × Json) → Decoded α} {d : Json} {a : α}
    (hd : HasShortIntegers d) (h : decodeFields decode d = .ok a) :
    ∃ fields, (∀ f ∈ fields, HasShortIntegers f.2) ∧ decode fields = .ok a := by
  cases d with
  | object fields =>
    rw [HasShortIntegers, fieldsHaveShortIntegers_iff] at hd
    exact ⟨fields, hd, h⟩
  | null | bool _ | integer _ | float _ | string _ | array _ => cases h

theorem FileDetails.isSound_of_decode {d : Json} {details : FileDetails} (hd : d.HasShortIntegers)
    (h : decode d = .ok details) : details.IsSound := by
  obtain ⟨fields, hfields, h⟩ := Json.decodeFields_eq_ok hd h
  simp only [ofFields, Json.Decoded.map_eq_ok] at h
  obtain ⟨⟨path, count, functions⟩, hparts, rfl⟩ := h
  obtain ⟨-, hparts⟩ := Json.Decoded.both_eq_ok.mp hparts
  obtain ⟨hcount, -⟩ := Json.Decoded.both_eq_ok.mp hparts
  exact Json.isShort_of_field hfields (by rintro n ⟨⟩) hcount

theorem Summary.isSound_of_decode {d : Json} {s : Summary} (hd : d.HasShortIntegers)
    (h : decode d = .ok s) : s.IsSound := by
  obtain ⟨fields, hfields, h⟩ := Json.decodeFields_eq_ok hd h
  simp only [ofFields, Json.Decoded.map_eq_ok] at h
  obtain ⟨⟨files, withAsync, functions, details⟩, hparts, rfl⟩ := h
  obtain ⟨hfiles, hparts⟩ := Json.Decoded.both_eq_ok.mp hparts
  obtain ⟨hwithAsync, hparts⟩ := Json.Decoded.both_eq_ok.mp hparts
  obtain ⟨hfunctions, hdetails⟩ := Json.Decoded.both_eq_ok.mp hparts
  have hzero : ∀ n ∈ some (0 : Int), Json.IsShort n := by
    rintro n ⟨⟩
    decide
  refine ⟨Json.isShort_of_field hfields hzero hfiles, Json.isShort_of_field hfields hzero hwithAsync,
    Json.isShort_of_field hfields hzero hfunctions, ?_⟩
  rcases Json.field_eq_ok hdetails with hnone | ⟨f, hf, hdecode⟩
  · cases hnone
    exact nofun
  · exact Json.decodeList_sound (hfields f hf) (fun _ _ => FileDetails.isSound_of_decode) hdecode

/-- A value that need not be there is that of its document, if it is there. -/
theorem Json.decodeOptional_eq_some {decode : Decoder α} {d : Json} {a : α}
    (h : decodeOptional decode d = .ok (some a)) : decode d = .ok a := by
  rw [decodeOptional.eq_def] at h
  split at h
  · cases h
  · obtain ⟨b, hb, heq⟩ := Decoded.map_eq_ok.mp h
    cases heq
    exact hb

theorem Metric.decodeTime_nonneg {d : Json} {x : Float} (h : decodeTime d = .ok x) : 0.0 ≤ x := by
  rw [decodeTime] at h
  split at h
  · split at h
    · rename_i hnonneg
      cases h
      exact hnonneg
    · cases h
  · cases h

theorem Metric.isSound_of_decode {d : Json} {m : Metric} (hd : d.HasShortIntegers) (h : decode d = .ok m) :
    m.IsSound := by
  obtain ⟨fields, hfields, h⟩ := Json.decodeFields_eq_ok hd h
  simp only [ofFields, Json.Decoded.map_eq_ok] at h
  obtain ⟨⟨name, total, compute, suspend, awaits, depth⟩, hparts, rfl⟩ := h
  obtain ⟨-, hparts⟩ := Json.Decoded.both_eq_ok.mp hparts
  obtain ⟨htotal, hparts⟩ := Json.Decoded.both_eq_ok.mp hparts
  obtain ⟨-, hparts⟩ := Json.Decoded.both_eq_ok.mp hparts
  obtain ⟨-, hparts⟩ := Json.Decoded.both_eq_ok.mp hparts
  obtain ⟨hawaits, hdepth⟩ := Json.Decoded.both_eq_ok.mp hparts
  refine ⟨?_, ?_, Json.isShort_of_field hfields ?_ hdepth⟩
  · rcases Json.field_eq_ok htotal with hnone | ⟨f, -, hdecode⟩
    · cases hnone
    · exact decodeTime_nonneg hdecode
  · rcases Json.field_eq_ok hawaits with hnone | ⟨f, hf, hdecode⟩
    · cases hnone
      rintro n ⟨⟩
    · rintro n rfl
      exact Json.isShort_of_decodeInteger (hfields f hf) (Json.decodeOptional_eq_some hdecode)
  · rintro n ⟨⟩
    decide

theorem Json.isValid_of_decodeTimestamp {d : Json} {t : Timestamp} (h : decodeTimestamp d = .ok t) : t.IsValid := by
  cases d with
  | string s =>
    simp only [decodeTimestamp] at h
    split at h
    · rename_i htext
      cases h
      exact Timestamp.isValid_ofText htext
    · cases h
  | integer n =>
    simp only [decodeTimestamp] at h
    split at h
    · rename_i hcount
      cases h
      exact Timestamp.isValid_ofCount hcount
    · cases h
  | float x =>
    simp only [decodeTimestamp] at h
    split at h
    · rename_i hfloat
      cases h
      exact Timestamp.isValid_ofFloat hfloat
    · cases h
  | null | bool _ | array _ | object _ => cases h

/-- Results that are read from a text are sound. -/
theorem Results.isSound_of_ofText {now : Timestamp} {text : String} {r : Results} (hnow : now.IsValid)
    (h : ofText now text = .ok r) : r.IsSound := by
  rw [ofText] at h
  split at h
  · rename_i d hread
    obtain ⟨fields, hfields, h⟩ := Json.decodeFields_eq_ok (Json.hasShortIntegers_of_read hread) h
    simp only [ofFields, Json.Decoded.map_eq_ok] at h
    obtain ⟨⟨summary, metrics, timestamp⟩, hparts, rfl⟩ := h
    obtain ⟨hsummary, hparts⟩ := Json.Decoded.both_eq_ok.mp hparts
    obtain ⟨hmetrics, htimestamp⟩ := Json.Decoded.both_eq_ok.mp hparts
    refine ⟨?_, ?_, ?_⟩
    · rcases Json.field_eq_ok hsummary with hnone | ⟨f, hf, hdecode⟩
      · cases hnone
      · exact Summary.isSound_of_decode (hfields f hf) hdecode
    · rcases Json.field_eq_ok hmetrics with hnone | ⟨f, hf, hdecode⟩
      · cases hnone
        exact nofun
      · exact Json.decodeList_sound (hfields f hf) (fun _ _ => Metric.isSound_of_decode) hdecode
    · rcases Json.field_eq_ok htimestamp with hnone | ⟨f, -, hdecode⟩
      · cases hnone
        exact hnow
      · exact Json.isValid_of_decodeTimestamp hdecode
  · cases h

end Read

/-! ## Results read back -/

/-- Sound results with finite times are read back from their text as what is kept of them. -/
theorem Results.ofText_text (now : Timestamp) (indented : Bool) {r : Results} (h : r.IsSound)
    (hfinite : ∀ m ∈ r.metrics, m.totalTime.isFinite = true) : ofText now (r.text indented) = .ok r.kept := by
  have hmetrics : Json.decodeList Metric.decode (.array (r.metrics.map Metric.written)) = .ok (r.metrics.map Metric.kept) :=
    Json.Decoded.items_map r.metrics (fun m hm => Metric.decode_written (h.metrics m hm).totalTime (hfinite m hm)) 0
  rw [ofText_text_eq now indented h, decode_written now h.timestamp, hmetrics]
  rfl

/-- Results with a total time that is not finite are written, but not read. -/
theorem Results.ofText_text_ne (now : Timestamp) (indented : Bool) {r : Results} (h : r.IsSound) {m : Metric}
    (hm : m ∈ r.metrics) (hinfinite : m.totalTime.isFinite = false) (back : Results) :
    ofText now (r.text indented) ≠ .ok back := by
  intro hback
  rw [ofText_text_eq now indented h, decode_written now h.timestamp] at hback
  obtain ⟨metrics, hmetrics, -⟩ := Json.Decoded.map_eq_ok.mp hback
  have hread := List.forall₂_map_left_iff.mp (Json.Decoded.items_eq_ok.mp (Json.Decoded.within_eq_ok.mp hmetrics))
  have hfinite : List.Forall₂ (fun m m' => m.totalTime.isFinite = true ∧ Metric.decode m.written = .ok m')
      r.metrics metrics :=
    hread.imp fun m m' hdecode => ⟨by_contra fun hnot => Metric.decode_written_ne (by simpa using hnot) hdecode, hdecode⟩
  rw [((List.forall₂_and_left _ _).mp hfinite).1 m hm] at hinfinite
  cases hinfinite

/-- Results that are accepted: put together from sound parts, or read from any text at a valid moment. -/
inductive Results.IsAccepted : Results → Prop
  | built {r : Results} (h : r.IsSound) : IsAccepted r
  | read {r : Results} {now : Timestamp} {text : String} (hnow : now.IsValid) (h : ofText now text = .ok r) :
    IsAccepted r

theorem Results.IsAccepted.isSound {r : Results} (h : r.IsAccepted) : r.IsSound := by
  cases h with
  | built h => exact h
  | read hnow h => exact isSound_of_ofText hnow h

theorem Metric.kept_of_finite {m : Metric} (hcompute : ∀ x ∈ m.computeTime, x.isFinite = true)
    (hsuspend : ∀ x ∈ m.suspendTime, x.isFinite = true) : m.kept = m := by
  have hfilter {time : Option Float} (h : ∀ x ∈ time, x.isFinite = true) : time.filter (·.isFinite) = time := by
    cases time with
    | none => rfl
    | some x => rw [Option.filter_some, if_pos (h x rfl)]
  rw [kept, hfilter hcompute, hfilter hsuspend]

/-- Results that count more files than an integer may say are written, but not read. -/
theorem Results.ofText_text_long (now : Timestamp) (indented : Bool) {r : Results} (h : ¬ Json.IsShort r.summary.files) :
    ofText now (r.text indented) = Json.Decoded.fail .invalidDocument := by
  have hstyle := Json.resultStyle_isReadable indented
  have hsorted := Json.resultStyle_sorted indented
  have hsummary : Json.Refused (Json.resultStyle indented) 199 r.summary.document :=
    (Json.refused_integer _ 198 h).object hstyle hsorted _
  have hdocument : Json.Refused (Json.resultStyle indented) Json.maxDepth r.written :=
    hsummary.object hstyle hsorted _
  rw [ofText, text_eq, hdocument.read]

end Stopwatch
