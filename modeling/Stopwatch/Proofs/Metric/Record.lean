/-
  Files of records read back.

  A file that is written out of the values of some calls is read as the records of these
  calls.  Integers must be short enough for the reader; every text and every number is
  kept.
-/
import Stopwatch.Metric.Record
import Stopwatch.Proofs.Json.RoundTrip
import Stopwatch.Proofs.Number.Order
import Stopwatch.Proofs.Text.Utf8

namespace Stopwatch

/-! ## Lists of values -/

/-- A list is decoded item by item. -/
theorem Json.Decoded.items_map {α β : Type} {decode : Json.Decoder α} {write : β → Json} {read : β → α}
    (bs : List β) (h : ∀ b ∈ bs, decode (write b) = .ok (read b)) (index : Nat) :
    Json.Decoded.items decode index (bs.map write) = .ok (bs.map read) := by
  induction bs generalizing index with
  | nil => rfl
  | cons b bs ih =>
    have hfirst := h b List.mem_cons_self
    have hrest := ih (fun b hb => h b (List.mem_cons_of_mem _ hb)) (index + 1)
    rw [List.map_cons, items, hfirst, hrest]
    rfl

namespace Record

/-! ## Numbers -/

/-- Numbers as a record holds them. -/
inductive IsNumber : Json → Prop
  | integer {n : Int} (h : (Number.digits n.natAbs).length ≤ Json.maxIntegerDigits) : IsNumber (.integer n)
  | float {x : Float} : IsNumber (.float x)

theorem IsNumber.arranged {style : Json.Style} {d : Json} (h : IsNumber d) : Json.arranged style d = d := by
  cases h <;> rfl

theorem IsNumber.fits {d : Json} (h : IsNumber d) (room : Nat) : Json.Fits Json.recordFileStyle room d := by
  cases h with
  | integer h => cases room <;> exact h
  | @float x => cases room <;> exact Json.recordFileStyle_keeps x

/-! ## Documents -/

theorem recordFileStyle_isReadable : Json.recordFileStyle.IsReadable :=
  ⟨⟨[], rfl, by simp⟩, ⟨[' '], rfl, List.forall_mem_singleton.mpr rfl⟩⟩

/-- In a file the fields of a record stand in the order of their names. -/
theorem arranged_fieldsDocument {duration timestamp : Json} (hduration : IsNumber duration)
    (htimestamp : IsNumber timestamp) (function file : String) (line thread : Int) :
    Json.arranged Json.recordFileStyle (fieldsDocument function duration timestamp line file thread) =
      .object
        [("duration", duration), ("file", .string file), ("function", .string function),
         ("line", .integer line), ("threadId", .integer thread), ("timestamp", timestamp)] := by
  simp only [fieldsDocument, Json.arranged, Json.arrangedFields, hduration.arranged, htimestamp.arranged,
    Json.Style.arrange, Json.recordFileStyle, if_true, List.foldl_cons, List.foldl_nil,
    Json.insertByName, String.reduceLT, if_false]

theorem fits_fieldsDocument {duration timestamp : Json} (hduration : IsNumber duration)
    (htimestamp : IsNumber timestamp) (function file : String) {line thread : Int}
    (hline : IsNumber (.integer line)) (hthread : IsNumber (.integer thread)) (room : Nat) :
    Json.Fits Json.recordFileStyle (room + 1)
      (fieldsDocument function duration timestamp line file thread) := by
  have hstring (s : String) : Json.Fits Json.recordFileStyle room (.string s) := by
    cases room <;> trivial
  simp only [fieldsDocument, Json.Fits, Json.FitFields, and_true]
  exact ⟨hstring function, hduration.fits room, htimestamp.fits room, hline.fits room, hstring file,
    hthread.fits room⟩

/-- A record is taken out of a document that was read back. -/
theorem decode_arranged {duration timestamp : Json} {seconds time : Float}
    (hduration : IsNumber duration) (hseconds : Json.decodeFloat duration = .ok seconds)
    (htimestamp : IsNumber timestamp) (htime : Json.decodeFloat timestamp = .ok time)
    (function file : String) (line thread : Int) :
    decode (Json.arranged Json.recordFileStyle
        (fieldsDocument function duration timestamp line file thread)) =
      .ok ⟨function, seconds, time, line, file, thread⟩ := by
  rw [arranged_fieldsDocument hduration htimestamp, decode, Json.decodeFields, ofFields]
  simp only [Json.field, Json.lookup?, List.reverse_cons, List.reverse_nil, List.nil_append,
    List.cons_append, List.find?_cons, String.reduceEq, decide_false, decide_true, Option.map_some,
    hseconds, htime]
  rfl

/-! ## Metrics -/

/-- A time that is a number is zero or more once it is cut off at zero. -/
theorem atLeastZero_nonneg {x : Float} (hx : x.isNaN = false) : 0.0 ≤ atLeastZero x := by
  rw [atLeastZero]
  split
  · exact Number.zero_le_zero
  · rename_i h
    exact Number.nonneg_of_not_neg hx h

/-- Records whose durations are numbers give one metric each. -/
theorem metrics_eq_ok {records : List Record} (h : ∀ r ∈ records, r.duration.isNaN = false) :
    metrics records =
      .ok (records.map fun r => Metric.ofCall r.function (atLeastZero r.duration)) := by
  induction records with
  | nil => rfl
  | cons r rest ih =>
    have hr := atLeastZero_nonneg (h r List.mem_cons_self)
    have hmetric : r.metric = .ok (Metric.ofCall r.function (atLeastZero r.duration)) := by
      simp only [metric, ge_iff_le, hr, if_true]
    rw [metrics, hmetric, ih fun r hr => h r (List.mem_cons_of_mem _ hr)]
    rfl

end Record

end Stopwatch
