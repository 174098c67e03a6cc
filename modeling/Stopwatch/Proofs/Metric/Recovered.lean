/-
  What recovery comes to.

  A file of records is taken as a whole or not at all: every document of its list gives one
  metric, and only then is the file removed.  Whatever else stands under the path that an
  output announces, nothing is removed and the tagged lines of the output count.
-/
import Stopwatch.Proofs.Files.Change
import Stopwatch.Proofs.Metric.Record
import Stopwatch.Run.Basic

namespace Stopwatch

/-! ## Lists of documents -/

namespace Json.Decoded

variable {α β : Type}

theorem within_eq_ok {step : Step} {d : Decoded α} {a : α} : d.within step = .ok a ↔ d = .ok a := by
  cases d <;> simp [within, Except.mapError]

theorem both_eq_ok {d : Decoded α} {d' : Decoded β} {a : α} {b : β} :
    both d d' = .ok (a, b) ↔ d = .ok a ∧ d' = .ok b := by
  cases d <;> cases d' <;> simp [both]

theorem map_eq_ok {d : Decoded α} {f : α → β} {b : β} : d.map f = .ok b ↔ ∃ a, d = .ok a ∧ f a = b := by
  cases d <;> simp [Except.map]

/-- A list is decoded if each of its documents is. -/
theorem items_eq_ok {decode : Decoder α} {index : Nat} {documents : List Json} {values : List α} :
    items decode index documents = .ok values ↔
      List.Forall₂ (fun d a => decode d = .ok a) documents values := by
  induction documents generalizing index values with
  | nil => cases values <;> simp [items]
  | cons d documents ih =>
    rw [items, map_eq_ok]
    constructor
    · rintro ⟨⟨a, rest⟩, hboth, rfl⟩
      obtain ⟨hfirst, hrest⟩ := both_eq_ok.mp hboth
      exact .cons (within_eq_ok.mp hfirst) (ih.mp hrest)
    · rintro (_ | ⟨hfirst, hrest⟩)
      exact ⟨(_, _), both_eq_ok.mpr ⟨within_eq_ok.mpr hfirst, ih.mpr hrest⟩, rfl⟩

end Json.Decoded

/-- What is related through something in between. -/
theorem forall₂_comp_iff {α β γ : Type} {R : α → β → Prop} {S : β → γ → Prop} {as : List α} {cs : List γ} :
    List.Forall₂ (fun a c => ∃ b, R a b ∧ S b c) as cs ↔
      ∃ bs, List.Forall₂ R as bs ∧ List.Forall₂ S bs cs := by
  constructor
  · intro h
    induction h with
    | nil => exact ⟨[], .nil, .nil⟩
    | cons hfirst _ ih =>
      obtain ⟨b, hab, hbc⟩ := hfirst
      obtain ⟨bs, hR, hS⟩ := ih
      exact ⟨b :: bs, .cons hab hR, .cons hbc hS⟩
  · rintro ⟨bs, hR, hS⟩
    induction hR generalizing cs with
    | nil =>
      cases hS
      exact .nil
    | cons hab _ ih =>
      cases hS with
      | cons hbc hS => exact .cons ⟨_, hab, hbc⟩ (ih hS)

/-! ## Files of records -/

namespace Record

/-- A metric is that of a document: the document is the record of a call, and the call took the
time of the metric. -/
def IsMetricOf (d : Json) (m : Metric) : Prop :=
  ∃ r, decode d = .ok r ∧ 0.0 ≤ atLeastZero r.duration ∧ m = Metric.ofCall r.function (atLeastZero r.duration)

theorem ofBytes_eq_ok {bytes : List UInt8} {records : List Record} :
    ofBytes bytes = .ok records ↔ ∃ documents, Json.readBytes? bytes = some (.array documents) ∧
      List.Forall₂ (fun d r => decode d = .ok r) documents records := by
  rw [ofBytes]
  cases Json.readBytes? bytes with
  | none => simp [Json.Decoded.fail]
  | some document =>
    cases document with
    | array documents => simp [Json.decodeList, Json.Decoded.items_eq_ok]
    | null | bool _ | integer _ | float _ | string _ | object _ => simp [Json.decodeList, Json.Decoded.fail]

theorem metric_eq_ok {r : Record} {m : Metric} :
    r.metric = .ok m ↔ 0.0 ≤ atLeastZero r.duration ∧ m = Metric.ofCall r.function (atLeastZero r.duration) := by
  simp only [metric, ge_iff_le]
  split
  · rename_i hle
    simp [hle, eq_comm]
  · rename_i hle
    simp [hle, Json.Decoded.fail, Json.Decoded.within, Except.mapError]

/-- Each record gives a metric, or there are none. -/
theorem metrics_eq_ok_iff {records : List Record} {found : List Metric} :
    metrics records = .ok found ↔ List.Forall₂ (fun r m => r.metric = .ok m) records found := by
  induction records generalizing found with
  | nil => cases found <;> simp [metrics]
  | cons r records ih =>
    rw [metrics]
    cases hr : r.metric with
    | error issues => cases found <;> simp [hr]
    | ok m =>
      dsimp only
      rw [Json.Decoded.map_eq_ok]
      constructor
      · rintro ⟨rest, hrest, rfl⟩
        exact .cons hr (ih.mp hrest)
      · rintro (_ | ⟨hfirst, hrest⟩)
        obtain rfl := Except.ok.inj (hr.symm.trans hfirst)
        exact ⟨_, ih.mpr hrest, rfl⟩

/-- The records of a file have metrics if each document of its list has one. -/
theorem exists_records_iff {bytes : List UInt8} {found : List Metric} :
    (∃ records, ofBytes bytes = .ok records ∧ metrics records = .ok found) ↔
      ∃ documents, Json.readBytes? bytes = some (.array documents) ∧
        List.Forall₂ IsMetricOf documents found := by
  have hmetric : IsMetricOf = fun d m => ∃ r, decode d = .ok r ∧ r.metric = .ok m := by
    funext d m
    simp only [IsMetricOf, metric_eq_ok]
  simp only [hmetric, ofBytes_eq_ok, metrics_eq_ok_iff, forall₂_comp_iff]
  constructor
  · rintro ⟨records, ⟨documents, hdocuments, hdecode⟩, hmetrics⟩
    exact ⟨documents, hdocuments, records, hdecode, hmetrics⟩
  · rintro ⟨documents, hdocuments, records, hdecode, hmetrics⟩
    exact ⟨records, ⟨documents, hdocuments, hdecode⟩, hmetrics⟩

end Record

namespace Files

/-- The file under a path holds a list of records, of which these are the metrics. -/
def HoldsMetrics (fs : Files) (p : Path) (metrics : List Metric) : Prop :=
  ∃ bytes documents, fs.read p = .ok bytes ∧ Json.readBytes? bytes = some (.array documents) ∧
    List.Forall₂ Record.IsMetricOf documents metrics

/-- Metrics are those of all documents of a file, in the order of the file. -/
theorem metricsAt_eq_ok {fs : Files} {p : Path} {metrics : List Metric} :
    fs.metricsAt p = .ok metrics ↔ fs.HoldsMetrics p metrics := by
  rw [metricsAt, HoldsMetrics]
  cases fs.read p with
  | error fault => simp
  | ok bytes =>
    simp only [Except.ok.injEq, ↓existsAndEq, true_and, ← Record.exists_records_iff]
    cases Record.ofBytes bytes with
    | error issues => simp
    | ok records => cases hmetrics : Record.metrics records <;> simp [Except.mapError, hmetrics]

/-- A file has no metrics because the system refuses to read it, or because of what it holds. -/
theorem metricsAt_eq_error {fs : Files} {p : Path} {f : Failure} (h : fs.metricsAt p = .error f) :
    f.isSystem = true ∨ ∃ issues, f = .invalid issues := by
  rw [metricsAt] at h
  cases hread : fs.read p with
  | error fault =>
    rw [hread] at h
    cases h
    exact Or.inl rfl
  | ok bytes =>
    simp only [hread] at h
    cases hrecords : Record.ofBytes bytes with
    | error issues =>
      rw [hrecords] at h
      cases h
      exact Or.inr ⟨issues, rfl⟩
    | ok records =>
      simp only [hrecords] at h
      cases hmetrics : Record.metrics records with
      | error issues =>
        rw [hmetrics] at h
        cases h
        exact Or.inr ⟨issues, rfl⟩
      | ok metrics =>
        rw [hmetrics] at h
        cases h

/-- Only a file has metrics. -/
theorem exists_file_of_metricsAt {fs : Files} {path : Path} {metrics : List Metric}
    (h : fs.metricsAt path = .ok metrics) :
    ∃ l bytes executable, fs.locate path = .ok l ∧ fs.find? l = some (.file bytes executable) := by
  obtain ⟨issues, hempty⟩ : ∃ issues, Record.ofBytes [] = .error issues := ⟨_, rfl⟩
  rw [metricsAt] at h
  cases hread : fs.read path with
  | error fault =>
    rw [hread] at h
    cases h
  | ok bytes =>
    rw [hread] at h
    cases hlocate : fs.locate path with
    | error fault =>
      rw [read, hlocate] at hread
      cases hread
    | ok l =>
      rw [read, hlocate] at hread
      simp only [bind, Except.bind] at hread
      split at hread
      · rename_i bytes' executable hfile
        exact ⟨l, bytes', executable, rfl, hfile⟩
      · cases hread
      · -- what is read as empty is no document
        cases hread
        simp only [hempty] at h
        cases h
      · cases hread

/-- The metrics that are taken are those of the file. -/
theorem metricsAt_of_takeMetrics {fs files : Files} {path : String} {metrics : List Metric}
    (h : fs.takeMetrics? path = some (metrics, files)) : fs.metricsAt (Path.ofText path) = .ok metrics := by
  rw [takeMetrics?] at h
  cases hfound : fs.metricsAt (Path.ofText path) with
  | error f =>
    simp only [hfound] at h
    cases h
  | ok found =>
    simp only [hfound] at h
    cases h
    rfl

/-- Taking the metrics of a file takes away the entry of its path. -/
theorem takeMetrics_files {fs files : Files} {path : String} {metrics : List Metric}
    (h : fs.takeMetrics? path = some (metrics, files)) :
    ∃ own l bytes executable, fs.locate (Path.ofText path) = .ok l ∧ fs.find? l = some (.file bytes executable) ∧
      fs.locateLink (Path.ofText path) = .ok own ∧ fs.find? own ≠ some .directory ∧ files = fs.erase own := by
  simp only [takeMetrics?] at h
  split at h
  · cases h
  · rename_i hmetrics
    cases h
    obtain ⟨l, bytes, executable, hlocate, hfile⟩ := exists_file_of_metricsAt hmetrics
    obtain ⟨own, hlink, hremove, -⟩ := remove_eq_ok hlocate hfile
    obtain ⟨own', entry, hlink', hfound, hother, -⟩ := remove_inv hremove
    obtain rfl : own = own' := Except.ok.inj (hlink.symm.trans hlink')
    refine ⟨own, l, bytes, executable, hlocate, hfile, hlink, ?_, ?_⟩
    · rw [hfound]
      exact fun heq => hother (Option.some.inj heq)
    · rw [hremove]
      rfl

/-- Recovering metrics takes away at most the entry of a path that leads to a file. -/
theorem recover_files (fs : Files) (output : String) :
    (fs.recover output).files = fs ∨
      ∃ path own l bytes executable, fs.locate path = .ok l ∧ fs.find? l = some (.file bytes executable) ∧
        fs.locateLink path = .ok own ∧ fs.find? own ≠ some .directory ∧
        (fs.recover output).files = fs.erase own := by
  rw [recover, recoverFrom]
  cases htaken : (announcedPath? output).bind fs.takeMetrics? with
  | none => exact Or.inl rfl
  | some found =>
    obtain ⟨metrics, files⟩ := found
    obtain ⟨path, -, hpath⟩ := Option.bind_eq_some_iff.mp htaken
    exact Or.inr ⟨_, takeMetrics_files hpath⟩

end Files

/-! ## Recovery -/

/-- Recovery does not fail, whatever an output announces and whatever stands there.  What has
been recovered is structured if there is a file of records under the path that is announced: then
each of its documents gives one metric, and the entry of that path is gone.  Otherwise the metrics
are those of the tagged lines of the output, and nothing has changed. -/
theorem Run.recover_cases (host : Host) (output : String) :
    ∃ found, Run.recover (·.recover output) host = (.ok found, { host with files := found.files }) ∧
      (found.structured = true → ∃ path own, announcedPath? output = some path ∧
        host.files.HoldsMetrics (Path.ofText path) found.metrics ∧
        host.files.locateLink (Path.ofText path) = .ok own ∧ host.files.find? own ≠ some .directory ∧
        found.files = host.files.erase own) ∧
      (found.structured = false → found.files = host.files ∧ found.metrics = taggedMetrics output ∧
        ∀ path, announcedPath? output = some path →
          ∃ f, host.files.metricsAt (Path.ofText path) = .error f ∧
            (f.isSystem = true ∨ ∃ issues, f = .invalid issues)) := by
  refine ⟨host.files.recover output, rfl, ?_⟩
  rw [Files.recover, Files.recoverFrom]
  cases htaken : (announcedPath? output).bind host.files.takeMetrics? with
  | none =>
    refine ⟨nofun, fun _ => ⟨rfl, rfl, fun path hpath => ?_⟩⟩
    rw [hpath, Option.bind_some, Files.takeMetrics?] at htaken
    cases hmetrics : host.files.metricsAt (Path.ofText path) with
    | error f => exact ⟨f, rfl, Files.metricsAt_eq_error hmetrics⟩
    | ok metrics =>
      simp only [hmetrics] at htaken
      cases htaken
  | some taken =>
    obtain ⟨metrics, files⟩ := taken
    refine ⟨fun _ => ?_, nofun⟩
    obtain ⟨path, hpath, htake⟩ := Option.bind_eq_some_iff.mp htaken
    obtain ⟨own, -, -, -, -, -, hown, hother, hfiles⟩ := Files.takeMetrics_files htake
    exact ⟨path, own, hpath, Files.metricsAt_eq_ok.mp (Files.metricsAt_of_takeMetrics htake), hown, hother, hfiles⟩

end Stopwatch
