/-
  Timestamps read back.

  Whatever a timestamp is read from, its day is a day of the calendar and its time a time of day.
  Such a timestamp is read back from its text as it was.
-/
import Stopwatch.Proofs.Json.Tokens
import Stopwatch.Timestamp

namespace Stopwatch.Timestamp

/-! ## The calendar -/

/-- A day of the calendar, and a time of day. -/
structure IsValid (t : Timestamp) : Prop where
  year : 1 ≤ t.year ∧ t.year ≤ 9999
  month : 1 ≤ t.month ∧ t.month ≤ 12
  day : 1 ≤ t.day ∧ t.day ≤ daysIn t.year t.month
  hour : t.hour ≤ 23
  minute : t.minute ≤ 59
  second : t.second ≤ 59
  microsecond : t.microsecond < 1000000
  offset : ∀ o ∈ t.offset, o.natAbs < 24 * 60

/-- The year of an era in which a day lies; years start on the first of March. -/
def yearOfEra (dayOfEra : Nat) : Nat :=
  (dayOfEra - dayOfEra / 1460 + dayOfEra / 36524 - dayOfEra / 146096) / 365

/-- The day of an era on which a year starts. -/
def yearStart (year : Nat) : Nat :=
  365 * year + year / 4 - year / 100

/-- The number of days of a year that starts on the first of March. -/
def yearLength (year : Nat) : Nat :=
  if isLeap (year + 1) then 366 else 365

/-- A later day does not lie in an earlier year. -/
theorem yearOfEra_mono {a b : Nat} (h : a ≤ b) (hb : b < 146097) : yearOfEra a ≤ yearOfEra b := by
  induction b, h using Nat.le_induction with
  | base => exact le_rfl
  | succ n hn ih =>
    have hstep : yearOfEra n ≤ yearOfEra (n + 1) := by
      simp only [yearOfEra]
      omega
    exact (ih (by omega)).trans hstep

/-- The first and the last day of a year lie in it. -/
theorem yearOfEra_ends : ∀ year < 400, yearOfEra (yearStart year) = year ∧
    yearOfEra (yearStart year + yearLength year - 1) = year := by
  decide +kernel

/-- A year starts when the one before it is over. -/
theorem yearStart_succ : ∀ year < 399, yearStart (year + 1) = yearStart year + yearLength year := by
  decide +kernel

/-- A day lies in its year. -/
theorem mem_yearOfEra {day : Nat} (h : day < 146097) :
    yearOfEra day < 400 ∧ yearStart (yearOfEra day) ≤ day ∧
      day < yearStart (yearOfEra day) + yearLength (yearOfEra day) := by
  have hlt : yearOfEra day < 400 := by
    have hlast : yearOfEra 146096 = 399 := by decide
    have hmono := yearOfEra_mono (show day ≤ 146096 by omega) (by decide)
    omega
  refine ⟨hlt, ?_, ?_⟩
  · by_contra hearly
    obtain ⟨year, hyear⟩ : ∃ year, yearOfEra day = year + 1 := by
      refine Nat.exists_eq_succ_of_ne_zero fun hzero => hearly ?_
      rw [hzero]
      exact Nat.zero_le day
    -- a day before the year starts lies in the year before it at the latest
    have hstart := yearStart_succ year (by omega)
    rw [hyear] at hearly
    have hmono := yearOfEra_mono (show day ≤ yearStart year + yearLength year - 1 by omega) ?_
    · have hend := (yearOfEra_ends year (by omega)).2
      omega
    · have hbound : ∀ year < 400, yearStart year + yearLength year - 1 < 146097 := by decide +kernel
      exact hbound year (by omega)
  · by_contra hlate
    rcases Nat.lt_or_ge (yearOfEra day) 399 with hless | hlast
    · have hstart := yearStart_succ (yearOfEra day) hless
      have hnext := (yearOfEra_ends (yearOfEra day + 1) (by omega)).1
      have hmono := yearOfEra_mono (show yearStart (yearOfEra day + 1) ≤ day by omega) h
      omega
    · have hyear : yearOfEra day = 399 := by omega
      have hend : yearStart 399 + yearLength 399 = 146097 := by decide
      rw [hyear] at hlate
      omega

/-- Leap years come again in every era. -/
theorem isLeap_add_eras (year eras : Nat) : isLeap (year + eras * 400) = isLeap year := by
  have hfour : (year + eras * 400) % 4 = year % 4 := by omega
  have hhundred : (year + eras * 400) % 100 = year % 100 := by omega
  have hera : (year + eras * 400) % 400 = year % 400 := by omega
  simp only [isLeap, hfour, hhundred, hera]

/-- The month and the day some days after the first of March. -/
def monthAndDay (dayOfYear : Nat) : Nat × Nat :=
  let shifted := (5 * dayOfYear + 2) / 153
  (if shifted < 10 then shifted + 3 else shifted - 9, dayOfYear - (153 * shifted + 2) / 5 + 1)

/-- Only February has different lengths, and it is the last month of a year. -/
theorem monthAndDay_isDay : ∀ dayOfYear < 366, let (month, day) := monthAndDay dayOfYear
    1 ≤ month ∧ month ≤ 12 ∧ 1 ≤ day ∧ day ≤ if month = 2 then (if dayOfYear < 365 then 28 else 29) else daysIn 0 month := by
  decide +kernel

theorem daysIn_of_ne {month : Nat} (h : month ≠ 2) (year year' : Nat) : daysIn year month = daysIn year' month := by
  unfold daysIn
  split <;> first | rfl | contradiction

/-- A count of days gives a day of the calendar. -/
theorem ofDays_isDay {days year month day : Nat} (h : ofDays days = (year, month, day)) :
    1 ≤ month ∧ month ≤ 12 ∧ 1 ≤ day ∧ day ≤ daysIn year month := by
  obtain ⟨-, hstart, hend⟩ := mem_yearOfEra (Nat.mod_lt days (show 0 < 146097 by decide))
  have hleap := isLeap_add_eras (yearOfEra (days % 146097) + 1) (days / 146097)
  generalize hdayOfYear : days % 146097 - yearStart (yearOfEra (days % 146097)) = dayOfYear
  have hparts : (yearOfEra (days % 146097) + days / 146097 * 400 + (if (monthAndDay dayOfYear).1 ≤ 2 then 1 else 0),
      monthAndDay dayOfYear) = (year, month, day) := by
    rw [← h, ← hdayOfYear]
    rfl
  have hlength : dayOfYear < yearLength (yearOfEra (days % 146097)) := by omega
  have hday := monthAndDay_isDay dayOfYear (by unfold yearLength at hlength; split at hlength <;> omega)
  simp only [Prod.mk.injEq] at hparts
  obtain ⟨rfl, hmonthDay⟩ := hparts
  rw [hmonthDay] at hday ⊢
  refine ⟨hday.1, hday.2.1, hday.2.2.1, hday.2.2.2.trans ?_⟩
  by_cases hfebruary : month = 2
  · subst hfebruary
    -- the last day of the longest year is the twenty-ninth
    simp only [if_true, le_refl, daysIn]
    rw [show yearOfEra (days % 146097) + days / 146097 * 400 + 1 =
      yearOfEra (days % 146097) + 1 + days / 146097 * 400 by omega, hleap]
    unfold yearLength at hlength
    split at hlength
    · rename_i hyear
      rw [if_pos hyear]
      split <;> omega
    · rename_i hyear
      rw [if_neg hyear, if_pos (by omega)]
  · rw [if_neg hfebruary]
    exact (daysIn_of_ne hfebruary _ _).le

/-! ## Counts -/

/-- What a number of microseconds stands for is valid. -/
theorem isValid_ofEpoch {microseconds : Int} {t : Timestamp} (h : ofEpoch? microseconds = some t) : t.IsValid := by
  simp only [ofEpoch?] at h
  split at h
  · cases h
  generalize hdays : ofDays _ = found at h
  obtain ⟨year, month, day⟩ := found
  obtain ⟨hmonth, hmonth', hday, hday'⟩ := ofDays_isDay hdays
  generalize hrest : (microseconds + epochDays * dayLength).toNat % dayLength = rest at h
  have hlt : rest < 86400000000 := hrest ▸ Nat.mod_lt _ (by decide)
  dsimp only at h
  split at h
  · cases h
  · rename_i hyear
    cases h
    simp only [Bool.or_eq_true, decide_eq_true_eq, not_or] at hyear
    exact
      { year := ⟨Nat.one_le_iff_ne_zero.mpr hyear.1, Nat.le_of_not_lt hyear.2⟩
        month := ⟨hmonth, hmonth'⟩
        day := ⟨hday, hday'⟩
        hour := by dsimp only; omega
        minute := by dsimp only; omega
        second := by dsimp only; omega
        microsecond := Nat.mod_lt _ (by decide)
        offset := fun o ho => by cases ho; decide }

theorem isValid_ofCount {whole : Int} {millionths : Nat} {t : Timestamp} (h : ofCount? whole millionths = some t) :
    t.IsValid := by
  rw [ofCount?] at h
  split at h <;> exact isValid_ofEpoch h

theorem isValid_ofFloat {x : Float} {t : Timestamp} (h : ofFloat? x = some t) : t.IsValid := by
  simp only [ofFloat?] at h
  split at h
  · split at h
    · cases h
    · exact isValid_ofCount h
  · cases h

/-! ## Texts -/

theorem digits?_eq_some {count n : Nat} {cs rest : List Char} (h : digits? count cs = some (n, rest)) : n < 10 ^ count := by
  simp only [digits?] at h
  split at h
  · rename_i hdigits
    simp only [Bool.and_eq_true, decide_eq_true_eq, List.all_eq_true] at hdigits
    cases h
    have hlt := Number.ofDigits_lt hdigits.2
    rwa [hdigits.1] at hlt
  · cases h

/-- A day that is read is one of the calendar. -/
theorem date?_eq_some {cs rest : List Char} {year month day : Nat} (h : date? cs = some ((year, month, day), rest)) :
    (1 ≤ year ∧ year ≤ 9999) ∧ (1 ≤ month ∧ month ≤ 12) ∧ 1 ≤ day ∧ day ≤ daysIn year month := by
  simp only [date?, Option.bind_eq_bind, Option.bind_eq_some_iff] at h
  obtain ⟨⟨year', rest₁⟩, hyear, rest₂, -, ⟨month', rest₃⟩, -, rest₄, -, ⟨day', rest₅⟩, -, h⟩ := h
  have hlt := digits?_eq_some hyear
  dsimp only at h
  split at h
  · simp at h
  · rename_i hgood
    simp only [Bool.or_eq_true, decide_eq_true_eq, not_or] at hgood
    simp at h
    obtain ⟨⟨rfl, rfl, rfl⟩, rfl⟩ := h
    omega

/-- A fraction of a second is less than a second. -/
theorem fraction?_eq_some {cs rest : List Char} {n : Nat} (h : fraction? cs = some (n, rest)) : n < 1000000 := by
  rw [fraction?.eq_def] at h
  split at h
  · rename_i cs
    simp only at h
    split at h
    · cases h
    · cases h
      have hdigits : ∀ c ∈ (Number.spanDigits cs).1.take 6, c.isDigit := fun c hc =>
        List.mem_takeWhile_imp (List.mem_of_mem_take hc)
      have hlt := Number.ofDigits_lt hdigits
      have hlength : ((Number.spanDigits cs).1.take 6).length ≤ 6 := List.length_take_le _ _
      generalize Number.ofDigits _ = kept at hlt ⊢
      generalize List.length _ = places at hlt hlength ⊢
      interval_cases places <;> omega
  · cases h
    decide

/-- A zone is less than a day ahead or behind. -/
theorem zone?_eq_some {cs : List Char} {offset : Option Int} (h : zone? cs = some offset) :
    ∀ o ∈ offset, o.natAbs < 24 * 60 := by
  rw [zone?.eq_def] at h
  split at h
  · cases h
    exact nofun
  · cases h
    rintro o ⟨⟩
    decide
  · cases h
    rintro o ⟨⟩
    decide
  · simp only [Option.bind_eq_bind] at h
    split at h
    · cases h
    simp only [Option.bind_eq_some_iff] at h
    obtain ⟨⟨hours, rest⟩, -, ⟨minutes, rest'⟩, -, h⟩ := h
    dsimp only at h
    split at h
    · cases h
    · rename_i hgood
      simp only [Bool.or_eq_true, decide_eq_true_eq, not_or] at hgood
      cases h
      rintro o ⟨⟩
      split <;> omega

theorem isValid_readFull {cs : List Char} {t : Timestamp} (h : readFull? cs = some t) : t.IsValid := by
  simp only [readFull?, Option.bind_eq_bind, Option.bind_eq_some_iff] at h
  obtain ⟨⟨⟨year, month, day⟩, rest⟩, hdate, _, -, ⟨hour, _⟩, -, _, -, ⟨minute, _⟩, -, h⟩ := h
  obtain ⟨hyear, hmonth, hday⟩ := date?_eq_some hdate
  -- seconds may be missing, but what stands behind them is the same
  have hfinish {second microsecond : Nat} {zone : List Char} (hmicrosecond : microsecond < 1000000)
      (h : (if (decide (hour > 23) || decide (minute > 59) || decide (second > 59)) = true then none
        else (zone? zone).bind fun offset =>
          some ⟨year, month, day, hour, minute, second, microsecond, offset⟩) = some t) : t.IsValid := by
    split at h
    · cases h
    · rename_i hgood
      simp only [Bool.or_eq_true, decide_eq_true_eq, not_or, not_lt] at hgood
      obtain ⟨offset, hzone, ht⟩ := Option.bind_eq_some_iff.mp h
      cases ht
      exact ⟨hyear, hmonth, hday, hgood.1.1, hgood.1.2, hgood.2, hmicrosecond, zone?_eq_some hzone⟩
  dsimp only at h
  split at h
  · simp only [Option.bind_eq_some_iff] at h
    obtain ⟨⟨second, _⟩, -, ⟨microsecond, zone⟩, hfraction, _, hpair, h⟩ := h
    cases hpair
    exact hfinish (fraction?_eq_some hfraction) h
  · exact hfinish (show 0 < 1000000 by decide) h

theorem isValid_readCount {cs : List Char} {t : Timestamp} (h : readCount? cs = some t) : t.IsValid := by
  simp only [readCount?, Option.bind_eq_bind, Option.bind_eq_some_iff] at h
  obtain ⟨⟨millionths, rest⟩, -, h⟩ := h
  split at h
  · cases h
  · split at h
    · split at h <;> exact isValid_ofCount h
    · exact isValid_ofCount h

theorem isValid_readDay {cs : List Char} {t : Timestamp} (h : readDay? cs = some t) : t.IsValid := by
  simp only [readDay?, Option.bind_eq_bind, Option.bind_eq_some_iff] at h
  obtain ⟨⟨⟨year, month, day⟩, rest⟩, hdate, h⟩ := h
  obtain ⟨hyear, hmonth, hday⟩ := date?_eq_some hdate
  cases rest with
  | nil =>
    cases h
    exact ⟨hyear, hmonth, hday, Nat.zero_le _, Nat.zero_le _, Nat.zero_le _, show 0 < 1000000 by decide, nofun⟩
  | cons c rest => cases h

/-- A timestamp that is read from a text is valid. -/
theorem isValid_ofText {text : String} {t : Timestamp} (h : ofText? text = some t) : t.IsValid := by
  simp only [ofText?, Option.or_eq_some_iff] at h
  rcases h with hfull | ⟨-, hcount | ⟨-, hday⟩⟩
  · exact isValid_readFull hfull
  · exact isValid_readCount hcount
  · exact isValid_readDay hday

/-! ## Texts read back -/

section Written

variable {t : Timestamp} {rest : List Char}

theorem toList_padded (width n : Nat) : (padded width n).toList = Number.padZeros width (Number.digits n) := by
  simp only [padded, String.toList_append, String.toList_ofList, Number.padZeros, Number.digits, toString,
    Nat.toList_repr, ← String.length_toList]

theorem length_padded (width : Nat) {n : Nat} (hwidth : 0 < width) (h : n < 10 ^ width) :
    (padded width n).toList.length = width := by
  have hlength : (Number.digits n).length ≤ width := (Nat.length_toDigits_le_iff (by decide) hwidth).mpr h
  rw [toList_padded, Number.padZeros, List.length_append, List.length_replicate]
  omega

theorem isDigit_of_mem_padded {width n : Nat} {c : Char} (h : c ∈ (padded width n).toList) : c.isDigit := by
  rw [toList_padded, Number.padZeros] at h
  rcases List.mem_append.mp h with hzero | hdigit
  · exact Number.isDigit_of_mem_replicate hzero
  · exact Number.isDigit_of_mem_digits hdigit

theorem ofDigits_padded (width n : Nat) : Number.ofDigits (padded width n).toList = n := by
  rw [toList_padded, Number.ofDigits_padZeros, Number.ofDigits_digits]

/-- A number that is written with zeros in front is read back. -/
theorem digits?_padded (width : Nat) {n : Nat} (hwidth : 0 < width) (h : n < 10 ^ width) (rest : List Char) :
    digits? width ((padded width n).toList ++ rest) = some (n, rest) := by
  have hlength := length_padded width hwidth h
  have htake : ((padded width n).toList ++ rest).take width = (padded width n).toList :=
    List.take_left' hlength
  have hdrop : ((padded width n).toList ++ rest).drop width = rest := List.drop_left' hlength
  have hall : (padded width n).toList.all Char.isDigit = true :=
    List.all_eq_true.mpr fun c hc => isDigit_of_mem_padded hc
  simp only [digits?, htake, hdrop, hlength, hall, ofDigits_padded, decide_true, Bool.and_self, if_true]

theorem after?_cons {accepts : Char → Bool} {c : Char} (h : accepts c = true) (rest : List Char) :
    after? accepts (c :: rest) = some rest := by
  rw [after?, if_pos h]

theorem daysIn_le (year month : Nat) : daysIn year month ≤ 31 := by
  unfold daysIn
  split <;> first | decide | (split <;> decide)

/-- A day is read back, whatever follows it. -/
theorem date?_dayText (h : t.IsValid) (rest : List Char) :
    date? (t.dayText.toList ++ rest) = some ((t.year, t.month, t.day), rest) := by
  have hyear := digits?_padded 4 (by decide) (show t.year < 10 ^ 4 by have := h.year; omega)
  have hmonth := digits?_padded 2 (by decide) (show t.month < 10 ^ 2 by have := h.month; omega)
  have hday := digits?_padded 2 (by decide)
    (show t.day < 10 ^ 2 by have := h.day; have := daysIn_le t.year t.month; omega)
  have htext : t.dayText.toList ++ rest =
      (padded 4 t.year).toList ++ '-' :: ((padded 2 t.month).toList ++ '-' :: ((padded 2 t.day).toList ++ rest)) := by
    simp [dayText]
  have hgood : (t.year = 0 || t.month = 0 || t.month > 12 || t.day = 0 || t.day > daysIn t.year t.month) = false := by
    have := h.year
    have := h.month
    have := h.day
    simp only [Bool.or_eq_false_iff, decide_eq_false_iff_not]
    omega
  rw [htext, date?]
  simp only [Option.bind_eq_bind, hyear, hmonth, hday, Option.bind_some, after?_cons, decide_true, hgood]
  rfl

/-- The part of a second that is written is read back. -/
theorem fraction?_text {microsecond : Nat} (h : microsecond < 1000000)
    (hrest : ∀ c ∈ rest.head?, c.isDigit = false ∧ c ≠ '.') :
    fraction? ((if microsecond = 0 then "" else "." ++ padded 6 microsecond).toList ++ rest) =
      some (microsecond, rest) := by
  split
  · rename_i hzero
    subst hzero
    rw [String.toList_empty, List.nil_append, fraction?.eq_def]
    split
    · exact absurd rfl (hrest '.' rfl).2
    · rfl
  · have hdigits : ∀ c ∈ (padded 6 microsecond).toList, c.isDigit := fun c hc => isDigit_of_mem_padded hc
    have hspan := Json.spanDigits_append hdigits fun c hc => (hrest c hc).1
    have hlength := length_padded 6 (by decide) (show microsecond < 10 ^ 6 by omega)
    have hne : (padded 6 microsecond).toList ≠ [] := by
      intro hnil
      rw [hnil] at hlength
      cases hlength
    have hkept : (padded 6 microsecond).toList.take 6 = (padded 6 microsecond).toList :=
      List.take_of_length_le hlength.le
    have htext : ("." ++ padded 6 microsecond).toList ++ rest = '.' :: ((padded 6 microsecond).toList ++ rest) := by
      simp
    rw [htext, fraction?]
    dsimp only
    rw [hspan]
    dsimp only
    rw [if_neg hne, hkept, ofDigits_padded, hlength]
    simp

/-- Hours and minutes behind a sign are read as an offset. -/
theorem zone?_signed {sign : Char} (hsign : sign = '+' ∨ sign = '-') {hours minutes : Nat} (hhours : hours ≤ 23)
    (hminutes : minutes ≤ 59) :
    zone? (sign :: ((padded 2 hours).toList ++ ':' :: (padded 2 minutes).toList)) =
      some (some (if sign = '+' then (hours * 60 + minutes : Int) else -(hours * 60 + minutes : Int))) := by
  have hreadHours := digits?_padded 2 (by decide) (show hours < 10 ^ 2 by omega)
  have hreadMinutes := digits?_padded 2 (by decide) (show minutes < 10 ^ 2 by omega) []
  rw [List.append_nil] at hreadMinutes
  have hknown : (decide (sign ≠ '+') && decide (sign ≠ '-') && decide (sign ≠ '\u2212')) = false := by
    rcases hsign with rfl | rfl <;> decide
  have hgood : (decide (([] : List Char) ≠ []) || decide (minutes > 59) || decide (hours > 23)) = false := by
    simp only [Bool.or_eq_false_iff, decide_eq_false_iff_not, ne_eq, not_true_eq_false, not_false_eq_true, true_and]
    omega
  rw [zone?]
  · simp only [Option.bind_eq_bind, hknown, hreadHours, hreadMinutes, Option.bind_some, hgood]
    rfl
  · rcases hsign with rfl | rfl <;> exact nofun
  · rcases hsign with rfl | rfl <;> exact nofun

/-- An offset that is written is read back. -/
theorem zone?_text {offset : Option Int} (h : ∀ o ∈ offset, o.natAbs < 24 * 60) :
    zone? ((offset.map offsetText).getD "").toList = some offset := by
  cases offset with
  | none => rfl
  | some minutes =>
    have hlt := h minutes rfl
    rw [Option.map_some, Option.getD_some, offsetText]
    split
    · rename_i hzero
      rw [hzero]
      rfl
    · have hread {sign : Char} (hsign : sign = '+' ∨ sign = '-') :=
        zone?_signed hsign (show minutes.natAbs / 60 ≤ 23 by omega) (show minutes.natAbs % 60 ≤ 59 by omega)
      split
      · have htext : ("-" ++ padded 2 (minutes.natAbs / 60) ++ ":" ++ padded 2 (minutes.natAbs % 60)).toList =
            '-' :: ((padded 2 (minutes.natAbs / 60)).toList ++ ':' :: (padded 2 (minutes.natAbs % 60)).toList) := by
          simp
        have hvalue : -(((minutes.natAbs / 60 : Nat) : Int) * 60 + (minutes.natAbs % 60 : Nat)) = minutes := by omega
        rw [htext, hread (Or.inr rfl), if_neg (by decide), hvalue]
      · have htext : ("+" ++ padded 2 (minutes.natAbs / 60) ++ ":" ++ padded 2 (minutes.natAbs % 60)).toList =
            '+' :: ((padded 2 (minutes.natAbs / 60)).toList ++ ':' :: (padded 2 (minutes.natAbs % 60)).toList) := by
          simp
        have hvalue : ((minutes.natAbs / 60 : Nat) : Int) * 60 + (minutes.natAbs % 60 : Nat) = minutes := by omega
        rw [htext, hread (Or.inl rfl), if_pos rfl, hvalue]

/-- What is written for an offset ends the digits before it. -/
theorem head?_zone (offset : Option Int) :
    ∀ c ∈ ((offset.map offsetText).getD "").toList.head?, c.isDigit = false ∧ c ≠ '.' := by
  cases offset with
  | none => exact nofun
  | some minutes =>
    intro c hc
    rw [Option.map_some, Option.getD_some, offsetText] at hc
    split at hc
    · cases hc
      decide
    · simp only [String.toList_append] at hc
      split at hc
      · cases hc
        decide
      · cases hc
        decide

/-- A valid timestamp is read back from its text. -/
theorem readFull?_text (h : t.IsValid) : readFull? t.text.toList = some t := by
  have hhour := digits?_padded 2 (by decide) (show t.hour < 10 ^ 2 by have := h.hour; omega)
  have hminute := digits?_padded 2 (by decide) (show t.minute < 10 ^ 2 by have := h.minute; omega)
  have hsecond := digits?_padded 2 (by decide) (show t.second < 10 ^ 2 by have := h.second; omega)
  have hfraction := fraction?_text h.microsecond (head?_zone t.offset)
  have hzone := zone?_text h.offset
  have htext : t.text.toList = t.dayText.toList ++ 'T' :: ((padded 2 t.hour).toList ++ ':' ::
      ((padded 2 t.minute).toList ++ ':' :: ((padded 2 t.second).toList ++
        ((if t.microsecond = 0 then "" else "." ++ padded 6 t.microsecond).toList ++
          ((t.offset.map offsetText).getD "").toList)))) := by
    simp [text]
  have hgood : (decide (t.hour > 23) || decide (t.minute > 59) || decide (t.second > 59)) = false := by
    have := h.hour
    have := h.minute
    have := h.second
    simp only [Bool.or_eq_false_iff, decide_eq_false_iff_not]
    omega
  rw [htext, readFull?]
  simp only [Option.bind_eq_bind, date?_dayText h, hhour, hminute, hsecond, hfraction, hzone, Option.bind_some,
    after?_cons, decide_true, Bool.true_or, Option.pure_def, hgood]
  rfl

theorem ofText?_text (h : t.IsValid) : ofText? t.text = some t := by
  rw [ofText?, readFull?_text h]
  rfl

end Written

end Stopwatch.Timestamp
