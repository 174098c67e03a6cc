/-
  How long integers can be.

  A document that has been read holds no integer of more digits than the reader accepts, and no decoder
  makes a longer one out of a text, a truth value or a number.  A longer one that has been written is
  not read.
-/
import Stopwatch.Json.Decode
import Stopwatch.Proofs.Json.RoundTrip
import Stopwatch.Proofs.Metric.Recovered

namespace Stopwatch.Json

/-! ## Short integers -/

/-- An integer that is short enough for the reader. -/
def IsShort (n : Int) : Prop :=
  (Number.digits n.natAbs).length ≤ maxIntegerDigits

instance (n : Int) : Decidable (IsShort n) := Nat.decLe _ _

/-- Digits write an integer that has no more digits. -/
theorem length_digits_ofDigits {ds : List Char} (hds : ∀ c ∈ ds, c.isDigit) (hne : ds ≠ []) :
    (Number.digits (Number.ofDigits ds)).length ≤ ds.length :=
  (Nat.length_toDigits_le_iff (by decide) (List.length_pos_of_ne_nil hne)).mpr (Number.ofDigits_lt hds)

/-- The sign does not count. -/
theorem isShort_of_digits {ds : List Char} (negative : Bool) (hds : ∀ c ∈ ds, c.isDigit) (hne : ds ≠ [])
    (hlength : ds.length ≤ maxIntegerDigits) :
    IsShort (if negative then -(Number.ofDigits ds : Int) else Number.ofDigits ds) := by
  have habs : (if negative then -(Number.ofDigits ds : Int) else Number.ofDigits ds).natAbs = Number.ofDigits ds := by
    cases negative <;> simp
  rw [IsShort, habs]
  exact (length_digits_ofDigits hds hne).trans hlength

/-- Machine words are short. -/
theorem isShort_of_isMachineSized {n : Int} (h : isMachineSized n = true) : IsShort n := by
  simp only [isMachineSized, Bool.and_eq_true, decide_eq_true_eq] at h
  have hlt : n.natAbs < 10 ^ 19 := by omega
  have hlength := (Nat.length_toDigits_le_iff (b := 10) (by decide) (show 0 < 19 by decide)).mpr hlt
  exact hlength.trans (by decide)

mutual

/-- All integers of a document are short. -/
def HasShortIntegers : Json → Prop
  | .integer n => IsShort n
  | .array items => HaveShortIntegers items
  | .object fields => FieldsHaveShortIntegers fields
  | _ => True

/-- All integers of some items are short. -/
def HaveShortIntegers : List Json → Prop
  | [] => True
  | item :: items => HasShortIntegers item ∧ HaveShortIntegers items

/-- All integers of some fields are short. -/
def FieldsHaveShortIntegers : List (String × Json) → Prop
  | [] => True
  | (_, value) :: fields => HasShortIntegers value ∧ FieldsHaveShortIntegers fields

end

theorem haveShortIntegers_iff {items : List Json} :
    HaveShortIntegers items ↔ ∀ item ∈ items, HasShortIntegers item := by
  induction items with
  | nil => simp [HaveShortIntegers]
  | cons item items ih => simp [HaveShortIntegers, ih]

theorem fieldsHaveShortIntegers_iff {fields : List (String × Json)} :
    FieldsHaveShortIntegers fields ↔ ∀ f ∈ fields, HasShortIntegers f.2 := by
  induction fields with
  | nil => simp [FieldsHaveShortIntegers]
  | cons f fields ih => simp [FieldsHaveShortIntegers, ih]

/-! ## Reading -/

theorem isDigit_of_readWhole {cs ds rest : List Char} (h : readWhole? cs = some (ds, rest)) :
    (∀ c ∈ ds, c.isDigit) ∧ ds ≠ [] := by
  have hspan : ∀ c ∈ (Number.spanDigits cs).1, c.isDigit := fun _ hc => List.mem_takeWhile_imp hc
  rw [readWhole?] at h
  split at h
  · cases h
  · cases h
  · rename_i hne _
    rw [Option.some.inj h] at hspan hne
    exact ⟨hspan, fun hnil => hne rest (by rw [hnil])⟩

theorem hasShortIntegers_of_readNumber {cs rest : List Char} {d : Json} (h : readNumber? cs = some (d, rest)) :
    HasShortIntegers d := by
  simp only [readNumber?, Option.bind_eq_bind, Option.bind_eq_some_iff] at h
  obtain ⟨⟨whole, rest₁⟩, hwhole, ⟨fraction, rest₂⟩, -, ⟨exponent, rest₃⟩, -, h⟩ := h
  obtain ⟨hdigits, hne⟩ := isDigit_of_readWhole hwhole
  dsimp only at h
  split at h
  · split at h
    · cases h
    · rename_i hlength
      cases h
      exact isShort_of_digits _ hdigits hne (Nat.le_of_not_lt hlength)
  · cases h
    trivial

theorem hasShortIntegers_of_readWord {cs rest : List Char} {d : Json} (h : readWord? cs = some (d, rest)) :
    HasShortIntegers d := by
  obtain ⟨⟨word, document⟩, hmem, hword⟩ := List.exists_of_findSome?_eq_some h
  obtain ⟨after, -, hfound⟩ := Option.map_eq_some_iff.mp hword
  cases hfound
  have hall : ∀ entry ∈ words, HasShortIntegers entry.2 := by
    simp [words, HasShortIntegers]
  exact hall _ hmem

/-- What is read holds short integers only; the induction is on the fuel. -/
theorem hasShortIntegers_of_steps (fuel : Nat) :
    (∀ {room cs d rest}, readValue? fuel room cs = some (d, rest) → HasShortIntegers d) ∧
    (∀ {room cs items rest}, readItems? fuel room cs = some (items, rest) → HaveShortIntegers items) ∧
    (∀ {room cs fields rest}, readFields? fuel room cs = some (fields, rest) → FieldsHaveShortIntegers fields) := by
  induction fuel with
  | zero =>
    refine ⟨fun h => ?_, fun h => ?_, fun h => ?_⟩
    · rw [readValue?] at h
      cases h
    · rw [readItems?] at h
      cases h
    · rw [readFields?] at h
      cases h
  | succ fuel ih =>
    obtain ⟨hvalue, hitems, hfields⟩ := ih
    refine ⟨fun {room cs d rest} h => ?_, fun {room cs items rest} h => ?_, fun {room cs fields rest} h => ?_⟩
    · rw [readValue?.eq_def] at h
      dsimp only at h
      split at h
      · obtain ⟨_, -, hfound⟩ := Option.map_eq_some_iff.mp h
        cases hfound
        trivial
      · split at h
        · cases h
        · split at h
          · cases h
            trivial
          · obtain ⟨_, hread, hfound⟩ := Option.map_eq_some_iff.mp h
            cases hfound
            exact hitems hread
      · split at h
        · cases h
        · split at h
          · cases h
            trivial
          · obtain ⟨_, hread, hfound⟩ := Option.map_eq_some_iff.mp h
            cases hfound
            exact hfields hread
      · cases hword : readWord? cs with
        | some found =>
          rw [hword] at h
          cases h
          exact hasShortIntegers_of_readWord hword
        | none =>
          rw [hword] at h
          exact hasShortIntegers_of_readNumber h
    · rw [readItems?.eq_def] at h
      dsimp only at h
      split at h
      · cases h
      · rename_i hread
        split at h
        · cases h
          exact ⟨hvalue hread, trivial⟩
        · obtain ⟨_, hmore, hfound⟩ := Option.map_eq_some_iff.mp h
          cases hfound
          exact ⟨hvalue hread, hitems hmore⟩
        · cases h
    · rw [readFields?.eq_def] at h
      dsimp only at h
      split at h
      · split at h
        · cases h
        · split at h
          · split at h
            · cases h
            · rename_i hread
              split at h
              · cases h
                exact ⟨hvalue hread, trivial⟩
              · obtain ⟨_, hmore, hfound⟩ := Option.map_eq_some_iff.mp h
                cases hfound
                exact ⟨hvalue hread, hfields hmore⟩
              · cases h
          · cases h
      · cases h

/-- A document that has been read holds short integers only. -/
theorem hasShortIntegers_of_read {cs : List Char} {d : Json} (h : read? cs = some d) : HasShortIntegers d := by
  rw [read?] at h
  split at h
  · rename_i hread
    split at h
    · cases h
      exact (hasShortIntegers_of_steps _).1 hread
    · cases h
  · cases h

/-! ## Integers that are too long -/

/-- A document whose text is not read, from any depth and before any text that ends a number. -/
def Refused (style : Style) (room : Nat) (document : Json) : Prop :=
  ∀ (depth fuel : Nat) (rest : List Char), Stops rest →
    readValue? fuel room (skipSpace (renderAt style depth document ++ rest)) = none

theorem refused_integer (style : Style) (room : Nat) {n : Int} (h : ¬ IsShort n) :
    Refused style room (.integer n) := by
  intro depth fuel rest hrest
  have hskip : skipSpace ((toString n).toList ++ rest) = (toString n).toList ++ rest := by
    obtain ⟨c, others, htext, hc⟩ := exists_toString n
    have hspace : isSpace c = false := by
      rw [Bool.eq_false_iff]
      exact fun hspace => absurd hc (by simp [(isSpace_stops hspace).1])
    rw [htext]
    cases decide (n < 0) with
    | true => exact skipSpace_cons (by decide) _
    | false => exact skipSpace_cons hspace _
  rw [renderAt, hskip]
  cases fuel with
  | zero => rfl
  | succ fuel =>
    rw [readValue_integer fuel room hrest]
    exact if_neg h

/-- An object is refused if the value of its first field is. -/
theorem Refused.object {style : Style} (hstyle : style.IsReadable) (hsorted : style.sorted = false) {room : Nat}
    {field : String × Json} (fields : List (String × Json)) (h : Refused style room field.2) :
    Refused style (room + 1) (.object (field :: fields)) := by
  intro depth fuel rest _
  obtain ⟨gap, hcolon, hgap⟩ := hstyle.colon
  have htexts : (field :: fields).map (renderField style (depth + 1)) ≠ [] := by simp
  obtain ⟨first, space, last, hfirst, -, hlast, hbracket⟩ := exists_bracket hstyle depth '\x7b' '\x7d' htexts
  have htext : renderAt style depth (.object (field :: fields)) =
      '\x7b' :: (first ++ (joined space ((field :: fields).map (renderField style (depth + 1))) ++ (last ++ ['\x7d']))) := by
    rw [← hbracket, renderAt, renderFields_eq_map, Style.arrange, hsorted, if_neg Bool.false_ne_true, List.map_map]
    rfl
  obtain ⟨more, hmore, hstops⟩ : ∃ more,
      joined space ((field :: fields).map (renderField style (depth + 1))) ++ (last ++ '\x7d' :: rest) =
        renderField style (depth + 1) field ++ more ∧ Stops more := by
    cases fields with
    | nil => exact ⟨last ++ '\x7d' :: rest, by simp [joined], stops_append hlast (by decide) rest⟩
    | cons second fields =>
      rw [List.map_cons, List.map_cons, joined_cons_cons, List.append_assoc, List.cons_append]
      exact ⟨_, rfl, stops_cons (by decide) _⟩
  have hfield : renderField style (depth + 1) field ++ more =
      '"' :: (field.1.toList.flatMap (escapeChar style.ascii) ++
        '"' :: (':' :: (gap ++ (renderAt style (depth + 1) field.2 ++ more)))) := by
    simp [renderField, quote, hcolon]
  have hfields (fuel : Nat) : readFields? fuel room (renderField style (depth + 1) field ++ more) = none := by
    cases fuel with
    | zero => rfl
    | succ fuel =>
      rw [hfield, readFields?, skipSpace_cons (by decide)]
      simp only [readString_quoted]
      rw [skipSpace_cons (by decide)]
      simp only
      rw [skipSpace_append hgap, h (depth + 1) fuel more hstops]
  rw [htext]
  simp only [List.cons_append, List.append_assoc, List.nil_append]
  rw [skipSpace_cons (by decide), hmore]
  cases fuel with
  | zero => rfl
  | succ fuel =>
    have hnone := hfields fuel
    rw [hfield] at hnone ⊢
    rw [readValue?, skipSpace_append hfirst, skipSpace_cons (by decide)]
    exact congrArg (Option.map fun x => (Json.object x.1, x.2)) hnone

/-- A text is not read if the document that it was written for is refused. -/
theorem Refused.read {style : Style} {d : Json} (h : Refused style maxDepth d) :
    read? (render style d).toList = none := by
  have hnone := h 0 (2 * (renderAt style 0 d).length + 2) [] stops_nil
  rw [List.append_nil] at hnone
  rw [render, String.toList_ofList, read?, hnone]

/-! ## Taking integers out -/

theorem length_takeSign (cs : List Char) : (Number.takeSign cs).2.length ≤ cs.length := by
  rw [Number.takeSign.eq_def]
  split <;> simp

theorem length_dropZeroFraction (cs : List Char) : (dropZeroFraction cs).length ≤ cs.length := by
  simp only [dropZeroFraction]
  split
  · split
    · rw [List.span_eq_takeWhile_dropWhile]
      exact (List.takeWhile_prefix _).length_le
    · exact le_rfl
  · exact le_rfl

/-- Underscores that are taken away make a text shorter. -/
theorem length_joinDigits {cs ds : List Char} (h : Number.joinDigits? cs = some ds) : ds.length ≤ cs.length := by
  fun_induction Number.joinDigits? cs generalizing ds with
  | case1 =>
    cases h
    exact le_rfl
  | case2 a b rest _ ih =>
    obtain ⟨joined, hjoined, rfl⟩ := Option.map_eq_some_iff.mp h
    have hle := ih hjoined
    simp only [List.length_cons] at hle ⊢
    omega
  | case3 | case4 | case5 => cases h
  | case6 a rest _ _ _ ih =>
    obtain ⟨joined, hjoined, rfl⟩ := Option.map_eq_some_iff.mp h
    exact Nat.succ_le_succ (ih hjoined)

/-- No integer that is taken out of a text has more digits than the text. -/
theorem isShort_of_integerOfText {cs : List Char} {n : Int} (h : integerOfText? cs = some n)
    (hlength : cs.length ≤ maxIntegerDigits) : IsShort n := by
  simp only [integerOfText?, Option.bind_eq_bind, Option.bind_eq_some_iff] at h
  obtain ⟨joined, hjoined, h⟩ := h
  split at h
  · cases h
  · rename_i hgood
    simp only [Bool.or_eq_true, decide_eq_true_eq, Bool.not_eq_true', not_or, Bool.not_eq_false, List.all_eq_true] at hgood
    cases h
    have hle := length_joinDigits hjoined
    have hle' := length_dropZeroFraction (Number.takeSign cs).2
    have hle'' := length_takeSign cs
    exact isShort_of_digits _ hgood.2 hgood.1 (by omega)

/-- An integer that is taken out of a document with short integers is short. -/
theorem isShort_of_decodeInteger {d : Json} {n : Int} (hd : HasShortIntegers d) (h : decodeInteger d = .ok n) :
    IsShort n := by
  cases d with
  | integer m =>
    cases h
    exact hd
  | bool b =>
    cases h
    cases b <;> decide
  | float x =>
    simp only [decodeInteger] at h
    split at h
    · split at h
      · split at h
        · rename_i hsize
          cases h
          exact isShort_of_isMachineSized hsize
        · cases h
      · cases h
    · cases h
  | string s =>
    simp only [decodeInteger] at h
    split at h
    · cases h
    · rename_i hlength
      split at h
      · rename_i htext
        cases h
        exact isShort_of_integerOfText htext (Nat.le_of_not_lt hlength)
      · cases h
  | null | array _ | object _ => cases h

end Stopwatch.Json
