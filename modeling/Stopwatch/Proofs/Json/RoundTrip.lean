/-
  Documents read back.

  A document that is written in any style is read as the same document, with the fields
  of its objects in the order in which they were written.  The induction is on the
  document; the text of a list of items is taken apart item by item.
-/
import Stopwatch.Proofs.Json.Tokens

namespace Stopwatch.Json

/-! ## Styles and documents -/

/-- A style whose separators are the marks of the grammar and space. -/
structure Style.IsReadable (style : Style) : Prop where
  comma : ∃ space, style.comma.toList = ',' :: space ∧ ∀ c ∈ space, isSpace c
  colon : ∃ space, style.colon.toList = ':' :: space ∧ ∀ c ∈ space, isSpace c

mutual

/-- The document with the fields of its objects in the order of a style. -/
def arranged (style : Style) : Json → Json
  | .array items => .array (arrangedItems style items)
  | .object fields => .object (style.arrange (arrangedFields style fields))
  | document => document

/-- The items of a list, each arranged. -/
def arrangedItems (style : Style) : List Json → List Json
  | [] => []
  | item :: items => arranged style item :: arrangedItems style items

/-- The fields of an object, each value arranged. -/
def arrangedFields (style : Style) : List (String × Json) → List (String × Json)
  | [] => []
  | (name, value) :: fields => (name, arranged style value) :: arrangedFields style fields

end

mutual

/-- A style that writes fields in their order leaves a document as it is. -/
theorem arranged_of_unsorted {style : Style} (hstyle : style.sorted = false) : ∀ d : Json, arranged style d = d
  | .null | .bool _ | .integer _ | .float _ | .string _ => rfl
  | .array items => by rw [arranged, arrangedItems_of_unsorted hstyle items]
  | .object fields => by
    rw [arranged, arrangedFields_of_unsorted hstyle fields, Style.arrange, hstyle, if_neg Bool.false_ne_true]

theorem arrangedItems_of_unsorted {style : Style} (hstyle : style.sorted = false) : ∀ items : List Json,
    arrangedItems style items = items
  | [] => rfl
  | item :: items => by
    rw [arrangedItems, arranged_of_unsorted hstyle item, arrangedItems_of_unsorted hstyle items]

theorem arrangedFields_of_unsorted {style : Style} (hstyle : style.sorted = false) : ∀ fields : List (String × Json),
    arrangedFields style fields = fields
  | [] => rfl
  | (name, value) :: fields => by
    rw [arrangedFields, arranged_of_unsorted hstyle value, arrangedFields_of_unsorted hstyle fields]

end

mutual

/-- A document that the reader accepts once it is written: its brackets fit into the room
that is left, its integers are short enough, and its numbers are kept by the style. -/
def Fits (style : Style) : Nat → Json → Prop
  | _, .null => True
  | _, .bool _ => True
  | _, .integer n => (Number.digits n.natAbs).length ≤ maxIntegerDigits
  | _, .float x => style.Keeps x
  | _, .string _ => True
  | 0, .array _ => False
  | room + 1, .array items => FitItems style room items
  | 0, .object _ => False
  | room + 1, .object fields => FitFields style room fields

/-- All items of a list fit. -/
def FitItems (style : Style) : Nat → List Json → Prop
  | _, [] => True
  | room, item :: items => Fits style room item ∧ FitItems style room items

/-- All values of an object fit. -/
def FitFields (style : Style) : Nat → List (String × Json) → Prop
  | _, [] => True
  | room, (_, value) :: fields => Fits style room value ∧ FitFields style room fields

end

/-- A document whose text is read as the arranged document, from any depth and before any
text that ends a number. -/
def Reads (style : Style) (room : Nat) (document : Json) : Prop :=
  ∀ (depth fuel : Nat) (rest : List Char), Stops rest →
    2 * (renderAt style depth document).length ≤ fuel →
      readValue? fuel room (renderAt style depth document ++ rest) =
        some (arranged style document, rest)

/-! ## Lists as maps -/

theorem renderItems_eq_map (style : Style) (depth : Nat) (items : List Json) :
    renderItems style depth items = items.map (renderAt style depth) := by
  induction items with
  | nil => rfl
  | cons item items ih => rw [renderItems, ih, List.map_cons]

theorem arrangedItems_eq_map (style : Style) (items : List Json) :
    arrangedItems style items = items.map (arranged style) := by
  induction items with
  | nil => rfl
  | cons item items ih => rw [arrangedItems, ih, List.map_cons]

/-- The text of a field, under its name. -/
def renderField (style : Style) (depth : Nat) (field : String × Json) : List Char :=
  quote style.ascii field.1 ++ style.colon.toList ++ renderAt style depth field.2

theorem renderFields_eq_map (style : Style) (depth : Nat) (fields : List (String × Json)) :
    renderFields style depth fields = fields.map fun f => (f.1, renderField style depth f) := by
  induction fields with
  | nil => rfl
  | cons field fields ih => rw [renderFields, ih, List.map_cons]; rfl

theorem arrangedFields_eq_map (style : Style) (fields : List (String × Json)) :
    arrangedFields style fields = fields.map fun f => (f.1, arranged style f.2) := by
  induction fields with
  | nil => rfl
  | cons field fields ih => rw [arrangedFields, ih, List.map_cons]

/-! ## Arranging fields -/

section Arrange

variable {α β : Type}

/-- Putting a field in its place does not look at the values. -/
theorem insertByName_map (g : String × α → β) (field : String × α) (fields : List (String × α)) :
    insertByName (field.1, g field) (fields.map fun f => (f.1, g f)) =
      (insertByName field fields).map fun f => (f.1, g f) := by
  induction fields with
  | nil => rfl
  | cons other rest ih =>
    simp only [insertByName, List.map_cons]
    split
    · rfl
    · rw [ih, List.map_cons]

/-- Arranging fields does not look at the values. -/
theorem arrange_map (style : Style) (g : String × α → β) (fields : List (String × α)) :
    style.arrange (fields.map fun f => (f.1, g f)) =
      (style.arrange fields).map fun f => (f.1, g f) := by
  have hfold (done : List (String × α)) :
      (fields.map fun f => (f.1, g f)).foldl (fun sorted f => insertByName f sorted)
          (done.map fun f => (f.1, g f)) =
        (fields.foldl (fun sorted f => insertByName f sorted) done).map fun f => (f.1, g f) := by
    induction fields generalizing done with
    | nil => rfl
    | cons field fields ih => rw [List.map_cons, List.foldl_cons, insertByName_map, ih, List.foldl_cons]
  simp only [Style.arrange]
  split
  · exact hfold []
  · rfl

theorem insertByName_perm (field : String × α) (fields : List (String × α)) :
    (insertByName field fields).Perm (field :: fields) := by
  induction fields with
  | nil => exact List.Perm.refl _
  | cons other rest ih =>
    simp only [insertByName]
    split
    · exact List.Perm.refl _
    · exact (ih.cons other).trans (List.Perm.swap field other rest)

/-- Arranging keeps every field. -/
theorem arrange_perm (style : Style) (fields : List (String × α)) :
    (style.arrange fields).Perm fields := by
  have hfold (done : List (String × α)) :
      (fields.foldl (fun sorted f => insertByName f sorted) done).Perm (fields ++ done) := by
    induction fields generalizing done with
    | nil => exact List.Perm.refl _
    | cons field fields ih =>
      rw [List.foldl_cons]
      refine (ih (insertByName field done)).trans ?_
      exact ((insertByName_perm field done).append_left fields).trans List.perm_middle
  simp only [Style.arrange]
  split
  · simpa using hfold []
  · exact List.Perm.refl _

end Arrange

/-! ## Reading lists -/

theorem isSpace_stops {c : Char} (h : isSpace c = true) :
    c.isDigit = false ∧ c ≠ '.' ∧ c ≠ 'e' ∧ c ≠ 'E' := by
  simp only [isSpace, Bool.or_eq_true, decide_eq_true_eq] at h
  rcases h with ((rfl | rfl) | rfl) | rfl <;> decide

/-- A number ends before space and before the mark after it. -/
theorem stops_append {space : List Char} (hspace : ∀ c ∈ space, isSpace c) {mark : Char}
    (hmark : mark.isDigit = false ∧ mark ≠ '.' ∧ mark ≠ 'e' ∧ mark ≠ 'E') (rest : List Char) :
    Stops (space ++ mark :: rest) := by
  cases space with
  | nil => exact stops_cons hmark rest
  | cons c space => exact stops_cons (isSpace_stops (hspace c List.mem_cons_self)) _

/-- Texts with a comma and space between them. -/
def joined (space : List Char) (texts : List (List Char)) : List Char :=
  (texts.intersperse (',' :: space)).flatten

theorem joined_cons_cons (space first second : List Char) (texts : List (List Char)) :
    joined space (first :: second :: texts) =
      first ++ ',' :: (space ++ joined space (second :: texts)) := by
  simp [joined]

/-- The steps that reading a list of texts takes at most. -/
def listCost (texts : List (List Char)) : Nat :=
  (texts.map fun text => 2 * (text.length + 1)).sum

/-- A list of texts costs no more than its joined text and one more character. -/
theorem listCost_le (space : List Char) {texts : List (List Char)} (hne : texts ≠ []) :
    listCost texts ≤ 2 * ((joined space texts).length + 1) := by
  induction texts with
  | nil => contradiction
  | cons first rest ih =>
    cases rest with
    | nil => simp [listCost, joined]
    | cons second rest =>
      have hrest := ih (by simp)
      rw [joined_cons_cons]
      simp only [listCost, List.map_cons, List.sum_cons, List.length_append, List.length_cons] at *
      omega

/-- A document whose text can be read starts with a character that is neither space nor a
closing bracket. -/
theorem Reads.head {style : Style} {room : Nat} {document : Json} (h : Reads style room document)
    (depth : Nat) :
    ∃ c cs, renderAt style depth document = c :: cs ∧ isSpace c = false ∧ c ≠ ']' := by
  have hread := h depth (2 * (renderAt style depth document).length + 1) [] stops_nil (by omega)
  rw [List.append_nil] at hread
  cases htext : renderAt style depth document with
  | nil =>
    have hnone (fuel : Nat) : readValue? (fuel + 1) room [] = none := rfl
    rw [htext, hnone] at hread
    cases hread
  | cons c cs =>
    have hnone (hbad : c ∈ [' ', '\t', '\n', '\r', ']']) (fuel : Nat) :
        readValue? (fuel + 1) room (c :: cs) = none := by
      simp only [List.mem_cons, List.not_mem_nil, or_false] at hbad
      rcases hbad with rfl | rfl | rfl | rfl | rfl <;>
        (rw [readValue_plain (by decide) (by decide) (by decide)]; rfl)
    rw [htext] at hread
    have hgood : c ∉ [' ', '\t', '\n', '\r', ']'] := by
      intro hbad
      rw [hnone hbad] at hread
      cases hread
    simp only [List.mem_cons, List.not_mem_nil, or_false, not_or] at hgood
    refine ⟨c, cs, rfl, ?_, hgood.2.2.2.2⟩
    simp [isSpace, hgood]

theorem Reads.skipSpace {style : Style} {room : Nat} {document : Json}
    (h : Reads style room document) (depth : Nat) (rest : List Char) :
    skipSpace (renderAt style depth document ++ rest) = renderAt style depth document ++ rest := by
  obtain ⟨c, cs, htext, hc, -⟩ := h.head depth
  rw [htext]
  exact skipSpace_cons hc _

/-- The joined texts of items are read up to the closing bracket, whatever space stands
around them. -/
theorem readItems_joined {style : Style} {room : Nat} {space last : List Char}
    (hspace : ∀ c ∈ space, isSpace c) (hlast : ∀ c ∈ last, isSpace c) (depth : Nat)
    {items : List Json} (hne : items ≠ []) (h : ∀ d ∈ items, Reads style room d) (first : List Char)
    (hfirst : ∀ c ∈ first, isSpace c) (fuel : Nat)
    (hfuel : listCost (items.map (renderAt style depth)) ≤ fuel) (rest : List Char) :
    readItems? fuel room
        (first ++ (joined space (items.map (renderAt style depth)) ++ (last ++ ']' :: rest))) =
      some (items.map (arranged style), rest) := by
  induction items generalizing fuel first with
  | nil => contradiction
  | cons item items ih =>
    have hitem : Reads style room item := h item List.mem_cons_self
    cases fuel with
    | zero => simp [listCost] at hfuel
    | succ fuel =>
      simp only [listCost, List.map_cons, List.sum_cons] at hfuel
      cases items with
      | nil =>
        have hread := hitem depth fuel (last ++ ']' :: rest)
          (stops_append hlast (by decide) rest) (by omega)
        rw [readItems?, skipSpace_append hfirst]
        simp only [joined, List.map_cons, List.map_nil, List.intersperse_singleton,
          List.flatten_cons, List.flatten_nil, List.append_nil]
        rw [hitem.skipSpace, hread]
        simp only
        rw [skipSpace_append hlast, skipSpace_cons (by decide)]
        rfl
      | cons second items =>
        let after := joined space ((second :: items).map (renderAt style depth)) ++ (last ++ ']' :: rest)
        have hread := hitem depth fuel (',' :: (space ++ after)) (stops_cons (by decide) _) (by omega)
        have hrest : readItems? fuel room (space ++ after) =
            some ((second :: items).map (arranged style), rest) :=
          ih (by simp) (fun d hd => h d (List.mem_cons_of_mem item hd)) space hspace fuel
            (by simp only [listCost, List.map_cons, List.sum_cons] at hfuel ⊢; omega)
        rw [readItems?, skipSpace_append hfirst, List.map_cons, List.map_cons, joined_cons_cons,
          ← List.map_cons, List.append_assoc, List.cons_append, List.append_assoc, hitem.skipSpace,
          hread]
        simp only
        rw [skipSpace_cons (by decide)]
        simp only
        rw [hrest]
        rfl

/-- The joined texts of fields are read up to the closing bracket, whatever space stands
around them. -/
theorem readFields_joined {style : Style} (hstyle : style.IsReadable) {room : Nat}
    {space last : List Char} (hspace : ∀ c ∈ space, isSpace c) (hlast : ∀ c ∈ last, isSpace c)
    (depth : Nat) {fields : List (String × Json)} (hne : fields ≠ [])
    (h : ∀ f ∈ fields, Reads style room f.2) (first : List Char) (hfirst : ∀ c ∈ first, isSpace c)
    (fuel : Nat) (hfuel : listCost (fields.map (renderField style depth)) ≤ fuel) (rest : List Char) :
    readFields? fuel room
        (first ++ (joined space (fields.map (renderField style depth)) ++ (last ++ '\x7d' :: rest))) =
      some (fields.map fun f => (f.1, arranged style f.2), rest) := by
  obtain ⟨gap, hcolon, hgap⟩ := hstyle.colon
  induction fields generalizing fuel first with
  | nil => contradiction
  | cons field fields ih =>
    have hvalue : Reads style room field.2 := h field List.mem_cons_self
    have htext (after : List Char) : renderField style depth field ++ after =
        '"' :: (field.1.toList.flatMap (escapeChar style.ascii) ++
          '"' :: (':' :: (gap ++ (renderAt style depth field.2 ++ after)))) := by
      simp [renderField, quote, hcolon]
    have hlength : (renderAt style depth field.2).length < (renderField style depth field).length := by
      simp only [renderField, quote, List.length_append, List.length_cons]
      omega
    cases fuel with
    | zero => simp [listCost] at hfuel
    | succ fuel =>
      simp only [listCost, List.map_cons, List.sum_cons] at hfuel
      cases fields with
      | nil =>
        have hread := hvalue depth fuel (last ++ '\x7d' :: rest)
          (stops_append hlast (by decide) rest) (by omega)
        rw [readFields?, skipSpace_append hfirst]
        simp only [joined, List.map_cons, List.map_nil, List.intersperse_singleton,
          List.flatten_cons, List.flatten_nil, List.append_nil]
        rw [htext, skipSpace_cons (by decide)]
        simp only [readString_quoted]
        rw [skipSpace_cons (by decide)]
        simp only
        rw [skipSpace_append hgap, hvalue.skipSpace, hread]
        simp only
        rw [skipSpace_append hlast, skipSpace_cons (by decide)]
        simp only [String.ofList_toList]
      | cons second fields =>
        let after := joined space ((second :: fields).map (renderField style depth)) ++
          (last ++ '\x7d' :: rest)
        have hread := hvalue depth fuel (',' :: (space ++ after)) (stops_cons (by decide) _) (by omega)
        have hrest : readFields? fuel room (space ++ after) =
            some ((second :: fields).map fun f => (f.1, arranged style f.2), rest) :=
          ih (by simp) (fun f hf => h f (List.mem_cons_of_mem field hf)) space hspace fuel
            (by simp only [listCost, List.map_cons, List.sum_cons] at hfuel ⊢; omega)
        rw [readFields?, skipSpace_append hfirst, List.map_cons, List.map_cons, joined_cons_cons,
          ← List.map_cons, List.append_assoc, List.cons_append, List.append_assoc, htext,
          skipSpace_cons (by decide)]
        simp only [readString_quoted]
        rw [skipSpace_cons (by decide)]
        simp only
        rw [skipSpace_append hgap, hvalue.skipSpace, hread]
        simp only
        rw [skipSpace_cons (by decide)]
        simp only
        rw [hrest]
        simp only [Option.map_some, String.ofList_toList, List.map_cons]

/-! ## Reading documents -/

theorem isSpace_of_mem_breakLine {depth : Nat} {c : Char} (h : c ∈ breakLine depth) : isSpace c := by
  rcases List.mem_cons.mp h with rfl | h
  · rfl
  · rw [List.eq_of_mem_replicate h]
    rfl

/-- The text between two brackets is joined texts with space around them. -/
theorem exists_bracket {style : Style} (hstyle : style.IsReadable) (depth : Nat)
    (opening closing : Char) {texts : List (List Char)} (hne : texts ≠ []) :
    ∃ first space last, (∀ c ∈ first, isSpace c) ∧ (∀ c ∈ space, isSpace c) ∧
      (∀ c ∈ last, isSpace c) ∧ bracket style depth opening closing texts =
        opening :: (first ++ (joined space texts ++ (last ++ [closing]))) := by
  obtain ⟨gap, hcomma, hgap⟩ := hstyle.comma
  have hbreak (d : Nat) : ∀ c ∈ breakLine d, isSpace c := fun _ => isSpace_of_mem_breakLine
  by_cases hindented : style.indented
  · refine ⟨breakLine (depth + 1), gap ++ breakLine (depth + 1), breakLine depth, hbreak _, ?_,
      hbreak _, ?_⟩
    · intro c hc
      rcases List.mem_append.mp hc with hc | hc
      · exact hgap c hc
      · exact hbreak _ c hc
    · simp [bracket, hne, hindented, joined, hcomma]
  · refine ⟨[], gap, [], by simp, hgap, by simp, ?_⟩
    simp [bracket, hne, hindented, joined, hcomma]

theorem length_bracket (opening closing : Char) (first space last : List Char)
    (texts : List (List Char)) :
    (joined space texts).length + 2 ≤
      (opening :: (first ++ (joined space texts ++ (last ++ [closing])))).length := by
  simp only [List.length_cons, List.length_append, List.length_nil]
  omega

/-- A list reads back if its items do. -/
theorem reads_array {style : Style} (hstyle : style.IsReadable) {room : Nat} {items : List Json}
    (h : ∀ d ∈ items, Reads style room d) : Reads style (room + 1) (.array items) := by
  intro depth fuel rest _ hfuel
  rw [renderAt, renderItems_eq_map] at hfuel ⊢
  rw [arranged, arrangedItems_eq_map]
  by_cases hne : items = []
  · subst hne
    cases fuel with
    | zero => simp [bracket] at hfuel
    | succ fuel => rfl
  · have htexts : items.map (renderAt style (depth + 1)) ≠ [] := by simpa using hne
    obtain ⟨first, space, last, hfirst, hspace, hlast, htext⟩ :=
      exists_bracket hstyle depth '[' ']' htexts
    rw [htext] at hfuel ⊢
    have hcost := listCost_le space htexts
    have hlength := length_bracket '[' ']' first space last (items.map (renderAt style (depth + 1)))
    cases fuel with
    | zero => simp at hfuel
    | succ fuel =>
      have hread := readItems_joined hspace hlast (depth + 1) hne h [] (by simp) fuel (by omega) rest
      rw [List.nil_append] at hread
      -- the first character of the first item is no closing bracket
      obtain ⟨item, items', rfl⟩ := List.exists_cons_of_ne_nil hne
      obtain ⟨c, cs, hhead, hc, hclose⟩ := (h item List.mem_cons_self).head (depth + 1)
      have hjoined : ∃ more, joined space ((item :: items').map (renderAt style (depth + 1))) ++
          (last ++ ']' :: rest) = c :: more := by
        cases items' with
        | nil => exact ⟨cs ++ (last ++ ']' :: rest), by simp [joined, hhead]⟩
        | cons second items' =>
          rw [List.map_cons, List.map_cons, joined_cons_cons, hhead]
          exact ⟨_, rfl⟩
      obtain ⟨more, hmore⟩ := hjoined
      simp only [List.cons_append, List.append_assoc, List.nil_append]
      rw [readValue?, skipSpace_append hfirst]
      simp only
      rw [hmore] at hread ⊢
      rw [skipSpace_cons hc]
      split
      · rename_i heq
        exact absurd (List.cons.inj heq).1 hclose
      · rw [hread]
        rfl

/-- An object reads back if the values of its fields do. -/
theorem reads_object {style : Style} (hstyle : style.IsReadable) {room : Nat}
    {fields : List (String × Json)} (h : ∀ f ∈ fields, Reads style room f.2) :
    Reads style (room + 1) (.object fields) := by
  intro depth fuel rest _ hfuel
  have hmap : (style.arrange (renderFields style (depth + 1) fields)).map Prod.snd =
      (style.arrange fields).map (renderField style (depth + 1)) := by
    rw [renderFields_eq_map, arrange_map, List.map_map]
    rfl
  rw [renderAt, hmap] at hfuel ⊢
  rw [arranged, arrangedFields_eq_map, arrange_map style fun f => arranged style f.2]
  have h' : ∀ f ∈ style.arrange fields, Reads style room f.2 := fun f hf =>
    h f ((arrange_perm style fields).mem_iff.mp hf)
  generalize style.arrange fields = fields at h' hfuel
  by_cases hne : fields = []
  · subst hne
    cases fuel with
    | zero => simp [bracket] at hfuel
    | succ fuel => rfl
  · have htexts : fields.map (renderField style (depth + 1)) ≠ [] := by simpa using hne
    obtain ⟨first, space, last, hfirst, hspace, hlast, htext⟩ :=
      exists_bracket hstyle depth '\x7b' '\x7d' htexts
    rw [htext] at hfuel ⊢
    have hcost := listCost_le space htexts
    have hlength :=
      length_bracket '\x7b' '\x7d' first space last (fields.map (renderField style (depth + 1)))
    cases fuel with
    | zero => simp at hfuel
    | succ fuel =>
      have hread := readFields_joined hstyle hspace hlast (depth + 1) hne h' [] (by simp) fuel
        (by omega) rest
      rw [List.nil_append] at hread
      -- the first character of the first field is a quote
      obtain ⟨field, fields', rfl⟩ := List.exists_cons_of_ne_nil hne
      have hjoined : ∃ more, joined space ((field :: fields').map (renderField style (depth + 1))) ++
          (last ++ '\x7d' :: rest) = '"' :: more := by
        cases fields' with
        | nil => exact ⟨_, rfl⟩
        | cons second fields' =>
          rw [List.map_cons, List.map_cons, joined_cons_cons]
          exact ⟨_, rfl⟩
      obtain ⟨more, hmore⟩ := hjoined
      simp only [List.cons_append, List.append_assoc, List.nil_append]
      rw [readValue?, skipSpace_append hfirst]
      simp only
      rw [hmore] at hread ⊢
      rw [skipSpace_cons (by decide)]
      split
      · rename_i heq
        exact absurd (List.cons.inj heq).1 (by decide)
      · rw [hread]
        rfl

theorem reads_string (style : Style) (room : Nat) (s : String) : Reads style room (.string s) := by
  intro depth fuel rest _ hfuel
  cases fuel with
  | zero => simp [renderAt, quote] at hfuel
  | succ fuel =>
    simp only [renderAt, quote, List.cons_append, List.append_assoc, List.nil_append]
    rw [readValue?, readString_quoted]
    simp only [Option.map_some, String.ofList_toList, arranged]

theorem reads_word {style : Style} (room : Nat) {document : Json} {word : List Char}
    (hword : ∀ depth, renderAt style depth document = word) (hplain : arranged style document = document)
    (hne : word ≠ []) (hread : ∀ fuel rest, readValue? (fuel + 1) room (word ++ rest) = some (document, rest)) :
    Reads style room document := by
  intro depth fuel rest _ hfuel
  rw [hword depth] at hfuel ⊢
  have hpos := List.length_pos_of_ne_nil hne
  cases fuel with
  | zero => omega
  | succ fuel => rw [hread, hplain]

theorem reads_integer (style : Style) (room : Nat) {n : Int}
    (hn : (Number.digits n.natAbs).length ≤ maxIntegerDigits) : Reads style room (.integer n) := by
  intro depth fuel rest hrest hfuel
  have hpos : 0 < (toString n).toList.length := by
    obtain ⟨c, others, htext, -⟩ := exists_toString n
    rw [htext]
    cases decide (n < 0) <;> exact Nat.succ_pos _
  rw [renderAt] at hfuel ⊢
  cases fuel with
  | zero => omega
  | succ fuel =>
    rw [readValue_integer fuel room hrest, if_pos hn]
    rfl

theorem reads_float {style : Style} (room : Nat) {x : Float} (hx : style.Keeps x) :
    Reads style room (.float x) := by
  intro depth fuel rest hrest hfuel
  rw [renderAt] at hfuel ⊢
  cases fuel with
  | zero =>
    -- no number is written as nothing
    have hnil : (style.float x).toList = [] := by
      rw [← List.length_eq_zero_iff]
      omega
    have hread := hx 0 room [] stops_nil
    rw [hnil] at hread
    have hnone : readValue? 1 room [] = none := rfl
    rw [List.append_nil, hnone] at hread
    cases hread
  | succ fuel => exact hx fuel room rest hrest

mutual

/-- A document that fits reads back. -/
theorem reads_of_fits {style : Style} (hstyle : style.IsReadable) :
    ∀ (room : Nat) (document : Json), Fits style room document → Reads style room document
  | room, .null, _ => reads_word room (fun _ => rfl) rfl (by decide) fun _ _ => rfl
  | room, .bool true, _ => reads_word room (fun _ => rfl) rfl (by decide) fun _ _ => rfl
  | room, .bool false, _ => reads_word room (fun _ => rfl) rfl (by decide) fun _ _ => rfl
  | room, .integer _, h => reads_integer style room h
  | room, .float _, h => reads_float room h
  | room, .string s, _ => reads_string style room s
  | room + 1, .array items, h => reads_array hstyle (reads_of_fitItems hstyle room items h)
  | room + 1, .object fields, h => reads_object hstyle (reads_of_fitFields hstyle room fields h)

/-- Items that fit read back. -/
theorem reads_of_fitItems {style : Style} (hstyle : style.IsReadable) :
    ∀ (room : Nat) (items : List Json), FitItems style room items → ∀ d ∈ items, Reads style room d
  | _, [], _, d, hd => nomatch hd
  | room, item :: items, h, d, hd => by
    rcases List.mem_cons.mp hd with heq | hd
    · rw [heq]
      exact reads_of_fits hstyle room item h.1
    · exact reads_of_fitItems hstyle room items h.2 d hd

/-- Values that fit read back. -/
theorem reads_of_fitFields {style : Style} (hstyle : style.IsReadable) :
    ∀ (room : Nat) (fields : List (String × Json)), FitFields style room fields →
      ∀ f ∈ fields, Reads style room f.2
  | _, [], _, f, hf => nomatch hf
  | room, (name, value) :: fields, h, f, hf => by
    rcases List.mem_cons.mp hf with heq | hf
    · rw [heq]
      exact reads_of_fits hstyle room value h.1
    · exact reads_of_fitFields hstyle room fields h.2 f hf

end

/-- A written document is read as the arranged document. -/
theorem read_render {style : Style} (hstyle : style.IsReadable) {document : Json}
    (h : Fits style maxDepth document) :
    read? (render style document).toList = some (arranged style document) := by
  have hreads := reads_of_fits hstyle maxDepth document h
  have hread := hreads 0 (2 * (renderAt style 0 document).length + 2) [] stops_nil (by omega)
  have hskip := hreads.skipSpace 0 []
  rw [List.append_nil] at hread hskip
  rw [read?, render, String.toList_ofList, hskip, hread]
  rfl

end Stopwatch.Json
