/-
  Reading and instrumenting modules.

  A path has a module if its file is text, is not marked, and is a program.  Reading a
  module changes nothing, and once a marked text has been written there is no module any
  more.
-/
import Stopwatch.Package.Sources
import Stopwatch.Proofs.Host.Files
import Stopwatch.Proofs.Instrument
import Stopwatch.Proofs.Text.Utf8

namespace Stopwatch

open Syntax

/-! ## Marks and line breaks -/

/-- Line breaks are read as line feeds; a mark without line breaks is not touched by that. -/
theorem Text.isInfix_normalizeNewlines {mark text : List Char}
    (hmark : ∀ c ∈ mark, c ≠ '\r' ∧ c ≠ '\n') (h : mark <:+: text) :
    mark <:+: normalizeNewlines text := by
  have hhead {mark text : List Char} (hmark : ∀ c ∈ mark, c ≠ '\r' ∧ c ≠ '\n') (h : mark <+: text) :
      mark <+: normalizeNewlines text := by
    induction mark generalizing text with
    | nil => exact List.nil_prefix
    | cons c mark ih =>
      obtain ⟨rest, rfl⟩ := h
      have hc := (hmark c List.mem_cons_self).1
      rw [List.cons_append, normalizeNewlines, if_neg hc]
      · rw [List.cons_prefix_cons]
        exact ⟨rfl, ih (fun d hd => hmark d (List.mem_cons_of_mem c hd)) (List.prefix_append _ _)⟩
      · intro _ hfalse
        exact absurd hfalse hc
  induction text using normalizeNewlines.induct with
  | case1 => exact h
  | case2 rest ih =>
    cases mark with
    | nil => exact List.nil_infix
    | cons c mark =>
      have hc := hmark c List.mem_cons_self
      rw [normalizeNewlines]
      rcases List.infix_cons_iff.mp h with hstart | hin
      · exact absurd (List.cons_prefix_cons.mp hstart).1 hc.1
      · rcases List.infix_cons_iff.mp hin with hstart | hin
        · exact absurd (List.cons_prefix_cons.mp hstart).1 hc.2
        · exact List.infix_cons (ih hin)
  | case3 d rest hother ih =>
    rcases List.infix_cons_iff.mp h with hstart | hin
    · exact (hhead hmark hstart).isInfix
    · rw [normalizeNewlines]
      · exact List.infix_cons (ih hin)
      · exact hother

/-! ## Modules of paths -/

namespace Files

/-- The module that a path leads to. -/
def moduleAt (fs : Files) (p : Path) (name : String) : Except Failure Module :=
  match fs.textAt p with
  | .error f => .error f
  | .ok source =>
    if hasMarker source then .error (.problem (.alreadyInstrumented name))
    else
      match Module.parse? source with
      | some m => .ok m
      | none => .error .malformedSource

/-- A path leads to a text that is a program and is not marked. -/
def HasModule (fs : Files) (p : Path) (m : Module) : Prop :=
  ∃ source, fs.textAt p = .ok source ∧ hasMarker source = false ∧ Module.parse? source = some m

theorem moduleAt_eq_ok {fs : Files} {p : Path} {name : String} {m : Module} :
    fs.moduleAt p name = .ok m ↔ fs.HasModule p m := by
  rw [moduleAt, HasModule]
  cases htext : fs.textAt p with
  | error f => simp
  | ok source =>
    cases hmarker : hasMarker source with
    | true => simp [hmarker]
    | false => cases hparse : Module.parse? source <;> simp [hmarker, hparse]

/-- The location of a path with a module, and the file there. -/
theorem HasModule.exists_location {fs : Files} {p : Path} {m : Module} (h : fs.HasModule p m) :
    ∃ l, fs.locate p = .ok l := by
  obtain ⟨source, htext, -, -⟩ := h
  rw [textAt, read] at htext
  cases hlocate : fs.locate p with
  | error fault =>
    rw [hlocate] at htext
    cases htext
  | ok l => exact ⟨l, rfl⟩

/-- A path has the same text wherever it leads to the same location and entry. -/
theorem textAt_congr {fs fs' : Files} {p : Path} (hlocate : fs'.locate p = fs.locate p)
    (hfound : ∀ l, fs.locate p = .ok l → fs'.find? l = fs.find? l) : fs'.textAt p = fs.textAt p := by
  rw [textAt, textAt, read, read, hlocate]
  cases hl : fs.locate p with
  | error fault => rfl
  | ok l =>
    simp only [bind, Except.bind]
    rw [hfound l hl]

/-- A path that leads to a marked text has no module. -/
theorem not_hasModule_of_marked {fs : Files} {p : Path} {l : Location} {text : String} {executable : Bool}
    (hlocate : fs.locate p = .ok l) (hfile : fs.find? l = some (.file (Text.Utf8.encode text) executable))
    (hmarker : hasMarker text = true) (m : Module) : ¬fs.HasModule p m := by
  rintro ⟨source, htext, hplain, -⟩
  rw [textAt, read, hlocate] at htext
  simp only [bind, Except.bind, hfile, Text.Utf8.decode_encode] at htext
  cases htext
  have hplainMark : ∀ c ∈ Collector.markerName.toList, c ≠ '\r' ∧ c ≠ '\n' := by
    have hall : (Collector.markerName.toList.all fun c => c ≠ '\r' ∧ c ≠ '\n') = true := by decide
    simpa using hall
  have hmark := Text.isInfix_normalizeNewlines hplainMark (hasMarker_iff.mp hmarker)
  rw [← Bool.not_eq_true, hasMarker_iff, String.toList_ofList] at hplain
  exact hplain hmark

end Files

/-! ## Actions on modules -/

namespace Action

variable {α : Type} {host : Host} {I : Host → Prop} {F : Failure → Prop}

/-- Reading a module changes nothing. -/
theorem ends_readModule {p : Path} {name : String} {Q : Except Failure Module → Host → Prop} :
    Ends (readModule p name) host Q ↔ Q (host.files.moduleAt p name) host := by
  rw [readModule, ends_bind, ends_readText, Files.moduleAt]
  cases htext : host.files.textAt p with
  | error f => rfl
  | ok source =>
    cases hmarker : hasMarker source with
    | true => simp [hmarker, ends_bind, raise]
    | false => cases hparse : Module.parse? source <;> simp [hmarker, hparse]

theorem ends_analyze {m : Module} {Q : Except Failure Analysis → Host → Prop} :
    Ends (analyze m) host Q ↔ Q (m.analyze.mapError .malformedString) host := by
  rw [analyze]
  cases m.analyze <;> rfl

/-- A text is written where a path leads to. -/
theorem stays_writeText {p : Path} {text : String} (hF : ∀ e, F (.system e)) (h : I host)
    (hwrite : ∀ files, (host.files.write p fun _ => Text.Utf8.encode text) = .ok files →
      I { host with files }) : Stays I F (writeText p text) host :=
  .changeFiles hF h hwrite

end Action

end Stopwatch
