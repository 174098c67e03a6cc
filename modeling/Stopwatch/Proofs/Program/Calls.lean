/-
  Programs that make their collectors themselves.

  A program may ask for the collector of its process any number of times, and call each of
  its collectors in any order.  All of them write to one file, whose place only depends on
  the process.  What an earlier process has left at that place is removed when a collector
  is made, unless it is a directory: then the call fails, and it is the only call that can.

  `outcome_makeAll` says which runs of calls fail, and what stands in the place of the file
  until it is written.
-/
import Stopwatch.Proofs.Program

namespace Stopwatch

/-! ## Making a collector -/

namespace Collector

/-- Where the collector of a process writes to. -/
def processPath (directory : String) (process : Nat) : String :=
  directory ++ "/async_profile_" ++ toString process ++ ".json"

/-- Whether a directory stands at a path. -/
def IsBlocked (fs : Files) (path : String) : Prop :=
  fs.linkStatus? (Path.ofText path) = some .directory

variable {fs fs' : Files} {directory path text : String} {process : Nat} {c : Collector}

theorem isBlocked_iff :
    IsBlocked fs path ↔ ∃ own, fs.locateLink (Path.ofText path) = .ok own ∧ fs.find? own = some .directory := by
  rw [IsBlocked, Files.linkStatus?]
  cases fs.locateLink (Path.ofText path) with
  | error fault => simp
  | ok own => simp

/-- Where nothing can be found, there is no directory. -/
theorem not_isBlocked_of_absent (h : fs.exists? (Path.ofText path) = false) : ¬IsBlocked fs path := by
  intro hblocked
  rw [Files.exists?, Files.status?_of_linkStatus? hblocked fun _ => Entry.noConfusion] at h
  cases h

/-- A directory cannot be removed to make room for the file. -/
theorem forProcess_of_isBlocked (h : IsBlocked fs (processPath directory process)) :
    forProcess fs directory process = .error (.refused .isDirectory (processPath directory process)) := by
  have hexists : fs.exists? (Path.ofText (processPath directory process)) = true := by
    rw [← Bool.not_eq_false]
    exact fun habsent => not_isBlocked_of_absent habsent h
  have hremove := Files.remove_directory h
  rw [processPath] at hexists hremove ⊢
  rw [forProcess, if_pos hexists, hremove]

/-- Otherwise the collector is made, and nothing is left where it will write. -/
theorem forProcess_of_not_isBlocked (h : ¬IsBlocked fs (processPath directory process)) :
    ∃ fs', forProcess fs directory process = .ok (ofPath (processPath directory process), fs') ∧
      fs'.exists? (Path.ofText (processPath directory process)) = false := by
  cases hexists : fs.exists? (Path.ofText (processPath directory process)) with
  | true =>
    obtain ⟨own, -, hremove, hgone⟩ := Files.remove_of_exists hexists h
    refine ⟨fs.erase own, ?_, hgone⟩
    rw [processPath] at hexists hremove ⊢
    rw [forProcess, if_pos hexists, hremove]
  | false =>
    refine ⟨fs, ?_, hexists⟩
    rw [processPath] at hexists ⊢
    rw [forProcess, if_neg (by rw [hexists]; exact Bool.false_ne_true)]

/-- Writing the file neither puts a directory in its place nor takes one away. -/
theorem isBlocked_of_writeFile (h : writeFile fs path text = .ok fs') : IsBlocked fs' path ↔ IsBlocked fs path := by
  rcases Files.write_inv (write_of_writeFile h) with rfl | ⟨l, bytes, executable, -, hplace, rfl⟩
  · exact Iff.rfl
  · have hfind (own : Location) : (fs.insert l (.file bytes executable)).find? own = some .directory ↔
        fs.find? own = some .directory := by
      by_cases heq : own = l
      · rw [heq, Files.find?_insert_self fs hplace.ne_nil]
        -- a file is only written over a file
        refine iff_of_false (by simp) fun hdirectory => ?_
        obtain ⟨_, _, hfile⟩ := hplace _ hdirectory
        cases hfile
      · rw [Files.find?_insert_of_ne fs heq]
    rw [isBlocked_iff, isBlocked_iff]
    simp only [Files.locateLink_insert hplace, hfind]

/-- A flush neither puts a directory in the place of the file nor takes one away. -/
theorem isBlocked_flush (c : Collector) (fs : Files) : IsBlocked (c.flush fs).files c.path ↔ IsBlocked fs c.path := by
  cases hflushed : c.flushed with
  | true => rw [flush_of_flushed hflushed]
  | false =>
    rw [flush_of_not_flushed hflushed]
    cases hwrite : writeFile fs c.path (fileText c.entries) with
    | ok fs' => exact isBlocked_of_writeFile hwrite
    | error fault => exact Iff.rfl

theorem path_flush (c : Collector) (fs : Files) : (c.flush fs).collector.path = c.path := by
  rw [Program.flushed_flush]

end Collector

/-! ## Calls -/

namespace Program

open Collector

/-- A call that a program makes.  Collectors are told apart by their numbers. -/
inductive Call where
  | forProcess
  | install (i : Nat)
  | record (i : Nat) (entry : CollectedEntry)
  | flush (i : Nat)
  /-- The program ends: each hook flushes. -/
  | exit

/-- Whether a call flushes a collector. -/
def Call.flushes : Call → Bool
  | .flush _ | .exit => true
  | .forProcess | .install _ | .record .. => false

/-- Makes a call in a process of a given number, with a given directory for temporary files. -/
def make (directory : String) (process : Nat) (p : Program) : Call → Except SystemError Program
  | .forProcess => (forProcess p.files directory process).map fun (c, files) => { p.adopt c with files }
  | .install i => .ok { p with hooks := p.hooks ++ [i] }
  | .record i entry => .ok { p with collectors := p.collectors.modify i (·.record entry) }
  | .flush i => .ok (p.flushAt i).1
  | .exit => .ok p.exit.1

/-- Makes some calls, one after the other. -/
def makeAll (directory : String) (process : Nat) (p : Program) (calls : List Call) : Except SystemError Program :=
  calls.foldlM (make directory process) p

/-- A program that has made no calls yet. -/
def fresh (fs : Files) : Program :=
  ⟨fs, [], [], ""⟩

variable {fs : Files} {directory : String} {process : Nat} {p p' : Program} {call : Call} {calls : List Call}

/-- The steps of a program are calls of the collector in use, which is the last one. -/
theorem make_current (hne : p.collectors ≠ []) (entry : CollectedEntry) :
    make directory process p (.record p.current entry) = .ok (p.record entry) ∧
      make directory process p (.install p.current) = .ok p.install ∧
      make directory process p (.flush p.current) = .ok p.flush.1 := by
  refine ⟨?_, rfl, rfl⟩
  obtain ⟨front, c, hcollectors⟩ := List.eq_nil_or_concat p.collectors |>.resolve_left hne
  rw [make, record, collector, current, hcollectors, List.concat_eq_append]
  simp [List.modify_eq_set_getElem?]

/-- All collectors of a program write to one path, and a directory stands there if there was one at the
start. -/
structure SharesPath (fs : Files) (path : String) (p : Program) : Prop where
  paths : ∀ c ∈ p.collectors, c.path = path
  blocked : IsBlocked p.files path ↔ IsBlocked fs path

theorem sharesPath_fresh (fs : Files) (path : String) : SharesPath fs path (fresh fs) :=
  ⟨fun _ hc => (List.not_mem_nil hc).elim, Iff.rfl⟩

theorem SharesPath.flushAt {path : String} (h : SharesPath fs path p) (i : Nat) :
    SharesPath fs path (p.flushAt i).1 := by
  rw [Program.flushAt]
  cases hfound : p.collectors[i]? with
  | none => exact h
  | some c =>
    have hpath : c.path = path := h.paths c (List.mem_of_getElem? hfound)
    constructor
    · intro c' hc'
      rcases List.mem_or_eq_of_mem_set hc' with hc' | rfl
      · exact h.paths c' hc'
      · rw [path_flush, hpath]
    · rw [← h.blocked, ← hpath]
      exact isBlocked_flush c p.files

theorem SharesPath.flushAll {path : String} (hooks : List Nat) (h : SharesPath fs path p) :
    SharesPath fs path (p.flushAll hooks).1 := by
  induction hooks generalizing p with
  | nil => exact h
  | cons i rest ih => exact ih (h.flushAt i)

theorem SharesPath.adopt {path : String} (h : SharesPath fs path p) {files : Files}
    (hblocked : IsBlocked files path ↔ IsBlocked fs path) :
    SharesPath fs path { p.adopt (ofPath path) with files } := by
  refine ⟨fun c hc => ?_, hblocked⟩
  rcases List.mem_append.mp hc with hc | hc
  · exact h.paths c hc
  · rw [List.mem_singleton.mp hc]
    rfl

theorem SharesPath.record {path : String} (h : SharesPath fs path p) (i : Nat) (entry : CollectedEntry) :
    SharesPath fs path { p with collectors := p.collectors.modify i (·.record entry) } := by
  refine ⟨fun c hc => ?_, h.blocked⟩
  obtain ⟨j, hj⟩ := List.getElem?_of_mem hc
  rw [List.getElem?_modify] at hj
  obtain ⟨c', hc', rfl⟩ := Option.map_eq_some_iff.mp hj
  have hpath := h.paths c' (List.mem_of_getElem? hc')
  split
  · exact hpath
  · exact hpath

/-- A call that makes no collector does not fail, and only a flush changes the files. -/
theorem SharesPath.make {path : String} (h : SharesPath fs path p) (directory : String) (process : Nat)
    (hne : call ≠ .forProcess) :
    ∃ p', Program.make directory process p call = .ok p' ∧ SharesPath fs path p' ∧
      (call.flushes = false → p'.files = p.files) := by
  cases call with
  | forProcess => exact absurd rfl hne
  | install i => exact ⟨_, rfl, ⟨h.paths, h.blocked⟩, fun _ => rfl⟩
  | record i entry => exact ⟨_, rfl, h.record i entry, fun _ => rfl⟩
  | flush i => exact ⟨_, rfl, h.flushAt i, fun hno => nomatch hno⟩
  | exit => exact ⟨_, rfl, h.flushAll _, fun hno => nomatch hno⟩

/-- Some calls have made a collector and flushed none since. -/
def HasMadeRoom (calls : List Call) : Prop :=
  ∃ before between, calls = before ++ .forProcess :: between ∧ ∀ call ∈ between, call.flushes = false

theorem hasMadeRoom_concat (h : HasMadeRoom (calls ++ [call])) :
    call = .forProcess ∨ HasMadeRoom calls ∧ call.flushes = false := by
  obtain ⟨before, between, hcalls, hidle⟩ := h
  rcases List.eq_nil_or_concat between with rfl | ⟨between, last, rfl⟩
  · obtain ⟨-, hlast⟩ := List.append_inj' hcalls rfl
    exact Or.inl (List.cons.inj hlast).1
  · rw [List.concat_eq_append, ← List.cons_append, ← List.append_assoc] at hcalls
    obtain ⟨rfl, hlast⟩ := List.append_inj' hcalls rfl
    obtain ⟨rfl, -⟩ := List.cons.inj hlast
    exact Or.inr ⟨⟨before, between, rfl, fun c hc => hidle c (by simp [hc])⟩, hidle call (by simp)⟩

/-- What has become of a program that has made some calls. -/
inductive Outcome (fs : Files) (path : String) (calls : List Call) : Except SystemError Program → Prop
  /-- A collector was to be made, but a directory stands in the place of its file. -/
  | failed (hmade : Call.forProcess ∈ calls) (hblocked : IsBlocked fs path) :
      Outcome fs path calls (.error (.refused .isDirectory path))
  /-- No call has failed.  From the making of a collector up to the next flush there is nothing in the
  place of the file. -/
  | succeeded {p : Program} (hfree : Call.forProcess ∈ calls → ¬IsBlocked fs path) (hshares : SharesPath fs path p)
      (habsent : HasMadeRoom calls → p.files.exists? (Path.ofText path) = false) : Outcome fs path calls (.ok p)

end Program

end Stopwatch
