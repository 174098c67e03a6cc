/-
  Programs with one collector.

  A program records calls, looks at what has been recorded, flushes, and installs hooks that flush
  when it ends.  In whatever order these steps come, only the first flush does anything: it writes
  the file and announces it, or it prints what could not be written.
-/
import Stopwatch.Proofs.Collector

namespace Stopwatch

/-! ## What a flush prints -/

namespace Collector

/-- The text of the file of some entries. -/
def fileText (entries : List CollectedEntry) : String :=
  Record.fileText (entries.map CollectedEntry.document)

/-- The line by which a flush names the file that it has written. -/
def markerLine (fs : Files) (path : String) : String :=
  announcement ++ (fs.absolute (Path.ofText path)).text ++ "\n"

/-- What a flush prints instead if the file cannot be written. -/
def failureText (path : String) (fault : SystemFault) (entries : List CollectedEntry) : String :=
  "Failed to write metrics: " ++ (SystemError.refused fault path).message ++ "\n" ++
    String.join (entries.map CollectedEntry.taggedLine)

variable {fs fs' : Files} {path text : String} {c : Collector}

theorem head?_toList_append {s t : String} {c : Char} (h : s.toList.head? = some c) :
    (s ++ t).toList.head? = some c := by
  rw [String.toList_append, List.head?_append, h]
  rfl

theorem head?_markerLine (fs : Files) (path : String) : (markerLine fs path).toList.head? = some '_' :=
  head?_toList_append (head?_toList_append (by decide +kernel))

theorem markerLine_ne_empty (fs : Files) (path : String) : markerLine fs path ≠ "" := by
  intro h
  have hhead := head?_markerLine fs path
  rw [h] at hhead
  cases hhead

/-- The two kinds of text differ in their first character. -/
theorem failureText_ne_markerLine (fault : SystemFault) (entries : List CollectedEntry) :
    failureText path fault entries ≠ markerLine fs path := by
  intro h
  have hhead : (failureText path fault entries).toList.head? = some 'F' :=
    head?_toList_append (head?_toList_append (head?_toList_append (by decide +kernel)))
  rw [h, head?_markerLine] at hhead
  exact absurd hhead (by decide)

/-- A file is written where its path leads to. -/
theorem write_of_writeFile (h : writeFile fs path text = .ok fs') :
    (fs.write (Path.ofText path) fun _ => Text.Utf8.encode text) = .ok fs' := by
  rw [writeFile] at h
  split at h
  · exact h
  · split at h
    · cases h
    · split at h
      · cases h
      · cases h
      · cases hlocate : fs.locate (Path.ofText path) <;> rw [hlocate] at h <;> cases h

/-- What has been written can be read again.  A pipe takes it, and stays as it is. -/
theorem read_of_writeFile (h : writeFile fs path text = .ok fs') :
    fs'.read (Path.ofText path) = .ok (Text.Utf8.encode text) ∨
      fs' = fs ∧ fs.exists? (Path.ofText path) = true ∧ fs.isFile (Path.ofText path) = false := by
  have hwrite := write_of_writeFile h
  rw [Files.write_eq] at hwrite
  cases hlocate : fs.locate (Path.ofText path) with
  | error fault =>
    rw [hlocate] at hwrite
    cases hwrite
  | ok l =>
    rw [hlocate] at hwrite
    dsimp only at hwrite
    have hread (executable : Bool) (hplace : fs.IsPlace l) :
        (fs.insert l (.file (Text.Utf8.encode text) executable)).read (Path.ofText path) =
          .ok (Text.Utf8.encode text) := by
      rw [Files.read, Files.locate_insert hlocate hplace]
      simp only [bind, Except.bind, Files.find?_insert_self fs hplace.ne_nil]
    have hother (e : Entry) (hfound : fs.find? l = some e) (hfile : ∀ bytes executable, e ≠ .file bytes executable) :
        fs.exists? (Path.ofText path) = true ∧ fs.isFile (Path.ofText path) = false := by
      rw [Files.exists?, Files.isFile, Files.status?, hlocate]
      simp only [hfound, Option.isSome_some, true_and]
      cases e with
      | file bytes executable => exact absurd rfl (hfile bytes executable)
      | directory | link _ | pipe => rfl
    cases hfound : fs.find? l with
    | none =>
      rw [hfound] at hwrite
      cases hwrite
      refine Or.inl (hread false fun e he => ?_)
      rw [hfound] at he
      cases he
    | some e =>
      rw [hfound] at hwrite
      cases e with
      | file bytes executable =>
        cases hwrite
        refine Or.inl (hread executable fun e he => ?_)
        rw [hfound] at he
        cases he
        exact ⟨bytes, executable, rfl⟩
      | directory => cases hwrite
      | link target =>
        cases hwrite
        exact Or.inr ⟨rfl, hother _ hfound fun _ _ => Entry.noConfusion⟩
      | pipe =>
        cases hwrite
        exact Or.inr ⟨rfl, hother _ hfound fun _ _ => Entry.noConfusion⟩

theorem workingDirectory_of_writeFile (h : writeFile fs path text = .ok fs') :
    fs'.workingDirectory = fs.workingDirectory := by
  rcases Files.write_inv (write_of_writeFile h) with rfl | ⟨l, bytes, executable, -, -, rfl⟩
  · rfl
  · rfl

/-- The file is named by the same line before and after it is written. -/
theorem markerLine_of_writeFile (h : writeFile fs path text = .ok fs') : markerLine fs' path = markerLine fs path := by
  rw [markerLine, markerLine, Files.absolute, Files.absolute, workingDirectory_of_writeFile h]

theorem flush_of_flushed (h : c.flushed = true) : c.flush fs = ⟨c, fs, "", none⟩ := by
  rw [flush, if_pos h]

/-- The first flush writes the file and announces it, or prints what could not be written. -/
theorem flush_of_not_flushed (h : c.flushed = false) :
    c.flush fs = match writeFile fs c.path (fileText c.entries) with
      | .ok fs' => ⟨{ c with flushed := true }, fs', markerLine fs c.path, some c.path⟩
      | .error fault => ⟨{ c with flushed := true }, fs, failureText c.path fault c.entries, none⟩ := by
  rw [flush, if_neg (by rw [h]; exact Bool.false_ne_true)]
  dsimp only
  rw [fileText]
  cases hwrite : writeFile fs c.path (Record.fileText (c.entries.map CollectedEntry.document)) with
  | ok fs' =>
    dsimp only
    rw [← markerLine_of_writeFile hwrite]
    rfl
  | error fault => rfl

end Collector

/-! ## Steps -/

namespace Program

/-- A step of a program. -/
inductive Step where
  | record (entry : CollectedEntry)
  | snapshot
  | flush
  | install
  /-- The program ends: each hook flushes. -/
  | exit

/-- What the program is told by a step. -/
inductive Answer where
  | nothing
  | entries (document : Json)
  /-- The result of every flush. -/
  | flushes (written : List (Option String))

/-- Takes a step. -/
def take (p : Program) : Step → Program × Answer
  | .record entry => (p.record entry, .nothing)
  | .snapshot => (p, .entries p.collector.snapshot)
  | .flush => (p.flush.1, .flushes [p.flush.2])
  | .install => (p.install, .nothing)
  | .exit => (p.exit.1, .flushes p.exit.2)

/-- The program after some steps. -/
def after (p : Program) (steps : List Step) : Program :=
  steps.foldl (fun p step => (p.take step).1) p

/-- A program that has done nothing yet; its collector writes to a path. -/
def withCollector (fs : Files) (path : String) : Program :=
  adopt ⟨fs, [], [], ""⟩ (Collector.ofPath path)

namespace Step

/-- The entry that a step adds. -/
def entry? : Step → Option CollectedEntry
  | .record entry => some entry
  | .snapshot | .flush | .install | .exit => none

/-- Whether a step installs a hook. -/
def isInstall : Step → Bool
  | .install => true
  | .record _ | .snapshot | .flush | .exit => false

end Step

/-- All entries that some steps add, in their order. -/
def recorded (steps : List Step) : List CollectedEntry :=
  steps.filterMap Step.entry?

/-- How many hooks some steps install. -/
def installs (steps : List Step) : Nat :=
  steps.countP Step.isInstall

/-- How often a step flushes, after some others. -/
def calls (before : List Step) : Step → Nat
  | .flush => 1
  | .exit => installs before
  | .record _ | .snapshot | .install => 0

/-- Some step flushes. -/
def HasFlushed (steps : List Step) : Prop :=
  ∃ before step rest, steps = before ++ step :: rest ∧ 0 < calls before step

/-- After some steps, a step makes the first flush. -/
def IsFirstFlush (before : List Step) (step : Step) : Prop :=
  ¬HasFlushed before ∧ 0 < calls before step

/-- How many of some steps print a line and nothing else. -/
def countPrints (line : String) (p : Program) : List Step → Nat
  | [] => 0
  | step :: rest =>
    (if (p.take step).1.printed = p.printed ++ line then 1 else 0) + countPrints line (p.take step).1 rest

/-! ## What one step does -/

variable {fs files : Files} {path printed line : String} {c : Collector} {hooks : List Nat} {before steps : List Step}
  {step : Step}

theorem after_concat (p : Program) (steps : List Step) (step : Step) :
    p.after (steps ++ [step]) = ((p.after steps).take step).1 := by
  rw [after, List.foldl_concat]
  rfl

theorem recorded_concat (steps : List Step) (step : Step) :
    recorded (steps ++ [step]) = recorded steps ++ step.entry?.toList := by
  rw [recorded, List.filterMap_append]
  cases hentry : step.entry? <;> simp [recorded, hentry]

theorem installs_concat (steps : List Step) (step : Step) :
    installs (steps ++ [step]) = installs steps + step.isInstall.toNat := by
  rw [installs, List.countP_append]
  cases hinstall : step.isInstall <;> simp [installs, hinstall]

theorem not_hasFlushed_nil : ¬HasFlushed [] := by
  rintro ⟨before, step, rest, h, -⟩
  cases before <;> cases h

theorem hasFlushed_concat : HasFlushed (before ++ [step]) ↔ HasFlushed before ∨ 0 < calls before step := by
  constructor
  · rintro ⟨front, first, rest, h, hcalls⟩
    rcases List.eq_nil_or_concat rest with rfl | ⟨rest, last, rfl⟩
    · obtain ⟨rfl, hlast⟩ := List.append_inj' h rfl
      cases hlast
      exact Or.inr hcalls
    · rw [List.concat_eq_append, ← List.cons_append, ← List.append_assoc] at h
      obtain ⟨rfl, -⟩ := List.append_inj' h rfl
      exact Or.inl ⟨front, first, rest, rfl, hcalls⟩
  · rintro (⟨front, first, rest, rfl, hcalls⟩ | hcalls)
    · exact ⟨front, first, rest ++ [step], by simp, hcalls⟩
    · exact ⟨before, step, [], rfl, hcalls⟩

/-- What has been flushed stays flushed. -/
theorem HasFlushed.append (h : HasFlushed before) (rest : List Step) : HasFlushed (before ++ rest) := by
  obtain ⟨front, first, last, rfl, hcalls⟩ := h
  exact ⟨front, first, last ++ rest, by simp, hcalls⟩

/-- There is only one first flush. -/
theorem IsFirstFlush.unique {before' rest rest' : List Step} {step' : Step} (h : IsFirstFlush before step)
    (h' : IsFirstFlush before' step') (hsteps : before ++ step :: rest = before' ++ step' :: rest') :
    before = before' := by
  have hflushes {front : List Step} {first : Step} (hfirst : 0 < calls front first) (more : List Step) :
      HasFlushed (front ++ first :: more) := ⟨front, first, more, rfl, hfirst⟩
  rcases List.append_eq_append_iff.mp hsteps with ⟨more, rfl, hrest⟩ | ⟨more, rfl, hrest⟩
  · cases more with
    | nil => exact (List.append_nil before).symm
    | cons first more =>
      obtain ⟨rfl, -⟩ := List.cons.inj hrest
      exact absurd (hflushes h.2 more) h'.1
  · cases more with
    | nil => exact List.append_nil before'
    | cons first more =>
      obtain ⟨rfl, -⟩ := List.cons.inj hrest
      exact absurd (hflushes h'.2 more) h.1

/-- A program with one collector: the hooks are those that the steps before have installed. -/
def single (files : Files) (c : Collector) (before : List Step) (printed : String) : Program :=
  ⟨files, [c], List.replicate (installs before) 0, printed⟩

theorem flushed_flush (c : Collector) (files : Files) : (c.flush files).collector = { c with flushed := true } := by
  cases hflushed : c.flushed with
  | true =>
    rw [Collector.flush_of_flushed hflushed, ← hflushed]
  | false =>
    rw [Collector.flush_of_not_flushed hflushed]
    split <;> rfl

theorem flushAt_single (files : Files) (c : Collector) (hooks : List Nat) (printed : String) :
    (⟨files, [c], hooks, printed⟩ : Program).flushAt 0 =
      (⟨(c.flush files).files, [(c.flush files).collector], hooks, printed ++ (c.flush files).printed⟩,
        (c.flush files).written) := rfl

/-- A collector that has been flushed is not flushed again, however many hooks there are. -/
theorem flushAll_of_flushed (h : c.flushed = true) (n : Nat) :
    (⟨files, [c], hooks, printed⟩ : Program).flushAll (List.replicate n 0) =
      (⟨files, [c], hooks, printed⟩, List.replicate n none) := by
  induction n with
  | zero => rfl
  | succ n ih =>
    rw [List.replicate_succ, flushAll, flushAt_single, Collector.flush_of_flushed h]
    dsimp only
    rw [String.append_empty, ih]
    rfl

/-- A step that flushes comes to one flush of the collector; all further answers are empty. -/
theorem take_of_flushes {n : Nat} (h : calls before step = n + 1) :
    (single files c before printed).take step =
      (single (c.flush files).files (c.flush files).collector before (printed ++ (c.flush files).printed),
        .flushes ((c.flush files).written :: List.replicate n none)) := by
  cases step with
  | record entry => cases h
  | snapshot => cases h
  | install => cases h
  | flush =>
    cases h
    rfl
  | exit =>
    have hflushed : (c.flush files).collector.flushed = true := by rw [flushed_flush]
    rw [take, single, exit, List.reverse_replicate, show installs before = n + 1 from h, List.replicate_succ, flushAll,
      ← List.replicate_succ, flushAt_single]
    dsimp only
    rw [flushAll_of_flushed hflushed]
    rw [single, show installs before = n + 1 from h]

/-- A step that flushes does nothing else. -/
theorem only_flushes {n : Nat} (h : calls before step = n + 1) : step.entry? = none ∧ step.isInstall = false := by
  cases step with
  | record entry => cases h
  | snapshot => cases h
  | install => cases h
  | flush => exact ⟨rfl, rfl⟩
  | exit => exact ⟨rfl, rfl⟩

/-- A step that does not flush leaves the files and the output as they are. -/
theorem take_of_idle (h : calls before step = 0) :
    ((single files c before printed).take step).1 =
      single files { c with entries := c.entries ++ step.entry?.toList } (before ++ [step]) printed := by
  rw [single, single, installs_concat]
  cases step with
  | record entry => rfl
  | snapshot => rw [Step.entry?, Option.toList_none, List.append_nil]; rfl
  | flush => cases h
  | install =>
    rw [Step.entry?, Option.toList_none, List.append_nil, Step.isInstall, Bool.toNat_true, List.replicate_succ']
    rfl
  | exit =>
    rw [Step.entry?, Option.toList_none, List.append_nil, show installs before = 0 from h]
    rfl

/-! ## Whole lives -/

theorem countPrints_concat (line : String) (p : Program) (steps : List Step) (step : Step) :
    countPrints line p (steps ++ [step]) = countPrints line p steps +
      if ((p.after steps).take step).1.printed = (p.after steps).printed ++ line then 1 else 0 := by
  induction steps generalizing p with
  | nil => rw [List.nil_append, countPrints, countPrints, countPrints, Nat.add_comm]; rfl
  | cons first rest ih => rw [List.cons_append, countPrints, ih, countPrints, Nat.add_assoc]; rfl

theorem ne_append_of_ne_empty {s t : String} (h : t ≠ "") : s ≠ s ++ t := by
  intro heq
  rw [String.ext_iff, String.toList_append, List.self_eq_append_right] at heq
  exact h (String.toList_eq_nil_iff.mp heq)

/-- How far the life of a program has come: the files, whether the collector has been flushed, what has
been printed, and how many marker lines are part of that. -/
inductive Life (fs : Files) (path : String) (steps : List Step) : Files → Bool → String → Nat → Prop
  /-- Nothing has flushed. -/
  | waiting (h : ¬HasFlushed steps) : Life fs path steps fs false "" 0
  /-- The first flush has written the file. -/
  | written {before rest : List Step} {step : Step} {files : Files} (hsteps : steps = before ++ step :: rest)
      (hfirst : IsFirstFlush before step)
      (hwrite : Collector.writeFile fs path (Collector.fileText (recorded before)) = .ok files) :
      Life fs path steps files true (Collector.markerLine fs path) 1
  /-- The first flush could not write the file. -/
  | failed {before rest : List Step} {step : Step} {fault : SystemFault} (hsteps : steps = before ++ step :: rest)
      (hfirst : IsFirstFlush before step)
      (hwrite : Collector.writeFile fs path (Collector.fileText (recorded before)) = .error fault) :
      Life fs path steps fs true (Collector.failureText path fault (recorded before)) 0

variable {flushed : Bool} {marks : Nat}

theorem Life.hasFlushed_iff (h : Life fs path steps files flushed printed marks) : flushed = true ↔ HasFlushed steps := by
  cases h with
  | waiting hwaiting => exact iff_of_false Bool.false_ne_true hwaiting
  | written hsteps hfirst _ | failed hsteps hfirst _ => exact iff_of_true rfl ⟨_, _, _, hsteps, hfirst.2⟩

/-- Once the collector has been flushed, no step is part of the life of its file any more. -/
theorem Life.concat (h : Life fs path steps files true printed marks) (step : Step) :
    Life fs path (steps ++ [step]) files true printed marks := by
  cases h with
  | written hsteps hfirst hwrite =>
    exact .written (by rw [hsteps, List.append_assoc, List.cons_append]) hfirst hwrite
  | failed hsteps hfirst hwrite =>
    exact .failed (by rw [hsteps, List.append_assoc, List.cons_append]) hfirst hwrite

/-- The collector is flushed for the first time. -/
theorem life_of_isFirstFlush (fs : Files) (path : String) (h : IsFirstFlush steps step) :
    ∃ marks, Life fs path (steps ++ [step])
      ((⟨path, recorded steps, false⟩ : Collector).flush fs).files true
      ((⟨path, recorded steps, false⟩ : Collector).flush fs).printed marks ∧
      marks = if ((⟨path, recorded steps, false⟩ : Collector).flush fs).printed = Collector.markerLine fs path then 1 else 0 := by
  rw [Collector.flush_of_not_flushed rfl]
  dsimp only
  cases hwrite : Collector.writeFile fs path (Collector.fileText (recorded steps)) with
  | ok files => exact ⟨1, .written rfl h hwrite, (if_pos rfl).symm⟩
  | error fault =>
    exact ⟨0, .failed rfl h hwrite, (if_neg (Collector.failureText_ne_markerLine fault _)).symm⟩

/-- Every step takes the life of the program further. -/
theorem exists_life (fs : Files) (path : String) (steps : List Step) :
    ∃ files flushed printed marks, Life fs path steps files flushed printed marks ∧
      (withCollector fs path).after steps = single files ⟨path, recorded steps, flushed⟩ steps printed ∧
      countPrints (Collector.markerLine fs path) (withCollector fs path) steps = marks := by
  induction steps using List.reverseRecOn with
  | nil => exact ⟨fs, false, "", 0, .waiting not_hasFlushed_nil, rfl, rfl⟩
  | append_singleton steps step ih =>
    obtain ⟨files, flushed, printed, marks, hlife, hafter, hmarks⟩ := ih
    rw [after_concat, countPrints_concat, hafter, hmarks, recorded_concat]
    have hsame : printed ≠ printed ++ Collector.markerLine fs path :=
      ne_append_of_ne_empty (Collector.markerLine_ne_empty fs path)
    rcases hcalls : calls steps step with _ | n
    · -- a step that does not flush
      rw [take_of_idle hcalls]
      refine ⟨files, flushed, printed, marks, ?_, rfl, congrArg (marks + ·) (if_neg hsame)⟩
      cases hlife with
      | waiting hwaiting =>
        refine .waiting fun hflushed => ?_
        rcases hasFlushed_concat.mp hflushed with hbefore | hstep
        · exact hwaiting hbefore
        · omega
      | written hsteps hfirst hwrite => exact Life.concat (.written hsteps hfirst hwrite) step
      | failed hsteps hfirst hwrite => exact Life.concat (.failed hsteps hfirst hwrite) step
    · obtain ⟨hentry, hinstall⟩ := only_flushes hcalls
      have hinstalls : installs (steps ++ [step]) = installs steps := by
        rw [installs_concat, hinstall, Bool.toNat_false, Nat.add_zero]
      rw [take_of_flushes hcalls, hentry, Option.toList_none, List.append_nil]
      simp only [single, hinstalls]
      cases flushed with
      | true =>
        rw [Collector.flush_of_flushed rfl]
        simp only [String.append_empty]
        exact ⟨files, true, printed, marks, hlife.concat step, rfl, congrArg (marks + ·) (if_neg hsame)⟩
      | false =>
        cases hlife with
        | waiting hwaiting =>
          have hfirst : IsFirstFlush steps step := ⟨hwaiting, by omega⟩
          obtain ⟨first, hlife, hcount⟩ := life_of_isFirstFlush fs path hfirst
          refine ⟨_, true, _, first, hlife, ?_, ?_⟩
          · rw [flushed_flush]
            simp only [String.empty_append]
          · simp only [String.empty_append]
            exact (Nat.zero_add _).trans hcount.symm

/-- However a program goes on, its collector is flushed once. -/
structure FlushesOnce (fs : Files) (path : String) : Prop where
  /-- A snapshot is the list of all records made so far, in the order of the calls. -/
  snapshot (before : List Step) : ((withCollector fs path).after before).take .snapshot =
    ((withCollector fs path).after before, .entries (.array ((recorded before).map CollectedEntry.document)))
  /-- Until something flushes, nothing is written and nothing is printed. -/
  waiting (before : List Step) (h : ¬HasFlushed before) :
    ((withCollector fs path).after before).files = fs ∧ ((withCollector fs path).after before).printed = ""
  /-- The first flush writes the file with exactly the records made before, prints a marker line and
  returns the path; or it leaves the files as they are, prints something else and returns nothing.  No
  other hook of the same end returns anything. -/
  first (before : List Step) (step : Step) (h : IsFirstFlush before step) :
    let flushed := ((withCollector fs path).after before).take step
    (∃ files, Collector.writeFile fs path (Collector.fileText (recorded before)) = .ok files ∧
      flushed.1.files = files ∧ flushed.1.printed = Collector.markerLine fs path ∧
      flushed.2 = .flushes (some path :: List.replicate (calls before step - 1) none) ∧
      (files.read (Path.ofText path) = .ok (Text.Utf8.encode (Collector.fileText (recorded before))) ∨
        files = fs ∧ fs.exists? (Path.ofText path) = true ∧ fs.isFile (Path.ofText path) = false)) ∨
    ∃ fault, Collector.writeFile fs path (Collector.fileText (recorded before)) = .error fault ∧
      flushed.1.files = fs ∧ flushed.1.printed = Collector.failureText path fault (recorded before) ∧
      flushed.2 = .flushes (List.replicate (calls before step) none)
  /-- Every later flush returns nothing, prints nothing and leaves the files as they are. -/
  later (before : List Step) (step : Step) (h : HasFlushed before) :
    let flushed := ((withCollector fs path).after before).take step
    flushed.1.files = ((withCollector fs path).after before).files ∧
      flushed.1.printed = ((withCollector fs path).after before).printed ∧
      (0 < calls before step → flushed.2 = .flushes (List.replicate (calls before step) none))
  /-- At most one marker line is printed, and it is printed if and only if the first flush has written
  the file with exactly the records made before it, as it is left. -/
  marker (steps : List Step) :
    countPrints (Collector.markerLine fs path) (withCollector fs path) steps ≤ 1 ∧
      (countPrints (Collector.markerLine fs path) (withCollector fs path) steps = 1 ↔
        ∃ before step rest, steps = before ++ step :: rest ∧ IsFirstFlush before step ∧
          Collector.writeFile fs path (Collector.fileText (recorded before)) =
            .ok ((withCollector fs path).after steps).files)

/-- The life of a program whose collector has not been flushed. -/
theorem after_of_waiting (fs : Files) (path : String) (h : ¬HasFlushed before) :
    (withCollector fs path).after before = single fs ⟨path, recorded before, false⟩ before "" := by
  obtain ⟨files, flushed, printed, marks, hlife, hafter, -⟩ := exists_life fs path before
  cases hlife with
  | waiting _ => exact hafter
  | written hsteps hfirst _ | failed hsteps hfirst _ => exact absurd ⟨_, _, _, hsteps, hfirst.2⟩ h

/-- The life of a program whose collector has been flushed. -/
theorem exists_after_of_hasFlushed (fs : Files) (path : String) (h : HasFlushed before) :
    ∃ files printed, (withCollector fs path).after before = single files ⟨path, recorded before, true⟩ before printed := by
  obtain ⟨files, flushed, printed, marks, hlife, hafter, -⟩ := exists_life fs path before
  rw [hlife.hasFlushed_iff.mpr h] at hafter
  exact ⟨files, printed, hafter⟩

end Program

end Stopwatch
