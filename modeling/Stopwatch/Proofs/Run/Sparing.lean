/-
  What running copies leaves as it was.

  While copies are run the tree of the run is left alone, provided the children leave it alone
  and announce nothing in it: the binaries, the announced files and the log lie elsewhere.
  Before a child is started there is a log, so that no child can lead it into the tree.
-/
import Stopwatch.Proofs.Files.Grounds
import Stopwatch.Proofs.Run.Copies

namespace Stopwatch

open Action Files

/-- A child that changes nothing in a tree, and announces nothing in it. -/
structure Action.Deed.Spares (tree : Location → Prop) (d : Deed) : Prop where
  writes : ∀ l, tree l → d.left.find? l = d.found.find? l
  announces : ∀ output path, d.output = .ok output → announcedPath? output = some path →
    ∀ l, d.left.locateLink (Path.ofText path) = .ok l → ¬tree l

namespace Run

variable {r : Run} {tree : Location → Prop} {day : Timestamp} {fs₁ fs fs' : Files} {l gone : Location}
  {host h : Host} {K K' : Files → Prop} {F : Failure → Prop}

/-! ## The files while copies are run -/

/-- What a run writes besides the copies lies outside its tree, and no link stands for a binary. -/
structure IsBeside (r : Run) (tree : Location → Prop) (day : Timestamp) (fs : Files) : Prop where
  log : r.LogsOutside tree day fs
  work : ∃ w, fs.locate r.config.workRoot = .ok w ∧ fs.find? w = some .directory ∧
    ∀ n, ¬tree (w ++ [FileRun.binaryName n]) ∧
      ∀ target, fs.find? (w ++ [FileRun.binaryName n]) ≠ some (.link target)

/-- The files while copies are run: the tree is as it was. -/
structure IsSpared (r : Run) (tree : Location → Prop) (day : Timestamp) (fs₁ fs : Files) : Prop where
  isTree : fs.IsTree
  once : fs.IsListing
  grounds : fs₁.Grounds fs
  same : ∀ l, tree l → fs.find? l = fs₁.find? l
  log : r.LogsOutside tree day fs

theorem HasLog.logsOutside (h : r.HasLog tree day fs) : r.LogsOutside tree day fs := by
  obtain ⟨l, e, hlocate, hl, -⟩ := h
  intro l' hlocate'
  rw [← Except.ok.inj (hlocate.symm.trans hlocate')]
  exact hl

/-- A log stays where it is as long as entries are only put. -/
theorem HasLog.persists (h : r.HasLog tree day fs) (hhere : fs'.workingDirectory = fs.workingDirectory)
    (hpersists : fs.Persists fs') : r.HasLog tree day fs' := by
  obtain ⟨l, e, hlocate, hl, hfound, he⟩ := h
  obtain ⟨hthere, hway⟩ := hpersists l (by rw [hfound]; exact Option.some_ne_none e)
  have hnone : fs'.way? l = none := by
    rw [hway, way?, hfound, Option.filter_some, he]
    rfl
  obtain ⟨e', he'⟩ := Option.ne_none_iff_exists'.mp hthere
  have hplain : e'.isWay = false := by
    rw [way?, he', Option.filter_some] at hnone
    cases hway' : e'.isWay with
    | false => rfl
    | true =>
      rw [hway'] at hnone
      cases hnone
  refine ⟨l, e', ?_, hl, he', hplain⟩
  rw [locate_eq_ok_iff] at hlocate ⊢
  rw [start_congr hhere]
  refine hlocate.of_extends hpersists.extends fun target hlink => ?_
  rw [he'] at hlink
  cases hlink
  cases hplain

namespace IsSpared

/-- An entry outside the tree is removed. -/
theorem erase (hi : r.IsSpared tree day fs₁ fs) (hgone : ¬tree gone) (hother : fs.find? gone ≠ some .directory)
    (hgrounds : fs₁.Grounds (fs.erase gone)) : r.IsSpared tree day fs₁ (fs.erase gone) where
  isTree := hi.isTree.erase hother
  once := hi.once.erase gone
  grounds := hgrounds
  same l hl := by
    have hne : l ≠ gone := by
      rintro rfl
      exact hgone hl
    rw [find?_erase_of_ne fs hne]
    exact hi.same l hl
  log l hl := by
    rcases (locate_eq_ok_iff.mp hl).of_erase with ⟨rfl, -⟩ | hleads
    · exact hgone
    · exact hi.log l (locate_eq_ok_iff.mpr hleads)

/-- An event is written outside the tree; then there is a log. -/
theorem write_log (hi : r.IsSpared tree day fs₁ fs) {change : List UInt8 → List UInt8}
    (hwrite : fs.write (r.logPath day) change = .ok fs') :
    r.IsSpared tree day fs₁ fs' ∧ r.HasLog tree day fs' := by
  have hlog := hi.log.hasLog hi.isTree hwrite
  refine ⟨?_, hlog⟩
  rcases write_inv hwrite with rfl | ⟨l, bytes, executable, hlocate, hplace, rfl⟩
  · exact hi
  · have hput := hi.isTree.put_file hlocate hplace bytes executable
    refine ⟨hi.isTree.insert hput, hi.once.insert l _, hi.grounds.of_extends rfl hput.extends, fun l' hl' => ?_,
      hlog.logsOutside⟩
    have hne : l' ≠ l := by
      rintro rfl
      exact hi.log _ hlocate hl'
    rw [find?_insert_of_ne fs hne]
    exact hi.same l' hl'

/-- A child that spares the tree has written. -/
theorem adds (hi : r.IsSpared tree day fs₁ fs) (hlog : r.HasLog tree day fs) {d : Deed} (hd : d.Spares tree)
    (hfound : d.found = fs) (htree : d.left.IsTree) (honce : d.left.IsListing)
    (hhere : d.left.workingDirectory = fs.workingDirectory) (hpersists : fs.Persists d.left) :
    r.IsSpared tree day fs₁ d.left ∧ r.HasLog tree day d.left := by
  have hlog' := hlog.persists hhere hpersists
  refine ⟨⟨htree, honce, hi.grounds.of_extends hhere hpersists.extends, fun l hl => ?_, hlog'.logsOutside⟩, hlog'⟩
  rw [hd.writes l hl, hfound]
  exact hi.same l hl

/-- A binary is removed outside the tree. -/
theorem remove_binary (hi : r.IsSpared tree day fs₁ fs) (hbeside : r.IsBeside tree day fs₁) {n : Nat}
    (hremove : fs.remove (r.config.workRoot.child (FileRun.binaryName n)) = .ok fs') :
    ∃ gone, ¬tree gone ∧ fs' = fs.erase gone ∧ r.IsSpared tree day fs₁ fs' := by
  obtain ⟨w, hwork, hw, hnames⟩ := hbeside.work
  obtain ⟨own, e, hown, hfound, hother, rfl⟩ := remove_inv hremove
  have hthere := locate_eq_ok_iff.mp (hi.grounds.locate hwork hw)
  have hleads := hthere.concat_own (hi.grounds.directories w hw) (FileRun.binaryName_ne_up n)
  obtain rfl := hleads.unique (locateLink_eq_ok_iff.mp hown)
  obtain ⟨hgone, hlink⟩ := hnames n
  have hdirectory : fs.find? (w ++ [FileRun.binaryName n]) ≠ some .directory := by
    rw [hfound]
    exact fun heq => hother (Option.some.inj heq)
  exact ⟨_, hgone, rfl, hi.erase hgone hdirectory (hi.grounds.erase hdirectory hlink)⟩

/-- What has been announced is removed outside the tree. -/
theorem take (hi : r.IsSpared tree day fs₁ fs) {path : String} {metrics : List Metric} {files : Files}
    (hpath : ∀ l, fs.locateLink (Path.ofText path) = .ok l → ¬tree l)
    (htaken : fs.takeMetrics? path = some (metrics, files)) : r.IsSpared tree day fs₁ files := by
  obtain ⟨own, l, bytes, executable, hlocate, hfile, hown, hother, rfl⟩ := Files.takeMetrics_files htaken
  exact hi.erase (hpath own hown) hother (hi.grounds.erase_own hlocate hfile hown hother)

end IsSpared

/-! ## The host while copies are run -/

/-- What a child of a host does: it is one of those that are to come, or an idle one, and if it is
to write nothing it leaves what it finds. -/
def IsDeedOf (host : Host) (d : Deed) : Prop :=
  (d.child = Child.idle ∨ d.child ∈ host.upcoming) ∧ (WritesNothing d.child → d.left = d.found)

/-- What holds of the files provided that all children since a start have spared a tree. -/
structure Provided (tree : Location → Prop) (host : Host) (K : Files → Prop) (h : Host) : Prop where
  measuring : IsMeasuring host h
  kept : ∃ more, deeds h = deeds host ++ more ∧ (∀ d ∈ more, IsDeedOf host d) ∧
    ((∀ d ∈ more, d.Spares tree) → K h.files)

theorem quiet_provided (tree : Location → Prop) (host : Host) (K : Files → Prop) : Quiet (Provided tree host K) := by
  rintro h h' hview ⟨hmeasuring, more, hdeeds, hseen, hkept⟩
  refine ⟨quiet_isMeasuring h h' hview hmeasuring, more, ?_, hseen, ?_⟩
  · simp only [view, Prod.mk.injEq] at hview
    rw [hview.2.2.2, hdeeds]
  · have hfiles : h'.files = h.files := congrArg Prod.fst hview
    rw [hfiles]
    exact hkept

theorem Provided.mono (hi : Provided tree host K h) (hK : ∀ fs, K fs → K' fs) : Provided tree host K' h := by
  obtain ⟨hmeasuring, more, hdeeds, hseen, hkept⟩ := hi
  exact ⟨hmeasuring, more, hdeeds, hseen, fun hspares => hK _ (hkept hspares)⟩

/-- The files are changed otherwise than by children. -/
theorem Provided.change (hi : Provided tree host K h) {files : Files} (hfiles : K h.files → K' files) :
    Provided tree host K' { h with files } := by
  obtain ⟨hmeasuring, more, hdeeds, hseen, hkept⟩ := hi
  exact ⟨hmeasuring, more, hdeeds, hseen, fun hspares => hfiles (hkept hspares)⟩

theorem Provided.and (hi : Provided tree host K h) (hi' : Provided tree host K' h) :
    Provided tree host (fun fs => K fs ∧ K' fs) h := by
  obtain ⟨hmeasuring, more, hdeeds, hseen, hkept⟩ := hi
  obtain ⟨-, more', hdeeds', -, hkept'⟩ := hi'
  obtain rfl := List.append_cancel_left (hdeeds.symm.trans hdeeds')
  exact ⟨hmeasuring, more, hdeeds, hseen, fun hspares => ⟨hkept hspares, hkept' hspares⟩⟩

/-- One more child has written. -/
theorem Provided.adds {L : Files → Prop} (hi : Provided tree host K h) {d : Deed} {h' : Host} (hd : Adds L h d h')
    (hK : K h.files → d.Spares tree → K' d.left) : Provided tree host K' h' := by
  obtain ⟨hmeasuring, more, hdeeds, hseen, hkept⟩ := hi
  have hview := hd.view_eq
  simp only [view, Prod.mk.injEq] at hview
  obtain ⟨hfiles, -, -, hadded⟩ := hview
  refine ⟨(hmeasuring.adds hd).1, more ++ [d], ?_, fun d' hd' => ?_, fun hspares => ?_⟩
  · rw [hadded, hdeeds, List.append_assoc]
  · rcases List.mem_append.mp hd' with hbefore | hlast
    · exact hseen d' hbefore
    · rw [List.mem_singleton.mp hlast]
      exact ⟨(hmeasuring.adds hd).2, hd.same⟩
  · rw [hfiles]
    exact hK (hkept fun d' hd' => hspares d' (List.mem_append_left _ hd')) (hspares d (by simp))

/-- What a child leaves, if it found a tree. -/
def Leftover (fs fs' : Files) : Prop :=
  fs.IsTree ∧ fs.IsListing → fs'.IsTree ∧ fs'.IsListing ∧ fs'.workingDirectory = fs.workingDirectory ∧ fs.Persists fs'

theorem lasting_leftover (fs : Files) : Lasting (Leftover fs) := by
  by_cases hfs : fs.IsTree ∧ fs.IsListing
  · have hlasting : Lasting fun fs' =>
        fs'.IsTree ∧ fs'.IsListing ∧ fs'.workingDirectory = fs.workingDirectory ∧ fs.Persists fs' := by
      refine lasting_of_put (fun _ h => h.1) fun h hl => ?_
      exact ⟨h.1.insert hl, h.2.1.insert _ _, h.2.2.1, h.2.2.2.trans hl.persists⟩
    exact ⟨fun h hmake _ => hlasting.make (h hfs) hmake, fun h hwrite _ => hlasting.write (h hfs) hwrite,
      fun p executable h _ => hlasting.setExecutable p executable (h hfs)⟩
  · exact ⟨fun _ _ h => absurd h hfs, fun _ _ h => absurd h hfs, fun _ _ _ h => absurd h hfs⟩

theorem leftover_self (fs : Files) : Leftover fs fs := fun h => ⟨h.1, h.2, rfl, Persists.refl fs⟩

/-- Copies are run beside the tree. -/
theorem measures_provided (hbeside : r.IsBeside tree host.now fs₁)
    (hunread : (∀ c ∈ host.upcoming, c.output ≠ none) ∨ ∀ f, F f) (hunlogged : ∀ f, r.IsUnlogged host.now f → F f) :
    r.Measures Leftover
      (Provided tree host fun fs => r.IsSpared tree host.now fs₁ fs ∧ r.HasLog tree host.now fs)
      (Provided tree host (r.IsSpared tree host.now fs₁))
      (fun path => Provided tree host fun fs => ∀ l, fs.locateLink (Path.ofText path) = .ok l → ¬tree l) F where
  quiet := quiet_provided tree host _
  quiet_last := quiet_provided tree host _
  quiet_path _ := quiet_provided tree host _
  weaken _ hi := hi.mono fun _ => And.left
  lasting := lasting_leftover
  begins h _ := leftover_self h.files
  start h d h' hi hd := by
    refine hi.adds hd fun hfs hspares => ?_
    obtain ⟨htree, honce, hhere, hpersists⟩ := hd.left ⟨hfs.1.isTree, hfs.1.once⟩
    exact hfs.1.adds hfs.2 hspares hd.found_eq htree honce hhere hpersists
  unread h d h' f hi hd hf := by
    rcases hunread with hchildren | hall
    · refine Or.inl (printed_eq_error hf ?_)
      rcases (hi.measuring.adds hd).2 with hidle | hchild
      · rw [hidle]
        exact Option.some_ne_none _
      · exact hchildren _ hchild
    · exact Or.inr (hall f)
  announced h d h' output path hi hd houtput hpath :=
    hi.adds hd fun _ hspares => hspares.announces output path houtput hpath
  remove h n files hi hremove := by
    refine ⟨hi.change fun hfs => ?_, fun path hp => ?_⟩
    · obtain ⟨gone, -, -, hspared⟩ := hfs.1.remove_binary hbeside hremove
      exact hspared
    · refine (hi.and hp).change fun hfs l hl => ?_
      obtain ⟨gone, -, rfl, -⟩ := hfs.1.1.remove_binary hbeside hremove
      exact hfs.2 l (locateLink_eq_ok_iff.mpr (locateLink_eq_ok_iff.mp hl).own_of_erase)
  take h path metrics files hi hp htaken := (hi.and hp).change fun hfs => hfs.1.take hfs.2 htaken
  append h text hi := by
    have hpath : r.log.file h.now.dayText = r.logPath host.now := by rw [hi.measuring.1, logPath]
    rw [appendText, Leaves, ends_changeFiles, hpath]
    split
    · rename_i files hwrite
      exact .ok (hi.change fun hfs => hfs.write_log hwrite)
    · exact .error ⟨hi, hunlogged _ ⟨_, rfl⟩⟩

end Run

end Stopwatch
