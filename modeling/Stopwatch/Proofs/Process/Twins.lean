/-
  Programs on twins.

  The same program is run on twins.  It comes to the same on both if its children put nothing but files
  where files may be lacking, and announce none of them; if one of them does not, that can be seen on the
  second side.
-/
import Stopwatch.Proofs.Host.Twins
import Stopwatch.Proofs.Metric.Recovered
import Stopwatch.Proofs.Process.FileRun

namespace Stopwatch

open Action Files

variable {places : List Location} {fs fs' : Files} {n : Nat}

/-! ## Files that are removed -/

namespace Files

/-- A text leads to no file that may be lacking. -/
def Avoids (places : List Location) (fs : Files) (path : String) : Prop :=
  ∀ l ∈ places, fs.locate (Path.ofText path) = .ok l → fs.find? l = none

theorem without_eq (fs : Files) (p : Path) :
    fs.without p = match fs.locateLink p with
      | .error _ => fs
      | .ok own =>
        match fs.find? own with
        | some .directory | none => fs
        | some _ => fs.erase own := by
  rw [without, remove]
  cases fs.locateLink p with
  | error fault => rfl
  | ok own =>
    simp only [bind, Except.bind]
    cases fs.find? own with
    | none => rfl
    | some e => cases e <;> rfl

/-- The entry of a path is removed on both sides. -/
theorem Lacking.without (h : fs.Lacking places fs') (p : Path) : (fs.without p).Lacking places (fs'.without p) := by
  rw [without_eq, without_eq]
  cases hown : fs.locateLink p with
  | error fault =>
    obtain ⟨fault', hown'⟩ := h.exists_locateLink_error hown
    rw [hown']
    exact h
  | ok own =>
    rw [h.alike.locateLink.mpr hown]
    dsimp only
    rcases h.entry own with hsame | ⟨hl, ⟨bytes, executable, hfile⟩, hnone | ⟨bytes', executable', hfile'⟩⟩
    · rw [hsame]
      cases hfound : fs.find? own with
      | none => exact h
      | some e =>
        cases e with
        | directory => exact h
        | file _ _ | link _ | pipe => exact h.erase own
    · rw [hfile, hnone]
      exact h.erase_left hl hnone
    · rw [hfile, hfile']
      exact h.erase own

/-- What is removed elsewhere does not lead a text to a file. -/
theorem Avoids.without {path : String} (h : fs.Avoids places path) (p : Path) : (fs.without p).Avoids places path := by
  intro l hl hlocate
  have herase {own : Location} (hlocate : (fs.erase own).locate (Path.ofText path) = .ok l) :
      (fs.erase own).find? l = none := by
    rw [find?_erase]
    split
    · rfl
    · rename_i hkept
      rcases (locate_eq_ok_iff.mp hlocate).of_erase with hgone | hleads
      · exact absurd hgone hkept
      · exact h l hl (locate_eq_ok_iff.mpr hleads)
  rw [without_eq] at hlocate ⊢
  split at hlocate
  · exact h l hl hlocate
  · rename_i own _
    split at hlocate
    · exact h l hl hlocate
    · exact h l hl hlocate
    · exact herase hlocate

/-! ## Metrics -/

/-- The metrics of an announced file are the same on both sides. -/
theorem Lacking.metricsAt_iff (h : fs.Lacking places fs') {path : String} (hpath : fs.Avoids places path)
    {metrics : List Metric} :
    fs'.metricsAt (Path.ofText path) = .ok metrics ↔ fs.metricsAt (Path.ofText path) = .ok metrics := by
  have hsame {l : Location} (hlocate : fs.locate (Path.ofText path) = .ok l) (hl : l ∉ places) :
      fs'.metricsAt (Path.ofText path) = fs.metricsAt (Path.ofText path) := by
    rw [metricsAt, metricsAt, read, read, hlocate, h.alike.locate.mpr hlocate]
    simp only [bind, Except.bind, h.same l hl]
  constructor
  · intro hmetrics
    obtain ⟨l, bytes, executable, hlocate', hfile⟩ := exists_file_of_metricsAt hmetrics
    have hlocate := h.alike.locate.mp hlocate'
    rw [← hsame hlocate fun hl => ?_]
    · exact hmetrics
    · rw [h.fewer l (hpath l hl hlocate)] at hfile
      cases hfile
  · intro hmetrics
    obtain ⟨l, bytes, executable, hlocate, hfile⟩ := exists_file_of_metricsAt hmetrics
    rw [hsame hlocate fun hl => ?_]
    · exact hmetrics
    · rw [hpath l hl hlocate] at hfile
      cases hfile

/-- The same metrics are taken on both sides, or none. -/
theorem Lacking.takeMetrics (h : fs.Lacking places fs') {path : String} (hpath : fs.Avoids places path) :
    (fs.takeMetrics? path = none ∧ fs'.takeMetrics? path = none) ∨
      ∃ metrics files files', fs.takeMetrics? path = some (metrics, files) ∧
        fs'.takeMetrics? path = some (metrics, files') ∧ files.Lacking places files' := by
  have hnone {fs : Files} {f : Failure} (hmetrics : fs.metricsAt (Path.ofText path) = .error f) :
      fs.takeMetrics? path = none := by
    rw [takeMetrics?]
    simp only [hmetrics]
  have hsome {fs : Files} {metrics : List Metric} (hmetrics : fs.metricsAt (Path.ofText path) = .ok metrics) :
      ∃ files, fs.takeMetrics? path = some (metrics, files) := by
    rw [takeMetrics?]
    simp only [hmetrics]
    exact ⟨_, rfl⟩
  cases hmetrics : fs.metricsAt (Path.ofText path) with
  | error f =>
    cases hmetrics' : fs'.metricsAt (Path.ofText path) with
    | error f' => exact Or.inl ⟨hnone hmetrics, hnone hmetrics'⟩
    | ok metrics =>
      rw [(h.metricsAt_iff hpath).mp hmetrics'] at hmetrics
      cases hmetrics
  | ok metrics =>
    obtain ⟨files, htaken⟩ := hsome hmetrics
    obtain ⟨files', htaken'⟩ := hsome ((h.metricsAt_iff hpath).mpr hmetrics)
    refine Or.inr ⟨metrics, files, files', htaken, htaken', ?_⟩
    obtain ⟨own, -, -, -, -, -, hown, -, rfl⟩ := takeMetrics_files htaken
    obtain ⟨own', -, -, -, -, -, hown', -, rfl⟩ := takeMetrics_files htaken'
    obtain rfl := Except.ok.inj ((h.alike.locateLink.mpr hown).symm.trans hown')
    exact h.erase own

theorem Lacking.recoverFrom (h : fs.Lacking places fs') {path : Option String} (hpath : ∀ p, path = some p → fs.Avoids places p)
    (output : String) :
    (fs.recoverFrom path output).metrics = (fs'.recoverFrom path output).metrics ∧
      (fs.recoverFrom path output).files.Lacking places (fs'.recoverFrom path output).files := by
  rw [Files.recoverFrom, Files.recoverFrom]
  cases path with
  | none => exact ⟨rfl, h⟩
  | some path =>
    rw [Option.bind_some, Option.bind_some]
    rcases h.takeMetrics (hpath path rfl) with ⟨hnone, hnone'⟩ | ⟨metrics, files, files', htaken, htaken', hfiles⟩
    · rw [hnone, hnone']
      exact ⟨rfl, h⟩
    · rw [htaken, htaken']
      exact ⟨rfl, hfiles⟩

end Files

namespace Action

/-! ## Children -/

/-- A child that has put nothing but files where files may be lacking, and announces none of them. -/
structure Deed.KeepsOff (places : List Location) (d : Deed) : Prop where
  leaves : ∀ l ∈ places, d.left.IsPlace l
  announces : ∀ output path, d.output = .ok output → announcedPath? output = some path →
    ∀ l ∈ places, d.left.locate (Path.ofText path) ≠ .ok l

theorem Deed.keepsOff_iff (places : List Location) (d : Deed) :
    d.KeepsOff places ↔ (∀ l ∈ places, d.left.IsPlace l) ∧ ∀ output ∈ d.output.toOption,
      ∀ path ∈ announcedPath? output, ∀ l ∈ places, d.left.locate (Path.ofText path) ≠ .ok l := by
  constructor
  · rintro ⟨hleaves, hannounces⟩
    refine ⟨hleaves, fun output houtput path hpath => hannounces output path ?_ hpath⟩
    cases hresult : d.output with
    | ok output' =>
      rw [hresult] at houtput
      exact congrArg Except.ok (Option.some.inj houtput)
    | error f =>
      rw [hresult] at houtput
      cases houtput
  · rintro ⟨hleaves, hannounces⟩
    exact ⟨hleaves, fun output path houtput => hannounces output (by rw [houtput]; rfl) path⟩

instance Deed.decidableKeepsOff (places : List Location) (d : Deed) : Decidable (d.KeepsOff places) :=
  decidable_of_iff _ (d.keepsOff_iff places).symm

/-- Behind a number of children there is one that has not kept off. -/
def Strayed (places : List Location) (n : Nat) (h : Host) : Prop :=
  ∃ d ∈ (deeds h).drop n, ¬d.KeepsOff places

theorem Strayed.of_prefix {h h' : Host} (hs : Strayed places n h) (hdeeds : deeds h <+: deeds h') :
    Strayed places n h' := by
  obtain ⟨d, hd, hother⟩ := hs
  exact ⟨d, (hdeeds.drop n).subset hd, hother⟩

/-- Twins, on the second one of which a number of children have been started before. -/
def TwinsFrom (places : List Location) (n : Nat) (h h' : Host) : Prop :=
  Twins places h h' ∧ n ≤ (deeds h').length

/-- Actions that mirror each other on twins as long as no child strays. -/
abbrev MirrorsFrom {α β : Type} (places : List Location) (n : Nat) (P : Host → Host → Prop) (S : α → β → Host → Host → Prop)
    (a : Action α) (a' : Action β) : Prop :=
  Mirrors (Strayed places n) (TwinsFrom places n) P S a a'

/-- The child that is next writes, and it is noted what it has left. -/
theorem ends_start_of {host : Host} {command : Command} (hrefusal : (host.upcoming.headD Child.idle).refusal = none)
    {Q : Except Failure Child → Host → Prop}
    (h : Ends (perform (host.upcoming.headD Child.idle) command.arguments) (enlist host command) fun r g =>
      Q (r.map fun _ => host.upcoming.headD Child.idle)
        { enlist host command with
          files := g.files
          spawned := host.spawned ++ [⟨host.upcoming.headD Child.idle, command, .running, host.files, g.files⟩] }) :
    Ends (start command) host Q := by
  unfold start
  rw [ends_bind, ends_get]
  dsimp only
  rw [ends_bind, ends_modify]
  dsimp only
  rw [hrefusal]
  dsimp only
  have hperform : Stays (OnlyFiles (fun _ => True) (enlist host command)) IsSystem
      (perform (host.upcoming.headD Child.idle) command.arguments) (enlist host command) :=
    stays_perform lasting_true _ _ ⟨host.files, rfl, trivial⟩
  rw [ends_bind, ensuring, ends_bind, ends_attempt]
  refine Ends.mono (Ends.and hperform h) ?_
  rintro r g ⟨⟨⟨files, rfl, -⟩, -⟩, hq⟩
  dsimp only
  rw [ends_bind, ends_bind, ends_observe]
  dsimp only
  rw [ends_noteLast rfl]
  cases r with
  | ok _ => exact hq
  | error f => exact hq

/-- A child that is refused is noted, and has done nothing. -/
theorem ends_start_of_refusal {host : Host} {command : Command} {text : String}
    (hrefusal : (host.upcoming.headD Child.idle).refusal = some text) {Q : Except Failure Child → Host → Prop} :
    Ends (start command) host Q ↔ Q (.error (.system (.notStarted text)))
      { enlist host command with
        spawned := host.spawned ++ [⟨host.upcoming.headD Child.idle, command, .refused, host.files, host.files⟩] } := by
  unfold start
  rw [ends_bind, ends_get]
  dsimp only
  rw [ends_bind, ends_modify]
  dsimp only
  rw [hrefusal]
  dsimp only
  rw [ends_bind, settle, ends_noteLast rfl]
  rfl

theorem deeds_of_start (command : Command) {h : Host} :
    Ends (start command) h fun _ g => deeds h <+: deeds g := by
  refine Ends.mono (ends_start lasting_true command trivial) ?_
  rintro r g ⟨s, hs, -⟩
  have hview := hs.adds.view_eq
  simp only [view, Prod.mk.injEq] at hview
  exact ⟨_, hview.2.2.2.symm⟩

/-- The same child is started on twins. -/
theorem mirrors_start (command : Command) :
    MirrorsFrom places n (TwinsFrom places n)
      (fun c c' h h' => c = c' ∧ TwinsFrom places n h h' ∧ ∃ d ∈ (deeds h').drop n, d.child = c ∧ d.left = h'.files)
      (start command) (start command) where
  lasts h' hb := Ends.mono (deeds_of_start command) fun _ _ hdeeds => hb.of_prefix hdeeds
  ends h h' ht := by
    obtain ⟨⟨hfiles, hstock⟩, hn⟩ := ht
    simp only [stock, Prod.mk.injEq] at hstock
    obtain ⟨hnamed, hupcoming, hsearch, hgathered, hnow⟩ := hstock
    have hstock : stock (enlist h' command) = stock (enlist h command) := by
      simp only [stock, enlist, hnamed, hupcoming, hsearch, hgathered, hnow]
    -- the new child stands behind the others
    have hdeeds (s : Spawned) (g' : Host) (hg' : g'.spawned = h'.spawned ++ [s]) :
        n ≤ (deeds g').length ∧ ⟨s.child, s.found, s.left⟩ ∈ (deeds g').drop n := by
      have hadded : deeds g' = deeds h' ++ [⟨s.child, s.found, s.left⟩] := by simp [deeds, hg']
      rw [hadded, List.drop_append_of_le_length hn, List.length_append]
      exact ⟨hn.trans (Nat.le_add_right _ _), List.mem_append_right _ (List.mem_singleton_self _)⟩
    cases hrefusal : (h.upcoming.headD Child.idle).refusal with
    | some text =>
      rw [ends_start_of_refusal hrefusal, ends_start_of_refusal (by rw [hupcoming, hrefusal])]
      exact Or.inr (.error (Or.inl rfl) ⟨⟨hfiles, hstock⟩, (hdeeds _ _ rfl).1⟩)
    | none =>
      refine ends_start_of hrefusal ?_
      refine Ends.mono ((writesAlike_perform _ _).ends _ (enlist h' command) ⟨hfiles, hstock⟩) fun r g hr => ?_
      refine ends_start_of (by rw [hupcoming, hrefusal]) ?_
      rw [hupcoming]
      refine Ends.mono hr fun r' g' hr' => ?_
      obtain ⟨hn', hmem⟩ := hdeeds ⟨h.upcoming.headD Child.idle, command, .running, h'.files, g'.files⟩
        { enlist h' command with
          files := g'.files
          spawned := h'.spawned ++ [⟨h.upcoming.headD Child.idle, command, .running, h'.files, g'.files⟩] } rfl
      rcases hr' with ⟨l, hl, hother⟩ | hm
      · exact Or.inl ⟨_, hmem, fun hkeeps => hother (hkeeps.leaves l hl)⟩
      · cases hm with
        | ok ht => exact Or.inr (.ok ⟨rfl, ⟨⟨ht.1, hstock⟩, hn'⟩, _, hmem, rfl, rfl⟩)
        | error hf ht => exact Or.inr (.error hf ⟨⟨ht.1, hstock⟩, hn'⟩)

/-- Something holds of twins, and what an output announces avoids the files that may be lacking. -/
def HeardAlike (places : List Location) (n : Nat) (output : String) (h h' : Host) : Prop :=
  TwinsFrom places n h h' ∧ ∀ path, announcedPath? output = some path → h.files.Avoids places path

theorem ends_settle (fate : Fate) (h : Host) : Ends (settle fate) h fun r g => r = .ok () ∧ deeds g = deeds h ∧
    g.files = h.files ∧ stock g = stock h := by
  cases hlast : h.spawned.getLast? with
  | none =>
    rw [settle, noteLast, ends_modify, hlast]
    exact ⟨rfl, rfl, rfl, rfl⟩
  | some last =>
    obtain ⟨front, hfront⟩ := List.getLast?_eq_some_iff.mp hlast
    rw [settle, ends_noteLast hfront]
    refine ⟨rfl, ?_, rfl, rfl⟩
    simp [deeds, hfront]

/-- What becomes of a child is noted on both sides. -/
theorem mirrors_settle (fate : Fate) (output : String) :
    MirrorsFrom places n (HeardAlike places n output) (fun _ _ => HeardAlike places n output) (settle fate) (settle fate) where
  lasts h' hb := Ends.mono (ends_settle fate h') fun _ _ hr => hb.of_prefix (hr.2.1 ▸ List.prefix_refl _)
  ends h h' hp := by
    obtain ⟨⟨⟨hfiles, hstock⟩, hn⟩, hpath⟩ := hp
    refine Ends.mono (ends_settle fate h) ?_
    rintro r g ⟨rfl, -, hg, hg'⟩
    refine Ends.mono (ends_settle fate h') ?_
    rintro r' k ⟨rfl, hdeeds, hk, hk'⟩
    refine Or.inr (.ok ⟨⟨⟨?_, hk'.trans (hstock.trans hg'.symm)⟩, hdeeds ▸ hn⟩, ?_⟩)
    · rw [hg, hk]
      exact hfiles
    · rw [hg]
      exact hpath

/-- A child is waited for on both sides. -/
theorem mirrors_communicate (command : Command) :
    MirrorsFrom places n (TwinsFrom places n)
      (fun found found' h h' => found = found' ∧ HeardAlike places n (withStatus found.1 found.2) h h')
      (communicate command) (communicate command) := by
  refine (mirrors_start command).bind_same fun child => ?_
  cases hprinted : child.printed with
  | error f => exact .fail (Or.inl rfl) fun _ _ hp => hp.1
  | ok text =>
    refine .of_not (.bind (S := fun _ _ => HeardAlike places n (withStatus child.status text)) ?_ fun _ _ => .pure fun _ _ hp => ⟨rfl, hp⟩)
    refine (mirrors_settle _ (withStatus child.status text)).mono ?_ fun _ _ _ _ => id
    rintro h h' ⟨⟨ht, d, hd, rfl, hleft⟩, hkept⟩
    refine ⟨ht, fun path hpath l hl hlocate => ?_⟩
    -- a child that has not strayed announces no file that may be lacking
    have hkeeps : d.KeepsOff places := by
      by_contra hother
      exact hkept ⟨d, hd, hother⟩
    refine absurd ?_ (hkeeps.announces _ path ?_ hpath l hl)
    · rw [hleft]
      exact ht.1.1.alike.locate.mpr hlocate
    · rw [Deed.output, hprinted]
      rfl

end Action

/-! ## Programs -/

namespace FileRun

variable {config : Config} {source binary directory : Path}

/-- Something holds of twins, and what a program has announced avoids the files that may be lacking. -/
def FoundAlike (places : List Location) (n : Nat) (outcome : FileRun) (h h' : Host) : Prop :=
  TwinsFrom places n h h' ∧ ∀ path output, outcome = .announced path output → h.files.Avoids places path

/-- What a program comes to on both sides: the same, or it cannot be run on either. -/
inductive Akin : FileRun → FileRun → Prop
  | same (outcome : FileRun) : Akin outcome outcome
  | failed (message message' : String) : Akin (.failed message) (.failed message')

theorem foundAlike_ofOutput {output : String} {h h' : Host} (hh : HeardAlike places n output h h') :
    FoundAlike places n (ofOutput output) h h' := by
  refine ⟨hh.1, fun path output' heq => ?_⟩
  rw [ofOutput] at heq
  split at heq
  · rename_i path' hpath
    cases heq
    exact hh.2 path hpath
  · cases heq

theorem foundAlike_failed {h h' : Host} (ht : TwinsFrom places n h h') (message : String) :
    FoundAlike places n (.failed message) h h' :=
  ⟨ht, nofun⟩

theorem mirrors_compile : MirrorsFrom places n (TwinsFrom places n) (fun _ _ => TwinsFrom places n)
    (compile config source binary) (compile config source binary) := by
  refine (mirrors_communicate _).bind_same fun found => ?_
  dsimp only
  split
  · exact .fail (Or.inl rfl) fun _ _ hp => hp.1
  · exact .pure fun _ _ hp => hp.1

theorem mirrors_execute : MirrorsFrom places n (TwinsFrom places n)
    (fun output output' h h' => output = output' ∧ HeardAlike places n output h h')
    (execute config binary directory) (execute config binary directory) := by
  refine .observe_bind (fun g g' ht => congrArg (fun s => s.2.2.1) ht.1.2) fun existing => ?_
  refine (mirrors_communicate _).bind_same fun found => ?_
  exact .pure fun _ _ hp => ⟨rfl, hp⟩

theorem mirrors_attemptRun : MirrorsFrom places n (TwinsFrom places n)
    (fun outcome outcome' h h' => Akin outcome outcome' ∧ FoundAlike places n outcome h h')
    (attemptRun config source binary) (attemptRun config source binary) := by
  have hstage {α : Type} [Nonempty α] {P : Host → Host → Prop} {S : α → α → Host → Host → Prop} {a : Action α}
      (hP : IgnoresPipelines P) (hS : ∀ x y, IgnoresPipelines (S x y)) (ha : MirrorsFrom places n P S a a) (name : String) :
      MirrorsFrom places n P S (Action.stage name a) (Action.stage name a) :=
    ha.stage (fun _ _ hb => hb) hP (fun _ _ _ _ ht => ht) hS name
  refine (hstage (fun _ _ _ _ ht => ht) (fun _ _ _ _ _ _ ht => ht) mirrors_compile _).bind fun _ _ => ?_
  refine Mirrors.bind_same (hstage (fun _ _ _ _ ht => ht) (fun _ _ _ _ _ _ ht => ht) mirrors_execute _) fun output => ?_
  exact hstage (fun _ _ _ _ ht => ht) (fun _ _ _ _ _ _ ht => ht) (.pure fun _ _ hp => ⟨.same _, foundAlike_ofOutput hp⟩) _

/-- A failure is handled alike on both sides. -/
theorem mirrors_ofFailure {f f' : Failure} (hf : AlikeFailures f f') : MirrorsFrom places n (TwinsFrom places n)
    (fun outcome outcome' h h' => Akin outcome outcome' ∧ FoundAlike places n outcome h h') (ofFailure f) (ofFailure f') := by
  rcases hf with rfl | ⟨hf, hf'⟩
  · rw [ofFailure]
    split
    · exact .pure fun _ _ ht => ⟨.same _, foundAlike_failed ht _⟩
    · split
      · exact .pure fun _ _ ht => ⟨.same _, foundAlike_failed ht _⟩
      · exact .fail (Or.inl rfl) fun _ _ => id
  · obtain ⟨e, rfl⟩ := hf.exists_eq
    obtain ⟨e', rfl⟩ := hf'.exists_eq
    exact .pure fun _ _ ht => ⟨.failed _ _, foundAlike_failed ht _⟩

/-- The binary is removed on both sides. -/
theorem mirrors_cleanUp {P : Host → Host → Prop}
    (hP : ∀ g g' pipeline pipeline', P g g' → P { g with files := g.files.without binary, pipeline }
      { g' with files := g'.files.without binary, pipeline := pipeline' }) :
    MirrorsFrom places n P (fun _ _ => P) (cleanUp binary) (cleanUp binary) := by
  have hclean (h : Host) : Ends (cleanUp binary) h fun r g => r = .ok () ∧
      ∃ pipeline, g = { h with files := h.files.without binary, pipeline } := by
    have hafter (files : Files) (pipeline : Pipeline) : after h [] files pipeline = { h with files, pipeline } := by
      simp [after]
    have hends : Ends (cleanUp binary) (after h [] h.files h.pipeline) fun r g => r = .ok () ∧
        ∃ pipeline, g = after h [] (h.files.without binary) pipeline := ends_cleanUp
    rw [hafter] at hends
    refine Ends.mono hends ?_
    rintro r g ⟨hr, pipeline, rfl⟩
    exact ⟨hr, pipeline, hafter _ _⟩
  constructor
  · intro h' hb
    refine Ends.mono (hclean h') ?_
    rintro r' g' ⟨-, pipeline, rfl⟩
    exact hb
  · intro h h' hp
    refine Ends.mono (hclean h) ?_
    rintro r g ⟨rfl, pipeline, rfl⟩
    refine Ends.mono (hclean h') ?_
    rintro r' g' ⟨rfl, pipeline', rfl⟩
    exact Or.inr (.ok (hP h h' pipeline pipeline' hp))

theorem mirrors_freshName : MirrorsFrom places n (TwinsFrom places n)
    (fun name name' h h' => name = name' ∧ TwinsFrom places n h h') freshName freshName where
  lasts h' hb := hb
  ends h h' ht := by
    obtain ⟨⟨hfiles, hstock⟩, hn⟩ := ht
    simp only [stock, Prod.mk.injEq] at hstock
    obtain ⟨hnamed, hrest⟩ := hstock
    rw [ends_freshName]
    rw [ends_freshName, hnamed]
    refine Or.inr (.ok ⟨rfl, ⟨hfiles, ?_⟩, hn⟩)
    simp only [stock, Prod.mk.injEq]
    exact ⟨trivial, hrest⟩

/-- A program is run on both sides. -/
theorem mirrors_run (config : Config) (source : Path) : MirrorsFrom places n (TwinsFrom places n)
    (fun outcome outcome' h h' => Akin outcome outcome' ∧ FoundAlike places n outcome h h')
    (run config source) (run config source) := by
  have hplan : MirrorsFrom places n (TwinsFrom places n) (fun _ _ => TwinsFrom places n) (plan stageNames) (plan stageNames) :=
    .modify (fun _ hb => hb) fun _ _ ht => ht
  refine hplan.bind fun _ _ => mirrors_freshName.bind_same fun name => ?_
  refine (mirrors_attemptRun.handling fun _ _ hf => mirrors_ofFailure hf).ensuring (fun outcome outcome' => ?_) ?_
  · refine mirrors_cleanUp fun g g' pipeline pipeline' hp => ?_
    obtain ⟨hakin, ⟨⟨hfiles, hstock⟩, hn⟩, hpath⟩ := hp
    exact ⟨hakin, ⟨⟨hfiles.without _, hstock⟩, hn⟩, fun path output heq => (hpath path output heq).without _⟩
  · refine mirrors_cleanUp fun g g' pipeline pipeline' hp => ?_
    obtain ⟨⟨hfiles, hstock⟩, hn⟩ := hp
    exact ⟨⟨hfiles.without _, hstock⟩, hn⟩

/-- The same metrics are recovered on both sides. -/
theorem recover_akin {outcome outcome' : FileRun} (hakin : Akin outcome outcome') (h : fs.Lacking places fs')
    (hpath : ∀ path output, outcome = .announced path output → fs.Avoids places path) :
    (outcome.recover fs).metrics = (outcome'.recover fs').metrics ∧
      (outcome.recover fs).files.Lacking places (outcome'.recover fs').files := by
  cases hakin with
  | failed message message' => exact ⟨rfl, h⟩
  | same outcome =>
    cases outcome with
    | announced path output =>
      refine h.recoverFrom (fun p hp => ?_) output
      cases hp
      exact hpath path output rfl
    | printed output =>
      refine h.recoverFrom (fun p hp => ?_) output
      cases hp
    | failed message => exact ⟨rfl, h⟩

end FileRun

end Stopwatch
