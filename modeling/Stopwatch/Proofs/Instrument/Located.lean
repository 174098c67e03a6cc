/-
  The functions that are located and the functions that are measured.

  What is located at the top level of a module or in one of its classes is one of the
  functions of the module, and it is found there by its line alone, since no two functions
  stand on the same line.  It is measured exactly if it has been located with a body.
-/
import Stopwatch.Proofs.Instrument.Measured

namespace Stopwatch

open Syntax

/-! ## Candidates -/

/-- A function of a module and a candidate are the same. -/
structure Site.IsCandidate (t : Site) (c : Candidate) : Prop where
  line : t.line = c.line
  head : t.head = c.head
  suite : t.suite = c.suite

section

variable {style : Style} {indent : String} {before : List String}

/-- The line that a statement starts on says what stands in front of it. -/
theorem sitesOf_subset_of_mem_placed {body : List Stmt} {line : Nat} {s : Stmt}
    (h : (line, s) ∈ placed style indent (1 + countBreaks before) body) :
    ∃ before', line = 1 + countBreaks before' ∧
      sitesOf style indent before' s ⊆ sitesOfBody style indent before body := by
  induction body generalizing before with
  | nil => cases h
  | cons first body ih =>
    rw [placed, List.mem_cons] at h
    rw [sitesOfBody]
    rcases h with h | h
    · cases h
      exact ⟨before, rfl, List.subset_append_left _ _⟩
    · rw [Nat.add_assoc, ← countBreaks_append] at h
      obtain ⟨before', hline, hsubset⟩ := ih h
      exact ⟨before', hline, List.Subset.trans hsubset (List.subset_append_right _ _)⟩

theorem exists_site_of_functionCandidate {kind : DeclarationKind} {context : Option String} {s : Stmt}
    {c : Candidate} (h : functionCandidate? style indent kind context (1 + countBreaks before) s = some c) :
    ∃ t ∈ sitesOf style indent before s, t.IsCandidate c := by
  cases s with
  | line leading items ending => cases h
  | classDef head suite => cases h
  | compound first others => cases h
  | function head suite =>
    cases h
    refine ⟨⟨before ++ head.preface style indent, head, suite⟩, ?_, ?_, rfl, rfl⟩
    · rw [sitesOf]
      exact List.mem_append_right _ List.mem_cons_self
    · show 1 + countBreaks (before ++ head.preface style indent) = _
      rw [countBreaks_append, Nat.add_assoc]

/-- What a top-level statement defines is among the functions in it. -/
theorem exists_site_of_mem_candidatesOf {s : Stmt} {c : Candidate}
    (h : c ∈ candidatesOf style (1 + countBreaks before) s) :
    ∃ t ∈ sitesOf style "" before s, t.IsCandidate c := by
  unfold candidatesOf at h
  split at h
  · rename_i head ending step body footer
    rw [List.mem_filterMap] at h
    obtain ⟨⟨line, member⟩, hmember, hc⟩ := h
    have hfirst : 1 + countBreaks before + countBreaks (head.pieces style "") +
        countBreaks (ending.pieces style) =
        1 + countBreaks (before ++ head.pieces style "" ++ ending.pieces style) := by
      simp only [countBreaks_append, Nat.add_assoc]
    rw [hfirst] at hmember
    obtain ⟨before', rfl, hsubset⟩ := sitesOf_subset_of_mem_placed hmember
    obtain ⟨t, ht, htc⟩ := exists_site_of_functionCandidate hc
    refine ⟨t, ?_, htc⟩
    rw [sitesOf, sitesOfSuite]
    exact hsubset ht
  · rw [Option.mem_toList] at h
    exact exists_site_of_functionCandidate h

end

/-- Every candidate of a module is one of its functions. -/
theorem Syntax.Module.exists_site_of_mem_candidates {m : Module} {c : Candidate} (h : c ∈ m.candidates) :
    c.head.asynchronous.isSome = true ∧ ∃ t ∈ m.sites, t.IsCandidate c := by
  rw [Module.candidates, List.mem_filter, List.mem_flatMap] at h
  obtain ⟨⟨⟨line, s⟩, hs, hc⟩, hasync⟩ := h
  refine ⟨hasync, ?_⟩
  obtain ⟨before', rfl, hsubset⟩ := sitesOf_subset_of_mem_placed hs
  obtain ⟨t, ht, htc⟩ := exists_site_of_mem_candidatesOf hc
  exact ⟨t, hsubset ht, htc⟩

/-- Every function that is located is a candidate under some name. -/
theorem exists_of_mem_nameCandidates {seen : List String} {cs : List Candidate} {f : AsyncFunction}
    (h : f ∈ nameCandidates seen cs) : ∃ c ∈ cs, ∃ name, f = c.toFunction name := by
  induction cs generalizing seen with
  | nil => cases h
  | cons c cs ih =>
    rw [nameCandidates, List.mem_cons] at h
    rcases h with rfl | h
    · exact ⟨c, List.mem_cons_self, _, rfl⟩
    · obtain ⟨c', hc', name, hname⟩ := ih h
      exact ⟨c', List.mem_cons_of_mem _ hc', name, hname⟩

theorem Syntax.Module.functions_of_analyze {m : Module} {a : Analysis} (h : m.analyze = .ok a) :
    a.functions = nameCandidates [] m.candidates := by
  rw [Module.analyze] at h
  cases hguard : hasMainGuard m.body with
  | error fault => rw [hguard] at h; cases h
  | ok hasEntryPoint => rw [hguard] at h; cases h; rfl

/-- A function that has been located is the one of the module that stands on its line. -/
structure Site.IsLocated (t : Site) (f : AsyncFunction) : Prop where
  line : t.line = f.line
  name : t.name = f.name
  asynchronous : t.head.asynchronous.isSome = true
  hasBody : f.hasBody = t.isMeasured
  noBody : f.hasBody = false → t.suite.isStub = true

theorem Syntax.Module.exists_site_of_mem_functions {m : Module} {a : Analysis} (ha : m.analyze = .ok a)
    {f : AsyncFunction} (hf : f ∈ a.functions) : ∃ t ∈ m.sites, t.IsLocated f := by
  rw [functions_of_analyze ha] at hf
  obtain ⟨c, hc, name, rfl⟩ := exists_of_mem_nameCandidates hf
  obtain ⟨hasync, t, ht, htc⟩ := exists_site_of_mem_candidates hc
  refine ⟨t, ht, htc.line, ?_, ?_, ?_, ?_⟩
  · show t.head.name.text = c.head.name.text
    rw [htc.head]
  · rw [htc.head]
    exact hasync
  · show (!c.suite.isStub) = isMeasured t.head t.suite
    rw [isMeasured, htc.head, htc.suite, hasync, Bool.true_and]
  · intro hbody
    change (!c.suite.isStub) = false at hbody
    rw [htc.suite]
    simpa using hbody

/-! ## Names of modules -/

/-- The name of a module consists of names with dots between them. -/
def IsModuleName (name : String) : Prop :=
  ∀ part ∈ name.toList.splitOn '.', isNameText (String.ofList part) = true

/-- If the collector is imported, then from a module with a name. -/
def CollectorOrigin.IsNamed : CollectorOrigin → Prop
  | .definition => True
  | .importFrom moduleName => IsModuleName moduleName
  | .absent => True

/-- The module of the collector in a package has a name. -/
theorem isNamed_moduleName : CollectorOrigin.IsNamed (.importFrom Collector.moduleName) := by
  show ∀ part ∈ Collector.moduleName.toList.splitOn '.', isNameText (String.ofList part) = true
  decide

/-- The statement that imports the collector from a module with a given name. -/
def importLine (moduleName : String) : Stmt :=
  plainLine <| .importFrom (.bare "from") [] (modulePath ((moduleName.toList.splitOn '.').map String.ofList)) <|
    .phrase [.token (.spaced "import"), .token (.spaced Collector.markerName)]

theorem importStatement_of_isModuleName {name : String} (h : IsModuleName name) :
    importStatement? name = some (importLine name) := by
  rw [importStatement?]
  rw [if_pos]
  · rfl
  · rw [List.all_map, List.all_eq_true]
    exact h

/-- A collector with a proper origin can be given to every module. -/
theorem exists_statements {origin : CollectorOrigin} (h : origin.IsNamed) :
    ∃ added, origin.statements? = some added := by
  cases origin with
  | definition => exact ⟨collectorStatements, rfl⟩
  | importFrom moduleName =>
    exact ⟨[importLine moduleName], by rw [CollectorOrigin.statements?, importStatement_of_isModuleName h]; rfl⟩
  | absent => exact ⟨[], rfl⟩

/-! ## Instrumented modules -/

theorem exists_line_of_isFutureImport {s : Stmt} (h : s.isFutureImport = true) :
    ∃ leading items ending, s = .line leading items ending := by
  cases s with
  | line leading items ending => exact ⟨leading, items, ending, rfl⟩
  | function head suite => cases h
  | classDef head suite => cases h
  | compound first others => cases h

theorem exists_line_of_mem_preamble {body : List Stmt} {s : Stmt} (hs : s ∈ preamble body) :
    ∃ leading items ending, s = .line leading items ending := by
  rw [preamble_eq, List.mem_append] at hs
  rcases hs with hs | hs
  · exact exists_line_of_mem_docstring hs
  · exact exists_line_of_isFutureImport (List.mem_takeWhile_imp hs)

/-- The functions of the collector come in front of those of the module. -/
theorem functionsInBody_insertStatements (added body : List Stmt) :
    functionsInBody (insertStatements added body) = functionsInBody added ++ functionsInBody body := by
  cases hadded : added with
  | nil => rw [insertStatements, functionsInBody, List.nil_append]
  | cons first others =>
    rw [← hadded, insertStatements_eq (by simp [hadded])]
    have hpreamble : functionsInBody (preamble body) = [] := by
      rw [functionsInBody_eq, List.flatMap_eq_nil_iff]
      intro s hs
      obtain ⟨leading, items, ending, rfl⟩ := exists_line_of_mem_preamble hs
      rw [functionsIn]
    have hbody : functionsInBody body = functionsInBody (behindPreamble body) := by
      conv_lhs => rw [← preamble_append body, functionsInBody_append, hpreamble, List.nil_append]
    rw [functionsInBody_append, functionsInBody_append, hpreamble, List.nil_append, hbody,
      functionsInBody_of_withoutLeading (map_withoutLeading_announced (preamble body) added),
      functionsInBody_of_withoutLeading (map_withoutLeading_mapFirst (behindPreamble body))]

/-- A module has its functions measured in another one: the names that are given out are those of
the asynchronous functions with a body, each function comes out as it should, its place is where
it stands in the text, and what is located is found among the functions. -/
structure Syntax.Module.IsMeasuredIn (m : Module) (file : String) (added : List Stmt) (m' : Module) :
    Prop where
  names : m.measured = namesOfMeasured m.sites
  functions : ∃ out, functionsInBody m'.body = functionsInBody added ++ out ∧
    List.Forall₂ (Site.ComesOutAs file) m.sites out
  places : ∀ t ∈ m.sites, ∃ indent after, m.pieces = t.before ++ (t.pieces m.style indent ++ after)
  lines : (m.sites.map Site.line).Nodup
  located : ∀ a, m.analyze = .ok a → ∀ f ∈ a.functions, ∃ t ∈ m.sites, t.IsLocated f

/-- Instrumenting a module measures all its asynchronous functions that are no stubs. -/
theorem exists_isMeasuredIn (m : Module) (plan : Plan) (h : plan.origin.IsNamed) :
    ∃ added m', plan.origin.statements? = some added ∧ m.instrument? plan = some m' ∧
      m.IsMeasuredIn plan.fileName added m' := by
  obtain ⟨added, hadded⟩ := exists_statements h
  let body := wrapBody m.style plan.fileName "" m.firstLine m.body
  refine ⟨added, { m with body := insertStatements added body }, hadded, ?_, ?_⟩
  · rw [Module.instrument?, hadded, Option.map_some]
  · constructor
    · exact m.measured_eq
    · refine ⟨functionsInBody body, functionsInBody_insertStatements added body, ?_⟩
      exact comesOut_wrapBody m.style plan.fileName "" _ m.body
    · intro t ht
      exact Module.pieces_of_mem_sites ht
    · exact m.nodup_lines
    · intro a ha f hf
      exact Module.exists_site_of_mem_functions ha hf

/-- A stub and a function with a body, one in the other. -/
def nestedFunctions : Stmt :=
  .function ⟨[], [], [], some (.bare "async"), .spaced "def", .spaced "outer", [], .bare ":"⟩ <|
    .block .plain none
      [.function ⟨[], [], [], some (.bare "async"), .spaced "def", .spaced "inner", [], .bare ":"⟩ <|
        .inline " " [⟨.expr (.ellipsis (.bare "...")), none⟩] .plain] []

/-- Of a stub and the function around it, only the latter is measured. -/
theorem exists_isMeasuredIn_nested :
    CollectorOrigin.IsNamed (.importFrom Collector.moduleName) ∧
      namesOfMeasured (moduleOf [nestedFunctions]).sites = ["outer"] ∧
      ∃ added m', (CollectorOrigin.importFrom Collector.moduleName).statements? = some added ∧
        (moduleOf [nestedFunctions]).instrument? ⟨"m.py", .importFrom Collector.moduleName⟩ = some m' ∧
        (moduleOf [nestedFunctions]).IsMeasuredIn "m.py" added m' := by
  refine ⟨isNamed_moduleName, ?_,
    exists_isMeasuredIn _ ⟨"m.py", .importFrom Collector.moduleName⟩ isNamed_moduleName⟩
  rw [← Module.measured_eq]
  rfl

end Stopwatch
