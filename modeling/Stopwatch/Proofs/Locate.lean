/-
  What is located in a module.

  The functions that are listed are the asynchronous ones among those that stand at the top
  level of the module or directly in the block of a class there, in the order of the text.
  Each stands on a later line than the one before it.  A name that has been given out before
  gets the line as a suffix; since no name that is read holds the sign `@`, and no two lines
  are the same, all names differ in the end.

  A locator keeps the names that it has given out.  It forgets them when it starts again, so
  it always lists the same.
-/
import Mathlib.Data.List.Basic
import Stopwatch.Proofs.Instrument.Located
import Stopwatch.Proofs.Syntax.Names

namespace Stopwatch

open Syntax

/-! ## Declarations -/

/-- A function at the top level of a module or in a class there: the class, the indentation of its
lines, and where it stands. -/
structure Declaration where
  around : Option ClassHead
  indent : String
  site : Site

namespace Declaration

/-- Whether a function is asynchronous. -/
def isAsynchronous (d : Declaration) : Bool :=
  d.site.head.asynchronous.isSome

/-- The name of a function, qualified by its class. -/
def plainName (d : Declaration) : String :=
  match d.around with
  | some cls => cls.name.text ++ "." ++ d.site.name
  | none => d.site.name

/-- What a function is declared in. -/
def kind (d : Declaration) : DeclarationKind :=
  match d.around with
  | some cls => cls.kind
  | none => .function

/-- A function is listed as it stands in the text.  Its qualified name may have the line as a suffix. -/
structure IsListedAs (d : Declaration) (f : AsyncFunction) : Prop where
  name : f.name = d.site.name
  qualifiedName : f.qualifiedName = d.plainName ∨ f.qualifiedName = d.plainName ++ "@" ++ toString d.site.line
  kind : f.kind = d.kind
  line : f.line = d.site.line
  column : f.column = d.indent.length + 1
  hasBody : f.hasBody = !d.site.suite.isStub
  awaitCount : f.awaitCount = if d.site.suite.isStub then 0 else d.site.suite.awaitCount

end Declaration

/-- The functions that a module declares at its top level and in the classes there, with the text in front
of them. -/
inductive Syntax.Module.Declares (m : Module) : Declaration → Prop
  | atTop {front rest : List Stmt} {head : FunctionHead} {suite : Suite}
      (hbody : m.body = front ++ .function head suite :: rest) :
      m.Declares ⟨none, "",
        ⟨blankPieces m.style "" m.header ++ bodyPieces m.style "" front ++ head.preface m.style "", head, suite⟩⟩
  | inClass {front rest body before after : List Stmt} {cls : ClassHead} {ending : LineEnd} {step : Option String}
      {footer : List BlankLine} {head : FunctionHead} {suite : Suite}
      (hbody : m.body = front ++ .classDef cls (.block ending step body footer) :: rest)
      (hmember : body = before ++ .function head suite :: after) :
      m.Declares ⟨some cls, deeper m.style "" step,
        ⟨blankPieces m.style "" m.header ++ bodyPieces m.style "" front ++ cls.pieces m.style "" ++
            ending.pieces m.style ++ bodyPieces m.style (deeper m.style "" step) before ++
            head.preface m.style (deeper m.style "" step), head, suite⟩⟩

/-- What an analysis lists: all asynchronous functions that count, in the order of their lines, under names
of their own. -/
structure Analysis.Lists (a : Analysis) (m : Module) : Prop where
  exact : ∃ listed : List Declaration, (∀ d, d ∈ listed ↔ m.Declares d ∧ d.isAsynchronous = true) ∧
    List.Forall₂ Declaration.IsListedAs listed a.functions
  increasing : a.functions.Pairwise fun f f' => f.line < f'.line
  distinct : (a.functions.map AsyncFunction.qualifiedName).Nodup

/-! ## Statements and the text in front of them -/

/-- Some statements with the pieces of text in front of each. -/
def standing (style : Style) (indent : String) (before : List String) : List Stmt → List (List String × Stmt)
  | [] => []
  | s :: ss => (before, s) :: standing style indent (before ++ s.pieces style indent) ss

section

variable {style : Style} {indent : String} {before : List String} {body : List Stmt}

theorem mem_standing {between : List String} {s : Stmt} :
    (between, s) ∈ standing style indent before body ↔
      ∃ front rest, body = front ++ s :: rest ∧ between = before ++ bodyPieces style indent front := by
  induction body generalizing before with
  | nil => simp [standing]
  | cons first body ih =>
    rw [standing, List.mem_cons, ih, Prod.mk.injEq]
    constructor
    · rintro (⟨rfl, rfl⟩ | ⟨front, rest, rfl, rfl⟩)
      · exact ⟨[], body, rfl, by simp⟩
      · exact ⟨first :: front, rest, rfl, by simp⟩
    · rintro ⟨front, rest, hbody, rfl⟩
      cases front with
      | nil =>
        cases hbody
        exact Or.inl ⟨by simp, rfl⟩
      | cons other front =>
        cases hbody
        exact Or.inr ⟨front, rest, rfl, by simp⟩

/-- The line that a statement starts on says what stands in front of it. -/
theorem placed_eq_standing : placed style indent (1 + countBreaks before) body =
    (standing style indent before body).map fun (between, s) => (1 + countBreaks between, s) := by
  induction body generalizing before with
  | nil => rfl
  | cons s body ih =>
    rw [placed, standing, List.map_cons, ← ih, countBreaks_append, Nat.add_assoc]

theorem map_snd_placed (line : Nat) : (placed style indent line body).map Prod.snd = body := by
  induction body generalizing line with
  | nil => rfl
  | cons s body ih => rw [placed, List.map_cons, ih]

/-- What stands in one of some statements stands among all of them. -/
theorem standsIn_of_mem_standing {between : List String} {s : Stmt} {t : Site}
    (hs : (between, s) ∈ standing style indent before body) (ht : t.StandsIn style between (s.pieces style indent)) :
    t.StandsIn style before (bodyPieces style indent body) := by
  induction body generalizing before with
  | nil => cases hs
  | cons first body ih =>
    rw [bodyPieces_cons]
    rcases List.mem_cons.mp hs with hs | hs
    · cases hs
      exact ht.left _
    · exact (ih hs).right

/-- What is listed for one statement after the other stands on later and later lines. -/
theorem pairwise_standing {f : List String × Stmt → List Declaration}
    (hstands : ∀ between s, ∀ d ∈ f (between, s), d.site.StandsIn style between (s.pieces style indent))
    (hpairwise : ∀ place, (f place).Pairwise fun d d' => d.site.line < d'.site.line) :
    ((standing style indent before body).flatMap f).Pairwise fun d d' => d.site.line < d'.site.line := by
  induction body generalizing before with
  | nil => exact .nil
  | cons s body ih =>
    rw [standing, List.flatMap_cons, List.pairwise_append]
    refine ⟨hpairwise _, ih, ?_⟩
    intro d hd d' hd'
    obtain ⟨⟨between, s'⟩, hs', hd'⟩ := List.mem_flatMap.mp hd'
    -- the first stands before the end of its statement, and the second behind it
    have hlow := (hstands before s d hd).line_lt
    have hhigh := (standsIn_of_mem_standing hs' (hstands between s' d' hd')).le_line
    omega

end

/-! ## Listing the declarations -/

/-- The function that a statement is. -/
def declaredBy (around : Option ClassHead) (style : Style) (indent : String) : List String × Stmt → List Declaration
  | (before, .function head suite) => [⟨around, indent, ⟨before ++ head.preface style indent, head, suite⟩⟩]
  | _ => []

/-- The functions that a top-level statement declares. -/
def declaredIn (style : Style) : List String × Stmt → List Declaration
  | (before, .classDef cls (.block ending step body _)) =>
    (standing style (deeper style "" step) (before ++ cls.pieces style "" ++ ending.pieces style) body).flatMap
      (declaredBy (some cls) style (deeper style "" step))
  | place => declaredBy none style "" place

/-- The functions that a module declares, in the order of the text. -/
def Syntax.Module.declarations (m : Module) : List Declaration :=
  (standing m.style "" (blankPieces m.style "" m.header) m.body).flatMap (declaredIn m.style)

section

variable {style : Style} {indent : String} {around : Option ClassHead} {before : List String} {s : Stmt}
  {d : Declaration}

theorem mem_declaredBy : d ∈ declaredBy around style indent (before, s) ↔
    ∃ head suite, s = .function head suite ∧
      d = ⟨around, indent, ⟨before ++ head.preface style indent, head, suite⟩⟩ := by
  cases s <;> simp [declaredBy]

theorem mem_declaredIn : d ∈ declaredIn style (before, s) ↔
    d ∈ declaredBy none style "" (before, s) ∨
    ∃ cls ending step body footer, s = .classDef cls (.block ending step body footer) ∧
      ∃ front head suite rest, body = front ++ .function head suite :: rest ∧
        d = ⟨some cls, deeper style "" step, ⟨before ++ cls.pieces style "" ++ ending.pieces style ++
          bodyPieces style (deeper style "" step) front ++ head.preface style (deeper style "" step),
          head, suite⟩⟩ := by
  unfold declaredIn
  split
  · rename_i cls ending step body footer heq
    cases heq
    rw [List.mem_flatMap]
    constructor
    · rintro ⟨⟨between, member⟩, hmember, hd⟩
      obtain ⟨front, rest, rfl, rfl⟩ := mem_standing.mp hmember
      obtain ⟨head, suite, rfl, rfl⟩ := mem_declaredBy.mp hd
      exact Or.inr ⟨cls, ending, step, _, footer, rfl, front, head, suite, rest, rfl, rfl⟩
    · rintro (hd | ⟨cls', ending', step', body', footer', hs, front, head, suite, rest, rfl, rfl⟩)
      · obtain ⟨head, suite, hs, -⟩ := mem_declaredBy.mp hd
        cases hs
      · cases hs
        exact ⟨(_, _), mem_standing.mpr ⟨front, rest, rfl, rfl⟩, mem_declaredBy.mpr ⟨head, suite, rfl, rfl⟩⟩
  · rename_i hother
    constructor
    · exact Or.inl
    · rintro (hd | ⟨cls, ending, step, body, footer, rfl, -⟩)
      · exact hd
      · exact absurd rfl (hother _ _ _ _ _ _)

/-- What is listed is what is declared. -/
theorem Syntax.Module.mem_declarations {m : Module} : d ∈ m.declarations ↔ m.Declares d := by
  rw [Module.declarations, List.mem_flatMap]
  constructor
  · rintro ⟨⟨between, s⟩, hs, hd⟩
    obtain ⟨front, rest, hbody, rfl⟩ := mem_standing.mp hs
    rcases mem_declaredIn.mp hd with hd | ⟨cls, ending, step, body, footer, rfl, before, head, suite, after, rfl, rfl⟩
    · obtain ⟨head, suite, rfl, rfl⟩ := mem_declaredBy.mp hd
      exact .atTop hbody
    · exact .inClass hbody rfl
  · intro hd
    cases hd with
    | atTop hbody =>
      exact ⟨(_, _), mem_standing.mpr ⟨_, _, hbody, rfl⟩,
        mem_declaredIn.mpr (Or.inl (mem_declaredBy.mpr ⟨_, _, rfl, rfl⟩))⟩
    | inClass hbody hmember =>
      exact ⟨(_, _), mem_standing.mpr ⟨_, _, hbody, rfl⟩,
        mem_declaredIn.mpr (Or.inr ⟨_, _, _, _, _, rfl, _, _, _, _, hmember, rfl⟩)⟩

theorem standsIn_declaredBy (hd : d ∈ declaredBy around style indent (before, s)) :
    d.site.StandsIn style before (s.pieces style indent) := by
  obtain ⟨head, suite, rfl, rfl⟩ := mem_declaredBy.mp hd
  apply standsIn_sitesOf
  rw [sitesOf]
  exact List.mem_append_right _ List.mem_cons_self

theorem standsIn_declaredIn (hd : d ∈ declaredIn style (before, s)) :
    d.site.StandsIn style before (s.pieces style "") := by
  unfold declaredIn at hd
  split at hd
  · rename_i cls ending step body footer heq
    cases heq
    obtain ⟨⟨between, member⟩, hmember, hd⟩ := List.mem_flatMap.mp hd
    have hbody := standsIn_of_mem_standing hmember (standsIn_declaredBy hd)
    rw [List.append_assoc] at hbody
    rw [Stmt.pieces, Suite.pieces, ← List.append_assoc, ← List.append_assoc]
    exact (hbody.right).left _
  · exact standsIn_declaredBy hd

theorem pairwise_declaredBy (place : List String × Stmt) :
    (declaredBy around style indent place).Pairwise fun d d' => d.site.line < d'.site.line := by
  unfold declaredBy
  split
  · exact List.pairwise_singleton _ _
  · exact .nil

/-- The functions of a module stand on later and later lines. -/
theorem Syntax.Module.pairwise_declarations (m : Module) :
    m.declarations.Pairwise fun d d' => d.site.line < d'.site.line := by
  refine pairwise_standing (fun _ _ _ hd => standsIn_declaredIn hd) fun place => ?_
  unfold declaredIn
  split
  · exact pairwise_standing (fun _ _ _ hd => standsIn_declaredBy hd) fun place => pairwise_declaredBy place
  · exact pairwise_declaredBy place

/-! ## Candidates -/

/-- A function of a module as a candidate. -/
def Declaration.candidate (d : Declaration) : Candidate :=
  ⟨d.kind, d.around.map fun cls => cls.name.text, d.site.head, d.site.suite, d.site.line, d.indent.length + 1⟩

theorem functionCandidate_eq (around : Option ClassHead) (before : List String) (s : Stmt) :
    (functionCandidate? style indent ((around.map ClassHead.kind).getD .function) (around.map fun cls => cls.name.text)
      (1 + countBreaks before) s).toList = (declaredBy around style indent (before, s)).map Declaration.candidate := by
  cases s with
  | line leading items ending => rfl
  | classDef head suite => rfl
  | compound first others => rfl
  | function head suite =>
    rw [functionCandidate?, declaredBy, List.map_singleton, Option.toList_some, Declaration.candidate, Site.line,
      countBreaks_append, ← Nat.add_assoc]
    cases around <;> rfl

theorem candidatesOf_eq (before : List String) (s : Stmt) :
    candidatesOf style (1 + countBreaks before) s = (declaredIn style (before, s)).map Declaration.candidate := by
  unfold candidatesOf
  split
  · rename_i cls ending step body footer
    -- the line of the first member, counted through the head of the class
    have hfirst : 1 + countBreaks before + countBreaks (cls.pieces style "") + countBreaks (ending.pieces style) =
        1 + countBreaks (before ++ cls.pieces style "" ++ ending.pieces style) := by
      simp only [countBreaks_append, Nat.add_assoc]
    dsimp only
    rw [hfirst, placed_eq_standing, List.filterMap_eq_flatMap_toList, List.flatMap_map, declaredIn, List.map_flatMap]
    congr 1
    funext ⟨between, member⟩
    exact functionCandidate_eq (some cls) between member
  · rename_i hother
    rw [declaredIn]
    · exact functionCandidate_eq none before s
    · exact fun _ cls ending step body footer heq => hother cls ending step body footer (Prod.mk.inj heq).2

/-- The candidates of a module are the asynchronous functions that it declares. -/
theorem Syntax.Module.candidates_eq (m : Module) :
    m.candidates = (m.declarations.filter Declaration.isAsynchronous).map Declaration.candidate := by
  have hfirst : m.firstLine = 1 + countBreaks (blankPieces m.style "" m.header) := rfl
  rw [Module.candidates, hfirst, placed_eq_standing, List.flatMap_map, Module.declarations]
  simp only [candidatesOf_eq]
  rw [← List.map_flatMap, List.filter_map]
  rfl

end

/-! ## Names -/

/-- A name that has been given out on an earlier line: it is plain, or has that line as its suffix. -/
def IsGivenBefore (line : Nat) (name : String) : Prop :=
  '@' ∉ name.toList ∨
    ∃ (plain : String) (earlier : Nat), '@' ∉ plain.toList ∧ name = plain ++ "@" ++ toString earlier ∧ earlier < line

theorem IsGivenBefore.mono {line line' : Nat} {name : String} (h : IsGivenBefore line name) (hle : line ≤ line') :
    IsGivenBefore line' name := by
  rcases h with h | ⟨plain, earlier, hplain, rfl, hlt⟩
  · exact Or.inl h
  · exact Or.inr ⟨plain, earlier, hplain, rfl, by omega⟩

/-- Names with suffixes are told apart by the lines. -/
theorem line_of_suffix_eq {plain plain' : String} {line line' : Nat} (hplain : '@' ∉ plain.toList)
    (hplain' : '@' ∉ plain'.toList) (h : plain ++ "@" ++ toString line = plain' ++ "@" ++ toString line') :
    line = line' := by
  have hcut {plain : String} (hplain : '@' ∉ plain.toList) (line : Nat) :
      Text.cut? ['@'] (plain ++ "@" ++ toString line).toList = some (plain.toList, (toString line).toList) := by
    rw [String.toList_append, String.toList_append, List.append_assoc]
    exact @Text.cut_append [] _ '@' List.not_mem_nil (fun hin => hplain (hin.subset (List.mem_singleton_self _))) _
  have hdigits := (hcut hplain line).symm.trans (h ▸ hcut hplain' line')
  exact Nat.repr_inj.mp (String.toList_injective (Prod.mk.inj (Option.some.inj hdigits)).2)

/-- A name with a suffix has not been given out on an earlier line. -/
theorem not_isGivenBefore {plain : String} {line : Nat} (hplain : '@' ∉ plain.toList) :
    ¬IsGivenBefore line (plain ++ "@" ++ toString line) := by
  rintro (h | ⟨plain', earlier, hplain', hname, hlt⟩)
  · exact h (by simp)
  · have hline := line_of_suffix_eq hplain hplain' hname
    omega

/-- Candidates on later and later lines, behind some names, all get names of their own. -/
theorem distinct_nameCandidates {seen : List String} {cs : List Candidate}
    (hplain : ∀ c ∈ cs, '@' ∉ c.plainName.toList) (hlines : cs.Pairwise fun c c' => c.line < c'.line)
    (hseen : ∀ name ∈ seen, ∀ c ∈ cs, IsGivenBefore c.line name) :
    ((nameCandidates seen cs).map AsyncFunction.qualifiedName).Nodup ∧
      ∀ name ∈ (nameCandidates seen cs).map AsyncFunction.qualifiedName, name ∉ seen := by
  induction cs generalizing seen with
  | nil => simp [nameCandidates]
  | cons c cs ih =>
    rw [List.forall_mem_cons] at hplain
    rw [List.pairwise_cons] at hlines
    rw [nameCandidates]
    generalize hname : (if seen.contains c.plainName then c.plainName ++ "@" ++ toString c.line else c.plainName) = name
    -- the name is new, and for all later lines it has been given out before
    have hnew : name ∉ seen ∧ ∀ c' ∈ cs, IsGivenBefore c'.line name := by
      split at hname
      -- a plain name that is taken gets the line, which no earlier name can have as its suffix
      · subst hname
        refine ⟨fun hmem => ?_, fun c' hc' => Or.inr ⟨_, _, hplain.1, rfl, hlines.1 c' hc'⟩⟩
        exact not_isGivenBefore hplain.1 (hseen _ hmem c List.mem_cons_self)
      · rename_i hfree
        subst hname
        exact ⟨by simpa using hfree, fun c' _ => Or.inl hplain.1⟩
    have hgiven : ∀ n ∈ name :: seen, ∀ c' ∈ cs, IsGivenBefore c'.line n :=
      List.forall_mem_cons.mpr ⟨hnew.2, fun n hn c' hc' => hseen n hn c' (List.mem_cons_of_mem _ hc')⟩
    obtain ⟨hnodup, hapart⟩ := ih hplain.2 hlines.2 hgiven
    rw [List.map_cons, List.nodup_cons, List.forall_mem_cons]
    refine ⟨⟨fun hmem => hapart _ hmem List.mem_cons_self, hnodup⟩, hnew.1, fun n hn hmem => ?_⟩
    exact hapart n hn (List.mem_cons_of_mem _ hmem)

theorem plainName_candidate (d : Declaration) : d.candidate.plainName = d.plainName := by
  rw [Candidate.plainName, Declaration.plainName, Declaration.candidate]
  cases d.around <;> rfl

/-- Each candidate is listed under its plain name or under that name and its line. -/
theorem forall₂_nameCandidates (seen : List String) (ds : List Declaration) :
    List.Forall₂ Declaration.IsListedAs ds (nameCandidates seen (ds.map Declaration.candidate)) := by
  induction ds generalizing seen with
  | nil => exact .nil
  | cons d ds ih =>
    rw [List.map_cons, nameCandidates]
    refine .cons ?_ (ih _)
    constructor <;> try rfl
    -- only the qualified name is not read off the declaration
    show (if _ then _ else _) = _ ∨ (if _ then _ else _) = _
    rw [plainName_candidate]
    split
    · exact Or.inr rfl
    · exact Or.inl rfl

theorem pairwise_of_forall₂ {ds : List Declaration} {fs : List AsyncFunction}
    (h : List.Forall₂ Declaration.IsListedAs ds fs) (hds : ds.Pairwise fun d d' => d.site.line < d'.site.line) :
    fs.Pairwise fun f f' => f.line < f'.line := by
  have hlines : fs.map AsyncFunction.line = ds.map fun d => d.site.line := by
    induction h with
    | nil => rfl
    | cons hd _ ih =>
      rw [List.pairwise_cons] at hds
      rw [List.map_cons, List.map_cons, hd.line, ih hds.2]
  exact List.pairwise_map.mp (hlines ▸ List.pairwise_map.mpr hds)

theorem not_mem_of_isNameLike {text : String} (h : IsNameLike text) : '@' ∉ text.toList :=
  fun hmem => absurd (h _ hmem) (by decide)

theorem mem_functionsInBody {body : List Stmt} {s : Stmt} {f : FunctionHead × Suite} (hs : s ∈ body)
    (hf : f ∈ functionsIn s) : f ∈ functionsInBody body := by
  rw [functionsInBody_eq]
  exact List.mem_flatMap.mpr ⟨s, hs, hf⟩

theorem mem_functionsIn_function (head : FunctionHead) (suite : Suite) :
    (head.withoutLeading, suite) ∈ functionsIn (.function head suite) := by
  rw [functionsIn]
  exact List.mem_append_right _ List.mem_cons_self

/-- A module that has been read declares no name with the sign of a suffix. -/
theorem Syntax.Module.Declares.not_mem_plainName {source : String} {m : Module} {d : Declaration}
    (hparse : Module.parse? source = some m) (hd : m.Declares d) : '@' ∉ d.plainName.toList := by
  have hnames := Module.areNameLike_of_parse hparse
  cases hd with
  | @atTop front rest head suite hbody =>
    have hmem : Stmt.function head suite ∈ m.body := by rw [hbody]; simp
    exact not_mem_of_isNameLike (hnames.functions _ (mem_functionsInBody hmem (mem_functionsIn_function head suite)))
  | @inClass front rest body before after cls ending step footer head suite hbody hmember =>
    have hmem : Stmt.classDef cls (.block ending step body footer) ∈ m.body := by rw [hbody]; simp
    -- a method is a function in the body of its class
    have hname : IsNameLike head.name.text := by
      refine hnames.functions (head.withoutLeading, suite) (mem_functionsInBody hmem ?_)
      rw [functionsIn, functionsInSuite]
      exact mem_functionsInBody (by rw [hmember]; simp) (mem_functionsIn_function head suite)
    have hcls : IsNameLike cls.name.text := by
      refine hnames.classes _ ?_
      rw [classesInBody_eq]
      refine List.mem_flatMap.mpr ⟨_, hmem, ?_⟩
      rw [classesIn]
      exact List.mem_cons_self
    show '@' ∉ (cls.name.text ++ "." ++ head.name.text).toList
    rw [String.toList_append, String.toList_append, List.mem_append, List.mem_append]
    rintro ((h | h) | h)
    · exact not_mem_of_isNameLike hcls h
    · exact absurd h (by decide)
    · exact not_mem_of_isNameLike hname h

/-! ## Locators -/

/-- A locator: its module, and the names that it has given out. -/
structure Locator where
  module : Module
  seen : List String

namespace Locator

/-- Lists a candidate, under a name that has not been given out. -/
def visit (l : Locator) (c : Candidate) : AsyncFunction × Locator :=
  let name := if l.seen.contains c.plainName then c.plainName ++ "@" ++ toString c.line else c.plainName
  (c.toFunction name, { l with seen := name :: l.seen })

/-- Lists candidates, one after the other. -/
def visitAll (l : Locator) : List Candidate → List AsyncFunction × Locator
  | [] => ([], l)
  | c :: cs =>
    let (f, l) := l.visit c
    let (fs, l) := l.visitAll cs
    (f :: fs, l)

/-- Goes through statements, which stand on given lines.  A malformed string ends it; the names that have
been given out until then are kept. -/
def visitStatements (l : Locator) : List (Nat × Stmt) → Except StringFault Analysis × Locator
  | [] => (.ok ⟨[], false⟩, l)
  | (line, s) :: rest =>
    match s.isMainGuard with
    | .error fault => (.error fault, l)
    | .ok true =>
      let (later, l) := l.visitStatements rest
      (later.map fun a => { a with hasEntryPoint := true }, l)
    | .ok false =>
      let (fs, l) := l.visitAll ((candidatesOf l.module.style line s).filter fun c => c.head.asynchronous.isSome)
      let (later, l) := l.visitStatements rest
      (later.map fun a => { a with functions := fs ++ a.functions }, l)

/-- Analyses the module.  The names of earlier analyses are forgotten. -/
def analyze (l : Locator) : Except StringFault Analysis × Locator :=
  { l with seen := [] }.visitStatements (placed l.module.style "" l.module.firstLine l.module.body)

theorem visitAll_cons (l : Locator) (c : Candidate) (cs : List Candidate) :
    l.visitAll (c :: cs) = ((l.visit c).1 :: ((l.visit c).2.visitAll cs).1, ((l.visit c).2.visitAll cs).2) := rfl

theorem visitAll_append (l : Locator) (cs cs' : List Candidate) :
    l.visitAll (cs ++ cs') =
      ((l.visitAll cs).1 ++ ((l.visitAll cs).2.visitAll cs').1, ((l.visitAll cs).2.visitAll cs').2) := by
  induction cs generalizing l with
  | nil => rfl
  | cons c cs ih =>
    rw [List.cons_append, visitAll_cons, visitAll_cons, ih]
    rfl

theorem visitAll_eq (l : Locator) (cs : List Candidate) : (l.visitAll cs).1 = nameCandidates l.seen cs := by
  induction cs generalizing l with
  | nil => rfl
  | cons c cs ih =>
    rw [visitAll_cons, nameCandidates, ih]
    rfl

theorem module_visitAll (l : Locator) (cs : List Candidate) : (l.visitAll cs).2.module = l.module := by
  induction cs generalizing l with
  | nil => rfl
  | cons c cs ih => exact ih _

/-- A guard for the main program declares nothing. -/
theorem candidatesOf_of_isMainGuard {style : Style} {line : Nat} {s : Stmt} (h : s.isMainGuard = .ok true) :
    candidatesOf style line s = [] := by
  cases s with
  | line leading items ending => cases h
  | function head suite => cases h
  | classDef head suite => cases h
  | compound first others => rfl

/-- Going through statements comes to listing all candidates at once, if no string is malformed. -/
theorem visitStatements_eq (l : Locator) (places : List (Nat × Stmt)) :
    (l.visitStatements places).1 = (hasMainGuard (places.map Prod.snd)).map (fun hasEntryPoint =>
      ⟨(l.visitAll ((places.flatMap fun (line, s) => candidatesOf l.module.style line s).filter
        fun c => c.head.asynchronous.isSome)).1, hasEntryPoint⟩) ∧
    (l.visitStatements places).2.module = l.module := by
  induction places generalizing l with
  | nil => exact ⟨rfl, rfl⟩
  | cons place rest ih =>
    obtain ⟨line, s⟩ := place
    rw [visitStatements, List.map_cons, hasMainGuard, List.flatMap_cons, List.filter_append, visitAll_append]
    cases hguard : s.isMainGuard with
    | error fault => exact ⟨rfl, rfl⟩
    | ok here =>
      cases here with
      | true =>
        obtain ⟨hlater, hmodule⟩ := ih l
        dsimp only
        rw [hlater, candidatesOf_of_isMainGuard hguard]
        refine ⟨?_, hmodule⟩
        cases hasMainGuard (rest.map Prod.snd) <;> rfl
      | false =>
        obtain ⟨hlater, hmodule⟩ := ih (l.visitAll ((candidatesOf l.module.style line s).filter
          fun c => c.head.asynchronous.isSome)).2
        dsimp only
        rw [hlater, module_visitAll]
        refine ⟨?_, by rw [hmodule, module_visitAll]⟩
        cases hasMainGuard (rest.map Prod.snd) <;> rfl

/-- Whatever names a locator has given out before, an analysis finds what can be located in its module. -/
theorem analyze_eq (l : Locator) : l.analyze.1 = l.module.analyze ∧ l.analyze.2.module = l.module := by
  obtain ⟨hresult, hmodule⟩ := visitStatements_eq { l with seen := [] }
    (placed l.module.style "" l.module.firstLine l.module.body)
  refine ⟨?_, hmodule⟩
  rw [analyze, hresult, visitAll_eq, map_snd_placed, Module.analyze]
  cases hasMainGuard l.module.body <;> rfl

end Locator

/-- For a module that has been read, an analysis that does not fail lists exactly the asynchronous functions
that count, on later and later lines and under names of their own, and the same locator always lists the same. -/
theorem lists_analyze {source : String} {m : Module} (hparse : Module.parse? source = some m) {l : Locator}
    (hmodule : l.module = m) {a : Analysis} (ha : l.analyze.1 = .ok a) :
    a.Lists m ∧ l.analyze.2.analyze.1 = .ok a := by
  obtain ⟨hresult, hsame⟩ := l.analyze_eq
  have hagain : l.analyze.2.analyze.1 = .ok a := by
    rw [l.analyze.2.analyze_eq.1, hsame, ← hresult, ha]
  refine ⟨?_, hagain⟩
  rw [hresult, hmodule] at ha
  have hfunctions := Module.functions_of_analyze ha
  rw [Module.candidates_eq] at hfunctions
  -- lines and names are those of the declarations that are asynchronous
  have hlines := m.pairwise_declarations.filter Declaration.isAsynchronous
  have hlisted := forall₂_nameCandidates [] (m.declarations.filter Declaration.isAsynchronous)
  rw [← hfunctions] at hlisted
  constructor
  · refine ⟨_, fun d => ?_, hlisted⟩
    rw [List.mem_filter, Module.mem_declarations]
  · exact pairwise_of_forall₂ hlisted hlines
  · rw [hfunctions]
    refine (distinct_nameCandidates ?_ (List.pairwise_map.mpr hlines) (fun _ h => (List.not_mem_nil h).elim)).1
    intro c hc
    obtain ⟨d, hd, rfl⟩ := List.mem_map.mp hc
    rw [List.mem_filter, Module.mem_declarations] at hd
    rw [plainName_candidate]
    exact hd.1.not_mem_plainName hparse

/-- Two functions of one name and a method of a class. -/
def redefinition : String :=
  "async def f():\n    pass\nclass C:\n    async def f(self):\n        pass\nasync def f():\n    pass\n"

/-- Of two functions with one name, the second is listed with its line. -/
theorem lists_redefinition : ∃ m a, Module.parse? redefinition = some m ∧
    (Locator.mk m ["f"]).analyze.1 = .ok a ∧ a.functions.map AsyncFunction.qualifiedName = ["f", "C.f", "f@6"] ∧
    a.Lists m ∧ (Locator.mk m ["f"]).analyze.2.analyze.1 = .ok a := by
  have hnames : ((Module.parse? redefinition).bind fun m => (Locator.mk m ["f"]).analyze.1.toOption.map fun a =>
      a.functions.map AsyncFunction.qualifiedName) = some ["f", "C.f", "f@6"] := by decide +kernel
  obtain ⟨m, hm, hanalysis⟩ := Option.bind_eq_some_iff.mp hnames
  obtain ⟨a, ha, hnames⟩ := Option.map_eq_some_iff.mp hanalysis
  have ha : (Locator.mk m ["f"]).analyze.1 = .ok a := by
    cases h : (Locator.mk m ["f"]).analyze.1 with
    | error fault => rw [h] at ha; cases ha
    | ok found => rw [h] at ha; cases ha; rfl
  exact ⟨m, a, hm, ha, hnames, lists_analyze hm rfl ha⟩

end Stopwatch
