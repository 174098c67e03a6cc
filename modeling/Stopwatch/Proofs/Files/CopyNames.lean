/-
  The names of instrumented copies.

  A copy has the name of its source, with the suffix in front of the extension.  Different
  sources have copies of different names, and the name of a copy is not that of a source.
  The one exception is a name that is nothing but an extension: its copy bears the suffix at
  the end, where that may look like an extension of its own.
-/
import Stopwatch.Run.SingleFiles

namespace Stopwatch

/-- A text ends with another one if that is its last part. -/
theorem Text.endsWith_iff {text ending : List Char} : endsWith text ending = true ↔ ending <:+ text := by
  rw [endsWith, List.isPrefixOf_iff_prefix, List.reverse_prefix]

namespace Path

variable {name front ext : List Char}

/-! ## Stems and extensions -/

theorem takeWhile_extension (hext : '.' ∉ ext) (rest : List Char) :
    (ext.reverse ++ rest).takeWhile (· ≠ '.') = ext.reverse ++ rest.takeWhile (· ≠ '.') := by
  apply List.takeWhile_append_of_pos
  intro c hc
  rw [decide_eq_true_eq]
  rintro rfl
  exact hext (List.mem_reverse.mp hc)

/-- What stands behind the last dot is the extension, if something stands on both sides of it. -/
theorem splitExtension_of_dot (hext : '.' ∉ ext) (front : List Char) :
    splitExtension (front ++ '.' :: ext) =
      if front ≠ [] ∧ ext ≠ [] then (front, '.' :: ext) else (front ++ '.' :: ext, []) := by
  have hreverse : (front ++ '.' :: ext).reverse = ext.reverse ++ '.' :: front.reverse := by simp
  have hfound : ((front ++ '.' :: ext).reverse.takeWhile (· ≠ '.')).reverse = ext := by
    rw [hreverse, takeWhile_extension hext, List.takeWhile_cons_of_neg (by simp), List.append_nil,
      List.reverse_reverse]
  have hlength : (front ++ '.' :: ext).length - ext.length - 1 = front.length := by
    rw [List.length_append, List.length_cons]
    omega
  have hshort : ext.length < (front ++ '.' :: ext).length := by
    rw [List.length_append, List.length_cons]
    omega
  rw [splitExtension]
  simp only [hfound, hlength, List.take_left, hshort, decide_true, Bool.true_and, Bool.and_eq_true,
    decide_eq_true_eq]

/-- Without a dot there is no extension. -/
theorem splitExtension_of_not_mem (h : '.' ∉ name) : splitExtension name = (name, []) := by
  have hwhole : (name.reverse.takeWhile (· ≠ '.')).reverse = name := by
    have htake := takeWhile_extension h []
    rw [List.append_nil, List.takeWhile_nil, List.append_nil] at htake
    rw [htake, List.reverse_reverse]
  rw [splitExtension]
  simp only [hwhole, Nat.lt_irrefl, decide_false, Bool.false_and, Bool.false_eq_true, if_false]

/-- A text with a dot is parted at its last one. -/
theorem exists_last_dot (h : '.' ∈ name) : ∃ front ext, name = front ++ '.' :: ext ∧ '.' ∉ ext := by
  -- the last dot is the first one of the reversed name
  obtain ⟨ext, front, hname, hext⟩ := List.eq_append_cons_of_mem (List.mem_reverse.mpr h)
  refine ⟨front.reverse, ext.reverse, ?_, fun hmem => hext (List.mem_reverse.mp hmem)⟩
  rw [← List.reverse_reverse name, hname]
  simp

/-- Stem and extension make up the name. -/
theorem splitExtension_append (name : List Char) : (splitExtension name).1 ++ (splitExtension name).2 = name := by
  by_cases hdot : '.' ∈ name
  · obtain ⟨front, ext, rfl, hext⟩ := exists_last_dot hdot
    rw [splitExtension_of_dot hext]
    split
    · rfl
    · exact List.append_nil _
  · rw [splitExtension_of_not_mem hdot, List.append_nil]

end Path

/-! ## Copies -/

/-- The name of the copy of a source with a given name. -/
def copyName (suffix name : List Char) : List Char :=
  (Path.splitExtension name).1 ++ suffix ++ (Path.splitExtension name).2

variable {suffix name front : List Char}

/-- The extension of sources. -/
def sourceExtension : List Char := ".py".toList

theorem copyName_of_front (suffix : List Char) (hfront : front ≠ []) :
    copyName suffix (front ++ sourceExtension) = front ++ suffix ++ sourceExtension := by
  have hsplit := Path.splitExtension_of_dot (by decide : '.' ∉ ['p', 'y']) front
  rw [if_pos ⟨hfront, by decide⟩] at hsplit
  change copyName suffix (front ++ '.' :: ['p', 'y']) = _
  rw [copyName, hsplit]
  rfl

theorem copyName_extension (suffix : List Char) : copyName suffix sourceExtension = sourceExtension ++ suffix := by
  have hsplit : Path.splitExtension sourceExtension = (sourceExtension, []) := by decide
  rw [copyName, hsplit, List.append_nil]

/-- A copy has a longer name than its source. -/
theorem length_copyName (suffix name : List Char) : (copyName suffix name).length = name.length + suffix.length := by
  have hname := congrArg List.length (Path.splitExtension_append name)
  rw [List.length_append] at hname
  rw [copyName, List.length_append, List.length_append]
  omega

/-- Different sources have different copies. -/
theorem copyName_inj {name' : List Char} (h : sourceExtension <:+ name) (h' : sourceExtension <:+ name')
    (heq : copyName suffix name = copyName suffix name') : name = name' := by
  have hlength := congrArg List.length heq
  rw [length_copyName, length_copyName] at hlength
  obtain ⟨front, rfl⟩ := h
  obtain ⟨front', rfl⟩ := h'
  rw [List.length_append, List.length_append] at hlength
  by_cases hfront : front = []
  · have hnone : front'.length = 0 := by
      rw [hfront, List.length_nil] at hlength
      omega
    rw [hfront, List.length_eq_zero_iff.mp hnone]
  · have hfront' : front' ≠ [] := by
      rintro rfl
      rw [List.length_nil] at hlength
      exact hfront (List.length_eq_zero_iff.mp (by omega))
    rw [copyName_of_front suffix hfront, copyName_of_front suffix hfront', List.append_assoc,
      List.append_assoc, List.append_left_inj] at heq
    rw [heq]

/-- The stem of a copy ends in the suffix. -/
theorem suffix_stem_copyName (hsuffix : suffix ≠ []) (hfront : front ≠ []) :
    suffix <:+ (Path.splitExtension (copyName suffix (front ++ sourceExtension))).1 := by
  have hne : front ++ suffix ≠ [] := fun hnil => hsuffix (List.append_eq_nil_iff.mp hnil).2
  have hsplit := Path.splitExtension_of_dot (by decide : '.' ∉ ['p', 'y']) (front ++ suffix)
  rw [if_pos ⟨hne, by decide⟩] at hsplit
  rw [copyName_of_front suffix hfront]
  change suffix <:+ (Path.splitExtension (front ++ suffix ++ '.' :: ['p', 'y'])).1
  rw [hsplit]
  exact List.suffix_append front suffix

/-- The copy of an extension is not taken for a source by its end, unless the suffix ends as
sources do. -/
theorem not_suffix_copyName_extension (hsuffix : suffix ≠ []) (hend : ¬sourceExtension <:+ suffix) :
    ¬sourceExtension <:+ copyName suffix sourceExtension := by
  rw [copyName_extension]
  intro hbad
  -- then the suffix is a part of the extension, and each of these can be tried
  rcases List.suffix_or_suffix_of_suffix hbad (List.suffix_append sourceExtension suffix) with h | h
  · exact hend h
  · have hcases : suffix = ['.', 'p', 'y'] ∨ suffix = ['p', 'y'] ∨ suffix = ['y'] ∨ suffix = [] := by
      simpa [sourceExtension, List.suffix_cons_iff] using h
    rcases hcases with rfl | rfl | rfl | rfl
    · exact hend (List.suffix_refl _)
    · exact absurd hbad (by decide)
    · exact absurd hbad (by decide)
    · exact hsuffix rfl

/-! ## Sources -/

/-- The name that a source has, and where it is looked for. -/
theorem isSource_iff {suffix : String} {dirs : List String} {name : String} :
    isSource suffix (dirs ++ [name]) = true ↔ sourceExtension <:+ name.toList ∧
      ¬suffix.toList <:+ (Path.splitExtension name.toList).1 ∧ dirs.any isSkipped = false := by
  rw [isSource]
  simp only [List.getLast?_concat, List.dropLast_concat, Path.isInstrumented, Path.stem, Path.name,
    Option.getD_some, String.toList_ofList, Bool.and_eq_true, Bool.not_eq_true', Text.endsWith_iff,
    ← Bool.not_eq_true, and_assoc]
  rfl

theorem exists_name_of_isSource {suffix : String} {names : List String} (h : isSource suffix names = true) :
    ∃ dirs name, names = dirs ++ [name] ∧ sourceExtension <:+ name.toList := by
  rcases List.eq_nil_or_concat names with rfl | ⟨dirs, name, rfl⟩
  · cases h
  · rw [List.concat_eq_append] at h ⊢
    exact ⟨dirs, name, rfl, (isSource_iff.mp h).1⟩

/-- The copy of a source is no source, unless the source is nothing but an extension and the suffix
ends in that. -/
theorem isSource_copyName {suffix name : String} (hsuffix : suffix ≠ "") (hname : sourceExtension <:+ name.toList)
    (hhidden : name = ".py" → ¬sourceExtension <:+ suffix.toList) (dirs : List String) :
    isSource suffix (dirs ++ [String.ofList (copyName suffix.toList name.toList)]) = false := by
  have hne : suffix.toList ≠ [] := fun hnil => hsuffix (String.toList_eq_nil_iff.mp hnil)
  rw [← Bool.not_eq_true, isSource_iff, String.toList_ofList]
  rintro ⟨hend, hstem, -⟩
  obtain ⟨front, hfront⟩ := hname
  by_cases hnil : front = []
  · rw [hnil, List.nil_append] at hfront
    have hpy : name = ".py" := String.toList_inj.mp hfront.symm
    rw [← hfront] at hend
    exact not_suffix_copyName_extension hne (hhidden hpy) hend
  · rw [← hfront] at hstem
    exact hstem (suffix_stem_copyName hne hnil)

/-- A copy stands beside its source, under its own name. -/
theorem copyPath_eq (r : Run) (anchor : Anchor) (dirs : List String) (name : String) :
    r.copyPath ⟨anchor, dirs ++ [name]⟩ =
      ⟨anchor, dirs ++ [String.ofList (copyName r.config.instrumentedSuffix.toList name.toList)]⟩ := by
  have hname : Path.name ⟨anchor, dirs ++ [name]⟩ = name := by
    rw [Path.name, List.getLast?_concat, Option.getD_some]
  have hcopy : Path.stem ⟨anchor, dirs ++ [name]⟩ ++ r.config.instrumentedSuffix ++
      Path.extension ⟨anchor, dirs ++ [name]⟩ =
        String.ofList (copyName r.config.instrumentedSuffix.toList name.toList) := by
    rw [← String.toList_inj, Path.stem, Path.extension, hname, copyName]
    simp only [String.toList_append, String.toList_ofList]
  rw [Run.copyPath, hcopy, Path.withName, Path.parent, Path.child, List.dropLast_concat]

end Stopwatch
