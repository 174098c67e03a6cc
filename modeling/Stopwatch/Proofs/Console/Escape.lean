/-
  What is shown of an escaped text.

  Escaping a text changes nothing but the backslashes in front of its tags: a tag behind `b` of
  them then stands behind `2 * b + 1`.  So the escaped text has the same tags at the same places,
  and none of them counts.  What is shown is the text with the names of pictographs replaced, but
  for the backslashes in front of other brackets and the characters that move the cursor.
-/
import Mathlib.Data.List.Infix
import Stopwatch.Console.Printed
import Stopwatch.Proofs.Text.Search

namespace Stopwatch.Console

open Text (dropEndWhile isBlank)

variable {cs text part before inside after : List Char}

/-! ## Backslashes at the end -/

theorem backslashesAtEnd_append (cs : List Char) (n : Nat) :
    backslashesAtEnd (cs ++ List.replicate n '\\') = backslashesAtEnd cs + n := by
  rw [backslashesAtEnd, List.reverse_append, List.reverse_replicate,
    List.takeWhile_append_of_pos fun c hc => decide_eq_true (List.eq_of_mem_replicate hc), List.length_append,
    List.length_replicate, Nat.add_comm, backslashesAtEnd]

theorem dropEndWhile_append_backslashes (cs : List Char) (n : Nat) :
    dropEndWhile (· = '\\') (cs ++ List.replicate n '\\') = dropEndWhile (· = '\\') cs := by
  rw [dropEndWhile, List.reverse_append, List.reverse_replicate,
    List.dropWhile_append_of_pos fun c hc => decide_eq_true (List.eq_of_mem_replicate hc), dropEndWhile]

theorem dropEndWhile_append_own (cs : List Char) :
    dropEndWhile (· = '\\') cs ++ List.replicate (backslashesAtEnd cs) '\\' = cs := by
  have hown : cs.reverse.takeWhile (· = '\\') = List.replicate (backslashesAtEnd cs) '\\' := by
    rw [List.eq_replicate_iff]
    exact ⟨rfl, fun c hc => of_decide_eq_true (List.all_eq_true.mp List.all_takeWhile c hc)⟩
  rw [dropEndWhile, ← List.reverse_replicate, ← hown, ← List.reverse_append, List.takeWhile_append_dropWhile,
    List.reverse_reverse]

/-- Only what follows the last other character counts. -/
theorem backslashesAtEnd_behind {c : Char} (hc : c ≠ '\\') (front part : List Char) :
    backslashesAtEnd (front ++ c :: part) = backslashesAtEnd part := by
  have hstop : (c :: front.reverse).takeWhile (· = '\\') = [] := List.takeWhile_cons_of_neg (by simpa using hc)
  rw [backslashesAtEnd, backslashesAtEnd, List.reverse_append, List.reverse_cons, List.append_assoc,
    List.singleton_append, List.takeWhile_append, hstop, List.append_nil]
  split
  · rename_i hall
    rw [(List.takeWhile_prefix _).eq_of_length hall]
  · rfl

/-! ## Tags -/

theorem tagInside_eq_some :
    tagInside? part = some (inside, after) ↔
      part = inside ++ ']' :: after ∧ ']' ∉ inside ∧ ∃ c ∈ part.head?, startsTag c = true := by
  have hcut {front : List Char} (hfront : ']' ∉ front) (rest : List Char) :
      Text.cut? [']'] (front ++ ']' :: rest) = some (front, rest) :=
    @Text.cut_append [] front ']' List.not_mem_nil (by simpa [List.singleton_infix_iff] using hfront) rest
  cases part with
  | nil => simp [tagInside?]
  | cons c part =>
    rw [tagInside?]
    by_cases hstarts : startsTag c = true ∧ ']' ∈ c :: part
    · obtain ⟨front, rest, heq, hfront⟩ := List.eq_append_cons_of_mem hstarts.2
      rw [if_pos (by simpa using hstarts), heq, hcut hfront, Option.some_inj, Prod.mk.injEq]
      constructor
      · rintro ⟨rfl, rfl⟩
        exact ⟨rfl, hfront, c, by rw [← heq]; rfl, hstarts.1⟩
      · rintro ⟨heq', hinside, -⟩
        have hsome := hcut hinside after
        rw [← heq', hcut hfront] at hsome
        exact Prod.mk.inj (Option.some.inj hsome)
    · rw [if_neg (by simpa using hstarts)]
      refine iff_of_false (by simp) ?_
      rintro ⟨heq, -, c', hc', hstarts'⟩
      obtain rfl := Option.some.inj hc'
      exact hstarts ⟨hstarts', by rw [heq]; simp⟩

/-- Backslashes behind a part make no tag and take none away. -/
theorem tagInside_append (part : List Char) (n : Nat) :
    tagInside? (part ++ List.replicate n '\\') =
      (tagInside? part).map fun (inside, after) => (inside, after ++ List.replicate n '\\') := by
  cases htag : tagInside? part with
  | some found =>
    obtain ⟨inside, after⟩ := found
    obtain ⟨rfl, hinside, c, hc, hstarts⟩ := tagInside_eq_some.mp htag
    refine tagInside_eq_some.mpr ⟨by simp, hinside, c, ?_, hstarts⟩
    rw [List.head?_append, Option.mem_def.mp hc]
    rfl
  | none =>
    rw [Option.map_none, Option.eq_none_iff_forall_ne_some]
    rintro ⟨inside, after⟩ hsome
    obtain ⟨heq, hinside, c, hc, hstarts⟩ := tagInside_eq_some.mp hsome
    -- the bracket that ends the tag is none of the backslashes, so the tag was there before
    have hmem : ']' ∈ part := by
      have hend : ']' ∈ part ++ List.replicate n '\\' := by
        rw [heq]
        exact List.mem_append_right _ List.mem_cons_self
      refine (List.mem_append.mp hend).resolve_right fun hback => ?_
      exact absurd (List.eq_of_mem_replicate hback) (by decide)
    obtain ⟨front, rest, rfl, hfront⟩ := List.eq_append_cons_of_mem hmem
    have hhead : c ∈ (front ++ ']' :: rest).head? := by
      cases front <;> simpa using hc
    rw [tagInside_eq_some.mpr ⟨rfl, hfront, c, hhead, hstarts⟩] at htag
    cases htag

/-! ## Parts of a text -/

/-- The parts of a text between its separators, put together again. -/
def joinParts (separator : Char) (first : List Char) (rest : List (List Char)) : List Char :=
  first ++ rest.flatMap (separator :: ·)

theorem joinParts_nil (separator : Char) (first : List Char) : joinParts separator first [] = first :=
  List.append_nil first

theorem joinParts_cons (separator : Char) (first part : List Char) (rest : List (List Char)) :
    joinParts separator first (part :: rest) = first ++ separator :: joinParts separator part rest := by
  simp [joinParts]

theorem joinParts_append (separator : Char) (front first : List Char) (rest : List (List Char)) :
    joinParts separator (front ++ first) rest = front ++ joinParts separator first rest := by
  rw [joinParts, joinParts, List.append_assoc]

theorem splitOn_joinParts {separator : Char} {first : List Char} {rest : List (List Char)}
    (h : ∀ part ∈ first :: rest, separator ∉ part) :
    (joinParts separator first rest).splitOn separator = first :: rest := by
  induction rest generalizing first with
  | nil =>
    rw [joinParts_nil]
    exact List.splitOn_eq_singleton (h first List.mem_cons_self)
  | cons part rest ih =>
    rw [joinParts_cons, List.splitOn_append_cons_self_of_not_mem (h first List.mem_cons_self),
      ih fun p hp => h p (List.mem_cons_of_mem _ hp)]

/-- Every text has its parts. -/
theorem exists_parts (separator : Char) (cs : List Char) :
    ∃ first rest, cs = joinParts separator first rest ∧ ∀ part ∈ first :: rest, separator ∉ part := by
  induction cs with
  | nil => exact ⟨[], [], rfl, by simp⟩
  | cons c cs ih =>
    obtain ⟨first, rest, rfl, hparts⟩ := ih
    by_cases hc : c = separator
    · refine ⟨[], first :: rest, by rw [joinParts_cons, hc, List.nil_append], ?_⟩
      rw [List.forall_mem_cons]
      exact ⟨List.not_mem_nil, hparts⟩
    · rw [List.forall_mem_cons] at hparts
      refine ⟨c :: first, rest, rfl, ?_⟩
      rw [List.forall_mem_cons]
      exact ⟨List.not_mem_cons_of_ne_of_not_mem (Ne.symm hc) hparts.1, hparts.2⟩

theorem pieces_joinParts {first : List Char} {rest : List (List Char)} (h : ∀ part ∈ first :: rest, '[' ∉ part) :
    pieces (joinParts '[' first rest) = piecesFrom first rest := by
  rw [pieces, splitOn_joinParts h]

theorem pieces_of_not_mem (h : '[' ∉ cs) : pieces cs = [.plain cs] := by
  rw [pieces, List.splitOn_eq_singleton h]
  rfl

/-- A character in front of a text belongs to its first piece. -/
theorem exists_piecesFrom_cons {c : Char} (hc : c ≠ '\\') (before : List Char) (parts : List (List Char)) :
    ∃ text rest, piecesFrom before parts = .plain text :: rest ∧
      piecesFrom (c :: before) parts = .plain (c :: text) :: rest := by
  induction parts generalizing before with
  | nil => exact ⟨before, [], rfl, rfl⟩
  | cons part parts ih =>
    rw [piecesFrom, piecesFrom]
    cases htag : tagInside? part with
    | none => exact ih (before ++ '[' :: part)
    | some found =>
      have hend : backslashesAtEnd (c :: before) = backslashesAtEnd before := backslashesAtEnd_behind hc [] before
      have hfront : dropEndWhile (· = '\\') (c :: before) = c :: dropEndWhile (· = '\\') before := by
        refine (List.append_left_inj (List.replicate (backslashesAtEnd before) '\\')).mp ?_
        rw [List.cons_append, dropEndWhile_append_own before, ← hend, dropEndWhile_append_own]
      refine ⟨_, _, rfl, ?_⟩
      dsimp only
      rw [hend, hfront]

theorem exists_pieces_cons {c : Char} (hc : c ≠ '\\') (hbracket : c ≠ '[') (cs : List Char) :
    ∃ text rest, pieces cs = .plain text :: rest ∧ pieces (c :: cs) = .plain (c :: text) :: rest := by
  obtain ⟨first, rest, rfl, hparts⟩ := exists_parts '[' cs
  have hparts' : ∀ part ∈ (c :: first) :: rest, '[' ∉ part := by
    rw [List.forall_mem_cons] at hparts ⊢
    exact ⟨List.not_mem_cons_of_ne_of_not_mem (Ne.symm hbracket) hparts.1, hparts.2⟩
  have hjoin : c :: joinParts '[' first rest = joinParts '[' (c :: first) rest := rfl
  rw [hjoin, pieces_joinParts hparts, pieces_joinParts hparts']
  exact exists_piecesFrom_cons hc first rest

/-! ## Guarded parts -/

/-- A part with more backslashes: one more than those at its end if a tag follows, and a given
number at the end of the text. -/
def guard (n : Nat) (part : List Char) : List (List Char) → List Char
  | [] => part ++ List.replicate n '\\'
  | next :: _ => if (tagInside? next).isSome then part ++ List.replicate (backslashesAtEnd part + 1) '\\' else part

/-- All parts with more backslashes. -/
def guardAll (n : Nat) : List (List Char) → List (List Char)
  | [] => []
  | part :: parts => guard n part parts :: guardAll n parts

variable {n : Nat}

theorem guard_of_tag {next : List Char} {found : List Char × List Char} (h : tagInside? next = some found)
    (part : List Char) (parts : List (List Char)) :
    guard n part (next :: parts) = part ++ List.replicate (backslashesAtEnd part + 1) '\\' := by
  rw [guard, h]
  rfl

theorem guard_of_none {next : List Char} (h : tagInside? next = none) (part : List Char) (parts : List (List Char)) :
    guard n part (next :: parts) = part := by
  rw [guard, h]
  rfl

theorem exists_guard (n : Nat) (part : List Char) (parts : List (List Char)) :
    ∃ k, guard n part parts = part ++ List.replicate k '\\' := by
  cases parts with
  | nil => exact ⟨n, rfl⟩
  | cons next parts =>
    cases htag : tagInside? next with
    | some found => exact ⟨_, guard_of_tag htag part parts⟩
    | none => exact ⟨0, (guard_of_none htag part parts).trans (List.append_nil part).symm⟩

/-- Which backslashes are added to a part is seen at its end. -/
theorem guard_behind {c : Char} (hc : c ≠ '\\') (front part : List Char) (parts : List (List Char)) :
    guard n (front ++ c :: part) parts = front ++ c :: guard n part parts := by
  cases parts with
  | nil => rw [guard, guard, List.append_assoc, List.cons_append]
  | cons next parts =>
    rw [guard, guard, backslashesAtEnd_behind hc]
    split
    · rw [List.append_assoc, List.cons_append]
    · rfl

theorem not_mem_guardAll {c : Char} (hc : c ≠ '\\') {parts : List (List Char)} (h : ∀ part ∈ parts, c ∉ part) :
    ∀ part ∈ guardAll n parts, c ∉ part := by
  induction parts with
  | nil => exact h
  | cons part parts ih =>
    rw [List.forall_mem_cons] at h
    rw [guardAll, List.forall_mem_cons]
    refine ⟨?_, ih h.2⟩
    obtain ⟨k, hk⟩ := exists_guard n part parts
    rw [hk, List.mem_append, not_or]
    exact ⟨h.1, fun hback => hc (List.eq_of_mem_replicate hback)⟩

/-- More backslashes leave a part its tag, and make none. -/
theorem tagInside_guard (part : List Char) (parts : List (List Char)) :
    tagInside? (guard n part parts) = (tagInside? part).map fun (inside, after) => (inside, guard n after parts) := by
  obtain ⟨k, hk⟩ := exists_guard n part parts
  cases htag : tagInside? part with
  | none => rw [hk, tagInside_append, htag, Option.map_none, Option.map_none]
  | some found =>
    obtain ⟨inside, after⟩ := found
    obtain ⟨rfl, -, -⟩ := tagInside_eq_some.mp htag
    have hguard := guard_behind (n := n) (by decide : ']' ≠ '\\') inside after parts
    have happend := tagInside_append (inside ++ ']' :: after) k
    rw [← hk, hguard, htag] at happend
    rw [hguard, List.append_assoc, List.append_cancel_left_eq, List.cons_append, List.cons.injEq] at hk
    rw [hguard, happend, Option.map_some, Option.map_some]
    dsimp only
    rw [hk.2]

theorem backslashesAtEnd_guard (first : List Char) (rest : List (List Char)) :
    backslashesAtEnd (joinParts '[' (guard n first rest) (guardAll n rest)) =
      backslashesAtEnd (joinParts '[' first rest) + n := by
  induction rest generalizing first with
  | nil => rw [guardAll, joinParts_nil, joinParts_nil, guard, backslashesAtEnd_append]
  | cons part rest ih =>
    rw [guardAll, joinParts_cons, joinParts_cons, backslashesAtEnd_behind (by decide), ih,
      backslashesAtEnd_behind (by decide)]

/-- The escaped pieces of a text are its parts with more backslashes. -/
theorem flatMap_escaped_piecesFrom (n : Nat) (before : List Char) (parts : List (List Char)) :
    (piecesFrom before parts).flatMap Piece.escaped ++ List.replicate n '\\' =
      joinParts '[' (guard n before parts) (guardAll n parts) := by
  induction parts generalizing before with
  | nil => rw [piecesFrom, guardAll, guard, joinParts_nil, List.flatMap_singleton, Piece.escaped]
  | cons part parts ih =>
    rw [piecesFrom, guardAll, joinParts_cons]
    cases htag : tagInside? part with
    | none =>
      dsimp only
      rw [ih, guard_behind (by decide), guard_of_none htag, joinParts_append]
      rfl
    | some found =>
      obtain ⟨inside, after⟩ := found
      obtain ⟨rfl, -, -⟩ := tagInside_eq_some.mp htag
      dsimp only
      rw [List.flatMap_cons, List.flatMap_cons, List.append_assoc, List.append_assoc, ih, guard_of_tag htag,
        guard_behind (by decide), Piece.escaped, Piece.escaped]
      have hown := dropEndWhile_append_own before
      generalize dropEndWhile (· = '\\') before = front at hown ⊢
      generalize backslashesAtEnd before = b at hown ⊢
      -- the backslashes that are doubled are those the part has and those the guard adds
      have hdouble : 2 * b + 1 = b + (b + 1) := by omega
      subst hown
      simp [joinParts, bracketed, hdouble, List.replicate_add]

/-- A piece as it is written. -/
def Piece.written : Piece → List Char
  | .plain text => text
  | .tag backslashes inside => List.replicate backslashes '\\' ++ bracketed inside

theorem flatMap_written_piecesFrom (before : List Char) (parts : List (List Char)) :
    (piecesFrom before parts).flatMap Piece.written = joinParts '[' before parts := by
  induction parts generalizing before with
  | nil => rw [piecesFrom, joinParts_nil, List.flatMap_singleton, Piece.written]
  | cons part parts ih =>
    rw [piecesFrom, joinParts_cons]
    cases htag : tagInside? part with
    | none =>
      dsimp only
      rw [ih, joinParts_append]
      rfl
    | some found =>
      obtain ⟨inside, after⟩ := found
      obtain ⟨rfl, -, -⟩ := tagInside_eq_some.mp htag
      dsimp only
      rw [List.flatMap_cons, List.flatMap_cons, ih, Piece.written, Piece.written, List.append_assoc, ← List.append_assoc,
        dropEndWhile_append_own]
      simp [joinParts, bracketed]

/-- The pieces of a text are all of it. -/
theorem flatMap_written_pieces (cs : List Char) : (pieces cs).flatMap Piece.written = cs := by
  obtain ⟨first, rest, rfl, hparts⟩ := exists_parts '[' cs
  rw [pieces_joinParts hparts, flatMap_written_piecesFrom]

/-! ## Backslashes at the end of what is shown -/

theorem dropBracketEscapes_append (cs : List Char) (n : Nat) :
    dropBracketEscapes (cs ++ List.replicate n '\\') = dropBracketEscapes cs ++ List.replicate n '\\' := by
  induction cs using dropBracketEscapes.induct with
  | case1 rest ih => rw [List.cons_append, List.cons_append, dropBracketEscapes, dropBracketEscapes, ih, List.cons_append]
  | case2 c rest hother ih =>
    rw [List.cons_append, dropBracketEscapes, dropBracketEscapes, ih, List.cons_append]
    · exact hother
    · intro rest' hc hrest
      cases rest with
      | nil =>
        have hmem : '[' ∈ List.replicate n '\\' := by
          rw [List.nil_append] at hrest
          rw [hrest]
          exact List.mem_cons_self
        exact absurd (List.eq_of_mem_replicate hmem) (by decide)
      | cons d rest =>
        obtain ⟨rfl, -⟩ := List.cons.inj hrest
        exact hother rest hc rfl
  | case3 =>
    rw [dropBracketEscapes, List.nil_append]
    induction n with
    | zero => rfl
    | succ n ih =>
      rw [List.replicate_succ, dropBracketEscapes, ih]
      intro rest _ hrest
      have hmem : '[' ∈ List.replicate n '\\' := by
        rw [hrest]
        exact List.mem_cons_self
      exact absurd (List.eq_of_mem_replicate hmem) (by decide)

/-- What stands at the end of the last part stays there. -/
theorem replaceNames_concat (last tail : List Char) :
    ∀ parts, replaceNames (parts ++ [last ++ tail]) = replaceNames (parts ++ [last]) ++ tail
  | [] => rfl
  | [name] => by
    simp only [List.singleton_append, replaceNames]
    split
    · rw [List.cons_append, List.cons_append, List.cons_append, List.append_assoc, List.cons_append]
    · rw [List.append_nil, List.append_nil, List.append_assoc]
  | name :: after :: parts => by
    rw [List.cons_append, List.cons_append, List.cons_append, List.cons_append, replaceNames, replaceNames]
    have hhere := replaceNames_concat last tail parts
    have hnext := replaceNames_concat last tail (after :: parts)
    split
    · rw [← List.cons_append, hnext]
      simp
    · rw [hhere, List.append_assoc, List.append_assoc, List.append_assoc]

theorem withPictographs_append {tail : List Char} (htail : ':' ∉ tail) (cs : List Char) :
    withPictographs (cs ++ tail) = withPictographs cs ++ tail := by
  obtain ⟨first, rest, rfl, hparts⟩ := exists_parts ':' cs
  rw [withPictographs, withPictographs, splitOn_joinParts hparts]
  rcases List.eq_nil_or_concat rest with rfl | ⟨parts, last, rfl⟩
  · rw [joinParts_nil, List.forall_mem_singleton] at *
    rw [List.splitOn_eq_singleton (by simpa using ⟨hparts, htail⟩)]
    simp [replaceNames]
  · rw [List.concat_eq_append] at hparts ⊢
    have hjoin : joinParts ':' first (parts ++ [last]) ++ tail = joinParts ':' first (parts ++ [last ++ tail]) := by
      simp [joinParts]
    have hparts' : ∀ part ∈ first :: (parts ++ [last ++ tail]), ':' ∉ part := by
      rw [List.forall_mem_cons, List.forall_mem_append, List.forall_mem_singleton] at hparts ⊢
      exact ⟨hparts.1, hparts.2.1, by rw [List.mem_append, not_or]; exact ⟨hparts.2.2, htail⟩⟩
    rw [hjoin, splitOn_joinParts hparts']
    dsimp only
    rw [replaceNames_concat, List.append_assoc]

theorem shownText_append (cs : List Char) (n : Nat) :
    shownText (cs ++ List.replicate n '\\') = shownText cs ++ List.replicate n '\\' := by
  have hcolon : ':' ∉ List.replicate n '\\' := fun hmem => absurd (List.eq_of_mem_replicate hmem) (by decide)
  rw [shownText, dropBracketEscapes_append, withPictographs_append hcolon, shownText]

/-! ## What is shown -/

/-- What is shown of a piece whose tag does not count. -/
def Piece.literal : Piece → List Char
  | .plain text => shownText text
  | .tag backslashes inside => List.replicate backslashes '\\' ++ shownText (bracketed inside)

/-- How many backslashes are shown behind a text: one more if there is a single one at its end. -/
def addedBackslashes (cs : List Char) : Nat :=
  if backslashesAtEnd cs = 1 then 1 else 0

/-- What is shown of a text whose tags are escaped, before the cursor controls are taken out. -/
def literal (cs : List Char) : List Char :=
  (pieces cs).flatMap Piece.literal ++ List.replicate (addedBackslashes cs) '\\'

/-- With more backslashes no tag counts, so that each piece is shown for itself. -/
theorem shownPieces_guard (opened : List (List String)) (before : List Char) (parts : List (List Char)) :
    shownPieces opened (piecesFrom (guard n before parts) (guardAll n parts)) =
      some ((piecesFrom before parts).flatMap Piece.literal ++ List.replicate n '\\') := by
  induction parts generalizing before with
  | nil =>
    rw [guardAll, piecesFrom, piecesFrom, guard, shownPieces, shownPieces, shownText_append, Option.map_some,
      List.append_nil, List.flatMap_singleton, Piece.literal]
  | cons part parts ih =>
    rw [guardAll, piecesFrom, piecesFrom, tagInside_guard]
    cases htag : tagInside? part with
    | none =>
      rw [Option.map_none, guard_of_none htag]
      dsimp only
      rw [← ih, guard_behind (by decide)]
    | some found =>
      -- an odd number of backslashes stands in front of the tag, so it does not count
      have hodd : (backslashesAtEnd before + (backslashesAtEnd before + 1)) % 2 = 1 := by omega
      have hhalf : (backslashesAtEnd before + (backslashesAtEnd before + 1)) / 2 = backslashesAtEnd before := by omega
      rw [Option.map_some, guard_of_tag htag]
      dsimp only
      rw [dropEndWhile_append_backslashes, backslashesAtEnd_append, shownPieces, shownPieces, hodd, hhalf, if_pos rfl,
        if_pos rfl]
      simp [ih, Piece.literal]

/-- An escaped text has the parts of the text, with more backslashes. -/
theorem escape_joinParts {first : List Char} {rest : List (List Char)} (h : ∀ part ∈ first :: rest, '[' ∉ part) :
    escape (joinParts '[' first rest) =
      joinParts '[' (guard (addedBackslashes (joinParts '[' first rest)) first rest)
        (guardAll (addedBackslashes (joinParts '[' first rest)) rest) := by
  have hescaped := flatMap_escaped_piecesFrom 0 first rest
  rw [List.replicate_zero, List.append_nil, ← pieces_joinParts h] at hescaped
  have hend := backslashesAtEnd_guard (n := 0) first rest
  rw [← hescaped, Nat.add_zero] at hend
  rw [← flatMap_escaped_piecesFrom, ← pieces_joinParts h, escape, hend, addedBackslashes]
  split
  · rfl
  · exact (List.append_nil _).symm

theorem dropBracketEscapes_eq_self (h : ¬['\\', '['] <:+: cs) : dropBracketEscapes cs = cs := by
  induction cs using dropBracketEscapes.induct with
  | case1 rest => exact absurd ⟨[], rest, rfl⟩ h
  | case2 c rest hother ih =>
    rw [dropBracketEscapes, ih fun hrest => h (hrest.trans (List.suffix_cons c rest).isInfix)]
    exact hother
  | case3 => rfl

/-- A text is shown by its pieces, whether or not there is a bracket in it. -/
theorem shown?_eq (cs : List Char) : shown? cs = (shownPieces [] (pieces cs)).map dropCursorControls := by
  rw [shown?]
  split
  · rfl
  · rename_i hnone
    have hbracket : '[' ∉ cs := by simpa using hnone
    have hplain : dropBracketEscapes cs = cs :=
      dropBracketEscapes_eq_self fun hmem => hbracket (hmem.subset (by simp))
    rw [pieces_of_not_mem hbracket, shownPieces, shownPieces, Option.map_some, Option.map_some, Option.map_some,
      List.append_nil, shownText, hplain]

/-- A text that is escaped is always shown: no tag in it counts. -/
theorem shownLiteral?_eq (cs : List Char) : shownLiteral? cs = some (dropCursorControls (literal cs)) := by
  obtain ⟨first, rest, rfl, hparts⟩ := exists_parts '[' cs
  have hguarded (n : Nat) : ∀ part ∈ guard n first rest :: guardAll n rest, '[' ∉ part :=
    @not_mem_guardAll n '[' (by decide) (first :: rest) hparts
  rw [shownLiteral?, shown?_eq, escape_joinParts hparts, pieces_joinParts (hguarded _), shownPieces_guard,
    ← pieces_joinParts hparts]
  rfl

/-- A message is printed whatever its text. -/
theorem printedMessage?_eq (width : Nat) (label message : String) :
    printedMessage? width label message =
      some (printedLines (wrap width (label.toList ++ dropCursorControls (literal message.toList)))) := by
  rw [printedMessage?, shownLiteral?_eq, Option.map_some]

/-! ## Texts that are shown as they are -/

/-- Texts in which nothing is replaced or left out: no name of a pictograph stands between two
colons, no backslash in front of a bracket that starts no tag, and no character moves the cursor. -/
structure IsShownAsWritten (cs : List Char) : Prop where
  names : ∀ name, ':' :: name ++ [':'] <:+: cs → name.any isBlank = true ∨ namedPictograph name = ':' :: name ++ [':']
  brackets : ∀ text, .plain text ∈ pieces cs → ¬['\\', '['] <:+: text
  controls : ∀ c ∈ cs, isCursorControl c = false

theorem dropCursorControls_eq_self (h : ∀ c ∈ cs, isCursorControl c = false) : dropCursorControls cs = cs := by
  rw [dropCursorControls, List.filter_eq_self]
  intro c hc
  rw [h c hc]
  rfl

theorem infix_flatMap {α β : Type} {f : α → List β} {a : α} {as : List α} (h : a ∈ as) : f a <:+: as.flatMap f := by
  obtain ⟨front, rest, rfl⟩ := List.append_of_mem h
  rw [List.flatMap_append, List.flatMap_cons]
  exact ⟨front.flatMap f, rest.flatMap f, List.append_assoc _ _ _⟩

/-- Parts between which no name of a pictograph stands are put together again. -/
theorem replaceNames_eq {parts : List (List Char)}
    (h : ∀ front name after rest, parts = front ++ name :: after :: rest →
      name.any isBlank = true ∨ namedPictograph name = ':' :: name ++ [':']) :
    replaceNames parts = parts.flatMap (':' :: ·) := by
  induction parts using replaceNames.induct with
  | case1 => rfl
  | case2 last => simp [replaceNames]
  | case3 name after rest hblank ih =>
    rw [replaceNames, if_pos hblank,
      ih fun front name' after' rest' heq => h (name :: front) name' after' rest' (by rw [heq]; rfl)]
    simp
  | case4 name after rest hblank ih =>
    rw [replaceNames, if_neg hblank,
      ih fun front name' after' rest' heq => h (name :: after :: front) name' after' rest' (by rw [heq]; rfl),
      (h [] name after rest rfl).resolve_left hblank]
    simp

theorem withPictographs_eq_self
    (h : ∀ name, ':' :: name ++ [':'] <:+: cs → name.any isBlank = true ∨ namedPictograph name = ':' :: name ++ [':']) :
    withPictographs cs = cs := by
  obtain ⟨first, rest, rfl, hparts⟩ := exists_parts ':' cs
  rw [withPictographs, splitOn_joinParts hparts]
  dsimp only
  rw [replaceNames_eq fun front name after rest' heq => h name ?_]
  · rfl
  · rw [heq]
    exact ⟨first ++ front.flatMap (':' :: ·), after ++ rest'.flatMap (':' :: ·), by simp [joinParts]⟩

/-- No bracket opens within a tag. -/
theorem not_mem_of_tag_mem {backslashes : Nat} {before : List Char} {parts : List (List Char)}
    (hparts : ∀ part ∈ parts, '[' ∉ part) (h : .tag backslashes inside ∈ piecesFrom before parts) : '[' ∉ inside := by
  induction parts generalizing before with
  | nil => simp [piecesFrom] at h
  | cons part parts ih =>
    rw [List.forall_mem_cons] at hparts
    rw [piecesFrom] at h
    cases htag : tagInside? part with
    | none =>
      rw [htag] at h
      exact ih hparts.2 h
    | some found =>
      obtain ⟨inside', after⟩ := found
      obtain ⟨rfl, -, -⟩ := tagInside_eq_some.mp htag
      rw [htag] at h
      simp only [List.mem_cons, reduceCtorEq, false_or, Piece.tag.injEq] at h
      rcases h with ⟨-, rfl⟩ | h
      · exact fun hmem => hparts.1 (List.mem_append_left _ hmem)
      · exact ih hparts.2 h

/-- Each piece of such a text is shown as it is written. -/
theorem IsShownAsWritten.literal_piece (h : IsShownAsWritten cs) {p : Piece} (hp : p ∈ pieces cs) :
    p.literal = p.written := by
  have hpart : p.written <:+: cs := by
    have hmem := infix_flatMap (f := Piece.written) hp
    rwa [flatMap_written_pieces] at hmem
  cases p with
  | plain text =>
    have hwritten : text <:+: cs := hpart
    rw [Piece.literal, shownText, dropBracketEscapes_eq_self (h.brackets text hp),
      withPictographs_eq_self fun name hname => h.names name (hname.trans hwritten), Piece.written]
  | tag backslashes inside =>
    have hwritten : bracketed inside <:+: cs := (List.suffix_append _ _).isInfix.trans hpart
    obtain ⟨first, rest, rfl, hparts⟩ := exists_parts '[' cs
    rw [pieces_joinParts hparts] at hp
    have hinside := not_mem_of_tag_mem (List.forall_mem_cons.mp hparts).2 hp
    have hbracket : ¬['\\', '['] <:+: bracketed inside := by
      rw [bracketed, List.cons_append, List.infix_cons_iff]
      rintro (hfront | hback)
      · exact absurd (List.cons_prefix_cons.mp hfront).1 (by decide)
      · have hmem : '[' ∈ inside ++ [']'] := hback.subset (by simp)
        exact (List.mem_append.mp hmem).elim hinside (by decide)
    rw [Piece.literal, shownText, dropBracketEscapes_eq_self hbracket,
      withPictographs_eq_self fun name hname => h.names name (hname.trans hwritten), Piece.written]

/-- A text without tags is such a text behind a blank too. -/
theorem IsShownAsWritten.shownPieces_blank (h : IsShownAsWritten cs) (hplain : pieces cs = [.plain cs]) :
    shownPieces [] (pieces (' ' :: cs)) = some (' ' :: cs) := by
  obtain ⟨text, rest, hpieces, hblank⟩ := exists_pieces_cons (by decide : ' ' ≠ '\\') (by decide) cs
  obtain ⟨heq, rfl⟩ := List.cons.inj (hpieces.symm.trans hplain)
  obtain rfl := Piece.plain.inj heq
  -- the blank in front belongs to none of the marks
  have hbehind {mark : List Char} (hmark : mark.head? ≠ some ' ') (hne : mark ≠ []) (hpart : mark <:+: ' ' :: text) :
      mark <:+: text := by
    refine (List.infix_cons_iff.mp hpart).resolve_left fun hprefix => ?_
    obtain ⟨c, mark, rfl⟩ := List.exists_cons_of_ne_nil hne
    exact hmark (by rw [(List.cons_prefix_cons.mp hprefix).1]; rfl)
  have hbrackets : ¬['\\', '['] <:+: ' ' :: text := fun hpart =>
    h.brackets text (by rw [hplain]; exact List.mem_singleton_self _) (hbehind (by decide) (by decide) hpart)
  rw [hblank, shownPieces, shownPieces, Option.map_some, List.append_nil, shownText, dropBracketEscapes_eq_self hbrackets,
    withPictographs_eq_self fun name hname => h.names name (hbehind (by simp) (by simp) hname)]

/-- Such a text is shown in full; a single backslash at its end is shown twice. -/
theorem IsShownAsWritten.literal_eq (h : IsShownAsWritten cs) :
    dropCursorControls (literal cs) = cs ++ List.replicate (addedBackslashes cs) '\\' := by
  rw [literal, List.flatMap_congr fun p hp => h.literal_piece hp, flatMap_written_pieces, dropCursorControls_eq_self]
  refine List.forall_mem_append.mpr ⟨h.controls, fun c hc => ?_⟩
  rw [List.eq_of_mem_replicate hc]
  rfl

end Stopwatch.Console
