/-
  What an invocation prints.

  When the results are asked for as a document, standard output is for the document alone.  A
  run that has begun keeps to that however it ends; only the refusal of an input is told there.
-/
import Stopwatch.Invocation
import Stopwatch.Proofs.Console.Escape
import Stopwatch.Proofs.Run.Frames

namespace Stopwatch.Invocation

open Action

variable {i : Invocation} {c : Config} {host : Host}

/-! ## Refused inputs -/

/-- What an invocation does before its run begins: it makes its directories, and opens the log. -/
def outset (i : Invocation) (c : Config) : Action Run := do
  let config := i.configured c
  Config.makeDirectories config
  let log ← RunLog.create config.logDirectory (some (← Action.freshName))
  return ⟨i.input, config, log⟩

/-- The problem for which the input is refused, if the run comes to look at it. -/
def refused? (i : Invocation) (c : Config) (host : Host) : Option Problem :=
  match i.outset c host with
  | (.ok r, h) => r.inputProblem? h.files
  | (.error _, _) => none

/-- What comes of a run that has ended. -/
def conclude (i : Invocation) : Except Failure (Option Results) → Action Ending
  | .ok (some results) => do
    i.resultsFile.forM (writeResults results)
    return .finished results
  | .ok none => pure .withoutResults
  | .error (.problem p) => if p.kind.isA .input then pure (.refused p) else Action.raise p
  | .error f => Action.fail f

theorem perform_eq (i : Invocation) (c : Config) :
    i.perform c = (do i.conclude (← Action.attempt (← i.outset c).run)) := by
  simp only [perform, outset, bind_assoc, pure_bind]
  rfl

/-- What is wrong with an input is a problem of the input. -/
theorem isA_input_of_inputProblem {r : Run} {fs : Files} {problem : Problem} (h : r.inputProblem? fs = some problem) :
    problem.kind.isA .input = true := by
  rw [Run.inputProblem?] at h
  split at h
  · cases h
    rfl
  · split at h
    · cases h
      rfl
    · cases h

/-- An ending that is no refusal. -/
def IsProper : Except Failure Ending → Prop
  | .ok (.refused _) => False
  | .ok (.finished _) | .ok .withoutResults | .error _ => True

/-- A failure that does not refuse the input leaves no refusal. -/
theorem isProper_conclude {result : Except Failure (Option Results)} (h : Allows Failure.AcceptsInput result) :
    IsProper (i.conclude result host).1 := by
  suffices hends : Ends (i.conclude result) host fun r _ => IsProper r from hends
  cases result with
  | ok found =>
    cases found with
    | none => trivial
    | some results =>
      rw [conclude, ends_bind]
      refine Ends.mono (Q := fun _ _ => True) trivial fun r h _ => ?_
      cases r with
      | ok _ => trivial
      | error f => trivial
  | error f =>
    cases f with
    | problem p =>
      rw [conclude, if_neg]
      · trivial
      · rw [show p.kind.isA .input = false from h]
        exact Bool.false_ne_true
    | system _ | undecodable _ | malformedSource | malformedString _ | value _ | invalid _ => trivial

/-- The input is refused at the beginning of a run, or not at all. -/
theorem cases_of_perform (i : Invocation) (c : Config) (host : Host) :
    match i.refused? c host with
    | some problem => (i.perform c host).1 = .ok (.refused problem)
    | none => IsProper (i.perform c host).1 := by
  suffices hends : Ends (i.perform c) host fun r _ =>
      match i.refused? c host with
      | some problem => r = .ok (.refused problem)
      | none => IsProper r from hends
  rw [perform_eq, ends_bind, Ends, refused?]
  rcases i.outset c host with ⟨f | r, h⟩
  · trivial
  · dsimp only
    rw [ends_bind, ends_attempt]
    cases hproblem : r.inputProblem? h.files with
    | some problem =>
      rw [Run.run, ends_bind, Run.ends_validate, hproblem]
      change (i.conclude (.error (.problem problem)) h).1 = _
      rw [conclude, if_pos (isA_input_of_inputProblem hproblem)]
      rfl
    | none =>
      have hrun : Stays (fun _ => True) Failure.AcceptsInput r.run h :=
        r.stays_run_accepted (K := fun _ _ => True) (fun _ _ _ _ _ => trivial) hproblem
      exact Ends.mono hrun fun result h' hresult => isProper_conclude hresult.2

/-! ## The line about a refused input -/

open Console in
/-- The markup in front of a message leaves the pieces of the message alone. -/
theorem pieces_error (text : List Char) :
    pieces ("[red]Error:[/red] ".toList ++ text) =
      .plain [] :: .tag 0 ['r', 'e', 'd'] :: .plain "Error:".toList :: .tag 0 ['/', 'r', 'e', 'd'] ::
        pieces (' ' :: text) := by
  obtain ⟨first, rest, rfl, hparts⟩ := exists_parts '[' text
  rw [List.forall_mem_cons] at hparts
  have hwhole : "[red]Error:[/red] ".toList ++ joinParts '[' first rest =
      joinParts '[' [] ("red]Error:".toList :: ("/red] ".toList ++ first) :: rest) := by
    rw [joinParts_cons, joinParts_cons, joinParts_append]
    rfl
  have hback : ' ' :: joinParts '[' first rest = joinParts '[' (' ' :: first) rest := rfl
  rw [hwhole, hback, pieces_joinParts, pieces_joinParts]
  · rfl
  · exact List.forall_mem_cons.mpr ⟨List.not_mem_cons_of_ne_of_not_mem (by decide) hparts.1, hparts.2⟩
  · refine List.forall_mem_cons.mpr ⟨by decide, List.forall_mem_cons.mpr ⟨by decide, List.forall_mem_cons.mpr ⟨?_, hparts.2⟩⟩⟩
    rw [List.mem_append, not_or]
    exact ⟨by decide, hparts.1⟩

open Console in
/-- The style that the markup opens is the one that it closes. -/
theorem shown?_error (text : List Char) :
    shown? ("[red]Error:[/red] ".toList ++ text) =
      (shownPieces [] (pieces (' ' :: text))).map fun shown => dropCursorControls ("Error:".toList ++ shown) := by
  have hstyle : styleName ['r', 'e', 'd'] = ["red"] := by cbv
  have hopen : afterTag [] ['r', 'e', 'd'] = some [["red"]] := congrArg (fun name => some [name]) hstyle
  have hclose : afterTag [["red"]] ['/', 'r', 'e', 'd'] = some [] := by
    change (if [["red"]].contains (styleName ['r', 'e', 'd']) then
      some ([["red"]].erase (styleName ['r', 'e', 'd'])) else none) = _
    rw [hstyle]
    rfl
  have hempty : shownText [] = [] := rfl
  have hlabel : shownText ['E', 'r', 'r', 'o', 'r', ':'] = ['E', 'r', 'r', 'o', 'r', ':'] := rfl
  rw [shown?_eq, pieces_error]
  cases hshown : shownPieces [] (pieces (' ' :: text)) with
  | none => simp [shownPieces, hopen, hclose, hshown]
  | some shown => simp [shownPieces, hopen, hclose, hempty, hlabel, hshown]

/-- The markup in a message counts in the line about a refused input. -/
theorem refusal?_eq (p : Problem) :
    refusal? p = (Console.shownPieces [] (Console.pieces (' ' :: p.message.toList))).map fun shown =>
      Console.printedLines (Console.wrap consoleWidth (Console.dropCursorControls ("Error:".toList ++ shown))) := by
  rw [refusal?, String.toList_append, shown?_error, Option.map_map]
  rfl

/-- A message without brackets is told in full, behind a word that says it is an error. -/
theorem refusal?_of_not_mem {p : Problem} (h : '[' ∉ p.message.toList) :
    refusal? p = some (Console.printedLines (Console.wrap consoleWidth
      (Console.dropCursorControls ("Error:".toList ++ Console.shownText (' ' :: p.message.toList))))) := by
  have hbracket : '[' ∉ ' ' :: p.message.toList := List.not_mem_cons_of_ne_of_not_mem (by decide) h
  rw [refusal?_eq, Console.pieces_of_not_mem hbracket, Console.shownPieces, Console.shownPieces, Option.map_some,
    Option.map_some, List.append_nil]

/-! ## Messages in full -/

section Messages

open Console

/-- What is told in an information, a warning or an error is printed whatever its text: no tag in
it counts, and nothing of it is changed but the names of pictographs, the backslashes in front of
brackets that start no tag, a single backslash at its end and the characters that move the cursor.
So a text without any of these is printed as it is.  The line about a refused input is only printed
so if there is no tag in its message: it is the one place where tags count. -/
theorem printed_messages (width : Nat) (text : String) :
    ((Report.info text).printed? width = some (printedLines (wrap width (dropCursorControls (literal text.toList)))) ∧
      (Report.warn text).printed? width =
        some (printedLines (wrap width ("Warning: ".toList ++ dropCursorControls (literal text.toList)))) ∧
      (Report.error text).printed? width =
        some (printedLines (wrap width ("Error: ".toList ++ dropCursorControls (literal text.toList))))) ∧
    (IsShownAsWritten text.toList → dropCursorControls (literal text.toList) =
      text.toList ++ List.replicate (addedBackslashes text.toList) '\\') ∧
    ∀ p : Problem, p.message = text →
      refusal? p = ((shownPieces [] (pieces (' ' :: text.toList))).map fun shown =>
        printedLines (wrap consoleWidth (dropCursorControls ("Error:".toList ++ shown)))) ∧
      (IsShownAsWritten text.toList → pieces text.toList = [.plain text.toList] →
        refusal? p = some (printedLines (wrap consoleWidth ("Error: ".toList ++ text.toList)))) := by
  refine ⟨⟨printedMessage?_eq width "" text, printedMessage?_eq width "Warning: " text,
    printedMessage?_eq width "Error: " text⟩, IsShownAsWritten.literal_eq, fun p hp => ?_⟩
  have hline := refusal?_eq p
  rw [hp] at hline
  refine ⟨hline, fun hwritten hplain => ?_⟩
  have hlabel : ∀ c ∈ "Error:".toList, isCursorControl c = false := by simp [isCursorControl]
  have hkept : ∀ c ∈ "Error:".toList ++ ' ' :: text.toList, isCursorControl c = false :=
    List.forall_mem_append.mpr ⟨hlabel, List.forall_mem_cons.mpr ⟨by decide, hwritten.controls⟩⟩
  rw [hline, hwritten.shownPieces_blank hplain, Option.map_some, dropCursorControls_eq_self hkept]
  rfl

theorem isShownAsWritten_small : IsShownAsWritten "Path does not exist: a[1]".toList where
  names name hname := by
    have hcount := hname.sublist.count_le ':'
    simp at hcount
  brackets text htext := by
    have hpieces : pieces "Path does not exist: a[1]".toList = [.plain "Path does not exist: a[1]".toList] := by
      decide +kernel
    rw [hpieces, List.mem_singleton, Piece.plain.injEq] at htext
    rw [htext]
    decide +kernel
  controls := by simp [isCursorControl]

theorem printed_messages_small :
    IsShownAsWritten "Path does not exist: a[1]".toList ∧
    (Report.warn "Path does not exist: a[1]").printed? 80 = some "Warning: Path does not exist: a[1]\n" ∧
    refusal? (.pathMissing "a[1]") = some "Error: Path does not exist: a[1]\n" := by
  obtain ⟨⟨-, hwarn, -⟩, hshown, hrefusal⟩ := printed_messages 80 "Path does not exist: a[1]"
  refine ⟨isShownAsWritten_small, ?_, ?_⟩
  · rw [hwarn, hshown isShownAsWritten_small]
    decide +kernel
  · rw [(hrefusal (.pathMissing "a[1]") rfl).2 isShownAsWritten_small (by decide +kernel)]
    decide +kernel

/-- In the line about a refused input a tag is lost, and one that closes a style makes it fail; and
escaped texts lose the names of pictographs and some backslashes. -/
theorem printed_otherwise :
    refusal? (.pathMissing "missing[b]") = some "Error: Path does not exist: missing\n" ∧
    refusal? (.pathMissing "a[/b]") = none ∧
    shownLiteral? ":x:".toList = some "❌".toList ∧
    (Report.info "\\[1]").printed? 80 = some "[1]\n" := by
  rw [refusal?_eq, refusal?_eq]
  exact ⟨by decide +kernel, by decide +kernel, by decide +kernel, by decide +kernel⟩

end Messages

/-! ## Standard output -/

/-- What an invocation prints on standard output. -/
def printed? (i : Invocation) (c : Config) (host : Host) : Option String :=
  i.standardOutput? (i.perform c host).2.reports (i.perform c host).1.toOption

/-- If a document is asked for, all that is told goes to standard error, and standard output is left to the
document of the results and one line feed, or stays empty.  The only exception is an input that is
refused: the line about it is all that stands on standard output. -/
theorem printed_of_json (hjson : i.json = true) :
    i.standardError? (i.perform c host).2.reports = messages? (i.perform c host).2.reports ∧
      match i.refused? c host with
      | some problem => (i.perform c host).1 = .ok (.refused problem) ∧ i.printed? c host = refusal? problem
      | none => match (i.perform c host).1 with
        | .ok (.finished results) => i.printed? c host = some (results.text true ++ "\n")
        | _ => i.printed? c host = some "" := by
  have hprinted : i.printed? c host = (i.perform c host).1.toOption.elim (some "") i.conclusion? := by
    rw [printed?, standardOutput?, if_pos hjson]
    cases (i.perform c host).1.toOption with
    | none => rfl
    | some ending =>
      change ((i.conclusion? ending).bind fun last => some ("" ++ last)) = _
      simp only [String.empty_append, Option.bind_fun_some, Option.elim_some]
  refine ⟨by rw [standardError?, if_pos hjson], ?_⟩
  have hcases := cases_of_perform i c host
  rw [hprinted]
  cases hproblem : i.refused? c host with
  | some problem =>
    rw [hproblem] at hcases
    exact ⟨hcases, by rw [hcases]; rfl⟩
  | none =>
    rw [hproblem] at hcases
    dsimp only at hcases ⊢
    rcases hresult : (i.perform c host).1 with f | ending
    · rfl
    · rw [hresult] at hcases
      cases ending with
      | finished results => exact congrArg some (if_pos hjson)
      | withoutResults => rfl
      | refused problem => exact hcases.elim

/-- An invocation for an input that is not there. -/
def ofMissing : Invocation :=
  ⟨Path.ofText "/missing", true, none, none⟩

theorem printed_of_json_missing :
    ofMissing.json = true ∧
      ofMissing.printed? Run.smallRun.config Run.smallHost = some "Error: Path does not exist: /missing\n" := by
  have hrefused : ofMissing.refused? Run.smallRun.config Run.smallHost = some (.pathMissing "/missing") := rfl
  have hprinted := (@printed_of_json ofMissing Run.smallRun.config Run.smallHost rfl).2
  rw [hrefused] at hprinted
  refine ⟨rfl, hprinted.2.trans ?_⟩
  rw [refusal?_of_not_mem (by decide +kernel)]
  exact congrArg some (by decide +kernel)

end Stopwatch.Invocation
