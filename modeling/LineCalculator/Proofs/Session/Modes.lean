import LineCalculator.Proofs.Session.Messages

/-!
# Files and the interactive loop

Lines that a file does not skip and that do not end the loop come to the same either way: the same
variables, the same values, and the same diagnostics up to the line numbers that a file adds. A
line without a value prints nothing in a file and counts as zero in the loop.
-/
namespace LineCalculator

/-- A line that is evaluated in a file as well as in the interactive loop. -/
def IsPlain (line : String) : Prop :=
  '\n' ∉ line.toList ∧ line.toList.getLast? ≠ some '\r' ∧ Text.isBlank line.toList = false ∧
    line.toList.head? ≠ some '#' ∧ Text.trimEnd line.toList ≠ "exit".toList

instance : DecidablePred IsPlain := fun _ => inferInstanceAs (Decidable (_ ∧ _))

lemma IsPlain.not_isSkipped {line : String} (h : IsPlain line) : isSkipped line = false := by
  obtain ⟨-, -, hblank, hcomment, -⟩ := h
  simp [isSkipped, hblank, hcomment]

lemma IsPlain.not_isExit {line : String} (h : IsPlain line) : isExit line = false := by
  obtain ⟨-, -, -, -, hexit⟩ := h
  simpa [isExit] using hexit

lemma unnumbered_reportText_lineResults (env : Environment) (lines : List String) (n : Nat) :
    unnumbered (reportText (((lineResults env lines).zipIdx n).flatMap fun p =>
        p.1.reports (.failedAt p.2))) =
      reportText ((lineResults env lines).flatMap (LineResult.reports .failed)) := by
  induction lines generalizing env n with
  | nil => exact unnumbered_nil
  | cons line rest ih =>
    rw [lineResults, List.zipIdx_cons, List.flatMap_cons, List.flatMap_cons, reportText_append,
      reportText_append, unnumbered_reports, ih]

/-- A file of lines and the interactive loop over them, from the same variables: both leave the same
variables. A line with a value is printed with its number in a file, and answered with the value in
the loop; any other line prints nothing in a file, and is answered with `0`. The error texts differ
in the line numbers only. -/
theorem runInput_agrees_respond {s t : Session} (hs : s.Works) (ht : t.Works)
    (henv : s.env = t.env) {lines : List String} (hlines : ∀ line ∈ lines, IsPlain line) :
    let file := Session.runInput (.content (lines.flatMap lineBytes)) s
    let live := lines.mapM Session.respond t
    let results := lineResults s.env lines
    let text := reportText ((results.zipIdx 1).flatMap fun p => p.1.reports (.failedAt p.2))
    (∃ summary, file.value = .ok summary) ∧
    live.value = lines.map (fun _ => .ok .goOn) ∧
    file.session.env = live.session.env ∧
    file.printBytes = ((results.zipIdx 1).flatMap fun p => p.1.printedAt p.2).flatMap lineBytes ∧
    live.printBytes = (results.map LineResult.answer).flatMap lineBytes ∧
    file.errorBytes = Text.bytes text ∧ live.errorBytes = Text.bytes (unnumbered text) := by
  have hread : (Input.content (lines.flatMap lineBytes)).lines = lines.map .ok :=
    Input.lines_content fun line hline => ⟨(hlines line hline).1, (hlines line hline).2.1⟩
  obtain ⟨hsummary, hfileEnv, hfile⟩ :=
    Session.runLines_writes hs (fun line hline => (hlines line hline).not_isSkipped) 1
  obtain ⟨hvalues, hliveEnv, hlive⟩ :=
    Session.mapM_respond_writes ht fun line hline => (hlines line hline).not_isExit
  rw [← henv] at hliveEnv hlive
  rw [Session.runInput, hread]
  refine ⟨hsummary, hvalues, hfileEnv.trans hliveEnv.symm, hfile.print, hlive.print,
    hfile.error.trans (bytes_reportText _), ?_⟩
  rw [unnumbered_reportText_lineResults, hlive.error, bytes_reportText]

/-- Three lines with the variable `y`: a value, a failure after an unknown character, and another
failure. -/
theorem runInput_agrees_respond_three :
    let lines := ["x = y / 2", "x / 0 é", "z * (1"]
    let s : Session := { env := (∅ : Environment).set "y" 3 }
    let t : Session := { env := (∅ : Environment).set "y" 3, print := ⟨fun i => 4 ≤ i, 4⟩ }
    let file := Session.runInput (.content (lines.flatMap lineBytes)) s
    let live := lines.mapM Session.respond t
    s.Works ∧ t.Works ∧ (∀ line ∈ lines, IsPlain line) ∧
      live.value = [.ok .goOn, .ok .goOn, .ok .goOn] ∧ file.session.env = live.session.env ∧
      ∃ text, file.errorBytes = Text.bytes text ∧
        live.errorBytes = Text.bytes (unnumbered text) := by
  intro lines s t file live
  have hs : s.Works := ⟨fun _ _ => rfl, fun _ _ => rfl⟩
  have ht : t.Works := ⟨fun _ hi => decide_eq_true hi, fun _ _ => rfl⟩
  have hlines : ∀ line ∈ lines, IsPlain line := by decide
  obtain ⟨-, hvalue, henv, -, -, herror⟩ := runInput_agrees_respond hs ht rfl hlines
  exact ⟨hs, ht, hlines, hvalue, henv, _, herror⟩

end LineCalculator
