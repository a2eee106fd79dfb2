import LineCalculator.Proofs.Session.Accounting
import LineCalculator.Proofs.Session.Renumbering

/-!
# Cutting a file

A file that is cut at the end of a line can be run in two parts. The lines of the whole are those of
the parts, and each of them comes to the same: the second part begins with the variables that the
first one leaves, and its lines are numbered from one again.
-/
namespace LineCalculator

lemma unskipped_append (lines more : List String) :
    unskipped (lines ++ more) = unskipped lines ++ unskipped more := List.filter_append _ _

lemma Input.lines_content_append {front : List UInt8}
    (h : front = [] ∨ front.getLast? = some Text.lineFeed) (back : List UInt8) :
    (content (front ++ back)).lines = (content front).lines ++ (content back).lines := by
  rw [lines, lines, lines, rawLines, rawLines, rawLines, Text.rawLines_append h, List.map_append,
    List.map_append]

lemma Input.exists_lines_content {bytes : List UInt8}
    (h : ∀ raw ∈ Text.rawLines bytes, Text.IsUtf8 raw) :
    ∃ texts : List String, (content bytes).lines = texts.map .ok ∧
      texts.length = (Text.rawLines bytes).length := by
  have hall : utf8Count bytes = (Text.rawLines bytes).length := by
    rw [utf8Count, List.takeWhile_eq_self_iff.mpr fun raw hraw => decide_eq_true (h raw hraw)]
  have hlength : (content bytes).lines.length = (Text.rawLines bytes).length := by
    rw [lines, rawLines, List.length_map, List.length_map]
  have htake := take_length_readable (content bytes).lines
  rw [(readable_content bytes).1, hall, ← hlength, List.take_length] at htake
  exact ⟨_, htake, (readable_content bytes).1.trans hall⟩

/-- A file cut at the end of a line, the first part being UTF-8, and run in two parts: the summaries
add up, the variables are those of the whole, and both channels get what they get of the whole but
for the numbers of the lines of the second part, which are lower by the lines of the first. -/
theorem runInput_append {s : Session} (h : s.Works) {front : List UInt8}
    (hend : front = [] ∨ front.getLast? = some Text.lineFeed)
    (hutf8 : ∀ raw ∈ Text.rawLines front, Text.IsUtf8 raw) (back : List UInt8) :
    let first := Session.runInput (.content front) s
    let next := Session.runInput (.content back) first.session
    let whole := Session.runInput (.content (front ++ back)) s
    let k := (Text.rawLines front).length
    (∃ a b : Summary, first.value = .ok a ∧ next.value = .ok b ∧
      whole.value =
        .ok ⟨a.evaluated + b.evaluated, a.skipped + b.skipped, a.failed + b.failed⟩) ∧
    whole.session.env = next.session.env ∧
    (∃ printed : List String, (∀ line ∈ printed, '\n' ∉ line.toList) ∧
      next.printBytes = printed.flatMap lineBytes ∧
      whole.printBytes = first.printBytes ++ (printed.map (raiseNumber k)).flatMap lineBytes) ∧
    ∃ reported : List String, (∀ line ∈ reported, '\n' ∉ line.toList) ∧
      next.errorBytes = reported.flatMap lineBytes ∧
      whole.errorBytes = first.errorBytes ++ (reported.map (raiseNumber k)).flatMap lineBytes := by
  intro first next whole k
  obtain ⟨lines, hlines, hk⟩ := Input.exists_lines_content hutf8
  have hfirst : first.Accounts 1 s.env (lines.map .ok) := by
    rw [← hlines]
    exact Session.runLines_accounts h 1 _
  have hnext := Session.runLines_accounts hfirst.writes.works 1 (Input.content back).lines
  have hwhole : whole.Accounts 1 s.env (lines.map .ok ++ (Input.content back).lines) := by
    rw [← hlines, ← Input.lines_content_append hend]
    exact Session.runLines_accounts h 1 _
  obtain ⟨hsummary, henv, hwrites⟩ := hwhole
  rw [hfirst.env] at hnext
  rw [runReported_append, readable_append, fileResults_append] at hwrites
  rw [readable_append] at hsummary henv
  rw [fileResults_append, Summary.ofResults_append] at hsummary
  rw [unskipped_append, envAfter_append] at henv
  have hvalue := hfirst.value
  have hprint := hfirst.writes.print
  rw [readable_map_ok] at hvalue hprint hnext
  refine ⟨⟨_, _, hvalue, hnext.value, hsummary⟩, henv.trans hnext.env.symm,
    ⟨_, fun line => isOneLine_of_mem_filePrinted, hnext.writes.print, ?_⟩,
    ⟨(runReported 1 (envAfter s.env (unskipped lines)) (Input.content back).lines).map
      Diagnostic.message, fun line hline => ?_, ?_, ?_⟩⟩
  · rw [hwrites.print, filePrinted_append, List.flatMap_append, length_fileResults, hk,
      filePrinted_add, hprint]
  · obtain ⟨d, hd, rfl⟩ := List.mem_map.mp hline
    exact isOneLine_of_mem_runReported hd
  · rw [List.flatMap_map]
    exact hnext.writes.error
  · rw [← message_runReported_add, List.flatMap_map, hwrites.error, List.flatMap_append,
      hfirst.writes.error, hk]

/-- A file of five lines with the variable `y`, cut after the second: an assignment and a comment,
then a value with an unknown character, a failure, and a line that is not UTF-8. -/
theorem runInput_append_five :
    let front := ["x = y", "# note"].flatMap lineBytes
    let back := ["x + y €", "x / z"].flatMap lineBytes ++ [0xC3, 0x28]
    let s : Session := { env := (∅ : Environment).set "y" 3, error := ⟨fun i => 4 ≤ i, 4⟩ }
    let first := Session.runInput (.content front) s
    let next := Session.runInput (.content back) first.session
    let whole := Session.runInput (.content (front ++ back)) s
    s.Works ∧ front.getLast? = some Text.lineFeed ∧
      (∀ raw ∈ Text.rawLines front, Text.IsUtf8 raw) ∧
      first.value = .ok ⟨1, 1, 0⟩ ∧ next.value = .ok ⟨1, 0, 1⟩ ∧ whole.value = .ok ⟨2, 1, 1⟩ ∧
      whole.session.env = next.session.env ∧
      first.printBytes = lineBytes "Line 1: 3" ∧ next.printBytes = lineBytes "Line 1: 6" ∧
      whole.printBytes = ["Line 1: 3", "Line 3: 6"].flatMap lineBytes ∧ first.errorBytes = [] ∧
      next.errorBytes = ["Unknown character: €", "Error at line 2: Undefined variable: `z`",
        "Could not read line 3: stream did not contain valid UTF-8"].flatMap lineBytes ∧
      whole.errorBytes = ["Unknown character: €", "Error at line 4: Undefined variable: `z`",
        "Could not read line 5: stream did not contain valid UTF-8"].flatMap lineBytes := by
  intro front back s first next whole
  have hs : s.Works := ⟨fun _ _ => rfl, fun _ hi => decide_eq_true hi⟩
  have hend : front.getLast? = some Text.lineFeed := by decide +kernel
  have hutf8 : ∀ raw ∈ Text.rawLines front, Text.IsUtf8 raw := by decide +kernel
  have hk : (Text.rawLines front).length = 2 := by decide +kernel
  have hfront : (Input.content front).lines = [.ok "x = y", .ok "# note"] := by decide +kernel
  have hback : (Input.content back).lines =
      [.ok "x + y €", .ok "x / z", .error .invalidText] := by decide +kernel
  have hx : lineOutcome s.env "x = y" = (.ok 3, s.env.set "x" 3) := by cbv
  have hsum : lineOutcome (s.env.set "x" 3) "x + y €" = (.ok (3 + 3), s.env.set "x" 3) := by
    have hparse : parse (scan "x + y €").items =
        .ok ⟨.binary (.var "x") .plus (.var "y"), [Item.closing "x + y €"]⟩ := by cbv
    rw [lineOutcome, hparse]
    rfl
  have hz : (lineOutcome (s.env.set "x" 3) "x / z").1 =
      .error (.evaluation (.undefinedVariable "z")) := by cbv
  have hfirst : first.Accounts 1 s.env [.ok "x = y", .ok "# note"] := by
    rw [← hfront]
    exact Session.runLines_accounts hs 1 _
  have hfronts : fileResults s.env ["x = y", "# note"] = [some ⟨"x = y", .ok 3⟩, none] := by
    rw [fileResults_cons (by decide +kernel), fileResults_cons_of_isSkipped (by decide +kernel), hx]
    rfl
  have henv : first.session.env = s.env.set "x" 3 := by
    have hlines : unskipped (readable [.ok "x = y", .ok "# note"]) = ["x = y"] := by
      decide +kernel
    rw [hfirst.env, hlines, envAfter_cons, hx]
    rfl
  have hnext : next.Accounts 1 (s.env.set "x" 3)
      [.ok "x + y €", .ok "x / z", .error .invalidText] := by
    rw [← hback, ← henv]
    exact Session.runLines_accounts hfirst.writes.works 1 _
  have hbacks : fileResults (s.env.set "x" 3) ["x + y €", "x / z"] =
      [some ⟨"x + y €", .ok (3 + 3)⟩,
        some ⟨"x / z", .error (.evaluation (.undefinedVariable "z"))⟩] := by
    rw [fileResults_cons (by decide +kernel), hsum, fileResults_cons (by decide +kernel), hz]
    rfl
  obtain ⟨hvalue, hprint, herror⟩ := hfirst.of_fileResults hfronts
  obtain ⟨hvalue', hprint', herror'⟩ := hnext.of_fileResults hbacks
  -- What the second part writes are these lines, and the whole writes them with other numbers.
  obtain ⟨⟨a, b, ha, hb, hsummary⟩, hsession, ⟨printed, hone, hprinted, hall⟩,
    reported, hone', hreported, hall'⟩ := runInput_append hs (.inr hend) hutf8 back
  have hprints : next.printBytes = ["Line 1: 6"].flatMap lineBytes :=
    hprint'.trans (by decide +kernel)
  have herrors : next.errorBytes = ["Unknown character: €",
      "Error at line 2: Undefined variable: `z`",
      "Could not read line 3: stream did not contain valid UTF-8"].flatMap lineBytes :=
    herror'.trans (by decide +kernel)
  obtain rfl := eq_of_flatMap_lineBytes hone (by decide +kernel) (hprinted.symm.trans hprints)
  obtain rfl := eq_of_flatMap_lineBytes hone' (by decide +kernel) (hreported.symm.trans herrors)
  obtain rfl := Except.ok.inj (ha.symm.trans hvalue)
  obtain rfl := Except.ok.inj (hb.symm.trans hvalue')
  rw [hk, hprint] at hall
  rw [hk, herror] at hall'
  exact ⟨hs, hend, hutf8, hvalue, hvalue', hsummary, hsession, hprint.trans (by decide +kernel),
    hprints, hall.trans (by decide +kernel), herror.trans (by decide +kernel), herrors,
    hall'.trans (by decide +kernel)⟩

end LineCalculator
