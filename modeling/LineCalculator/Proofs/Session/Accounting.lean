import LineCalculator.Proofs.Session.OneLine

/-!
# The account of a file

The summary of a run, the results that it prints and the diagnostics that it reports all count the
same lines, those before the first one that is not UTF-8. `runInput_accounts` puts them side by
side, down to the line feeds on both channels.
-/
namespace LineCalculator

section Readable

lemma take_length_readable (lines : List (Except Fault String)) :
    lines.take (readable lines).length = (readable lines).map .ok := by
  induction lines with
  | nil => rfl
  | cons line rest ih =>
    cases line with
    | error fault => rfl
    | ok line => rw [readable, List.length_cons, List.take_succ_cons, ih, List.map_cons]

/-- The number of lines before the first one that is not UTF-8. -/
def utf8Count (bytes : List UInt8) : Nat :=
  ((Text.rawLines bytes).takeWhile (Text.IsUtf8 ·)).length

lemma readable_content (bytes : List UInt8) :
    (readable (Input.content bytes).lines).length = utf8Count bytes ∧
      firstFault? (Input.content bytes).lines =
        if utf8Count bytes < (Text.rawLines bytes).length then some .invalidText else none := by
  unfold utf8Count
  change (readable (((Text.rawLines bytes).map Text.decode).map _)).length = _ ∧
    firstFault? (((Text.rawLines bytes).map Text.decode).map _) = _
  induction Text.rawLines bytes with
  | nil => exact ⟨rfl, rfl⟩
  | cons raw rest ih =>
    by_cases hraw : Text.IsUtf8 raw
    · obtain ⟨text, htext⟩ := Text.exists_decode_of_isUtf8 hraw
      rw [List.map_cons, List.map_cons, htext, List.takeWhile_cons_of_pos (by simpa using hraw)]
      simpa [Except.map, readable, firstFault?] using ih
    · rw [List.map_cons, List.map_cons, Text.decode_of_not_isUtf8 hraw,
        List.takeWhile_cons_of_neg (by simpa using hraw)]
      exact ⟨rfl, rfl⟩

end Readable

namespace Summary

lemma total_ofResults (rs : List (Option LineResult)) :
    (ofResults rs).evaluated + (ofResults rs).skipped + (ofResults rs).failed = rs.length := by
  have hone : ∀ r, (ofResult r).evaluated + (ofResult r).skipped + (ofResult r).failed = 1 := by
    intro r
    rcases r with _ | ⟨line, _ | v⟩ <;> rfl
  induction rs with
  | nil => rfl
  | cons r rs ih =>
    have hr := hone r
    rw [ofResults, List.length_cons, add_evaluated, add_skipped, add_failed]
    omega

lemma skipped_ofResults (env : Environment) (lines : List String) :
    (ofResults (fileResults env lines)).skipped = lines.countP isSkipped := by
  induction lines generalizing env with
  | nil => rfl
  | cons line lines ih =>
    cases h : isSkipped line with
    | true =>
      rw [fileResults_cons_of_isSkipped h, ofResults, add_skipped, ih, List.countP_cons_of_pos h,
        Nat.add_comm]
      rfl
    | false =>
      rw [fileResults_cons h, ofResults, add_skipped, ih, List.countP_cons_of_neg (by simp [h])]
      cases (lineOutcome env line).1 <;> exact Nat.zero_add _

end Summary

/-- The numbers and the values of the lines that have one, the first of them being line `n`. -/
def numberedValues (n : Nat) (rs : List (Option LineResult)) : List (Nat × Float) :=
  (rs.zipIdx n).filterMap fun p => (p.1.bind fun r => r.result.toOption).map (p.2, ·)

section NumberedValues
variable (n : Nat) (rs : List (Option LineResult))

lemma numberedValues_cons (r : Option LineResult) :
    numberedValues n (r :: rs) =
      ((r.bind fun r => r.result.toOption).map (n, ·)).toList ++ numberedValues (n + 1) rs := by
  rw [numberedValues, List.zipIdx_cons, List.filterMap_cons]
  cases r.bind fun r => r.result.toOption <;> rfl

lemma filePrinted_eq :
    filePrinted n rs = (numberedValues n rs).map fun p => Session.resultLine p.1 p.2 := by
  induction rs generalizing n with
  | nil => rfl
  | cons r rs ih =>
    rw [filePrinted_cons, numberedValues_cons, List.map_append, ih]
    rcases r with _ | ⟨line, _ | v⟩ <;> rfl

lemma length_numberedValues :
    (numberedValues n rs).length = (Summary.ofResults rs).evaluated := by
  induction rs generalizing n with
  | nil => rfl
  | cons r rs ih =>
    rw [numberedValues_cons, List.length_append, ih, Summary.ofResults, Summary.add_evaluated]
    rcases r with _ | ⟨line, _ | v⟩ <;> rfl

lemma pairwise_numberedValues : (numberedValues n rs).Pairwise fun p q => p.1 < q.1 := by
  have hplaces : (rs.zipIdx n).Pairwise fun p q => p.2 < q.2 := by
    rw [← List.pairwise_map, List.zipIdx_map_snd]
    exact List.pairwise_lt_range'
  refine hplaces.filterMap _ fun p q hlt a ha b hb => ?_
  obtain ⟨v, -, rfl⟩ := Option.map_eq_some_iff.mp ha
  obtain ⟨w, -, rfl⟩ := Option.map_eq_some_iff.mp hb
  exact hlt

lemma mem_numberedValues {m : Nat} {v : Float} :
    (m, v) ∈ numberedValues n rs ↔
      ∃ i line, m = n + i ∧ rs[i]? = some (some ⟨line, .ok v⟩) := by
  rw [numberedValues, List.mem_filterMap]
  constructor
  · rintro ⟨⟨r, k⟩, hmem, hvalue⟩
    obtain ⟨hle, hget⟩ := List.mk_mem_zipIdx_iff_le_and_getElem?_sub.mp hmem
    obtain ⟨w, hw, heq⟩ := Option.map_eq_some_iff.mp hvalue
    obtain ⟨rfl, rfl⟩ := Prod.mk.inj heq
    rcases r with _ | ⟨line, _ | v⟩
    · exact absurd hw nofun
    · exact absurd hw nofun
    · obtain rfl : v = w := Option.some.inj hw
      exact ⟨k - n, line, (Nat.add_sub_cancel' hle).symm, hget⟩
  · rintro ⟨i, line, rfl, hget⟩
    refine ⟨(some ⟨line, .ok v⟩, n + i), ?_, rfl⟩
    rw [List.mk_mem_zipIdx_iff_le_and_getElem?_sub, Nat.add_sub_cancel_left]
    exact ⟨Nat.le_add_right n i, hget⟩

end NumberedValues

lemma getElem?_fileResults_ok {env : Environment} {lines : List String} {i : Nat} {line : String}
    {v : Float} :
    (fileResults env lines)[i]? = some (some ⟨line, .ok v⟩) ↔
      lines[i]? = some line ∧ isSkipped line = false ∧
        (lineOutcome (envAfter env (unskipped (lines.take i))) line).1 = .ok v := by
  rw [fileResults, List.getElem?_mapIdx, Option.map_eq_some_iff]
  constructor
  · rintro ⟨line', hline, hresult⟩
    cases h : isSkipped line' with
    | true => simp [h] at hresult
    | false =>
      simp only [h, Bool.false_eq_true, if_false, Option.some.injEq, LineResult.mk.injEq] at hresult
      obtain ⟨rfl, hv⟩ := hresult
      exact ⟨hline, h, hv⟩
  · rintro ⟨hline, h, hv⟩
    exact ⟨line, hline, by simp [h, hv]⟩

/-- What the error channel gets for line `n`: its unknown characters one by one, and then its
failure. -/
def errorLines (n : Nat) (r : LineResult) : List String :=
  ((scan r.line).unknown.map fun u => "Unknown character: " ++ String.singleton u.char) ++
    match r.result with
    | .ok _ => []
    | .error e => ["Error at line " ++ toString n ++ ": " ++ e.message]

lemma map_message_fileReported (n : Nat) (rs : List (Option LineResult)) :
    (fileReported n rs).map Diagnostic.message =
      (rs.zipIdx n).flatMap fun p => p.1.elim [] (errorLines p.2) := by
  rw [fileReported, List.map_flatMap]
  refine congrArg (List.flatMap · _) (funext fun p => ?_)
  obtain ⟨r, k⟩ := p
  rcases r with _ | ⟨line, result⟩
  · rfl
  · rw [Option.elim_some, Option.elim_some, LineResult.reports, List.map_append, List.map_map,
      errorLines]
    cases result <;> rfl

lemma length_fileReported (n : Nat) (env : Environment) (lines : List String) :
    (fileReported n (fileResults env lines)).length =
      ((unskipped lines).map fun line => (scan line).unknown.length).sum +
        (Summary.ofResults (fileResults env lines)).failed := by
  induction lines generalizing n env with
  | nil => rfl
  | cons line lines ih =>
    cases h : isSkipped line with
    | true =>
      rw [fileResults_cons_of_isSkipped h, fileReported_cons, unskipped_cons_of_isSkipped h,
        Summary.ofResults, Summary.add_failed, List.length_append, ih]
      simp [Summary.ofResult]
    | false =>
      have hline : (LineResult.reports (.failedAt n) ⟨line, (lineOutcome env line).1⟩).length =
          (scan line).unknown.length +
            (Summary.ofResult (some ⟨line, (lineOutcome env line).1⟩)).failed := by
        rw [LineResult.reports, List.length_append, List.length_map]
        cases (lineOutcome env line).1 <;> rfl
      rw [fileResults_cons h, fileReported_cons, unskipped_cons h, Summary.ofResults,
        Summary.add_failed, List.length_append, ih, Option.elim_some, hline, List.map_cons,
        List.sum_cons]
      omega

lemma length_runReported (env : Environment) (bytes : List UInt8) :
    (runReported 1 env (Input.content bytes).lines).length =
      ((unskipped (readable (Input.content bytes).lines)).map fun line =>
        (scan line).unknown.length).sum +
      (Summary.ofResults (fileResults env (readable (Input.content bytes).lines))).failed +
        if utf8Count bytes < (Text.rawLines bytes).length then 1 else 0 := by
  rw [runReported, List.length_append, length_fileReported, (readable_content bytes).2]
  split_ifs <;> rfl

/-- The last line of the error channel, if there is a line that cannot be read. -/
def unreadLine (bytes : List UInt8) : List String :=
  if utf8Count bytes < (Text.rawLines bytes).length then
    ["Could not read line " ++ toString (utf8Count bytes + 1) ++ ": " ++
      "stream did not contain valid UTF-8"]
  else []

lemma map_message_runReported (env : Environment) (bytes : List UInt8) :
    (runReported 1 env (Input.content bytes).lines).map Diagnostic.message =
      (((fileResults env (readable (Input.content bytes).lines)).zipIdx 1).flatMap fun p =>
        p.1.elim [] (errorLines p.2)) ++ unreadLine bytes := by
  obtain ⟨hcount, hfault⟩ := readable_content bytes
  rw [runReported, hfault, hcount, List.map_append, map_message_fileReported, unreadLine,
    Nat.add_comm 1]
  split_ifs <;> rfl

/-- The account of a run with working channels. The summary counts the lines before the first one
that is not UTF-8, each of them once, and as skipped the blank ones and the comments. Each line with
a value is printed with its number, in order, its value being the one that it has after the lines
before it. The error channel gets the unknown characters and the failure of each line that is not
skipped, and last the line that cannot be read. -/
theorem runInput_accounts {s : Session} (h : s.Works) (bytes : List UInt8) :
    let run := Session.runInput (.content bytes) s
    ∃ (lines : List String) (summary : Summary) (printed : List (Nat × Float)),
      (Input.content bytes).lines.take (utf8Count bytes) = lines.map .ok ∧
      run.value = .ok summary ∧
      run.session.env = envAfter s.env (unskipped lines) ∧
      summary.evaluated + summary.skipped + summary.failed = utf8Count bytes ∧
      summary.skipped = lines.countP (fun line =>
        line.toList.all Text.isWhiteSpace || line.toList.head? == some '#') ∧
      printed.length = summary.evaluated ∧
      (printed.Pairwise fun p q => p.1 < q.1) ∧
      (∀ n v, (n, v) ∈ printed ↔ ∃ i line, n = i + 1 ∧ lines[i]? = some line ∧
        isSkipped line = false ∧
        (lineOutcome (envAfter s.env (unskipped (lines.take i))) line).1 = .ok v) ∧
      run.printBytes =
        (printed.map fun p => "Line " ++ toString p.1 ++ ": " ++ display p.2).flatMap lineBytes ∧
      run.printBytes.count Text.lineFeed = summary.evaluated ∧
      run.errorBytes =
        ((((fileResults s.env lines).zipIdx 1).flatMap fun p => p.1.elim [] (errorLines p.2)) ++
          unreadLine bytes).flatMap lineBytes ∧
      run.errorBytes.count Text.lineFeed =
        ((unskipped lines).map fun line => (scan line).unknown.length).sum + summary.failed +
          if utf8Count bytes < (Text.rawLines bytes).length then 1 else 0 := by
  intro run
  obtain ⟨hvalue, henv, hwrites⟩ := Session.runLines_accounts h 1 (Input.content bytes).lines
  have hcount := (readable_content bytes).1
  have hprint : run.printBytes = (filePrinted 1 (fileResults s.env
      (readable (Input.content bytes).lines))).flatMap lineBytes := hwrites.print
  have herror : run.errorBytes = ((runReported 1 s.env (Input.content bytes).lines).map
      Diagnostic.message).flatMap lineBytes := by
    rw [List.flatMap_map]
    exact hwrites.error
  refine ⟨readable (Input.content bytes).lines, _, numberedValues 1 (fileResults s.env _), ?_,
    hvalue, henv, ?_, ?_, length_numberedValues _ _, pairwise_numberedValues _ _, fun n v => ?_,
    ?_, ?_, ?_, ?_⟩
  · rw [← hcount, take_length_readable]
  · rw [Summary.total_ofResults, length_fileResults, hcount]
  · rw [Summary.skipped_ofResults]
    rfl
  · simp only [mem_numberedValues, getElem?_fileResults_ok, Nat.add_comm 1]
  · rw [hprint, filePrinted_eq]
    rfl
  · rw [hprint, count_lineFeed_flatMap_lineBytes fun line => isOneLine_of_mem_filePrinted,
      filePrinted_eq, List.length_map, length_numberedValues]
  · rw [herror, map_message_runReported]
  · rw [herror, count_lineFeed_flatMap_lineBytes, List.length_map, length_runReported]
    intro line hline
    obtain ⟨d, hd, rfl⟩ := List.mem_map.mp hline
    exact isOneLine_of_mem_runReported hd

/-- Seven lines with the variable `y`: a value with two unknown characters, a blank line, a comment,
a failure, another value, a line that is not UTF-8, and one that is not reached. -/
theorem runInput_accounts_seven :
    let bytes := ["x = y € ?", " ", "# note", "x / z", "x\r"].flatMap lineBytes ++
      [0xFF, Text.lineFeed] ++ lineBytes "y"
    let s : Session := { env := (∅ : Environment).set "y" 3, print := ⟨fun i => 4 ≤ i, 4⟩ }
    let run := Session.runInput (.content bytes) s
    s.Works ∧ ∃ summary, run.value = .ok summary ∧
      summary.evaluated + summary.skipped + summary.failed = 5 ∧ summary.skipped = 2 ∧
      run.printBytes.count Text.lineFeed = summary.evaluated ∧
      run.errorBytes.count Text.lineFeed = summary.failed + 3 := by
  intro bytes s run
  have hs : s.Works := ⟨fun _ hi => decide_eq_true hi, fun _ _ => rfl⟩
  have hcount : utf8Count bytes = 5 := by decide +kernel
  have hlines : (Input.content bytes).lines.take 5 =
      ["x = y € ?", " ", "# note", "x / z", "x"].map .ok := by decide +kernel
  obtain ⟨lines, summary, printed, htake, hvalue, -, htotal, hskipped, -, -, -, -, hprint, -,
    herror⟩ := runInput_accounts hs bytes
  rw [hcount, hlines] at htake
  obtain rfl := (List.map_inj_right fun _ _ h => Except.ok.inj h).mp htake
  rw [hcount] at htotal
  refine ⟨hs, summary, hvalue, htotal, hskipped.trans (by decide +kernel), hprint, ?_⟩
  have hunknown : ((unskipped ["x = y € ?", " ", "# note", "x / z", "x"]).map fun line =>
      (scan line).unknown.length).sum = 2 := by decide +kernel
  have hfault : (if utf8Count bytes < (Text.rawLines bytes).length then 1 else 0) = 1 := by
    decide +kernel
  rw [herror, hunknown, hfault]
  omega

end LineCalculator
