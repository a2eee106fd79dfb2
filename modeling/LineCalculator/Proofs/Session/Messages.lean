import LineCalculator.Proofs.Session.OneLine

/-!
# Messages about a line

What a message quotes from a line is a token or an unknown character, so no message has the words
of a line number in it. Without the numbers a file reports its lines as the interactive loop does.
-/
namespace LineCalculator

lemma Span.unmarked_text (s : Span) : Unmarked s.text.toList := by
  have hnumber : ∀ n : Nat, 'E' ∉ (toString n).toList := fun n h =>
    absurd (isDigit_of_mem_toString h) (by decide)
  refine .of_not_mem (by decide : 'E' ∈ numberMark) ?_
  simp only [text, String.toList_append, List.mem_append, not_or]
  exact ⟨⟨⟨⟨by decide, hnumber _⟩, by decide⟩, hnumber _⟩, by decide⟩

lemma Span.getLast?_text (s : Span) : s.text.toList.getLast?.any (· ∉ numberMark) = true := by
  have hlast : s.text.toList.getLast? = some ']' := by
    rw [text, String.toList_append, List.getLast?_append]
    rfl
  rw [hlast]
  decide

lemma Span.head?_text (s : Span) : s.text.toList.head?.all (· ∉ numberMark) = true := by
  have hhead : s.text.toList.head? = some '[' := by simp [text]
  rw [hhead]
  decide

lemma Unmarked.append_span {s : String} (hs : Unmarked s.toList) (span : Span) :
    Unmarked (s ++ span.text).toList := hs.append_head span.unmarked_text span.head?_text

-- Tokens are without the blank that the words have.
lemma unmarked_of_wellFormed {t : Token} {cs : List Char} (h : (Segment.token t cs).WellFormed) :
    Unmarked cs := by
  refine .of_not_mem (by decide : ' ' ∈ numberMark) fun hmem => ?_
  exact absurd (Segment.isWhiteSpace_of_mem_token h hmem) (by decide)

lemma unmarked_lexeme {line : String} {i : Item} (h : i ∈ (scan line).items) :
    Unmarked i.lexeme.toList := by
  by_cases ht : i.token = .endOfInput
  · rcases List.mem_append.mp h with h | h
    · exact absurd ht (item_slice h).1
    · obtain rfl := List.mem_singleton.mp h
      exact .of_not_mem (by decide : ' ' ∈ numberMark) (by simp)
  · exact unmarked_of_wellFormed (wellFormed_of_mem_items h ht)

lemma unmarked_label {i : Item} (h : Unmarked i.lexeme.toList) : Unmarked i.label.toList := by
  unfold Item.label
  split
  · cases i.token <;> decide
  · exact h

lemma ParseError.unmarked_message {e : ParseError} {i : Item} (h : e.Names i)
    (hi : Unmarked i.lexeme.toList) : Unmarked e.message.toList := by
  have hlabel := unmarked_label hi
  cases e with
  | malformedNumber lexeme span =>
    obtain ⟨rfl, rfl⟩ := h
    have hquote : Unmarked ("Unable to parse `" ++ i.lexeme ++ "` to number at position ").toList :=
      .quoting (by decide) hi (by decide) (by decide) (by decide)
    exact hquote.append_span i.span
  | numberOutOfRange lexeme span =>
    obtain ⟨rfl, rfl⟩ := h
    have hquote : Unmarked ("Number literal `" ++ i.lexeme ++ "` at position ").toList :=
      .quoting (by decide) hi (by decide) (by decide) (by decide)
    exact hquote.between i.span.unmarked_text (by decide) i.span.head?_text i.span.getLast?_text
  | unexpected found span =>
    obtain ⟨rfl, rfl⟩ := h
    have hquote : Unmarked ("Unexpected token: `" ++ i.label ++ "` at position ").toList :=
      .quoting (by decide) hlabel (by decide) (by decide) (by decide)
    exact hquote.append_span i.span
  | unclosed opening found span =>
    obtain ⟨rfl, rfl⟩ := h
    have hopening : Unmarked ("Expected closing parenthesis for `(` at position " ++
        opening.text).toList := .append_span (by decide) opening
    have hfound : Unmarked ("Expected closing parenthesis for `(` at position " ++ opening.text ++
        ", found `" ++ i.label).toList :=
      hopening.between (by decide) hlabel (by decide) (by decide)
    exact (hfound.append_head (by decide) (by decide)).append_span i.span
  | outOfItems => exact absurd h id

theorem unmarked_failure {env : Environment} {line : String} {e : LineError}
    (h : (lineOutcome env line).1 = .error e) : Unmarked e.message.toList := by
  rcases cases_of_lineOutcome h with ⟨err, rfl, herr⟩ | ⟨err, rfl, herr⟩
  · obtain ⟨early, -, ⟨rfl, -⟩ | ⟨i, rest, hnames, hitems, -⟩⟩ := Grammar.exists_of_parse_error herr
    · decide
    · have hmem : i ∈ (scan line).items := by simp [hitems]
      exact ParseError.unmarked_message hnames (unmarked_lexeme hmem)
  · cases err with
    | undefinedVariable x =>
      have hname := @unmarked_of_wellFormed .identifier _ herr
      exact .quoting (by decide) hname (by decide) (by decide) (by decide)
    | divisionByZero => decide
    | unknownOperator t => exact absurd herr id

lemma unmarked_unknown {line : String} {u : UnknownCharacter} (h : u ∈ (scan line).unknown) :
    Unmarked u.message.toList := by
  obtain ⟨p, hp, hu⟩ := List.mem_filterMap.mp h
  have hseg : p.segment ∈ segments line.toList := by
    rw [← map_segment_place 0 (segments line.toList)]
    exact List.mem_map_of_mem hp
  have hform := (maximalMunch_segments line.toList).formed _ hseg
  obtain ⟨offset, seg⟩ := p
  cases seg with
  | blank | token => simp [Placed.unknown?] at hu
  | unknown c =>
    obtain rfl : _ = u := Option.some.inj hu
    refine .of_not_mem (by decide : 'E' ∈ numberMark) ?_
    change 'E' ∉ ("Unknown character: " ++ String.singleton c).toList
    rw [String.toList_append, String.toList_singleton, List.mem_append, List.mem_singleton]
    rintro (hmem | rfl)
    · exact absurd hmem (by decide)
    · exact absurd hform.2.2.1 (by decide)

lemma afterNumber?_failedAt (n : Nat) (e : LineError) (rest : List Char) :
    afterNumber? ((Diagnostic.failedAt n e).message.toList ++ rest) =
      some (e.message.toList ++ rest) := by
  have hfront : ∀ front back : List Char, (front ++ back).dropPrefix? front = some back :=
    fun front back => List.dropPrefix?_append_of_beq back (beq_self_eq_true front)
  have hsplit : (Diagnostic.failedAt n e).message.toList ++ rest =
      numberMark ++ ((toString n).toList ++ (": ".toList ++ (e.message.toList ++ rest))) := by
    change ("Error at line " ++ toString n ++ ": " ++ e.message).toList ++ rest =
      "Error at line ".toList ++ _
    rw [String.toList_append, String.toList_append, String.toList_append, List.append_assoc,
      List.append_assoc, List.append_assoc]
  rw [afterNumber?, hsplit, hfront]
  simp only [Option.bind_eq_bind, Option.bind_some]
  rw [head?_number, dropWhile_isDigit_number, hfront]
  rfl

/-- Diagnostics as a text, one to a line. -/
def reportText (ds : List Diagnostic) : List Char := ds.flatMap fun d => d.message.toList ++ ['\n']

lemma reportText_append (ds ds' : List Diagnostic) :
    reportText (ds ++ ds') = reportText ds ++ reportText ds' := List.flatMap_append

lemma reportText_cons_append (d : Diagnostic) (ds : List Diagnostic) (rest : List Char) :
    reportText (d :: ds) ++ rest = d.message.toList ++ '\n' :: (reportText ds ++ rest) := by
  simp [reportText]

lemma bytes_reportText (ds : List Diagnostic) :
    (ds.flatMap fun d => lineBytes d.message) = Text.bytes (reportText ds) := by
  rw [Text.bytes, reportText, List.flatMap_assoc]
  refine congrArg (List.flatMap · ds) (funext fun d => ?_)
  rw [lineBytes_eq, Text.bytes, List.flatMap_append]
  rfl

lemma unnumbered_reportText {ds : List Diagnostic} (h : ∀ d ∈ ds, Unmarked d.message.toList)
    (rest : List Char) : unnumbered (reportText ds ++ rest) = reportText ds ++ unnumbered rest := by
  induction ds with
  | nil => rfl
  | cons d ds ih =>
    obtain ⟨hd, hds⟩ := List.forall_mem_cons.mp h
    rw [reportText_cons_append, reportText_cons_append, unnumbered_line hd, ih hds]

theorem unnumbered_reports (env : Environment) (line : String) (n : Nat) (rest : List Char) :
    unnumbered (reportText (LineResult.reports (.failedAt n) ⟨line, (lineOutcome env line).1⟩) ++
        rest) =
      reportText (LineResult.reports .failed ⟨line, (lineOutcome env line).1⟩) ++
        unnumbered rest := by
  have hunknown : ∀ d ∈ (scan line).unknown.map Diagnostic.unknownCharacter,
      Unmarked d.message.toList := by
    rintro _ hd
    obtain ⟨u, hu, rfl⟩ := List.mem_map.mp hd
    exact unmarked_unknown hu
  cases hr : (lineOutcome env line).1 with
  | ok v =>
    simp only [LineResult.reports, List.append_nil]
    exact unnumbered_reportText hunknown rest
  | error e =>
    simp only [LineResult.reports, reportText_append, List.append_assoc]
    rw [unnumbered_reportText hunknown, reportText_cons_append, reportText_cons_append,
      unnumbered_of_some (afterNumber?_failedAt n e _)]
    -- What follows the number is the message, in which there is no other.
    change _ ++ (_ ++ unnumbered (e.message.toList ++ '\n' :: rest)) =
      _ ++ (("Error: " ++ e.message).toList ++ '\n' :: unnumbered rest)
    rw [unnumbered_line (unmarked_failure hr), String.toList_append, List.append_assoc]

end LineCalculator
