import LineCalculator.Proofs.Grammar.Culprit
import LineCalculator.Proofs.Scan.Masking
import LineCalculator.Proofs.Session.Failures
import LineCalculator.Proofs.Session.FileRun
import LineCalculator.Proofs.Session.LineNumbers
import LineCalculator.Proofs.Text.Lines

/-!
# One line each

Results and diagnostics are written one to a line, and none of them has a line feed of its own. A
result is made of digits and a few signs. A diagnostic quotes tokens and unknown characters, which
are no white space.
-/
namespace LineCalculator

def IsOneLine (s : String) : Prop := '\n' ∉ s.toList

instance : DecidablePred IsOneLine := fun _ => inferInstanceAs (Decidable (¬ _))

lemma IsOneLine.append {s t : String} (hs : IsOneLine s) (ht : IsOneLine t) :
    IsOneLine (s ++ t) := by
  rw [IsOneLine, String.toList_append, List.mem_append, not_or]
  exact ⟨hs, ht⟩

lemma IsOneLine.of_isWhiteSpace {s : String} (h : ∀ c ∈ s.toList, Text.isWhiteSpace c = false) :
    IsOneLine s := fun hmem => absurd (h _ hmem) (by decide)

section Results

lemma isOneLine_toString (n : Nat) : IsOneLine (toString n) :=
  .of_isWhiteSpace fun _ hc => isWhiteSpace_of_isDigit (isDigit_of_mem_toString hc)

lemma isOneLine_number {mark : String} (h : IsOneLine mark) (n : Nat) :
    IsOneLine (mark ++ toString n ++ ": ") := .append (h.append (isOneLine_toString n)) (by decide)

def IsResultChar (c : Char) : Prop :=
  c.isDigit = true ∨ c ∈ ['.', '-', '+', 'e', 'n', 'a', 'i', 'f']

instance : DecidablePred IsResultChar := fun _ => inferInstanceAs (Decidable (_ ∨ _))

lemma isResultChar_of_all {cs : List Char} (h : cs.all (IsResultChar ·) = true) :
    ∀ c ∈ cs, IsResultChar c := fun c hc => of_decide_eq_true (List.all_eq_true.mp h c hc)

lemma Decimal.isResultChar_digits (count num den : Nat) :
    ∀ c ∈ (rounded count num den).digits, IsResultChar c := by
  intro c hc
  have hmem : c ∈ (Nat.toDigits 10 _).reverse :=
    (List.dropWhile_sublist _).subset (List.mem_reverse.mp hc)
  exact .inl (isDigit_of_mem_toDigits (List.mem_reverse.mp hmem))

lemma Decimal.isResultChar_positional {d : Decimal} (h : ∀ c ∈ d.digits, IsResultChar c) :
    ∀ c ∈ d.positional [], IsResultChar c := by
  have hzeros : ∀ n, ∀ c ∈ List.replicate n '0', IsResultChar c := by
    intro n c hc
    rw [List.eq_of_mem_replicate hc]
    decide
  unfold positional
  dsimp only
  split_ifs
  · simp only [List.forall_mem_cons, List.forall_mem_append]
    exact ⟨by decide, by decide, hzeros _, h⟩
  · simp only [List.append_nil, List.forall_mem_append]
    exact ⟨h, hzeros _⟩
  · simp only [List.forall_mem_cons, List.forall_mem_append]
    exact ⟨fun c hc => h c (List.mem_of_mem_take hc), by decide,
      fun c hc => h c (List.mem_of_mem_drop hc)⟩

lemma Decimal.isResultChar_leading {d : Decimal} (h : ∀ c ∈ d.digits, IsResultChar c) :
    ∀ c ∈ d.leading, IsResultChar c := by
  unfold leading
  split
  · rename_i first next rest hd
    rw [hd, List.forall_mem_cons] at h
    simp only [List.forall_mem_cons (a := first), List.forall_mem_cons (a := '.')]
    exact ⟨h.1, by decide, h.2⟩
  · exact h

namespace NumberStyle

lemma isResultChar_signedExponent (x : Int) : ∀ c ∈ signedExponent x, IsResultChar c := by
  have hdigits : ∀ c ∈ Nat.toDigits 10 x.natAbs, IsResultChar c := fun c hc =>
    .inl (isDigit_of_mem_toDigits hc)
  unfold signedExponent
  simp only [List.forall_mem_cons]
  refine ⟨by decide, ?_, ?_⟩
  · split_ifs <;> decide
  · split_ifs
    · rw [List.forall_mem_cons]
      exact ⟨by decide, hdigits⟩
    · exact hdigits

lemma isResultChar_magnitudeText (r : Nat) : ∀ c ∈ result.magnitudeText r, IsResultChar c := by
  have hdigits : ∀ c ∈ (result.decimal r).digits, IsResultChar c :=
    Decimal.isResultChar_digits 6 _ _
  unfold magnitudeText
  split_ifs
  · exact isResultChar_of_all (by decide)
  · exact isResultChar_of_all (by decide)
  · unfold positiveText
    dsimp only
    split_ifs
    · exact Decimal.isResultChar_positional hdigits
    · rw [List.forall_mem_append]
      exact ⟨Decimal.isResultChar_leading hdigits, isResultChar_signedExponent _⟩

end NumberStyle

lemma isResultChar_display (v : Float) : ∀ c ∈ (display v).toList, IsResultChar c := by
  have hsize := NumberStyle.isResultChar_magnitudeText (Binary64.rank v)
  rw [display, String.toList_ofList]
  unfold NumberStyle.text
  dsimp only
  split_ifs
  · exact isResultChar_of_all (by decide)
  · rw [List.forall_mem_cons]
    exact ⟨by decide, hsize⟩
  · exact hsize

lemma isOneLine_display (v : Float) : IsOneLine (display v) := fun hmem =>
  absurd (isResultChar_display v _ hmem) (by decide)

theorem isOneLine_of_mem_filePrinted {n : Nat} {rs : List (Option LineResult)} {line : String}
    (h : line ∈ filePrinted n rs) : IsOneLine line := by
  obtain ⟨⟨r, k⟩, -, hline⟩ := List.mem_flatMap.mp h
  rcases r with _ | ⟨text, _ | v⟩
  · exact absurd hline List.not_mem_nil
  · exact absurd hline List.not_mem_nil
  · obtain rfl := List.mem_singleton.mp hline
    exact (isOneLine_number (by decide) k).append (isOneLine_display v)

end Results

section Diagnostics

lemma Span.isOneLine_text (s : Span) : IsOneLine s.text := by
  have hfront : IsOneLine ("[" ++ toString s.start ++ ":") :=
    .append (.append (by decide) (isOneLine_toString _)) (by decide)
  exact .append (hfront.append (isOneLine_toString _)) (by decide)

lemma isOneLine_lexeme {line : String} {i : Item} (h : i ∈ (scan line).items) :
    IsOneLine i.lexeme := by
  by_cases ht : i.token = .endOfInput
  · rcases List.mem_append.mp h with h | h
    · exact absurd ht (item_slice h).1
    · obtain rfl := List.mem_singleton.mp h
      exact List.not_mem_nil
  · exact .of_isWhiteSpace fun c hc =>
      Segment.isWhiteSpace_of_mem_token (wellFormed_of_mem_items h ht) hc

lemma Item.isOneLine_label {i : Item} (h : IsOneLine i.lexeme) : IsOneLine i.label := by
  unfold label
  split
  · cases i.token <;> decide
  · exact h

lemma ParseError.isOneLine_message {e : ParseError} {i : Item} (h : e.Names i)
    (hi : IsOneLine i.lexeme) : IsOneLine e.message := by
  have hlabel := Item.isOneLine_label hi
  cases e with
  | malformedNumber lexeme span =>
    obtain ⟨rfl, rfl⟩ := h
    exact .append (.append (.append (by decide) hi) (by decide)) i.span.isOneLine_text
  | numberOutOfRange lexeme span =>
    obtain ⟨rfl, rfl⟩ := h
    have hquote : IsOneLine ("Number literal `" ++ i.lexeme ++ "` at position ") :=
      .append (.append (by decide) hi) (by decide)
    exact .append (hquote.append i.span.isOneLine_text) (by decide)
  | unexpected found span =>
    obtain ⟨rfl, rfl⟩ := h
    exact .append (.append (.append (by decide) hlabel) (by decide)) i.span.isOneLine_text
  | unclosed opening found span =>
    obtain ⟨rfl, rfl⟩ := h
    have hopening : IsOneLine ("Expected closing parenthesis for `(` at position " ++
        opening.text ++ ", found `") :=
      .append (.append (by decide) opening.isOneLine_text) (by decide)
    exact .append (.append (hopening.append hlabel) (by decide)) i.span.isOneLine_text
  | outOfItems => exact absurd h id

theorem isOneLine_failure {env : Environment} {line : String} {e : LineError}
    (h : (lineOutcome env line).1 = .error e) : IsOneLine e.message := by
  rcases cases_of_lineOutcome h with ⟨err, rfl, herr⟩ | ⟨err, rfl, herr⟩
  · obtain ⟨early, -, ⟨rfl, -⟩ | ⟨i, rest, hnames, hitems, -⟩⟩ := Grammar.exists_of_parse_error herr
    · decide
    · have hmem : i ∈ (scan line).items := by simp [hitems]
      exact ParseError.isOneLine_message hnames (isOneLine_lexeme hmem)
  · cases err with
    | undefinedVariable x =>
      have hname : IsOneLine x := .of_isWhiteSpace fun c hc =>
        @Segment.isWhiteSpace_of_mem_token .identifier _ herr c hc
      exact .append (.append (by decide) hname) (by decide)
    | divisionByZero => decide
    | unknownOperator t => exact absurd herr id

lemma isOneLine_unknown {line : String} {u : UnknownCharacter} (h : u ∈ (scan line).unknown) :
    IsOneLine u.message := by
  obtain ⟨before, after, hsegs, -⟩ := mem_unknown_iff.mp h
  have hform := (maximalMunch_segments line.toList).formed (.unknown u.char) (by simp [hsegs])
  refine .append (by decide) (.of_isWhiteSpace fun c hc => ?_)
  rw [String.toList_singleton, List.mem_singleton] at hc
  rw [hc]
  exact hform.1

lemma isOneLine_of_mem_reports {n : Nat} {env : Environment} {line : String} {d : Diagnostic}
    (h : d ∈ LineResult.reports (.failedAt n) ⟨line, (lineOutcome env line).1⟩) :
    IsOneLine d.message := by
  rcases List.mem_append.mp h with h | h
  · obtain ⟨u, hu, rfl⟩ := List.mem_map.mp h
    exact isOneLine_unknown hu
  · cases hr : (lineOutcome env line).1 with
    | ok v => simp [hr] at h
    | error e =>
      obtain rfl : d = .failedAt n e := by simpa [hr] using h
      exact (isOneLine_number (by decide) n).append (isOneLine_failure hr)

theorem isOneLine_of_mem_runReported {n : Nat} {env : Environment}
    {lines : List (Except Fault String)} {d : Diagnostic} (h : d ∈ runReported n env lines) :
    IsOneLine d.message := by
  induction lines generalizing n env with
  | nil => exact absurd h List.not_mem_nil
  | cons line rest ih =>
    cases line with
    | error fault =>
      obtain rfl := List.mem_singleton.mp h
      refine .append (isOneLine_number (by decide) _) ?_
      cases fault <;> decide
    | ok line =>
      cases hskip : isSkipped line with
      | true =>
        rw [runReported_cons_of_isSkipped hskip] at h
        exact ih h
      | false =>
        rw [runReported_cons hskip] at h
        rcases List.mem_append.mp h with h | h
        · exact isOneLine_of_mem_reports h
        · exact ih h

end Diagnostics

end LineCalculator
