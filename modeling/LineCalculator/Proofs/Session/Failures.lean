import LineCalculator.Proofs.Grammar.Front
import LineCalculator.Proofs.Number.Literal
import LineCalculator.Proofs.Session.Outcome

/-!
# How a line can fail

The errors that parsing and evaluation know are more than a line can bring about. What is scanned
has the form of its token and is closed by an end of input, which is never stepped over; so no
number is malformed, the items never run out, and an operator in a parsed line is one of the four.
-/
namespace LineCalculator

inductive LineError.Expected : LineError → Prop
  | unexpected (found : String) (span : Span) : Expected (.parse (.unexpected found span))
  | unclosed (opening : Span) (found : String) (span : Span) :
      Expected (.parse (.unclosed opening found span))
  | numberOutOfRange (lexeme : String) (span : Span) :
      Expected (.parse (.numberOutOfRange lexeme span))
  | undefinedVariable (x : String) : Expected (.evaluation (.undefinedVariable x))
  | divisionByZero : Expected (.evaluation .divisionByZero)

/-- An expression as a line can hold it. -/
def Expr.OfLine : Expr → Prop
  | number v => Binary64.isFinite v = true ∧ Binary64.isNegative v = false
  | binary l op r => l.OfLine ∧ op ∈ [Token.plus, .minus, .star, .slash] ∧ r.OfLine
  | var x => IsNameText x.toList
  | assign x e => IsNameText x.toList ∧ e.OfLine

lemma isNumberText_of_mem_items {line : String} {i : Item} (h : i ∈ (scan line).items)
    (ht : i.token = .number) : IsNumberText i.lexeme.toList := by
  have hform := wellFormed_of_mem_items h (by simp [ht])
  rw [ht] at hform
  exact hform

namespace Grammar

lemma Level.mem_operators {l : Level} {t : Token} (h : l.joins t = true) :
    t ∈ [Token.plus, .minus, .star, .slash] := by
  cases l <;> cases t <;> simp_all [joins, Token.isAdditive, Token.isMultiplicative]

theorem Derivation.ofLine_tree {k : Phrase} (d : Derivation k) {line : String}
    (h : ∀ i ∈ d.items, i ∈ (scan line).items) : d.tree.OfLine := by
  induction d with
  | number i v token value =>
    have hi := isNumberText_of_mem_items (h i (by simp [items])) token
    rcases Item.number_of_isNumberText hi with ⟨w, hw, hv⟩ | hrange
    · obtain rfl : w = v := by simpa [hw] using value
      exact hv
    · simp [hrange] at value
  | name i token => exact isNameText_of_mem_items (h i (by simp [items])) token
  | assign i equals value token mark ih =>
    refine ⟨isNameText_of_mem_items (h i (by simp [items])) token, ih fun j hj => ?_⟩
    exact h j (by simp [items, hj])
  | group opening closing inner left right ih => exact ih fun j hj => h j (by simp [items, hj])
  | single link ih => exact ih h
  | joined left op right joins ihl ihr =>
    refine ⟨ihl fun j hj => ?_, Level.mem_operators joins, ihr fun j hj => ?_⟩
    · exact h j (by simp [items, hj])
    · exact h j (by simp [items, hj])

/-- The items that parsing does not step over, whether it succeeds or not. -/
def unread (items : List Item) : List Item :=
  match read (.chain .sum) items with
  | .ok reading => reading.rest
  | .error refusal => refusal.unread

lemma stepsOver_unread (items : List Item) : StepsOver items (unread items) := by
  unfold unread
  split
  · rename_i reading h
    exact (reads_of_read h).stepsOver
  · rename_i refusal h
    exact (refuses_of_read h).stepsOver

lemma StepsOver.getLast?_eq {line : String} {rest : List Item}
    (h : StepsOver (scan line).items rest) : rest.getLast? = some (Item.closing line) := by
  obtain ⟨taken, hitems, htaken⟩ := h
  have hlast := items_scan_getLast? line
  rw [hitems, List.getLast?_append] at hlast
  cases hr : rest.getLast? with
  | some last => rwa [hr, Option.some_or] at hlast
  | none =>
    rw [hr, Option.none_or] at hlast
    exact absurd (Item.closing_token line) (htaken _ (List.mem_of_getLast? hlast))

theorem expected_of_parse_error {line : String} {e : ParseError}
    (h : parse (scan line).items = .error e) : (LineError.parse e).Expected := by
  obtain ⟨unread, hrefuses⟩ := parse_eq_error_iff_refuses.mp h
  have hlast := hrefuses.stepsOver.getLast?_eq
  have hout : e ≠ .outOfItems := by
    rintro rfl
    rw [hrefuses.unread_of_outOfItems rfl] at hlast
    simp at hlast
  obtain ⟨_, f, rest, hitems, hhalts⟩ := parse_eq_error_iff_halts.mp h
  cases hhalts with
  | nothing | unfinished => exact absurd rfl hout
  | unexpected => exact .unexpected _ _
  | unclosed => exact .unclosed _ _ _
  | @number i _ _ ht he =>
    have hmem : i ∈ (scan line).items := by simp [hitems]
    have hi := isNumberText_of_mem_items hmem ht
    rcases Item.number_of_isNumberText hi with ⟨v, hv, -⟩ | hrange
    · simp [hv] at he
    · obtain rfl : _ = e := by simpa [hrange] using he
      exact .numberOutOfRange _ _

end Grammar

def EvalError.OfLine : EvalError → Prop
  | undefinedVariable x => IsNameText x.toList
  | divisionByZero => True
  | unknownOperator _ => False

def Evaluation.OfLine (e : Evaluation) : Prop := ∀ err, e.result = .error err → err.OfLine

lemma Evaluation.OfLine.andThen {e : Evaluation} {f : Float → Environment → Evaluation}
    (h : e.OfLine) (hf : ∀ v, (f v e.env).OfLine) : (e.andThen f).OfLine := by
  cases hr : e.result with
  | error err =>
    rw [andThen_error hr]
    exact h
  | ok v =>
    rw [andThen_ok hr]
    exact hf v

theorem Expr.OfLine.evaluate {e : Expr} (h : e.OfLine) (env : Environment) :
    (e.evaluate env).OfLine := by
  induction e generalizing env with
  | number v =>
    intro err herr
    cases herr
  | var x =>
    intro err herr
    simp only [Expr.evaluate, Environment.read] at herr
    split at herr
    · cases herr
    · cases herr
      exact h
  | binary l op r ihl ihr =>
    obtain ⟨hl, hop, hr⟩ := h
    refine (ihl hl env).andThen fun a => (ihr hr _).andThen fun b err herr => ?_
    simp only [List.mem_cons, List.not_mem_nil, or_false] at hop
    rcases hop with rfl | rfl | rfl | rfl
    · cases herr
    · cases herr
    · cases herr
    · simp only [Token.apply] at herr
      split at herr
      · cases herr
        trivial
      · cases herr
  | assign x e ih =>
    refine (ih h.2 env).andThen fun v err herr => ?_
    cases herr

theorem ofLine_of_parse {line : String} {p : Parsed} (h : parse (scan line).items = .ok p) :
    p.expr.OfLine := by
  obtain ⟨d, -, htree, hitems, -⟩ := Grammar.parse_eq_ok_iff_derived.mp h
  have hmem : ∀ i ∈ d.items, i ∈ (scan line).items := by
    intro i hi
    rw [hitems]
    exact List.mem_append_left _ hi
  rw [← htree]
  exact d.ofLine_tree hmem

lemma cases_of_lineOutcome {env : Environment} {line : String} {e : LineError}
    (h : (lineOutcome env line).1 = .error e) :
    (∃ err, e = .parse err ∧ parse (scan line).items = .error err) ∨
      ∃ err, e = .evaluation err ∧ err.OfLine := by
  unfold lineOutcome at h
  split at h
  · rename_i err herr
    cases h
    exact .inl ⟨err, rfl, herr⟩
  · rename_i p hp
    cases hr : (p.expr.evaluate env).result with
    | ok v => simp [hr, Except.mapError] at h
    | error err =>
      simp only [hr, Except.mapError] at h
      cases h
      exact .inr ⟨err, rfl, (ofLine_of_parse hp).evaluate env err hr⟩

lemma expected_of_lineOutcome {env : Environment} {line : String} {e : LineError}
    (h : (lineOutcome env line).1 = .error e) : e.Expected := by
  rcases cases_of_lineOutcome h with ⟨err, rfl, herr⟩ | ⟨err, rfl, herr⟩
  · exact Grammar.expected_of_parse_error herr
  · cases err with
    | undefinedVariable x => exact .undefinedVariable x
    | divisionByZero => exact .divisionByZero
    | unknownOperator t => exact absurd herr id

/-- A line has a value or fails in one of five ways, whatever the session. Its items are slices of
it, a parsed line holds nothing but the four operators, finite numbers without a sign and names as
names are written, and parsing never steps over the end of input. -/
theorem tryLine_expected (s : Session) (line : String) :
    ((∃ v, (Session.tryLine line s).value = .ok v) ∨
      ∃ e, (Session.tryLine line s).value = .error e ∧ e.Expected) ∧
    (∀ i ∈ (scan line).items.dropLast, i.span.slice? line = some i.lexeme) ∧
    (∀ p, parse (scan line).items = .ok p → p.expr.OfLine) ∧
    (∃ taken, (scan line).items = taken ++ Grammar.unread (scan line).items ∧
      ∀ i ∈ taken, i.token ≠ .endOfInput) ∧
    (Grammar.unread (scan line).items).getLast? = some (Item.closing line) := by
  have hsteps := Grammar.stepsOver_unread (scan line).items
  refine ⟨?_, fun i hi => ?_, fun p hp => ofLine_of_parse hp, hsteps, hsteps.getLast?_eq⟩
  · rw [Session.tryLine_value]
    cases hr : (lineOutcome s.env line).1 with
    | ok v => exact .inl ⟨v, rfl⟩
    | error e => exact .inr ⟨e, rfl, expected_of_lineOutcome hr⟩
  · exact (item_slice (by simpa [scan] using hi)).2.2

end LineCalculator
