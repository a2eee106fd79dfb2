import LineCalculator.Proofs.Grammar.Parentheses
import LineCalculator.Proofs.Session.Failures

/-!
# Positions of parse errors

The text that a parse error reports stands in the line where its span says, unless the line ends
there. The other span of an unclosed parenthesis belongs to the innermost one that is open where
the error is found.
-/
namespace LineCalculator

/-- What an error reports to have found, and where. -/
def ParseError.reported? : ParseError → Option (String × Span)
  | malformedNumber lexeme span => some (lexeme, span)
  | numberOutOfRange lexeme span => some (lexeme, span)
  | unexpected found span => some (found, span)
  | unclosed _ found span => some (found, span)
  | outOfItems => none

/-- A span is that of an item of the line, it lies between characters, and it cuts the text out. -/
structure Span.Locates (span : Span) (line text : String) : Prop where
  inside : span.start ≤ span.stop ∧ span.stop < line.utf8ByteSize
  boundaries : ∃ before after, line = before ++ text ++ after ∧
    before.utf8ByteSize = span.start ∧ (before ++ text).utf8ByteSize = span.stop + 1
  slice : span.slice? line = some text
  item : ∃ i ∈ (scan line).items, i.span = span

/-- A report is about the end of the line, or about a text in it. -/
def Span.Reports (span : Span) (line text : String) : Prop :=
  text = "end of input" ∧ span = ⟨line.utf8ByteSize, line.utf8ByteSize⟩ ∨ span.Locates line text

/-- The span `opening` is that of a parenthesis that is open where `found` begins, and no other one
that is open there was opened after it. -/
structure InnermostOpen (line : String) (opening found : Span) : Prop where
  slice : opening.slice? line = some "("
  apart : opening.stop < found.start
  innermost : ∃ before o between f after outer,
    (scan line).items = before ++ o :: (between ++ f :: after) ∧ o.span = opening ∧
      f.span = found ∧ Grammar.openAfter [] between = some [] ∧
      Grammar.openAfter [] (before ++ o :: between) = some (o :: outer) ∧
      ∀ p ∈ outer, p.span.stop < opening.start

lemma Span.Reports.start_le {span : Span} {line text : String} (h : span.Reports line text) :
    span.start ≤ line.utf8ByteSize := by
  rcases h with ⟨-, rfl⟩ | hlocates
  · exact le_rfl
  · have hinside := hlocates.inside
    omega

section Items
variable {line : String} {i : Item}

lemma eq_closing_of_mem_items (h : i ∈ (scan line).items) (ht : i.token = .endOfInput) :
    i = Item.closing line := by
  rcases List.mem_append.mp h with h | h
  · exact absurd ht (item_slice h).1
  · exact List.mem_singleton.mp h

lemma locates_of_mem_items (h : i ∈ (scan line).items) (ht : i.token ≠ .endOfInput) :
    i.span.Locates line i.lexeme := by
  have hi : i ∈ (place 0 (segments line.toList)).filterMap Placed.item? := by
    rcases List.mem_append.mp h with h | h
    · exact h
    · exact absurd (List.mem_singleton.mp h ▸ Item.closing_token line) ht
  obtain ⟨-, hle, hslice⟩ := item_slice hi
  obtain ⟨-, before, after, hline, hbefore, htext⟩ := Span.slice?_eq_some_iff.mp hslice
  have hcut : line = String.ofList before ++ i.lexeme ++ String.ofList after := by
    apply String.toList_inj.mp
    simpa using hline
  have hsize : (String.ofList before ++ i.lexeme).utf8ByteSize = i.span.stop + 1 := by
    rw [String.utf8ByteSize_append, ← Text.byteLength_eq_utf8ByteSize, ← Text.byteLength_toList]
    omega
  refine ⟨⟨hle, ?_⟩, ⟨_, _, hcut, ?_, hsize⟩, hslice, i, h, rfl⟩
  · have hwhole := congrArg String.utf8ByteSize hcut
    rw [String.utf8ByteSize_append, hsize] at hwhole
    omega
  · rw [← Text.byteLength_eq_utf8ByteSize]
    exact hbefore

lemma Span.Locates.lexeme_ne (h : i.span.Locates line i.lexeme) : i.lexeme ≠ "" := by
  intro hempty
  obtain ⟨before, after, -, hbefore, hsize⟩ := h.boundaries
  have hle := h.inside.1
  rw [hempty, String.append_empty] at hsize
  omega

lemma reports_label (h : i ∈ (scan line).items) : i.span.Reports line i.label := by
  by_cases ht : i.token = .endOfInput
  · rw [eq_closing_of_mem_items h ht]
    exact .inl ⟨rfl, rfl⟩
  · have hlocates := locates_of_mem_items h ht
    have hlabel : i.label = i.lexeme := by
      rw [Item.label, if_neg]
      simpa using hlocates.lexeme_ne
    rw [hlabel]
    exact .inr hlocates

lemma lexeme_of_leftParen (h : i ∈ (scan line).items) (ht : i.token = .leftParen) :
    i.lexeme = "(" := by
  have hform := wellFormed_of_mem_items h (by simp [ht])
  rw [ht] at hform
  obtain ⟨c, hc, hsymbol⟩ := hform
  obtain rfl : c = '(' := by simpa [symbols] using hsymbol
  exact String.toList_inj.mp hc

end Items

namespace Grammar

lemma innermostOpen_of_items {line : String} {f : Front (.chain .sum)}
    {d : Derivation (.chain .sum)} {opening found : Item} {rest : List Item}
    (hitems : (scan line).items = f.items ++ opening :: (d.items ++ found :: rest))
    (hleft : opening.token = .leftParen) : InnermostOpen line opening.span found.span := by
  have hmem : opening ∈ (scan line).items := by simp [hitems]
  have hordered := pairwise_items line
  rw [hitems, List.pairwise_append] at hordered
  obtain ⟨-, hbehind, hacross⟩ := hordered
  -- The sum closes all that it opens, so that the parenthesis before it is on top of the stack.
  obtain ⟨outer, houter, hopen⟩ := f.exists_openAfter_items
  refine ⟨?_, ?_, f.items, opening, d.items, found, rest, outer, hitems, rfl, rfl,
    d.openAfter_items [], ?_, fun p hp => ?_⟩
  · have hslice := (locates_of_mem_items hmem (by simp [hleft])).slice
    rwa [lexeme_of_leftParen hmem hleft] at hslice
  · exact List.rel_of_pairwise_cons hbehind (by simp)
  · rw [openAfter_append, hopen, Option.bind_some, openAfter_left hleft, d.openAfter_items,
      List.append_nil]
  · exact hacross p (houter p hp) opening List.mem_cons_self

end Grammar

/-- A line that cannot be parsed has an error with a place: the end of the line, or an item of it
whose text is the one reported. For an unclosed parenthesis the other span is that of the innermost
one open there. -/
theorem parse_error_located {line : String} {e : ParseError}
    (h : parse (scan line).items = .error e) :
    ∃ text span, e.reported? = some (text, span) ∧ e.start? = some span.start ∧
      span.start ≤ line.utf8ByteSize ∧ span.Reports line text ∧
      ∀ opening, e = .unclosed opening text span → InnermostOpen line opening span := by
  obtain ⟨unread, f, rest, hitems, hhalts⟩ := Grammar.parse_eq_error_iff_halts.mp h
  cases hhalts with
  | nothing | unfinished =>
    -- The items of a line do not run out.
    cases Grammar.expected_of_parse_error h
  | @number i _ _ ht he =>
    have hmem : i ∈ (scan line).items := by simp [hitems]
    have hreports : i.span.Reports line i.lexeme := .inr (locates_of_mem_items hmem (by simp [ht]))
    rcases Item.number_eq_error he with rfl | rfl
    · exact ⟨i.lexeme, i.span, rfl, rfl, hreports.start_le, hreports, by simp⟩
    · exact ⟨i.lexeme, i.span, rfl, rfl, hreports.start_le, hreports, by simp⟩
  | @unexpected i _ ht =>
    have hreports : i.span.Reports line i.label := reports_label (by simp [hitems])
    exact ⟨i.label, i.span, rfl, rfl, hreports.start_le, hreports, by simp⟩
  | @unclosed opening found _ rest _ hleft hinner hright =>
    obtain ⟨d, -, rfl, rfl, -⟩ := hinner.sound
    have hreports : found.span.Reports line found.label := reports_label (by simp [hitems])
    refine ⟨found.label, found.span, rfl, rfl, hreports.start_le, hreports, fun o ho => ?_⟩
    obtain rfl : opening.span = o := (ParseError.unclosed.inj ho).1
    exact Grammar.innermostOpen_of_items hitems hleft

/-- `é ((a) * (b + (c) 1`: the parentheses around `a` and `c` are closed, and of the two open ones
the one before `b` is named. -/
theorem parse_error_located_nested :
    parse (scan "é ((a) * (b + (c) 1").items = .error (.unclosed ⟨10, 10⟩ "1" ⟨19, 19⟩) ∧
      ∃ text span, (ParseError.unclosed ⟨10, 10⟩ "1" ⟨19, 19⟩).reported? = some (text, span) ∧
        (ParseError.unclosed ⟨10, 10⟩ "1" ⟨19, 19⟩).start? = some span.start ∧
        span.start ≤ "é ((a) * (b + (c) 1".utf8ByteSize ∧
        span.Reports "é ((a) * (b + (c) 1" text ∧
        ∀ opening, ParseError.unclosed ⟨10, 10⟩ "1" ⟨19, 19⟩ = .unclosed opening text span →
          InnermostOpen "é ((a) * (b + (c) 1" opening span := by
  have herror : parse (scan "é ((a) * (b + (c) 1").items =
      .error (.unclosed ⟨10, 10⟩ "1" ⟨19, 19⟩) := by cbv
  exact ⟨herror, parse_error_located herror⟩

end LineCalculator
