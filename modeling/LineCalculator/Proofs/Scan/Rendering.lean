import LineCalculator.Proofs.Scan.Spacing
import Mathlib.Data.List.Chain

/-!
# Lexemes written out and scanned again

Lexemes are written one after the other with white space before, between and after them. The scan
of the text gives them back if no lexeme runs into the next one, and only then: a number runs into a
number, and a name into a name or a number, when nothing stands between the two. All other
neighbours may touch.
-/
namespace LineCalculator

structure Spacing where
  chars : List Char
  white : ∀ c ∈ chars, Text.isWhiteSpace c = true

structure Lexeme where
  token : Token
  text : List Char
  form : (Segment.token token text).WellFormed

/-- Lexemes as text, each with the white space after it, and white space in front of them all. -/
def renderChars : Spacing → List (Lexeme × Spacing) → List Char
  | lead, [] => lead.chars
  | lead, (l, after) :: parts => lead.chars ++ (l.text ++ renderChars after parts)

def render (lead : Spacing) (parts : List (Lexeme × Spacing)) : String :=
  String.ofList (renderChars lead parts)

/-- The segments that the parts are meant to be. -/
def renderSegments : Spacing → List (Lexeme × Spacing) → List Segment
  | lead, [] => blanks lead.chars
  | lead, (l, after) :: parts =>
    blanks lead.chars ++ .token l.token l.text :: renderSegments after parts

/-- Written without white space between them, two lexemes with these tokens are scanned as one, or
as others. -/
def Token.fuses : Token → Token → Bool
  | .number, .number => true
  | .identifier, .identifier => true
  | .identifier, .number => true
  | _, _ => false

/-- There is white space between neighbours that would run into each other. -/
def Separated (parts : List (Lexeme × Spacing)) : Prop :=
  parts.IsChain fun p q => p.1.token.fuses q.1.token = true → p.2.chars ≠ []

lemma separated_cons_iff {p : Lexeme × Spacing} {parts : List (Lexeme × Spacing)} :
    Separated (p :: parts) ↔
      (∀ q ∈ parts.head?, p.1.token.fuses q.1.token = true → p.2.chars ≠ []) ∧ Separated parts := by
  unfold Separated
  rw [List.isChain_cons]

section Neighbours

lemma isNameChar_of_isNameStart {c : Char} (h : isNameStart c = true) : isNameChar c = true := by
  rcases Bool.or_eq_true_iff.mp h with h | h
  · simp [isNameChar, h]
  · simp [isNameChar, Char.isAlphanum, h]

lemma isNameChar_of_isDigit {c : Char} (h : c.isDigit = true) : isNameChar c = true := by
  simp [isNameChar, Char.isAlphanum, h]

lemma ne_point_of_isNameStart {c : Char} (h : isNameStart c = true) : c ≠ '.' := by
  rintro rfl
  exact absurd h (by decide)

lemma Lexeme.exists_head (l : Lexeme) :
    ∃ c cs, l.text = c :: cs ∧ ((l.token = .number ∧ c.isDigit = true) ∨
      (l.token = .identifier ∧ isNameStart c = true) ∨ (c, l.token) ∈ symbols) := by
  obtain ⟨t, text, form⟩ := l
  cases t with
  | number =>
    obtain ⟨whole, hne, hwhole, hcs⟩ := form
    obtain ⟨c, cs, rfl⟩ := List.exists_cons_of_ne_nil hne
    have hc : c.isDigit = true := hwhole c List.mem_cons_self
    rcases hcs with rfl | ⟨fraction, -, rfl⟩
    · exact ⟨c, cs, rfl, .inl ⟨rfl, hc⟩⟩
    · exact ⟨c, cs ++ '.' :: fraction, rfl, .inl ⟨rfl, hc⟩⟩
  | identifier =>
    obtain ⟨c, cs, rfl, hc, -⟩ := form
    exact ⟨c, cs, rfl, .inr (.inl ⟨rfl, hc⟩)⟩
  | _ =>
    obtain ⟨c, rfl, hc⟩ := form
    exact ⟨c, [], rfl, .inr (.inr hc)⟩

lemma Lexeme.isWhiteSpace_head (l : Lexeme) {c : Char} {cs : List Char} (h : l.text = c :: cs) :
    Text.isWhiteSpace c = false :=
  Segment.isWhiteSpace_of_mem_token l.form (by rw [h]; exact List.mem_cons_self)

lemma Spacing.eq_nil_of_append (lead : Spacing) (l : Lexeme) {rest cs : List Char}
    (h : lead.chars ++ rest = l.text ++ cs) : lead.chars = [] := by
  obtain ⟨c, ds, htext, -⟩ := l.exists_head
  obtain ⟨w, hw⟩ := lead
  cases w with
  | nil => rfl
  | cons d w =>
    rw [htext] at h
    obtain rfl : d = c := (List.cons.inj h).1
    have hd := hw d List.mem_cons_self
    rw [l.isWhiteSpace_head htext] at hd
    contradiction

theorem Lexeme.endsBefore_iff (l next : Lexeme) {c : Char} {cs : List Char}
    (h : next.text = c :: cs) :
    (Segment.token l.token l.text).EndsBefore c ↔ l.token.fuses next.token = false := by
  have hsymbols : ∀ p ∈ symbols, p.1.isDigit = false ∧ p.1 ≠ '.' ∧ isNameChar p.1 = false ∧
      p.2 ≠ .number ∧ p.2 ≠ .identifier := by decide
  obtain ⟨d, ds, htext, hhead⟩ := next.exists_head
  obtain ⟨rfl, -⟩ := List.cons.inj (h.symm.trans htext)
  cases hl : l.token with
  | number =>
    rcases hhead with ⟨ht, hc⟩ | ⟨ht, hc⟩ | hc
    · simp [Segment.EndsBefore, Token.fuses, ht, hc]
    · simp [Segment.EndsBefore, Token.fuses, ht, isDigit_of_isNameStart hc,
        ne_point_of_isNameStart hc]
    · obtain ⟨hdigit, hpoint, -, hnumber, -⟩ := hsymbols _ hc
      simp [Segment.EndsBefore, Token.fuses, hdigit, hpoint, hnumber]
  | identifier =>
    rcases hhead with ⟨ht, hc⟩ | ⟨ht, hc⟩ | hc
    · simp [Segment.EndsBefore, Token.fuses, ht, isNameChar_of_isDigit hc]
    · simp [Segment.EndsBefore, Token.fuses, ht, isNameChar_of_isNameStart hc]
    · obtain ⟨-, -, hname, hnumber, hidentifier⟩ := hsymbols _ hc
      simp [Segment.EndsBefore, Token.fuses, hname, hnumber, hidentifier]
  | _ => exact iff_of_true trivial rfl

end Neighbours

section Writing
variable {parts : List (Lexeme × Spacing)}

lemma renderChars_cons {c : Char} {w : List Char}
    (hw : ∀ d ∈ c :: w, Text.isWhiteSpace d = true) (parts : List (Lexeme × Spacing)) :
    renderChars ⟨c :: w, hw⟩ parts =
      c :: renderChars ⟨w, (List.forall_mem_cons.mp hw).2⟩ parts := by
  cases parts <;> rfl

lemma renderSegments_cons {c : Char} {w : List Char}
    (hw : ∀ d ∈ c :: w, Text.isWhiteSpace d = true) (parts : List (Lexeme × Spacing)) :
    renderSegments ⟨c :: w, hw⟩ parts =
      .blank c :: renderSegments ⟨w, (List.forall_mem_cons.mp hw).2⟩ parts := by
  cases parts <;> rfl

lemma isWhiteSpace_of_renderChars {hw : ∀ d ∈ [], Text.isWhiteSpace d = true} {c : Char}
    {cs : List Char} (h : renderChars ⟨[], hw⟩ parts = c :: cs) : Text.isWhiteSpace c = false := by
  cases parts with
  | nil => cases h
  | cons p parts =>
    obtain ⟨d, ds, htext, -⟩ := p.1.exists_head
    rw [renderChars, htext] at h
    obtain rfl : d = c := (List.cons.inj h).1
    exact p.1.isWhiteSpace_head htext

lemma maximalMunch_blanks_append {w cs : List Char} {segs : List Segment}
    (hw : ∀ c ∈ w, Text.isWhiteSpace c = true) :
    MaximalMunch (w ++ cs) (blanks w ++ segs) ↔ MaximalMunch cs segs := by
  induction w with
  | nil => rfl
  | cons c w ih =>
    obtain ⟨hc, hw⟩ := List.forall_mem_cons.mp hw
    rw [← ih hw]
    constructor
    · intro h
      obtain ⟨rest, hrest, -, -, htail⟩ := maximalMunch_cons_iff.mp h
      obtain rfl : w ++ cs = rest := (List.cons.inj hrest).2
      exact htail
    · intro h
      exact maximalMunch_cons_iff.mpr ⟨w ++ cs, rfl, hc, fun _ _ => trivial, h⟩

lemma maximalMunch_token_iff (l : Lexeme) {cs : List Char} {segs : List Segment} :
    MaximalMunch (l.text ++ cs) (.token l.token l.text :: segs) ↔
      (∀ next ∈ cs.head?, (Segment.token l.token l.text).EndsBefore next) ∧
        MaximalMunch cs segs := by
  rw [maximalMunch_cons_iff]
  constructor
  · rintro ⟨rest, hrest, -, hends, htail⟩
    obtain rfl : cs = rest := List.append_cancel_left hrest
    exact ⟨hends, htail⟩
  · rintro ⟨hends, htail⟩
    exact ⟨cs, rfl, l.form, hends, htail⟩

lemma Lexeme.endsBefore_render_iff (l : Lexeme) (after : Spacing)
    (parts : List (Lexeme × Spacing)) :
    (∀ next ∈ (renderChars after parts).head?, (Segment.token l.token l.text).EndsBefore next) ↔
      ∀ q ∈ parts.head?, l.token.fuses q.1.token = true → after.chars ≠ [] := by
  obtain ⟨w, hw⟩ := after
  cases w with
  | cons c w =>
    refine iff_of_true (fun next hnext => ?_) fun _ _ _ => List.cons_ne_nil c w
    rw [renderChars_cons] at hnext
    obtain rfl : c = next := Option.some.inj hnext
    exact Segment.endsBefore_of_isWhiteSpace _ (hw c List.mem_cons_self)
  | nil =>
    cases parts with
    | nil => simp [renderChars]
    | cons q parts =>
      obtain ⟨c, cs, htext, -⟩ := q.1.exists_head
      have hhead : (renderChars ⟨[], hw⟩ (q :: parts)).head? = some c := by
        simp [renderChars, htext]
      simp [hhead, l.endsBefore_iff q.1 htext]

/-- The parts are the segments of the text exactly if they are separated. -/
theorem maximalMunch_render_iff (lead : Spacing) (parts : List (Lexeme × Spacing)) :
    MaximalMunch (renderChars lead parts) (renderSegments lead parts) ↔ Separated parts := by
  induction parts generalizing lead with
  | nil =>
    have hlead := @maximalMunch_blanks_append lead.chars [] [] lead.white
    rw [List.append_nil, List.append_nil] at hlead
    exact iff_of_true (hlead.mpr maximalMunch_nil) .nil
  | cons p parts ih =>
    rw [renderChars, renderSegments, maximalMunch_blanks_append lead.white,
      maximalMunch_token_iff, ih, p.1.endsBefore_render_iff, separated_cons_iff]

end Writing

section Reading

def Segment.token? : Segment → Option (Token × String)
  | token t cs => some (t, String.ofList cs)
  | _ => none

lemma map_filterMap_item? (offset : Nat) (segs : List Segment) :
    ((place offset segs).filterMap Placed.item?).map (fun i => (i.token, i.lexeme)) =
      segs.filterMap Segment.token? := by
  induction segs generalizing offset with
  | nil => rfl
  | cons s segs ih =>
    have hrest := ih (offset + Text.byteLength s.text)
    cases s with
    | token t cs => exact congrArg ((t, String.ofList cs) :: ·) hrest
    | blank c => exact hrest
    | unknown c => exact hrest

lemma unknown_scan_eq_nil_iff (line : String) :
    (scan line).unknown = [] ↔ ∀ s ∈ segments line.toList, s.isUnknown = false := by
  have hcount := length_filterMap_place isSome_unknown? 0 (segments line.toList)
  change (scan line).unknown.length = _ at hcount
  rw [← List.length_eq_zero_iff, hcount, List.countP_eq_zero]
  simp only [Bool.not_eq_true]

lemma filterMap_token?_blanks (w : List Char) : (blanks w).filterMap Segment.token? = [] := by
  rw [blanks, List.filterMap_map]
  exact List.filterMap_eq_nil_iff.mpr fun _ _ => rfl

lemma filterMap_token?_renderSegments (lead : Spacing) (parts : List (Lexeme × Spacing)) :
    (renderSegments lead parts).filterMap Segment.token? =
      parts.map fun p => (p.1.token, String.ofList p.1.text) := by
  induction parts generalizing lead with
  | nil => exact filterMap_token?_blanks _
  | cons p parts ih =>
    rw [renderSegments, List.filterMap_append, filterMap_token?_blanks, List.nil_append,
      List.filterMap_cons, ih]
    rfl

lemma isUnknown_of_mem_renderSegments {lead : Spacing} {parts : List (Lexeme × Spacing)}
    {s : Segment} (h : s ∈ renderSegments lead parts) : s.isUnknown = false := by
  have hblanks : ∀ {w : List Char}, s ∈ blanks w → s.isUnknown = false := by
    intro w hs
    obtain ⟨c, -, rfl⟩ := List.mem_map.mp hs
    rfl
  induction parts generalizing lead with
  | nil => exact hblanks h
  | cons p parts ih =>
    rcases List.mem_append.mp h with h | h
    · exact hblanks h
    · rcases List.mem_cons.mp h with rfl | h
      · rfl
      · exact ih h

/-- Well-formed segments of the text that have the tokens and texts of the parts are the parts: a
token holds no white space, so both have their white space in the same places. -/
theorem eq_renderSegments {segs : List Segment} {lead : Spacing} {parts : List (Lexeme × Spacing)}
    (hform : ∀ s ∈ segs, s.WellFormed) (hknown : ∀ s ∈ segs, s.isUnknown = false)
    (htokens : segs.filterMap Segment.token? =
      parts.map fun p => (p.1.token, String.ofList p.1.text))
    (htext : segs.flatMap Segment.text = renderChars lead parts) :
    segs = renderSegments lead parts := by
  induction segs generalizing lead parts with
  | nil =>
    obtain rfl : parts = [] := List.map_eq_nil_iff.mp htokens.symm
    have hlead : [] = lead.chars := htext
    rw [renderSegments, ← hlead]
    rfl
  | cons s segs ih =>
    obtain ⟨hs, hrest⟩ := List.forall_mem_cons.mp hform
    obtain ⟨hfirst, hothers⟩ := List.forall_mem_cons.mp hknown
    cases s with
    | unknown c => contradiction
    | blank c =>
      -- The white space belongs to what is written in front of the next lexeme.
      change c :: segs.flatMap Segment.text = _ at htext
      obtain ⟨w, hw⟩ := lead
      cases w with
      | nil =>
        have hc := isWhiteSpace_of_renderChars htext.symm
        exact absurd (hs.symm.trans hc) Bool.noConfusion
      | cons d w =>
        rw [renderChars_cons] at htext
        obtain ⟨rfl, htail⟩ := List.cons.inj htext
        rw [renderSegments_cons, ← ih hrest hothers htokens htail]
    | token t cs =>
      cases parts with
      | nil => cases htokens
      | cons p parts =>
        obtain ⟨l, after⟩ := p
        obtain ⟨hhead, htail⟩ := List.cons.inj htokens
        obtain ⟨rfl, hlexeme⟩ := Prod.mk.inj hhead
        obtain rfl : cs = l.text := String.ofList_injective hlexeme
        change l.text ++ segs.flatMap Segment.text = lead.chars ++ (l.text ++ _) at htext
        have hlead : lead.chars = [] := lead.eq_nil_of_append l htext.symm
        rw [hlead, List.nil_append] at htext
        rw [renderSegments, hlead, ← ih hrest hothers htail (List.append_cancel_left htext)]
        rfl

end Reading

/-- The scan of lexemes written with white space before, between and after them has exactly these
tokens and texts, then the end of input, and no unknown character, if and only if there is white
space between every number and a number after it, and between every name and a name or a number
after it. -/
theorem scan_render_iff (lead : Spacing) (parts : List (Lexeme × Spacing)) :
    ((scan (render lead parts)).items.map (fun i => (i.token, i.lexeme)) =
        (parts.map fun p => (p.1.token, String.ofList p.1.text)) ++ [(.endOfInput, "")] ∧
      (scan (render lead parts)).unknown = []) ↔ Separated parts := by
  have htext : (render lead parts).toList = renderChars lead parts := String.toList_ofList
  have hitems : (scan (render lead parts)).items.map (fun i => (i.token, i.lexeme)) =
      (segments (renderChars lead parts)).filterMap Segment.token? ++ [(.endOfInput, "")] := by
    rw [← htext, ← map_filterMap_item? 0, scan, List.map_append]
    rfl
  rw [hitems, unknown_scan_eq_nil_iff, htext, List.append_left_inj, ← maximalMunch_render_iff lead]
  have hmunch := maximalMunch_segments (renderChars lead parts)
  constructor
  · rintro ⟨htokens, hknown⟩
    rw [← eq_renderSegments hmunch.formed hknown htokens hmunch.cover]
    exact hmunch
  · intro h
    rw [← h.eq_segments]
    exact ⟨filterMap_token?_renderSegments lead parts, fun s => isUnknown_of_mem_renderSegments⟩

-- Two numbers that touch need not make one: here a point is left over.
example : scan "1.52.5" =
    ⟨[⟨.number, "1.52", ⟨0, 3⟩⟩, ⟨.number, "5", ⟨5, 5⟩⟩, ⟨.endOfInput, "", ⟨6, 6⟩⟩],
      [⟨'.', 4⟩]⟩ := by
  cbv

end LineCalculator
