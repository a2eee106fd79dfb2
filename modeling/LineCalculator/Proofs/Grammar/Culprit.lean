import LineCalculator.Proofs.Grammar.Front

/-!
# The item at fault

A parse that fails names the first item with which all is lost. The items before it could still
become an expression, and with it they cannot, whatever follows; only when the items run out is
nothing lost yet.
-/
namespace LineCalculator

/-- The item that an error is about: its place, and its text as the error shows it. -/
def ParseError.Names : ParseError → Item → Prop
  | malformedNumber lexeme span, i => lexeme = i.lexeme ∧ span = i.span
  | numberOutOfRange lexeme span, i => lexeme = i.lexeme ∧ span = i.span
  | unexpected found span, i => found = i.label ∧ span = i.span
  | unclosed _ found span, i => found = i.label ∧ span = i.span
  | outOfItems, _ => False

namespace Grammar

/-- Items at which no factor is found begin like one with `early`, up to the item at fault or to
their end. -/
structure BreaksOff (items : List Item) (e : ParseError) (early : List Item) : Prop where
  begins : ∃ (d : Derivation .factor) (late : List Item),
    d.AssignmentsLast ∧ d.items = early ++ late
  culprit : e = .outOfItems ∧ items = early ∨
    ∃ i rest, e.Names i ∧ items = early ++ i :: rest ∧
      ∀ more, ∃ unread, Halts (early ++ i :: more) ⟨e, unread⟩

lemma exists_factor : ∃ (d : Derivation .factor) (late : List Item),
    d.AssignmentsLast ∧ d.items = [] ++ late :=
  ⟨.name anyName rfl, [anyName], trivial, rfl⟩

lemma exists_group {opening : Item} (h : opening.token = .leftParen)
    {d : Derivation (.chain .sum)} (hd : d.AssignmentsLast) :
    ∃ (g : Derivation .factor) (late : List Item),
      g.AssignmentsLast ∧ g.items = opening :: d.items ++ late :=
  ⟨.group opening closer d h rfl, [closer], hd, rfl⟩

theorem Halts.exists_breaksOff {items : List Item} {r : Refusal} (h : Halts items r) :
    ∃ early, BreaksOff items r.error early := by
  cases h with
  | nothing => exact ⟨[], exists_factor, .inl ⟨rfl, rfl⟩⟩
  | @number i rest e ht he =>
    have hnames : e.Names i := by
      rcases Item.number_eq_error he with rfl | rfl
      · exact ⟨rfl, rfl⟩
      · exact ⟨rfl, rfl⟩
    exact ⟨[], exists_factor, .inr ⟨i, rest, hnames, rfl, fun more => ⟨more, .number ht he⟩⟩⟩
  | @unexpected i rest ht =>
    exact ⟨[], exists_factor, .inr ⟨i, rest, ⟨rfl, rfl⟩, rfl, fun more => ⟨_, .unexpected ht⟩⟩⟩
  | @unfinished opening _ e hl hr =>
    obtain ⟨d, hd, rfl, rfl, -⟩ := hr.sound
    exact ⟨opening :: d.items, exists_group hl hd, .inl ⟨rfl, by simp⟩⟩
  | @unclosed opening found _ rest e hl hr hc =>
    obtain ⟨d, hd, rfl, rfl, hs⟩ := hr.sound
    refine ⟨opening :: d.items, exists_group hl hd,
      .inr ⟨found, rest, ⟨rfl, rfl⟩, rfl, fun more => ⟨found :: more, ?_⟩⟩⟩
    -- The sum stops before the item found, whatever stands after that.
    have hinner : Reads (.chain .sum) (d.items ++ found :: more) d.tree (found :: more) := by
      refine d.reads hd (fun next hn => ?_) (resumes_refl _ fun next hn => ?_)
      · exact (hs next hn).2
      · exact (hs next hn).1
    exact .unclosed hl hinner hc

theorem exists_of_parse_error {items : List Item} {e : ParseError} (h : parse items = .error e) :
    ∃ early, (∃ late tree, parse (early ++ late) = .ok ⟨tree, []⟩) ∧
      (e = .outOfItems ∧ items = early ∨ ∃ i rest, e.Names i ∧ items = early ++ i :: rest ∧
        ∀ more, parse (early ++ i :: more) = .error e) := by
  obtain ⟨unread, f, rest, rfl, hh⟩ := parse_eq_error_iff_halts.mp h
  obtain ⟨early, ⟨d, late, hd, hitems⟩, hculprit⟩ := hh.exists_breaksOff
  have hviable : parse (f.items ++ early ++ (late ++ f.closers)) = .ok ⟨(f.fill d).tree, []⟩ := by
    have hfill := f.parse_fill hd
    rw [hitems] at hfill
    simpa using hfill
  refine ⟨f.items ++ early, ⟨_, _, hviable⟩, ?_⟩
  rcases hculprit with ⟨he, rfl⟩ | ⟨i, rest, hnames, rfl, hhalts⟩
  · exact .inl ⟨he, rfl⟩
  · refine .inr ⟨i, rest, hnames, by simp, fun more => ?_⟩
    obtain ⟨unread, hmore⟩ := hhalts more
    exact parse_eq_error_iff_halts.mpr ⟨unread, f, _, by simp, hmore⟩

lemma parse_ne_ok_of_error {items : List Item} {e : ParseError} (h : parse items = .error e)
    (p : Parsed) : parse items ≠ .ok p := by
  rw [h]
  exact nofun

/-- When a parse fails but for a lack of items, the error names an item: what stands before it can
be completed to an expression, and every list that begins with what stands up to it fails with the
same error. Items are lacking exactly when the items are no expression but begin one. -/
theorem parse_error_names_first (items : List Item) :
    (∀ e, parse items = .error e → e ≠ .outOfItems →
      ∃ k i, items[k]? = some i ∧ e.Names i ∧
        (∃ late tree, parse (items.take k ++ late) = .ok ⟨tree, []⟩) ∧
        ∀ other, items.take (k + 1) <+: other → parse other = .error e) ∧
    (parse items = .error .outOfItems ↔
      (∃ e, parse items = .error e) ∧
        ∃ longer p, items <+: longer ∧ items.length < longer.length ∧ parse longer = .ok p) := by
  constructor
  · intro e he hne
    obtain ⟨early, hviable, ⟨hout, -⟩ | ⟨i, rest, hnames, rfl, hlost⟩⟩ := exists_of_parse_error he
    · exact absurd hout hne
    refine ⟨early.length, i, by simp, hnames, by simpa using hviable, fun other hother => ?_⟩
    obtain ⟨more, rfl⟩ := hother
    rw [List.take_length_add_append, List.append_assoc]
    exact hlost more
  · constructor
    · intro he
      obtain ⟨early, ⟨late, tree, hok⟩, ⟨-, rfl⟩ | ⟨i, rest, hnames, -⟩⟩ := exists_of_parse_error he
      · refine ⟨⟨_, he⟩, items ++ late, _, List.prefix_append _ _, ?_, hok⟩
        -- The completion adds something, or it would be refused as the items are.
        have hlate : late ≠ [] := by
          rintro rfl
          rw [List.append_nil] at hok
          exact parse_ne_ok_of_error he _ hok
        have hpos := List.length_pos_iff.mpr hlate
        rw [List.length_append]
        omega
      · exact absurd hnames id
    · rintro ⟨⟨e, he⟩, longer, p, ⟨more, rfl⟩, -, hok⟩
      obtain ⟨early, -, ⟨rfl, -⟩ | ⟨i, rest, -, rfl, hlost⟩⟩ := exists_of_parse_error he
      · exact he
      · have hmore := hlost (rest ++ more)
        exact absurd (by simpa using hok) (parse_ne_ok_of_error hmore p)

/-- `x = (y * )`: the closing parenthesis is at fault, and all before it could be completed. -/
theorem parse_error_names_first_group :
    let items : List Item := [⟨.identifier, "x", ⟨0, 0⟩⟩, ⟨.equal, "=", ⟨2, 2⟩⟩,
      ⟨.leftParen, "(", ⟨4, 4⟩⟩, ⟨.identifier, "y", ⟨5, 5⟩⟩, ⟨.star, "*", ⟨7, 7⟩⟩,
      ⟨.rightParen, ")", ⟨9, 9⟩⟩]
    parse items = .error (.unexpected ")" ⟨9, 9⟩) ∧
      ∃ k i, items[k]? = some i ∧ (ParseError.unexpected ")" ⟨9, 9⟩).Names i ∧
        (∃ late tree, parse (items.take k ++ late) = .ok ⟨tree, []⟩) ∧
        ∀ other, items.take (k + 1) <+: other → parse other = .error (.unexpected ")" ⟨9, 9⟩) := by
  intro items
  let y : Derivation .factor := .name ⟨.identifier, "y", ⟨5, 5⟩⟩ rfl
  let product : Front (.chain .term) :=
    .next (.single y) ⟨.star, "*", ⟨7, 7⟩⟩ .hole rfl trivial
      (by simp [Derivation.factors, Derivation.IsAssignment, y])
  let group : Front .factor := .inner ⟨.leftParen, "(", ⟨4, 4⟩⟩ (.first product) rfl
  let front : Front (.chain .sum) := .first (.first (.value ⟨.identifier, "x", ⟨0, 0⟩⟩
    ⟨.equal, "=", ⟨2, 2⟩⟩ (.first (.first group)) rfl rfl))
  have herror : parse items = .error (.unexpected ")" ⟨9, 9⟩) :=
    parse_eq_error_iff_halts.mpr ⟨_, front, [⟨.rightParen, ")", ⟨9, 9⟩⟩], rfl, .unexpected rfl⟩
  exact ⟨herror, (parse_error_names_first items).1 _ herror (by simp)⟩

end Grammar

end LineCalculator
