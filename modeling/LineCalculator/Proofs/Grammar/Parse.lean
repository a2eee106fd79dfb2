import LineCalculator.Proofs.Grammar.Derivation
import LineCalculator.Proofs.Grammar.Reading
import Mathlib.Tactic.Common

/-!
# What is parsed

Reading is compared with the grammar. A derivation whose assignments come last is read back as it
is, in front of anything that does not go on with it; and what is read has such a derivation. So
`parse` takes the one front of the items that can be derived and cannot go on.
-/
namespace LineCalculator.Grammar
open LineCalculator.Grammar.Derivation

/-- What is left to read of a phrase after the expression `left` of its front: nothing for a
factor, any further links for a chain. -/
def Resumes : Phrase → Expr → List Item → Expr → List Item → Prop
  | .chain l, left, items, e, rest => Reads (.more l left) items e rest
  | _, left, items, e, rest => e = left ∧ rest = items

lemma resumes_refl {k : Phrase} {items : List Item} (left : Expr)
    (h : ∀ next ∈ items.head?, k.joins next.token = false) : Resumes k left items left items := by
  cases k with
  | chain l => exact .stop h
  | factor | more => exact ⟨rfl, rfl⟩

/-- Completeness. A chain is not read to its end here, for its last operator goes on with all that
is left of it. -/
theorem Derivation.reads {k : Phrase} (d : Derivation k) (hd : d.AssignmentsLast)
    {r rest : List Item} {e : Expr} (hq : ∀ next ∈ r.head?, d.goesOn next.token = false)
    (hr : Resumes k d.tree r e rest) : Reads k (d.items ++ r) e rest := by
  induction d generalizing r e rest with
  | number i v token value =>
    obtain ⟨rfl, rfl⟩ := hr
    exact .number token value
  | name i token =>
    obtain ⟨rfl, rfl⟩ := hr
    exact .var token fun next hn => by simpa [goesOn] using hq next hn
  | assign i equals value token mark ih =>
    obtain ⟨rfl, rfl⟩ := hr
    have hv := fun next hn => Bool.or_eq_false_iff.mp (hq next hn)
    exact .assign token mark (ih hd (fun next hn => (hv next hn).2)
      (.stop fun next hn => (hv next hn).1))
  | group opening closing inner left right ih =>
    obtain ⟨rfl, rfl⟩ := hr
    have hclosing : ∀ next ∈ (closing :: rest).head?, inner.goesOn next.token = false := by
      intro next hn
      cases hn
      exact inner.goesOn_eq_false (by simp [right, Token.isAdditive])
        (by simp [right, Token.isMultiplicative]) (by simp [right])
    have hinner := ih hd hclosing (.stop (by simp [right, Level.joins, Token.isAdditive]))
    simpa [items, tree] using Reads.group left hinner right
  | single link ih =>
    have hv := fun next hn => Bool.or_eq_false_iff.mp (hq next hn)
    exact .chain (ih hd (fun next hn => (hv next hn).2)
      (resumes_refl _ fun next hn => (hv next hn).1)) hr
  | joined left op right joins ihl ihr =>
    have hv := fun next hn => Bool.or_eq_false_iff.mp (hq next hn)
    have hlink := ihr hd.2.1 (fun next hn => (hv next hn).2)
      (resumes_refl _ fun next hn => (hv next hn).1)
    have hop : ∀ next ∈ (op :: (right.items ++ r)).head?, left.goesOn next.token = false := by
      intro next hn
      cases hn
      exact left.goesOn_eq_false_of_joins hd.2.2 joins
    simpa [items] using ihl hd.1 hop (.join joins hlink hr)

/-- Nothing at the front of `r` goes on with a derivation. -/
def Derivation.StopsBefore {k : Phrase} (d : Derivation k) (r : List Item) : Prop :=
  ∀ next ∈ r.head?, k.joins next.token = false ∧ d.goesOn next.token = false

def Derived (k : Phrase) (items : List Item) (e : Expr) (rest : List Item) : Prop :=
  ∃ d : Derivation k, d.AssignmentsLast ∧ d.tree = e ∧ items = d.items ++ rest ∧ d.StopsBefore rest

/-- Soundness of one reading. The rest of a chain is read after a derivation of the links before. -/
def Sound : Phrase → List Item → Expr → List Item → Prop
  | .more l left, items, e, rest =>
    ∀ d : Derivation (.chain l), d.AssignmentsLast → d.tree = left →
      (∀ next ∈ items.head?, d.goesOn next.token = false) →
      Derived (.chain l) (d.items ++ items) e rest
  | k, items, e, rest => Derived k items e rest

lemma Sound.link {l : Level} {items rest : List Item} {e : Expr}
    (h : Sound (.link l) items e rest) : Derived (.link l) items e rest := by cases l <;> exact h

theorem Reads.sound {k : Phrase} {items rest : List Item} {e : Expr} (h : Reads k items e rest) :
    Sound k items e rest := by
  induction h with
  | number ht hv =>
    exact ⟨.number _ _ ht hv, trivial, rfl, rfl, fun _ _ => ⟨rfl, rfl⟩⟩
  | var ht ha =>
    exact ⟨.name _ ht, trivial, rfl, rfl, fun next hn => ⟨rfl, by simpa [goesOn] using ha next hn⟩⟩
  | assign ht he _ ih =>
    obtain ⟨d, hd, rfl, rfl, hs⟩ := ih
    refine ⟨.assign _ _ d ht he, hd, rfl, rfl, fun next hn => ⟨rfl, ?_⟩⟩
    exact Bool.or_eq_false_iff.mpr (hs next hn)
  | group ho _ hc ih =>
    obtain ⟨d, hd, rfl, rfl, -⟩ := ih
    exact ⟨.group _ _ d ho hc, hd, rfl, by simp [Derivation.items], fun _ _ => ⟨rfl, rfl⟩⟩
  | chain _ _ ihf iht =>
    obtain ⟨d, hd, rfl, rfl, hs⟩ := ihf.link
    exact iht (.single d) hd rfl fun next hn => Bool.or_eq_false_iff.mpr (hs next hn)
  | stop hq =>
    intro d hd ht hg
    exact ⟨d, hd, ht, rfl, fun next hn => ⟨hq next hn, hg next hn⟩⟩
  | @join l op _ _ _ _ _ _ hj _ _ ihl iht =>
    intro d hd ht hg
    obtain ⟨b, hb, rfl, rfl, hs⟩ := ihl.link
    -- The links so far leave an operator over, so that none of them ends with an assignment.
    have hclosed := d.not_isAssignment_of_goesOn hd hj (hg op rfl)
    have hjoined := iht (.joined d op b hj) ⟨hd, hb, hclosed⟩ (by rw [← ht]; rfl)
      fun next hn => Bool.or_eq_false_iff.mpr (hs next hn)
    simpa [Derivation.items] using hjoined

lemma stopsBefore_iff (d : Derivation (.chain .sum)) (r : List Item) :
    d.StopsBefore r ↔ ∀ next ∈ r.head?,
      next.token.isAdditive = false ∧ next.token.isMultiplicative = false ∧
        (next.token = .equal → ∀ last ∈ d.items.getLast?, last.token ≠ .identifier) := by
  refine forall₂_congr fun next _ => and_congr_right fun ha => ?_
  constructor
  · intro hg
    refine ⟨?_, fun he last hl ht => ?_⟩
    · cases d with
      | single link => exact (Bool.or_eq_false_iff.mp hg).1
      | joined left op right joins => exact (Bool.or_eq_false_iff.mp hg).1
    · rw [he, ← Bool.not_eq_true, goesOn_equal] at hg
      exact hg ⟨last, hl, ht⟩
  · rintro ⟨hm, he⟩
    by_cases hequal : next.token = .equal
    · rw [hequal, ← Bool.not_eq_true, goesOn_equal]
      rintro ⟨last, hl, ht⟩
      exact he hequal last hl ht
    · exact d.goesOn_eq_false ha hm hequal

theorem parse_eq_ok_iff_derived {items rest : List Item} {e : Expr} :
    parse items = .ok ⟨e, rest⟩ ↔ Derived (.chain .sum) items e rest := by
  rw [parse_eq_ok_iff_reads]
  constructor
  · exact Reads.sound
  · rintro ⟨d, hd, rfl, rfl, hs⟩
    exact d.reads hd (fun next hn => (hs next hn).2) (resumes_refl _ fun next hn => (hs next hn).1)

/-- `items` is `p`, which derives the expression `e`, and then `r`, which does not go on with it. -/
structure Splits (items p r : List Item) (e : Expr) : Prop where
  parts : items = p ++ r
  derived : ∃ d : Derivation (.chain .sum), d.AssignmentsLast ∧ d.items = p ∧ d.tree = e
  noOperator : ∀ next ∈ r.head?, next.token ∉ [Token.plus, .minus, .star, .slash]
  noMark : ∀ next ∈ r.head?, next.token = .equal → ∀ last ∈ p.getLast?, last.token ≠ .identifier

lemma not_mem_operators_iff {t : Token} : t ∉ [Token.plus, .minus, .star, .slash] ↔
    t.isAdditive = false ∧ t.isMultiplicative = false := by
  cases t <;> simp [Token.isAdditive, Token.isMultiplicative]

lemma derived_iff_splits {items r : List Item} {e : Expr} :
    Derived (.chain .sum) items e r ↔ ∃ p, Splits items p r e := by
  constructor
  · rintro ⟨d, hd, rfl, rfl, hs⟩
    rw [stopsBefore_iff] at hs
    refine ⟨d.items, rfl, ⟨d, hd, rfl, rfl⟩, fun next hn => ?_, fun next hn => (hs next hn).2.2⟩
    exact not_mem_operators_iff.mpr ⟨(hs next hn).1, (hs next hn).2.1⟩
  · rintro ⟨p, rfl, ⟨d, hd, rfl, rfl⟩, ho, hm⟩
    refine ⟨d, hd, rfl, rfl, (stopsBefore_iff d r).mpr fun next hn => ?_⟩
    obtain ⟨ha, hx⟩ := not_mem_operators_iff.mp (ho next hn)
    exact ⟨ha, hx, hm next hn⟩

lemma parse_eq_ok_iff_exists_splits {items r : List Item} {e : Expr} :
    parse items = .ok ⟨e, r⟩ ↔ ∃ p, Splits items p r e :=
  parse_eq_ok_iff_derived.trans derived_iff_splits

/-- `ignored` is `r` without an end of input at its end. -/
def WithoutEnd (r ignored : List Item) : Prop :=
  (∃ last, last.token = .endOfInput ∧ r = ignored ++ [last]) ∨
    (ignored = r ∧ ∀ last ∈ r.getLast?, last.token ≠ .endOfInput)

lemma withoutEnd_ignored (p : Parsed) : WithoutEnd p.rest p.ignored := by
  unfold Parsed.ignored
  cases hl : p.rest.getLast? with
  | none => exact .inr ⟨(List.getLast?_eq_none_iff.mp hl).symm, by simp [hl]⟩
  | some last =>
    by_cases ht : last.token = .endOfInput
    · refine .inl ⟨last, ht, ?_⟩
      change p.rest = (if last.token = .endOfInput then p.rest.dropLast else p.rest) ++ [last]
      obtain ⟨init, hinit⟩ := List.getLast?_eq_some_iff.mp hl
      rw [if_pos ht, hinit, List.dropLast_concat]
    · refine .inr ⟨if_neg ht, ?_⟩
      simpa [hl] using ht

/-- A list of items is parsed as `e` exactly when a front of it derives `e`, with every assignment
last in its sum, and what follows does not go on with that front. There is only one such front and
one such `e`; parsing ends right after the front and ignores the rest but for the end of input. -/
theorem parse_iff_splits (items : List Item) :
    (∀ e, (parse items).map Parsed.expr = .ok e ↔ ∃ p r, Splits items p r e) ∧
    ∀ p r e, Splits items p r e →
      (∀ p' r' e', Splits items p' r' e' → p' = p ∧ r' = r ∧ e' = e) ∧
      ∃ parsed, parse items = .ok parsed ∧ parsed.expr = e ∧ parsed.rest = r ∧
        parsed.rest = items.drop p.length ∧ WithoutEnd r parsed.ignored := by
  constructor
  · intro e
    constructor
    · intro h
      cases hp : parse items with
      | error err => simp [hp, Except.map] at h
      | ok parsed =>
        obtain rfl : parsed.expr = e := by simpa [hp, Except.map] using h
        obtain ⟨p, hs⟩ := parse_eq_ok_iff_exists_splits.mp hp
        exact ⟨p, parsed.rest, hs⟩
    · rintro ⟨p, r, hs⟩
      rw [parse_eq_ok_iff_exists_splits.mpr ⟨p, hs⟩]
      rfl
  · intro p r e hs
    have hp : parse items = .ok ⟨e, r⟩ := parse_eq_ok_iff_exists_splits.mpr ⟨p, hs⟩
    refine ⟨fun p' r' e' hs' => ?_, ⟨e, r⟩, hp, rfl, rfl, ?_, withoutEnd_ignored ⟨e, r⟩⟩
    · have hp' := parse_eq_ok_iff_exists_splits.mpr ⟨p', hs'⟩
      rw [hp] at hp'
      cases hp'
      exact ⟨List.append_cancel_right (hs'.parts.symm.trans hs.parts), rfl, rfl⟩
    · rw [hs.parts, List.drop_left]

/-- `2 * x = y + z )`: the assignment takes all of the sum, and the parenthesis is ignored. -/
theorem parse_iff_splits_product :
    let p : List Item := [⟨.number, "2", ⟨0, 0⟩⟩, ⟨.star, "*", ⟨2, 2⟩⟩, ⟨.identifier, "x", ⟨4, 4⟩⟩,
      ⟨.equal, "=", ⟨6, 6⟩⟩, ⟨.identifier, "y", ⟨8, 8⟩⟩, ⟨.plus, "+", ⟨10, 10⟩⟩,
      ⟨.identifier, "z", ⟨12, 12⟩⟩]
    let r : List Item := [⟨.rightParen, ")", ⟨14, 14⟩⟩, ⟨.endOfInput, "", ⟨15, 15⟩⟩]
    let e : Expr := .binary (.number 2) .star (.assign "x" (.binary (.var "y") .plus (.var "z")))
    Splits (p ++ r) p r e ∧ ∃ parsed, parse (p ++ r) = .ok parsed ∧ parsed.expr = e ∧
      parsed.rest = r ∧ WithoutEnd r parsed.ignored := by
  intro p r e
  let y : Derivation .factor := .name ⟨.identifier, "y", ⟨8, 8⟩⟩ rfl
  let z : Derivation .factor := .name ⟨.identifier, "z", ⟨12, 12⟩⟩ rfl
  let value : Derivation (.chain .sum) :=
    .joined (.single (.single y)) ⟨.plus, "+", ⟨10, 10⟩⟩ (.single z) rfl
  let two : Derivation .factor := .number ⟨.number, "2", ⟨0, 0⟩⟩ 2 rfl (by decide +kernel)
  let x : Derivation .factor :=
    .assign ⟨.identifier, "x", ⟨4, 4⟩⟩ ⟨.equal, "=", ⟨6, 6⟩⟩ value rfl rfl
  let product : Derivation (.chain .term) := .joined (.single two) ⟨.star, "*", ⟨2, 2⟩⟩ x rfl
  have hlast : (Derivation.single (l := .sum) product).AssignmentsLast := by
    simp [AssignmentsLast, product, x, value, two, y, z, factors, IsAssignment]
  have hs : Splits (p ++ r) p r e :=
    ⟨rfl, ⟨.single product, hlast, rfl, rfl⟩, by simp [r], by simp [r]⟩
  obtain ⟨parsed, hp, he, hr, -, hi⟩ := ((parse_iff_splits (p ++ r)).2 p r e hs).2
  exact ⟨hs, parsed, hp, he, hr, hi⟩

end LineCalculator.Grammar
