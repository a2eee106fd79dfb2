import LineCalculator.Grammar
import Mathlib.Tactic.Common

/-!
# Derivations

The grammar of expressions apart from how they are read:

    sum    := term ((plus | minus) term)*
    term   := factor ((star | slash) factor)*
    factor := number | name | name equal sum | leftParen sum rightParen

It is ambiguous, for the sum after an equal sign may end before any operator that follows.
`AssignmentsLast` picks the derivations in which it never does.
-/
namespace LineCalculator.Grammar

/-- The derivations of a phrase. The star of a chain is unrolled from its end: a chain is one link,
or a chain with an operator and one more link. `items_chain` and `tree_chain` give the star back. -/
inductive Derivation : Phrase → Type
  | number (i : Item) (v : Float) (token : i.token = .number) (value : i.number = .ok v) :
      Derivation .factor
  | name (i : Item) (token : i.token = .identifier) : Derivation .factor
  | assign (i equals : Item) (value : Derivation (.chain .sum)) (token : i.token = .identifier)
      (mark : equals.token = .equal) : Derivation .factor
  | group (opening closing : Item) (inner : Derivation (.chain .sum))
      (left : opening.token = .leftParen) (right : closing.token = .rightParen) :
      Derivation .factor
  | single {l : Level} (link : Derivation (.link l)) : Derivation (.chain l)
  | joined {l : Level} (left : Derivation (.chain l)) (op : Item) (right : Derivation (.link l))
      (joins : l.joins op.token = true) : Derivation (.chain l)

namespace Derivation
variable {k : Phrase} {l : Level}

def items {k : Phrase} : Derivation k → List Item
  | number i _ _ _ => [i]
  | name i _ => [i]
  | assign i equals value _ _ => i :: equals :: value.items
  | group opening closing inner _ _ => opening :: (inner.items ++ [closing])
  | single link => link.items
  | joined left op right _ => left.items ++ op :: right.items

/-- The expression of a derivation; both kinds of chain fold to the left. -/
def tree {k : Phrase} : Derivation k → Expr
  | number _ v _ _ => .number v
  | name i _ => .var i.lexeme
  | assign i _ value _ _ => .assign i.lexeme value.tree
  | group _ _ inner _ _ => inner.tree
  | single link => link.tree
  | joined left op right _ => .binary left.tree op.token right.tree

lemma items_ne_nil (d : Derivation k) : d.items ≠ [] := by
  induction d with
  | number | name | assign | group => exact List.cons_ne_nil _ _
  | single link ih => exact ih
  | joined left op right joins ih _ => simp [items]

def head : Derivation (.chain l) → Derivation (.link l)
  | single link => link
  | joined left _ _ _ => left.head

/-- The further links of a chain in order, each with the operator before it. -/
def links : Derivation (.chain l) → List (Item × Derivation (.link l))
  | single _ => []
  | joined left op right _ => left.links ++ [(op, right)]

theorem items_chain (d : Derivation (.chain l)) :
    d.items = d.head.items ++ d.links.flatMap fun (op, link) => op :: link.items := by
  fun_induction links d with
  | case1 link => simp [items, head]
  | case2 left op right joins ih => simp [items, head, ih]

/-- The expression of a chain folds over its links from the left. -/
theorem tree_chain (d : Derivation (.chain l)) :
    d.tree =
      d.links.foldl (fun left (op, link) => .binary left op.token link.tree) d.head.tree := by
  fun_induction links d with
  | case1 link => simp [tree, head]
  | case2 left op right joins ih => simp [tree, head, ih]

/-- The factors of a phrase from left to right, not those inside its parentheses or after its
equal signs. -/
def factors {k : Phrase} : Derivation k → List (Derivation .factor)
  | number i v token value => [number i v token value]
  | name i token => [name i token]
  | assign i equals value token mark => [assign i equals value token mark]
  | group opening closing inner left right => [group opening closing inner left right]
  | single link => link.factors
  | joined left _ right _ => left.factors ++ right.factors

def IsAssignment : Derivation .factor → Prop
  | assign .. => True
  | _ => False

/-- Every assignment in a derivation is the last factor of the sum that contains it: no operator of
that sum follows it. -/
def AssignmentsLast {k : Phrase} : Derivation k → Prop
  | number .. => True
  | name .. => True
  | assign _ _ value _ _ => value.AssignmentsLast
  | group _ _ inner _ _ => inner.AssignmentsLast
  | single link => link.AssignmentsLast
  | joined left _ right _ =>
    left.AssignmentsLast ∧ right.AssignmentsLast ∧ ∀ f ∈ left.factors, ¬ f.IsAssignment

end Derivation

def Phrase.joins : Phrase → Token → Bool
  | chain l => l.joins
  | _ => fun _ => false

lemma Phrase.link_ne_sum (l : Level) : link l ≠ chain .sum := by cases l <;> simp [link]

lemma Phrase.joins_link (l : Level) (t : Token) :
    (link l).joins t = (l == .sum && t.isMultiplicative) := by cases l <;> rfl

namespace Derivation
variable {k : Phrase} {l : Level} {t : Token}

/-- Whether the last factor, or the last link, of a derivation could go on with a token. -/
def goesOn {k : Phrase} (d : Derivation k) (t : Token) : Bool :=
  match d with
  | number .. => false
  | name .. => t == .equal
  | assign _ _ value _ _ => t.isAdditive || value.goesOn t
  | group .. => false
  | @single l link => (Phrase.link l).joins t || link.goesOn t
  | @joined l _ _ right _ => (Phrase.link l).joins t || right.goesOn t

lemma not_isAssignment_of_goesOn (d : Derivation k) (hd : d.AssignmentsLast)
    (ht : l.joins t = true) (h : d.goesOn t = false) : ∀ f ∈ d.factors, ¬ f.IsAssignment := by
  induction d with
  | number | name | group => simp [factors, IsAssignment]
  | assign i equals value token mark =>
    -- The value is a sum, which any operator goes on with.
    obtain ⟨ha, hg⟩ := Bool.or_eq_false_iff.mp h
    cases l with
    | sum => simp [Level.joins, ha] at ht
    | term => cases value <;> simp [goesOn, Phrase.link, Phrase.joins, ht] at hg
  | single link ih => exact ih hd (Bool.or_eq_false_iff.mp h).2
  | joined left op right joins _ ih =>
    intro f hf
    rcases List.mem_append.mp hf with hl | hr
    · exact hd.2.2 f hl
    · exact ih hd.2.1 (Bool.or_eq_false_iff.mp h).2 f hr

lemma goesOn_cases (d : Derivation k) (h : ∀ f ∈ d.factors, ¬ f.IsAssignment)
    (hg : d.goesOn t = true) : t = .equal ∨ k = .chain .sum ∧ t.isMultiplicative = true := by
  induction d with
  | number | group => simp [goesOn] at hg
  | name i token => exact .inl (by simpa [goesOn] using hg)
  | assign i equals value token mark =>
    exact absurd trivial (h (assign i equals value token mark) (List.mem_singleton.mpr rfl))
  | single link ih =>
    rcases Bool.or_eq_true_iff.mp hg with hj | hg
    · rw [Phrase.joins_link, Bool.and_eq_true, beq_iff_eq] at hj
      exact .inr ⟨by rw [hj.1], hj.2⟩
    · exact .inl ((ih h hg).resolve_right fun hk => Phrase.link_ne_sum _ hk.1)
  | joined left op right joins _ ih =>
    rcases Bool.or_eq_true_iff.mp hg with hj | hg
    · rw [Phrase.joins_link, Bool.and_eq_true, beq_iff_eq] at hj
      exact .inr ⟨by rw [hj.1], hj.2⟩
    · have hr := ih (fun f hf => h f (List.mem_append_right _ hf)) hg
      exact .inl (hr.resolve_right fun hk => Phrase.link_ne_sum _ hk.1)

lemma goesOn_eq_false_of_joins (d : Derivation (.chain l))
    (h : ∀ f ∈ d.factors, ¬ f.IsAssignment) (ht : l.joins t = true) : d.goesOn t = false := by
  by_contra hg
  rcases d.goesOn_cases h (by simpa using hg) with rfl | ⟨hk, hm⟩
  · cases l <;> simp [Level.joins, Token.isAdditive, Token.isMultiplicative] at ht
  · cases hk
    cases t <;> simp [Level.joins, Token.isAdditive, Token.isMultiplicative] at ht hm

lemma goesOn_eq_false (d : Derivation k) (ha : t.isAdditive = false)
    (hm : t.isMultiplicative = false) (he : t ≠ .equal) : d.goesOn t = false := by
  induction d with
  | number | group => rfl
  | name i token => simpa [goesOn] using he
  | assign i equals value token mark ih => simp [goesOn, ha, ih]
  | single link ih => simp [goesOn, Phrase.joins_link, hm, ih]
  | joined left op right joins _ ih => simp [goesOn, Phrase.joins_link, hm, ih]

lemma goesOn_equal (d : Derivation k) :
    d.goesOn .equal = true ↔ ∃ last ∈ d.items.getLast?, last.token = .identifier := by
  induction d with
  | number i v token value => simp [goesOn, items, token]
  | name i token => simp [goesOn, items, token]
  | assign i equals value token mark ih =>
    have hlast : (i :: equals :: value.items).getLast? = value.items.getLast? := by
      rw [List.getLast?_cons_of_ne_nil (by simp), List.getLast?_cons_of_ne_nil value.items_ne_nil]
    simp [goesOn, items, Token.isAdditive, ih, hlast]
  | group opening closing inner left right =>
    have hlast : (opening :: (inner.items ++ [closing])).getLast? = some closing := by
      rw [← List.cons_append, List.getLast?_concat]
    simp [goesOn, items, hlast, right]
  | single link ih => simp [goesOn, Phrase.joins_link, Token.isMultiplicative, items, ih]
  | joined left op right joins _ ih =>
    have hlast : (left.items ++ op :: right.items).getLast? = right.items.getLast? := by
      rw [List.append_cons, List.getLast?_append, List.getLast?_eq_some_getLast right.items_ne_nil]
      rfl
    simp [goesOn, Phrase.joins_link, Token.isMultiplicative, items, ih, hlast]

end Derivation

end LineCalculator.Grammar
