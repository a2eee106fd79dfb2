import LineCalculator.Grammar
import Mathlib.Tactic.Lemma

/-!
# Successful readings

`Reads` lists what a reading that succeeds can do, one rule for each way in which `read` goes on.
It is exactly the success of `read`, and of `parse` at the top, so that what holds of every reading
is proved by induction on the rules.
-/
namespace LineCalculator.Grammar

/-- `Reads phrase items e rest`: the phrase at the front of `items` is the expression `e`, and
`rest` are the items after it. -/
inductive Reads : Phrase → List Item → Expr → List Item → Prop
  | number {i : Item} {rest : List Item} {v : Float} (token : i.token = .number)
      (value : i.number = .ok v) : Reads .factor (i :: rest) (.number v) rest
  | var {i : Item} {rest : List Item} (token : i.token = .identifier)
      (alone : ∀ next ∈ rest.head?, next.token ≠ .equal) :
      Reads .factor (i :: rest) (.var i.lexeme) rest
  | assign {i equals : Item} {items rest : List Item} {e : Expr} (token : i.token = .identifier)
      (mark : equals.token = .equal) (value : Reads (.chain .sum) items e rest) :
      Reads .factor (i :: equals :: items) (.assign i.lexeme e) rest
  | group {opening closing : Item} {items rest : List Item} {e : Expr}
      (left : opening.token = .leftParen) (inner : Reads (.chain .sum) items e (closing :: rest))
      (right : closing.token = .rightParen) : Reads .factor (opening :: items) e rest
  | chain {l : Level} {items mid rest : List Item} {a e : Expr}
      (first : Reads (.link l) items a mid) (tail : Reads (.more l a) mid e rest) :
      Reads (.chain l) items e rest
  | stop {l : Level} {items : List Item} {left : Expr}
      (quiet : ∀ next ∈ items.head?, l.joins next.token = false) :
      Reads (.more l left) items left items
  | join {l : Level} {op : Item} {items mid rest : List Item} {left b e : Expr}
      (joins : l.joins op.token = true) (link : Reads (.link l) items b mid)
      (tail : Reads (.more l (.binary left op.token b)) mid e rest) :
      Reads (.more l left) (op :: items) e rest

lemma reads_of_read {phrase : Phrase} {items : List Item} {r : Reading phrase items}
    (h : read phrase items = .ok r) : Reads phrase items r.expr r.rest := by
  fun_induction read phrase items with
  | case1 | case3 | case5 | case8 | case9 | case11 | case12 | case13 | case14 | case17 | case18 =>
    contradiction
  | case2 i rest ht v hv =>
    cases h
    exact .number ht hv
  | case4 i ht =>
    cases h
    exact .var ht (by simp)
  | case6 i ht next after he value hv ih =>
    cases h
    exact .assign ht he (ih hv)
  | case7 i ht next after he =>
    cases h
    exact .var ht (by simpa using he)
  | case10 i rest ht inner close after hp hv hc ih =>
    cases h
    exact .group ht (ih hv) hc
  | case15 l items first hf whole hw ihf ihw =>
    cases h
    exact .chain (ihf hf) (ihw hw)
  | case16 l left =>
    cases h
    exact .stop (by simp)
  | case19 l left op rest hj right hr whole hw ihr ihw =>
    cases h
    exact .join hj (ihr hr) (ihw hw)
  | case20 l left op rest hj =>
    cases h
    exact .stop (by simpa using hj)

lemma Reads.read {phrase : Phrase} {items rest : List Item} {e : Expr}
    (h : Reads phrase items e rest) :
    ∃ r, Grammar.read phrase items = .ok r ∧ r.expr = e ∧ r.rest = rest := by
  induction h with
  | number ht hv => rw [read.eq_def]; simp [ht, hv]
  | @var i rest ht ha =>
    rw [read.eq_def]
    cases rest with
    | nil => simp [ht]
    | cons next after => simp [ht, show next.token ≠ .equal from ha next rfl]
  | assign ht he _ ih =>
    obtain ⟨value, hv, rfl, rfl⟩ := ih
    rw [read.eq_def]
    simp [ht, he, hv]
  | group ho _ hc ih =>
    obtain ⟨⟨e, _, _⟩, hv, rfl, rfl⟩ := ih
    rw [read.eq_def]
    simp [ho, hc, hv]
  | chain _ _ ihf iht =>
    obtain ⟨first, hf, rfl, rfl⟩ := ihf
    obtain ⟨whole, hw, rfl, rfl⟩ := iht
    rw [read.eq_def]
    simp [hf, hw]
  | @stop l items left hq =>
    rw [read.eq_def]
    cases items with
    | nil => simp
    | cons next after => simp [hq next rfl]
  | join hj _ _ ihl iht =>
    obtain ⟨right, hl, rfl, rfl⟩ := ihl
    obtain ⟨whole, hw, rfl, rfl⟩ := iht
    rw [read.eq_def]
    simp [hj, hl, hw]

/-- The rules derive exactly the successes of `parse`. -/
theorem parse_eq_ok_iff_reads {items : List Item} {p : Parsed} :
    parse items = .ok p ↔ Reads (.chain .sum) items p.expr p.rest := by
  unfold parse
  constructor
  · intro h
    cases hr : read (.chain .sum) items with
    | error refusal => simp [hr] at h
    | ok reading =>
      rw [hr] at h
      cases h
      exact reads_of_read hr
  · intro h
    obtain ⟨reading, hr, he, hrest⟩ := h.read
    simp only [hr, he, hrest]

end LineCalculator.Grammar
