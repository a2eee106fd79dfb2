import LineCalculator.Proofs.Grammar.Parse

/-!
# Printing with few parentheses

An expression is printed as items with parentheses only where reading it back needs them: for a sum
as an operand of a product or as a right operand, for a product as the right operand of a product,
and for an assignment that an operator follows before the next parenthesis closes. The last
depends on what stands around the expression, so that printing is told whether an operator follows.
-/
namespace LineCalculator

/-- What parsing sees of an item, its place apart. -/
def Item.piece (i : Item) : Token × String := (i.token, i.lexeme)

/-- How an expression is to be spelled: each number has a text that is read as that number, and
every operator is one of the four. -/
inductive Spelling : Expr → Type
  | number {v : Float} (lexeme : String)
      (reads : ∃ span, (Item.mk .number lexeme span).number = .ok v) : Spelling (.number v)
  | var (x : String) : Spelling (.var x)
  | binary {l r : Expr} {op : Token} (left : Spelling l)
      (operator : op ∈ [Token.plus, .minus, .star, .slash]) (right : Spelling r) :
      Spelling (.binary l op r)
  | assign {e : Expr} (x : String) (value : Spelling e) : Spelling (.assign x e)

namespace Grammar

/-- Where an expression stands: by itself, in parentheses or after an equal sign, or beside an
operator of some level. -/
inductive Seat where
  | whole
  | left (outer : Level)
  | right (outer : Level)
  deriving DecidableEq, Repr

/-- Whether a node with an operator of some level gets parentheses. -/
def Seat.groups : Seat → Level → Bool
  | left .term, .sum => true
  | right _, .sum => true
  | right .term, .term => true
  | _, _ => false

def levelOf (op : Token) : Level := if op.isAdditive then .sum else .term

lemma joins_levelOf {op : Token} (h : op ∈ [Token.plus, .minus, .star, .slash]) :
    (levelOf op).joins op = true := by
  simp only [List.mem_cons, List.not_mem_nil, or_false] at h
  rcases h with rfl | rfl | rfl | rfl <;> rfl

def parenthesized (yes : Bool) (pieces : List (Token × String)) : List (Token × String) :=
  if yes then (.leftParen, "(") :: (pieces ++ [(.rightParen, ")")]) else pieces

/-- The pieces of an expression; `followed` says that an operator comes after it before the next
parenthesis closes. -/
def print {e : Expr} (seat : Seat) (followed : Bool) : Spelling e → List (Token × String)
  | .number lexeme _ => [(.number, lexeme)]
  | .var x => [(.identifier, x)]
  | @Spelling.binary _ _ op left _ right =>
    let level := levelOf op
    let grouped := seat.groups level
    parenthesized grouped
      (print (.left level) true left ++
        (op, op.text) :: print (.right level) (followed && !grouped) right)
  | .assign x value =>
    parenthesized followed ((.identifier, x) :: (.equal, "=") :: print .whole false value)

def Seat.phrase : Seat → Phrase
  | whole => .chain .sum
  | left outer => .chain outer
  | right outer => .link outer

/-- The items derive an expression with its assignments last, and with none among its factors if an
operator follows. -/
def Derives (k : Phrase) (items : List Item) (e : Expr) (followed : Bool) : Prop :=
  ∃ d : Derivation k, d.items = items ∧ d.tree = e ∧ d.AssignmentsLast ∧
    (followed = true → ∀ f ∈ d.factors, ¬ f.IsAssignment)

namespace Derives
variable {l : Level} {items : List Item} {e : Expr} {followed : Bool}

lemma single (h : Derives (.link l) items e followed) : Derives (.chain l) items e followed := by
  obtain ⟨d, hitems, htree, hlast, hnone⟩ := h
  exact ⟨.single d, hitems, htree, hlast, hnone⟩

lemma chain_of_term (h : Derives (.chain .term) items e followed) (l : Level) :
    Derives (.chain l) items e followed := by
  cases l with
  | sum => exact single (l := .sum) h
  | term => exact h

lemma of_factor (h : Derives .factor items e followed) (seat : Seat) :
    Derives seat.phrase items e followed := by
  have hterm : Derives (.chain .term) items e followed := single (l := .term) h
  cases seat with
  | whole => exact hterm.chain_of_term .sum
  | left outer => exact hterm.chain_of_term outer
  | right outer =>
    cases outer with
    | sum => exact hterm
    | term => exact h

lemma of_chain {seat : Seat} (h : Derives (.chain l) items e followed)
    (hg : seat.groups l = false) : Derives seat.phrase items e followed := by
  cases l with
  | sum =>
    cases seat with
    | whole => exact h
    | left outer =>
      cases outer with
      | sum => exact h
      | term => simp [Seat.groups] at hg
    | right outer => simp [Seat.groups] at hg
  | term =>
    cases seat with
    | whole => exact h.chain_of_term .sum
    | left outer => exact h.chain_of_term outer
    | right outer =>
      cases outer with
      | sum => exact h
      | term => simp [Seat.groups] at hg

lemma group {opening closing : Item} (hl : opening.token = .leftParen)
    (hr : closing.token = .rightParen) (h : Derives (.chain .sum) items e false) :
    Derives .factor (opening :: (items ++ [closing])) e followed := by
  obtain ⟨d, rfl, htree, hlast, -⟩ := h
  -- The parenthesis closes the sum, so that it does not matter what follows.
  refine ⟨.group opening closing d hl hr, rfl, htree, hlast, fun _ => ?_⟩
  simp [Derivation.factors, Derivation.IsAssignment]

lemma joined {op : Item} {more : List Item} {right : Expr} (hj : l.joins op.token = true)
    (h : Derives (.chain l) items e true) (h' : Derives (.link l) more right followed) :
    Derives (.chain l) (items ++ op :: more) (.binary e op.token right) followed := by
  obtain ⟨a, rfl, rfl, ha, hnone⟩ := h
  obtain ⟨b, rfl, rfl, hb, hnone'⟩ := h'
  refine ⟨.joined a op b hj, rfl, rfl, ⟨ha, hb, hnone rfl⟩, fun hf => ?_⟩
  exact List.forall_mem_append.mpr ⟨hnone rfl, hnone' hf⟩

end Derives

lemma exists_of_parenthesized {items : List Item} {pieces : List (Token × String)}
    (h : items.map Item.piece = parenthesized true pieces) :
    ∃ opening inner closing, items = opening :: (inner ++ [closing]) ∧
      opening.token = .leftParen ∧ closing.token = .rightParen ∧
      inner.map Item.piece = pieces := by
  obtain ⟨opening, rest, rfl, hopening, hrest⟩ := List.map_eq_cons_iff.mp h
  obtain ⟨inner, last, rfl, hinner, hlast⟩ := List.map_eq_append_iff.mp hrest
  obtain ⟨closing, rfl, hclosing⟩ := List.map_eq_singleton_iff.mp hlast
  exact ⟨opening, inner, closing, rfl, congrArg Prod.fst hopening, congrArg Prod.fst hclosing,
    hinner⟩

lemma number_of_lexeme {i j : Item} {v : Float} (h : i.lexeme = j.lexeme) (hv : i.number = .ok v) :
    j.number = .ok v := by
  unfold Item.number at hv ⊢
  rw [← h]
  cases hn : Numeral.read? i.lexeme with
  | none => simp [hn] at hv
  | some n =>
    simp only [hn] at hv ⊢
    split at hv
    · rwa [if_pos ‹_›]
    · contradiction

theorem derives_print {e : Expr} (s : Spelling e) {seat : Seat} {followed : Bool}
    {items : List Item} (h : items.map Item.piece = print seat followed s) :
    Derives seat.phrase items e followed := by
  induction s generalizing seat followed items with
  | @number v lexeme reads =>
    obtain ⟨i, rfl, hi⟩ := List.map_eq_singleton_iff.mp h
    obtain ⟨span, hv⟩ := reads
    obtain ⟨ht, hlexeme⟩ := Prod.mk.inj hi
    have hvalue : i.number = .ok v := number_of_lexeme hlexeme.symm hv
    refine Derives.of_factor ⟨.number i v ht hvalue, rfl, rfl, trivial, fun _ => ?_⟩ seat
    simp [Derivation.factors, Derivation.IsAssignment]
  | var x =>
    obtain ⟨i, rfl, hi⟩ := List.map_eq_singleton_iff.mp h
    obtain ⟨ht, rfl⟩ := Prod.mk.inj hi
    refine Derives.of_factor ⟨.name i ht, rfl, rfl, trivial, fun _ => ?_⟩ seat
    simp [Derivation.factors, Derivation.IsAssignment]
  | @binary l r op left operator right ihl ihr =>
    -- The node without parentheses, whatever follows it.
    have hnode : ∀ {items : List Item} {followed : Bool},
        items.map Item.piece = print (.left (levelOf op)) true left ++
          (op, op.text) :: print (.right (levelOf op)) followed right →
        Derives (.chain (levelOf op)) items (.binary l op r) followed := by
      intro items followed hitems
      obtain ⟨first, rest, rfl, hfirst, hrest⟩ := List.map_eq_append_iff.mp hitems
      obtain ⟨i, second, rfl, hi, hsecond⟩ := List.map_eq_cons_iff.mp hrest
      obtain ⟨rfl, -⟩ := Prod.mk.inj hi
      exact (ihl hfirst).joined (joins_levelOf operator) (ihr hsecond)
    rw [print] at h
    cases hg : seat.groups (levelOf op) with
    | false =>
      rw [hg, Bool.not_false, Bool.and_true] at h
      exact (hnode h).of_chain hg
    | true =>
      rw [hg, Bool.not_true, Bool.and_false] at h
      obtain ⟨opening, inner, closing, rfl, hl, hr, hinner⟩ := exists_of_parenthesized h
      have hsum : Derives (Seat.phrase .whole) inner (.binary l op r) false :=
        (hnode hinner).of_chain rfl
      exact (Derives.group hl hr hsum).of_factor seat
  | @assign e x value ih =>
    have hassign : ∀ {items : List Item},
        items.map Item.piece = (.identifier, x) :: (.equal, "=") :: print .whole false value →
        Derives .factor items (.assign x e) false := by
      intro items hitems
      obtain ⟨i, rest, rfl, hi, hrest⟩ := List.map_eq_cons_iff.mp hitems
      obtain ⟨equals, rest, rfl, hequals, hvalue⟩ := List.map_eq_cons_iff.mp hrest
      obtain ⟨ht, rfl⟩ := Prod.mk.inj hi
      obtain ⟨d, rfl, rfl, hlast, -⟩ := ih hvalue
      exact ⟨.assign i equals d ht (congrArg Prod.fst hequals), rfl, rfl, hlast, by simp⟩
    rw [print] at h
    cases followed with
    | false => exact (hassign h).of_factor seat
    | true =>
      obtain ⟨opening, inner, closing, rfl, hl, hr, hinner⟩ := exists_of_parenthesized h
      have hsum := (hassign hinner).of_factor .whole
      exact (Derives.group hl hr hsum).of_factor seat

/-- Parsing what is printed for an expression, at whatever places, gives the expression back and
takes all of it, at the end of the items or before the end of input. -/
theorem parse_print {e : Expr} (s : Spelling e) {items rest : List Item}
    (h : items.map Item.piece = print .whole false s)
    (hrest : rest = [] ∨ ∃ last, last.token = .endOfInput ∧ rest = [last]) :
    parse (items ++ rest) = .ok ⟨e, rest⟩ := by
  obtain ⟨d, rfl, htree, hlast, -⟩ := derives_print s h
  refine parse_eq_ok_iff_derived.mpr ⟨d, hlast, htree, rfl, (stopsBefore_iff d rest).mpr ?_⟩
  rcases hrest with rfl | ⟨last, ht, rfl⟩
  · simp
  · simp [ht, Token.isAdditive, Token.isMultiplicative]

/-- `(x = 2) * (a - y = b) + c`: the first assignment is followed by an operator before the line
ends, the second one only by the end of its parentheses. -/
theorem parse_print_mixed :
    let e : Expr := .binary (.binary (.assign "x" (.number 2)) .star
      (.binary (.var "a") .minus (.assign "y" (.var "b")))) .plus (.var "c")
    let items : List Item := [⟨.leftParen, "(", ⟨0, 0⟩⟩, ⟨.identifier, "x", ⟨1, 1⟩⟩,
      ⟨.equal, "=", ⟨3, 3⟩⟩, ⟨.number, "2", ⟨5, 5⟩⟩, ⟨.rightParen, ")", ⟨6, 6⟩⟩,
      ⟨.star, "*", ⟨8, 8⟩⟩, ⟨.leftParen, "(", ⟨10, 10⟩⟩, ⟨.identifier, "a", ⟨11, 11⟩⟩,
      ⟨.minus, "-", ⟨13, 13⟩⟩, ⟨.identifier, "y", ⟨15, 15⟩⟩, ⟨.equal, "=", ⟨17, 17⟩⟩,
      ⟨.identifier, "b", ⟨19, 19⟩⟩, ⟨.rightParen, ")", ⟨20, 20⟩⟩, ⟨.plus, "+", ⟨22, 22⟩⟩,
      ⟨.identifier, "c", ⟨24, 24⟩⟩]
    let rest : List Item := [⟨.endOfInput, "", ⟨25, 25⟩⟩]
    (∃ s : Spelling e, items.map Item.piece = print .whole false s) ∧
      parse (items ++ rest) = .ok ⟨e, rest⟩ := by
  intro e items rest
  let two : Spelling (.number 2) := .number "2" ⟨.single 0, by decide +kernel⟩
  let s : Spelling e := .binary (.binary (.assign "x" two) (by decide)
    (.binary (.var "a") (by decide) (.assign "y" (.var "b")))) (by decide) (.var "c")
  have hitems : items.map Item.piece = print .whole false s := by rfl
  exact ⟨⟨s, hitems⟩, parse_print s hitems (.inr ⟨_, rfl, rfl⟩)⟩

end Grammar

end LineCalculator
