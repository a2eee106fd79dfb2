import LineCalculator.Proofs.Grammar.Reading
import Mathlib.Tactic.Common

/-!
# Failed readings

`Refuses` lists what a reading that fails can do, as `Reads` does for one that succeeds. It begins
where a factor has to stand and there is none, `Halts`, and every phrase around that place passes
the refusal on as it is.
-/
namespace LineCalculator

def Token.beginsFactor : Token → Bool
  | number | identifier | leftParen => true
  | _ => false

lemma Item.number_eq_error {i : Item} {e : ParseError} (h : i.number = .error e) :
    e = .malformedNumber i.lexeme i.span ∨ e = .numberOutOfRange i.lexeme i.span := by
  unfold Item.number at h
  split at h
  · cases h
    exact .inl rfl
  · dsimp only at h
    split at h
    · contradiction
    · cases h
      exact .inr rfl

namespace Grammar

/-- `Halts items refusal`: the items begin with no factor, and it is not a phrase inside them that
fails. -/
inductive Halts : List Item → Refusal → Prop
  | nothing : Halts [] ⟨.outOfItems, []⟩
  | number {i : Item} {rest : List Item} {e : ParseError} (token : i.token = .number)
      (value : i.number = .error e) : Halts (i :: rest) ⟨e, rest⟩
  | unexpected {i : Item} {rest : List Item} (token : i.token.beginsFactor = false) :
      Halts (i :: rest) ⟨.unexpected i.label i.span, i :: rest⟩
  | unfinished {opening : Item} {items : List Item} {e : Expr}
      (left : opening.token = .leftParen) (inner : Reads (.chain .sum) items e []) :
      Halts (opening :: items) ⟨.outOfItems, []⟩
  | unclosed {opening found : Item} {items rest : List Item} {e : Expr}
      (left : opening.token = .leftParen) (inner : Reads (.chain .sum) items e (found :: rest))
      (right : found.token ≠ .rightParen) :
      Halts (opening :: items) ⟨.unclosed opening.span found.label found.span, found :: rest⟩

inductive Refuses : Phrase → List Item → Refusal → Prop
  | halt {items : List Item} {r : Refusal} (halts : Halts items r) : Refuses .factor items r
  | value {i equals : Item} {items : List Item} {r : Refusal} (token : i.token = .identifier)
      (mark : equals.token = .equal) (value : Refuses (.chain .sum) items r) :
      Refuses .factor (i :: equals :: items) r
  | inner {opening : Item} {items : List Item} {r : Refusal} (left : opening.token = .leftParen)
      (inner : Refuses (.chain .sum) items r) : Refuses .factor (opening :: items) r
  | first {l : Level} {items : List Item} {r : Refusal} (first : Refuses (.link l) items r) :
      Refuses (.chain l) items r
  | tail {l : Level} {items mid : List Item} {a : Expr} {r : Refusal}
      (first : Reads (.link l) items a mid) (tail : Refuses (.more l a) mid r) :
      Refuses (.chain l) items r
  | link {l : Level} {op : Item} {items : List Item} {left : Expr} {r : Refusal}
      (joins : l.joins op.token = true) (link : Refuses (.link l) items r) :
      Refuses (.more l left) (op :: items) r
  | more {l : Level} {op : Item} {items mid : List Item} {left b : Expr} {r : Refusal}
      (joins : l.joins op.token = true) (link : Reads (.link l) items b mid)
      (tail : Refuses (.more l (.binary left op.token b)) mid r) :
      Refuses (.more l left) (op :: items) r

lemma refuses_of_read {phrase : Phrase} {items : List Item} {r : Refusal}
    (h : read phrase items = .error r) : Refuses phrase items r := by
  fun_induction read phrase items with
  | case2 | case4 | case6 | case7 | case10 | case15 | case16 | case19 | case20 => contradiction
  | case1 =>
    cases h
    exact .halt .nothing
  | case3 i rest ht e he =>
    cases h
    exact .halt (.number ht he)
  | case5 i ht next after he r' hr ih =>
    cases h
    exact .value ht he (ih hr)
  | case8 i rest ht r' hr ih =>
    cases h
    exact .inner ht (ih hr)
  | case9 i rest ht e hp hv ih =>
    cases h
    exact .halt (.unfinished ht (reads_of_read hv))
  | case11 i rest ht e close after hp hv hc ih =>
    cases h
    exact .halt (.unclosed ht (reads_of_read hv) hc)
  | case12 i rest hn hi hl =>
    cases h
    refine .halt (.unexpected ?_)
    cases ht : i.token <;> simp_all [Token.beginsFactor]
  | case13 l items r' hf ih =>
    cases h
    exact .first (ih hf)
  | case14 l items first hf r' hr _ ih =>
    cases h
    exact .tail (reads_of_read hf) (ih hr)
  | case17 l left op rest hj r' hr ih =>
    cases h
    exact .link hj (ih hr)
  | case18 l left op rest hj right hl r' hr _ ih =>
    cases h
    exact .more hj (reads_of_read hl) (ih hr)

lemma Halts.read {items : List Item} {r : Refusal} (h : Halts items r) :
    Grammar.read .factor items = .error r := by
  cases h with
  | nothing => rw [read.eq_def]
  | number ht he => rw [read.eq_def]; simp [ht, he]
  | @unexpected i rest ht =>
    rw [read.eq_def]
    cases hi : i.token <;> simp_all [Token.beginsFactor]
  | unfinished hl hr =>
    obtain ⟨⟨e, _, _⟩, hv, rfl, rfl⟩ := hr.read
    rw [read.eq_def]
    simp [hl, hv]
  | unclosed hl hr hc =>
    obtain ⟨⟨e, _, _⟩, hv, rfl, rfl⟩ := hr.read
    rw [read.eq_def]
    simp [hl, hv, hc]

lemma Refuses.read {phrase : Phrase} {items : List Item} {r : Refusal}
    (h : Refuses phrase items r) : Grammar.read phrase items = .error r := by
  induction h with
  | halt hh => exact hh.read
  | value ht he _ ih => rw [read.eq_def]; simp [ht, he, ih]
  | inner hl _ ih => rw [read.eq_def]; simp [hl, ih]
  | first _ ih => rw [read.eq_def]; simp [ih]
  | tail hf _ ih =>
    obtain ⟨first, hv, rfl, rfl⟩ := hf.read
    rw [read.eq_def]
    simp [hv, ih]
  | link hj _ ih => rw [read.eq_def]; simp [hj, ih]
  | more hj hl _ ih =>
    obtain ⟨right, hv, rfl, rfl⟩ := hl.read
    rw [read.eq_def]
    simp [hj, hv, ih]

theorem parse_eq_error_iff_refuses {items : List Item} {e : ParseError} :
    parse items = .error e ↔ ∃ unread, Refuses (.chain .sum) items ⟨e, unread⟩ := by
  unfold parse
  constructor
  · intro h
    cases hr : read (.chain .sum) items with
    | ok reading => simp [hr] at h
    | error r =>
      rw [hr] at h
      cases h
      exact ⟨r.unread, refuses_of_read hr⟩
  · rintro ⟨unread, h⟩
    rw [h.read]

/-- Between `items` and `rest` stand items none of which is the end of input. -/
def StepsOver (items rest : List Item) : Prop :=
  ∃ taken, items = taken ++ rest ∧ ∀ i ∈ taken, i.token ≠ .endOfInput

namespace StepsOver
variable {items mid rest : List Item}

lemma refl (items : List Item) : StepsOver items items := ⟨[], rfl, by simp⟩

lemma cons {i : Item} (hi : i.token ≠ .endOfInput) (h : StepsOver items rest) :
    StepsOver (i :: items) rest := by
  obtain ⟨taken, rfl, htaken⟩ := h
  exact ⟨i :: taken, rfl, List.forall_mem_cons.mpr ⟨hi, htaken⟩⟩

lemma trans (h : StepsOver items mid) (h' : StepsOver mid rest) : StepsOver items rest := by
  obtain ⟨taken, rfl, htaken⟩ := h
  obtain ⟨more, rfl, hmore⟩ := h'
  exact ⟨taken ++ more, by simp, List.forall_mem_append.mpr ⟨htaken, hmore⟩⟩

end StepsOver

lemma Level.ne_endOfInput {l : Level} {t : Token} (h : l.joins t = true) : t ≠ .endOfInput := by
  rintro rfl
  cases l <;> simp [joins, Token.isAdditive, Token.isMultiplicative] at h

theorem Reads.stepsOver {k : Phrase} {items rest : List Item} {e : Expr}
    (h : Reads k items e rest) : StepsOver items rest := by
  induction h with
  | number ht hv => exact (StepsOver.refl _).cons (by simp [ht])
  | var ht ha => exact (StepsOver.refl _).cons (by simp [ht])
  | assign ht he _ ih => exact (ih.cons (by simp [he])).cons (by simp [ht])
  | @group opening closing _ rest _ hl _ hr ih =>
    have hclose : StepsOver (closing :: rest) rest := (StepsOver.refl rest).cons (by simp [hr])
    exact (ih.trans hclose).cons (by simp [hl])
  | chain _ _ ihf iht => exact ihf.trans iht
  | stop => exact .refl _
  | join hj _ _ ihl iht => exact (ihl.trans iht).cons (Level.ne_endOfInput hj)

theorem Refuses.stepsOver {k : Phrase} {items : List Item} {r : Refusal}
    (h : Refuses k items r) : StepsOver items r.unread := by
  induction h with
  | halt hh =>
    cases hh with
    | nothing => exact .refl _
    | number ht => exact (StepsOver.refl _).cons (by simp [ht])
    | unexpected => exact .refl _
    | unfinished hl hr => exact hr.stepsOver.cons (by simp [hl])
    | unclosed hl hr => exact hr.stepsOver.cons (by simp [hl])
  | value ht he _ ih => exact (ih.cons (by simp [he])).cons (by simp [ht])
  | inner hl _ ih => exact ih.cons (by simp [hl])
  | first _ ih => exact ih
  | tail hf _ ih => exact hf.stepsOver.trans ih
  | link hj _ ih => exact ih.cons (Level.ne_endOfInput hj)
  | more hj hl _ ih => exact (hl.stepsOver.trans ih).cons (Level.ne_endOfInput hj)

lemma Refuses.unread_of_outOfItems {k : Phrase} {items : List Item} {r : Refusal}
    (h : Refuses k items r) (he : r.error = .outOfItems) : r.unread = [] := by
  induction h with
  | halt hh =>
    cases hh with
    | nothing | unfinished => rfl
    | unexpected | unclosed => simp at he
    | number _ hv =>
      rcases Item.number_eq_error hv with rfl | rfl <;> simp at he
  | value _ _ _ ih => exact ih he
  | inner _ _ ih => exact ih he
  | first _ ih => exact ih he
  | tail _ _ ih => exact ih he
  | link _ _ ih => exact ih he
  | more _ _ _ ih => exact ih he

end Grammar

end LineCalculator
