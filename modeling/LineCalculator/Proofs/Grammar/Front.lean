import LineCalculator.Proofs.Grammar.Parse
import LineCalculator.Proofs.Grammar.Refusal

/-!
# Derivations that are not finished

A front is a derivation up to a place where a factor has to stand. A factor put there, and the
parentheses that are still open closed after it, make a derivation of the front; and a refusal at
that place is the refusal of the whole. Every failed reading is one of a factor behind a front, so
that what can still become of the items read so far is seen from the front alone.
-/
namespace LineCalculator.Grammar

/-- What has been joined to the left of an operator is closed: no assignment in it could have taken
the operator. -/
inductive Front : Phrase → Type
  | hole : Front .factor
  | value (i equals : Item) (rest : Front (.chain .sum)) (token : i.token = .identifier)
      (mark : equals.token = .equal) : Front .factor
  | inner (opening : Item) (rest : Front (.chain .sum)) (left : opening.token = .leftParen) :
      Front .factor
  | first {l : Level} (rest : Front (.link l)) : Front (.chain l)
  | next {l : Level} (left : Derivation (.chain l)) (op : Item) (rest : Front (.link l))
      (joins : l.joins op.token = true) (last : left.AssignmentsLast)
      (closed : ∀ f ∈ left.factors, ¬ f.IsAssignment) : Front (.chain l)

def closer : Item := ⟨.rightParen, ")", .single 0⟩

def anyName : Item := ⟨.identifier, "x", .single 0⟩

namespace Front
variable {k : Phrase} {l : Level}

def items {k : Phrase} : Front k → List Item
  | hole => []
  | value i equals rest _ _ => i :: equals :: rest.items
  | inner opening rest _ => opening :: rest.items
  | first rest => rest.items
  | next left op rest _ _ _ => left.items ++ op :: rest.items

def closers {k : Phrase} : Front k → List Item
  | hole => []
  | value _ _ rest _ _ => rest.closers
  | inner _ rest _ => rest.closers ++ [closer]
  | first rest => rest.closers
  | next _ _ rest _ _ _ => rest.closers

def fill {k : Phrase} : Front k → Derivation .factor → Derivation k
  | hole, d => d
  | value i equals rest token mark, d => .assign i equals (rest.fill d) token mark
  | inner opening rest left, d => .group opening closer (rest.fill d) left rfl
  | first rest, d => .single (rest.fill d)
  | next left op rest joins _ _, d => .joined left op (rest.fill d) joins

lemma items_fill (f : Front k) (d : Derivation .factor) :
    (f.fill d).items = f.items ++ d.items ++ f.closers := by
  induction f with
  | hole => simp [fill, items, closers]
  | value i equals rest token mark ih => simp [fill, items, closers, Derivation.items, ih]
  | inner opening rest left ih => simp [fill, items, closers, Derivation.items, ih]
  | first rest ih => simp [fill, items, closers, Derivation.items, ih]
  | next left op rest joins last closed ih => simp [fill, items, closers, Derivation.items, ih]

lemma assignmentsLast_fill (f : Front k) {d : Derivation .factor} (hd : d.AssignmentsLast) :
    (f.fill d).AssignmentsLast := by
  induction f with
  | hole => exact hd
  | value i equals rest token mark ih => exact ih
  | inner opening rest left ih => exact ih
  | first rest ih => exact ih
  | next left op rest joins last closed ih => exact ⟨last, ih, closed⟩

theorem parse_fill (f : Front (.chain .sum)) {d : Derivation .factor} (hd : d.AssignmentsLast) :
    parse (f.items ++ d.items ++ f.closers) = .ok ⟨(f.fill d).tree, []⟩ := by
  rw [parse_eq_ok_iff_derived]
  refine ⟨f.fill d, f.assignmentsLast_fill hd, rfl, ?_, by simp [Derivation.StopsBefore]⟩
  rw [List.append_nil, items_fill]

end Front

lemma Derivation.refuses {l : Level} (d : Derivation (.chain l)) (hd : d.AssignmentsLast)
    {items : List Item} {r : Refusal} (hq : ∀ next ∈ items.head?, d.goesOn next.token = false)
    (hr : Refuses (.more l d.tree) items r) : Refuses (.chain l) (d.items ++ items) r := by
  fun_induction links d generalizing items with
  | case1 link =>
    have hv := fun next hn => Bool.or_eq_false_iff.mp (hq next hn)
    have hlink := link.reads hd (fun next hn => (hv next hn).2)
      (resumes_refl _ fun next hn => (hv next hn).1)
    exact .tail hlink hr
  | case2 left op right joins ih =>
    have hv := fun next hn => Bool.or_eq_false_iff.mp (hq next hn)
    have hlink := right.reads hd.2.1 (fun next hn => (hv next hn).2)
      (resumes_refl _ fun next hn => (hv next hn).1)
    have hop : ∀ next ∈ (op :: (right.items ++ items)).head?, left.goesOn next.token = false := by
      intro next hn
      cases hn
      exact left.goesOn_eq_false_of_joins hd.2.2 joins
    have hleft := ih hd.1 hop (.more joins hlink hr)
    simpa [Derivation.items] using hleft

theorem Front.refuses {k : Phrase} (f : Front k) {items : List Item} {r : Refusal}
    (h : Halts items r) : Refuses k (f.items ++ items) r := by
  induction f with
  | hole => exact .halt h
  | value i equals rest token mark ih => exact .value token mark ih
  | inner opening rest left ih => exact .inner left ih
  | first rest ih => exact .first ih
  | next left op rest joins last closed ih =>
    have hop : ∀ next ∈ (op :: (rest.items ++ items)).head?, left.goesOn next.token = false := by
      intro next hn
      cases hn
      exact left.goesOn_eq_false_of_joins closed joins
    simpa [Front.items] using left.refuses last hop (.link joins ih)

/-- The items are a front, and then no factor. -/
def HaltsBehind (k : Phrase) (items : List Item) (r : Refusal) : Prop :=
  ∃ (f : Front k) (rest : List Item), items = f.items ++ rest ∧ Halts rest r

/-- What one refusal says, the rest of a chain being read after a derivation of the links before. -/
def Located : Phrase → List Item → Refusal → Prop
  | .more l left, items, r =>
    ∀ d : Derivation (.chain l), d.AssignmentsLast → d.tree = left →
      (∀ next ∈ items.head?, d.goesOn next.token = false) →
      HaltsBehind (.chain l) (d.items ++ items) r
  | k, items, r => HaltsBehind k items r

lemma Located.link {l : Level} {items : List Item} {r : Refusal}
    (h : Located (.link l) items r) : HaltsBehind (.link l) items r := by cases l <;> exact h

theorem Refuses.located {k : Phrase} {items : List Item} {r : Refusal} (h : Refuses k items r) :
    Located k items r := by
  induction h with
  | halt hh => exact ⟨.hole, _, rfl, hh⟩
  | value ht he _ ih =>
    obtain ⟨f, rest, rfl, hh⟩ := ih
    exact ⟨.value _ _ f ht he, rest, rfl, hh⟩
  | inner hl _ ih =>
    obtain ⟨f, rest, rfl, hh⟩ := ih
    exact ⟨.inner _ f hl, rest, rfl, hh⟩
  | first _ ih =>
    obtain ⟨f, rest, rfl, hh⟩ := ih.link
    exact ⟨.first f, rest, rfl, hh⟩
  | tail hf _ ih =>
    obtain ⟨d, hd, rfl, rfl, hs⟩ := hf.sound.link
    exact ih (.single d) hd rfl fun next hn => Bool.or_eq_false_iff.mpr (hs next hn)
  | @link l op _ _ _ hj _ ih =>
    intro d hd ht hg
    obtain ⟨f, rest, rfl, hh⟩ := ih.link
    have hclosed := d.not_isAssignment_of_goesOn hd hj (hg op rfl)
    exact ⟨.next d op f hj hd hclosed, rest, by simp [Front.items], hh⟩
  | @more l op _ _ _ _ _ hj hl _ ih =>
    intro d hd ht hg
    obtain ⟨b, hb, rfl, rfl, hs⟩ := hl.sound.link
    have hclosed := d.not_isAssignment_of_goesOn hd hj (hg op rfl)
    have hjoined := ih (.joined d op b hj) ⟨hd, hb, hclosed⟩ (by rw [← ht]; rfl)
      fun next hn => Bool.or_eq_false_iff.mpr (hs next hn)
    simpa [Derivation.items] using hjoined

theorem parse_eq_error_iff_halts {items : List Item} {e : ParseError} :
    parse items = .error e ↔ ∃ unread, HaltsBehind (.chain .sum) items ⟨e, unread⟩ := by
  rw [parse_eq_error_iff_refuses]
  constructor
  · rintro ⟨unread, h⟩
    exact ⟨unread, h.located⟩
  · rintro ⟨unread, f, rest, rfl, hh⟩
    exact ⟨unread, f.refuses hh⟩

end LineCalculator.Grammar
