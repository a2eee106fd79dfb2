import LineCalculator.Proofs.Grammar.Front

/-!
# Open parentheses

Going through items from left to right, each closing parenthesis closes the innermost one that is
open. A derivation closes all that it opens and nothing else. A front leaves some open, and what a
derivation after it opens is closed again before those.
-/
namespace LineCalculator.Grammar

/-- The parentheses that are open after the items, the innermost first, when those of the stack are
open before them. There is no answer if one is closed that is not open. -/
def openAfter (stack : List Item) : List Item → Option (List Item)
  | [] => some stack
  | i :: items =>
    match i.token with
    | .leftParen => openAfter (i :: stack) items
    | .rightParen =>
      match stack with
      | [] => none
      | _ :: stack => openAfter stack items
    | _ => openAfter stack items

section OpenAfter
variable {stack items : List Item} {i : Item}

@[simp] lemma openAfter_nil (stack : List Item) : openAfter stack [] = some stack := rfl

lemma openAfter_left (h : i.token = .leftParen) :
    openAfter stack (i :: items) = openAfter (i :: stack) items := by
  simp only [openAfter, h]

lemma openAfter_right (h : i.token = .rightParen) (opening : Item) :
    openAfter (opening :: stack) (i :: items) = openAfter stack items := by
  simp only [openAfter, h]

lemma openAfter_other (hl : i.token ≠ .leftParen) (hr : i.token ≠ .rightParen) :
    openAfter stack (i :: items) = openAfter stack items := by
  cases ht : i.token with
  | leftParen => exact absurd ht hl
  | rightParen => exact absurd ht hr
  | _ => simp only [openAfter, ht]

lemma openAfter_append (stack xs ys : List Item) :
    openAfter stack (xs ++ ys) = (openAfter stack xs).bind fun stack => openAfter stack ys := by
  induction xs generalizing stack with
  | nil => rfl
  | cons i xs ih =>
    by_cases hl : i.token = .leftParen
    · rw [List.cons_append, openAfter_left hl, openAfter_left hl, ih]
    by_cases hr : i.token = .rightParen
    · cases stack with
      | nil => simp [openAfter, hr]
      | cons opening stack => rw [List.cons_append, openAfter_right hr, openAfter_right hr, ih]
    · rw [List.cons_append, openAfter_other hl hr, openAfter_other hl hr, ih]

lemma openAfter_joins {l : Level} (h : l.joins i.token = true) :
    openAfter stack (i :: items) = openAfter stack items := by
  apply openAfter_other
  · intro ht
    cases l <;> simp [ht, Level.joins, Token.isAdditive, Token.isMultiplicative] at h
  · intro ht
    cases l <;> simp [ht, Level.joins, Token.isAdditive, Token.isMultiplicative] at h

end OpenAfter

theorem Derivation.openAfter_items {k : Phrase} (d : Derivation k) (stack : List Item) :
    openAfter stack d.items = some stack := by
  induction d generalizing stack with
  | number i v token value => exact openAfter_other (by simp [token]) (by simp [token])
  | name i token => exact openAfter_other (by simp [token]) (by simp [token])
  | assign i equals value token mark ih =>
    rw [items, openAfter_other (by simp [token]) (by simp [token]),
      openAfter_other (by simp [mark]) (by simp [mark]), ih]
  | group opening closing inner left right ih =>
    rw [items, openAfter_left left, openAfter_append, ih, Option.bind_some, openAfter_right right,
      openAfter_nil]
  | single link ih => exact ih stack
  | joined left op right joins ihl ihr =>
    rw [items, openAfter_append, ihl, Option.bind_some, openAfter_joins joins, ihr]

/-- A front opens parentheses of its own and closes none that was open before it. -/
theorem Front.exists_openAfter_items {k : Phrase} (f : Front k) :
    ∃ outer, (∀ p ∈ outer, p ∈ f.items) ∧
      ∀ stack, openAfter stack f.items = some (outer ++ stack) := by
  induction f with
  | hole => exact ⟨[], by simp, fun stack => rfl⟩
  | value i equals rest token mark ih =>
    obtain ⟨outer, hmem, hopen⟩ := ih
    refine ⟨outer, fun p hp => by simp [items, hmem p hp], fun stack => ?_⟩
    rw [items, openAfter_other (by simp [token]) (by simp [token]),
      openAfter_other (by simp [mark]) (by simp [mark]), hopen]
  | inner opening rest left ih =>
    obtain ⟨outer, hmem, hopen⟩ := ih
    refine ⟨outer ++ [opening], fun p hp => ?_, fun stack => ?_⟩
    · rcases List.mem_append.mp hp with hp | hp
      · exact List.mem_cons_of_mem _ (hmem p hp)
      · exact List.mem_singleton.mp hp ▸ List.mem_cons_self
    · rw [items, openAfter_left left, hopen, List.append_assoc, List.singleton_append]
  | first rest ih => exact ih
  | next left op rest joins last closed ih =>
    obtain ⟨outer, hmem, hopen⟩ := ih
    refine ⟨outer, fun p hp => by simp [items, hmem p hp], fun stack => ?_⟩
    rw [items, openAfter_append, left.openAfter_items, Option.bind_some, openAfter_joins joins,
      hopen]

end LineCalculator.Grammar
