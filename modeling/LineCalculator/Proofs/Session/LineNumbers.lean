import Mathlib.Data.List.Basic
import Mathlib.Data.List.Infix

/-!
# Line numbers in a text

A failed line of a file is reported with its number. The numbers can be taken out of a text of many
lines, where the words in front of them stand nowhere else: `unnumbered_line` passes over a line
without these words, and `unnumbered_of_some` replaces them.
-/
namespace LineCalculator

section Digits

lemma isDigit_of_mem_toDigits {n : Nat} {c : Char} (h : c ∈ Nat.toDigits 10 n) :
    c.isDigit = true := Nat.isDigit_of_mem_toDigits (by omega) (by omega) h

lemma isDigit_of_mem_toString {n : Nat} {c : Char} (h : c ∈ (toString n).toList) :
    c.isDigit = true := by
  rw [Nat.toString_eq_ofList_toDigits, String.toList_ofList] at h
  exact isDigit_of_mem_toDigits h

variable (n : Nat) (rest : List Char)

lemma takeWhile_isDigit_number :
    ((toString n).toList ++ (": ".toList ++ rest)).takeWhile Char.isDigit =
      (toString n).toList := by
  rw [List.takeWhile_append_of_pos fun _ => isDigit_of_mem_toString]
  exact List.append_nil _

lemma dropWhile_isDigit_number :
    ((toString n).toList ++ (": ".toList ++ rest)).dropWhile Char.isDigit =
      ": ".toList ++ rest := by
  rw [List.dropWhile_append_of_pos fun _ => isDigit_of_mem_toString]
  rfl

lemma head?_number : ((toString n).toList ++ rest).head?.any Char.isDigit = true := by
  have hne : (toString n).toList ≠ [] := by
    rw [Nat.toString_eq_ofList_toDigits, String.toList_ofList]
    exact Nat.toDigits_ne_nil
  obtain ⟨c, cs, hc⟩ := List.exists_cons_of_ne_nil hne
  rw [hc]
  exact isDigit_of_mem_toString (n := n) (hc ▸ List.mem_cons_self)

end Digits

def numberMark : List Char := "Error at line ".toList

/-- What follows an `Error at line n: ` at the front of a text. -/
def afterNumber? (cs : List Char) : Option (List Char) := do
  let numbered ← cs.dropPrefix? numberMark
  guard (numbered.head?.any Char.isDigit)
  (numbered.dropWhile Char.isDigit).dropPrefix? ": ".toList

lemma begins_of_afterNumber? {cs rest : List Char} (h : afterNumber? cs = some rest) :
    numberMark <+: cs := by
  obtain ⟨numbered, hfront, -⟩ := Option.bind_eq_some_iff.mp h
  obtain ⟨mark, rfl, hmark⟩ := List.dropPrefix?_eq_some_iff.mp hfront
  obtain rfl := eq_of_beq hmark
  exact List.prefix_append _ _

lemma length_afterNumber?_lt {cs rest : List Char} (h : afterNumber? cs = some rest) :
    rest.length < cs.length := by
  obtain ⟨numbered, hfront, hnumber⟩ := Option.bind_eq_some_iff.mp h
  obtain ⟨-, -, hrest⟩ := Option.bind_eq_some_iff.mp hnumber
  obtain ⟨mark, rfl, hmark⟩ := List.dropPrefix?_eq_some_iff.mp hfront
  obtain rfl := eq_of_beq hmark
  obtain ⟨colon, hcolon, -⟩ := List.dropPrefix?_eq_some_iff.mp hrest
  have hle := (List.dropWhile_sublist (l := numbered) Char.isDigit).length_le
  have hmark : numberMark.length = 14 := by decide
  rw [hcolon, List.length_append] at hle
  rw [List.length_append]
  omega

/-- A text with `Error: ` in place of every `Error at line n: `. -/
def unnumbered : List Char → List Char
  | [] => []
  | c :: cs =>
    match _h : afterNumber? (c :: cs) with
    | some rest => "Error: ".toList ++ unnumbered rest
    | none => c :: unnumbered cs
termination_by cs => cs.length
decreasing_by
  · exact length_afterNumber?_lt ‹_›
  · exact Nat.lt_succ_self _

@[simp] lemma unnumbered_nil : unnumbered [] = [] := by rw [unnumbered]

lemma unnumbered_of_some {cs rest : List Char} (h : afterNumber? cs = some rest) :
    unnumbered cs = "Error: ".toList ++ unnumbered rest := by
  cases cs with
  | nil => exact absurd (length_afterNumber?_lt h) (Nat.not_lt_zero _)
  | cons c cs =>
    rw [unnumbered]
    split
    · rename_i rest' h'
      obtain rfl : rest' = rest := Option.some.inj (h'.symm.trans h)
      rfl
    · rename_i h'
      exact absurd (h'.symm.trans h) nofun

lemma unnumbered_cons {c : Char} {cs : List Char} (h : ¬ numberMark <+: c :: cs) :
    unnumbered (c :: cs) = c :: unnumbered cs := by
  rw [unnumbered]
  split
  · rename_i rest h'
    exact absurd (begins_of_afterNumber? h') h
  · rfl

lemma begins_of_append_cons {mark back : List Char} {c : Char} (front : List Char) (hc : c ∉ mark)
    (h : mark <+: front ++ c :: back) : mark <+: front := by
  have hfront : front ++ [c] <+: front ++ c :: back := by simp
  by_cases hle : mark.length ≤ front.length
  · exact List.prefix_of_prefix_length_le h (List.prefix_append _ _) hle
  · have hlong : front ++ [c] <+: mark := by
      refine List.prefix_of_prefix_length_le hfront h ?_
      simp
      omega
    exact absurd (hlong.subset (by simp)) hc

/-- The words in front of a line number do not stand in a text. -/
def Unmarked (cs : List Char) : Prop := ¬ numberMark <:+: cs

instance : DecidablePred Unmarked := fun _ => inferInstanceAs (Decidable (¬ _))

lemma Unmarked.of_not_mem {c : Char} {cs : List Char} (hc : c ∈ numberMark) (h : c ∉ cs) :
    Unmarked cs := fun hmark => h (hmark.subset hc)

lemma Unmarked.tail {c : Char} {cs : List Char} (h : Unmarked (c :: cs)) : Unmarked cs :=
  fun hmark => h (List.infix_cons_iff.mpr (.inr hmark))

lemma Unmarked.append_cons {front back : List Char} {c : Char} (hc : c ∉ numberMark)
    (hfront : Unmarked front) (hback : Unmarked back) : Unmarked (front ++ c :: back) := by
  induction front with
  | nil =>
    intro hmark
    rcases List.infix_cons_iff.mp hmark with h | h
    · exact absurd (begins_of_append_cons [] hc h) (by decide)
    · exact hback h
  | cons d front ih =>
    intro hmark
    rcases List.infix_cons_iff.mp hmark with h | h
    · exact hfront (begins_of_append_cons (d :: front) hc h).isInfix
    · exact ih hfront.tail h

lemma Unmarked.append_head {s t : String} (hs : Unmarked s.toList) (ht : Unmarked t.toList)
    (h : t.toList.head?.all (· ∉ numberMark) = true) : Unmarked (s ++ t).toList := by
  rw [String.toList_append]
  cases hb : t.toList with
  | nil => rwa [List.append_nil]
  | cons c back =>
    rw [hb] at ht h
    exact hs.append_cons (of_decide_eq_true h) ht.tail

lemma Unmarked.append_last {s t : String} (hs : Unmarked s.toList) (ht : Unmarked t.toList)
    (h : s.toList.getLast?.all (· ∉ numberMark) = true) : Unmarked (s ++ t).toList := by
  rw [String.toList_append]
  rcases List.eq_nil_or_concat s.toList with hnil | ⟨front, c, hfront⟩
  · rwa [hnil, List.nil_append]
  · rw [hfront, List.concat_eq_append] at hs h
    rw [hfront, List.concat_eq_append, List.append_assoc, List.singleton_append]
    have hc : c ∉ numberMark := by simpa using h
    refine .append_cons hc (fun hmark => hs ?_) ht
    exact hmark.trans (List.prefix_append _ _).isInfix

lemma Unmarked.quoting {s q t : String} (hs : Unmarked s.toList) (hq : Unmarked q.toList)
    (ht : Unmarked t.toList) (hlast : s.toList.getLast?.all (· ∉ numberMark) = true)
    (hhead : t.toList.head?.all (· ∉ numberMark) = true) : Unmarked (s ++ q ++ t).toList :=
  (hs.append_last hq hlast).append_head ht hhead

lemma Unmarked.between {s p t : String} (hs : Unmarked s.toList) (hp : Unmarked p.toList)
    (ht : Unmarked t.toList) (hhead : p.toList.head?.all (· ∉ numberMark) = true)
    (hlast : p.toList.getLast?.any (· ∉ numberMark) = true) : Unmarked (s ++ p ++ t).toList := by
  obtain ⟨c, hc, hmark⟩ := (Option.any_eq_true _ _).mp hlast
  refine (hs.append_head hp hhead).append_last ht ?_
  rw [String.toList_append, List.getLast?_append, hc, Option.some_or]
  exact hmark

lemma unnumbered_line {cs : List Char} (h : Unmarked cs) (rest : List Char) :
    unnumbered (cs ++ '\n' :: rest) = cs ++ '\n' :: unnumbered rest := by
  have hend : '\n' ∉ numberMark := by decide
  induction cs with
  | nil =>
    refine unnumbered_cons fun hmark => ?_
    exact absurd (begins_of_append_cons [] hend hmark) (by decide)
  | cons c cs ih =>
    have hfront : ¬ numberMark <+: c :: (cs ++ '\n' :: rest) := fun hmark =>
      h (begins_of_append_cons (c :: cs) hend hmark).isInfix
    rw [List.cons_append, unnumbered_cons hfront, ih h.tail, List.cons_append]

end LineCalculator
