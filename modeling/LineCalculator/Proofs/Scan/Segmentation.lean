import LineCalculator.Segment
import Mathlib.Tactic.Common

/-!
# Maximal munch

How a text falls into segments is said here without cutting it: the segments are the text, each has
the form of its kind, and no number or name could go on with the character after it. A text has
exactly one such segmentation, and `segments` finds it.
-/
namespace LineCalculator

/-- Digits, and after them at most one point with any digits. -/
def IsNumberText (cs : List Char) : Prop :=
  ∃ whole, whole ≠ [] ∧ (∀ c ∈ whole, c.isDigit = true) ∧
    (cs = whole ∨ ∃ fraction, (∀ c ∈ fraction, c.isDigit = true) ∧ cs = whole ++ '.' :: fraction)

/-- A letter or an underscore, and then letters, digits and underscores. -/
def IsNameText (cs : List Char) : Prop :=
  ∃ c rest, cs = c :: rest ∧ isNameStart c = true ∧ ∀ d ∈ rest, isNameChar d = true

def symbols : List (Char × Token) :=
  [('+', .plus), ('-', .minus), ('*', .star), ('/', .slash), ('(', .leftParen), (')', .rightParen),
    ('=', .equal)]

lemma ofChar?_eq_some_iff {c : Char} {t : Token} :
    Token.ofChar? c = some t ↔ (c, t) ∈ symbols := by
  unfold Token.ofChar?
  split <;> simp_all [symbols, eq_comm]

namespace Segment

def WellFormed : Segment → Prop
  | blank c => Text.isWhiteSpace c = true
  | token .number cs => IsNumberText cs
  | token .identifier cs => IsNameText cs
  | token t cs => ∃ c, cs = [c] ∧ (c, t) ∈ symbols
  | unknown c => Text.isWhiteSpace c = false ∧ c.isDigit = false ∧ isNameStart c = false ∧
      ∀ t, (c, t) ∉ symbols

/-- A segment could not go on with the character `next`. -/
def EndsBefore : Segment → Char → Prop
  | token .number cs, next => next.isDigit = false ∧ ('.' ∉ cs → next ≠ '.')
  | token .identifier _, next => isNameChar next = false
  | _, _ => True

end Segment

structure MaximalMunch (cs : List Char) (segs : List Segment) : Prop where
  cover : segs.flatMap Segment.text = cs
  formed : ∀ s ∈ segs, s.WellFormed
  maximal : ∀ before s after, segs = before ++ s :: after →
    ∀ next ∈ (after.flatMap Segment.text).head?, s.EndsBefore next

lemma maximalMunch_nil : MaximalMunch [] [] where
  cover := rfl
  formed := by simp
  maximal := by simp

lemma maximalMunch_cons_iff {cs : List Char} {s : Segment} {segs : List Segment} :
    MaximalMunch cs (s :: segs) ↔ ∃ rest, cs = s.text ++ rest ∧ s.WellFormed ∧
      (∀ next ∈ rest.head?, s.EndsBefore next) ∧ MaximalMunch rest segs := by
  constructor
  · rintro ⟨rfl, hf, hm⟩
    refine ⟨segs.flatMap Segment.text, rfl, hf s (by simp), hm [] s segs rfl, rfl,
      fun t ht => hf t (by simp [ht]), fun before t after h => ?_⟩
    exact hm (s :: before) t after (by simp [h])
  · rintro ⟨rest, rfl, hs, he, rfl, hf, hm⟩
    refine ⟨rfl, ?_, fun before t after h => ?_⟩
    · rintro t (_ | ⟨_, ht⟩)
      · exact hs
      · exact hf t ht
    · cases before with
      | nil =>
        obtain ⟨rfl, rfl⟩ := List.cons.inj h
        exact he
      | cons _ before => exact hm before t after (List.cons.inj h).2

lemma isWhiteSpace_eq_false {c : Char} (h : 33 ≤ c.toNat) (h' : c.toNat ≤ 126) :
    Text.isWhiteSpace c = false := by
  simp [Text.isWhiteSpace, Text.whiteSpaceRanges]
  omega

lemma toNat_of_isDigit {c : Char} (h : c.isDigit = true) : 48 ≤ c.toNat ∧ c.toNat ≤ 57 :=
  Char.isDigit_iff_toNat.mp h

lemma toNat_of_isNameStart {c : Char} (h : isNameStart c = true) :
    65 ≤ c.toNat ∧ c.toNat ≤ 122 := by
  rcases Bool.or_eq_true_iff.mp h with h | h
  · obtain rfl := eq_of_beq h
    decide
  rcases Bool.or_eq_true_iff.mp h with h | h
  · have hupper : 65 ≤ c.toNat ∧ c.toNat ≤ 90 := of_decide_eq_true h
    omega
  · obtain ⟨hlow, hhigh⟩ := (Bool.and_eq_true _ _).mp h
    have hlower : 97 ≤ c.toNat ∧ c.toNat ≤ 122 := ⟨of_decide_eq_true hlow, of_decide_eq_true hhigh⟩
    omega

lemma isDigit_of_isNameStart {c : Char} (h : isNameStart c = true) : c.isDigit = false := by
  by_contra hd
  have hn := toNat_of_isNameStart h
  have hd' := toNat_of_isDigit (by simpa using hd)
  omega

lemma takeWhile_dropWhile_append {p : Char → Bool} {xs rest : List Char}
    (h : ∀ c ∈ xs, p c = true) (hr : ∀ next ∈ rest.head?, p next = false) :
    (xs ++ rest).takeWhile p = xs ∧ (xs ++ rest).dropWhile p = rest := by
  rw [List.takeWhile_append_of_pos h, List.dropWhile_append_of_pos h]
  cases rest with
  | nil => simp
  | cons next rest => simp [hr next rfl]

namespace Segment

lemma numberTail_whole {whole rest : List Char} (hw : ∀ c ∈ whole, c.isDigit = true)
    (hr : ∀ next ∈ rest.head?, next.isDigit = false ∧ next ≠ '.') :
    numberTail (whole ++ rest) = (whole, rest) := by
  obtain ⟨htake, hdrop⟩ := takeWhile_dropWhile_append hw fun next hn => (hr next hn).1
  unfold numberTail
  rw [htake, hdrop]
  cases rest with
  | nil => rfl
  | cons next rest =>
    have hpoint : next ≠ '.' := (hr next rfl).2
    split
    · simp_all
    · rfl

lemma numberTail_fraction {whole fraction rest : List Char} (hw : ∀ c ∈ whole, c.isDigit = true)
    (hf : ∀ c ∈ fraction, c.isDigit = true) (hr : ∀ next ∈ rest.head?, next.isDigit = false) :
    numberTail (whole ++ '.' :: (fraction ++ rest)) = (whole ++ '.' :: fraction, rest) := by
  have hpoint : ∀ next ∈ ('.' :: (fraction ++ rest)).head?, next.isDigit = false := by simp
  obtain ⟨htake, hdrop⟩ := takeWhile_dropWhile_append hw hpoint
  obtain ⟨htake', hdrop'⟩ := takeWhile_dropWhile_append hf hr
  unfold numberTail
  rw [htake, hdrop]
  simp [htake', hdrop']

lemma first_of_wellFormed {s : Segment} {rest : List Char} (hs : s.WellFormed)
    (hr : ∀ next ∈ rest.head?, s.EndsBefore next) :
    ∃ c cs, s.text = c :: cs ∧ first c (cs ++ rest) = (s, rest) := by
  cases s with
  | blank c => exact ⟨c, [], rfl, by simp [first, show Text.isWhiteSpace c = true from hs]⟩
  | unknown c =>
    obtain ⟨hw, hd, hn, ht⟩ := hs
    have hnone : Token.ofChar? c = none :=
      Option.eq_none_iff_forall_ne_some.mpr fun t h => ht t (ofChar?_eq_some_iff.mp h)
    exact ⟨c, [], rfl, by simp [first, hw, hd, hn, hnone]⟩
  | token t cs =>
    cases t with
    | number =>
      obtain ⟨whole, hne, hw, hcs⟩ := hs
      obtain ⟨c, whole, rfl⟩ := List.exists_cons_of_ne_nil hne
      have hc := toNat_of_isDigit (hw c (by simp))
      have hspace := isWhiteSpace_eq_false (c := c) (by omega) (by omega)
      have hwhole : ∀ d ∈ whole, d.isDigit = true := fun d hd => hw d (by simp [hd])
      rcases hcs with rfl | ⟨fraction, hf, rfl⟩
      · have hpoint : '.' ∉ c :: whole := fun hm => by simpa using hw '.' hm
        have htail := numberTail_whole hwhole
          fun next hn => ⟨(hr next hn).1, (hr next hn).2 hpoint⟩
        exact ⟨c, whole, rfl, by simp [first, hspace, hw c (by simp), htail]⟩
      · have htail := numberTail_fraction hwhole hf fun next hn => (hr next hn).1
        refine ⟨c, whole ++ '.' :: fraction, rfl, ?_⟩
        simp [first, hspace, hw c (by simp), htail]
    | identifier =>
      obtain ⟨c, cs, rfl, hc, hcs⟩ := hs
      have hrange := toNat_of_isNameStart hc
      have hspace := isWhiteSpace_eq_false (c := c) (by omega) (by omega)
      have hdigit := isDigit_of_isNameStart hc
      obtain ⟨htake, hdrop⟩ := takeWhile_dropWhile_append hcs hr
      exact ⟨c, cs, rfl, by simp [first, hspace, hdigit, hc, htake, hdrop]⟩
    | endOfInput =>
      obtain ⟨c, rfl, hc⟩ := hs
      simp [symbols] at hc
    | _ =>
      obtain ⟨c, rfl, hc⟩ := hs
      obtain rfl : c = _ := by simpa [symbols] using hc
      exact ⟨_, [], rfl, rfl⟩

lemma not_of_mem_head?_dropWhile {p : Char → Bool} {cs : List Char} :
    ∀ next ∈ (cs.dropWhile p).head?, p next = false := by
  intro next hn
  have h := List.head?_dropWhile_not p cs
  rwa [hn] at h

lemma numberTail_cases (cs : List Char) :
    (∃ whole, (∀ c ∈ whole, c.isDigit = true) ∧ (numberTail cs).1 = whole ∧
      ∀ next ∈ (numberTail cs).2.head?, next.isDigit = false ∧ next ≠ '.') ∨
    ∃ whole fraction, (∀ c ∈ whole, c.isDigit = true) ∧ (∀ c ∈ fraction, c.isDigit = true) ∧
      (numberTail cs).1 = whole ++ '.' :: fraction ∧
      ∀ next ∈ (numberTail cs).2.head?, next.isDigit = false := by
  have hdigits : ∀ {ds : List Char}, ∀ c ∈ ds.takeWhile Char.isDigit, c.isDigit = true :=
    fun {ds} => List.all_eq_true.mp List.all_takeWhile
  unfold numberTail
  split
  · exact .inr ⟨_, _, hdigits, hdigits, rfl, not_of_mem_head?_dropWhile⟩
  · rename_i rest hpoint
    refine .inl ⟨_, hdigits, rfl, fun next hn => ⟨not_of_mem_head?_dropWhile next hn, ?_⟩⟩
    rintro rfl
    obtain ⟨tail, htail⟩ := List.head?_eq_some_iff.mp hn
    exact hpoint tail htail

lemma munched_symbol {c : Char} {t : Token} (h : (c, t) ∈ symbols) :
    (token t [c]).WellFormed ∧ ∀ next, (token t [c]).EndsBefore next := by
  have hform : ∃ d, [c] = [d] ∧ (d, t) ∈ symbols := ⟨c, rfl, h⟩
  cases t with
  | number | identifier => simp [symbols] at h
  | _ => exact ⟨hform, fun _ => trivial⟩

lemma munched_first (c : Char) (cs : List Char) :
    (first c cs).1.WellFormed ∧ ∀ next ∈ (first c cs).2.head?, (first c cs).1.EndsBefore next := by
  unfold first
  by_cases hw : Text.isWhiteSpace c = true
  · rw [if_pos hw]
    exact ⟨hw, fun _ _ => trivial⟩
  by_cases hd : c.isDigit = true
  · rw [if_neg hw, if_pos hd]
    have hcons : ∀ {ds : List Char}, (∀ d ∈ ds, d.isDigit = true) →
        ∀ d ∈ c :: ds, d.isDigit = true :=
      fun h d hm => by rcases List.mem_cons.mp hm with rfl | hm; exacts [hd, h d hm]
    rcases numberTail_cases cs with
      ⟨whole, hwhole, heq, hr⟩ | ⟨whole, fraction, hwhole, hf, heq, hr⟩
    · rw [heq]
      exact ⟨⟨c :: whole, by simp, hcons hwhole, .inl rfl⟩,
        fun next hn => ⟨(hr next hn).1, fun _ => (hr next hn).2⟩⟩
    · rw [heq]
      exact ⟨⟨c :: whole, by simp, hcons hwhole, .inr ⟨fraction, hf, rfl⟩⟩,
        fun next hn => ⟨hr next hn, fun hpoint => absurd (by simp) hpoint⟩⟩
  by_cases hn : isNameStart c = true
  · rw [if_neg hw, if_neg hd, if_pos hn]
    exact ⟨⟨c, _, rfl, hn, List.all_eq_true.mp List.all_takeWhile⟩, not_of_mem_head?_dropWhile⟩
  rw [if_neg hw, if_neg hd, if_neg hn]
  cases ht : Token.ofChar? c with
  | some t =>
    obtain ⟨hform, hend⟩ := munched_symbol (ofChar?_eq_some_iff.mp ht)
    exact ⟨hform, fun next _ => hend next⟩
  | none =>
    refine ⟨⟨by simpa using hw, by simpa using hd, by simpa using hn, fun t hm => ?_⟩,
      fun _ _ => trivial⟩
    rw [ofChar?_eq_some_iff.mpr hm] at ht
    contradiction

end Segment

theorem maximalMunch_segments (cs : List Char) : MaximalMunch cs (segments cs) := by
  fun_induction segments cs with
  | case1 => exact maximalMunch_nil
  | case2 c cs ih =>
    obtain ⟨hform, hend⟩ := Segment.munched_first c cs
    exact maximalMunch_cons_iff.mpr ⟨_, (Segment.first_append c cs).symm, hform, hend, ih⟩

theorem MaximalMunch.eq_segments {cs : List Char} {segs : List Segment}
    (h : MaximalMunch cs segs) : segs = segments cs := by
  induction segs generalizing cs with
  | nil =>
    obtain rfl : [] = cs := h.cover
    exact segments_nil.symm
  | cons s segs ih =>
    obtain ⟨rest, rfl, hform, hend, hrest⟩ := maximalMunch_cons_iff.mp h
    obtain ⟨c, cs, htext, hfirst⟩ := Segment.first_of_wellFormed hform hend
    rw [htext, List.cons_append, segments_cons, hfirst, ← ih hrest]

end LineCalculator
