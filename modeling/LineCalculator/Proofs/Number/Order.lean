import LineCalculator.Proofs.Number.Comparison
import LineCalculator.Proofs.Number.Display
import Mathlib

/-!
# The order of results

Neighbouring results may be written in different ways: one in place and the other with an exponent,
or with their last digits at different places. Read back as rationals they are in the order of the
values all the same, since both texts stand for values to the same number of significant digits,
and such rounding keeps the order.
-/
namespace LineCalculator
open Binary64

section Rounding

/-- The number `a` is `q` to `places` digits after the first one. Zero has no first digit and
stays, and a negative number is rounded by its size. -/
inductive RoundsTo (places : ℕ) : ℚ → ℚ → Prop
  | zero : RoundsTo places 0 0
  | positive {q : ℚ} {m : ℕ} {x : ℤ} (hq : 0 < q) (h : IsRounded places q m x) :
      RoundsTo places q (m * 10 ^ (x - places))
  | negative {q : ℚ} {m : ℕ} {x : ℤ} (hq : 0 < q) (h : IsRounded places q m x) :
      RoundsTo places (-q) (-(m * 10 ^ (x - places)))

lemma IsRounded.pos {places m : ℕ} {q : ℚ} {x : ℤ} (h : IsRounded places q m x) :
    (0 : ℚ) < m * 10 ^ (x - places) := by
  have hm : 0 < m := lt_of_lt_of_le (by positivity) h.lower
  positivity

theorem RoundsTo.mono {places : ℕ} {q q' a a' : ℚ} (hle : q ≤ q') (h : RoundsTo places q a)
    (h' : RoundsTo places q' a') : a ≤ a' := by
  cases h with
  | zero =>
    cases h' with
    | zero => exact le_rfl
    | positive hq' h' => exact h'.pos.le
    | negative hq' h' => linarith
  | positive hq h =>
    cases h' with
    | zero => linarith
    | positive hq' h' => exact h.mono hq hle h'
    | negative hq' h' => linarith
  | negative hq h =>
    cases h' with
    | zero => exact neg_nonpos.mpr h.pos.le
    | positive hq' h' => exact (neg_neg_of_pos h.pos).le.trans h'.pos.le
    | negative hq' h' => exact neg_le_neg (h'.mono hq' (neg_le_neg_iff.mp hle) h)

end Rounding

section Denotation
open Numeral

lemma sign_paddedExponent (x : ℤ) :
    sign (paddedExponent x) = (decide (x < 0), (Nat.toDigits 10 x.natAbs).leftpad 2 '0') := by
  unfold paddedExponent
  split_ifs with hneg
  · rw [decide_eq_true hneg]
    rfl
  · rw [decide_eq_false hneg]
    rfl

lemma exponent?_paddedExponent (x : ℤ) : exponent? ('e' :: paddedExponent x) = some x := by
  refine exponent?_of_sign (sign_paddedExponent x) ?_ ?_ ?_
  · exact List.append_ne_nil_of_right_ne_nil _ Nat.toDigits_ne_nil
  · exact allDigits_append.mpr ⟨allDigits_replicate _, allDigits_toDigits _⟩
  · rw [List.leftpad, digitsValue_append, digitsValue_replicate, digitsValue_toDigits, Nat.zero_mul,
      Nat.zero_add]

variable {q : ℚ} {t tail : List Char} {e : ℤ}

lemma denoted?_of_isExpansion (negative : Bool) (h : IsExpansion q t)
    (htail : exponent? tail = some e) :
    denoted? (signText negative ++ (t ++ tail)) =
      some ((if negative then -1 else 1) * (q * 10 ^ e)) := by
  obtain ⟨n, frac, hdigits, -, rfl, rfl⟩ := h
  rw [List.append_assoc, denoted?_append negative hdigits htail]

lemma denoted?_of_isResultText {m : ℕ} {x : ℤ} (negative : Bool) (h : IsResultText m x t) :
    denoted? (signText negative ++ t) =
      some ((if negative then -1 else 1) * (m * 10 ^ (x - 5) : ℚ)) := by
  unfold IsResultText at h
  split_ifs at h
  · have hnone : exponent? [] = some 0 := rfl
    have hplain := denoted?_of_isExpansion negative h hnone
    rwa [List.append_nil, zpow_zero, mul_one] at hplain
  · obtain ⟨mantissa, hmantissa, rfl⟩ := h
    rw [denoted?_of_isExpansion negative hmantissa (exponent?_paddedExponent x), div_pow_mul_zpow]

end Denotation

section Results
variable {v w : Float}

lemma denoted?_display {m : ℕ} {x : ℤ} (hfinite : isFinite v = true) (hzero : value v ≠ 0)
    (h : IsRounded 5 |value v| m x) :
    denoted? (display v).toList =
      some ((if isNegative v then -1 else 1) * (m * 10 ^ (x - 5) : ℚ)) := by
  obtain ⟨t, hdisplay, ht⟩ := exists_display hfinite hzero h
  rw [hdisplay, denoted?_of_isResultText _ ht]

theorem exists_denoted?_display (hfinite : isFinite v = true) :
    ∃ a, denoted? (display v).toList = some a ∧ RoundsTo 5 (value v) a := by
  by_cases hzero : value v = 0
  · refine ⟨0, ?_, by rw [hzero]; exact .zero⟩
    rw [toList_display_zero ((value_eq_zero_iff hfinite).mp hzero)]
    cases isNegative v <;> decide +kernel
  · obtain ⟨m, x, h⟩ := exists_isRounded hfinite hzero
    have hpos := abs_pos.mpr hzero
    refine ⟨_, denoted?_display hfinite hzero h, ?_⟩
    split_ifs with hneg
    · have hvalue : value v = -|value v| := by
        rw [abs_of_neg ((value_neg_iff hfinite hzero).mpr hneg), neg_neg]
      rw [neg_one_mul, hvalue]
      exact .negative hpos h
    · have hvalue : |value v| = value v :=
        abs_of_nonneg (not_lt.mp (mt (value_neg_iff hfinite hzero).mp hneg))
      rw [one_mul]
      rw [hvalue] at h hpos
      exact .positive hpos h

lemma signed_inj {s s' : Bool} {a b : ℚ} (ha : 0 < a) (hb : 0 < b)
    (h : (if s then -1 else 1) * a = (if s' then -1 else 1) * b) : s = s' ∧ a = b := by
  cases s <;> cases s' <;> simp only [if_true, if_false, Bool.false_eq_true] at h
  · exact ⟨rfl, by linarith⟩
  · linarith
  · linarith
  · exact ⟨rfl, by linarith⟩

/-- Six digits, their place and the sign are found again in the rational that a text stands for,
so that it has no other text. -/
theorem display_eq_of_denoted? (hv : isFinite v = true) (hw : isFinite w = true)
    (hvzero : value v ≠ 0) (hwzero : value w ≠ 0)
    (h : denoted? (display v).toList = denoted? (display w).toList) : display v = display w := by
  obtain ⟨m, x, hm⟩ := exists_isRounded hv hvzero
  obtain ⟨n, y, hn⟩ := exists_isRounded hw hwzero
  rw [denoted?_display hv hvzero hm, denoted?_display hw hwzero hn, Option.some.injEq] at h
  obtain ⟨hsign, hsize⟩ := signed_inj hm.pos hn.pos h
  obtain ⟨rfl, hplace⟩ := coefficient_unique ⟨hm.lower, hm.upper⟩ ⟨hn.lower, hn.upper⟩ hsize
  obtain rfl : x = y := by omega
  obtain ⟨t, hdisplay, ht⟩ := exists_display hv hvzero hm
  obtain ⟨t', hdisplay', ht'⟩ := exists_display hw hwzero hn
  apply String.toList_injective
  rw [hdisplay, hdisplay', hsign, ht.unique ht']

theorem display_neg (hfinite : isFinite v = true) :
    if isNegative v then display v = "-" ++ display (-v) else display (-v) = "-" ++ display v := by
  have hle : rank v ≤ infinityRank := (of_decide_eq_true hfinite).le
  have htext : (display v).toList =
      signText (isNegative v) ++ NumberStyle.result.magnitudeText (rank v) := by
    rw [toList_display, NumberStyle.text_of_le _ hle]
  have htext' : (display (-v)).toList =
      signText (!isNegative v) ++ NumberStyle.result.magnitudeText (rank v) := by
    rw [toList_display, NumberStyle.text_of_le _ (by rwa [rank_neg hle]), rank_neg hle,
      isNegative_neg hle]
  split_ifs with hneg
  · rw [hneg] at htext htext'
    apply String.toList_injective
    rw [String.toList_append, htext, htext']
    rfl
  · rw [Bool.not_eq_true] at hneg
    rw [hneg] at htext htext'
    apply String.toList_injective
    rw [String.toList_append, htext, htext']
    rfl

end Results

/-- The texts of finite numbers stand for rationals in the order of the numbers, in whichever way
each is written. Two numbers other than zero have one text if these rationals are equal, and
negation adds a minus in front of the text or takes it away. -/
theorem display_ordered {v w : Float} (hv : isFinite v = true) (hw : isFinite w = true) :
    (∃ a b, denoted? (display v).toList = some a ∧ denoted? (display w).toList = some b ∧
      (v ≤ w → a ≤ b) ∧ (value v ≠ 0 → value w ≠ 0 → a = b → display v = display w)) ∧
    if isNegative v then display v = "-" ++ display (-v) else display (-v) = "-" ++ display v := by
  obtain ⟨a, ha, hround⟩ := exists_denoted?_display hv
  obtain ⟨b, hb, hround'⟩ := exists_denoted?_display hw
  refine ⟨⟨a, b, ha, hb, ?_, ?_⟩, display_neg hv⟩
  · intro hle
    exact hround.mono ((le_iff_value_le hv hw).mp hle) hround'
  · intro hvzero hwzero hab
    exact display_eq_of_denoted? hv hw hvzero hwzero (by rw [ha, hb, hab])

/-- Two neighbours of a power of ten, `999999.4` and `999999.7`: one is written in place and the
other with an exponent. -/
theorem display_ordered_styles :
    ofRank false 4696837141530725581 ≤ ofRank false 4696837144107705958 ∧
    display (ofRank false 4696837141530725581) = "999999" ∧
    display (ofRank false 4696837144107705958) = "1e+06" ∧
    ∃ a b, denoted? "999999".toList = some a ∧ denoted? "1e+06".toList = some b ∧ a ≤ b := by
  have hle : ofRank false 4696837141530725581 ≤ ofRank false 4696837144107705958 := by
    decide +kernel
  have hlow : display (ofRank false 4696837141530725581) = "999999" := by decide +kernel
  have hhigh : display (ofRank false 4696837144107705958) = "1e+06" := by decide +kernel
  obtain ⟨⟨a, b, ha, hb, hordered, -⟩, -⟩ := display_ordered (v := ofRank false 4696837141530725581)
    (w := ofRank false 4696837144107705958) (by decide +kernel) (by decide +kernel)
  rw [hlow] at ha
  rw [hhigh] at hb
  exact ⟨hle, hlow, hhigh, a, b, ha, hb, hordered hle⟩

end LineCalculator
