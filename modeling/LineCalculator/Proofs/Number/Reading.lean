import LineCalculator.Proofs.Number.Expansion
import LineCalculator.Proofs.Number.Grid
import Mathlib

/-!
# Reading literals

A literal stands for the number that its digits spell, and reading it gives the binary64 value
nearest to that number. It is refused in two cases only: half way past the largest value, and up to
half of the smallest one without being zero. Both show in the rounded value, the second because
the literal has a digit that is not zero.
-/
namespace LineCalculator

namespace Binary64

/-- The finite value `v` is nearest to `q`, and its last digit is even if another value is as
near. -/
structure IsNearestValue (q : ℚ) (v : Float) : Prop where
  finite : isFinite v = true
  near : ∀ w, isFinite w = true → |q - value v| ≤ |q - value w|
  even : ∀ w, isFinite w = true → value w ≠ value v → |q - value v| = |q - value w| →
    Even v.toBits.toNat

section Values
variable {q : ℚ} {r : ℕ} {w : Float}

lemma abs_sub_units (q : ℚ) (k : ℕ) :
    |q - unitsOfRank k / unitsOfOne| = |q * unitsOfOne - unitsOfRank k| / unitsOfOne := by
  have hpos : (0 : ℚ) < unitsOfOne := Nat.cast_pos.mpr unitsOfOne_pos
  rw [← abs_of_pos hpos, ← abs_div, abs_of_pos hpos, sub_div, mul_div_cancel_right₀ q hpos.ne']

lemma value_ofRank (h : r < infinityRank) :
    isFinite (ofRank false r) = true ∧ value (ofRank false r) = unitsOfRank r / unitsOfOne := by
  have hfinite : isFinite (ofRank false r) = true := by
    rw [isFinite, rank_ofRank h.le]
    exact decide_eq_true h
  refine ⟨hfinite, ?_⟩
  rw [value_eq hfinite, isNegative_ofRank h.le, units, rank_ofRank h.le, if_neg Bool.false_ne_true,
    one_mul]

lemma IsRankOf.lt_infinityRank (h : IsRankOf q r) (hq : q < 2 ^ 1024 - 2 ^ 970) :
    r < infinityRank := h.le.lt_of_ne (mt h.overflow.mp hq.not_ge)

lemma IsRankOf.abs_sub_value_le (h : IsRankOf q r) (hlow : 2 ^ (-1022 : ℤ) ≤ q)
    (hhigh : q < 2 ^ 1024 - 2 ^ 970) : |q - value (ofRank false r)| ≤ q / 2 ^ 52 := by
  have hpos : (0 : ℚ) < unitsOfOne := Nat.cast_pos.mpr unitsOfOne_pos
  have hunits : 2 ^ 52 ≤ q * unitsOfOne := by
    have hfull : (2 : ℚ) ^ (-1022 : ℤ) * unitsOfOne = 2 ^ 52 := by
      rw [cast_unitsOfOne, ← zpow_add₀ two_ne_zero]
      norm_num
    rw [← hfull]
    exact mul_le_mul_of_nonneg_right hlow hpos.le
  rw [(value_ofRank (h.lt_infinityRank hhigh)).2, abs_sub_units, div_le_iff₀ hpos,
    div_mul_eq_mul_div]
  exact (h.nearest hhigh).abs_sub_le hunits

lemma value_of_nonneg (hfinite : isFinite w = true) (h : 0 ≤ value w) :
    value w = unitsOfRank (rank w) / unitsOfOne := by
  rw [← abs_of_nonneg h, abs_value hfinite]
  rfl

/-- The value of the nearest rank is nearest among those of both signs, as zero is nearer to `q`
than every negative value. -/
theorem IsNearestRank.isNearestValue (h : IsNearestRank (q * unitsOfOne) r) (hq : 0 ≤ q)
    (hr : r < infinityRank) : IsNearestValue q (ofRank false r) := by
  have hpos : (0 : ℚ) < unitsOfOne := Nat.cast_pos.mpr unitsOfOne_pos
  obtain ⟨hfinite, hvalue⟩ := value_ofRank hr
  have hnear : ∀ k, |q - value (ofRank false r)| ≤ |q - unitsOfRank k / unitsOfOne| := by
    intro k
    rw [hvalue, abs_sub_units, abs_sub_units]
    exact div_le_div_of_nonneg_right (h.near k) hpos.le
  have hnegative : ∀ w, value w < 0 → |q - value (ofRank false r)| < |q - value w| := by
    intro w hw
    have hzero := hnear 0
    rw [unitsOfRank_eq, if_pos (by decide), Nat.cast_zero, zero_div, sub_zero,
      abs_of_nonneg hq] at hzero
    calc |q - value (ofRank false r)| ≤ q := hzero
      _ < q - value w := by linarith
      _ ≤ |q - value w| := le_abs_self _
  refine ⟨hfinite, ?_, ?_⟩
  · intro w hw
    rcases le_or_gt 0 (value w) with hnonneg | hneg
    · rw [value_of_nonneg hw hnonneg]
      exact hnear (rank w)
    · exact (hnegative w hneg).le
  · intro w hw hne heq
    rcases le_or_gt 0 (value w) with hnonneg | hneg
    · rw [value_of_nonneg hw hnonneg, hvalue] at hne heq
      rw [abs_sub_units, abs_sub_units, div_left_inj' hpos.ne'] at heq
      rw [toNat_toBits_ofRank hr.le, if_neg Bool.false_ne_true]
      refine h.even (rank w) ?_ heq
      intro hrank
      exact hne (by rw [hrank])
    · exact absurd heq (hnegative w hneg).ne

/-- The numbers without a value near enough: those that round past the largest value, and those
that round to zero but are larger. -/
def OutOfRange (q : ℚ) : Prop := 2 ^ 1024 - 2 ^ 970 ≤ q ∨ 0 < q ∧ q ≤ 2 ^ (-1075 : ℤ)

lemma isRankOf_zero (hq : 0 ≤ q) (h : q ≤ 2 ^ (-1075 : ℤ)) : IsRankOf q 0 := by
  have hhalf : 2 * (q * unitsOfOne) ≤ 1 := by
    have hone : (2 : ℚ) ^ (-1075 : ℤ) * unitsOfOne = 1 / 2 := by
      rw [cast_unitsOfOne, ← zpow_add₀ two_ne_zero]
      norm_num
    have hscaled := mul_le_mul_of_nonneg_right h (Nat.cast_nonneg (α := ℚ) unitsOfOne)
    linarith
  have hunits : 0 ≤ q * unitsOfOne := mul_nonneg hq (Nat.cast_nonneg _)
  have hrank := (isNearestRank_zero hunits hhalf).isRankOf
  rwa [min_eq_right (Nat.zero_le _)] at hrank

lemma isRankOf_infinity (h : 2 ^ 1024 - 2 ^ 970 ≤ q) : IsRankOf q infinityRank :=
  ⟨iff_of_true rfl h, fun hlt => absurd h hlt.not_ge, le_rfl⟩

lemma IsRankOf.inRange_iff (h : IsRankOf q r) {positive : Bool}
    (hpositive : positive = true ↔ 0 < q) :
    (isFinite (ofRank false r) && !(isZero (ofRank false r) && positive)) = true ↔
      ¬ OutOfRange q := by
  have hzero : isZero (ofRank false r) = true ↔ q ≤ 2 ^ (-1075 : ℤ) := by
    rw [isZero, rank_ofRank h.le, beq_iff_eq, h.eq_zero_iff]
  have hfinite : isFinite (ofRank false r) = true ↔ ¬ 2 ^ 1024 - 2 ^ 970 ≤ q := by
    rw [isFinite, rank_ofRank h.le, decide_eq_true_iff, h.le.lt_iff_ne, Ne, h.overflow]
  rw [Bool.and_eq_true, Bool.not_eq_true', ← Bool.not_eq_true, Bool.and_eq_true, hzero, hfinite,
    hpositive, OutOfRange, not_or, and_comm (a := 0 < q)]

end Values

end Binary64

namespace Numeral
open Binary64

section Ranks
variable {coefficient : ℕ} {place : ℤ}

lemma lt_zpow_leading (coefficient : ℕ) (place : ℤ) :
    (coefficient * 10 ^ place : ℚ) < 10 ^ (place + digitCount coefficient) := by
  have hdigits : (coefficient : ℚ) < 10 ^ digitCount coefficient := by
    exact_mod_cast lt_pow_digitCount coefficient
  rw [add_comm, zpow_add₀ (by norm_num), zpow_natCast]
  exact mul_lt_mul_of_pos_right hdigits (by positivity)

lemma zpow_leading_le (h : 0 < coefficient) :
    (10 : ℚ) ^ (place + digitCount coefficient - 1) ≤ coefficient * 10 ^ place := by
  have hcount := digitCount_pos coefficient
  have hdigits : (10 : ℚ) ^ (digitCount coefficient - 1) ≤ coefficient := by
    exact_mod_cast pow_digitCount_le h
  have hexponent : place + digitCount coefficient - 1 =
      (digitCount coefficient - 1 : ℕ) + place := by omega
  rw [hexponent, zpow_add₀ (by norm_num), zpow_natCast]
  exact mul_le_mul_of_nonneg_right hdigits (by positivity)

lemma two_zpow_le_ten_pow : (2 : ℚ) ^ 1075 ≤ 10 ^ 400 := calc
  (2 : ℚ) ^ 1075 ≤ 2 ^ (3 * 400) := pow_le_pow_right₀ one_le_two (by decide)
  _ = (2 ^ 3) ^ 400 := pow_mul 2 3 400
  _ ≤ 10 ^ 400 := pow_le_pow_left₀ (by norm_num) (by norm_num) 400

/-- The rank of a decimal number is exact. Where the leading digit alone decides, the number is
well past one of the bounds. -/
theorem isRankOf_rankOf (coefficient : ℕ) (place : ℤ) :
    IsRankOf (coefficient * 10 ^ place) (rankOf coefficient place) := by
  unfold rankOf
  dsimp only
  split_ifs with hzero hlarge hsmall
  · rw [hzero, Nat.cast_zero, zero_mul]
    exact isRankOf_zero le_rfl (by positivity)
  · apply isRankOf_infinity
    calc (2 : ℚ) ^ 1024 - 2 ^ 970 ≤ 2 ^ 1024 := sub_le_self _ (by positivity)
      _ ≤ 2 ^ 1075 := pow_le_pow_right₀ one_le_two (by decide)
      _ ≤ 10 ^ 400 := two_zpow_le_ten_pow
      _ = 10 ^ (400 : ℤ) := (zpow_natCast 10 400).symm
      _ ≤ 10 ^ (place + digitCount coefficient - 1) :=
        zpow_le_zpow_right₀ (by norm_num) (by omega)
      _ ≤ coefficient * 10 ^ place := zpow_leading_le (Nat.pos_of_ne_zero hzero)
  · refine isRankOf_zero (by positivity) ?_
    calc (coefficient * 10 ^ place : ℚ) ≤ 10 ^ (place + digitCount coefficient) :=
        (lt_zpow_leading coefficient place).le
      _ ≤ 10 ^ (-400 : ℤ) := zpow_le_zpow_right₀ (by norm_num) (by omega)
      _ = (10 ^ 400)⁻¹ := (zpow_neg 10 400).trans (congrArg _ (zpow_natCast 10 400))
      _ ≤ (2 ^ 1075)⁻¹ := inv_anti₀ (by positivity) two_zpow_le_ten_pow
      _ = 2 ^ (-1075 : ℤ) := ((zpow_neg 2 1075).trans (congrArg _ (zpow_natCast 2 1075))).symm
  · have hquotient : (coefficient * 10 ^ place : ℚ) =
        (coefficient * Nat.pow 10 place.toNat : ℕ) / (Nat.pow 10 (-place).toNat : ℕ) := by
      rw [zpow_eq_div, Nat.cast_mul, mul_div_assoc]
    rw [hquotient]
    exact isRankOf_nearestRank (Nat.pow_pos (by decide))

end Ranks

section Literals
variable {cs ds whole fraction : List Char}

def literalValue (cs : List Char) : ℚ :=
  digitsValue (cs.takeWhile Char.isDigit) + fractionValue ((cs.dropWhile Char.isDigit).drop 1)

def isSignificant (c : Char) : Bool := '1' ≤ c && c ≤ '9'

lemma isSignificant_iff {c : Char} (h : c.isDigit = true) :
    isSignificant c = true ↔ digitValue c ≠ 0 := by
  have hall : ∀ n < 10, isSignificant n.digitChar = true ↔ n ≠ 0 := by decide
  rw [← hall _ (digitValue_lt h), digitChar_digitValue h]

lemma any_isSignificant (h : AllDigits ds) :
    ds.any isSignificant = true ↔ digitsValue ds ≠ 0 := by
  induction ds with
  | nil => simp
  | cons c cs ih =>
    obtain ⟨hc, hcs⟩ := allDigits_cons.mp h
    have hpow : ¬ 10 ^ cs.length = 0 := (Nat.pow_pos (by decide)).ne'
    rw [List.any_cons, Bool.or_eq_true, isSignificant_iff hc, ih hcs, digitsValue_cons, Ne, Ne, Ne,
      Nat.add_eq_zero_iff, Nat.mul_eq_zero, or_iff_left hpow, not_and_or]

lemma literalValue_whole (hw : AllDigits whole) : literalValue whole = digitsValue whole := by
  obtain ⟨htake, hdrop⟩ := @takeWhile_dropWhile_append _ _ [] hw (by simp)
  rw [List.append_nil] at htake hdrop
  rw [literalValue, htake, hdrop, List.drop_nil, fractionValue_nil, add_zero]

lemma literalValue_fraction (hw : AllDigits whole) :
    literalValue (whole ++ '.' :: fraction) = digitsValue whole + fractionValue fraction := by
  obtain ⟨htake, hdrop⟩ := @takeWhile_dropWhile_append _ _ ('.' :: fraction) hw (by simp)
  rw [literalValue, htake, hdrop, List.drop_one, List.tail_cons]

theorem read?_literal (h : IsNumberText cs) :
    ∃ coefficient place, read? (String.ofList cs) = some (decimal false coefficient place) ∧
      (coefficient * 10 ^ place : ℚ) = literalValue cs ∧
      (cs.any isSignificant = true ↔ coefficient ≠ 0) := by
  obtain ⟨whole, hne, hw, hcs⟩ := h
  rcases hcs with rfl | ⟨fraction, hf, rfl⟩
  · refine ⟨digitsValue cs, 0, read?_whole hne hw, ?_, any_isSignificant hw⟩
    rw [literalValue_whole hw, zpow_zero, mul_one]
  · refine ⟨digitsValue (whole ++ fraction), -fraction.length, read?_fraction hne hw hf, ?_, ?_⟩
    · rw [literalValue_fraction hw, digitsValue_append, fractionValue, zpow_neg, zpow_natCast]
      push_cast
      field_simp
    · have hpoint : isSignificant '.' = false := by decide
      rw [← any_isSignificant (allDigits_append.mpr ⟨hw, hf⟩), List.any_append, List.any_append,
        List.any_cons, hpoint, Bool.false_or]

end Literals

end Numeral

open Binary64 Numeral

variable {i : Item}

lemma Item.exists_rank_number (h : IsNumberText i.lexeme.toList) :
    ∃ r, IsRankOf (literalValue i.lexeme.toList) r ∧ 0 ≤ literalValue i.lexeme.toList ∧
      (OutOfRange (literalValue i.lexeme.toList) →
        i.number = .error (.numberOutOfRange i.lexeme i.span)) ∧
      (¬ OutOfRange (literalValue i.lexeme.toList) → i.number = .ok (ofRank false r)) := by
  obtain ⟨coefficient, place, hread, hvalue, hsignificant⟩ := read?_literal h
  rw [String.ofList_toList] at hread
  rw [← hvalue]
  have hrank := isRankOf_rankOf coefficient place
  have hpositive : i.lexeme.toList.any isSignificant = true ↔
      (0 : ℚ) < coefficient * 10 ^ place := by
    rw [hsignificant, mul_pos_iff_of_pos_right (by positivity), Nat.cast_pos, Nat.pos_iff_ne_zero]
  have hrange := hrank.inRange_iff hpositive
  have hnumber : i.number =
      if isFinite (ofRank false (rankOf coefficient place)) &&
          !(isZero (ofRank false (rankOf coefficient place)) &&
            i.lexeme.toList.any isSignificant) then
        .ok (ofRank false (rankOf coefficient place))
      else .error (.numberOutOfRange i.lexeme i.span) := by
    unfold number
    rw [hread]
    rfl
  refine ⟨_, hrank, by positivity, ?_, ?_⟩
  · intro hout
    rw [hnumber, if_neg (mt hrange.mp (not_not.mpr hout))]
  · intro hin
    rw [hnumber, if_pos (hrange.mpr hin)]

/-- A literal is refused exactly when the number that it spells is out of range, and otherwise it
has the value nearest to that number: a finite one without a sign, and zero only for a literal that
spells zero. -/
theorem Item.number_nearest (h : IsNumberText i.lexeme.toList) :
    (i.number = .error (.numberOutOfRange i.lexeme i.span) ↔
      OutOfRange (literalValue i.lexeme.toList)) ∧
    (¬ OutOfRange (literalValue i.lexeme.toList) → ∃ v, i.number = .ok v) ∧
    ∀ v, i.number = .ok v →
      IsNearestValue (literalValue i.lexeme.toList) v ∧ isNegative v = false ∧
        (isZero v = true → literalValue i.lexeme.toList = 0) := by
  obtain ⟨r, hrank, hnonneg, hout, hin⟩ := exists_rank_number h
  refine ⟨⟨?_, hout⟩, fun hrange => ⟨_, hin hrange⟩, ?_⟩
  · intro herror
    by_contra hrange
    rw [hin hrange] at herror
    contradiction
  · intro v hv
    have hrange : ¬ OutOfRange (literalValue i.lexeme.toList) := by
      intro hrange
      rw [hout hrange] at hv
      contradiction
    rw [hin hrange, Except.ok.injEq] at hv
    subst hv
    obtain ⟨hlarge, hsmall⟩ := not_or.mp hrange
    have hfinite : r < infinityRank := hrank.le.lt_of_ne (mt hrank.overflow.mp hlarge)
    refine ⟨(hrank.nearest (not_le.mp hlarge)).isNearestValue hnonneg hfinite,
      isNegative_ofRank hrank.le, ?_⟩
    intro hzero
    rw [isZero, rank_ofRank hrank.le, beq_iff_eq, hrank.eq_zero_iff] at hzero
    exact hnonneg.antisymm' (not_lt.mp fun hpos => hsmall ⟨hpos, hzero⟩)

/-- A tenth, which lies between two values. -/
theorem Item.number_nearest_tenth :
    IsNumberText "00.10".toList ∧ literalValue "00.10".toList = 1 / 10 ∧ ¬ OutOfRange (1 / 10) ∧
      ∃ v, Item.number ⟨.number, "00.10", ⟨4, 8⟩⟩ = .ok v ∧ IsNearestValue (1 / 10) v := by
  have htext : IsNumberText "00.10".toList :=
    ⟨['0', '0'], by simp, by simp, .inr ⟨['1', '0'], by simp, rfl⟩⟩
  have hvalue : literalValue "00.10".toList = 1 / 10 := by decide +kernel
  obtain ⟨-, hok, hnearest⟩ := number_nearest (i := ⟨.number, "00.10", ⟨4, 8⟩⟩) htext
  dsimp only at hok hnearest
  rw [hvalue] at hok hnearest
  have hrange : ¬ OutOfRange (1 / 10) := by
    rintro (hlarge | ⟨-, hsmall⟩)
    · have hone := one_lt_overflow.trans_le hlarge
      norm_num at hone
    · have hpow : (2 : ℚ) ^ (-1075 : ℤ) ≤ 2 ^ (-4 : ℤ) :=
        zpow_le_zpow_right₀ one_le_two (by decide)
      have hten := hsmall.trans hpow
      norm_num at hten
  obtain ⟨v, hv⟩ := hok hrange
  exact ⟨htext, hvalue, hrange, v, hv, (hnearest v hv).1⟩

end LineCalculator
