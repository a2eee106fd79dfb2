import LineCalculator.Proofs.Number.Bits
import Mathlib

/-!
# Exact values

A finite binary64 number is the rational that its fields describe: a sign, a whole mantissa and a
power of two. `value_eq` puts it in units of the smallest number, with the sign in front, which is
how numbers are rounded and written.
-/
namespace LineCalculator.Binary64
open Float.Model
open Float.Model.UnpackedFloat

def signFactor : Sign → ℚ
  | .negative => -1
  | .positive => 1

/-- The exact value of a finite number. The others have none, and zero stands in for it. -/
def value (v : Float) : ℚ :=
  match v.toModel.unpack with
  | .finite s mantissa exponent _ => signFactor s * (mantissa * 2 ^ exponent)
  | _ => 0

variable {v : Float}

lemma rank_eq_fields (v : Float) :
    rank v = (@unpackExponent Format.binary64 v.toBits.toBitVec).toNat * 2 ^ 52 +
      (@unpackMantissa Format.binary64 v.toBits.toBitVec).toNat := by
  rw [toNat_unpackExponent, toNat_unpackMantissa]
  change v.toBits.toBitVec.toNat % 2 ^ 63 = _
  omega

lemma signFactor_eq (v : Float) :
    signFactor (Sign.ofBitVec (@unpackSign Format.binary64 v.toBits.toBitVec)) =
      if isNegative v then -1 else 1 := by
  have hsign : (@unpackSign Format.binary64 v.toBits.toBitVec).toNat = v.toBits.toNat / 2 ^ 63 :=
    toNat_unpackSign v.toBits.toBitVec
  have hneg : isNegative v = true ↔ 2 ^ 63 ≤ v.toBits.toNat := decide_eq_true_iff
  rw [Sign.ofBitVec]
  split_ifs with hzero hn hn
  · rw [hzero] at hsign
    change 0 = _ at hsign
    have := hneg.mp hn
    omega
  · rfl
  · rfl
  · refine absurd (BitVec.eq_of_toNat_eq ?_) hzero
    rw [hsign]
    have := mt hneg.mpr hn
    change _ = 0
    omega

lemma units_eq (v : Float) :
    units v = if rank v < 2 ^ 52 then rank v
      else (2 ^ 52 + rank v % 2 ^ 52) * 2 ^ (rank v / 2 ^ 52 - 1) := rfl

lemma cast_unitsOfOne : (unitsOfOne : ℚ) = 2 ^ (1074 : ℤ) := by
  have hcast : ∀ k : ℕ, ((Nat.pow 2 k : ℕ) : ℚ) = 2 ^ (k : ℤ) := by
    intro k
    rw [Nat.pow_eq, Nat.cast_pow, zpow_natCast, Nat.cast_ofNat]
  unfold unitsOfOne
  apply hcast

section Fields

variable {exponent mantissa : ℕ}

lemma units_div_of_subnormal (hrank : rank v = mantissa) (hm : mantissa < 2 ^ 52) :
    (units v / unitsOfOne : ℚ) = mantissa * 2 ^ (-1074 : ℤ) := by
  rw [units_eq, hrank, if_pos hm, cast_unitsOfOne, zpow_neg, div_eq_mul_inv]

lemma units_div_of_normal (hrank : rank v = exponent * 2 ^ 52 + mantissa) (hm : mantissa < 2 ^ 52)
    (he : 0 < exponent) :
    (units v / unitsOfOne : ℚ) = (2 ^ 52 + mantissa : ℕ) * 2 ^ (exponent - 1075 : ℤ) := by
  have hmod : rank v % 2 ^ 52 = mantissa := by omega
  have hdiv : rank v / 2 ^ 52 = exponent := by omega
  have hpow : (exponent - 1075 : ℤ) = (exponent - 1 : ℕ) - 1074 := by omega
  rw [units_eq, if_neg (by omega), hmod, hdiv, cast_unitsOfOne, hpow, zpow_sub₀ (by norm_num),
    zpow_natCast, Nat.cast_mul, Nat.cast_pow, Nat.cast_ofNat, mul_div_assoc]

end Fields

lemma unpackExponent_ne (h : isFinite v = true) :
    @unpackExponent Format.binary64 v.toBits.toBitVec ≠ -1#11 := by
  intro hones
  have hrank := rank_eq_fields v
  have hfinite : rank v < 2047 * 2 ^ 52 := of_decide_eq_true h
  rw [hones] at hrank
  change rank v = 2047 * 2 ^ 52 + _ at hrank
  omega

theorem value_eq (h : isFinite v = true) :
    value v = (if isNegative v then -1 else 1) * (units v / unitsOfOne : ℚ) := by
  have hrank := rank_eq_fields v
  have hmantissa : (@unpackMantissa Format.binary64 v.toBits.toBitVec).toNat < 2 ^ 52 :=
    (@unpackMantissa Format.binary64 v.toBits.toBitVec).isLt
  have hunpacked := isUnpacked_unpack v.toBits.toBitVec (of_decide_eq_true h).le
  rw [← signFactor_eq, value]
  change (match UnpackedFloat.unpack Format.binary64 v.toBits.toBitVec with
    | .finite s mantissa exponent _ => signFactor s * (mantissa * 2 ^ exponent)
    | _ => 0) = _
  generalize UnpackedFloat.unpack Format.binary64 v.toBits.toBitVec = u at hunpacked ⊢
  cases hunpacked with
  | infinity hones _ => exact absurd hones (unpackExponent_ne h)
  | zero hexponent hzero =>
    have hnone : rank v = 0 := by
      rw [hrank, hexponent, hzero]
      rfl
    rw [units_eq, hnone, if_pos (by decide), Nat.cast_zero, zero_div, mul_zero]
  | subnormal hexponent _ =>
    have hsub : rank v = (@unpackMantissa Format.binary64 v.toBits.toBitVec).toNat := by
      rw [hrank, hexponent]
      exact Nat.zero_add _
    rw [units_div_of_subnormal hsub hmantissa]
  | normal hpos _ hlead _ => rw [units_div_of_normal hrank hmantissa hpos, ← hlead]

lemma unitsOfOne_pos : 0 < unitsOfOne := by
  unfold unitsOfOne
  apply Nat.pow_pos
  decide

lemma units_pos (h : rank v ≠ 0) : 0 < units v := by
  rw [units_eq]
  split_ifs with hlt
  · exact Nat.pos_of_ne_zero h
  · positivity

lemma units_eq_zero (h : rank v = 0) : units v = 0 := by
  rw [units_eq, h, if_pos (by decide)]

lemma units_lt {k : ℕ} (h : rank v < k * 2 ^ 52) : units v < 2 ^ (52 + k) := by
  rw [units_eq]
  split_ifs with hlt
  · exact hlt.trans_le (Nat.pow_le_pow_right (by decide) (by omega))
  · have hexp : rank v / 2 ^ 52 - 1 ≤ k - 1 := by omega
    have hpos : 0 < 2 ^ (rank v / 2 ^ 52 - 1) := by positivity
    calc (2 ^ 52 + rank v % 2 ^ 52) * 2 ^ (rank v / 2 ^ 52 - 1)
        < 2 ^ 53 * 2 ^ (rank v / 2 ^ 52 - 1) := Nat.mul_lt_mul_of_pos_right (by omega) hpos
      _ ≤ 2 ^ 53 * 2 ^ (k - 1) := Nat.mul_le_mul_left _ (Nat.pow_le_pow_right (by decide) hexp)
      _ = 2 ^ (52 + k) := by rw [← pow_add]; congr 1; omega

theorem abs_value (h : isFinite v = true) : |value v| = units v / unitsOfOne := by
  have hsize : (0 : ℚ) ≤ units v / unitsOfOne := by positivity
  rw [value_eq h]
  split_ifs
  · rw [neg_one_mul, abs_neg, abs_of_nonneg hsize]
  · rw [one_mul, abs_of_nonneg hsize]

theorem value_eq_zero_iff (h : isFinite v = true) : value v = 0 ↔ rank v = 0 := by
  rw [← abs_eq_zero, abs_value h]
  constructor
  · intro hzero
    by_contra hrank
    have hpos : (0 : ℚ) < units v / unitsOfOne :=
      div_pos (Nat.cast_pos.mpr (units_pos hrank)) (Nat.cast_pos.mpr unitsOfOne_pos)
    exact hpos.ne' hzero
  · intro hrank
    rw [units_eq_zero hrank, Nat.cast_zero, zero_div]

lemma rank_ne_zero (h : isFinite v = true) (hzero : value v ≠ 0) : rank v ≠ 0 :=
  mt (value_eq_zero_iff h).mpr hzero

theorem value_neg_iff (h : isFinite v = true) (hzero : value v ≠ 0) :
    value v < 0 ↔ isNegative v = true := by
  have hsize : (0 : ℚ) < units v / unitsOfOne := by
    rw [← abs_value h]
    exact abs_pos.mpr hzero
  rw [value_eq h]
  split_ifs with hneg
  · rw [neg_one_mul, neg_lt_zero]
    exact iff_of_true hsize hneg
  · rw [one_mul]
    exact iff_of_false hsize.not_gt hneg

lemma abs_value_lt {k : ℕ} (h : isFinite v = true) (hk : rank v < k * 2 ^ 52) :
    |value v| < ((10 : ℕ) : ℚ) ^ ((52 + k : ℕ) : ℤ) := by
  have hone : (1 : ℚ) ≤ unitsOfOne := Nat.one_le_cast.mpr unitsOfOne_pos
  have hpow : 2 ^ (52 + k) ≤ 10 ^ (52 + k) := Nat.pow_le_pow_left (by decide) _
  rw [abs_value h, zpow_natCast]
  calc (units v / unitsOfOne : ℚ) ≤ units v := div_le_self (Nat.cast_nonneg _) hone
    _ < ((10 : ℕ) : ℚ) ^ (52 + k) := by exact_mod_cast (units_lt hk).trans_le hpow

lemma le_abs_value {k : ℕ} (h : isFinite v = true) (hzero : value v ≠ 0)
    (hk : (unitsOfOne : ℚ) = 2 ^ (k : ℤ)) : ((10 : ℕ) : ℚ) ^ (-k : ℤ) ≤ |value v| := by
  have hsize : (1 : ℚ) ≤ units v := by exact_mod_cast units_pos (rank_ne_zero h hzero)
  have hpow : (2 : ℚ) ^ k ≤ 10 ^ k := pow_le_pow_left₀ (by norm_num) (by norm_num) k
  rw [abs_value h, hk, Nat.cast_ofNat, zpow_neg, zpow_natCast, zpow_natCast, div_eq_mul_inv]
  calc ((10 : ℚ) ^ k)⁻¹ ≤ (2 ^ k)⁻¹ := inv_anti₀ (by positivity) hpow
    _ ≤ units v * (2 ^ k)⁻¹ := le_mul_of_one_le_left (by positivity) hsize

/-- Bounds on the place of the leading digit. A power of ten is above that of two. -/
theorem log_abs_value (h : isFinite v = true) (hzero : value v ≠ 0) :
    -1074 ≤ Int.log 10 |value v| ∧ Int.log 10 |value v| < 2099 := by
  have hpos : 0 < |value v| := abs_pos.mpr hzero
  have hrank : rank v < 2047 * 2 ^ 52 := of_decide_eq_true h
  have hlow := (Int.zpow_le_iff_le_log (by decide) hpos).mp (le_abs_value h hzero cast_unitsOfOne)
  have hhigh := (Int.lt_zpow_iff_log_lt (by decide) hpos).mp (abs_value_lt h hrank)
  exact ⟨hlow, by omega⟩

end LineCalculator.Binary64
