import LineCalculator.Proofs.Number.Nearest
import LineCalculator.Proofs.Number.Value
import Mathlib

/-!
# The grid of values

From rank to rank the values grow, by one unit up to the end of the first full binade and by twice
as much in each binade after it. Past the largest value they are taken to go on in the same way, so
that every number has a nearest rank. `nearestRank` is that rank, with all ranks past the largest
value taken as one; it leaves the finite ranks exactly half way to the first of them.
-/
namespace LineCalculator.Binary64

lemma unitsOfRank_eq (r : ℕ) :
    unitsOfRank r = if r < 2 ^ 52 then r
      else (2 ^ 52 + r % 2 ^ 52) * 2 ^ (r / 2 ^ 52 - 1) := rfl

section Steps
variable {s n : ℕ}

lemma unitsOfRank_step (hn : n ≤ 2 ^ 53) (h : s = 0 ∨ 2 ^ 52 ≤ n) :
    unitsOfRank (s * 2 ^ 52 + n) = n * 2 ^ s := by
  rw [unitsOfRank_eq]
  split_ifs with hlt
  · obtain rfl : s = 0 := by omega
    simp
  · rcases Nat.eq_or_lt_of_le hn with rfl | hn
    · have hdiv : (s * 2 ^ 52 + 2 ^ 53) / 2 ^ 52 - 1 = s + 1 := by omega
      have hmod : (s * 2 ^ 52 + 2 ^ 53) % 2 ^ 52 = 0 := by omega
      rw [hdiv, hmod, pow_succ 2 s]
      ring
    · have hdiv : (s * 2 ^ 52 + n) / 2 ^ 52 - 1 = s := by omega
      have hmod : (s * 2 ^ 52 + n) % 2 ^ 52 = n - 2 ^ 52 := by omega
      have hlow : 2 ^ 52 ≤ n := by omega
      rw [hdiv, hmod, Nat.add_sub_cancel' hlow]

lemma exists_steps (r : ℕ) :
    ∃ s n, r = s * 2 ^ 52 + n ∧ n < 2 ^ 53 ∧ (s = 0 ∨ 2 ^ 52 ≤ n) := by
  refine ⟨r / 2 ^ 52 - 1, r - (r / 2 ^ 52 - 1) * 2 ^ 52, ?_, ?_, ?_⟩ <;> omega

theorem strictMono_unitsOfRank : StrictMono unitsOfRank := by
  apply strictMono_nat_of_lt_succ
  intro r
  obtain ⟨s, n, rfl, hn, h⟩ := exists_steps r
  rw [unitsOfRank_step hn.le h, add_assoc,
    unitsOfRank_step (n := n + 1) (by omega) (h.imp_right (by omega))]
  exact Nat.mul_lt_mul_of_pos_right (Nat.lt_succ_self n) (by positivity)

lemma dvd_unitsOfRank_or_lt (s k : ℕ) :
    2 ^ s ∣ unitsOfRank k ∨ unitsOfRank k < 2 ^ (52 + s) := by
  obtain ⟨t, m, rfl, hm, h⟩ := exists_steps k
  rw [unitsOfRank_step hm.le h]
  rcases le_or_gt s t with hst | hts
  · exact .inl ((pow_dvd_pow 2 hst).mul_left m)
  · -- With smaller steps the value lies below the first binade of steps of `2 ^ s`.
    right
    calc m * 2 ^ t < 2 ^ 53 * 2 ^ t := Nat.mul_lt_mul_of_pos_right hm (by positivity)
      _ = 2 ^ (53 + t) := (pow_add 2 53 t).symm
      _ ≤ 2 ^ (52 + s) := Nat.pow_le_pow_right (by decide) (by omega)

end Steps

/-- The value of rank `r` is nearest to `x` units, and its last digit is even if another value is as
near. -/
structure IsNearestRank (x : ℚ) (r : ℕ) : Prop where
  near : ∀ k, |x - unitsOfRank r| ≤ |x - unitsOfRank k|
  even : ∀ k, k ≠ r → |x - unitsOfRank r| = |x - unitsOfRank k| → Even r

section Nearest
variable {x : ℚ} {s n r k : ℕ}

lemma abs_sub_step (x : ℚ) (s n : ℕ) :
    |x - (n * 2 ^ s : ℕ)| = 2 ^ s * |x / 2 ^ s - n| := by
  have hpos : (0 : ℚ) < 2 ^ s := by positivity
  rw [← abs_of_pos hpos, ← abs_mul, abs_of_pos hpos]
  congr 1
  push_cast
  field_simp

/-- The nearest number of steps gives the nearest value: the values that are no number of steps lie
below the binade. -/
theorem isNearestRank_of_isNearest (h : IsNearest (x / 2 ^ s) n) (hhigh : x < 2 ^ (53 + s))
    (hlow : s = 0 ∨ 2 ^ (52 + s) ≤ x) : IsNearestRank x (s * 2 ^ 52 + n) := by
  have hpos : (0 : ℚ) < 2 ^ s := by positivity
  have hn : n ≤ 2 ^ 53 := by
    apply h.le_of_lt
    rwa [div_lt_iff₀ hpos, Nat.cast_pow, Nat.cast_ofNat, ← pow_add]
  have hfull : s = 0 ∨ 2 ^ 52 ≤ n := by
    refine hlow.imp_right fun hlow => h.le_of_le ?_
    rwa [le_div_iff₀ hpos, Nat.cast_pow, Nat.cast_ofNat, ← pow_add]
  have hstep : ∀ m : ℕ, |x - unitsOfRank (s * 2 ^ 52 + n)| ≤ |x - (m * 2 ^ s : ℕ)| := by
    intro m
    rw [unitsOfRank_step hn hfull, abs_sub_step, abs_sub_step]
    exact mul_le_mul_of_nonneg_left (h.abs_sub_le m) hpos.le
  have hbelow : ∀ k, ¬ 2 ^ s ∣ unitsOfRank k →
      |x - unitsOfRank (s * 2 ^ 52 + n)| < |x - unitsOfRank k| := by
    intro k hk
    have hlt := (dvd_unitsOfRank_or_lt s k).resolve_left hk
    have hbinade : (2 : ℚ) ^ (52 + s) ≤ x := by
      refine hlow.resolve_left ?_
      rintro rfl
      exact hk (one_dvd _)
    have hlt' : (unitsOfRank k : ℚ) < 2 ^ (52 + s) := by exact_mod_cast hlt
    calc |x - unitsOfRank (s * 2 ^ 52 + n)| ≤ |x - (2 ^ 52 * 2 ^ s : ℕ)| := hstep (2 ^ 52)
      _ = x - 2 ^ (52 + s) := by
        rw [← pow_add, Nat.cast_pow, Nat.cast_ofNat, abs_of_nonneg (by linarith)]
      _ < x - unitsOfRank k := by linarith
      _ ≤ |x - unitsOfRank k| := le_abs_self _
  constructor
  · intro k
    by_cases hk : 2 ^ s ∣ unitsOfRank k
    · obtain ⟨m, hm⟩ := hk
      rw [hm, mul_comm (2 ^ s)]
      exact hstep m
    · exact (hbelow k hk).le
  · intro k hne heq
    by_cases hk : 2 ^ s ∣ unitsOfRank k
    · obtain ⟨m, hm⟩ := hk
      have hmn : m ≠ n := by
        rintro rfl
        apply hne
        apply strictMono_unitsOfRank.injective
        rw [hm, unitsOfRank_step hn hfull, mul_comm]
      rw [hm, mul_comm (2 ^ s), unitsOfRank_step hn hfull, abs_sub_step, abs_sub_step,
        mul_right_inj' hpos.ne'] at heq
      have hsteps : Even (s * 2 ^ 52) := (even_two.pow_of_ne_zero (by decide)).mul_left s
      exact hsteps.add (h.even_of_abs_sub_eq hmn heq)
    · exact absurd heq (hbelow k hk).ne

lemma abs_sub_le_abs_sub_left {a b : ℚ} (h : a < b) : |x - b| ≤ |x - a| ↔ a + b ≤ 2 * x := by
  have hfactor : (x - a) ^ 2 - (x - b) ^ 2 = (b - a) * (2 * x - (a + b)) := by ring
  rw [← sq_le_sq, ← sub_nonneg, hfactor, mul_nonneg_iff_of_pos_left (sub_pos.mpr h), sub_nonneg]

lemma abs_sub_le_abs_sub_right {a b : ℚ} (h : a < b) : |x - a| ≤ |x - b| ↔ 2 * x ≤ a + b := by
  have hfactor : (x - b) ^ 2 - (x - a) ^ 2 = (b - a) * (a + b - 2 * x) := by ring
  rw [← sq_le_sq, ← sub_nonneg, hfactor, mul_nonneg_iff_of_pos_left (sub_pos.mpr h), sub_nonneg]

/-- A rank above `k` is nearest from half way between `k` and the next rank on, and half way itself
goes to the even one of the two. -/
theorem IsNearestRank.lt_iff (h : IsNearestRank x r) :
    k < r ↔ (unitsOfRank k + unitsOfRank (k + 1) : ℚ) < 2 * x ∨
      (unitsOfRank k + unitsOfRank (k + 1) : ℚ) = 2 * x ∧ Odd k := by
  have hmono : ∀ {i j : ℕ}, i < j → (unitsOfRank i : ℚ) < unitsOfRank j := fun hij =>
    Nat.cast_lt.mpr (strictMono_unitsOfRank hij)
  constructor
  · intro hkr
    have hmiddle := (abs_sub_le_abs_sub_left (hmono hkr)).mp (h.near k)
    rcases Nat.eq_or_lt_of_le (Nat.succ_le_of_lt hkr) with rfl | hlt
    · rcases hmiddle.lt_or_eq with hless | heq
      · exact .inl hless
      · have htie : |x - unitsOfRank k.succ| = |x - unitsOfRank k| :=
          (h.near k).antisymm ((abs_sub_le_abs_sub_right (hmono hkr)).mpr heq.ge)
        have heven : Even (k + 1) := h.even k hkr.ne htie
        exact .inr ⟨heq, Nat.not_even_iff_odd.mp (Nat.even_add_one.mp heven)⟩
    · have hnext := hmono hlt
      exact .inl (by linarith)
  · intro hhalf
    by_contra hrk
    have hle : r ≤ k := Nat.le_of_not_lt hrk
    have hlast : (unitsOfRank r : ℚ) ≤ unitsOfRank k :=
      Nat.cast_le.mpr (strictMono_unitsOfRank.monotone hle)
    have hmiddle := (abs_sub_le_abs_sub_right (hmono (Nat.lt_succ_of_le hle))).mp (h.near (k + 1))
    rcases hhalf with hless | ⟨heq, hodd⟩
    · linarith
    · -- Both neighbours are as near, and the lower one is odd.
      obtain rfl : r = k := by
        apply strictMono_unitsOfRank.injective
        have hcast : (unitsOfRank r : ℚ) = unitsOfRank k := by linarith
        exact_mod_cast hcast
      have htie : |x - unitsOfRank r| = |x - unitsOfRank (r + 1)| :=
        (h.near _).antisymm ((abs_sub_le_abs_sub_left (hmono (Nat.lt_succ_self r))).mpr heq.le)
      exact Nat.not_even_iff_odd.mpr hodd (h.even _ (Nat.succ_ne_self r) htie)

/-- From the first full binade on, the nearest value differs little from `x` in proportion: the
whole steps below `x` leave less than one step, and `x` has `2 ^ 52` of them. -/
theorem IsNearestRank.abs_sub_le (h : IsNearestRank x r) (hx : 2 ^ 52 ≤ x) :
    |x - unitsOfRank r| ≤ x / 2 ^ 52 := by
  obtain ⟨s, hlow, hhigh⟩ := exists_nat_pow_near (x := x / 2 ^ 52) (y := 2)
    ((one_le_div (by positivity)).mpr hx) one_lt_two
  have hpos : (0 : ℚ) < 2 ^ s := by positivity
  have hfull : 2 ^ 52 ≤ x / 2 ^ s := by
    rw [le_div_iff₀ hpos, mul_comm]
    exact (le_div_iff₀ (by positivity)).mp hlow
  have hbelow : x / 2 ^ s < 2 ^ 53 := by
    rw [div_lt_iff₀ (by positivity), pow_succ] at hhigh
    rw [div_lt_iff₀ hpos]
    linarith
  have hfloor := Nat.floor_le ((by positivity : (0 : ℚ) ≤ 2 ^ 52).trans hfull)
  have hnext := Nat.lt_floor_add_one (x / 2 ^ s)
  have hsteps : unitsOfRank (s * 2 ^ 52 + ⌊x / 2 ^ s⌋₊) = ⌊x / 2 ^ s⌋₊ * 2 ^ s := by
    apply unitsOfRank_step
    · have hle : (⌊x / 2 ^ s⌋₊ : ℚ) ≤ (2 ^ 53 : ℕ) := by push_cast; linarith
      exact_mod_cast hle
    · exact .inr (Nat.le_floor (by exact_mod_cast hfull))
  calc |x - unitsOfRank r| ≤ |x - unitsOfRank (s * 2 ^ 52 + ⌊x / 2 ^ s⌋₊)| := h.near _
    _ = 2 ^ s * |x / 2 ^ s - ⌊x / 2 ^ s⌋₊| := by rw [hsteps, abs_sub_step]
    _ ≤ 2 ^ s * 1 := mul_le_mul_of_nonneg_left (abs_le.mpr ⟨by linarith, by linarith⟩) hpos.le
    _ ≤ x / 2 ^ 52 := by rwa [mul_one]

lemma isNearestRank_zero (hx : 0 ≤ x) (h : 2 * x ≤ 1) : IsNearestRank x 0 := by
  have hzero : |x - unitsOfRank 0| = x := by
    rw [unitsOfRank_eq, if_pos (by decide), Nat.cast_zero, sub_zero, abs_of_nonneg hx]
  constructor
  · intro k
    rw [hzero]
    rcases Nat.eq_zero_or_pos k with rfl | hk
    · exact hzero.ge
    · have hunits : (1 : ℚ) ≤ unitsOfRank k := by
        exact_mod_cast Nat.succ_le_of_lt ((Nat.zero_le _).trans_lt (strictMono_unitsOfRank hk))
      exact le_abs.mpr (.inr (by linarith))
  · exact fun _ _ _ => Even.zero

end Nearest

/-- The rank for the number `q`: that of infinity from half way between the largest value and the
next one on, and the nearest rank below. -/
structure IsRankOf (q : ℚ) (r : ℕ) : Prop where
  overflow : r = infinityRank ↔ (2 : ℚ) ^ 1024 - 2 ^ 970 ≤ q
  nearest : q < (2 : ℚ) ^ 1024 - 2 ^ 970 → IsNearestRank (q * unitsOfOne) r
  le : r ≤ infinityRank

section RankOf
variable {q : ℚ} {r num den : ℕ}

lemma unitsOfOne_eq : (unitsOfOne : ℚ) = 2 ^ 1074 := cast_unitsOfOne.trans (zpow_natCast 2 1074)

lemma units_last_add_next :
    (unitsOfRank (infinityRank - 1) + unitsOfRank (infinityRank - 1 + 1) : ℚ) =
      2 * ((2 ^ 1024 - 2 ^ 970) * unitsOfOne) := by
  have hlast : infinityRank - 1 = 2045 * 2 ^ 52 + (2 ^ 53 - 1) := rfl
  have hnext : infinityRank - 1 + 1 = 2045 * 2 ^ 52 + 2 ^ 53 := rfl
  have hhigh : (2 : ℚ) ^ 1024 = 2 ^ 54 * 2 ^ 970 := by rw [← pow_add]
  have hstep : (2 : ℚ) ^ 2045 = 2 * (2 ^ 970 * 2 ^ 1074) := by rw [← pow_add, ← pow_succ']
  rw [hnext, hlast, unitsOfRank_step (by decide) (by decide),
    unitsOfRank_step (by decide) (by decide), Nat.cast_mul, Nat.cast_mul, Nat.cast_pow 2 2045,
    Nat.cast_ofNat, hstep, hhigh, unitsOfOne_eq]
  generalize (2 : ℚ) ^ 970 = a
  generalize (2 : ℚ) ^ 1074 = b
  norm_num
  ring

lemma IsNearestRank.isRankOf (h : IsNearestRank (q * unitsOfOne) r) :
    IsRankOf q (min infinityRank r) := by
  have hpos : (0 : ℚ) < unitsOfOne := Nat.cast_pos.mpr unitsOfOne_pos
  have hodd : Odd (infinityRank - 1) := by decide
  -- All ranks past the largest value stand for infinity, and the midpoint before them decides.
  have hpast : infinityRank ≤ r ↔ (2 : ℚ) ^ 1024 - 2 ^ 970 ≤ q := by
    have hlt : infinityRank ≤ r ↔ infinityRank - 1 < r := by
      have hinfinity : 0 < infinityRank := by decide
      omega
    rw [hlt, h.lt_iff, units_last_add_next, and_iff_left hodd, ← le_iff_lt_or_eq,
      mul_le_mul_iff_right₀ two_pos, mul_le_mul_iff_left₀ hpos]
  refine ⟨min_eq_left_iff.trans hpast, fun hq => ?_, min_le_left _ _⟩
  rwa [min_eq_right (le_of_not_ge (mt hpast.mp hq.not_ge))]

lemma nearestRank_eq (num den : ℕ) :
    nearestRank num den = min infinityRank
      (((num * unitsOfOne / den).log2 - 52) * 2 ^ 52 +
        roundHalfEven (num * unitsOfOne) (den * 2 ^ ((num * unitsOfOne / den).log2 - 52))) := rfl

theorem isRankOf_nearestRank (hden : 0 < den) : IsRankOf (num / den) (nearestRank num den) := by
  rw [nearestRank_eq]
  apply IsNearestRank.isRankOf
  have hunits : (num / den * unitsOfOne : ℚ) = (num * unitsOfOne : ℕ) / den := by
    rw [Nat.cast_mul, div_mul_eq_mul_div]
  rw [hunits]
  generalize num * unitsOfOne = n
  have hpos : (0 : ℚ) < den := Nat.cast_pos.mpr hden
  apply isNearestRank_of_isNearest
  · have hsteps : (n / den / 2 ^ ((n / den).log2 - 52) : ℚ) =
        n / (den * 2 ^ ((n / den).log2 - 52) : ℕ) := by
      rw [div_div, Nat.cast_mul, Nat.cast_pow, Nat.cast_ofNat]
    rw [hsteps]
    exact isNearest_roundHalfEven (Nat.mul_pos hden (by positivity))
  · have hlt : n / den < 2 ^ (53 + ((n / den).log2 - 52)) :=
      Nat.lt_log2_self.trans_le (Nat.pow_le_pow_right (by decide) (by omega))
    rw [div_lt_iff₀ hpos]
    exact_mod_cast (Nat.div_lt_iff_lt_mul hden).mp hlt
  · rcases Nat.eq_zero_or_pos ((n / den).log2 - 52) with hzero | hfull
    · exact .inl hzero
    · have hne : n / den ≠ 0 := by
        intro hnone
        rw [hnone] at hfull
        simp at hfull
      have hle : 2 ^ (52 + ((n / den).log2 - 52)) ≤ n / den := by
        have hlog : 52 + ((n / den).log2 - 52) = (n / den).log2 := by omega
        rw [hlog]
        exact Nat.log2_self_le hne
      right
      rw [le_div_iff₀ hpos]
      exact_mod_cast (Nat.le_div_iff_mul_le hden).mp hle

lemma pow_le_overflow : (2 : ℚ) ^ 970 ≤ 2 ^ 1024 - 2 ^ 970 := by
  have hhigh : (2 : ℚ) ^ 1024 = 2 ^ 54 * 2 ^ 970 := by rw [← pow_add]
  have hpos : (0 : ℚ) < 2 ^ 970 := by positivity
  rw [hhigh]
  generalize (2 : ℚ) ^ 970 = a at hpos ⊢
  linarith

lemma one_lt_overflow : (1 : ℚ) < 2 ^ 1024 - 2 ^ 970 :=
  (one_lt_pow₀ one_lt_two (by decide)).trans_le pow_le_overflow

theorem IsRankOf.eq_zero_iff (h : IsRankOf q r) : r = 0 ↔ q ≤ 2 ^ (-1075 : ℤ) := by
  rcases lt_or_ge q (2 ^ 1024 - 2 ^ 970) with hq | hq
  · have hunits : (unitsOfRank 0 + unitsOfRank (0 + 1) : ℚ) = 1 := by
      rw [unitsOfRank_eq, unitsOfRank_eq, if_pos (by decide), if_pos (by decide)]
      norm_num
    have hodd : ¬ Odd 0 := by decide
    have hpos : (0 : ℚ) < unitsOfOne := Nat.cast_pos.mpr unitsOfOne_pos
    have hhalf : 2 * ((2 : ℚ) ^ (-1075 : ℤ) * unitsOfOne) = 1 := by
      rw [cast_unitsOfOne, ← zpow_add₀ two_ne_zero]
      norm_num
    have hlt := (h.nearest hq).lt_iff (k := 0)
    simp only [hunits, hodd, and_false, or_false] at hlt
    rw [← Nat.le_zero, ← Nat.not_lt, hlt, not_lt, ← hhalf, mul_le_mul_iff_right₀ two_pos,
      mul_le_mul_iff_left₀ hpos]
  · have hsmall : (2 : ℚ) ^ (-1075 : ℤ) ≤ 1 :=
      zpow_le_one_of_nonpos₀ one_le_two (by decide)
    have hrank : r ≠ 0 := by
      rw [h.overflow.mpr hq]
      decide
    exact iff_of_false hrank (hsmall.trans_lt (one_lt_overflow.trans_le hq)).not_ge

end RankOf

end LineCalculator.Binary64
