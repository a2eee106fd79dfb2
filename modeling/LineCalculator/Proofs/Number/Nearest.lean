import LineCalculator.Number.Rounding
import Mathlib

/-!
# Nearest whole numbers

What the exact rounding computes: `roundHalfEven` gives the one whole number nearest to a quotient,
and the even one of two; `leadingExponent` is the logarithm to the base ten. With both, a number is
rounded to a count of significant digits, and `IsRounded.isNearest` shows that rounding it once
more, at the place of its last digit, gives the same digits. That place may have moved: a number
just below a power of ten is rounded up to it, and its last digit is then one place higher. Rounding
keeps the order of numbers, and a number close to a rounded one is rounded to it, on either side of
a power of ten.
-/
namespace LineCalculator

/-- The whole number `n` is nearest to `x`, and it is even if another one is as near. -/
structure IsNearest (x : ℚ) (n : ℕ) : Prop where
  near : |x - n| ≤ 1 / 2
  even : |x - n| = 1 / 2 → Even n

namespace IsNearest

variable {x y : ℚ} {m n : ℕ}

lemma not_succ (h : IsNearest x n) : ¬ IsNearest x (n + 1) := by
  -- Half way between two neighbours both would have to be even.
  intro h'
  obtain ⟨hlow, hhigh⟩ := abs_le.mp h.near
  obtain ⟨hlow', hhigh'⟩ := abs_le.mp h'.near
  push_cast at hlow' hhigh'
  have hmiddle : x - n = 1 / 2 := by linarith
  have heven : Even n := h.even (by rw [hmiddle]; norm_num)
  have heven' : Even (n + 1) := by
    refine h'.even ?_
    have hbelow : x - ((n + 1 : ℕ) : ℚ) = -(1 / 2) := by push_cast; linarith
    rw [hbelow]
    norm_num
  exact Nat.even_add_one.mp heven' heven

lemma le_of_isNearest (hm : IsNearest x m) (hn : IsNearest x n) : m ≤ n := by
  by_contra hlt
  obtain ⟨hlow, -⟩ := abs_le.mp hm.near
  obtain ⟨-, hhigh⟩ := abs_le.mp hn.near
  have hle : (m : ℚ) ≤ (n + 1 : ℕ) := by push_cast; linarith
  obtain rfl : m = n + 1 := by
    have := Nat.cast_le.mp hle
    omega
  exact not_succ hn hm

theorem unique (hm : IsNearest x m) (hn : IsNearest x n) : m = n :=
  le_antisymm (hm.le_of_isNearest hn) (hn.le_of_isNearest hm)

theorem mono (hxy : x ≤ y) (hm : IsNearest x m) (hn : IsNearest y n) : m ≤ n := by
  rcases hxy.eq_or_lt with rfl | hlt
  · exact hm.le_of_isNearest hn
  · obtain ⟨-, hhigh⟩ := abs_le.mp hn.near
    obtain ⟨hlow, -⟩ := abs_le.mp hm.near
    have hless : (m : ℚ) < (n + 1 : ℕ) := by push_cast; linarith
    exact Nat.lt_succ_iff.mp (Nat.cast_lt.mp hless)

lemma of_lt (h : |x - n| < 1 / 2) : IsNearest x n := ⟨h.le, fun heq => absurd heq h.ne⟩

lemma one_le_add_abs_sub (h : m ≠ n) : 1 ≤ |x - n| + |x - m| := by
  have hapart : (1 : ℚ) ≤ |(m : ℚ) - n| := by
    exact_mod_cast Int.one_le_abs (sub_ne_zero.mpr (Nat.cast_injective.ne h))
  calc (1 : ℚ) ≤ |(m : ℚ) - n| := hapart
    _ = |(x - n) - (x - m)| := by congr 1; ring
    _ ≤ |x - n| + |x - m| := abs_sub _ _

lemma abs_sub_le (h : IsNearest x n) (m : ℕ) : |x - n| ≤ |x - m| := by
  by_cases hm : m = n
  · rw [hm]
  · have hapart := one_le_add_abs_sub (x := x) hm
    have hnear := h.near
    linarith

lemma even_of_abs_sub_eq (h : IsNearest x n) (hm : m ≠ n) (heq : |x - n| = |x - m|) : Even n := by
  apply h.even
  have hapart := one_le_add_abs_sub (x := x) hm
  have hnear := h.near
  linarith

lemma le_of_le (h : IsNearest x n) (hx : (m : ℚ) ≤ x) : m ≤ n := by
  obtain ⟨-, hhigh⟩ := abs_le.mp h.near
  have hlt : (m : ℚ) < (n + 1 : ℕ) := by push_cast; linarith
  exact Nat.lt_succ_iff.mp (Nat.cast_lt.mp hlt)

lemma le_of_lt (h : IsNearest x n) (hx : x < m) : n ≤ m := by
  obtain ⟨hlow, -⟩ := abs_le.mp h.near
  have hlt : (n : ℚ) < (m + 1 : ℕ) := by push_cast; linarith
  exact Nat.lt_succ_iff.mp (Nat.cast_lt.mp hlt)

end IsNearest

section Quotients

variable {num den : ℕ}

lemma cast_div_eq (hden : 0 < den) :
    (num / den : ℚ) = (num / den : ℕ) + (num % den : ℕ) / (den : ℚ) := by
  have hpos : (den : ℚ) ≠ 0 := by positivity
  have hsplit : (num : ℚ) = den * (num / den : ℕ) + (num % den : ℕ) := by
    exact_mod_cast (Nat.div_add_mod num den).symm
  rw [add_div' _ _ _ hpos, div_left_inj' hpos, mul_comm]
  exact hsplit

theorem isNearest_roundHalfEven (hden : 0 < den) :
    IsNearest (num / den) (roundHalfEven num den) := by
  have hpos : (0 : ℚ) < den := by positivity
  have hsplit := @cast_div_eq num den hden
  have hrest : (0 : ℚ) ≤ (num % den : ℕ) / (den : ℚ) := by positivity
  have hbelow : (num % den : ℕ) / (den : ℚ) < 1 := by
    rw [div_lt_one hpos]
    exact_mod_cast Nat.mod_lt num hden
  unfold roundHalfEven
  dsimp only
  split_ifs with hless hmore
  · have hlow : (num % den : ℕ) / (den : ℚ) < 1 / 2 := by
      rw [div_lt_div_iff₀ hpos two_pos]
      exact_mod_cast (by omega : num % den * 2 < 1 * den)
    refine .of_lt (abs_lt.mpr ?_)
    constructor <;> linarith
  · have hhigh : 1 / 2 < (num % den : ℕ) / (den : ℚ) := by
      rw [div_lt_div_iff₀ two_pos hpos]
      exact_mod_cast (by omega : 1 * den < num % den * 2)
    refine .of_lt (abs_lt.mpr ?_)
    push_cast
    constructor <;> linarith
  · have hmiddle : (num % den : ℕ) / (den : ℚ) = 1 / 2 := by
      rw [div_eq_div_iff hpos.ne' two_ne_zero]
      exact_mod_cast (by omega : num % den * 2 = 1 * den)
    rw [hsplit, hmiddle]
    rcases Nat.even_or_odd (num / den) with heven | hodd
    · rw [Nat.even_iff.mp heven, Nat.add_zero]
      refine ⟨?_, fun _ => heven⟩
      norm_num
    · rw [Nat.odd_iff.mp hodd]
      refine ⟨?_, fun _ => Nat.even_add_one.mpr (Nat.not_even_iff_odd.mpr hodd)⟩
      push_cast
      norm_num

lemma zpow_eq_div (k : ℤ) :
    (10 : ℚ) ^ k = (Nat.pow 10 k.toNat : ℕ) / (Nat.pow 10 (-k).toNat : ℕ) := by
  simp only [Nat.pow_eq, Nat.cast_pow, Nat.cast_ofNat]
  rw [← zpow_natCast, ← zpow_natCast, ← zpow_sub₀ (by norm_num : (10 : ℚ) ≠ 0)]
  congr 1
  omega

theorem isNearest_roundScaled (hden : 0 < den) (k : ℤ) :
    IsNearest (num / den * 10 ^ k) (roundScaled num den k) := by
  have hpow : 0 < Nat.pow 10 (-k).toNat := Nat.pow_pos (by decide)
  have hscaled : (num / den * 10 ^ k : ℚ) =
      (num * Nat.pow 10 k.toNat : ℕ) / (den * Nat.pow 10 (-k).toNat : ℕ) := by
    rw [zpow_eq_div, Nat.cast_mul, Nat.cast_mul, div_mul_div_comm]
  rw [hscaled]
  exact isNearest_roundHalfEven (Nat.mul_pos hden hpow)

lemma pow_digitCount_le {n : ℕ} (hn : 0 < n) : 10 ^ (digitCount n - 1) ≤ n := by
  rcases Nat.eq_or_lt_of_le (digitCount_pos n) with hone | hmore
  · rw [← hone]
    exact hn
  · have hnot : ¬ digitCount n ≤ digitCount n - 1 := by omega
    rw [digitCount_le_iff (by omega)] at hnot
    exact Nat.le_of_not_lt hnot

lemma lt_pow_digitCount (n : ℕ) : n < 10 ^ digitCount n :=
  (digitCount_le_iff (digitCount_pos n)).mp le_rfl

lemma digitCount_eq {k n : ℕ} (hlow : 10 ^ k ≤ n) (hhigh : n < 10 ^ (k + 1)) :
    digitCount n = k + 1 := by
  have hle : digitCount n ≤ k + 1 := (digitCount_le_iff (by omega)).mpr hhigh
  have hgt : ¬ 10 ^ digitCount n ≤ 10 ^ k := by
    have := lt_pow_digitCount n
    omega
  rw [Nat.pow_le_pow_iff_right (by decide)] at hgt
  omega

lemma zpow_leadingExponent_le (hnum : 0 < num) (hden : 0 < den) :
    (10 : ℚ) ^ leadingExponent num den ≤ num / den := by
  unfold leadingExponent
  split_ifs with hle
  · have hpow := pow_digitCount_le (Nat.div_pos hle hden)
    have hcount := digitCount_pos (num / den)
    have hcast : ((digitCount (num / den) : ℤ) - 1) = ((digitCount (num / den) - 1 : ℕ) : ℤ) := by
      omega
    rw [hcast, zpow_natCast, le_div_iff₀ (by positivity)]
    exact_mod_cast (Nat.le_div_iff_mul_le hden).mp hpow
  · have hpow := lt_pow_digitCount ((den - 1) / num)
    have hbound : den - 1 < 10 ^ digitCount ((den - 1) / num) * num :=
      (Nat.div_lt_iff_lt_mul hnum).mp hpow
    rw [zpow_neg, zpow_natCast, inv_le_comm₀ (by positivity) (by positivity), inv_div,
      div_le_iff₀ (by positivity)]
    exact_mod_cast (by omega : den ≤ 10 ^ digitCount ((den - 1) / num) * num)

lemma lt_zpow_leadingExponent (hnum : 0 < num) (hden : 0 < den) :
    (num / den : ℚ) < 10 ^ (leadingExponent num den + 1) := by
  unfold leadingExponent
  split_ifs with hle
  · have hpow := lt_pow_digitCount (num / den)
    rw [sub_add_cancel, zpow_natCast, div_lt_iff₀ (by positivity)]
    exact_mod_cast (Nat.div_lt_iff_lt_mul hden).mp hpow
  · have hcount := digitCount_pos ((den - 1) / num)
    have hcast : -(digitCount ((den - 1) / num) : ℤ) + 1 =
        -((digitCount ((den - 1) / num) - 1 : ℕ) : ℤ) := by omega
    rw [hcast, zpow_neg, zpow_natCast, lt_inv_comm₀ (by positivity) (by positivity), inv_div,
      lt_div_iff₀ (by positivity)]
    have hquotient : 0 < (den - 1) / num := Nat.div_pos (by omega) hnum
    have hpow := (Nat.le_div_iff_mul_le hnum).mp (pow_digitCount_le hquotient)
    exact_mod_cast (by omega : 10 ^ (digitCount ((den - 1) / num) - 1) * num < den)

theorem leadingExponent_eq_log (hnum : 0 < num) (hden : 0 < den) :
    leadingExponent num den = Int.log 10 (num / den : ℚ) := by
  have hpos : (0 : ℚ) < num / den := by positivity
  apply le_antisymm
  · rw [← Int.zpow_le_iff_le_log (by decide) hpos]
    exact zpow_leadingExponent_le hnum hden
  · rw [← Int.lt_add_one_iff, ← Int.lt_zpow_iff_log_lt (by decide) hpos]
    exact lt_zpow_leadingExponent hnum hden

end Quotients

section Significant

/-- The number `q` to `places` digits after its first one is `m * 10 ^ (x - places)`: its whole
multiples of the place of the last digit are rounded, a tie going to the even one. -/
structure IsRounded (places : ℕ) (q : ℚ) (m : ℕ) (x : ℤ) : Prop where
  lower : 10 ^ places ≤ m
  upper : m < 10 ^ (places + 1)
  rounded : ∃ n : ℕ, IsNearest (q * 10 ^ (places - Int.log 10 q)) n ∧
    (m * 10 ^ (x - places) : ℚ) = n * 10 ^ (Int.log 10 q - places)

variable {places : ℕ} {q q' : ℚ} {m m' n : ℕ} {x x' : ℤ}

lemma log_eq {k : ℤ} (hlow : (10 : ℚ) ^ k ≤ q) (hhigh : q < 10 ^ (k + 1)) : Int.log 10 q = k := by
  have hpos : 0 < q := lt_of_lt_of_le (by positivity) hlow
  apply le_antisymm
  · exact Int.lt_add_one_iff.mp ((Int.lt_zpow_iff_log_lt (by decide) hpos).mp hhigh)
  · exact (Int.zpow_le_iff_le_log (by decide) hpos).mp hlow

lemma zpow_le_scaled (hq : 0 < q) : ((10 ^ places : ℕ) : ℚ) ≤ q * 10 ^ (places - Int.log 10 q) := by
  have hlog := Int.zpow_log_le_self (b := 10) (by decide) hq
  have hsplit : ((10 ^ places : ℕ) : ℚ) = 10 ^ Int.log 10 q * 10 ^ (places - Int.log 10 q) := by
    rw [← zpow_add₀ (by norm_num), add_sub_cancel, zpow_natCast]
    push_cast
    rfl
  rw [hsplit]
  exact mul_le_mul_of_nonneg_right hlog (by positivity)

lemma scaled_lt_zpow (places : ℕ) (q : ℚ) :
    q * 10 ^ (places - Int.log 10 q) < ((10 ^ (places + 1) : ℕ) : ℚ) := by
  have hlog := Int.lt_zpow_succ_log_self (b := 10) (by decide) q
  have hsplit : ((10 ^ (places + 1) : ℕ) : ℚ) =
      10 ^ (Int.log 10 q + 1) * 10 ^ (places - Int.log 10 q) := by
    rw [← zpow_add₀ (by norm_num), add_right_comm, add_sub_cancel, ← Nat.cast_succ, zpow_natCast]
    push_cast
    rfl
  rw [hsplit]
  exact mul_lt_mul_of_pos_right hlog (by positivity)

lemma IsNearest.decade (hq : 0 < q) (h : IsNearest (q * 10 ^ (places - Int.log 10 q)) n) :
    10 ^ places ≤ n ∧ n ≤ 10 ^ (places + 1) :=
  ⟨h.le_of_le (zpow_le_scaled hq), h.le_of_lt (scaled_lt_zpow places q)⟩

lemma place_le_of_eq {k : ℕ} {a b : ℤ} (hm : m < 10 ^ (k + 1)) (hn : 10 ^ k ≤ n)
    (h : (m * 10 ^ a : ℚ) = n * 10 ^ b) : b ≤ a := by
  by_contra hlt
  have hstep : (10 : ℚ) ^ (a + 1) ≤ 10 ^ b := zpow_le_zpow_right₀ (by norm_num) (by omega)
  have hm' : (m : ℚ) < 10 ^ (k + 1) := by exact_mod_cast hm
  have hn' : (10 : ℚ) ^ k ≤ n := by exact_mod_cast hn
  have hless : (m * 10 ^ a : ℚ) < n * 10 ^ b := calc
    (m * 10 ^ a : ℚ) < 10 ^ (k + 1) * 10 ^ a := mul_lt_mul_of_pos_right hm' (by positivity)
    _ = 10 ^ k * 10 ^ (a + 1) := by rw [zpow_add_one₀ (by norm_num), pow_succ]; ring
    _ ≤ n * 10 ^ b := mul_le_mul hn' hstep (by positivity) (by positivity)
  exact hless.ne h

lemma coefficient_unique {k : ℕ} {a b : ℤ} (hm : 10 ^ k ≤ m ∧ m < 10 ^ (k + 1))
    (hn : 10 ^ k ≤ n ∧ n < 10 ^ (k + 1)) (h : (m * 10 ^ a : ℚ) = n * 10 ^ b) : m = n ∧ a = b := by
  obtain rfl : a = b := le_antisymm (place_le_of_eq hn.2 hm.1 h.symm) (place_le_of_eq hm.2 hn.1 h)
  have hcast : (m : ℚ) = n := mul_right_cancel₀ (by positivity) h
  exact ⟨Nat.cast_injective hcast, rfl⟩

lemma carry_eq (places : ℕ) (a : ℤ) :
    ((10 ^ (places + 1) : ℕ) * 10 ^ (a - places) : ℚ) =
      (10 ^ places : ℕ) * 10 ^ (a + 1 - places) := by
  rw [add_sub_right_comm, zpow_add_one₀ (by norm_num)]
  push_cast
  ring

namespace IsRounded

/-- Either the digits stay in their places, or rounding carries into the next power of ten. -/
theorem cases (hq : 0 < q) (h : IsRounded places q m x) :
    (x = Int.log 10 q ∧ IsNearest (q * 10 ^ (places - Int.log 10 q)) m) ∨
      (x = Int.log 10 q + 1 ∧ m = 10 ^ places ∧
        IsNearest (q * 10 ^ (places - Int.log 10 q)) (10 ^ (places + 1))) := by
  obtain ⟨n, hn, heq⟩ := h.rounded
  obtain ⟨hlow, hhigh⟩ := hn.decade hq
  rcases hhigh.lt_or_eq with hlt | rfl
  · obtain ⟨rfl, hx⟩ := coefficient_unique ⟨h.lower, h.upper⟩ ⟨hlow, hlt⟩ heq
    exact .inl ⟨by omega, hn⟩
  · rw [carry_eq] at heq
    obtain ⟨hm, hx⟩ := coefficient_unique ⟨h.lower, h.upper⟩
      ⟨le_rfl, Nat.pow_lt_pow_succ (by decide)⟩ heq
    exact .inr ⟨by omega, hm, hn⟩

theorem unique (hq : 0 < q) (h : IsRounded places q m x)
    (h' : IsRounded places q m' x') : m = m' ∧ x = x' := by
  rcases h.cases hq with ⟨hx, hm⟩ | ⟨hx, hm, hn⟩ <;>
    rcases h'.cases hq with ⟨hx', hm'⟩ | ⟨hx', hm', hn'⟩
  · exact ⟨hm.unique hm', hx.trans hx'.symm⟩
  · exact absurd (hm.unique hn') h.upper.ne
  · exact absurd (hm'.unique hn) h'.upper.ne
  · exact ⟨hm.trans hm'.symm, hx.trans hx'.symm⟩

/-- Rounding at the place of the last digit gives the same digits, also after a carry: what was
within half a unit of the lower place is well within half a unit of the higher one. -/
theorem isNearest (hq : 0 < q) (h : IsRounded places q m x) :
    IsNearest (q * 10 ^ (places - x)) m := by
  rcases h.cases hq with ⟨rfl, hm⟩ | ⟨rfl, rfl, hn⟩
  · exact hm
  · have hbelow := scaled_lt_zpow places q
    obtain ⟨hnear, -⟩ := abs_le.mp hn.near
    have htenth : q * 10 ^ (places - (Int.log 10 q + 1)) =
        q * 10 ^ (places - Int.log 10 q) / 10 := by
      rw [← sub_sub, zpow_sub_one₀ (by norm_num)]
      ring
    refine .of_lt (abs_lt.mpr ?_)
    rw [htenth]
    push_cast at hbelow hnear ⊢
    rw [pow_succ] at hbelow hnear
    constructor <;> linarith

theorem of_isNearest (hq : 0 < q) (h : IsNearest (q * 10 ^ (places - Int.log 10 q)) n) :
    if n < 10 ^ (places + 1) then IsRounded places q n (Int.log 10 q)
    else IsRounded places q (n / 10) (Int.log 10 q + 1) := by
  obtain ⟨hlow, hhigh⟩ := h.decade hq
  split_ifs with hlt
  · exact ⟨hlow, hlt, n, h, rfl⟩
  · obtain rfl : n = 10 ^ (places + 1) := by omega
    have htenth : 10 ^ (places + 1) / 10 = 10 ^ places := by
      rw [pow_succ, Nat.mul_div_cancel _ (by decide)]
    rw [htenth]
    exact ⟨le_rfl, Nat.pow_lt_pow_succ (by decide), _, h, (carry_eq places _).symm⟩

/-- The larger number is rounded to the larger one. Between them there may be a power of ten, which
neither is rounded past. -/
theorem mono (hq : 0 < q) (hle : q ≤ q') (h : IsRounded places q m x)
    (h' : IsRounded places q' m' x') :
    (m * 10 ^ (x - places) : ℚ) ≤ m' * 10 ^ (x' - places) := by
  obtain ⟨n, hn, hvalue⟩ := h.rounded
  obtain ⟨n', hn', hvalue'⟩ := h'.rounded
  rw [hvalue, hvalue']
  rcases (Int.log_mono_right (b := 10) hq hle).eq_or_lt with hlog | hlog
  · rw [← hlog] at hn' ⊢
    have hnn : n ≤ n' := hn.mono (mul_le_mul_of_nonneg_right hle (by positivity)) hn'
    exact mul_le_mul_of_nonneg_right (Nat.cast_le.mpr hnn) (by positivity)
  · have hhigh : (n : ℚ) ≤ (10 ^ (places + 1) : ℕ) := Nat.cast_le.mpr (hn.decade hq).2
    have hlow : ((10 ^ places : ℕ) : ℚ) ≤ n' :=
      Nat.cast_le.mpr (hn'.decade (hq.trans_le hle)).1
    calc (n * 10 ^ (Int.log 10 q - places) : ℚ)
        ≤ (10 ^ (places + 1) : ℕ) * 10 ^ (Int.log 10 q - places) :=
          mul_le_mul_of_nonneg_right hhigh (by positivity)
      _ = (10 ^ places : ℕ) * 10 ^ (Int.log 10 q + 1 - places) := carry_eq places _
      _ ≤ (10 ^ places : ℕ) * 10 ^ (Int.log 10 q' - places) := by gcongr <;> norm_num; omega
      _ ≤ n' * 10 ^ (Int.log 10 q' - places) := mul_le_mul_of_nonneg_right hlow (by positivity)

/-- A number close to one of `places + 1` digits is rounded to it. If it is the smaller one and the
other a power of ten, its leading digit is one place lower and rounding carries. -/
theorem of_near (hlow : 10 ^ places ≤ m) (hhigh : m < 10 ^ (places + 1))
    (h : |q * 10 ^ (places - x) - m| < 1 / 20) : IsRounded places q m x := by
  have hq : q = q * 10 ^ (places - x) * 10 ^ (x - places) := by
    rw [mul_assoc, ← zpow_add₀ (by norm_num), sub_add_sub_cancel, sub_self, zpow_zero, mul_one]
  have hpow : (10 : ℚ) ^ x = 10 ^ places * 10 ^ (x - places) := by
    rw [← zpow_natCast, ← zpow_add₀ (by norm_num), add_sub_cancel]
  have hstep : (0 : ℚ) < 10 ^ (x - places) := by positivity
  obtain ⟨hbelow, habove⟩ := abs_lt.mp h
  have hm : (10 : ℚ) ^ places ≤ m := by exact_mod_cast hlow
  have hm' : (m : ℚ) + 1 ≤ 10 ^ (places + 1) := by exact_mod_cast hhigh
  have hone : (1 : ℚ) ≤ 10 ^ places := one_le_pow₀ (by norm_num)
  rw [pow_succ] at hm'
  rcases le_or_gt ((10 : ℚ) ^ places) (q * 10 ^ (places - x)) with hle | hlt
  · have hlog : Int.log 10 q = x := by
      apply log_eq
      · rw [hq, hpow]
        exact mul_le_mul_of_nonneg_right hle hstep.le
      · have hnext : (10 : ℚ) ^ (x + 1) = 10 ^ places * 10 * 10 ^ (x - places) := by
          rw [zpow_add_one₀ (by norm_num), hpow]
          ring
        rw [hq, hnext]
        exact mul_lt_mul_of_pos_right (by linarith) hstep
    refine ⟨hlow, hhigh, m, ?_, by rw [hlog]⟩
    rw [hlog]
    exact .of_lt (h.trans (by norm_num))
  · obtain rfl : m = 10 ^ places := by
      have hcast : (m : ℚ) < (10 ^ places + 1 : ℕ) := by push_cast; linarith
      have := Nat.cast_lt.mp hcast
      omega
    have hlog : Int.log 10 q = x - 1 := by
      apply log_eq
      · have hprevious : (10 : ℚ) ^ (x - 1) = 10 ^ places / 10 * 10 ^ (x - places) := by
          rw [zpow_sub_one₀ (by norm_num), hpow]
          ring
        rw [hq, hprevious]
        refine mul_le_mul_of_nonneg_right ?_ hstep.le
        push_cast at hbelow
        linarith
      · rw [hq, sub_add_cancel, hpow]
        exact mul_lt_mul_of_pos_right hlt hstep
    have htenfold : q * 10 ^ (places - (x - 1)) = q * 10 ^ (places - x) * 10 := by
      rw [← sub_add, zpow_add_one₀ (by norm_num), mul_assoc]
    refine ⟨le_rfl, hhigh, 10 ^ (places + 1), ?_, ?_⟩
    · rw [hlog, htenfold]
      refine .of_lt (abs_lt.mpr ?_)
      push_cast at hbelow habove ⊢
      rw [pow_succ]
      constructor <;> linarith
    · rw [hlog, carry_eq, sub_add_cancel]

end IsRounded

end Significant

end LineCalculator
