import LineCalculator.Proofs.Number.Value
import Mathlib

/-!
# The order of values

Finite numbers are compared by their signs, then by their exponents and last by their mantissas.
That is the order of their values, because a mantissa has all its bits unless its exponent is the
smallest: the larger exponent then makes the larger number, whatever the mantissas are.
-/
namespace LineCalculator.Binary64
open Float.Model
open Float.Model.UnpackedFloat

/-- The exact value of an unpacked number. -/
def unpackedValue : UnpackedFloat → ℚ
  | .finite s mantissa exponent _ => signFactor s * (mantissa * 2 ^ exponent)
  | _ => 0

lemma value_eq_unpackedValue (v : Float) : value v = unpackedValue v.toModel.unpack := rfl

/-- Mantissas have at most 53 bits, and all of them above the smallest exponent. -/
structure IsNormalized (m : ℕ) (e : ℤ) : Prop where
  lt : m < 2 ^ 53
  low : -1074 ≤ e
  full : -1074 < e → 2 ^ 52 ≤ m

/-- The forms of finite numbers. -/
inductive IsCanonical : UnpackedFloat → Prop
  | zero (s : Sign) : IsCanonical (.zero s)
  | finite {s : Sign} {m : ℕ} {e : ℤ} {hm : 0 < m} (h : IsNormalized m e) :
      IsCanonical (.finite s m e hm)

theorem isCanonical_unpack {v : Float} (h : isFinite v = true) :
    IsCanonical v.toModel.unpack := by
  have hmantissa : (@unpackMantissa Format.binary64 v.toBits.toBitVec).toNat < 2 ^ 52 :=
    (@unpackMantissa Format.binary64 v.toBits.toBitVec).isLt
  have hunpacked := isUnpacked_unpack v.toBits.toBitVec (of_decide_eq_true h).le
  change IsCanonical (UnpackedFloat.unpack Format.binary64 v.toBits.toBitVec)
  generalize UnpackedFloat.unpack Format.binary64 v.toBits.toBitVec = u at hunpacked ⊢
  cases hunpacked with
  | infinity hones _ => exact absurd hones (unpackExponent_ne h)
  | zero => exact .zero _
  | subnormal => exact .finite ⟨by omega, le_rfl, by omega⟩
  | normal => exact .finite ⟨by omega, by omega, by omega⟩

section Magnitudes
variable {m m' : ℕ} {e e' : ℤ}

lemma IsNormalized.lt_of_lt (h : IsNormalized m e) (h' : IsNormalized m' e') (he : e < e') :
    (m * 2 ^ e : ℚ) < m' * 2 ^ e' := by
  have hm : (m : ℚ) < 2 ^ 53 := by exact_mod_cast h.lt
  have hm' : (2 : ℚ) ^ 52 ≤ m' := by exact_mod_cast h'.full (h.low.trans_lt he)
  have hstep : (2 : ℚ) ^ (e + 1) ≤ 2 ^ e' := zpow_le_zpow_right₀ one_le_two (by omega)
  calc (m * 2 ^ e : ℚ) < 2 ^ 53 * 2 ^ e := mul_lt_mul_of_pos_right hm (by positivity)
    _ = 2 ^ 52 * 2 ^ (e + 1) := by rw [zpow_add_one₀ two_ne_zero]; ring
    _ ≤ m' * 2 ^ e' := mul_le_mul hm' hstep (by positivity) (by positivity)

/-- Exponents first and mantissas after them, which is the order of what they stand for. -/
theorem IsNormalized.compare_eq (h : IsNormalized m e) (h' : IsNormalized m' e') :
    (compare e e').then (compare m m') = compare (m * 2 ^ e : ℚ) (m' * 2 ^ e') := by
  rcases lt_trichotomy e e' with he | rfl | he
  · rw [compare_lt_iff_lt.mpr he, compare_lt_iff_lt.mpr (h.lt_of_lt h' he)]
    rfl
  · have hpos : (0 : ℚ) < 2 ^ e := by positivity
    have hmono : StrictMono fun n : ℕ => (n * 2 ^ e : ℚ) := fun a b hab =>
      mul_lt_mul_of_pos_right (Nat.cast_lt.mpr hab) hpos
    rw [compare_eq_iff_eq.mpr rfl, ← cmp_eq_compare, ← cmp_eq_compare]
    exact (hmono.cmp_map_eq m m').symm
  · rw [compare_gt_iff_gt.mpr he, compare_gt_iff_gt.mpr (h'.lt_of_lt h he)]
    rfl

end Magnitudes

lemma unpackedValue_pos {m : ℕ} {e : ℤ} (hm : 0 < m) :
    0 < unpackedValue (.finite .positive m e hm) := by
  change (0 : ℚ) < 1 * (m * 2 ^ e)
  positivity

lemma unpackedValue_neg {m : ℕ} {e : ℤ} (hm : 0 < m) :
    unpackedValue (.finite .negative m e hm) < 0 := by
  have hpos : (0 : ℚ) < m * 2 ^ e := by positivity
  change (-1 : ℚ) * (m * 2 ^ e) < 0
  linarith

theorem IsCanonical.compare_eq {a b : UnpackedFloat} (ha : IsCanonical a) (hb : IsCanonical b) :
    a.compare b = some (compare (unpackedValue a) (unpackedValue b)) := by
  have hless : ∀ {x y : ℚ}, x < y → some Ordering.lt = some (compare x y) := fun hxy =>
    congrArg some (compare_lt_iff_lt.mpr hxy).symm
  have hmore : ∀ {x y : ℚ}, y < x → some Ordering.gt = some (compare x y) := fun hxy =>
    congrArg some (compare_gt_iff_gt.mpr hxy).symm
  cases ha with
  | zero s =>
    cases hb with
    | zero s' => exact congrArg some (compare_eq_iff_eq.mpr rfl).symm
    | @finite s' m' e' hm' =>
      cases s' with
      | positive => exact hless (unpackedValue_pos hm')
      | negative => exact hmore (unpackedValue_neg hm')
  | @finite s m e hm h =>
    cases hb with
    | zero s' =>
      cases s with
      | positive => exact hmore (unpackedValue_pos hm)
      | negative => exact hless (unpackedValue_neg hm)
    | @finite s' m' e' hm' h' =>
      have hsizes := h.compare_eq h'
      cases s with
      | positive =>
        cases s' with
        | positive =>
          change some _ = some (compare (1 * (m * 2 ^ e) : ℚ) (1 * (m' * 2 ^ e')))
          rw [hsizes, one_mul, one_mul]
        | negative => exact hmore ((unpackedValue_neg hm').trans (unpackedValue_pos hm))
      | negative =>
        cases s' with
        | positive => exact hless ((unpackedValue_neg hm).trans (unpackedValue_pos hm'))
        | negative =>
          -- Of two negative numbers the one of larger size is smaller.
          have hanti : StrictAnti fun x : ℚ => -1 * x := fun x y hxy => by
            dsimp only
            linarith
          change some (Ordering.swap _) = some (compare (-1 * (m * 2 ^ e) : ℚ) (-1 * (m' * 2 ^ e')))
          rw [hsizes, ← cmp_eq_compare, ← cmp_eq_compare, cmp_swap]
          exact congrArg some (hanti.cmp_map_eq _ _).symm

theorem le_iff_value_le {v w : Float} (hv : isFinite v = true) (hw : isFinite w = true) :
    v ≤ w ↔ value v ≤ value w := by
  have hcompare := (isCanonical_unpack hv).compare_eq (isCanonical_unpack hw)
  have hle : v ≤ w ↔ (v.toModel.unpack.compare w.toModel.unpack).any (·.isLE) = true := by
    change decide (_ = true) = true ↔ _
    rw [decide_eq_true_iff]
    rfl
  rw [hle, hcompare, Option.any_some, ← Ordering.ne_gt_iff_isLE, value_eq_unpackedValue,
    value_eq_unpackedValue]
  exact compare_le_iff_le

end LineCalculator.Binary64
