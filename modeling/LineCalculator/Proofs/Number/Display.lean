import LineCalculator.Proofs.Number.Formats
import Mathlib

/-!
# What a result shows

A result is its value rounded to six significant digits. `formatted?` is the procedure behind the
text: it formats the value as a scientific text, reads the exponent from that, and if the digits
are to stand in place it formats the value a second time, as a fixed text. The second rounding has
another precision than the first and sees the exponent after a carry. It gives the same digits all
the same, and so the procedure never fails and gives the text of `display`.
-/
namespace LineCalculator
open Binary64

section Procedure

/-- The digits after the point of the second text, as an unsigned number of 64 bits. -/
def precision (x : ℤ) : ℕ := ((5 - x) % 2 ^ 64).toNat

/-- A sign and at least two digits. -/
def paddedExponent (x : ℤ) : List Char :=
  (if x < 0 then '-' else '+') :: (Nat.toDigits 10 x.natAbs).leftpad 2 '0'

/-- The text made of a scientific text, which decides, and of fixed texts by their precision. There
is none if the exponent cannot be read. -/
def assembled? (first : List Char) (second : ℕ → List Char) : Option (List Char) :=
  match splitOnce 'e' first with
  | none => some first
  | some (mantissa, exponent) =>
    (int32? exponent).map fun x =>
      if x < -4 ∨ 6 ≤ x then trimFraction mantissa ++ 'e' :: paddedExponent x
      else trimFraction (second (precision x))

lemma assembled?_of_split {first mantissa exponent : List Char} {x : ℤ}
    (hsplit : splitOnce 'e' first = some (mantissa, exponent)) (hexp : int32? exponent = some x)
    (second : ℕ → List Char) :
    assembled? first second =
      some (if x < -4 ∨ 6 ≤ x then trimFraction mantissa ++ 'e' :: paddedExponent x
        else trimFraction (second (precision x))) := by
  rw [assembled?, hsplit]
  dsimp only
  rw [hexp, Option.map_some]

def formatted? (v : Float) : Option (List Char) :=
  assembled? (scientific 5 v) fun places => fixed places v

def shown? (v : Float) : Option (List Char) :=
  if infinityRank < rank v then some "nan".toList
  else if rank v = infinityRank then some (signText (isNegative v) ++ "inf".toList)
  else if rank v = 0 then some (signText (isNegative v) ++ ['0'])
  else formatted? v

end Procedure

/-- The text of `m * 10 ^ (x - 5)`, for six digits `m`: in place if the first digit is at most five
places before the point and four behind it, and with an exponent otherwise. -/
def IsResultText (m : ℕ) (x : ℤ) (t : List Char) : Prop :=
  if -4 ≤ x ∧ x ≤ 5 then IsExpansion (m * 10 ^ (x - 5)) t
  else ∃ mantissa, IsExpansion (m / 10 ^ 5) mantissa ∧ t = mantissa ++ 'e' :: paddedExponent x

theorem IsResultText.unique {m : ℕ} {x : ℤ} {t t' : List Char} (h : IsResultText m x t)
    (h' : IsResultText m x t') : t = t' := by
  unfold IsResultText at h h'
  split_ifs at h h'
  · exact IsExpansion.unique h h'
  · obtain ⟨mantissa, hm, rfl⟩ := h
    obtain ⟨mantissa', hm', rfl⟩ := h'
    rw [hm.unique hm']

/-- The two formats of a number with the digits `m` and the exponent `x`. -/
structure FormatsAgree (v : Float) (m : ℕ) (x : ℤ) : Prop where
  /-- The scientific text has an exponent, which is read, and trimming leaves what is before the
  point in front of it. -/
  split : ∃ mantissa exponent, splitOnce 'e' (scientific 5 v) = some (mantissa, exponent) ∧
    int32? exponent = some x ∧
    (trimFraction mantissa).takeWhile (· != '.') = mantissa.takeWhile (· != '.')
  denoted : denoted? (scientific 5 v) =
    some ((if value v < 0 then -1 else 1) * (m * 10 ^ (x - 5) : ℚ))
  /-- The precision of the fixed text is not negative, so nothing wraps around. -/
  nonneg : -4 ≤ x → x ≤ 5 → (precision x : ℤ) = 5 - x
  /-- The fixed text stands for the same rational as the scientific one. -/
  same : -4 ≤ x → x ≤ 5 → denoted? (fixed (precision x) v) = denoted? (scientific 5 v)
  /-- Trimming leaves what is before the point of the fixed text. -/
  whole : -4 ≤ x → x ≤ 5 → (trimFraction (fixed (precision x) v)).takeWhile (· != '.') =
    (fixed (precision x) v).takeWhile (· != '.')
  formatted : formatted? v = some (display v).toList

section Styles

theorem isRounded_significand {places num den : ℕ} (hnum : 0 < num) (hden : 0 < den) :
    IsRounded places (num / den) (significand places num den).1 (significand places num den).2 := by
  have hq : (0 : ℚ) < num / den := by positivity
  have hnear := @isNearest_roundScaled num den hden (places - Int.log 10 (num / den : ℚ))
  have hcarry := IsRounded.of_isNearest hq hnear
  unfold significand
  rw [leadingExponent_eq_log hnum hden]
  dsimp only
  split_ifs at hcarry ⊢
  · exact hcarry
  · exact hcarry

lemma precision_eq {x : ℤ} (hlow : -4 ≤ x) (hhigh : x ≤ 5) : (precision x : ℤ) = 5 - x := by
  unfold precision
  omega

lemma div_pow_precision {x : ℤ} (m : ℕ) (hlow : -4 ≤ x) (hhigh : x ≤ 5) :
    (m / 10 ^ precision x : ℚ) = m * 10 ^ (x - 5) := by
  rw [← zpow_natCast, precision_eq hlow hhigh, div_eq_mul_inv, ← zpow_neg, neg_sub]

lemma div_pow_mul_zpow (m : ℕ) (x : ℤ) : (m / 10 ^ 5 * 10 ^ x : ℚ) = m * 10 ^ (x - 5) := by
  rw [zpow_sub₀ (by norm_num)]
  field_simp

lemma leftpad_two {ds : List Char} (hne : ds ≠ []) :
    ds.leftpad 2 '0' = if ds.length < 2 then '0' :: ds else ds := by
  have hpos := List.length_pos_iff.mpr hne
  unfold List.leftpad
  split_ifs with hshort
  · have hone : 2 - ds.length = 1 := by omega
    rw [hone]
    rfl
  · have hnone : 2 - ds.length = 0 := by omega
    rw [hnone]
    rfl

lemma signedExponent_eq (x : ℤ) : NumberStyle.signedExponent x = 'e' :: paddedExponent x := by
  rw [paddedExponent, leftpad_two Nat.toDigits_ne_nil]
  rfl

lemma NumberStyle.positiveText_eq (style : NumberStyle) (r : ℕ) :
    style.positiveText r =
      if style.inPlace (style.decimal r).exponent then (style.decimal r).positional style.wholeMark
      else (style.decimal r).leading ++ style.exponentText (style.decimal r).exponent := rfl

lemma NumberStyle.text_of_le (style : NumberStyle) {v : Float} (h : rank v ≤ infinityRank) :
    style.text v = signText (isNegative v) ++ style.magnitudeText (rank v) := by
  rw [text, if_neg h.not_gt]
  cases isNegative v <;> rfl

lemma NumberStyle.text_of_finite (style : NumberStyle) {v : Float} (hbelow : rank v < infinityRank)
    (hrank : rank v ≠ 0) :
    style.text v = signText (isNegative v) ++ style.positiveText (rank v) := by
  rw [text_of_le style hbelow.le, magnitudeText, if_neg hrank, if_neg hbelow.ne]

lemma toList_display (v : Float) : (display v).toList = NumberStyle.result.text v :=
  String.toList_ofList

lemma toList_display_zero {v : Float} (hrank : rank v = 0) :
    (display v).toList = signText (isNegative v) ++ ['0'] := by
  rw [toList_display, NumberStyle.text_of_le _ (by omega), NumberStyle.magnitudeText, if_pos hrank]
  rfl

theorem isResultText_of_isNormal {d : Decimal} {m : ℕ} (hnormal : d.IsNormal)
    (hvalue : d.value = m * 10 ^ (d.exponent - 5)) :
    IsResultText m d.exponent (if NumberStyle.result.inPlace d.exponent then d.positional []
      else d.leading ++ NumberStyle.signedExponent d.exponent) := by
  have hplace : NumberStyle.result.inPlace d.exponent = true ↔
      -4 ≤ d.exponent ∧ d.exponent ≤ 5 := by
    change (decide _ && decide _) = true ↔ _
    rw [Bool.and_eq_true, decide_eq_true_iff, decide_eq_true_iff, Int.lt_iff_add_one_le]
    omega
  unfold IsResultText
  split_ifs with hin hshort hshort
  · rw [← hvalue]
    exact Decimal.isExpansion_positional hnormal
  · exact absurd (hplace.mpr hin) hshort
  · exact absurd (hplace.mp hshort) hin
  · have hmantissa : (m / 10 ^ 5 : ℚ) = d.value / 10 ^ d.exponent := by
      rw [hvalue, ← div_pow_mul_zpow, mul_div_cancel_right₀ _ (by positivity)]
    rw [signedExponent_eq]
    exact ⟨d.leading, hmantissa ▸ Decimal.isExpansion_leading hnormal, rfl⟩

end Styles

section Finite

variable {v : Float} {m : ℕ} {x : ℤ} (hfinite : isFinite v = true) (hzero : value v ≠ 0)

include hfinite hzero

lemma units_pos_of_value : 0 < units v := units_pos (rank_ne_zero hfinite hzero)

theorem exists_isRounded : ∃ m x, IsRounded 5 |value v| m x := by
  rw [abs_value hfinite]
  exact ⟨_, _, isRounded_significand (units_pos_of_value hfinite hzero) unitsOfOne_pos⟩

variable (h : IsRounded 5 |value v| m x)

include h

lemma exponent_bounds : -2 ^ 31 ≤ x ∧ x < 2 ^ 31 := by
  obtain ⟨hlow, hhigh⟩ := log_abs_value hfinite hzero
  rcases h.cases (abs_pos.mpr hzero) with ⟨hx, -⟩ | ⟨hx, -⟩ <;> omega

theorem significand_eq : significand 5 (units v) unitsOfOne = (m, x) := by
  have hrounded := @isRounded_significand 5 _ _ (units_pos_of_value hfinite hzero) unitsOfOne_pos
  rw [← abs_value hfinite] at hrounded
  obtain ⟨hm, hx⟩ := hrounded.unique (abs_pos.mpr hzero) h
  exact Prod.ext hm hx

/-- Rounded at the place of the last of the six digits, a value has the same six digits. -/
theorem roundScaled_eq : roundScaled (units v) unitsOfOne (5 - x) = m := by
  have hnear := @isNearest_roundScaled (units v) unitsOfOne unitsOfOne_pos (5 - x)
  rw [← abs_value hfinite] at hnear
  exact hnear.unique (h.isNearest (abs_pos.mpr hzero))

lemma scientific_eq :
    scientific 5 v = signText (isNegative v) ++ withPlaces 5 m ++ 'e' :: exponentDigits x := by
  rw [scientific, significand_eq hfinite hzero h]
  rfl

lemma fixed_eq (hlow : -4 ≤ x) (hhigh : x ≤ 5) :
    fixed (precision x) v = signText (isNegative v) ++ withPlaces (precision x) m := by
  rw [fixed, precision_eq hlow hhigh, roundScaled_eq hfinite hzero h]

lemma splitOnce_scientific : splitOnce 'e' (scientific 5 v) =
    some (signText (isNegative v) ++ withPlaces 5 m, exponentDigits x) := by
  rw [scientific_eq hfinite hzero h]
  refine splitOnce_append ?_
  rw [withPlaces, ← List.append_assoc, List.mem_append, not_or]
  exact ⟨notMem_whole _ rfl (by decide) _,
    notMem_pointed rfl (by decide) (allDigits_lastDigits 5 m)⟩

theorem exists_formatted? :
    ∃ t, formatted? v = some (signText (isNegative v) ++ t) ∧ IsResultText m x t := by
  obtain ⟨hlow, hhigh⟩ := exponent_bounds hfinite hzero h
  rw [formatted?, assembled?_of_split (splitOnce_scientific hfinite hzero h)
    (int32?_exponentDigits hlow hhigh)]
  by_cases hplace : -4 ≤ x ∧ x ≤ 5
  · obtain ⟨t, htrim, ht⟩ := exists_expansion_of_withPlaces (precision x) m (isNegative v)
    refine ⟨t, ?_, ?_⟩
    · rw [if_neg (by omega), fixed_eq hfinite hzero h hplace.1 hplace.2, htrim]
    · rw [IsResultText, if_pos hplace, ← div_pow_precision m hplace.1 hplace.2]
      exact ht
  · obtain ⟨t, htrim, ht⟩ := exists_expansion_of_withPlaces 5 m (isNegative v)
    refine ⟨t ++ 'e' :: paddedExponent x, ?_, ?_⟩
    · rw [if_pos (by omega), htrim, List.append_assoc]
    · rw [IsResultText, if_neg hplace]
      exact ⟨t, ht, rfl⟩

theorem exists_display :
    ∃ t, (display v).toList = signText (isNegative v) ++ t ∧ IsResultText m x t := by
  have hrank := rank_ne_zero hfinite hzero
  have hbelow : rank v < infinityRank := of_decide_eq_true hfinite
  have hrounded := h
  rw [abs_value hfinite] at hrounded
  obtain ⟨hnormal, hexp, hvalue⟩ :=
    Decimal.rounded_of_isRounded (units_pos_of_value hfinite hzero) unitsOfOne_pos hrounded
  refine ⟨NumberStyle.result.positiveText (rank v), ?_, ?_⟩
  · rw [toList_display, NumberStyle.text_of_finite _ hbelow hrank]
  · -- The rounded number is kept as a variable: its digits are not to be computed here.
    generalize hd : Decimal.rounded (5 + 1) (units v) unitsOfOne = d at hnormal hexp hvalue
    have hdecimal : NumberStyle.result.decimal (rank v) = d := hd
    subst hexp
    rw [NumberStyle.positiveText_eq, hdecimal]
    exact isResultText_of_isNormal hnormal hvalue

/-- Both texts are the one text of the rounded value. -/
theorem formatted?_eq_display : formatted? v = some (display v).toList := by
  obtain ⟨t, hformatted, ht⟩ := exists_formatted? hfinite hzero h
  obtain ⟨t', hdisplay, ht'⟩ := exists_display hfinite hzero h
  rw [hformatted, hdisplay, ht.unique ht']

lemma denoted?_scientific : denoted? (scientific 5 v) =
    some ((if value v < 0 then -1 else 1) * (m * 10 ^ (x - 5) : ℚ)) := by
  rw [scientific_eq hfinite hzero h, ← plainExponent_eq,
    denoted?_withPlaces 5 m _ (exponent?_plainExponent x), div_pow_mul_zpow]
  simp only [value_neg_iff hfinite hzero]

lemma denoted?_fixed (hlow : -4 ≤ x) (hhigh : x ≤ 5) : denoted? (fixed (precision x) v) =
    some ((if value v < 0 then -1 else 1) * (m * 10 ^ (x - 5) : ℚ)) := by
  rw [fixed_eq hfinite hzero h hlow hhigh, ← List.append_nil (signText _ ++ _),
    denoted?_withPlaces (precision x) m _ rfl, zpow_zero, mul_one, div_pow_precision m hlow hhigh]
  simp only [value_neg_iff hfinite hzero]

theorem formatsAgree : FormatsAgree v m x := by
  obtain ⟨hlow, hhigh⟩ := exponent_bounds hfinite hzero h
  refine ⟨⟨_, _, splitOnce_scientific hfinite hzero h, int32?_exponentDigits hlow hhigh,
    takeWhile_trimFraction_withPlaces 5 m _⟩, denoted?_scientific hfinite hzero h, precision_eq,
    ?_, ?_, formatted?_eq_display hfinite hzero h⟩
  · intro hlow hhigh
    rw [denoted?_fixed hfinite hzero h hlow hhigh, denoted?_scientific hfinite hzero h]
  · intro hlow hhigh
    rw [fixed_eq hfinite hzero h hlow hhigh, takeWhile_trimFraction_withPlaces]

end Finite

theorem shown?_eq_display (v : Float) : shown? v = some (display v).toList := by
  unfold shown?
  split_ifs with hnan hinfinite hzero
  · rw [toList_display, NumberStyle.text, if_pos hnan]
    rfl
  · rw [toList_display, NumberStyle.text_of_le _ hinfinite.le, NumberStyle.magnitudeText, hinfinite,
      if_neg (by decide), if_pos rfl]
    rfl
  · rw [toList_display_zero hzero]
  · have hfinite : isFinite v = true := decide_eq_true (by omega)
    have hvalue : value v ≠ 0 := mt (value_eq_zero_iff hfinite).mp hzero
    obtain ⟨m, x, h⟩ := exists_isRounded hfinite hvalue
    exact formatted?_eq_display hfinite hvalue h

/-- The text of a finite number other than zero: a minus if it is negative, and the value rounded
to six significant digits, which are unique. The two formats of the number agree on them. -/
theorem display_rounded {v : Float} (hfinite : isFinite v = true) (hzero : value v ≠ 0) :
    ∃ m x, IsRounded 5 |value v| m x ∧
      (∀ m' x', IsRounded 5 |value v| m' x' → m' = m ∧ x' = x) ∧
      (∃ t, (display v).toList = (if value v < 0 then ['-'] else []) ++ t ∧ IsResultText m x t) ∧
      FormatsAgree v m x := by
  obtain ⟨m, x, h⟩ := exists_isRounded hfinite hzero
  obtain ⟨t, hdisplay, ht⟩ := exists_display hfinite hzero h
  refine ⟨m, x, h, fun m' x' h' => h'.unique (abs_pos.mpr hzero) h, ⟨t, ?_, ht⟩,
    formatsAgree hfinite hzero h⟩
  rw [hdisplay, signText]
  simp only [value_neg_iff hfinite hzero]

/-- A number just below a power of ten, `999999.7`, where rounding carries. -/
theorem display_rounded_carry :
    ∃ m x, IsRounded 5 |value (ofRank false 4696837144107705958)| m x ∧
      FormatsAgree (ofRank false 4696837144107705958) m x := by
  have hle : 4696837144107705958 ≤ infinityRank := by decide
  have hfinite : isFinite (ofRank false 4696837144107705958) = true := by
    rw [isFinite, rank_ofRank hle]
    decide
  have hzero : value (ofRank false 4696837144107705958) ≠ 0 := by
    rw [Ne, value_eq_zero_iff hfinite, rank_ofRank hle]
    decide
  obtain ⟨m, x, hrounded, -, -, hformats⟩ := display_rounded hfinite hzero
  exact ⟨m, x, hrounded, hformats⟩

example : display (ofRank false 4696837144107705958) = "1e+06" := by decide +kernel

end LineCalculator
