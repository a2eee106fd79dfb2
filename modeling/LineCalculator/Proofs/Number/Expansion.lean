import LineCalculator.Number.Decimal
import LineCalculator.Proofs.Number.Literal
import LineCalculator.Proofs.Number.Nearest
import Mathlib

/-!
# Decimal expansions

The plain text of a number: the digits of its whole part and, after a point, those of its fraction
up to the last that is not zero. A number has at most one such text (`IsExpansion.unique`), so that
two ways to lay out digits agree when both lay out the same number. Both layouts of a decimal
number are expansions: in place of the number itself, and behind the first digit of the number
without its power of ten.
-/
namespace LineCalculator

section Digits

def AllDigits (ds : List Char) : Prop := ∀ c ∈ ds, c.isDigit = true

lemma allDigits_nil : AllDigits [] := fun _ hc => absurd hc List.not_mem_nil

lemma allDigits_cons {c : Char} {cs : List Char} :
    AllDigits (c :: cs) ↔ c.isDigit = true ∧ AllDigits cs := List.forall_mem_cons

lemma allDigits_append {as bs : List Char} :
    AllDigits (as ++ bs) ↔ AllDigits as ∧ AllDigits bs := List.forall_mem_append

lemma allDigits_replicate (k : ℕ) : AllDigits (List.replicate k '0') := fun c hc => by
  rw [List.eq_of_mem_replicate hc]
  rfl

lemma allDigits_toDigits (n : ℕ) : AllDigits (Nat.toDigits 10 n) := fun _ hc =>
  Nat.isDigit_of_mem_toDigits (by omega) (by omega) hc

def digitValue (c : Char) : ℕ := c.toNat - '0'.toNat

lemma digitValue_lt {c : Char} (h : c.isDigit = true) : digitValue c < 10 := by
  have hrange := toNat_of_isDigit h
  change c.toNat - 48 < 10
  omega

lemma digitValue_inj {c d : Char} (hc : c.isDigit = true) (hd : d.isDigit = true)
    (h : digitValue c = digitValue d) : c = d := by
  have hrange := toNat_of_isDigit hc
  have hrange' := toNat_of_isDigit hd
  change c.toNat - 48 = d.toNat - 48 at h
  exact Char.toNat_inj.mp (by omega)

lemma digitChar_digitValue {c : Char} (h : c.isDigit = true) : (digitValue c).digitChar = c := by
  have hall : ∀ n < 10, (n.digitChar).isDigit = true ∧ digitValue n.digitChar = n := by decide
  obtain ⟨hdigit, hvalue⟩ := hall _ (digitValue_lt h)
  exact digitValue_inj hdigit h hvalue

open Numeral

@[simp] lemma digitsValue_nil : digitsValue [] = 0 := rfl

lemma digitsValue_append (as bs : List Char) :
    digitsValue (as ++ bs) = digitsValue as * 10 ^ bs.length + digitsValue bs := by
  unfold digitsValue
  rw [Nat.ofDigitChars_append, Nat.ofDigitChars_eq_ofDigitChars_zero, Nat.mul_comm]

lemma digitsValue_cons (c : Char) (cs : List Char) :
    digitsValue (c :: cs) = digitValue c * 10 ^ cs.length + digitsValue cs := by
  have hone : digitsValue [c] = digitValue c := by
    simp [digitsValue, Nat.ofDigitChars_cons, digitValue]
  rw [← List.singleton_append, digitsValue_append, hone]

@[simp] lemma digitsValue_replicate (k : ℕ) : digitsValue (List.replicate k '0') = 0 := by
  unfold digitsValue
  rw [Nat.ofDigitChars_replicate_zero, Nat.mul_zero]

@[simp] lemma digitsValue_toDigits (n : ℕ) : digitsValue (Nat.toDigits 10 n) = n :=
  Nat.ofDigitChars_ten_toDigits

lemma digitsValue_lt {ds : List Char} (h : AllDigits ds) : digitsValue ds < 10 ^ ds.length := by
  induction ds with
  | nil => decide
  | cons c cs ih =>
    obtain ⟨hc, hcs⟩ := allDigits_cons.mp h
    have hdigit := digitValue_lt hc
    have hrest := ih hcs
    rw [digitsValue_cons, List.length_cons, pow_succ]
    calc digitValue c * 10 ^ cs.length + digitsValue cs
        < digitValue c * 10 ^ cs.length + 10 ^ cs.length := by omega
      _ = (digitValue c + 1) * 10 ^ cs.length := by ring
      _ ≤ 10 * 10 ^ cs.length := Nat.mul_le_mul_right _ hdigit
      _ = 10 ^ cs.length * 10 := Nat.mul_comm _ _

lemma toDigits_append {n : ℕ} {ds : List Char} (hn : 0 < n) (h : AllDigits ds) :
    Nat.toDigits 10 n ++ ds = Nat.toDigits 10 (n * 10 ^ ds.length + digitsValue ds) := by
  induction ds generalizing n with
  | nil => simp
  | cons c cs ih =>
    obtain ⟨hc, hcs⟩ := allDigits_cons.mp h
    have hstep : Nat.toDigits 10 n ++ [c] = Nat.toDigits 10 (10 * n + digitValue c) := by
      rw [← Nat.toDigits_append_toDigits (by decide) hn (digitValue_lt hc),
        Nat.toDigits_of_lt_base (digitValue_lt hc), digitChar_digitValue hc]
    rw [List.append_cons, hstep, ih (by omega) hcs, digitsValue_cons, List.length_cons, pow_succ]
    congr 1
    ring

lemma toDigits_digitsValue {ds : List Char} (h : AllDigits ds) (hne : ds ≠ [])
    (hhead : ds.head? ≠ some '0') : Nat.toDigits 10 (digitsValue ds) = ds := by
  obtain ⟨c, cs, rfl⟩ := List.exists_cons_of_ne_nil hne
  obtain ⟨hc, hcs⟩ := allDigits_cons.mp h
  have hpos : 0 < digitValue c := by
    refine Nat.pos_of_ne_zero fun hzero => hhead ?_
    rw [List.head?_cons, digitValue_inj hc rfl (d := '0') hzero]
  rw [digitsValue_cons, ← toDigits_append hpos hcs, Nat.toDigits_of_lt_base (digitValue_lt hc),
    digitChar_digitValue hc, List.singleton_append]

lemma head?_toDigits {n : ℕ} (hn : 0 < n) : (Nat.toDigits 10 n).head? ≠ some '0' := by
  induction n using Nat.strongRecOn with
  | ind n ih =>
    rcases Nat.lt_or_ge n 10 with hlt | hge
    · have hall : ∀ k < 10, 0 < k → [k.digitChar].head? ≠ some '0' := by decide
      rw [Nat.toDigits_of_lt_base hlt]
      exact hall n hlt hn
    · rw [Nat.toDigits_of_base_le (by decide) hge,
        List.head?_append_of_ne_nil _ Nat.toDigits_ne_nil]
      exact ih (n / 10) (by omega) (by omega)

end Digits

section Fractions

open Numeral

/-- The number that digits after a point stand for. -/
def fractionValue (ds : List Char) : ℚ := digitsValue ds / 10 ^ ds.length

@[simp] lemma fractionValue_nil : fractionValue [] = 0 := by simp [fractionValue]

lemma fractionValue_append (as bs : List Char) :
    fractionValue (as ++ bs) = (digitsValue as + fractionValue bs) / 10 ^ as.length := by
  unfold fractionValue
  rw [digitsValue_append, List.length_append, pow_add]
  push_cast
  field_simp

lemma fractionValue_cons (c : Char) (cs : List Char) :
    fractionValue (c :: cs) = (digitValue c + fractionValue cs) / 10 := by
  unfold fractionValue
  rw [digitsValue_cons, List.length_cons, pow_succ]
  push_cast
  field_simp

lemma fractionValue_replicate_append (k : ℕ) (ds : List Char) :
    fractionValue (List.replicate k '0' ++ ds) = fractionValue ds / 10 ^ k := by
  rw [fractionValue_append, digitsValue_replicate, List.length_replicate, Nat.cast_zero, zero_add]

lemma fractionValue_append_replicate (ds : List Char) (k : ℕ) :
    fractionValue (ds ++ List.replicate k '0') = fractionValue ds := by
  have hzeros : fractionValue (List.replicate k '0') = 0 := by simp [fractionValue]
  rw [fractionValue_append, hzeros, add_zero, fractionValue]

lemma fractionValue_nonneg (ds : List Char) : 0 ≤ fractionValue ds := by
  unfold fractionValue
  positivity

lemma fractionValue_lt_one {ds : List Char} (h : AllDigits ds) : fractionValue ds < 1 := by
  rw [fractionValue, div_lt_one (by positivity)]
  exact_mod_cast digitsValue_lt h

lemma whole_fraction_unique {m n : ℕ} {as bs : List Char} (ha : AllDigits as) (hb : AllDigits bs)
    (h : m + fractionValue as = n + fractionValue bs) :
    m = n ∧ fractionValue as = fractionValue bs := by
  -- A fraction is below one, so that the whole part is found again as the floor.
  have hfloor : ∀ (k : ℕ) {cs : List Char}, AllDigits cs → ⌊k + fractionValue cs⌋ = (k : ℤ) := by
    intro k cs hcs
    rw [Int.floor_natCast_add, Int.floor_eq_zero_iff.mpr
      ⟨fractionValue_nonneg cs, fractionValue_lt_one hcs⟩, add_zero]
  obtain rfl : m = n := by
    have hwhole := hfloor m ha
    rw [h, hfloor n hb] at hwhole
    exact_mod_cast hwhole.symm
  exact ⟨rfl, add_left_cancel h⟩

lemma eq_nil_of_fractionValue {ds : List Char} (h : AllDigits ds) (hlast : ds.getLast? ≠ some '0')
    (hzero : fractionValue ds = 0) : ds = [] := by
  rcases List.eq_nil_or_concat' ds with rfl | ⟨cs, c, rfl⟩
  · rfl
  · have hsum : digitsValue (cs ++ [c]) = 0 := by
      have hcast := (div_eq_zero_iff.mp hzero).resolve_right (by positivity)
      exact_mod_cast hcast
    have hdigit : digitValue c = digitValue '0' := by
      rw [digitsValue_append, digitsValue_cons] at hsum
      change digitValue c = 0
      simpa using (Nat.add_eq_zero_iff.mp hsum).2
    have hc : c.isDigit = true := h c (by simp)
    exact absurd (by simp [digitValue_inj hc rfl hdigit]) hlast

theorem fractionValue_injective {as bs : List Char} (ha : AllDigits as) (hb : AllDigits bs)
    (halast : as.getLast? ≠ some '0') (hblast : bs.getLast? ≠ some '0')
    (h : fractionValue as = fractionValue bs) : as = bs := by
  induction as generalizing bs with
  | nil => exact (eq_nil_of_fractionValue hb hblast (by rw [← h, fractionValue_nil])).symm
  | cons c cs ih =>
    cases bs with
    | nil => exact eq_nil_of_fractionValue ha halast (by rw [h, fractionValue_nil])
    | cons d ds =>
      obtain ⟨hc, hcs⟩ := allDigits_cons.mp ha
      obtain ⟨hd, hds⟩ := allDigits_cons.mp hb
      rw [fractionValue_cons, fractionValue_cons, div_left_inj' (by norm_num)] at h
      obtain ⟨hdigit, hrest⟩ := whole_fraction_unique hcs hds h
      have hlast : ∀ {e : Char} {es : List Char}, (e :: es).getLast? ≠ some '0' →
          es.getLast? ≠ some '0' := by
        intro e es hne heq
        exact hne (by rw [List.getLast?_cons, heq]; rfl)
      rw [digitValue_inj hc hd hdigit, ih hcs hds (hlast halast) (hlast hblast) hrest]

end Fractions

section Expansions

/-- A point and the digits after it, or nothing if there are none. -/
def pointed : List Char → List Char
  | [] => []
  | c :: cs => '.' :: c :: cs

/-- The text `t` is the plain decimal expansion of `q`, with no zero after the last digit of its
fraction and no point without one. -/
def IsExpansion (q : ℚ) (t : List Char) : Prop :=
  ∃ (n : ℕ) (frac : List Char), AllDigits frac ∧ frac.getLast? ≠ some '0' ∧
    q = n + fractionValue frac ∧ t = Nat.toDigits 10 n ++ pointed frac

theorem IsExpansion.unique {q : ℚ} {t t' : List Char} (h : IsExpansion q t)
    (h' : IsExpansion q t') : t = t' := by
  obtain ⟨n, frac, hdigits, hlast, hq, rfl⟩ := h
  obtain ⟨n', frac', hdigits', hlast', hq', rfl⟩ := h'
  obtain ⟨rfl, hfrac⟩ := whole_fraction_unique hdigits hdigits' (hq.symm.trans hq')
  rw [fractionValue_injective hdigits hdigits' hlast hlast' hfrac]

lemma pointed_of_ne_nil {ds : List Char} (h : ds ≠ []) : pointed ds = '.' :: ds := by
  obtain ⟨c, cs, rfl⟩ := List.exists_cons_of_ne_nil h
  rfl

lemma isExpansion_of_split {whole frac : List Char} (hw : AllDigits whole) (hne : whole ≠ [])
    (hhead : whole.head? ≠ some '0') (hf : AllDigits frac) (hlast : frac.getLast? ≠ some '0') :
    IsExpansion (Numeral.digitsValue whole + fractionValue frac) (whole ++ pointed frac) :=
  ⟨_, frac, hf, hlast, rfl, by rw [toDigits_digitsValue hw hne hhead]⟩

end Expansions

namespace Decimal

open Numeral

/-- A decimal number whose digits begin and end with the significant ones. -/
structure IsNormal (d : Decimal) : Prop where
  allDigits : AllDigits d.digits
  ne_nil : d.digits ≠ []
  head : d.digits.head? ≠ some '0'
  last : d.digits.getLast? ≠ some '0'

def value (d : Decimal) : ℚ := fractionValue d.digits * 10 ^ (d.exponent + 1)

lemma value_eq_of_split {d : Decimal} {whole frac : List Char}
    (hlength : (whole.length : ℤ) = d.exponent + 1)
    (hsame : fractionValue (whole ++ frac) = fractionValue d.digits) :
    d.value = digitsValue whole + fractionValue frac := by
  rw [value, ← hsame, ← hlength, zpow_natCast, fractionValue_append,
    div_mul_cancel₀ _ (by positivity)]

theorem isExpansion_positional {d : Decimal} (h : d.IsNormal) :
    IsExpansion d.value (d.positional []) := by
  unfold positional
  dsimp only
  split_ifs with hneg hshort
  · refine ⟨0, List.replicate ((-d.exponent).toNat - 1) '0' ++ d.digits,
      allDigits_append.mpr ⟨allDigits_replicate _, h.allDigits⟩, ?_, ?_, ?_⟩
    · rw [List.getLast?_append_of_ne_nil _ h.ne_nil]
      exact h.last
    · have hexp : d.exponent + 1 = -(((-d.exponent).toNat - 1 : ℕ) : ℤ) := by omega
      rw [fractionValue_replicate_append, value, hexp, zpow_neg, zpow_natCast, Nat.cast_zero,
        zero_add, div_eq_mul_inv]
    · rw [pointed_of_ne_nil (List.append_ne_nil_of_right_ne_nil _ h.ne_nil)]
      rfl
  · have hvalue := @value_eq_of_split d
      (d.digits ++ List.replicate (d.exponent.toNat + 1 - d.digits.length) '0') []
      (by rw [List.length_append, List.length_replicate]; omega)
      (by rw [List.append_nil, fractionValue_append_replicate])
    rw [hvalue]
    refine isExpansion_of_split (allDigits_append.mpr ⟨h.allDigits, allDigits_replicate _⟩) ?_ ?_
      allDigits_nil (by simp)
    · exact List.append_ne_nil_of_left_ne_nil h.ne_nil _
    · rw [List.head?_append_of_ne_nil _ h.ne_nil]
      exact h.head
  · have hvalue := @value_eq_of_split d (d.digits.take (d.exponent.toNat + 1))
      (d.digits.drop (d.exponent.toNat + 1))
      (by rw [List.length_take]; omega) (by rw [List.take_append_drop])
    have hdrop : d.digits.drop (d.exponent.toNat + 1) ≠ [] :=
      fun hnil => hshort (List.drop_eq_nil_iff.mp hnil)
    rw [hvalue, ← pointed_of_ne_nil hdrop]
    refine isExpansion_of_split (fun c hc => h.allDigits c (List.mem_of_mem_take hc)) ?_ ?_
      (fun c hc => h.allDigits c (List.mem_of_mem_drop hc)) ?_
    · exact fun hnil => h.ne_nil ((List.take_eq_nil_iff.mp hnil).resolve_left (by omega))
    · rw [List.head?_take, if_neg (by omega)]
      exact h.head
    · rw [List.getLast?_drop, if_neg (by omega)]
      exact h.last

lemma leading_eq_positional {d : Decimal} (h : d.digits ≠ []) :
    d.leading = positional [] ⟨d.digits, 0⟩ := by
  obtain ⟨first, rest, hd⟩ := List.exists_cons_of_ne_nil h
  cases rest with
  | nil => simp [leading, positional, hd]
  | cons next rest => simp [leading, positional, hd]

theorem isExpansion_leading {d : Decimal} (h : d.IsNormal) :
    IsExpansion (d.value / 10 ^ d.exponent) d.leading := by
  have hvalue : d.value / 10 ^ d.exponent = value ⟨d.digits, 0⟩ := by
    rw [value, value, zpow_add_one₀ (by norm_num), zero_add, zpow_one]
    field_simp
  rw [leading_eq_positional h.ne_nil, hvalue]
  exact isExpansion_positional ⟨h.allDigits, h.ne_nil, h.head, h.last⟩

lemma exists_replicate_of_trimZeros (ds : List Char) :
    ∃ k, ds = trimZeros ds ++ List.replicate k '0' := by
  refine ⟨(ds.rtakeWhile (· == '0')).length, ?_⟩
  have hzeros : List.replicate (ds.rtakeWhile (· == '0')).length '0' = ds.rtakeWhile (· == '0') :=
    (List.eq_replicate_of_mem fun c hc =>
      eq_of_beq (@List.mem_rtakeWhile_imp _ (· == '0') _ _ hc)).symm
  rw [hzeros]
  exact (List.rdropWhile_append_rtakeWhile (p := (· == '0'))).symm

lemma fractionValue_trimZeros (ds : List Char) :
    fractionValue (trimZeros ds) = fractionValue ds := by
  obtain ⟨k, hk⟩ := exists_replicate_of_trimZeros ds
  conv_rhs => rw [hk]
  rw [fractionValue_append_replicate]

lemma getLast?_trimZeros (ds : List Char) : (trimZeros ds).getLast? ≠ some '0' := by
  intro hlast
  have hne : trimZeros ds ≠ [] := by
    intro hnil
    rw [hnil] at hlast
    contradiction
  have hnot := List.rdropWhile_last_not (· == '0') ds hne
  rw [List.getLast?_eq_getLast_of_ne_nil hne] at hlast
  exact hnot (beq_of_eq (Option.some.inj hlast))

lemma allDigits_trimZeros {ds : List Char} (h : AllDigits ds) : AllDigits (trimZeros ds) :=
  fun c hc => h c ((List.rdropWhile_prefix _ _).subset hc)

section Coefficients

variable {coefficient : ℕ} (place : ℤ)

theorem isNormal_ofCoefficient (h : 0 < coefficient) :
    (ofCoefficient coefficient place).IsNormal := by
  have hhead := head?_toDigits h
  obtain ⟨k, hk⟩ := exists_replicate_of_trimZeros (Nat.toDigits 10 coefficient)
  have hne : trimZeros (Nat.toDigits 10 coefficient) ≠ [] := by
    intro hnil
    rw [hnil, List.nil_append] at hk
    cases k with
    | zero => exact Nat.toDigits_ne_nil hk
    | succ k => exact hhead (by rw [hk]; rfl)
  refine ⟨allDigits_trimZeros (allDigits_toDigits _), hne, ?_, getLast?_trimZeros _⟩
  rw [hk, List.head?_append_of_ne_nil _ hne] at hhead
  exact hhead

lemma value_ofCoefficient : (ofCoefficient coefficient place).value = coefficient * 10 ^ place := by
  have hlength : 0 < (Nat.toDigits 10 coefficient).length := Nat.length_toDigits_pos
  have hexp : place + ((Nat.toDigits 10 coefficient).length - 1 : ℕ) + 1 =
      place + ((Nat.toDigits 10 coefficient).length : ℤ) := by omega
  simp only [value, ofCoefficient]
  rw [fractionValue_trimZeros, fractionValue, digitsValue_toDigits, hexp,
    zpow_add₀ (by norm_num), zpow_natCast]
  field_simp

end Coefficients

section Rounded

variable {places num den m : ℕ} {x : ℤ}

/-- A rounded quotient has the exponent and the value of its significant digits, with the carry. -/
theorem rounded_of_isRounded (hnum : 0 < num) (hden : 0 < den)
    (h : IsRounded places (num / den) m x) :
    (rounded (places + 1) num den).IsNormal ∧ (rounded (places + 1) num den).exponent = x ∧
      (rounded (places + 1) num den).value = m * 10 ^ (x - places) := by
  have hq : (0 : ℚ) < num / den := by positivity
  have hplace : leadingExponent num den - ((places + 1 - 1 : ℕ) : ℤ) =
      Int.log 10 (num / den : ℚ) - places := by
    rw [leadingExponent_eq_log hnum hden, Nat.add_sub_cancel]
  have hnear := @isNearest_roundScaled num den hden (places - Int.log 10 (num / den : ℚ))
  simp only [rounded, hplace, neg_sub]
  rcases h.cases hq with ⟨rfl, hm⟩ | ⟨rfl, rfl, hn⟩
  · rw [hnear.unique hm]
    have hcount := digitCount_eq h.lower h.upper
    refine ⟨isNormal_ofCoefficient _ (lt_of_lt_of_le (by positivity) h.lower), ?_,
      value_ofCoefficient _⟩
    change _ + ((digitCount m - 1 : ℕ) : ℤ) = _
    omega
  · rw [hnear.unique hn]
    have hcount := digitCount_eq (le_refl (10 ^ (places + 1))) (Nat.pow_lt_pow_succ (by decide))
    refine ⟨isNormal_ofCoefficient _ (by positivity), ?_, ?_⟩
    · change _ + ((digitCount (10 ^ (places + 1)) - 1 : ℕ) : ℤ) = _
      omega
    · rw [value_ofCoefficient, carry_eq]

end Rounded

end Decimal

end LineCalculator
