import LineCalculator.Number.Text
import LineCalculator.Proofs.Number.Expansion
import LineCalculator.Proofs.Number.Value
import Mathlib

/-!
# Two formats of a number

A number has a scientific text, with a given count of digits after the point and an exponent, and a
fixed text, with a given count of digits after the point alone. Each rounds the exact value. Both
end in zeros that `trimFraction` takes away together with a point that nothing follows.

`denoted?` reads a text back as the rational it stands for.
-/
namespace LineCalculator

section Denotation

namespace Numeral

def rational? : Numeral → Option ℚ
  | decimal negative coefficient place =>
    some ((if negative then -1 else 1) * (coefficient * 10 ^ place))
  | _ => none

end Numeral

/-- The rational that a text stands for. -/
def denoted? (t : List Char) : Option ℚ := (Numeral.read? (String.ofList t)).bind Numeral.rational?

def signText (negative : Bool) : List Char := if negative then ['-'] else []

open Numeral

lemma read?_signText (negative : Bool) {c : Char} (h : c.isDigit = true) (cs : List Char) :
    read? (String.ofList (signText negative ++ c :: cs)) = decimal? negative (c :: cs) := by
  refine read?_of_sign ?_ h
  rw [String.toList_ofList]
  cases negative with
  | false => exact sign_of_isDigit h cs
  | true => rfl

lemma head_of_exponent? {tail : List Char} {e : ℤ} (h : exponent? tail = some e) :
    ∀ c ∈ tail.head?, c.isDigit = false ∧ c ≠ '.' := by
  cases tail with
  | nil => simp
  | cons mark rest =>
    intro c hc
    obtain rfl : mark = c := by simpa using hc
    have hmark : mark = 'e' ∨ mark = 'E' := by
      by_contra hnot
      obtain ⟨hlower, hupper⟩ := not_or.mp hnot
      simp [exponent?, hlower, hupper] at h
    rcases hmark with rfl | rfl <;> decide

lemma fraction_pointed {frac tail : List Char} (hf : AllDigits frac)
    (hhead : ∀ c ∈ tail.head?, c.isDigit = false ∧ c ≠ '.') :
    Numeral.fraction (pointed frac ++ tail) = (frac, tail) := by
  cases frac with
  | nil =>
    cases tail with
    | nil => rfl
    | cons c cs =>
      change Numeral.fraction (c :: cs) = _
      unfold Numeral.fraction
      split
      · rename_i heq
        exact absurd (List.cons.inj heq).1 (hhead c rfl).2
      · rfl
  | cons d ds =>
    obtain ⟨htake, hdrop⟩ := takeWhile_dropWhile_append hf fun c hc => (hhead c hc).1
    exact Prod.ext htake hdrop

lemma decimal?_append {whole frac tail : List Char} {e : ℤ} (negative : Bool) (hne : whole ≠ [])
    (hw : AllDigits whole) (hf : AllDigits frac) (htail : exponent? tail = some e) :
    decimal? negative (whole ++ (pointed frac ++ tail)) =
      some (decimal negative (digitsValue (whole ++ frac)) (e - frac.length)) := by
  have hhead := head_of_exponent? htail
  have hstop : ∀ c ∈ (pointed frac ++ tail).head?, c.isDigit = false := by
    intro c hc
    cases frac with
    | nil => exact (hhead c hc).1
    | cons d ds =>
      obtain rfl : '.' = c := by simpa [pointed] using hc
      rfl
  obtain ⟨htake, hdrop⟩ := takeWhile_dropWhile_append hw hstop
  have hsome : (whole.isEmpty && frac.isEmpty) = false := by simp [hne]
  rw [decimal?, htake, hdrop, fraction_pointed hf hhead]
  simp [hsome, htail]

theorem denoted?_append {n : ℕ} {frac tail : List Char} {e : ℤ} (negative : Bool)
    (hf : AllDigits frac) (htail : exponent? tail = some e) :
    denoted? (signText negative ++ (Nat.toDigits 10 n ++ (pointed frac ++ tail))) =
      some ((if negative then -1 else 1) * ((n + fractionValue frac) * 10 ^ e)) := by
  have hdigits := allDigits_toDigits n
  obtain ⟨c, cs, hcs⟩ := List.exists_cons_of_ne_nil (@Nat.toDigits_ne_nil n 10)
  have hc : c.isDigit = true := hdigits c (by simp [hcs])
  have hread := decimal?_append negative (@Nat.toDigits_ne_nil n 10) hdigits hf htail
  have hexact : ((digitsValue (Nat.toDigits 10 n ++ frac) : ℕ) : ℚ) * 10 ^ (e - frac.length) =
      (n + fractionValue frac) * 10 ^ e := by
    rw [digitsValue_append, digitsValue_toDigits, fractionValue, zpow_sub₀ (by norm_num),
      zpow_natCast]
    push_cast
    field_simp
  rw [hcs, List.cons_append] at hread
  rw [denoted?, hcs, List.cons_append, read?_signText negative hc, hread]
  change some (_ * _) = _
  rw [← hcs, hexact]

end Denotation

section Texts

def lastDigits (places n : ℕ) : List Char :=
  if places = 0 then [] else (Nat.toDigits 10 (n % 10 ^ places)).leftpad places '0'

/-- The digits of `n * 10 ^ -places`, all those after the point written. -/
def withPlaces (places n : ℕ) : List Char :=
  Nat.toDigits 10 (n / 10 ^ places) ++ pointed (lastDigits places n)

def fixed (places : ℕ) (v : Float) : List Char :=
  signText (Binary64.isNegative v) ++
    withPlaces places (roundScaled (Binary64.units v) Binary64.unitsOfOne places)

/-- The coefficient and the exponent of a quotient rounded to `places` digits after its first. -/
def significand (places num den : ℕ) : ℕ × ℤ :=
  let lead := leadingExponent num den
  let n := roundScaled num den (places - lead)
  if n < 10 ^ (places + 1) then (n, lead) else (n / 10, lead + 1)

/-- The value rounded to `places` digits after its first one, with the exponent of that one. -/
def scientific (places : ℕ) (v : Float) : List Char :=
  let (m, x) := significand places (Binary64.units v) Binary64.unitsOfOne
  signText (Binary64.isNegative v) ++ withPlaces places m ++ NumberStyle.plainExponent x

/-- A text with a point without the zeros at its end, and then without the points there. -/
def trimFraction (t : List Char) : List Char :=
  if '.' ∈ t then (t.rdropWhile (· == '0')).rdropWhile (· == '.') else t

def splitOnce (mark : Char) (t : List Char) : Option (List Char × List Char) :=
  if mark ∈ t then some (t.takeWhile (· != mark), (t.dropWhile (· != mark)).tail) else none

/-- An optional sign and digits, read as a signed number of 32 bits. -/
def int32? (t : List Char) : Option ℤ :=
  let (negative, ds) := Numeral.sign t
  let x : ℤ := if negative then -Numeral.digitsValue ds else Numeral.digitsValue ds
  if !ds.isEmpty && ds.all Char.isDigit && (-2 ^ 31 ≤ x) && (x < 2 ^ 31) then some x else none

example : trimFraction "100.00".toList = "100".toList := by decide
example : trimFraction "100".toList = "100".toList := by decide
example : withPlaces 5 123 = "0.00123".toList := by decide +kernel
example : splitOnce 'e' "1.50000e-7".toList = some ("1.50000".toList, "-7".toList) := by decide

end Texts

section Digits

open Numeral

variable (places n : ℕ)

lemma allDigits_lastDigits : AllDigits (lastDigits places n) := by
  unfold lastDigits
  split_ifs
  · exact allDigits_nil
  · exact allDigits_append.mpr ⟨allDigits_replicate _, allDigits_toDigits _⟩

lemma fractionValue_lastDigits :
    fractionValue (lastDigits places n) = (n % 10 ^ places : ℕ) / 10 ^ places := by
  unfold lastDigits
  split_ifs with hzero
  · simp [hzero, Nat.mod_one]
  · have hlength : (Nat.toDigits 10 (n % 10 ^ places)).length ≤ places :=
      (Nat.length_toDigits_le_iff (by decide) (by omega)).mpr (Nat.mod_lt _ (by positivity))
    rw [List.leftpad, fractionValue, digitsValue_append, digitsValue_replicate, Nat.zero_mul,
      Nat.zero_add, digitsValue_toDigits, List.length_append, List.length_replicate,
      Nat.sub_add_cancel hlength]

lemma whole_add_lastDigits :
    ((n / 10 ^ places : ℕ) : ℚ) + fractionValue (lastDigits places n) = n / 10 ^ places := by
  have hsplit := @cast_div_eq n (10 ^ places) (by positivity)
  push_cast at hsplit ⊢
  rw [fractionValue_lastDigits, hsplit]

lemma denoted?_withPlaces {tail : List Char} {e : ℤ} (negative : Bool)
    (htail : exponent? tail = some e) :
    denoted? (signText negative ++ withPlaces places n ++ tail) =
      some ((if negative then -1 else 1) * ((n : ℚ) / 10 ^ places * 10 ^ e)) := by
  rw [withPlaces, List.append_assoc, List.append_assoc,
    denoted?_append negative (allDigits_lastDigits places n) htail, whole_add_lastDigits]

lemma notMem_pointed {c : Char} {ds : List Char} (hc : c.isDigit = false) (hpoint : c ≠ '.')
    (h : AllDigits ds) : c ∉ pointed ds := by
  intro hmem
  have hds : c ∉ ds := fun hmem => by simp [h c hmem] at hc
  cases ds with
  | nil => exact absurd hmem List.not_mem_nil
  | cons d ds => exact hds ((List.mem_cons.mp hmem).resolve_left hpoint)

lemma notMem_whole {c : Char} (hc : c.isDigit = false) (hminus : c ≠ '-') (negative : Bool) :
    c ∉ signText negative ++ Nat.toDigits 10 n := by
  rw [List.mem_append, not_or]
  refine ⟨?_, fun hmem => by simp [allDigits_toDigits n c hmem] at hc⟩
  cases negative with
  | false => exact List.not_mem_nil
  | true => exact fun hmem => hminus (List.mem_singleton.mp hmem)

end Digits

section Trimming

lemma rdropWhile_append {p : Char → Bool} (as bs : List Char) :
    (as ++ bs).rdropWhile p =
      if bs.rdropWhile p = [] then as.rdropWhile p else as ++ bs.rdropWhile p := by
  simp only [List.rdropWhile, List.reverse_append, List.dropWhile_append, List.isEmpty_iff,
    List.reverse_eq_nil_iff]
  split_ifs
  · rfl
  · rw [List.reverse_append, List.reverse_reverse]

lemma rdropWhile_of_notMem {c : Char} {cs : List Char} (h : c ∉ cs) :
    cs.rdropWhile (· == c) = cs := by
  rw [List.rdropWhile_eq_self_iff]
  intro hne hlast
  exact h (eq_of_beq hlast ▸ List.getLast_mem hne)

/-- Trimming takes the zeros after a point, then a point that nothing follows, and nothing that is
before the point. -/
theorem trimFraction_append {whole frac : List Char} (hw : '.' ∉ whole) (hf : AllDigits frac) :
    trimFraction (whole ++ pointed frac) = whole ++ pointed (Decimal.trimZeros frac) := by
  rcases eq_or_ne frac [] with rfl | hne
  · have hpoint : '.' ∉ whole ++ pointed [] := by simpa [pointed] using hw
    rw [trimFraction, if_neg hpoint]
    rfl
  · have hpoint : '.' ∈ whole ++ pointed frac := by simp [pointed_of_ne_nil hne]
    have hzeros : (whole ++ ['.']).rdropWhile (· == '0') = whole ++ ['.'] := by
      rw [List.rdropWhile_concat, if_neg (by decide)]
    have hdots : '.' ∉ Decimal.trimZeros frac := fun hmem => by
      simpa using Decimal.allDigits_trimZeros hf '.' hmem
    rw [trimFraction, if_pos hpoint, pointed_of_ne_nil hne, List.append_cons, rdropWhile_append,
      hzeros]
    change (if Decimal.trimZeros frac = [] then whole ++ ['.']
      else whole ++ ['.'] ++ Decimal.trimZeros frac).rdropWhile (· == '.') = _
    split_ifs with hnil
    · rw [List.rdropWhile_concat, if_pos (by decide), rdropWhile_of_notMem hw, hnil]
      exact (List.append_nil whole).symm
    · rw [rdropWhile_append, rdropWhile_of_notMem hdots, if_neg hnil, pointed_of_ne_nil hnil,
        ← List.append_cons]

variable (places n : ℕ) (negative : Bool)

lemma notMem_whole_point : '.' ∉ signText negative ++ Nat.toDigits 10 n :=
  notMem_whole n rfl (by decide) negative

theorem exists_expansion_of_withPlaces :
    ∃ t, trimFraction (signText negative ++ withPlaces places n) = signText negative ++ t ∧
      IsExpansion (n / 10 ^ places) t := by
  refine ⟨Nat.toDigits 10 (n / 10 ^ places) ++ pointed (Decimal.trimZeros (lastDigits places n)),
    ?_, _, _, Decimal.allDigits_trimZeros (allDigits_lastDigits places n),
    Decimal.getLast?_trimZeros _, ?_, rfl⟩
  · rw [withPlaces, ← List.append_assoc,
      trimFraction_append (notMem_whole_point _ _) (allDigits_lastDigits places n),
      List.append_assoc]
  · rw [Decimal.fractionValue_trimZeros, whole_add_lastDigits]

lemma takeWhile_pointed {whole frac : List Char} (hw : '.' ∉ whole) :
    (whole ++ pointed frac).takeWhile (· != '.') = whole := by
  have hall : ∀ c ∈ whole, (c != '.') = true := fun c hc =>
    bne_iff_ne.mpr fun heq => hw (heq ▸ hc)
  refine (takeWhile_dropWhile_append hall ?_).1
  cases frac with
  | nil => simp [pointed]
  | cons c cs => simp [pointed]

theorem takeWhile_trimFraction_withPlaces :
    (trimFraction (signText negative ++ withPlaces places n)).takeWhile (· != '.') =
      (signText negative ++ withPlaces places n).takeWhile (· != '.') := by
  have hw := notMem_whole_point (n / 10 ^ places) negative
  rw [withPlaces, ← List.append_assoc, trimFraction_append hw (allDigits_lastDigits places n),
    takeWhile_pointed hw, takeWhile_pointed hw]

end Trimming

section Exponents

open Numeral

lemma splitOnce_append {mark : Char} {front back : List Char} (h : mark ∉ front) :
    splitOnce mark (front ++ mark :: back) = some (front, back) := by
  have hall : ∀ c ∈ front, (c != mark) = true := fun c hc =>
    bne_iff_ne.mpr fun heq => h (heq ▸ hc)
  obtain ⟨htake, hdrop⟩ := @takeWhile_dropWhile_append _ _ (mark :: back) hall (by simp)
  rw [splitOnce, if_pos (by simp), htake, hdrop]
  rfl

variable {x : ℤ}

/-- An exponent with no more than it needs, without its mark. -/
def exponentDigits (x : ℤ) : List Char :=
  if x < 0 then '-' :: Nat.toDigits 10 x.natAbs else Nat.toDigits 10 x.natAbs

lemma plainExponent_eq (x : ℤ) : NumberStyle.plainExponent x = 'e' :: exponentDigits x := rfl

lemma sign_exponentDigits (x : ℤ) :
    sign (exponentDigits x) = (decide (x < 0), Nat.toDigits 10 x.natAbs) := by
  unfold exponentDigits
  split_ifs with hneg
  · rw [decide_eq_true hneg]
    rfl
  · obtain ⟨c, cs, hcs⟩ := List.exists_cons_of_ne_nil (@Nat.toDigits_ne_nil x.natAbs 10)
    have hc : c.isDigit = true := allDigits_toDigits x.natAbs c (by simp [hcs])
    rw [decide_eq_false hneg, hcs, sign_of_isDigit hc]

lemma signed_natAbs (x : ℤ) : (if x < 0 then -(x.natAbs : ℤ) else x.natAbs) = x := by
  split_ifs <;> omega

lemma isDigits_toDigits (n : ℕ) :
    (!(Nat.toDigits 10 n).isEmpty && (Nat.toDigits 10 n).all Char.isDigit) = true := by
  have hall : (Nat.toDigits 10 n).all Char.isDigit = true :=
    List.all_eq_true.mpr (allDigits_toDigits n)
  simp [hall, Nat.toDigits_ne_nil]

lemma exponent?_of_sign {rest ds : List Char} (hsign : sign rest = (decide (x < 0), ds))
    (hne : ds ≠ []) (hdigits : AllDigits ds) (hvalue : digitsValue ds = x.natAbs) :
    exponent? ('e' :: rest) = some x := by
  have hmark : (('e' == 'e' || 'e' == 'E') && !ds.isEmpty && ds.all Char.isDigit) = true := by
    rw [List.all_eq_true.mpr hdigits, List.isEmpty_eq_false_iff.mpr hne]
    rfl
  rw [exponent?, hsign]
  simp only [hmark, if_true, hvalue, decide_eq_true_eq, signed_natAbs]

lemma exponent?_plainExponent (x : ℤ) : exponent? (NumberStyle.plainExponent x) = some x :=
  exponent?_of_sign (sign_exponentDigits x) Nat.toDigits_ne_nil (allDigits_toDigits _)
    (digitsValue_toDigits _)

lemma int32?_exponentDigits (hlow : -2 ^ 31 ≤ x) (hhigh : x < 2 ^ 31) :
    int32? (exponentDigits x) = some x := by
  rw [int32?, sign_exponentDigits]
  simp only [isDigits_toDigits, digitsValue_toDigits, decide_eq_true_eq, signed_natAbs, hlow, hhigh,
    decide_true, Bool.and_true, if_true]

end Exponents

end LineCalculator
