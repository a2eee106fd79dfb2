import LineCalculator.Proofs.Grammar.Reading
import LineCalculator.Proofs.Number.Display
import LineCalculator.Proofs.Number.Reading
import LineCalculator.Proofs.Session.Outcome
import Mathlib

/-!
# Results typed again

A result written in place is a number literal, and a line with nothing else comes to the value of
that literal. It need not be the value that was shown: it is the one nearest to the six digits. But
it is so near to them that it shows the same six digits, also where they are a power of ten and the
value lies just below it.
-/
namespace LineCalculator
open Binary64 Numeral

section Literals
variable {line : String}

lemma segments_of_isNumberText {cs : List Char} (h : IsNumberText cs) :
    segments cs = [.token .number cs] := by
  have hmunch : MaximalMunch cs [.token .number cs] :=
    maximalMunch_cons_iff.mpr ⟨[], (List.append_nil cs).symm, h, by simp, maximalMunch_nil⟩
  exact hmunch.eq_segments.symm

def literalItem (line : String) : Item := ⟨.number, line, ⟨0, line.utf8ByteSize - 1⟩⟩

lemma scan_of_isNumberText (h : IsNumberText line.toList) :
    scan line = ⟨[literalItem line, Item.closing line], []⟩ := by
  simp [scan, segments_of_isNumberText h, Placed.item?, Placed.unknown?, Placed.finish,
    Segment.text, literalItem]

lemma lineOutcome_of_isNumberText {w : Float} (h : IsNumberText line.toList)
    (hvalue : (literalItem line).number = .ok w) (env : Environment) :
    lineOutcome env line = (.ok w, env) := by
  have hparse : parse [literalItem line, Item.closing line] =
      .ok ⟨.number w, [Item.closing line]⟩ := by
    rw [Grammar.parse_eq_ok_iff_reads]
    refine .chain (.chain (.number rfl hvalue) (.stop ?_)) (.stop ?_)
    · simp [Grammar.Level.joins, Token.isMultiplicative]
    · simp [Grammar.Level.joins, Token.isAdditive]
  rw [lineOutcome, scan_of_isNumberText h, hparse]
  rfl

end Literals

section Expansions
variable {q : ℚ} {t : List Char}

lemma IsExpansion.literal (h : IsExpansion q t) : IsNumberText t ∧ literalValue t = q := by
  obtain ⟨n, frac, hfrac, -, rfl, rfl⟩ := h
  have hn := allDigits_toDigits n
  rcases eq_or_ne frac [] with rfl | hne
  · refine ⟨⟨_, Nat.toDigits_ne_nil, hn, .inl (List.append_nil _)⟩, ?_⟩
    rw [pointed, List.append_nil, literalValue_whole hn, digitsValue_toDigits, fractionValue_nil,
      add_zero]
  · rw [pointed_of_ne_nil hne]
    refine ⟨⟨_, Nat.toDigits_ne_nil, hn, .inr ⟨frac, hfrac, rfl⟩⟩, ?_⟩
    rw [literalValue_fraction hn, digitsValue_toDigits]

end Expansions

section Digits
variable {m : ℕ} {x : ℤ} {t : List Char} {w : Float}

lemma IsResultText.inPlace (h : IsResultText m x t) (hplain : 'e' ∉ t) :
    (-4 ≤ x ∧ x ≤ 5) ∧ IsExpansion (m * 10 ^ (x - 5)) t := by
  unfold IsResultText at h
  split_ifs at h with hplace
  · exact ⟨hplace, h⟩
  · obtain ⟨mantissa, -, rfl⟩ := h
    exact absurd (by simp) hplain

lemma inPlace_bounds (hlow : 10 ^ 5 ≤ m) (hhigh : m < 10 ^ 6) (hplace : -4 ≤ x ∧ x ≤ 5) :
    (2 : ℚ) ^ (-1022 : ℤ) ≤ m * 10 ^ (x - 5) ∧ (m * 10 ^ (x - 5) : ℚ) < 2 ^ 1024 - 2 ^ 970 := by
  have hm : (10 : ℚ) ^ 5 ≤ m := by exact_mod_cast hlow
  have hm' : (m : ℚ) < 10 ^ 6 := by exact_mod_cast hhigh
  constructor
  · calc (2 : ℚ) ^ (-1022 : ℤ) ≤ 2 ^ (-14 : ℤ) := zpow_le_zpow_right₀ one_le_two (by decide)
      _ ≤ 10 ^ 5 * 10 ^ (-9 : ℤ) := by norm_num
      _ ≤ m * 10 ^ (x - 5) :=
        mul_le_mul hm (zpow_le_zpow_right₀ (by norm_num) (by omega)) (by positivity) (by positivity)
  · calc (m * 10 ^ (x - 5) : ℚ) ≤ m * 10 ^ (0 : ℤ) := by gcongr <;> norm_num; omega
      _ < 10 ^ 6 := by rwa [zpow_zero, mul_one]
      _ ≤ 2 ^ 20 := by norm_num
      _ ≤ 2 ^ 970 := pow_le_pow_right₀ one_le_two (by decide)
      _ ≤ 2 ^ 1024 - 2 ^ 970 := pow_le_overflow

lemma display_of_near (hfinite : isFinite w = true) (hsign : isNegative w = false)
    (hlow : 10 ^ 5 ≤ m) (hhigh : m < 10 ^ 6)
    (hnear : |m * 10 ^ (x - 5) - value w| ≤ m * 10 ^ (x - 5) / 2 ^ 52) (ht : IsResultText m x t) :
    (display w).toList = t := by
  have hm : (10 : ℚ) ^ 5 ≤ m := by exact_mod_cast hlow
  have hm' : (m : ℚ) < 10 ^ 6 := by exact_mod_cast hhigh
  have hpos : (0 : ℚ) < 10 ^ (5 - x) := by positivity
  have hunit : (10 : ℚ) ^ (x - 5) * 10 ^ (5 - x) = 1 := by
    rw [← zpow_add₀ (by norm_num), sub_add_sub_cancel, sub_self, zpow_zero]
  have hclose : |value w * 10 ^ (5 - x) - m| < 1 / 20 := calc
    |value w * 10 ^ (5 - x) - m| = |(value w - m * 10 ^ (x - 5)) * 10 ^ (5 - x)| := by
      rw [sub_mul, mul_assoc (m : ℚ), hunit, mul_one]
    _ = |m * 10 ^ (x - 5) - value w| * 10 ^ (5 - x) := by
      rw [abs_mul, abs_sub_comm, abs_of_pos hpos]
    _ ≤ m * 10 ^ (x - 5) / 2 ^ 52 * 10 ^ (5 - x) := mul_le_mul_of_nonneg_right hnear hpos.le
    _ = m / 2 ^ 52 := by rw [div_mul_eq_mul_div, mul_assoc, hunit, mul_one]
    _ < 1 / 20 := by
      rw [div_lt_div_iff₀ (by positivity) (by norm_num)]
      linarith
  have hvalue : 0 < value w := by
    refine pos_of_mul_pos_left ?_ hpos.le
    have := (abs_lt.mp hclose).1
    linarith
  have hrounded : IsRounded 5 |value w| m x := by
    rw [abs_of_pos hvalue]
    exact .of_near hlow hhigh hclose
  obtain ⟨t', hdisplay, ht'⟩ := exists_display hfinite hvalue.ne' hrounded
  rw [hdisplay, hsign, ht'.unique ht]
  rfl

end Digits

section Values
variable {line : String}

lemma IsExpansion.exists_number {q : ℚ} (h : IsExpansion q line.toList) (hrange : ¬ OutOfRange q) :
    ∃ r, IsRankOf q r ∧ (literalItem line).number = .ok (ofRank false r) := by
  obtain ⟨htext, hliteral⟩ := h.literal
  obtain ⟨r, hrank, -, -, hin⟩ := Item.exists_rank_number (i := literalItem line) htext
  change IsRankOf (literalValue line.toList) r at hrank
  change ¬ OutOfRange (literalValue line.toList) → _ at hin
  rw [hliteral] at hrank hin
  exact ⟨r, hrank, hin hrange⟩

lemma exists_number_of_digits {m : ℕ} {x : ℤ} (hlow : 10 ^ 5 ≤ m) (hhigh : m < 10 ^ 6)
    (ht : IsResultText m x line.toList) (hplain : 'e' ∉ line.toList) :
    IsNumberText line.toList ∧ ∃ w, (literalItem line).number = .ok w ∧ display w = line := by
  obtain ⟨hplace, hexpansion⟩ := ht.inPlace hplain
  obtain ⟨hsmall, hlarge⟩ := inPlace_bounds hlow hhigh hplace
  have hrange : ¬ OutOfRange (m * 10 ^ (x - 5)) := by
    rintro (hover | ⟨-, hunder⟩)
    · exact hover.not_gt hlarge
    · have hpow : (2 : ℚ) ^ (-1075 : ℤ) < 2 ^ (-1022 : ℤ) :=
        zpow_lt_zpow_right₀ one_lt_two (by decide)
      exact (hunder.trans_lt hpow).not_ge hsmall
  obtain ⟨r, hrank, hvalue⟩ := hexpansion.exists_number hrange
  refine ⟨hexpansion.literal.1, ofRank false r, hvalue, String.toList_injective ?_⟩
  exact display_of_near (value_ofRank (hrank.lt_infinityRank hlarge)).1 (isNegative_ofRank hrank.le)
    hlow hhigh (hrank.abs_sub_value_le hsmall hlarge) ht

lemma exists_number_of_zero (h : line.toList = ['0']) :
    IsNumberText line.toList ∧ ∃ w, (literalItem line).number = .ok w ∧ display w = line := by
  have hexpansion : IsExpansion 0 line.toList := ⟨0, [], allDigits_nil, by simp, by simp, h⟩
  have hrange : ¬ OutOfRange 0 := by
    rintro (hover | ⟨hpos, -⟩)
    · exact hover.not_gt (zero_lt_one.trans one_lt_overflow)
    · exact hpos.false
  obtain ⟨r, hrank, hvalue⟩ := hexpansion.exists_number hrange
  obtain rfl : r = 0 := hrank.eq_zero_iff.mpr (by positivity)
  refine ⟨hexpansion.literal.1, ofRank false 0, hvalue, String.toList_injective ?_⟩
  rw [toList_display_zero (rank_ofRank hrank.le), isNegative_ofRank hrank.le, h]
  rfl

end Values

/-- The text of a finite number without a sign is scanned as one number literal if it has no
exponent, and a line of this text comes to a value that has the same text, in every session. The
variables stay as they are. -/
theorem display_retyped {v : Float} (hfinite : isFinite v = true) (hsign : isNegative v = false)
    (hplain : 'e' ∉ (display v).toList) :
    scan (display v) = ⟨[literalItem (display v), Item.closing (display v)], []⟩ ∧
    ∃ w, display w = display v ∧ ∀ s : Session,
      (Session.tryLine (display v) s).value = .ok w ∧
      (Session.tryLine (display v) s).session.env = s.env := by
  have hnumber : IsNumberText (display v).toList ∧
      ∃ w, (literalItem (display v)).number = .ok w ∧ display w = display v := by
    by_cases hzero : value v = 0
    · apply exists_number_of_zero
      rw [toList_display_zero ((value_eq_zero_iff hfinite).mp hzero), hsign]
      rfl
    · obtain ⟨m, x, h⟩ := exists_isRounded hfinite hzero
      obtain ⟨t, hdisplay, ht⟩ := exists_display hfinite hzero h
      rw [hsign] at hdisplay
      obtain rfl : (display v).toList = t := hdisplay
      exact exists_number_of_digits h.lower h.upper ht hplain
  obtain ⟨htext, w, hvalue, hsame⟩ := hnumber
  refine ⟨scan_of_isNumberText htext, w, hsame, fun s => ?_⟩
  rw [Session.tryLine_value, Session.tryLine_env, lineOutcome_of_isNumberText htext hvalue]
  exact ⟨rfl, rfl⟩

/-- The number `99999.97`, which is shown as a power of ten above it. -/
theorem display_retyped_carry :
    display (ofRank false 4681608358822590546) = "100000" ∧
    scan "100000" = ⟨[⟨.number, "100000", ⟨0, 5⟩⟩, ⟨.endOfInput, "", ⟨6, 6⟩⟩], []⟩ ∧
    ∃ w, display w = "100000" ∧ ∀ s : Session,
      (Session.tryLine "100000" s).value = .ok w ∧
      (Session.tryLine "100000" s).session.env = s.env := by
  have hdisplay : display (ofRank false 4681608358822590546) = "100000" := by decide +kernel
  obtain ⟨hscan, hline⟩ := display_retyped (v := ofRank false 4681608358822590546)
    (by decide +kernel) (by decide +kernel) (by rw [hdisplay]; decide)
  rw [hdisplay] at hscan hline
  exact ⟨hdisplay, hscan, hline⟩

end LineCalculator
