import LineCalculator.Grammar
import LineCalculator.Proofs.Number.Bits
import LineCalculator.Proofs.Scan.Segmentation

/-!
# Number literals

Every text that a scan takes for a number is a numeral: digits without a sign, at most one point
and no exponent. So a number item is never malformed, and its value has no sign.
-/
namespace LineCalculator

namespace Numeral

lemma sign_of_isDigit {c : Char} (h : c.isDigit = true) (cs : List Char) :
    sign (c :: cs) = (false, c :: cs) := by
  unfold sign
  split
  · simp_all
  · simp_all
  · rfl

lemma word_ne_of_isDigit {c d : Char} (h : c.isDigit = true) (hd : d.isDigit = false)
    (cs ds : List Char) : String.ofList ((c :: cs).map Char.toLower) ≠ String.ofList (d :: ds) := by
  intro heq
  have hhead : c.toLower = d := (List.cons.inj (String.ofList_injective heq)).1
  have hrange := toNat_of_isDigit h
  have hlower : c.toLower = c := by
    unfold Char.toLower
    rw [dif_neg]
    rintro ⟨hupper, -⟩
    have hle : 65 ≤ c.toNat := hupper
    omega
  rw [← hhead, hlower, h] at hd
  contradiction

lemma read?_of_sign {text : String} {negative : Bool} {c : Char} {cs : List Char}
    (hsign : sign text.toList = (negative, c :: cs)) (h : c.isDigit = true) :
    read? text = decimal? negative (c :: cs) := by
  have hnan : String.ofList ((c :: cs).map Char.toLower) ≠ "nan" :=
    word_ne_of_isDigit h (d := 'n') rfl cs ['a', 'n']
  have hinf : String.ofList ((c :: cs).map Char.toLower) ≠ "inf" :=
    word_ne_of_isDigit h (d := 'i') rfl cs ['n', 'f']
  have hinfinity : String.ofList ((c :: cs).map Char.toLower) ≠ "infinity" :=
    word_ne_of_isDigit h (d := 'i') rfl cs "nfinity".toList
  simp only [read?, hsign, hnan, hinf, hinfinity, decide_false, Bool.or_false, Bool.false_eq_true,
    if_false]

lemma read?_of_isDigit {c : Char} (h : c.isDigit = true) (cs : List Char) :
    read? (String.ofList (c :: cs)) = decimal? false (c :: cs) :=
  read?_of_sign (by rw [String.toList_ofList, sign_of_isDigit h]) h

lemma decimal?_whole {whole : List Char} (hne : whole ≠ [])
    (hw : ∀ c ∈ whole, c.isDigit = true) :
    decimal? false whole = some (decimal false (digitsValue whole) 0) := by
  obtain ⟨htake, hdrop⟩ := @takeWhile_dropWhile_append _ _ [] hw (by simp)
  rw [List.append_nil] at htake hdrop
  simp [decimal?, htake, hdrop, fraction, exponent?, hne]

lemma decimal?_fraction {whole fraction : List Char} (hne : whole ≠ [])
    (hw : ∀ c ∈ whole, c.isDigit = true) (hf : ∀ c ∈ fraction, c.isDigit = true) :
    decimal? false (whole ++ '.' :: fraction) =
      some (decimal false (digitsValue (whole ++ fraction)) (-fraction.length)) := by
  obtain ⟨htake, hdrop⟩ := @takeWhile_dropWhile_append _ _ ('.' :: fraction) hw (by simp)
  obtain ⟨htake', hdrop'⟩ := @takeWhile_dropWhile_append _ _ [] hf (by simp)
  rw [List.append_nil] at htake' hdrop'
  simp [decimal?, htake, hdrop, Numeral.fraction, htake', hdrop', exponent?, hne]

lemma read?_whole {whole : List Char} (hne : whole ≠ []) (hw : ∀ c ∈ whole, c.isDigit = true) :
    read? (String.ofList whole) = some (decimal false (digitsValue whole) 0) := by
  rw [← decimal?_whole hne hw]
  obtain ⟨c, rest, rfl⟩ := List.exists_cons_of_ne_nil hne
  exact read?_of_isDigit (hw c List.mem_cons_self) rest

lemma read?_fraction {whole fraction : List Char} (hne : whole ≠ [])
    (hw : ∀ c ∈ whole, c.isDigit = true) (hf : ∀ c ∈ fraction, c.isDigit = true) :
    read? (String.ofList (whole ++ '.' :: fraction)) =
      some (decimal false (digitsValue (whole ++ fraction)) (-fraction.length)) := by
  rw [← decimal?_fraction hne hw hf]
  obtain ⟨c, rest, rfl⟩ := List.exists_cons_of_ne_nil hne
  exact read?_of_isDigit (hw c List.mem_cons_self) _

theorem exists_of_isNumberText {cs : List Char} (h : IsNumberText cs) :
    ∃ coefficient place, read? (String.ofList cs) = some (decimal false coefficient place) := by
  obtain ⟨whole, hne, hw, hcs⟩ := h
  rcases hcs with rfl | ⟨fraction, hf, rfl⟩
  · exact ⟨_, _, read?_whole hne hw⟩
  · exact ⟨_, _, read?_fraction hne hw hf⟩

end Numeral

theorem Item.number_of_isNumberText {i : Item} (h : IsNumberText i.lexeme.toList) :
    (∃ v, i.number = .ok v ∧ Binary64.isFinite v = true ∧ Binary64.isNegative v = false) ∨
      i.number = .error (.numberOutOfRange i.lexeme i.span) := by
  obtain ⟨coefficient, place, hread⟩ := Numeral.exists_of_isNumberText h
  rw [String.ofList_toList] at hread
  unfold number
  rw [hread]
  dsimp only
  split
  · rename_i hok
    refine .inl ⟨_, rfl, (Bool.and_eq_true_iff.mp hok).1, ?_⟩
    exact Binary64.isNegative_ofRank (Numeral.rankOf_le coefficient place)
  · exact .inr rfl

end LineCalculator
