import LineCalculator.Number.Numeral
import Mathlib

/-!
# Patterns of ranks

The pattern of a value is its rank with the sign in front. Making a value from a pattern takes the
pattern apart into its fields and puts them together again, which changes nothing unless the
pattern stands for no number. So a rank and a sign are those of the value made from them, and
negation changes the sign alone.
-/
namespace LineCalculator.Binary64
open Float.Model
open Float.Model.UnpackedFloat

lemma toBitVec_ofBitVec (b : BitVec 1) : (Sign.ofBitVec b).toBitVec = b := by
  revert b
  decide

lemma toNat_append {m n : Nat} (x : BitVec m) (y : BitVec n) :
    (x ++ y).toNat = x.toNat * 2 ^ n + y.toNat := by
  rw [BitVec.toNat_append, ← Nat.shiftLeft_add_eq_or_of_lt y.isLt, Nat.shiftLeft_eq]

lemma toNat_packComponents (s : Sign) (e : BitVec 11) (m : BitVec 52) :
    (packComponents Format.binary64 s e m).toNat =
      (s.toBitVec.toNat * 2 ^ 11 + e.toNat) * 2 ^ 52 + m.toNat := by
  unfold packComponents
  rw [toNat_append, toNat_append]

lemma toNat_unpackSign (b : BitVec 64) :
    (@unpackSign Format.binary64 b).toNat = b.toNat / 2 ^ 63 := by
  have hb := b.isLt
  simp [unpackSign, Nat.shiftRight_eq_div_pow]
  omega

lemma toNat_unpackExponent (b : BitVec 64) :
    (@unpackExponent Format.binary64 b).toNat = b.toNat / 2 ^ 52 % 2 ^ 11 := by
  simp [unpackExponent, Nat.shiftRight_eq_div_pow]

lemma toNat_unpackMantissa (b : BitVec 64) :
    (@unpackMantissa Format.binary64 b).toNat = b.toNat % 2 ^ 52 := by
  simp [unpackMantissa]

lemma packComponents_unpack (b : BitVec 64) :
    packComponents Format.binary64 (Sign.ofBitVec (@unpackSign Format.binary64 b))
      (@unpackExponent Format.binary64 b) (@unpackMantissa Format.binary64 b)
      = b := by
  apply BitVec.eq_of_toNat_eq
  rw [toNat_packComponents, toBitVec_ofBitVec, toNat_unpackSign, toNat_unpackExponent,
    toNat_unpackMantissa]
  omega

lemma pack_subnormal (s : Sign) (m : BitVec 52) (e : Int) (he : e = -1074) (hpos : 0 < m.toNat) :
    UnpackedFloat.pack Format.binary64 (.finite s m.toNat e hpos) =
      packComponents Format.binary64 s 0#11 m := by
  have hlog : m.toNat.log2 < 52 := (Nat.log2_lt (by omega)).mpr m.isLt
  have hbiased : (e + (Format.binary64.exponentBias : Int) + (52 : Nat)).toNat = 1 := by
    rw [he]
    decide
  have hbits : ¬ m.toNat.log2 + 1 = Format.binary64.mantissaBits := by
    change ¬ m.toNat.log2 + 1 = 53
    omega
  simp only [UnpackedFloat.pack]
  rw [hbiased, if_neg (by decide), if_neg hbits, BitVec.ofNat_toNat, BitVec.setWidth_eq]

lemma pack_normal (s : Sign) (x : BitVec 11) (m : BitVec 52) (e : Int) (n : Nat)
    (hx : x.toNat < 2047) (he : e = x.toNat - 1075) (hn : n = 2 ^ 52 + m.toNat) (hpos : 0 < n) :
    UnpackedFloat.pack Format.binary64 (.finite s n e hpos) =
      packComponents Format.binary64 s x m := by
  have hm := m.isLt
  have hbias : (Format.binary64.exponentBias : Int) = 1023 := rfl
  have hbiased : (e + (Format.binary64.exponentBias : Int) + (52 : Nat)).toNat = x.toNat := by
    rw [hbias]
    omega
  have hlog : n.log2 = 52 := (Nat.log2_eq_iff (by omega)).mpr ⟨by omega, by omega⟩
  have hbits : n.log2 + 1 = Format.binary64.mantissaBits := by rw [hlog]; rfl
  have hmant : BitVec.ofNat 52 n = m := by
    apply BitVec.eq_of_toNat_eq
    rw [BitVec.toNat_ofNat]
    omega
  have hfits : ¬ 2 ^ Format.binary64.exponentBits ≤ x.toNat + 1 := by
    change ¬ 2 ^ 11 ≤ x.toNat + 1
    omega
  simp only [UnpackedFloat.pack]
  rw [hbiased, if_neg hfits, if_pos hbits, hmant, BitVec.ofNat_toNat, BitVec.setWidth_eq]

/-- What the fields of a number come apart into: each of the cases says which fields it is for. -/
inductive IsUnpacked (s : Sign) (x : BitVec 11) (m : BitVec 52) : UnpackedFloat → Prop
  | infinity (hx : x = -1#11) (hm : m = 0#52) : IsUnpacked s x m (.infinity s)
  | zero (hx : x = 0#11) (hm : m = 0#52) : IsUnpacked s x m (.zero s)
  | subnormal (hx : x = 0#11) (hpos : 0 < m.toNat) :
      IsUnpacked s x m (.finite s m.toNat (-1074) hpos)
  | normal {n : ℕ} (hx : 0 < x.toNat) (hlt : x.toNat < 2047) (hn : n = 2 ^ 52 + m.toNat)
      (hpos : 0 < n) : IsUnpacked s x m (.finite s n (x.toNat - 1075) hpos)

lemma isUnpacked_unpack (b : BitVec 64) (h : b.toNat % 2 ^ 63 ≤ 2047 * 2 ^ 52) :
    IsUnpacked (Sign.ofBitVec (@unpackSign Format.binary64 b)) (@unpackExponent Format.binary64 b)
      (@unpackMantissa Format.binary64 b) (UnpackedFloat.unpack Format.binary64 b) := by
  have he := toNat_unpackExponent b
  have hm := toNat_unpackMantissa b
  simp only [UnpackedFloat.unpack]
  split
  · rename_i hones
    have hexponent : (@unpackExponent Format.binary64 b).toNat = 2047 := by rw [hones]; rfl
    have hzero : @unpackMantissa Format.binary64 b = 0#52 := by
      apply BitVec.eq_of_toNat_eq
      rw [hm]
      change _ = 0
      omega
    rw [if_pos hzero]
    exact .infinity hones hzero
  · rename_i hones
    split
    · rename_i hexponent
      split
      · rename_i hzero
        exact .zero hexponent hzero
      · rename_i hzero
        have hpos : 0 < (@unpackMantissa Format.binary64 b).toNat :=
          Nat.pos_of_ne_zero fun hnone => hzero (BitVec.eq_of_toNat_eq hnone)
        rw [hexponent]
        exact .subnormal rfl hpos
    · rename_i hexponent
      have hpos : 0 < (@unpackExponent Format.binary64 b).toNat :=
        Nat.pos_of_ne_zero fun hnone => hexponent (BitVec.eq_of_toNat_eq hnone)
      have hlt : (@unpackExponent Format.binary64 b).toNat < 2047 := by
        by_contra hge
        apply hones
        apply BitVec.eq_of_toNat_eq
        change _ = 2047
        omega
      exact .normal hpos hlt (toNat_append 1#1 _) _

namespace IsUnpacked

variable {s : Sign} {x : BitVec 11} {m : BitVec 52} {u : UnpackedFloat}

lemma pack (h : IsUnpacked s x m u) :
    UnpackedFloat.pack Format.binary64 u = packComponents Format.binary64 s x m := by
  cases h with
  | infinity hx hm =>
    rw [hx, hm]
    rfl
  | zero hx hm =>
    rw [hx, hm]
    rfl
  | subnormal hx hpos => rw [hx, pack_subnormal s m _ rfl hpos]
  | normal hx hlt hn hpos => exact pack_normal s x m _ _ hlt rfl hn hpos

lemma neg (h : IsUnpacked s x m u) : IsUnpacked (-s) x m u.neg := by
  cases h with
  | infinity hx hm => exact .infinity hx hm
  | zero hx hm => exact .zero hx hm
  | subnormal hx hpos => exact .subnormal hx hpos
  | normal hx hlt hn hpos => exact .normal hx hlt hn hpos

end IsUnpacked

lemma pack_unpack (b : BitVec 64) (h : b.toNat % 2 ^ 63 ≤ 2047 * 2 ^ 52) :
    UnpackedFloat.pack Format.binary64 (UnpackedFloat.unpack Format.binary64 b) = b :=
  (isUnpacked_unpack b h).pack.trans (packComponents_unpack b)

theorem toBits_ofBits {b : UInt64} (h : b.toNat % 2 ^ 63 ≤ 2047 * 2 ^ 52) :
    (Float.ofBits b).toBits = b := by
  have hpack := pack_unpack b.toBitVec h
  exact congrArg UInt64.ofBitVec hpack

lemma infinityRank_eq : infinityRank = 2047 * 2 ^ 52 := rfl

theorem toNat_toBits_ofRank {negative : Bool} {r : Nat} (h : r ≤ infinityRank) :
    (ofRank negative r).toBits.toNat = if negative then 2 ^ 63 + r else r := by
  rw [infinityRank_eq] at h
  have hbits : (UInt64.ofNat (if negative then signBit + r else r)).toNat =
      if negative then 2 ^ 63 + r else r := by
    rw [UInt64.toNat_ofNat']
    change (if negative then 2 ^ 63 + r else r) % 2 ^ 64 = _
    split <;> omega
  rw [ofRank, toBits_ofBits, hbits]
  rw [hbits]
  split <;> omega

@[simp] lemma rank_ofRank {negative : Bool} {r : Nat} (h : r ≤ infinityRank) :
    rank (ofRank negative r) = r := by
  rw [rank, toNat_toBits_ofRank h]
  rw [infinityRank_eq] at h
  change (if negative then 2 ^ 63 + r else r) % 2 ^ 63 = r
  split <;> omega

@[simp] lemma isNegative_ofRank {negative : Bool} {r : Nat} (h : r ≤ infinityRank) :
    isNegative (ofRank negative r) = negative := by
  rw [isNegative, toNat_toBits_ofRank h]
  rw [infinityRank_eq] at h
  change decide (2 ^ 63 ≤ if negative then 2 ^ 63 + r else r) = negative
  cases negative with
  | true => simp
  | false =>
    rw [if_neg Bool.false_ne_true]
    exact decide_eq_false (by omega)

lemma toNat_toBitVec_neg (s : Sign) : (-s).toBitVec.toNat = 1 - s.toBitVec.toNat := by
  cases s <;> rfl

section Negation
variable {v : Float} (h : rank v ≤ infinityRank)

include h

theorem toNat_toBits_neg :
    (-v).toBits.toNat = if isNegative v then rank v else 2 ^ 63 + rank v := by
  have hpack := (isUnpacked_unpack v.toBits.toBitVec h).neg.pack
  have hbits : (-v).toBits.toBitVec = UnpackedFloat.pack Format.binary64
    (UnpackedFloat.unpack Format.binary64 v.toBits.toBitVec).neg := rfl
  have hnegative : isNegative v = true ↔ 2 ^ 63 ≤ v.toBits.toNat := decide_eq_true_iff
  have hrank : rank v = v.toBits.toNat % 2 ^ 63 := rfl
  have hlt : v.toBits.toNat < 2 ^ 64 := v.toBits.toBitVec.isLt
  change (-v).toBits.toBitVec.toNat = _
  rw [hbits, hpack, toNat_packComponents, toNat_toBitVec_neg, toBitVec_ofBitVec, toNat_unpackSign,
    toNat_unpackExponent, toNat_unpackMantissa]
  change ((1 - v.toBits.toNat / 2 ^ 63) * 2 ^ 11 + v.toBits.toNat / 2 ^ 52 % 2 ^ 11) * 2 ^ 52 +
    v.toBits.toNat % 2 ^ 52 = _
  split_ifs with hneg
  · have := hnegative.mp hneg
    omega
  · have := mt hnegative.mpr hneg
    omega

lemma rank_neg : rank (-v) = rank v := by
  rw [rank, toNat_toBits_neg h]
  rw [infinityRank_eq] at h
  change (if isNegative v then rank v else 2 ^ 63 + rank v) % 2 ^ 63 = rank v
  split <;> omega

lemma isNegative_neg : isNegative (-v) = !isNegative v := by
  rw [isNegative, toNat_toBits_neg h]
  rw [infinityRank_eq] at h
  change decide (2 ^ 63 ≤ if isNegative v then rank v else 2 ^ 63 + rank v) = !isNegative v
  cases isNegative v with
  | true =>
    rw [if_pos rfl]
    exact decide_eq_false (by omega)
  | false => simp

end Negation

lemma nearestRank_le (num den : Nat) : nearestRank num den ≤ infinityRank := Nat.min_le_left _ _

end LineCalculator.Binary64

namespace LineCalculator.Numeral

lemma rankOf_le (coefficient : Nat) (place : Int) :
    rankOf coefficient place ≤ Binary64.infinityRank := by
  unfold rankOf
  dsimp only
  split
  · exact Nat.zero_le _
  split
  · exact Nat.le_refl _
  split
  · exact Nat.zero_le _
  · exact Binary64.nearestRank_le _ _

end LineCalculator.Numeral
