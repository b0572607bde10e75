import OpticScene.Json.Basic

/-!
# Finite doubles

A double is finite unless its exponent is the one of infinities.  A change of sign keeps the
exponent, and the double nearest to a number below `2 ^ 1023` has a smaller one.

## Main definitions

* `Binary64.FitsExponent` — an exponent fits into the bits of a finite double.

## Main results

* `Binary64.isFinite_unpack_iff` — **a double is finite unless its exponent is the largest one.**
* `Binary64.isFinite_ofBits`, `Binary64.isFinite_neg` — finite doubles by their bits.
* `Binary64.isFinite_nearest` — **the double nearest to a number that is not too large is finite.**
* `isFinite_floatOfInt` — so are the integers of 64 bits.
-/

namespace OpticScene

namespace Binary64

open Float.Model (Format UnpackedFloat)

/-! ### Exponents -/

/-- The number that the bits of the exponent hold. -/
def exponentBits (b : BitVec 64) : Nat := (@UnpackedFloat.unpackExponent Format.binary64 b).toNat

theorem exponentBits_lt (b : BitVec 64) : exponentBits b < 2048 := BitVec.isLt _

theorem exponentBits_packComponents (sign : UnpackedFloat.Sign) (e : BitVec 11) (m : BitVec 52) :
    exponentBits (UnpackedFloat.packComponents Format.binary64 sign e m) = e.toNat := by
  unfold exponentBits
  rw [UnpackedFloat.unpackExponent_packComponents]

/-- The exponent fits into the bits of a finite double. -/
def FitsExponent : UnpackedFloat → Prop
  | .zero _ => True
  | .finite _ _ e _ => (e + 1075).toNat < 2047
  | _ => False

theorem FitsExponent.isFinite {u : UnpackedFloat} (h : FitsExponent u) : u.isFinite = true := by
  cases u with
  | infinity => cases h
  | notANumber => cases h
  | _ => rfl

theorem fitsExponent_unpack {b : BitVec 64} (h : exponentBits b ≠ 2047) :
    FitsExponent (UnpackedFloat.unpack Format.binary64 b) := by
  have hlt := exponentBits_lt b
  have hbias : (Format.binary64.exponentBias : Int) = 1023 := rfl
  have hne : @UnpackedFloat.unpackExponent Format.binary64 b ≠ -1#11 :=
    fun he => h (congrArg BitVec.toNat he)
  unfold exponentBits at h hlt
  unfold UnpackedFloat.unpack
  dsimp only
  rw [if_neg hne]
  -- numbers with the exponent zero are counted as if they had the exponent one
  by_cases hzero : @UnpackedFloat.unpackExponent Format.binary64 b = 0#11
  · rw [if_pos hzero]
    by_cases hmantissa : @UnpackedFloat.unpackMantissa Format.binary64 b = 0#52
    · rw [dif_pos hmantissa]
      trivial
    · rw [dif_neg hmantissa]
      have hzero : (@UnpackedFloat.unpackExponent Format.binary64 b).toNat = 0 :=
        congrArg BitVec.toNat hzero
      change (_ + (1075 : Int)).toNat < 2047
      omega
  · rw [if_neg hzero]
    change (_ + (1075 : Int)).toNat < 2047
    omega

/-- **A double is finite unless its exponent is the largest one.** -/
theorem isFinite_unpack_iff {b : BitVec 64} :
    (UnpackedFloat.unpack Format.binary64 b).isFinite = true ↔ exponentBits b ≠ 2047 := by
  refine ⟨fun h hb => ?_, fun h => (fitsExponent_unpack h).isFinite⟩
  have hones : @UnpackedFloat.unpackExponent Format.binary64 b = -1#11 := BitVec.eq_of_toNat_eq hb
  unfold UnpackedFloat.unpack at h
  dsimp only at h
  rw [if_pos hones] at h
  by_cases hmantissa : @UnpackedFloat.unpackMantissa Format.binary64 b = 0#52
  · rw [if_pos hmantissa] at h
    cases h
  · rw [if_neg hmantissa] at h
    cases h

/-- **What fits into the bits comes back from them as a finite double.** -/
theorem isFinite_unpack_pack {u : UnpackedFloat} (h : FitsExponent u) :
    (UnpackedFloat.unpack Format.binary64 (UnpackedFloat.pack Format.binary64 u)).isFinite =
      true := by
  have hcomponents : ∀ (sign : UnpackedFloat.Sign) (e : BitVec 11) (m : BitVec 52),
      e.toNat ≠ 2047 → (UnpackedFloat.unpack Format.binary64
        (UnpackedFloat.packComponents Format.binary64 sign e m)).isFinite = true := by
    intro sign e m he
    rwa [isFinite_unpack_iff, exponentBits_packComponents]
  cases u with
  | infinity => cases h
  | notANumber => cases h
  | zero sign => exact hcomponents sign 0 0 (by decide)
  | finite sign m e hm =>
    have hlt : (e + 1075).toNat < 2047 := h
    have hbias : (Format.binary64.exponentBias : Int) = 1023 := rfl
    have hroom : ¬ 2 ^ Format.binary64.exponentBits ≤
        (e + (Format.binary64.exponentBias : Int) + (52 : Nat)).toNat + 1 := by
      change ¬ 2 ^ 11 ≤ _
      omega
    unfold UnpackedFloat.pack
    dsimp only
    rw [if_neg hroom]
    -- numbers with fewer digits than the mantissa holds have the exponent zero
    split
    · refine hcomponents _ _ _ ?_
      rw [BitVec.toNat_ofNat]
      omega
    · exact hcomponents _ _ _ (by decide)

theorem isFinite_neg {x : Float} (h : x.isFinite = true) : (-x).isFinite = true := by
  refine isFinite_unpack_pack ?_
  have hfits : FitsExponent x.toModel.unpack := fitsExponent_unpack (isFinite_unpack_iff.mp h)
  unfold UnpackedFloat.neg
  revert hfits
  cases x.toModel.unpack <;> exact id

theorem isFinite_ofBits {b : UInt64} (h : b.toNat / 2 ^ 52 % 2 ^ 11 ≠ 2047) :
    (Float.ofBits b).isFinite = true := by
  refine isFinite_unpack_pack (fitsExponent_unpack ?_)
  unfold exponentBits UnpackedFloat.unpackExponent
  simpa [Nat.shiftRight_eq_div_pow] using h

/-! ### Nearest doubles -/

theorem isFinite_assemble {m : Nat} {e : Int} (hm : m ≤ 2 ^ 53) (he : e ≤ 970) :
    (assemble m e).isFinite = true := by
  refine isFinite_ofBits ?_
  generalize hk : (e + 1074).toNat = k
  have hk : k ≤ 2044 := by omega
  have hmin : min (k * 2 ^ 52 + m) (0x7FF * 2 ^ 52) = k * 2 ^ 52 + m := by omega
  rw [hmin, UInt64.toNat_ofNat']
  omega

theorem lt_two_pow_bitLength (n : Nat) : n < 2 ^ bitLength n := by
  unfold bitLength
  split
  · omega
  · exact Nat.lt_log2_self

theorem bitLength_le {n k : Nat} (h : n < 2 ^ k) : bitLength n ≤ k := by
  unfold bitLength
  split
  · exact Nat.zero_le k
  · next hn => exact (Nat.log2_lt hn).mpr h

theorem roundDiv_le (n d : Nat) : roundDiv n d ≤ n / d + 1 := by
  unfold roundDiv
  dsimp only
  split
  · omega
  · split <;> omega

/-- **The double nearest to a number that is not too large is finite.** -/
theorem isFinite_nearest {n : Nat} {e : Int} (h : (bitLength n : Int) + e ≤ 1023) :
    (nearest n e).isFinite = true := by
  unfold nearest
  split
  · decide
  generalize hleast : max ((bitLength n : Int) + e - 53) (-1074) = least
  have hlarge := lt_two_pow_bitLength n
  dsimp only
  -- either way the mantissa has at most as many digits as a double holds
  split
  · refine isFinite_assemble ?_ (by omega)
    have hdigits : bitLength n + (e - least).toNat ≤ 53 := by omega
    calc n * 2 ^ (e - least).toNat
      _ ≤ 2 ^ bitLength n * 2 ^ (e - least).toNat := Nat.mul_le_mul_right _ (Nat.le_of_lt hlarge)
      _ = 2 ^ (bitLength n + (e - least).toNat) := (Nat.pow_add ..).symm
      _ ≤ 2 ^ 53 := Nat.pow_le_pow_right (by decide) hdigits
  · refine isFinite_assemble ?_ (by omega)
    have hdigits : bitLength n ≤ 53 + (least - e).toNat := by omega
    have hlt : n < 2 ^ 53 * 2 ^ (least - e).toNat := by
      rw [← Nat.pow_add]
      exact Nat.lt_of_lt_of_le hlarge (Nat.pow_le_pow_right (by decide) hdigits)
    have hquotient : n / 2 ^ (least - e).toNat < 2 ^ 53 :=
      Nat.div_lt_of_lt_mul (by rwa [Nat.mul_comm])
    exact Nat.le_trans (roundDiv_le _ _) hquotient

end Binary64

/-- The integers of 64 bits are finite doubles. -/
theorem isFinite_floatOfInt {n : Int} (h : n.natAbs ≤ 2 ^ 64) : (floatOfInt n).isFinite = true := by
  have hlength : Binary64.bitLength n.natAbs ≤ 65 := Binary64.bitLength_le (by omega)
  have hnearest : (Binary64.nearest n.natAbs 0).isFinite = true :=
    Binary64.isFinite_nearest (by omega)
  unfold floatOfInt Binary64.withSign
  split
  · exact Binary64.isFinite_neg hnearest
  · exact hnearest

end OpticScene
