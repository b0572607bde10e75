import OpticScene.Binary64.Arithmetic
import OpticScene.Proofs.FiniteFloat

/-!
# The total order on doubles

Doubles that are compared as numbers are not all comparable: zero and minus zero are equal, and what
is not a number is neither above nor below anything.  The keys of doubles put all of them in a line.
They extend the order of the numbers, infinities included, and they tell any two doubles apart.

## Main definitions

* `Binary64.IsDouble` — the parts are those of a double.
* `Binary64.partsKey` — the key of a double by its parts.
* `Binary64.Unpacks` — the parts that the bits of a double stand for.
* `Binary64.Precedes` — one double comes before another.

## Main results

* `Binary64.orderKey_eq_partsKey` — the key of a double is that of its parts.
* `Binary64.orderKey_lt_of_lt` — **the keys grow with the numbers.**
* `Binary64.orderKey_lt_of_isNaN` — what is not a number comes first.
* `Binary64.orderKey_injective` — **no two doubles have the same key.**
* `Binary64.eq_or_precedes_of_not_precedes` — so the order is total.
-/

namespace OpticScene.Binary64

open Float.Model (Format UnpackedFloat)

/-! ### Parts -/

/-- The parts are those of a double: the mantissa fits, and it has all its digits unless the
exponent is the least one. -/
def IsDouble : UnpackedFloat → Prop
  | .finite _ m e _ => -1074 ≤ e ∧ e ≤ 971 ∧ m < 2 ^ 53 ∧ (2 ^ 52 ≤ m ∨ e = -1074)
  | _ => True

/-- The key of a magnitude with a sign. -/
def signedKey : UnpackedFloat.Sign → Nat → Int
  | .positive, n => n
  | .negative, n => -1 - n

/-- The key of the parts of a double. -/
def partsKey : UnpackedFloat → Int
  | .notANumber => -2 ^ 63
  | .infinity s => signedKey s (2047 * 2 ^ 52)
  | .zero s => signedKey s 0
  | .finite s m e _ => signedKey s ((e + 1074).toNat * 2 ^ 52 + m)

/-- Magnitudes are ordered by the exponent first, and then by the mantissa. -/
theorem magnitude_lt {m m' : Nat} {e e' : Int} (he : -1074 ≤ e) (hm : m < 2 ^ 53)
    (hm' : 2 ^ 52 ≤ m' ∨ e' = -1074) (h : (compare e e').then (compare m m') = .lt) :
    (e + 1074).toNat * 2 ^ 52 + m < (e' + 1074).toNat * 2 ^ 52 + m' := by
  rcases Ordering.then_eq_lt.mp h with h | ⟨heq, h⟩
  · have hlt : e < e' := Int.compare_eq_lt.mp h
    omega
  · have heq : e = e' := Int.compare_eq_eq.mp heq
    have hlt : m < m' := Nat.compare_eq_lt.mp h
    omega

/-- Finite magnitudes lie between that of zero and that of infinity. -/
theorem IsDouble.magnitude_bounds {s : UnpackedFloat.Sign} {m : Nat} {e : Int} {hm : 0 < m}
    (h : IsDouble (.finite s m e hm)) :
    0 < (e + 1074).toNat * 2 ^ 52 + m ∧ (e + 1074).toNat * 2 ^ 52 + m < 2047 * 2 ^ 52 := by
  obtain ⟨hlow, hhigh, hlt, -⟩ := h
  omega

/-- Numbers have larger keys than what is not a number. -/
theorem IsDouble.partsKey_gt {u : UnpackedFloat} (h : IsDouble u) (hu : u ≠ .notANumber) :
    partsKey .notANumber < partsKey u := by
  cases u with
  | notANumber => exact absurd rfl hu
  | infinity s => cases s <;> decide
  | zero s => cases s <;> decide
  | finite s m e hm =>
    have hbounds := h.magnitude_bounds
    cases s
    all_goals
      dsimp only [partsKey, signedKey]
      omega

/-- The keys grow with the finite numbers. -/
theorem partsKey_lt_of_compare_finite {s s' : UnpackedFloat.Sign} {m m' : Nat} {e e' : Int}
    {hm : 0 < m} {hm' : 0 < m'} (hu : IsDouble (.finite s m e hm))
    (hv : IsDouble (.finite s' m' e' hm'))
    (h : (UnpackedFloat.finite s m e hm).compare (.finite s' m' e' hm') = some .lt) :
    partsKey (.finite s m e hm) < partsKey (.finite s' m' e' hm') := by
  obtain ⟨hlow, -, hlt, hfull⟩ := hu
  obtain ⟨hlow', -, hlt', hfull'⟩ := hv
  cases s with
  | positive =>
    cases s' with
    | positive =>
      have hmagnitude := magnitude_lt hlow hlt hfull' (Option.some.inj h)
      dsimp only [partsKey, signedKey]
      omega
    | negative => cases h
  | negative =>
    cases s' with
    | positive =>
      dsimp only [partsKey, signedKey]
      omega
    | negative =>
      -- of two negative numbers, the one with the larger magnitude is the smaller one
      have hswap := Option.some.inj h
      rw [Ordering.swap_then, Int.compare_swap, Nat.compare_swap] at hswap
      have hmagnitude := magnitude_lt hlow' hlt' hfull hswap
      dsimp only [partsKey, signedKey]
      omega

/-- The keys grow with the numbers. -/
theorem partsKey_lt_of_compare {u v : UnpackedFloat} (hu : IsDouble u) (hv : IsDouble v)
    (h : u.compare v = some .lt) : partsKey u < partsKey v := by
  -- but for two finite numbers, the signs tell which parts are below which others
  cases u with
  | notANumber => cases h
  | infinity s =>
    cases v with
    | notANumber => cases s <;> cases h
    | infinity s' =>
      cases s <;> cases s' <;> cases h
      decide
    | zero s' => cases s <;> cases s' <;> cases h <;> decide
    | finite s' m' e' hm' =>
      have hbounds := hv.magnitude_bounds
      cases s <;> cases s' <;> cases h
      all_goals
        dsimp only [partsKey, signedKey]
        omega
  | zero s =>
    cases v with
    | notANumber => cases h
    | infinity s' => cases s <;> cases s' <;> cases h <;> decide
    | zero s' => cases h
    | finite s' m' e' hm' =>
      have hbounds := hv.magnitude_bounds
      cases s <;> cases s' <;> cases h
      all_goals
        dsimp only [partsKey, signedKey]
        omega
  | finite s m e hm =>
    cases v with
    | notANumber => cases s <;> cases h
    | finite s' m' e' hm' => exact partsKey_lt_of_compare_finite hu hv h
    | infinity s' | zero s' =>
      have hbounds := hu.magnitude_bounds
      cases s <;> cases s' <;> cases h
      all_goals
        dsimp only [partsKey, signedKey]
        omega

/-! ### Bits -/

/-- The number that the bits of the mantissa hold. -/
def mantissaBits (b : BitVec 64) : Nat := (@UnpackedFloat.unpackMantissa Format.binary64 b).toNat

/-- The sign that the first bit stands for. -/
def signOf (b : BitVec 64) : UnpackedFloat.Sign :=
  .ofBitVec (@UnpackedFloat.unpackSign Format.binary64 b)

theorem mantissaBits_lt (b : BitVec 64) : mantissaBits b < 2 ^ 52 := BitVec.isLt _

/-- The exponent and the mantissa are all the bits but the first one. -/
theorem magnitude_bits (b : BitVec 64) :
    exponentBits b * 2 ^ 52 + mantissaBits b = b.toNat % 2 ^ 63 := by
  have hexponent : exponentBits b = b.toNat / 2 ^ 52 % 2 ^ 11 := by
    unfold exponentBits UnpackedFloat.unpackExponent
    simp [Nat.shiftRight_eq_div_pow]
  have hmantissa : mantissaBits b = b.toNat % 2 ^ 52 := by
    unfold mantissaBits UnpackedFloat.unpackMantissa
    simp
  omega

/-- The magnitude with the sign is the key of the bits. -/
theorem signedKey_signOf (b : BitVec 64) :
    signedKey (signOf b) (b.toNat % 2 ^ 63) =
      if (b.toNat : Int) < 2 ^ 63 then (b.toNat : Int) else 2 ^ 63 - 1 - b.toNat := by
  have hlt : b.toNat < 2 ^ 64 := b.isLt
  have hsign : (@UnpackedFloat.unpackSign Format.binary64 b).toNat = b.toNat / 2 ^ 63 % 2 := by
    unfold UnpackedFloat.unpackSign
    simp [Nat.shiftRight_eq_div_pow]
  unfold signOf UnpackedFloat.Sign.ofBitVec
  split
  · next hzero =>
    rw [hzero] at hsign
    have hsign : 0 = b.toNat / 2 ^ 63 % 2 := hsign
    rw [if_pos (by omega), signedKey]
    omega
  · next hone =>
    have hsign : 0 ≠ b.toNat / 2 ^ 63 % 2 :=
      fun h0 => hone (BitVec.eq_of_toNat_eq (hsign.trans h0.symm))
    rw [if_neg (by omega), signedKey]
    omega

/-- The parts that the bits of a double stand for. -/
inductive Unpacks (b : BitVec 64) : UnpackedFloat → Prop
  /-- What is not a number has the largest exponent. -/
  | notANumber : exponentBits b = 2047 → mantissaBits b ≠ 0 → Unpacks b .notANumber
  /-- Infinities have the largest exponent, too. -/
  | infinity : exponentBits b = 2047 → mantissaBits b = 0 → Unpacks b (.infinity (signOf b))
  /-- Zero has no bits but its sign. -/
  | zero : exponentBits b = 0 → mantissaBits b = 0 → Unpacks b (.zero (signOf b))
  /-- The mantissas of the smallest numbers have less than all digits. -/
  | subnormal {m : Nat} {e : Int} (hm : 0 < m) : exponentBits b = 0 → m = mantissaBits b →
    e = -1074 → Unpacks b (.finite (signOf b) m e hm)
  /-- The first digit of all other mantissas is left out. -/
  | normal {m : Nat} {e : Int} (hm : 0 < m) : 0 < exponentBits b → exponentBits b < 2047 →
    m = 2 ^ 52 + mantissaBits b → e = exponentBits b - 1075 →
      Unpacks b (.finite (signOf b) m e hm)

theorem unpacks_unpack (b : BitVec 64) : Unpacks b (UnpackedFloat.unpack Format.binary64 b) := by
  have hlt := exponentBits_lt b
  have hmantissa : @UnpackedFloat.unpackMantissa Format.binary64 b = 0#52 ↔ mantissaBits b = 0 :=
    ⟨fun h => congrArg BitVec.toNat h, fun h => BitVec.eq_of_toNat_eq h⟩
  have hones : @UnpackedFloat.unpackExponent Format.binary64 b = -1#11 ↔ exponentBits b = 2047 :=
    ⟨fun h => congrArg BitVec.toNat h, fun h => BitVec.eq_of_toNat_eq h⟩
  have hzero : @UnpackedFloat.unpackExponent Format.binary64 b = 0#11 ↔ exponentBits b = 0 :=
    ⟨fun h => congrArg BitVec.toNat h, fun h => BitVec.eq_of_toNat_eq h⟩
  unfold UnpackedFloat.unpack
  dsimp only
  by_cases he : exponentBits b = 2047
  · rw [if_pos (hones.mpr he)]
    by_cases hm : mantissaBits b = 0
    · rw [if_pos (hmantissa.mpr hm)]
      exact .infinity he hm
    · rw [if_neg fun h => hm (hmantissa.mp h)]
      exact .notANumber he hm
  rw [if_neg fun h => he (hones.mp h)]
  by_cases he0 : exponentBits b = 0
  · rw [if_pos (hzero.mpr he0)]
    by_cases hm : mantissaBits b = 0
    · rw [dif_pos (hmantissa.mpr hm)]
      exact .zero he0 hm
    · rw [dif_neg fun h => hm (hmantissa.mp h)]
      refine .subnormal _ he0 rfl ?_
      change (exponentBits b : Int) - ((1023 : Int) + 52) + 1 = -1074
      omega
  · rw [if_neg fun h => he0 (hzero.mp h)]
    refine .normal _ (by omega) (by omega) ?_ ?_
    · rw [BitVec.toNat_append]
      change 1 <<< 52 ||| mantissaBits b = _
      rw [← Nat.shiftLeft_add_eq_or_of_lt (mantissaBits_lt b)]
      rfl
    · change (exponentBits b : Int) - ((1023 : Int) + 52) = exponentBits b - 1075
      omega

namespace Unpacks

variable {b : BitVec 64} {u : UnpackedFloat}

theorem isDouble (h : Unpacks b u) : IsDouble u := by
  have hlt := mantissaBits_lt b
  cases h with
  | subnormal hm he hmantissa hexponent =>
    exact ⟨by omega, by omega, by omega, .inr hexponent⟩
  | normal hm he he' hmantissa hexponent =>
    exact ⟨by omega, by omega, by omega, .inl (by omega)⟩
  | _ => trivial

/-- The key of the parts is that of the bits. -/
theorem partsKey_eq (h : Unpacks b u) (hu : u ≠ .notANumber) :
    partsKey u = if (b.toNat : Int) < 2 ^ 63 then (b.toNat : Int) else 2 ^ 63 - 1 - b.toNat := by
  rw [← signedKey_signOf, ← magnitude_bits]
  cases h with
  | notANumber => exact absurd rfl hu
  | infinity he hm => rw [he, hm]; rfl
  | zero he hm => rw [he, hm]; rfl
  | @subnormal m e _ _ hmantissa hexponent | @normal m e _ _ _ hmantissa hexponent =>
    have hmagnitude : (e + 1074).toNat * 2 ^ 52 + m =
        exponentBits b * 2 ^ 52 + mantissaBits b := by
      omega
    exact congrArg (signedKey (signOf b)) hmagnitude

end Unpacks

/-! ### Keys -/

variable {x y : Float}

theorem isNaN_iff : x.isNaN = true ↔ x.toModel.unpack = .notANumber := by
  change UnpackedFloat.isNaN _ = true ↔ _
  cases x.toModel.unpack with
  | notANumber => exact ⟨fun _ => rfl, fun _ => rfl⟩
  | _ => exact ⟨fun h => absurd h Bool.false_ne_true, fun h => nomatch h⟩

/-- **The key of a double is that of its parts.** -/
theorem orderKey_eq_partsKey (x : Float) : orderKey x = partsKey x.toModel.unpack := by
  unfold orderKey
  dsimp only
  split
  · next hnan =>
    rw [isNaN_iff.mp hnan]
    rfl
  · next hnan =>
    exact ((unpacks_unpack x.toBits.toBitVec).partsKey_eq fun h => hnan (isNaN_iff.mpr h)).symm

/-- **The keys grow with the numbers**, from minus infinity to infinity. -/
theorem orderKey_lt_of_lt (h : x < y) : orderKey x < orderKey y := by
  rw [orderKey_eq_partsKey, orderKey_eq_partsKey]
  have hmodel : x.toModel < y.toModel := of_decide_eq_true h
  exact partsKey_lt_of_compare (unpacks_unpack _).isDouble (unpacks_unpack _).isDouble
    (beq_iff_eq.mp hmodel)

/-- What is not a number comes before everything else. -/
theorem orderKey_lt_of_isNaN (hx : x.isNaN = true) (hy : y.isNaN = false) :
    orderKey x < orderKey y := by
  rw [orderKey_eq_partsKey, orderKey_eq_partsKey, isNaN_iff.mp hx]
  refine (unpacks_unpack _).isDouble.partsKey_gt fun h => ?_
  cases (isNaN_iff.mpr h).symm.trans hy

/-- There is only one double that is not a number. -/
theorem toBits_of_isNaN (h : x.isNaN = true) :
    x.toBits.toBitVec = UnpackedFloat.packedNaN Format.binary64 := by
  have hparts : Unpacks x.toBits.toBitVec .notANumber := isNaN_iff.mp h ▸ unpacks_unpack _
  cases hparts with
  | notANumber he hm =>
    exact x.toModel.valid.eq_packedNaN (BitVec.eq_of_toNat_eq he)
      fun h0 => hm (congrArg BitVec.toNat h0)

theorem eq_of_toBits_eq (h : x.toBits.toBitVec = y.toBits.toBitVec) : x = y := by
  obtain ⟨⟨⟨a⟩, ha⟩⟩ := x
  obtain ⟨⟨⟨b⟩, hb⟩⟩ := y
  cases h
  rfl

/-- **No two doubles have the same key.** -/
theorem orderKey_injective (h : orderKey x = orderKey y) : x = y := by
  refine eq_of_toBits_eq ?_
  cases hx : x.isNaN with
  | true =>
    cases hy : y.isNaN with
    | true => rw [toBits_of_isNaN hx, toBits_of_isNaN hy]
    | false => exact absurd h (Int.ne_of_lt (orderKey_lt_of_isNaN hx hy))
  | false =>
    cases hy : y.isNaN with
    | true => exact absurd h.symm (Int.ne_of_lt (orderKey_lt_of_isNaN hy hx))
    | false =>
      -- keys from zero on are the bits themselves, and those below are the others turned around
      have hbits := BitVec.isLt x.toBits.toBitVec
      have hbits' := BitVec.isLt y.toBits.toBitVec
      unfold orderKey at h
      rw [hx, hy, if_neg Bool.false_ne_true, if_neg Bool.false_ne_true] at h
      refine BitVec.eq_of_toNat_eq ?_
      change x.toBits.toNat < _ at hbits
      change y.toBits.toNat < _ at hbits'
      change x.toBits.toNat = y.toBits.toNat
      split at h <;> split at h <;> omega

/-! ### The order -/

/-- One double comes before another in the total order. -/
def Precedes (x y : Float) : Prop := orderKey x < orderKey y

instance : DecidableRel Precedes := fun x y => inferInstanceAs (Decidable (orderKey x < orderKey y))

/-- The total order extends that of the numbers. -/
theorem Precedes.of_lt (h : x < y) : Precedes x y := orderKey_lt_of_lt h

theorem Precedes.asymm (h : Precedes x y) : ¬ Precedes y x := Int.not_lt.mpr (Int.le_of_lt h)

/-- **Of two different doubles, one comes before the other.** -/
theorem eq_or_precedes_of_not_precedes (h : ¬ Precedes y x) : x = y ∨ Precedes x y := by
  rcases Int.lt_or_eq_of_le (Int.not_lt.mp h) with hlt | heq
  · exact .inr hlt
  · exact .inl (orderKey_injective heq)

end OpticScene.Binary64
