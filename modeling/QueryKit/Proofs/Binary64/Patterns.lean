import Mathlib
import QueryKit.Binary64.Basic

set_option autoImplicit false

/-! # Patterns as integers

The bit pattern of a floating-point number, taken for an integer in two's complement, is another number
than the one it stands for, but for positive zero (`value?_eq_pattern_iff`). Patterns grow by `2 ^ 52`
where numbers double, so the two could only meet between `2 ^ 61` and `2 ^ 63`, where numbers are
multiples of the step of patterns and miss them. -/

namespace QueryKit.Binary64

/-- The number that a pattern without sign stands for, if it is below infinity. -/
def unsignedValue (unsigned : Nat) : Rat :=
  let (m, q) := BinaryFormat.double.significand unsigned
  m * (2 : Rat) ^ q

/-- A finite number is that of its pattern with the sign of the highest bit. -/
theorem exists_of_value? {x : Binary64} {v : Rat} (h : x.value? = some v) :
    x.bits.toNat % 2 ^ 63 < 2047 * 2 ^ 52
      ∧ v = if x.bits.toNat < 2 ^ 63 then unsignedValue (x.bits.toNat % 2 ^ 63)
        else -unsignedValue (x.bits.toNat % 2 ^ 63) := by
  have hsign : BinaryFormat.double.signUnit = 2 ^ 63 := rfl
  have hinfinity : BinaryFormat.double.infinityBits = 2047 * 2 ^ 52 := rfl
  have hbits : x.bits.toNat < 2 ^ 64 := x.bits.toNat_lt
  have hhigh : (x.bits.toNat / 2 ^ 63 % 2 = 1) = ¬x.bits.toNat < 2 ^ 63 := by
    rw [eq_iff_iff]
    omega
  unfold value? reading BinaryFormat.read at h
  rw [hsign, hinfinity] at h
  simp only [hhigh] at h
  split at h
  · next hread =>
    split at hread
    · next hfinite =>
      cases hread
      cases h
      refine ⟨hfinite, ?_⟩
      split
      · next hnegative =>
        rw [if_neg (of_decide_eq_true hnegative)]
        rfl
      · next hpositive =>
        rw [if_pos (not_not.1 (mt decide_eq_true hpositive))]
        rfl
    · split at hread <;> cases hread
  · cases h

theorem value?_eq_none_of_isNaN {x : Binary64} (h : x.isNaN = true) : x.value? = none := by
  rw [isNaN] at h
  rw [value?]
  cases hreading : x.reading with
  | nan => rfl
  | infinite negative => rfl
  | finite negative magnitude =>
      rw [hreading] at h
      cases h

/-- A number without places is small against its pattern, or a multiple of the step between numbers. -/
theorem unsignedValue_eq_natCast {u n : Nat} (h : unsignedValue u = n) :
    (u / 2 ^ 52 ≤ 1074 ∧ n < 2 ^ 52 ∧ 2 * n ≤ u)
      ∨ (1075 ≤ u / 2 ^ 52 ∧ n = (2 ^ 52 + u % 2 ^ 52) * 2 ^ (u / 2 ^ 52 - 1075)) := by
  have hunit : BinaryFormat.double.exponentUnit = 2 ^ 52 := rfl
  -- below the exponent of one the significand loses at least half of itself
  have hsmall : ∀ (m : Nat) (q : Int), q ≤ -1 → (m : Rat) * (2 : Rat) ^ q = n → 2 * n ≤ m := by
    intro m q hq hn
    have hpow : (2 : Rat) ^ q ≤ 2 ^ (-1 : Int) := zpow_le_zpow_right₀ (by norm_num) hq
    have hle : (n : Rat) ≤ m * 2 ^ (-1 : Int) := by
      rw [← hn]
      exact mul_le_mul_of_nonneg_left hpow (Nat.cast_nonneg m)
    have htwice : (2 * n : Rat) ≤ m := by
      rw [zpow_neg_one] at hle
      linarith
    exact_mod_cast htwice
  rw [unsignedValue, BinaryFormat.significand, hunit] at h
  by_cases hfield : u / 2 ^ 52 = 0
  · rw [if_pos hfield] at h
    have hle := hsmall _ _ (by decide) h
    omega
  · rw [if_neg hfield] at h
    rcases Nat.lt_or_ge (u / 2 ^ 52) 1075 with hlow | hhigh
    · have hle := hsmall _ _ (by simp only [BinaryFormat.double]; omega) h
      omega
    · right
      refine ⟨hhigh, ?_⟩
      have hexponent : BinaryFormat.double.minExponent + (u / 2 ^ 52 - 1 : Nat)
          = ((u / 2 ^ 52 - 1075 : Nat) : Int) := by
        simp only [BinaryFormat.double]
        omega
      simp only [hexponent, zpow_natCast] at h
      exact_mod_cast h.symm

/-- The steps of numbers and of patterns do not meet. -/
theorem pattern_ne_step {e f : Nat} (he : e + 1075 < 2047) (hf : f < 2 ^ 52) :
    (2 ^ 52 + f) * 2 ^ e ≠ (e + 1075) * 2 ^ 52 + f
      ∧ (2 ^ 52 + f) * 2 ^ e + ((e + 1075) * 2 ^ 52 + f) ≠ 2 ^ 63 := by
  rcases Nat.lt_or_ge e 11 with hlow | hhigh
  · interval_cases e <;> omega
  · have hlarge : 2 ^ 52 * 2 ^ 11 ≤ (2 ^ 52 + f) * 2 ^ e :=
      Nat.mul_le_mul (Nat.le_add_right _ _) (Nat.pow_le_pow_right (by decide) hhigh)
    omega

/-- A number other than zero is not its pattern without the sign, nor what is left to that of the sign. -/
theorem unsignedValue_ne_pattern {u n : Nat} (hu : u < 2047 * 2 ^ 52) (h : unsignedValue u = n) :
    (n = u → u = 0) ∧ n + u ≠ 2 ^ 63 := by
  rcases unsignedValue_eq_natCast h with ⟨hlow, hlt, hle⟩ | ⟨hhigh, heq⟩
  · omega
  · have hstep := pattern_ne_step (e := u / 2 ^ 52 - 1075) (f := u % 2 ^ 52) (by omega)
      (Nat.mod_lt _ (by decide))
    rw [← heq] at hstep
    omega

theorem toInt_pattern (bits : UInt64) :
    bits.toInt64.toInt = if bits.toNat < 2 ^ 63 then (bits.toNat : Int) else bits.toNat - 2 ^ 64 := by
  rw [Int64.toInt, UInt64.toBitVec_toInt64, BitVec.toInt_eq_toNat_cond, UInt64.toNat_toBitVec]
  split <;> split <;> omega

/-- **Only positive zero is its own pattern.** -/
theorem value?_eq_pattern_iff {x : Binary64} :
    x.value? = some (x.bits.toInt64.toInt : Rat) ↔ x = zero := by
  constructor
  · intro h
    have hbits : x.bits.toNat < 2 ^ 64 := x.bits.toNat_lt
    obtain ⟨hfinite, hvalue⟩ := exists_of_value? h
    rw [toInt_pattern] at hvalue
    have hzero : x.bits.toNat = 0 := by
      split at hvalue
      · next hpositive =>
        have hn : unsignedValue (x.bits.toNat % 2 ^ 63) = (x.bits.toNat : Nat) := by
          rw [← hvalue, Int.cast_natCast]
        have hne := unsignedValue_ne_pattern hfinite hn
        omega
      · next hnegative =>
        have hn : unsignedValue (x.bits.toNat % 2 ^ 63) = ((2 ^ 64 - x.bits.toNat : Nat) : Rat) := by
          rw [← neg_eq_iff_eq_neg.2 hvalue, Nat.cast_sub hbits.le]
          push_cast
          ring
        have hne := unsignedValue_ne_pattern hfinite hn
        omega
    cases x
    exact congrArg Binary64.mk (UInt64.toNat_inj.1 hzero)
  · rintro rfl
    decide +kernel

end QueryKit.Binary64
