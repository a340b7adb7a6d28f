import Formula.Number
import Mathlib

/-!
# Codes of floats

A number can be rebuilt from its sign and its code, since taking valid bits apart
and putting them together again gives the same bits.  That much is known of the
floats in the library, though in no smaller part of it than the whole.  The
exponent bits of a number then tell whether it is finite and its mantissa bits
whether it is a number at all, and both can be read off its code.

The second half is about rounding.  A fraction that is exactly a float is rounded
to the code of that float, and a fraction beyond the last binade to infinity.
-/

namespace Formula.Number

open Float.Model Float.Model.UnpackedFloat

-- The powers are those of the definitions.
attribute [local instance (high)] instPowNat

/-! ## Numbers and their codes -/

/-- A number is rebuilt from its sign and its code. -/
@[simp]
theorem ofCode_code (number : Float) :
    ofCode (isNegative number) (code number) = number := by
  have bound := number.toBits.toNat_lt
  have joined :
      (if isNegative number then 2 ^ (63 : Nat) + code number
        else code number) = number.toBits.toNat := by
    simp only [isNegative, code, decide_eq_true_eq]
    split <;> omega
  rw [ofCode, joined, UInt64.ofNat_toNat, Float.ofBits_toBits]

theorem exponent_allOnes_iff (bits : UInt64) :
    @unpackExponent .binary64 bits.toBitVec = -1#11 ↔
      bits.toNat / 2 ^ 52 % 2 ^ 11 = 2047 := by
  have value :
      (@unpackExponent .binary64 bits.toBitVec).toNat =
        bits.toNat / 2 ^ 52 % 2 ^ 11 := by
    simp [unpackExponent, Nat.shiftRight_eq_div_pow]
  have last : (-1#11).toNat = 2047 := rfl
  rw [← BitVec.toNat_inj, value, last]

theorem mantissa_zero_iff (bits : UInt64) :
    @unpackMantissa .binary64 bits.toBitVec = 0#52 ↔
      bits.toNat % 2 ^ 52 = 0 := by
  have value :
      (@unpackMantissa .binary64 bits.toBitVec).toNat =
        bits.toNat % 2 ^ 52 := by
    simp [unpackMantissa]
  have zero : (0#52).toNat = 0 := rfl
  rw [← BitVec.toNat_inj, value, zero]

theorem isFinite_iff_exponent {bits : UInt64}
    (valid : Format.binary64.Valid bits.toBitVec) :
    Float.isFinite ⟨⟨bits, valid⟩⟩ = true ↔
      @unpackExponent .binary64 bits.toBitVec ≠ -1#11 := by
  simp only [Float.isFinite, Float.Model.isFinite, Float.Model.unpack,
    UnpackedFloat.unpack]
  split
  next allOnes =>
    refine iff_of_false ?_ (fun other => other allOnes)
    split <;> simp [UnpackedFloat.isFinite]
  next notAllOnes =>
    refine iff_of_true ?_ notAllOnes
    split
    next => split <;> rfl
    next => rfl

/-- The finite numbers are those with a code below that of infinity. -/
theorem isFinite_iff_code_lt (number : Float) :
    number.isFinite = true ↔ code number < infinityCode := by
  obtain ⟨bits, valid⟩ := number
  have codeEq : code ⟨⟨bits, valid⟩⟩ = bits.toNat % 2 ^ 63 := rfl
  rw [isFinite_iff_exponent, ne_eq, exponent_allOnes_iff, codeEq, infinityCode]
  omega

theorem isNaN_iff_parts {bits : UInt64}
    (valid : Format.binary64.Valid bits.toBitVec) :
    Float.isNaN ⟨⟨bits, valid⟩⟩ = true ↔
      @unpackExponent .binary64 bits.toBitVec = -1#11 ∧
        @unpackMantissa .binary64 bits.toBitVec ≠ 0#52 := by
  have packed : Float.isNaN ⟨⟨bits, valid⟩⟩ = true ↔
      bits.toBitVec = packedNaN .binary64 :=
    isNaN_unpack_iff_of_valid valid
  rw [packed]
  constructor
  · intro same
    rw [same]
    exact of_decide_eq_true isNaNBits_packedNaN
  · rintro ⟨allOnes, mantissa⟩
    exact valid.eq_packedNaN allOnes mantissa

/-- The codes beyond that of infinity are no numbers. -/
theorem isNaN_iff_lt_code (number : Float) :
    number.isNaN = true ↔ infinityCode < code number := by
  obtain ⟨bits, valid⟩ := number
  have codeEq : code ⟨⟨bits, valid⟩⟩ = bits.toNat % 2 ^ 63 := rfl
  rw [isNaN_iff_parts, ne_eq, exponent_allOnes_iff, mantissa_zero_iff, codeEq,
    infinityCode]
  omega

/-! ## Rounding to a float -/

theorem log2_mul_two_pow {value : Nat} (nonzero : value ≠ 0) (shift : Nat) :
    (value * 2 ^ shift).log2 = value.log2 + shift := by
  have bounds := (Nat.log2_eq_iff nonzero).mp rfl
  have positive := Nat.two_pow_pos shift
  rw [Nat.log2_eq_iff (Nat.mul_ne_zero nonzero positive.ne')]
  constructor
  · rw [Nat.pow_add]
    exact Nat.mul_le_mul_right _ bounds.1
  · rw [Nat.add_right_comm, Nat.pow_add]
    exact Nat.mul_lt_mul_of_pos_right bounds.2 positive

theorem excessBits_of_lt {magnitude : Nat} (small : magnitude < 2 ^ 52) :
    excessBits magnitude = 0 := by
  by_cases zero : magnitude = 0
  · subst magnitude
    simp [excessBits]
  · have length := (Nat.log2_lt zero).mpr small
    unfold excessBits
    omega

theorem excessBits_shifted {significand : Nat} (shift : Nat)
    (lower : 2 ^ 52 ≤ significand) (upper : significand < 2 ^ 53) :
    excessBits (significand * 2 ^ shift) = shift := by
  have nonzero : significand ≠ 0 := by omega
  have length : significand.log2 = 52 :=
    (Nat.log2_eq_iff nonzero).mpr ⟨lower, upper⟩
  rw [excessBits, log2_mul_two_pow nonzero, length, Nat.add_sub_cancel_left]

/-- The units of a code without their excess bits are what the code has beyond
the binades before its own. -/
theorem exists_significand (code : Nat) :
    ∃ significand,
      units code = significand * 2 ^ excessBits (units code) ∧
      code = excessBits (units code) * 2 ^ 52 + significand := by
  unfold units
  split
  next firstBinade =>
    have excess : excessBits code = 0 := excessBits_of_lt (by omega)
    refine ⟨code, ?_, ?_⟩
    · rw [excess, Nat.pow_zero, Nat.mul_one]
    · rw [excess, Nat.zero_mul, Nat.zero_add]
  next laterBinade =>
    have excess :=
      @excessBits_shifted (2 ^ 52 + code % 2 ^ 52) (code / 2 ^ 52 - 1)
        (by omega) (by omega)
    refine ⟨2 ^ 52 + code % 2 ^ 52, ?_, ?_⟩
    · rw [excess]
    · rw [excess]
      omega

/-- A fraction that is the magnitude of a finite code is rounded to that
code. -/
theorem nearestCode_of_units {code numerator denominator : Nat}
    (finite : code < infinityCode) (positive : 0 < denominator)
    (exactly : numerator * 2 ^ (1074 : Nat) = units code * denominator) :
    nearestCode numerator denominator = code := by
  obtain ⟨significand, unitsEq, codeEq⟩ := exists_significand code
  simp only [nearestCode, -Nat.reducePow]
  -- Only `exactly` is needed of the scaled numerator, not its digits.
  generalize numerator * 2 ^ (1074 : Nat) = scaled at exactly ⊢
  have quotient : scaled / denominator = units code := by
    rw [exactly, Nat.mul_div_cancel _ positive]
  have factored :
      scaled = significand * (denominator * 2 ^ excessBits (units code)) := by
    calc
      scaled = units code * denominator := exactly
      _ = significand * 2 ^ excessBits (units code) * denominator := by
        rw [← unitsEq]
      _ = significand * (denominator * 2 ^ excessBits (units code)) := by
        rw [Nat.mul_assoc, Nat.mul_comm denominator]
  have rounded :
      roundDiv scaled (denominator * 2 ^ excessBits (units code)) =
        significand := by
    rw [factored]
    exact roundDiv_mul_right significand
      (Nat.mul_pos positive (Nat.two_pow_pos _))
  rw [quotient, rounded, ← codeEq]
  exact Nat.min_eq_right finite.le

theorem nearestCode_zero {denominator : Nat} (positive : 0 < denominator) :
    nearestCode 0 denominator = 0 := by
  have noUnits : units 0 = 0 := by decide
  apply nearestCode_of_units (by decide) positive
  generalize 2 ^ (1074 : Nat) = scale
  rw [noUnits, Nat.zero_mul, Nat.zero_mul]

/-- A whole number beyond the last binade is rounded to infinity. -/
theorem infinityCode_le_nearestCode {magnitude : Nat}
    (large : 1025 ≤ magnitude.log2) :
    infinityCode ≤ nearestCode magnitude 1 := by
  have nonzero : magnitude ≠ 0 := by
    rintro rfl
    simp at large
  have binade :
      infinityCode ≤
        excessBits (magnitude * 2 ^ (1074 : Nat)) * 2 ^ (52 : Nat) := by
    rw [excessBits, log2_mul_two_pow nonzero 1074]
    exact Nat.mul_le_mul_right _ (by omega)
  simp only [nearestCode, Nat.div_one, -Nat.reducePow]
  exact Nat.le_min.mpr ⟨le_rfl, binade.trans (Nat.le_add_right _ _)⟩

end Formula.Number
