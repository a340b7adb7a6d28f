import Formula.Proofs.Characters
import Formula.Proofs.NumberText

/-!
# The labels of numbers tell them apart

The label of a finite number is a literal, too, and has that number as its
value.  It is written in one of three ways:

* with an exponent, which is read as the very decimal that was written;
* as a whole number with `.0` behind it, which is read as ten times as many
  tenths;
* with the point among the digits, as in the plain text.

So finite numbers with the same label are the same number.  An infinity has no
literal as its label, and its sign is written.
-/

namespace Formula.Number

open Literal

/-! ## Fractions with a common factor -/

theorem roundDiv_mul_mul (numerator denominator : Nat) {factor : Nat}
    (positive : 0 < factor) :
    roundDiv (numerator * factor) (denominator * factor) =
      roundDiv numerator denominator := by
  simp only [roundDiv, Nat.mul_div_mul_right _ _ positive,
    Nat.mul_mod_mul_right, ← Nat.mul_assoc, Nat.mul_lt_mul_right positive]

/-- A fraction is rounded alike when it is expanded. -/
theorem nearestCode_mul_mul (numerator denominator : Nat) {factor : Nat}
    (positive : 0 < factor) :
    nearestCode (numerator * factor) (denominator * factor) =
      nearestCode numerator denominator := by
  simp only [nearestCode, -Nat.reducePow]
  rw [Nat.mul_right_comm numerator, Nat.mul_div_mul_right _ _ positive,
    Nat.mul_right_comm denominator, roundDiv_mul_mul _ _ positive]

namespace Decimal

theorem nearestCode_tenths (whole : Nat) :
    nearestCode ⟨whole * 10, -1⟩ = nearestCode ⟨whole, 0⟩ := by
  have tenths : clamp ⟨whole * 10, -1⟩ = -1 := by
    simp only [clamp]
    omega
  have ones : clamp ⟨whole, 0⟩ = 0 := by
    simp only [clamp]
    omega
  have expanded := nearestCode_mul_mul whole 1 (by decide : 0 < 10)
  rw [nearestCode, nearestCode, tenths, ones]
  simpa using expanded

/-! ## The notations of a label -/

theorem exponentValue_signedDigits (exponent : Int) :
    ofUnsigned.exponentValue ('e' :: signedDigits exponent) = exponent := by
  cases exponent with
  | ofNat value =>
      have read := digitsValue_toDigits value
      obtain ⟨digit, rest, split, isDigit⟩ := exists_digit_of_isDigits
        (isDigits_toDigits value) Nat.toDigits_ne_nil
      have noMinus : digit ≠ '-' := by
        intro minus
        simp [minus] at isDigit
      have noPlus : digit ≠ '+' := by
        intro plus
        simp [plus] at isDigit
      rw [split] at read
      simp [signedDigits, split, ofUnsigned.exponentValue, noMinus, noPlus, read]
  | negSucc value =>
      have read := digitsValue_toDigits (value + 1)
      rw [signedDigits, ofUnsigned.exponentValue, read]
      rfl

theorem isExponent_signedDigits (exponent : Int) :
    IsExponent ('e' :: signedDigits exponent) := by
  cases exponent with
  | ofNat value =>
      exact ⟨'e', [], Nat.toDigits 10 value, rfl, .inl rfl, .inl rfl,
        isDigits_toDigits value, Nat.toDigits_ne_nil⟩
  | negSucc value =>
      exact ⟨'e', ['-'], Nat.toDigits 10 (value + 1), rfl, .inl rfl,
        .inr (.inr rfl), isDigits_toDigits (value + 1), Nat.toDigits_ne_nil⟩

/-- Digits with a point behind the first, unless it is the only one. -/
def scientificDigits (digit : Char) (rest : List Char) : List Char :=
  digit :: if rest = [] then [] else '.' :: rest

theorem isMantissa_scientificDigits {digit : Char} {rest : List Char}
    (allDigits : IsDigits (digit :: rest)) :
    IsMantissa (scientificDigits digit rest) := by
  obtain ⟨isDigit, restDigits⟩ := isDigits_cons.mp allDigits
  have firstDigits : IsDigits [digit] := by simp [isDigit]
  unfold scientificDigits
  by_cases single : rest = []
  · rw [if_pos single]
    exact .inl ⟨firstDigits, by simp⟩
  · rw [if_neg single]
    exact .inr ⟨[digit], rest, rfl, firstDigits, restDigits, .inl (by simp)⟩

theorem ofUnsigned_scientific {digit : Char} {rest : List Char}
    (allDigits : IsDigits (digit :: rest)) (exponent : Int) :
    ofUnsigned (scientificDigits digit rest ++ 'e' :: signedDigits exponent) =
      ⟨digitsValue (digit :: rest), exponent - rest.length⟩ := by
  obtain ⟨isDigit, restDigits⟩ := isDigits_cons.mp allDigits
  have firstDigits : IsDigits [digit] := by simp [isDigit]
  unfold scientificDigits
  by_cases single : rest = []
  · have read := ofUnsigned_whole firstDigits ('e' :: signedDigits exponent)
      (by simp)
    rw [exponentValue_signedDigits] at read
    simpa [single] using read
  · have read := ofUnsigned_pointed firstDigits restDigits
      ('e' :: signedDigits exponent) (by simp)
    rw [exponentValue_signedDigits] at read
    simpa [single] using read

/-- The parts of exponent notation. -/
theorem scientific_eq {decimal : Decimal} {digit : Char} {rest : List Char}
    (split : decimal.digits = digit :: rest) :
    decimal.scientific =
      scientificDigits digit rest ++
        'e' :: signedDigits (decimal.exponent + rest.length) := by
  have leading : decimal.leadingExponent = decimal.exponent + rest.length := by
    rw [leadingExponent, split, List.length_cons]
    omega
  rw [scientific, leading, split]
  simp [scientificDigits]

end Decimal

/-! ## Labels read back -/

theorem readsBack_scientific {decimal : Decimal} {code : Nat}
    (nearest : decimal.nearestCode = code) :
    ReadsBack decimal.scientific code := by
  have allDigits := decimal.isDigits_digits
  have value : digitsValue decimal.digits = decimal.coefficient :=
    Decimal.digitsValue_toDigits decimal.coefficient
  obtain ⟨digit, rest, split, isDigit⟩ :=
    Decimal.exists_digit_of_isDigits allDigits Nat.toDigits_ne_nil
  rw [split] at allDigits value
  rw [Decimal.scientific_eq split]
  refine ⟨?_, ⟨digit, _, rfl, isDigit⟩, ?_⟩
  · exact ⟨_, _, rfl, Decimal.isMantissa_scientificDigits allDigits,
      .inr (Decimal.isExponent_signedDigits _)⟩
  · rw [Decimal.ofUnsigned_scientific allDigits, value, Int.add_sub_cancel]
    exact nearest

theorem readsBack_tenths {decimal : Decimal} {code : Nat}
    (finite : code < infinityCode) (whole : 0 ≤ decimal.exponent)
    (nearest : decimal.nearestCode = code) :
    ReadsBack (decimal.positional ++ ['.', '0']) code := by
  have denotes := decimal.denotes_positional
  generalize decimal.positional = text at denotes ⊢
  cases denotes with
  | @whole _ coefficient zeros allDigits nonempty value =>
      have zeroDigits : IsDigits ['0'] := by simp
      obtain ⟨digit, rest, split, isDigit⟩ :=
        Decimal.exists_digit_of_isDigits allDigits nonempty
      refine ⟨?_, ⟨digit, rest ++ ['.', '0'], by rw [split]; rfl, isDigit⟩, ?_⟩
      · exact ⟨text ++ '.' :: ['0'], [], (List.append_nil _).symm,
          .inr ⟨text, ['0'], rfl, allDigits, zeroDigits, .inl nonempty⟩,
          .inl rfl⟩
      · have read := Decimal.ofUnsigned_pointed allDigits zeroDigits [] (by simp)
        have tenths : digitsValue (text ++ ['0']) =
            coefficient * 10 ^ zeros * 10 := by
          rw [← value]
          simp [digitsValue, Nat.ofDigitChars_append, Nat.ofDigitChars_cons,
            Nat.mul_comm]
        rw [List.append_nil, tenths] at read
        calc
          (Decimal.ofUnsigned (text ++ ['.', '0'])).nearestCode
          _ = Decimal.nearestCode ⟨coefficient * 10 ^ zeros * 10, -1⟩ :=
            congrArg Decimal.nearestCode read
          _ = Decimal.nearestCode ⟨coefficient * 10 ^ zeros, 0⟩ :=
            Decimal.nearestCode_tenths _
          _ = Decimal.nearestCode ⟨coefficient, zeros⟩ :=
            Decimal.nearestCode_whole (by rwa [nearest])
          _ = code := nearest
  | @pointed before fraction coefficient beforeDigits nonempty fractionDigits
      fractionNonempty value =>
      have places := List.length_pos_iff.mpr fractionNonempty
      dsimp only at whole
      omega

theorem readsBack_labelled {decimal : Decimal} {code : Nat}
    (finite : code < infinityCode) (nearest : decimal.nearestCode = code) :
    ReadsBack decimal.labelled code := by
  unfold Decimal.labelled
  split
  next => exact readsBack_scientific nearest
  next =>
    split
    next whole => exact readsBack_tenths finite whole nearest
    next => exact readsBack_positional finite nearest

/-- The label of a finite number is a literal with that number as its value. -/
theorem value?_labelText {number : Float} (finite : number.isFinite = true) :
    Literal.value? (labelText number).toList = some number := by
  have bound := (isFinite_iff_code_lt number).mp finite
  exact value?_textBy finite
    (readsBack_labelled bound (nearestCode_shortest bound))

/-! ## Labels of infinities -/

theorem isNegative_eq_of_signText_eq {first second : Float}
    (same : signText first = signText second) :
    isNegative first = isNegative second := by
  unfold signText at same
  cases firstSign : isNegative first <;>
    cases secondSign : isNegative second <;>
      simp [firstSign, secondSign] at same ⊢

theorem toList_labelText_of_infinite {number : Float}
    (infinite : code number = infinityCode) :
    (labelText number).toList = signText number ++ ['i', 'n', 'f'] := by
  rw [labelText, textBy, infinite, if_neg (lt_irrefl _), if_pos rfl,
    String.toList_ofList, signText]

theorem value?_labelText_of_infinite {number : Float}
    (infinite : code number = infinityCode) :
    Literal.value? (labelText number).toList = none := by
  rw [toList_labelText_of_infinite infinite, signText]
  cases isNegative number with
  | true => rfl
  | false => rfl

theorem finite_or_infinite {number : Float} (isNumber : number.isNaN = false) :
    number.isFinite = true ∨ code number = infinityCode := by
  have bound : ¬ infinityCode < code number := by
    rw [← isNaN_iff_lt_code, isNumber]
    exact Bool.false_ne_true
  rw [isFinite_iff_code_lt]
  omega

/-- Numbers with the same label are the same. -/
theorem eq_of_labelText_eq {first second : Float}
    (firstNumber : first.isNaN = false) (secondNumber : second.isNaN = false)
    (same : labelText first = labelText second) : first = second := by
  rcases finite_or_infinite firstNumber with firstFinite | firstInfinite
  · have firstRead := value?_labelText firstFinite
    rw [same] at firstRead
    rcases finite_or_infinite secondNumber with secondFinite | secondInfinite
    · have secondRead := value?_labelText secondFinite
      exact Option.some.inj (firstRead.symm.trans secondRead)
    · rw [value?_labelText_of_infinite secondInfinite] at firstRead
      contradiction
  · rcases finite_or_infinite secondNumber with secondFinite | secondInfinite
    · have secondRead := value?_labelText secondFinite
      rw [← same, value?_labelText_of_infinite firstInfinite] at secondRead
      contradiction
    · have texts := congrArg String.toList same
      rw [toList_labelText_of_infinite firstInfinite,
        toList_labelText_of_infinite secondInfinite,
        List.append_cancel_right_eq] at texts
      rw [← ofCode_code first, ← ofCode_code second, firstInfinite,
        secondInfinite, isNegative_eq_of_signText_eq texts]

/-- A label is written on one line. -/
theorem newline_notMem_labelText (number : Float) :
    '\n' ∉ (labelText number).toList := by
  by_cases finite : number.isFinite = true
  · intro member
    have accepted := Literal.accepting_of_value? (value?_labelText finite)
    have notBlank := Literal.isBlank_eq_false_of_accepting accepted '\n' member
    contradiction
  · by_cases infinite : code number = infinityCode
    · rw [toList_labelText_of_infinite infinite, signText]
      cases isNegative number <;> simp
    · have beyond : infinityCode < code number := by
        rw [isFinite_iff_code_lt] at finite
        omega
      rw [labelText, textBy, if_pos beyond]
      decide

end Formula.Number
