import Formula.Literal
import Formula.Proofs.FloatCodes
import Formula.Proofs.LiteralLanguage
import Mathlib.Data.List.TakeWhile

/-!
# The plain text of a number reads back

The plain text of a finite number is a literal, and the value of that literal is
the number itself, bit for bit.  There are three parts to this:

* the exact decimal of a code reads back, and with it the shortest one;
* positional notation is digits, or digits around a point, and denotes a decimal
  of the same magnitude;
* the sign and the code make the number.

The exponent of a decimal matters only below a bound.  A decimal that reads back
as a finite code is below it, since beyond it all are nearest to infinity.
-/

namespace Formula.Number

open Literal

-- The powers are those of the definitions.
attribute [local instance (high)] instPowNat

/-! ## Decimals that read back -/

theorem five_pow_mul_two_pow (exponent : Nat) :
    5 ^ exponent * 2 ^ exponent = 10 ^ exponent := by
  rw [← Nat.mul_pow]

theorem nearestCode_exactDecimal {code : Nat} (finite : code < infinityCode) :
    (exactDecimal code).nearestCode = code := by
  have clamped : (exactDecimal code).clamp = -1074 := by
    simp only [Decimal.clamp, exactDecimal]
    omega
  have noZeros : (-1074 : Int).toNat = 0 := rfl
  have places : (-(-1074 : Int)).toNat = 1074 := rfl
  rw [Decimal.nearestCode, clamped, noZeros, places]
  apply nearestCode_of_units finite (Nat.pow_pos (by decide))
  rw [exactDecimal, Nat.pow_zero, Nat.mul_one, Nat.mul_assoc,
    five_pow_mul_two_pow 1074]

/-- The shortest decimal of a finite code is read as that code. -/
theorem nearestCode_shortest {code : Nat} (finite : code < infinityCode) :
    (shortest code).nearestCode = code := by
  unfold shortest
  split
  next zero =>
    subst code
    exact nearestCode_zero (Nat.pow_pos (by decide))
  next nonzero =>
    cases found : (List.range' 1 17).findSome? (readingBack? · code) with
    | none => exact nearestCode_exactDecimal finite
    | some decimal =>
        obtain ⟨digits, -, readsBack⟩ := List.exists_of_findSome?_eq_some found
        have same := List.find?_some readsBack
        exact beq_iff_eq.mp same

namespace Decimal

/-- Every zero behind the digits adds at least three bits. -/
theorem three_mul_le_log2 {coefficient : Nat} (nonzero : coefficient ≠ 0)
    (zeros : Nat) : 3 * zeros ≤ (coefficient * 10 ^ zeros).log2 := by
  have positive : 0 < 10 ^ zeros := Nat.pow_pos (by decide)
  rw [Nat.le_log2 (Nat.mul_ne_zero nonzero positive.ne')]
  calc
    2 ^ (3 * zeros) = 8 ^ zeros := Nat.pow_mul 2 3 zeros
    _ ≤ 10 ^ zeros := Nat.pow_le_pow_left (by decide) zeros
    _ ≤ coefficient * 10 ^ zeros :=
      Nat.le_mul_of_pos_left _ (Nat.pos_of_ne_zero nonzero)

/-- A positive decimal with an exponent beyond the clamp is nearest to
infinity. -/
theorem infinityCode_le_nearestCode_of_lt {coefficient zeros : Nat}
    (nonzero : coefficient ≠ 0) (beyond : 400 < zeros) :
    infinityCode ≤ nearestCode ⟨coefficient, zeros⟩ := by
  -- The bound stays a variable, or its powers would be computed.
  obtain ⟨kept, enough, clamped⟩ :
      ∃ kept : Nat, 400 ≤ kept ∧ clamp ⟨coefficient, zeros⟩ = kept := by
    refine ⟨400, le_rfl, ?_⟩
    simp only [clamp]
    omega
  have length := three_mul_le_log2 nonzero kept
  rw [nearestCode, clamped, Int.toNat_natCast, Int.toNat_neg_natCast,
    Nat.pow_zero]
  apply infinityCode_le_nearestCode
  dsimp only
  omega

/-- Zeros that are written out count as much as in the exponent. -/
theorem nearestCode_whole {coefficient zeros : Nat}
    (finite : nearestCode ⟨coefficient, zeros⟩ < infinityCode) :
    nearestCode ⟨coefficient * 10 ^ zeros, 0⟩ =
      nearestCode ⟨coefficient, zeros⟩ := by
  have clampedWhole : clamp ⟨coefficient * 10 ^ zeros, 0⟩ = 0 := by
    simp only [clamp]
    omega
  by_cases nonzero : coefficient = 0
  · subst coefficient
    simp only [nearestCode, Nat.zero_mul]
    rw [nearestCode_zero (Nat.pow_pos (by decide)),
      nearestCode_zero (Nat.pow_pos (by decide))]
  · have bounded : zeros ≤ 400 := by
      by_contra beyond
      have infinite :=
        infinityCode_le_nearestCode_of_lt nonzero (Nat.lt_of_not_le beyond)
      omega
    have clamped : clamp ⟨coefficient, zeros⟩ = zeros := by
      simp only [clamp]
      omega
    rw [nearestCode, nearestCode, clampedWhole, clamped]
    simp

end Decimal

/-! ## Positional notation -/

namespace Decimal

theorem takeWhile_isDigit {digits rest : List Char}
    (allDigits : IsDigits digits)
    (ends : ∀ character ∈ rest.head?, character.isDigit = false) :
    (digits ++ rest).takeWhile Char.isDigit = digits := by
  rw [List.takeWhile_append_of_pos allDigits]
  cases rest with
  | nil => simp
  | cons character rest => simp [ends character (by simp)]

theorem dropWhile_isDigit {digits rest : List Char}
    (allDigits : IsDigits digits)
    (ends : ∀ character ∈ rest.head?, character.isDigit = false) :
    (digits ++ rest).dropWhile Char.isDigit = rest := by
  rw [List.dropWhile_append_of_pos allDigits]
  cases rest with
  | nil => rfl
  | cons character rest => simp [ends character (by simp)]

/-- Digits with an exponent behind them, or with nothing. -/
theorem ofUnsigned_whole {whole : List Char} (digits : IsDigits whole)
    (exponent : List Char)
    (ends : ∀ character ∈ exponent.head?,
      character.isDigit = false ∧ character ≠ '.') :
    ofUnsigned (whole ++ exponent) =
      ⟨digitsValue whole, ofUnsigned.exponentValue exponent⟩ := by
  have noDigit : ∀ character ∈ exponent.head?, character.isDigit = false :=
    fun character first => (ends character first).1
  have noPoint : exponent.head? ≠ some '.' :=
    fun point => (ends '.' point).2 rfl
  simp [ofUnsigned, takeWhile_isDigit digits noDigit,
    dropWhile_isDigit digits noDigit, noPoint]

/-- Digits around a point with an exponent behind them, or with nothing. -/
theorem ofUnsigned_pointed {whole fraction : List Char}
    (wholeDigits : IsDigits whole) (fractionDigits : IsDigits fraction)
    (exponent : List Char)
    (ends : ∀ character ∈ exponent.head?, character.isDigit = false) :
    ofUnsigned (whole ++ '.' :: (fraction ++ exponent)) =
      ⟨digitsValue (whole ++ fraction),
        ofUnsigned.exponentValue exponent - fraction.length⟩ := by
  have pointEnds : ∀ character ∈ ('.' :: (fraction ++ exponent)).head?,
      character.isDigit = false := by
    simp
  simp [ofUnsigned, takeWhile_isDigit wholeDigits pointEnds,
    dropWhile_isDigit wholeDigits pointEnds,
    takeWhile_isDigit fractionDigits ends,
    dropWhile_isDigit fractionDigits ends]

theorem isDigits_toDigits (value : Nat) : IsDigits (Nat.toDigits 10 value) := by
  intro character member
  exact Nat.isDigit_of_mem_toDigits (by decide) (by decide) member

theorem digitsValue_toDigits (value : Nat) :
    digitsValue (Nat.toDigits 10 value) = value :=
  Nat.ofDigitChars_ten_toDigits

theorem exists_digit_of_isDigits {digits : List Char}
    (allDigits : IsDigits digits) (nonempty : digits ≠ []) :
    ∃ digit rest, digits = digit :: rest ∧ digit.isDigit = true := by
  obtain ⟨digit, rest, rfl⟩ := List.exists_cons_of_ne_nil nonempty
  exact ⟨digit, rest, rfl, (isDigits_cons.mp allDigits).1⟩

theorem isDigits_digits (decimal : Decimal) : IsDigits decimal.digits :=
  isDigits_toDigits decimal.coefficient

theorem isDigits_zeros (count : Nat) : IsDigits (List.replicate count '0') := by
  intro character member
  rw [List.eq_of_mem_replicate member]
  rfl

/-- `Denotes text decimal` means that the text is a decimal in positional
notation: all its digits when it is whole, and else the digits with a point
among them. -/
inductive Denotes : List Char → Decimal → Prop
  | whole {digits : List Char} {coefficient zeros : Nat} :
      IsDigits digits → digits ≠ [] →
      digitsValue digits = coefficient * 10 ^ zeros →
      Denotes digits ⟨coefficient, zeros⟩
  | pointed {whole fraction : List Char} {coefficient : Nat} :
      IsDigits whole → whole ≠ [] → IsDigits fraction → fraction ≠ [] →
      digitsValue (whole ++ fraction) = coefficient →
      Denotes (whole ++ '.' :: fraction) ⟨coefficient, -(fraction.length : Int)⟩

theorem denotes_whole (decimal : Decimal) {zeros : Nat}
    (exponent : decimal.exponent = zeros) :
    Denotes (decimal.digits ++ List.replicate zeros '0') decimal := by
  have nonempty : decimal.digits ≠ [] := Nat.toDigits_ne_nil
  obtain ⟨coefficient, _⟩ := decimal
  dsimp only at exponent
  subst exponent
  apply Denotes.whole
  · rw [isDigits_append]
    exact ⟨isDigits_digits _, isDigits_zeros zeros⟩
  · simp [nonempty]
  · simp [digitsValue, Nat.ofDigitChars_append, digits, Nat.mul_comm]

/-- Digits with enough zeros before them are split by the point. -/
theorem denotes_pointed {decimal : Decimal} {padded : List Char} {places : Nat}
    (allDigits : IsDigits padded)
    (value : digitsValue padded = decimal.coefficient)
    (enough : places < padded.length) (positive : 0 < places)
    (exponent : decimal.exponent = -(places : Int)) :
    Denotes
      (padded.take (padded.length - places) ++
        '.' :: padded.drop (padded.length - places))
      decimal := by
  obtain ⟨whole, fraction, rfl, length⟩ :
      ∃ whole fraction, padded = whole ++ fraction ∧ fraction.length = places :=
    ⟨padded.take (padded.length - places), padded.drop (padded.length - places),
      by rw [List.take_append_drop], by rw [List.length_drop]; omega⟩
  obtain ⟨coefficient, _⟩ := decimal
  dsimp only at exponent value
  subst exponent length
  rw [isDigits_append] at allDigits
  rw [List.length_append] at enough ⊢
  rw [Nat.add_sub_cancel, List.take_left, List.drop_left]
  apply Denotes.pointed allDigits.1 _ allDigits.2 _ value
  · exact List.ne_nil_of_length_pos (by omega)
  · exact List.ne_nil_of_length_pos positive

theorem denotes_positional (decimal : Decimal) :
    Denotes decimal.positional decimal := by
  unfold positional
  split
  next whole =>
    exact decimal.denotes_whole (by omega)
  next negative =>
    apply denotes_pointed
    · rw [isDigits_append]
      exact ⟨isDigits_zeros _, isDigits_digits decimal⟩
    · simp [digitsValue, Nat.ofDigitChars_append, digits]
    · rw [List.length_append, List.length_replicate]
      omega
    · omega
    · omega

namespace Denotes

/-- Positional notation is read as a decimal of the same magnitude. -/
theorem nearestCode_eq {text : List Char} {decimal : Decimal}
    (denotes : Denotes text decimal)
    (finite : decimal.nearestCode < infinityCode) :
    (ofUnsigned text).nearestCode = decimal.nearestCode := by
  cases denotes with
  | @whole digits coefficient zeros allDigits nonempty value =>
      have read := ofUnsigned_whole allDigits [] (by simp)
      rw [List.append_nil, value] at read
      rw [read]
      exact nearestCode_whole finite
  | @pointed whole fraction coefficient wholeDigits nonempty fractionDigits
      fractionNonempty value =>
      have read := ofUnsigned_pointed wholeDigits fractionDigits [] (by simp)
      rw [List.append_nil, value] at read
      rw [read, ofUnsigned.exponentValue, Int.zero_sub]

theorem isMantissa {text : List Char} {decimal : Decimal}
    (denotes : Denotes text decimal) : IsMantissa text := by
  cases denotes with
  | whole allDigits nonempty => exact .inl ⟨allDigits, nonempty⟩
  | @pointed whole fraction coefficient wholeDigits nonempty fractionDigits =>
      exact .inr
        ⟨whole, fraction, rfl, wholeDigits, fractionDigits, .inl nonempty⟩

theorem exists_digit {text : List Char} {decimal : Decimal}
    (denotes : Denotes text decimal) :
    ∃ digit rest, text = digit :: rest ∧ digit.isDigit = true := by
  cases denotes with
  | whole allDigits nonempty =>
      exact exists_digit_of_isDigits allDigits nonempty
  | @pointed whole fraction coefficient wholeDigits nonempty =>
      obtain ⟨digit, rest, rfl, isDigit⟩ :=
        exists_digit_of_isDigits wholeDigits nonempty
      exact ⟨digit, rest ++ '.' :: fraction, rfl, isDigit⟩

end Denotes

end Decimal

/-! ## Texts that read back -/

/-- `ReadsBack text code` means that the text is a literal that begins with a
digit, and that the nearest float is the one with the given code. -/
structure ReadsBack (text : List Char) (code : Nat) : Prop where
  unsigned : IsUnsigned text
  first : ∃ digit rest, text = digit :: rest ∧ digit.isDigit = true
  nearest : (Decimal.ofUnsigned text).nearestCode = code

theorem readsBack_positional {decimal : Decimal} {code : Nat}
    (finite : code < infinityCode) (nearest : decimal.nearestCode = code) :
    ReadsBack decimal.positional code := by
  have denotes := decimal.denotes_positional
  refine ⟨?_, denotes.exists_digit, ?_⟩
  · exact ⟨decimal.positional, [], (List.append_nil _).symm,
      denotes.isMantissa, .inl rfl⟩
  · rw [denotes.nearestCode_eq (by rwa [nearest]), nearest]

theorem ofLiteral_of_digit {digit : Char} (isDigit : digit.isDigit = true)
    (rest : List Char) :
    ofLiteral (digit :: rest) =
      ofCode false (Decimal.ofUnsigned (digit :: rest)).nearestCode := by
  have noMinus : digit ≠ '-' := by
    rintro rfl
    simp at isDigit
  have noPlus : digit ≠ '+' := by
    rintro rfl
    simp at isDigit
  simp [ofLiteral, noMinus, noPlus]

/-- The sign of a number as it is written. -/
def signText (number : Float) : List Char :=
  if isNegative number then ['-'] else []

theorem toList_textBy {magnitude : Nat → List Char} {number : Float}
    (finite : number.isFinite = true) :
    (textBy magnitude number).toList =
      signText number ++ magnitude (code number) := by
  have bound := (isFinite_iff_code_lt number).mp finite
  rw [textBy, if_neg bound.not_gt, String.toList_ofList, if_neg bound.ne,
    signText]

theorem ReadsBack.ofLiteral_eq {number : Float} {text : List Char}
    (readsBack : ReadsBack text (code number)) :
    ofLiteral (signText number ++ text) = number := by
  have rebuilt := ofCode_code number
  rw [signText]
  cases sign : isNegative number with
  | true =>
      rw [sign] at rebuilt
      rw [if_pos rfl, List.singleton_append, ofLiteral, readsBack.nearest,
        rebuilt]
  | false =>
      rw [sign] at rebuilt
      obtain ⟨digit, rest, split, isDigit⟩ := readsBack.first
      rw [if_neg Bool.false_ne_true, List.nil_append, split,
        ofLiteral_of_digit isDigit, ← split, readsBack.nearest, rebuilt]

/-- A finite number is the value of its text if the text of its magnitude reads
back. -/
theorem value?_textBy {magnitude : Nat → List Char} {number : Float}
    (finite : number.isFinite = true)
    (readsBack : ReadsBack (magnitude (code number)) (code number)) :
    Literal.value? (textBy magnitude number).toList = some number := by
  rw [toList_textBy finite]
  obtain ⟨mantissa, exponent, split, mantissaShape, exponentShape⟩ :=
    readsBack.unsigned
  have signed : IsSign (signText number) := by
    unfold signText
    split
    · exact .inr (.inr rfl)
    · exact .inl rfl
  have accepted :
      (Literal.run (signText number ++ magnitude (code number))).accepting =
        true :=
    accepting_of_isLiteral
      ⟨signText number, mantissa, exponent, by rw [split], signed,
        mantissaShape, exponentShape⟩
  rw [Literal.value?, if_pos accepted, readsBack.ofLiteral_eq]
  simp [finite]

theorem toList_plainText {number : Float} (finite : number.isFinite = true) :
    (plainText number).toList =
      signText number ++ (shortest (code number)).positional :=
  toList_textBy finite

/-- The plain text of a finite number is a literal with that number as its
value. -/
theorem value?_plainText {number : Float} (finite : number.isFinite = true) :
    Literal.value? (plainText number).toList = some number := by
  have bound := (isFinite_iff_code_lt number).mp finite
  exact value?_textBy finite
    (readsBack_positional bound (nearestCode_shortest bound))

end Formula.Number
