/-!
# Numbers

A number is a binary64 float.  Apart from its sign a float is a *code*, the
sixty-three low bits read as a natural number:

* codes grow with the magnitude they stand for;
* a code below `infinityCode` stands for a whole number of units of `2 ^ -1074`,
  the least positive float.

All conversions between decimal text and floats are done on codes and units,
in exact arithmetic.  A literal is read as the nearest float, and a float is
written by the shortest decimal that reads back, or rounded to a number of
places.
-/

namespace Formula.Number

-- Every power is that of the core library, whatever algebra is in scope; a
-- literal exponent shows its type for the same reason.
attribute [local instance (high)] instPowNat

/-! ## Codes -/

/-- The code of infinity; the finite magnitudes have smaller codes. -/
def infinityCode : Nat := 2047 * 2 ^ (52 : Nat)

/-- Whether the sign bit of a number is set.  It is for negative zero. -/
def isNegative (number : Float) : Bool :=
  2 ^ (63 : Nat) ≤ number.toBits.toNat

def code (number : Float) : Nat :=
  number.toBits.toNat % 2 ^ (63 : Nat)

def ofCode (negative : Bool) (code : Nat) : Float :=
  Float.ofBits
    (UInt64.ofNat (if negative then 2 ^ (63 : Nat) + code else code))

/-- The magnitude with a finite code, counted in units of `2 ^ -1074`.  The
first binade has no hidden bit; every later one doubles the step. -/
def units (code : Nat) : Nat :=
  if code / 2 ^ (52 : Nat) = 0 then
    code
  else
    (2 ^ (52 : Nat) + code % 2 ^ (52 : Nat)) *
      2 ^ (code / 2 ^ (52 : Nat) - 1)

/-! ## Rounding to the nearest -/

/-- The quotient rounded to the nearest whole number, a half to the even
neighbour. -/
def roundDiv (numerator denominator : Nat) : Nat :=
  let quotient := numerator / denominator
  let twice := 2 * (numerator % denominator)
  if twice < denominator then
    quotient
  else if denominator < twice then
    quotient + 1
  else
    quotient + quotient % 2

/-- How many low bits a whole number has beyond the fifty-three that a float
keeps. -/
def excessBits (magnitude : Nat) : Nat :=
  magnitude.log2 - 52

/-- The code of the float nearest to a magnitude given as a fraction.  The
excess bits select the binade, and a carry out of the rounded significand moves
on to the next one.  Everything beyond the finite range becomes infinity. -/
def nearestCode (numerator denominator : Nat) : Nat :=
  let scaled := numerator * 2 ^ (1074 : Nat)
  let excess := excessBits (scaled / denominator)
  min infinityCode
    (excess * 2 ^ (52 : Nat) + roundDiv scaled (denominator * 2 ^ excess))

theorem roundDiv_mul_right (quotient : Nat) {denominator : Nat}
    (positive : 0 < denominator) :
    roundDiv (quotient * denominator) denominator = quotient := by
  simp [roundDiv, Nat.mul_div_cancel _ positive, positive]

/-! ## Decimals -/

/-- The magnitude `coefficient * 10 ^ exponent`. -/
structure Decimal where
  coefficient : Nat
  exponent : Int
  deriving DecidableEq, Repr

namespace Decimal

/-- Bring the exponent into the range that matters.  A positive coefficient
with a larger exponent is beyond every float, and one with a smaller exponent
is nearest to zero, as they are at the bound itself. -/
def clamp (decimal : Decimal) : Int :=
  max (-(1100 + decimal.coefficient.log2 : Int)) (min 400 decimal.exponent)

/-- The code of the float nearest to a decimal. -/
def nearestCode (decimal : Decimal) : Nat :=
  Number.nearestCode
    (decimal.coefficient * 10 ^ decimal.clamp.toNat)
    (10 ^ (-decimal.clamp).toNat)

/-- Move the trailing zeros of the coefficient into the exponent, at most a
given number of them.  Zero has no trailing zeros to move. -/
def dropZeros : Nat → Decimal → Decimal
  | 0, decimal => decimal
  | limit + 1, decimal =>
      if decimal.coefficient ≠ 0 ∧ decimal.coefficient % 10 = 0 then
        dropZeros limit ⟨decimal.coefficient / 10, decimal.exponent + 1⟩
      else
        decimal

end Decimal

def digitsValue (digits : List Char) : Nat :=
  Nat.ofDigitChars 10 digits 0

/-- The decimal that a numeric literal denotes, its sign apart.  The text is
read as digits, a point with more digits and an exponent, each of them
optional; for a well-formed literal that is all of it. -/
def Decimal.ofUnsigned (text : List Char) : Decimal :=
  let whole := text.takeWhile Char.isDigit
  let afterWhole := text.dropWhile Char.isDigit
  let pointed := afterWhole.head? = some '.'
  let fraction :=
    if pointed then afterWhole.tail.takeWhile Char.isDigit else []
  let afterFraction :=
    if pointed then afterWhole.tail.dropWhile Char.isDigit else afterWhole
  { coefficient := digitsValue (whole ++ fraction)
    exponent := exponentValue afterFraction - fraction.length }
where
  -- The first character is the mark of the exponent.
  exponentValue : List Char → Int
    | _ :: '-' :: digits => -(digitsValue digits : Int)
    | _ :: '+' :: digits => digitsValue digits
    | _ :: digits => digitsValue digits
    | [] => 0

/-- The float nearest to what a numeric literal denotes. -/
def ofLiteral : List Char → Float
  | '-' :: text => ofCode true (Decimal.ofUnsigned text).nearestCode
  | '+' :: text => ofCode false (Decimal.ofUnsigned text).nearestCode
  | text => ofCode false (Decimal.ofUnsigned text).nearestCode

/-! ## The shortest decimal that reads back

Every finite float is a decimal with at most 1074 places, and usually a very
long one.  For each number of digits in turn the two neighbours of the float on
that decimal grid are tried; the first grid on which one of them reads back
decides, and of two such neighbours the nearer is taken, the upper one from
halfway on. -/

/-- The decimal that a finite code stands for, to its last digit.  A unit is
`5 ^ 1074 * 10 ^ -1074`. -/
def exactDecimal (code : Nat) : Decimal :=
  ⟨units code * 5 ^ (1074 : Nat), -1074⟩

/-- The neighbours of a magnitude among the decimals with a given number of
digits, the nearer one first. -/
def gridNeighbours (digits code : Nat) : List Decimal :=
  let whole := (exactDecimal code).coefficient
  let dropped := (Nat.toDigits 10 whole).length - digits
  let step := 10 ^ dropped
  let below := Decimal.dropZeros digits ⟨whole / step, dropped - 1074⟩
  let above := Decimal.dropZeros digits ⟨whole / step + 1, dropped - 1074⟩
  if 2 * (whole % step) < step then [below, above] else [above, below]

def readingBack? (digits code : Nat) : Option Decimal :=
  (gridNeighbours digits code).find? fun decimal =>
    decimal.nearestCode == code

/-- The decimal with the fewest digits that is read as the float with the given
finite code.  Seventeen digits tell all floats apart, so the exact decimal is
never needed. -/
def shortest (code : Nat) : Decimal :=
  if code = 0 then
    ⟨0, 0⟩
  else
    ((List.range' 1 17).findSome? (readingBack? · code)).getD
      (exactDecimal code)

/-! ## Numbers as text

The sign of a negative zero is written, and a number that is not finite is
`inf`, `-inf` or `NaN` in every notation. -/

namespace Decimal

def digits (decimal : Decimal) : List Char :=
  Nat.toDigits 10 decimal.coefficient

/-- Positional notation.  There are as many places after the point as the
exponent asks for, and at least one digit before it. -/
def positional (decimal : Decimal) : List Char :=
  if 0 ≤ decimal.exponent then
    decimal.digits ++ List.replicate decimal.exponent.toNat '0'
  else
    let places := (-decimal.exponent).toNat
    let padded :=
      List.replicate (places + 1 - decimal.digits.length) '0' ++ decimal.digits
    padded.take (padded.length - places) ++
      '.' :: padded.drop (padded.length - places)

/-- The exponent of the first digit. -/
def leadingExponent (decimal : Decimal) : Int :=
  decimal.exponent + decimal.digits.length - 1

def signedDigits : Int → List Char
  | .ofNat value => Nat.toDigits 10 value
  | .negSucc value => '-' :: Nat.toDigits 10 (value + 1)

/-- Exponent notation: one digit, the others after a point, and the exponent
of the first. -/
def scientific (decimal : Decimal) : List Char :=
  let fraction := decimal.digits.tail
  decimal.digits.take 1 ++
    (if fraction.isEmpty then [] else '.' :: fraction) ++
    'e' :: signedDigits decimal.leadingExponent

/-- Whether a label writes the decimal with an exponent: from `10 ^ 16` on, and
below `10 ^ -4` except for zero. -/
def wantsExponent (decimal : Decimal) : Bool :=
  decimal.coefficient ≠ 0 &&
    (16 ≤ decimal.leadingExponent || decimal.leadingExponent < -4)

def labelled (decimal : Decimal) : List Char :=
  if decimal.wantsExponent then
    decimal.scientific
  else if 0 ≤ decimal.exponent then
    decimal.positional ++ ['.', '0']
  else
    decimal.positional

end Decimal

/-- Write a number by a notation for the codes of its finite magnitudes. -/
def textBy (magnitude : Nat → List Char) (number : Float) : String :=
  if infinityCode < code number then
    "NaN"
  else
    String.ofList
      ((if isNegative number then ['-'] else []) ++
        if code number = infinityCode then
          ['i', 'n', 'f']
        else
          magnitude (code number))

/-- The shortest digits that read back, always positional, and no point in a
whole number. -/
def plainText : Float → String :=
  textBy fun code => (shortest code).positional

/-- The same digits as they stand in a diagram, with a point in every
positional text and an exponent for the very large and the very small. -/
def labelText : Float → String :=
  textBy fun code => (shortest code).labelled

/-- The exact binary value rounded to a fixed count of places after the point,
a half to the even neighbour. -/
def fixedText (places : Nat) : Float → String :=
  textBy fun code =>
    Decimal.positional
      ⟨roundDiv (units code * 10 ^ places) (2 ^ (1074 : Nat)), -places⟩

end Formula.Number
