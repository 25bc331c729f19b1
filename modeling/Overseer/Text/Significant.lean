import Overseer.Text.Bytes

/-!
# Numbers with six significant digits

A binary floating-point number is written with the decimal digits of the
nearest six-digit decimal, a tie going to the even digit.  Trailing zeros are
dropped.  An exponent is written when it is below -4 or above 5, with a sign
and at least two digits.
-/

namespace Overseer.Significant

/-- A finite binary number `± significand * 2 ^ exponent`, or one of the values
outside the line of numbers. -/
inductive Binary
  /-- A finite number. -/
  | finite (negative : Bool) (significand : Nat) (exponent : Int)
  /-- Infinity. -/
  | infinite (negative : Bool)
  /-- Not a number. -/
  | nan (negative : Bool)
deriving DecidableEq, Repr

/-- Read the 64 bits of a double-precision number. -/
def Binary.ofBits (bits : UInt64) : Binary :=
  let word := bits.toNat
  let negative := decide (word / Nat.pow 2 63 = 1)
  let field := word / Nat.pow 2 52 % Nat.pow 2 11
  let fraction := word % Nat.pow 2 52
  if field = 2047 then
    if fraction = 0 then .infinite negative else .nan negative
  else if field = 0 then .finite negative fraction (-1074)
  else .finite negative (Nat.pow 2 52 + fraction) (Int.ofNat field - 1075)

/-- The nearest integer to a quotient, a tie going to the even one. -/
def roundQuotient (numerator denominator : Nat) : Nat :=
  let quotient := numerator / denominator
  let twice := 2 * (numerator % denominator)
  if twice < denominator then quotient
  else if denominator < twice then quotient + 1
  else quotient + quotient % 2

/-- The decimal exponent of a positive quotient: the power of ten that its first
digit counts. -/
def decimalExponent (numerator denominator : Nat) : Int :=
  if denominator ≤ numerator then
    Int.ofNat ((toString (numerator / denominator)).length - 1)
  else
    let guess := (toString (denominator / numerator)).length
    if denominator ≤ numerator * Nat.pow 10 (guess - 1) then 1 - Int.ofNat guess
    else -Int.ofNat guess

/-- The number of digits that count. -/
def precision : Nat :=
  6

/-- A positive quotient rounded to the significant digits: an integer of that
many digits and the decimal exponent of its first digit. -/
def roundSignificant (numerator denominator : Nat) : Nat × Int :=
  let exponent := decimalExponent numerator denominator
  let shift := Int.ofNat (precision - 1) - exponent
  let digits :=
    if 0 ≤ shift then roundQuotient (numerator * Nat.pow 10 shift.toNat) denominator
    else roundQuotient numerator (denominator * Nat.pow 10 (-shift).toNat)
  if digits = Nat.pow 10 precision then (Nat.pow 10 (precision - 1), exponent + 1)
  else (digits, exponent)

/-- A fraction's digits without trailing zeros, after a point if any is left. -/
def fractionText (digits : List Char) : List Char :=
  match (digits.reverse.dropWhile (· = '0')).reverse with
  | [] => []
  | kept => '.' :: kept

/-- An exponent with its sign and at least two digits. -/
def exponentText (exponent : Int) : List Char :=
  let digits := (toString exponent.natAbs).toList
  let padded := if digits.length < 2 then '0' :: digits else digits
  'e' :: (if exponent < 0 then '-' else '+') :: padded

/-- The digits of a rounded number laid out, with an exponent where the number
is very small or very large. -/
def layout (digits : List Char) (exponent : Int) : List Char :=
  if exponent < -4 ∨ Int.ofNat precision ≤ exponent then
    digits.take 1 ++ fractionText (digits.drop 1) ++ exponentText exponent
  else if exponent < 0 then
    '0' :: fractionText (List.replicate (exponent.natAbs - 1) '0' ++ digits)
  else
    digits.take (exponent.toNat + 1) ++ fractionText (digits.drop (exponent.toNat + 1))

/-- The text of a binary number. -/
def render (value : Binary) : Bytes :=
  let sign (negative : Bool) : String := if negative then "-" else ""
  match value with
  | .nan negative => utf8 (sign negative) ++ utf8 "nan"
  | .infinite negative => utf8 (sign negative) ++ utf8 "inf"
  | .finite negative 0 _ => utf8 (sign negative) ++ utf8 "0"
  | .finite negative significand exponent =>
      let (numerator, denominator) :=
        if 0 ≤ exponent then (significand * Nat.pow 2 exponent.toNat, 1)
        else (significand, Nat.pow 2 (-exponent).toNat)
      let (digits, decimalExponent) := roundSignificant numerator denominator
      utf8 (sign negative) ++
        (layout (toString digits).toList decimalExponent).flatMap String.utf8EncodeChar

end Overseer.Significant
