import Overseer.Text.Floating

/-!
# Printing floating numbers

The digits of a floating number with a fixed number of them after the point, or after
the first one with a power of ten, or as many as are significant; or in base sixteen
with a power of two.  All are rounded from the exact number, to an even digit if two
are equally near.
-/

namespace Overseer.Floating

/-- The ways to write numbers. -/
inductive Notation
  /-- With a fixed number of digits after the point. -/
  | fixed
  /-- With a power of ten. -/
  | scientific
  /-- With so many significant digits, in the shorter of the other two ways. -/
  | general
  /-- In base sixteen with a power of two. -/
  | hexadecimal
deriving DecidableEq, Repr

/-- The number times a power of ten, rounded to a whole number. -/
def timesPowerOfTen (significand : Nat) (exponent power : Int) : Nat :=
  let (n, d) := scaled significand 1 (-exponent)
  let n := n * Nat.pow 10 power.toNat
  let d := d * Nat.pow 10 (-power).toNat
  roundedQuotient n d

/-- Whether a number is at least a power of ten. -/
def reaches (significand : Nat) (exponent power : Int) : Bool :=
  let (n, d) := scaled significand 1 (-exponent)
  d * Nat.pow 10 power.toNat ≤ n * Nat.pow 10 (-power).toNat

/-- The exponent of the greatest power of ten that a number reaches, from a guess that
is too small; the first argument bounds by how much. -/
def decimalExponentFrom (significand : Nat) (exponent : Int) : Nat → Int → Int
  | 0, guess => guess
  | fuel + 1, guess =>
      if reaches significand exponent (guess + 1) then
        decimalExponentFrom significand exponent fuel (guess + 1)
      else guess

/-- The exponent of the greatest power of ten that a number reaches. -/
def decimalExponent (significand : Nat) (exponent : Int) : Int :=
  if significand = 0 then 0
  else
    let size := Int.ofNat (Nat.log2 significand) + exponent
    decimalExponentFrom significand exponent 4 (Int.fdiv (size * 30103) 100000 - 2)

/-- Digits with a point before the last so many of them. -/
def withPoint (digits : Bytes) (places : Nat) (keepsPoint : Bool) : Bytes :=
  let digits := List.replicate (places + 1 - digits.length) 0x30 ++ digits
  let whole := digits.take (digits.length - places)
  if places = 0 then if keepsPoint then whole ++ [Byte.dot] else whole
  else whole ++ [Byte.dot] ++ digits.drop (digits.length - places)

/-- Digits without zeros at the end of the fraction. -/
def withoutZeros (text : Bytes) : Bytes :=
  if text.contains Byte.dot then
    let kept := (text.reverse.dropWhile (· = 0x30)).reverse
    if kept.getLast? = some Byte.dot then kept.dropLast else kept
  else text

/-- A number with so many digits after the point. -/
def fixedText (significand : Nat) (exponent : Int) (places : Nat) (keepsPoint : Bool) : Bytes :=
  withPoint (digitsIn 10 (timesPowerOfTen significand exponent places)) places keepsPoint

/-- An exponent of ten. -/
def exponentText (exponent : Int) : Bytes :=
  let digits := digitsIn 10 exponent.natAbs
  utf8 (if exponent < 0 then "e-" else "e+") ++ List.replicate (2 - digits.length) 0x30 ++ digits

/-- The digits of a number, so many after the first one, and the exponent of ten. -/
def scientificDigits (significand : Nat) (exponent : Int) (places : Nat) : Bytes × Int :=
  let power := decimalExponent significand exponent
  let digits := digitsIn 10 (timesPowerOfTen significand exponent (Int.ofNat places - power))
  if significand = 0 then (List.replicate (places + 1) 0x30, 0)
  else if places + 1 < digits.length then (digits.dropLast, power + 1)
  else (digits, power)

/-- A number with a power of ten. -/
def scientificText (significand : Nat) (exponent : Int) (places : Nat) (keepsPoint : Bool) :
    Bytes :=
  let (digits, power) := scientificDigits significand exponent places
  withPoint digits places keepsPoint ++ exponentText power

/-- A number with so many significant digits. -/
def generalText (significand : Nat) (exponent : Int) (count : Nat) (keepsZeros : Bool) : Bytes :=
  let count := max 1 count
  let (digits, power) := scientificDigits significand exponent (count - 1)
  let shorten (text : Bytes) : Bytes := if keepsZeros then text else withoutZeros text
  if -4 ≤ power && power < Int.ofNat count then
    shorten (fixedText significand exponent (Int.ofNat count - 1 - power).toNat keepsZeros)
  else shorten (withPoint digits (count - 1) keepsZeros) ++ exponentText power

/-- How many bits the first digit of a format has in base sixteen. -/
def firstDigitBits (format : FloatingFormat) : Nat :=
  if format.precision % 4 = 0 then 4 else 1

/-- A number in base sixteen. -/
def hexadecimalText (format : FloatingFormat) (significand : Nat) (exponent : Int)
    (places : Option Nat) (keepsPoint : Bool) : Bytes :=
  let first := firstDigitBits format
  let most := (format.precision - first) / 4
  let missing := format.precision - 1 - Nat.log2 significand
  let shift := if significand = 0 then 0
    else min missing (exponent - format.least).toNat
  let significand := significand * Nat.pow 2 shift
  let exponent := exponent - Int.ofNat shift
  let places' := places.getD most
  let rounded :=
    if places' < most then roundedQuotient significand (Nat.pow 16 (most - places'))
    else significand * Nat.pow 16 (places' - most)
  let power := if significand = 0 then 0 else exponent + 4 * Int.ofNat most
  let (rounded, power) :=
    if rounded < Nat.pow 16 (places' + 1) then (rounded, power) else (rounded / 16, power + 4)
  let text := withPoint (digitsIn 16 rounded) places' keepsPoint
  let text := if places.isNone then withoutZeros text else text
  utf8 "0x" ++ text ++ utf8 (if power < 0 then "p-" else "p+") ++ digitsIn 10 power.natAbs

/-- A number without its sign. -/
def text (format : FloatingFormat) (way : Notation) (precision : Option Nat) (alternate : Bool) :
    Floating → Bytes
  | infinite _ => utf8 "inf"
  | nan _ => utf8 "nan"
  | finite _ significand exponent =>
      let places := precision.getD 6
      match way with
      | .fixed => fixedText significand exponent places alternate
      | .scientific => scientificText significand exponent places alternate
      | .general => generalText significand exponent places alternate
      | .hexadecimal => hexadecimalText format significand exponent precision alternate

end Overseer.Floating
