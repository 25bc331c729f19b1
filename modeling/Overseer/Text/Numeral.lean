import Overseer.Text.Bytes

/-!
# Numerals

Numbers written in decimal, and in octal or hexadecimal after the beginnings that
tell these apart.
-/

namespace Overseer

/-- The value of a decimal numeral. -/
def readNumber? (text : Bytes) : Option Nat :=
  if text.isEmpty || !text.all Byte.isDigit then none
  else some (text.foldl (fun n b => n * 10 + (b - 0x30).toNat) 0)

/-- The value of a decimal numeral with an optional sign. -/
def readSigned? (text : Bytes) : Option Int :=
  match text with
  | 0x2d :: rest => (readNumber? rest).map (fun n => -Int.ofNat n)
  | 0x2b :: rest => (readNumber? rest).map Int.ofNat
  | _ => (readNumber? text).map Int.ofNat

/-- The value of a digit in bases up to sixteen. -/
def digitValue? (b : UInt8) : Option Nat :=
  if Byte.isDigit b then some (b - 0x30).toNat
  else if 0x61 ≤ b && b ≤ 0x66 then some (b - 0x57).toNat
  else if 0x41 ≤ b && b ≤ 0x46 then some (b - 0x37).toNat
  else none

/-- Whether a byte is a digit in a base. -/
def isDigitIn (base : Nat) (b : UInt8) : Bool :=
  (digitValue? b).any (fun d => decide (d < base))

/-- The value of digits in a base. -/
def digitsValue (base : Nat) (digits : Bytes) : Nat :=
  digits.foldl (fun n d => n * base + (digitValue? d).getD 0) 0

/-- The value of the digits a text begins with in a base, and what follows
them. -/
def readDigits (base : Nat) (text : Bytes) : Nat × Bytes :=
  let digits := text.takeWhile (isDigitIn base)
  (digitsValue base digits, text.drop digits.length)

/-- The value of a numeral, whose base its beginning tells, and what follows. -/
def readNumeral (text : Bytes) : Nat × Bytes :=
  match text with
  | 0x30 :: x :: first :: rest =>
      if (x = 0x78 || x = 0x58) && isDigitIn 16 first then readDigits 16 (first :: rest)
      else readDigits 8 text
  | 0x30 :: _ => readDigits 8 text
  | _ => readDigits 10 text

/-- A text without blanks in front. -/
def trimFront (text : Bytes) : Bytes :=
  text.dropWhile Byte.isBlank

/-- A number as it is written with a sign: the value and what follows it, or nothing
if the text begins with no number.  There may be blanks in front. -/
def readInteger? (text : Bytes) : Option (Int × Bytes) :=
  let text := trimFront text
  let (negative, digits) : Bool × Bytes :=
    match text with
    | 0x2d :: rest => (true, rest)
    | 0x2b :: rest => (false, rest)
    | _ => (false, text)
  if !digits.head?.any Byte.isDigit then none
  else
    let (n, rest) := readNumeral digits
    some (if negative then -Int.ofNat n else Int.ofNat n, rest)

/-- The digits of a number in a base. -/
def digitsIn (base n : Nat) : Bytes :=
  utf8 (String.ofList (Nat.toDigits base n))

/-- The greatest number in 64 bits with a sign. -/
def greatestSigned : Nat :=
  0x7fffffffffffffff

/-- The greatest number in 64 bits. -/
def greatestUnsigned : Nat :=
  0xffffffffffffffff

/-- The value of a decimal number in 64 bits with a sign; there may be blanks around
it. -/
def readDecimal? (text : Bytes) : Option Int :=
  let trimmed := (trimFront (trimFront text).reverse).reverse
  (readSigned? trimmed).filter (fun n =>
    -Int.ofNat greatestSigned - 1 ≤ n && n ≤ Int.ofNat greatestSigned)

end Overseer
