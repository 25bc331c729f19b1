import Overseer.Text.Numeral

/-!
# Floating numbers

Binary floating numbers of a format, as they are read from text.  What is written is
taken as an exact fraction and then rounded once, to the nearest number of the format
and to an even significand if two are equally near.
-/

namespace Overseer

/-- A format of floating numbers. -/
structure FloatingFormat where
  /-- How many bits a significand has at most. -/
  precision : Nat
  /-- The exponent of the least positive number, a power of two. -/
  least : Int
  /-- The exponent of the power of two that all numbers are below. -/
  limit : Int
deriving DecidableEq, Repr

namespace FloatingFormat

/-- Numbers of 64 bits. -/
def binary64 : FloatingFormat :=
  { precision := 53, least := -1074, limit := 1024 }

/-- Numbers of 80 bits. -/
def extended80 : FloatingFormat :=
  { precision := 64, least := -16445, limit := 16384 }

end FloatingFormat

/-- A floating number. -/
inductive Floating
  /-- The number `significand * 2 ^ exponent`, or its negative. -/
  | finite (negative : Bool) (significand : Nat) (exponent : Int)
  /-- An infinity. -/
  | infinite (negative : Bool)
  /-- What is no number. -/
  | nan (negative : Bool)
deriving DecidableEq, Repr

namespace Floating

/-- Zero. -/
def zero : Floating :=
  .finite false 0 0

/-- The number of a natural number. -/
def ofNat (n : Nat) : Floating :=
  .finite false n 0

/-- The quotient of two numbers rounded to the nearest whole number, and to an even
one if two are equally near. -/
def roundedQuotient (numerator denominator : Nat) : Nat :=
  let quotient := numerator / denominator
  let twice := 2 * (numerator % denominator)
  if denominator < twice || (twice = denominator && quotient % 2 = 1) then quotient + 1
  else quotient

/-- A fraction with its numerator or denominator multiplied by a power of two, so
that it is divided by `2 ^ exponent`. -/
def scaled (numerator denominator : Nat) (exponent : Int) : Nat × Nat :=
  if 0 ≤ exponent then (numerator, denominator * Nat.pow 2 exponent.toNat)
  else (numerator * Nat.pow 2 (-exponent).toNat, denominator)

/-- The number of a format that a positive fraction is rounded to. -/
def round (format : FloatingFormat) (negative : Bool) (numerator denominator : Nat) : Floating :=
  if numerator = 0 then .finite negative 0 0
  else
    let size := Int.ofNat (Nat.log2 numerator) - Int.ofNat (Nat.log2 denominator)
    let guess := max format.least (size - Int.ofNat format.precision)
    let (n, d) := scaled numerator denominator guess
    let exponent := if n / d < Nat.pow 2 format.precision then guess else guess + 1
    let (n, d) := scaled numerator denominator exponent
    let significand := roundedQuotient n d
    if format.limit ≤ Int.ofNat (Nat.log2 significand) + exponent then .infinite negative
    else .finite negative significand exponent

/-- Whether a number is negative. -/
def isNegative : Floating → Bool
  | finite negative _ _ | infinite negative | nan negative => negative

/-- Compare two finite numbers without regard to their signs. -/
def compareSizes (significand : Nat) (exponent : Int) (other : Nat) (otherExponent : Int) :
    Ordering :=
  let base := min exponent otherExponent
  compare (significand * Nat.pow 2 (exponent - base).toNat)
    (other * Nat.pow 2 (otherExponent - base).toNat)

/-- Compare two numbers, of which those that are no numbers come first. -/
def order : Floating → Floating → Ordering
  | nan _, nan _ => .eq
  | nan _, _ => .lt
  | _, nan _ => .gt
  | infinite a, infinite b => if a = b then .eq else if a then .lt else .gt
  | infinite a, _ => if a then .lt else .gt
  | _, infinite b => if b then .gt else .lt
  | finite a m e, finite b n f =>
      if m = 0 && n = 0 then .eq
      else if m = 0 then if b then .gt else .lt
      else if n = 0 then if a then .lt else .gt
      else
        match a, b with
        | false, true => .gt
        | true, false => .lt
        | false, false => compareSizes m e n f
        | true, true => compareSizes n f m e

/-! ## Reading -/

/-- What reading a number comes to. -/
structure Reading where
  /-- The number. -/
  value : Floating
  /-- What follows it. -/
  rest : Bytes
  /-- Whether the number written is too large or too small for the format. -/
  outOfRange : Bool := false

/-- Lower-case letters. -/
def lower (text : Bytes) : Bytes :=
  text.map (fun b => if 0x41 ≤ b && b ≤ 0x5a then b + 0x20 else b)

/-- What follows a word at the beginning of a text, in whatever case it is
written. -/
def afterWord? (word : String) (text : Bytes) : Option Bytes :=
  let word := utf8 word
  if (lower (text.take word.length)) = word then some (text.drop word.length) else none

/-- The exponent after a letter, and what follows it. -/
def readExponent? (letter : UInt8) (text : Bytes) : Option (Int × Bytes) :=
  match text with
  | b :: rest =>
      if (lower [b]) = [letter] then
        let (negative, digits) : Bool × Bytes :=
          match rest with
          | 0x2d :: rest => (true, rest)
          | 0x2b :: rest => (false, rest)
          | _ => (false, rest)
        if !digits.head?.any Byte.isDigit then none
        else
          let (n, rest) := readDigits 10 digits
          some (if negative then -Int.ofNat n else Int.ofNat n, rest)
      else none
  | [] => none

/-- The digits with and after a point in a base: all of them, how many come after the
point, and what follows.  There is at least one digit. -/
def readPoint? (base : Nat) (text : Bytes) : Option (Bytes × Nat × Bytes) :=
  let whole := text.takeWhile (isDigitIn base)
  let (fraction, rest) : Bytes × Bytes :=
    match text.drop whole.length with
    | 0x2e :: rest =>
        let fraction := rest.takeWhile (isDigitIn base)
        (fraction, rest.drop fraction.length)
    | rest => ([], rest)
  if whole.isEmpty && fraction.isEmpty then none
  else some (whole ++ fraction, fraction.length, rest)

/-- From which power of ten on numbers are too large for every format, and below the
negative of which too small. -/
def decimalLimit : Int :=
  6000

/-- From which power of two on numbers are too large for every format, and below the
negative of which too small. -/
def binaryLimit : Int :=
  20000

/-- The number that digits in a base stand for, shifted by a power. -/
def ofDigits (format : FloatingFormat) (negative : Bool) (base power : Nat) (limit : Int)
    (digits : Bytes) (shift : Int) : Floating × Bool :=
  let n := digitsValue base digits
  let length := Int.ofNat (digits.dropWhile (· = 0x30)).length * (if base = 16 then 4 else 1)
  if n = 0 then (.finite negative 0 0, false)
  else if limit < length + shift then (.infinite negative, true)
  else if length + shift < -limit then (.finite negative 0 0, true)
  else
    let value := if 0 ≤ shift then round format negative (n * Nat.pow power shift.toNat) 1
      else round format negative n (Nat.pow power (-shift).toNat)
    (value, match value with
      | .infinite _ => true
      | .finite _ significand exponent =>
          significand = 0 ||
            (exponent = format.least && significand < Nat.pow 2 (format.precision - 1))
      | .nan _ => false)

/-- Read a number without a sign. -/
def readUnsigned? (format : FloatingFormat) (negative : Bool) (text : Bytes) : Option Reading :=
  match afterWord? "infinity" text, afterWord? "inf" text, afterWord? "nan" text with
  | some rest, _, _ => some { value := .infinite negative, rest }
  | none, some rest, _ => some { value := .infinite negative, rest }
  | none, none, some rest =>
      let inside := rest.tail.takeWhile Byte.isNamePart
      let rest :=
        if rest.head? = some 0x28 && (rest.tail.drop inside.length).head? = some 0x29 then
          rest.drop (inside.length + 2)
        else rest
      some { value := .nan negative, rest }
  | none, none, none =>
      match (afterWord? "0x" text).bind (readPoint? 16) with
      | some (digits, places, rest) =>
          let (exponent, rest) := (readExponent? 0x70 rest).getD (0, rest)
          let (value, outOfRange) := ofDigits format negative 16 2 binaryLimit digits
            (exponent - 4 * Int.ofNat places)
          some { value, rest, outOfRange }
      | none =>
          (readPoint? 10 text).map (fun (digits, places, rest) =>
            let (exponent, rest) := (readExponent? 0x65 rest).getD (0, rest)
            let (value, outOfRange) := ofDigits format negative 10 10 decimalLimit digits
              (exponent - Int.ofNat places)
            { value, rest, outOfRange })

/-- Read a number of a format, after blanks and a sign; nothing if there is none. -/
def read? (format : FloatingFormat) (text : Bytes) : Option Reading :=
  match trimFront text with
  | 0x2d :: rest => readUnsigned? format true rest
  | 0x2b :: rest => readUnsigned? format false rest
  | rest => readUnsigned? format false rest

end Floating

end Overseer
