import Overseer.Text.Numeral

/-!
# Sizes

Numbers with a letter for a multiple of them.  A letter stands for a power of 1024,
or of 1000 if another letter follows that says so.
-/

namespace Overseer

/-- What is wrong with a text that should be a size. -/
inductive SizeProblem
  /-- It is no size. -/
  | invalid
  /-- It is too large. -/
  | range
deriving DecidableEq, Repr

namespace Size

/-- The greatest size. -/
def greatest : Nat :=
  18446744073709551615

/-- The letters that stand for powers. -/
def powers : List (Char × Nat) :=
  [('k', 1), ('K', 1), ('m', 2), ('M', 2), ('G', 3), ('T', 4), ('P', 5), ('E', 6), ('Z', 7),
    ('Y', 8), ('R', 9), ('Q', 10)]

/-- The power that a letter stands for. -/
def power? (letter : UInt8) : Option Nat :=
  (powers.find? (fun entry => entry.1.toNat = letter.toNat)).map Prod.snd

/-- The letter that stands for blocks of 512 bytes. -/
def blockLetter : UInt8 :=
  0x62

/-- The factor that a text after a number stands for. -/
def factor? : Bytes → Option Nat
  | [] => some 1
  | letter :: rest =>
      if letter = blockLetter then if rest.isEmpty then some 512 else none
      else
        match power? letter, rest with
        | some power, [] | some power, [0x69, 0x42] => some (Nat.pow 1024 power)
        | some power, [0x42] | some power, [0x44] => some (Nat.pow 1000 power)
        | _, _ => none

/-- A size.  A letter by itself stands for one of its multiples. -/
def read (text : Bytes) : Except SizeProblem Nat :=
  let trimmed := trimFront text
  let digits := if trimmed.head? = some 0x2b then trimmed.tail else trimmed
  let numeral := digits.takeWhile Byte.isDigit
  let (count, letters) :=
    if numeral.isEmpty then (1, text) else (digitsValue 10 numeral, digits.drop numeral.length)
  match factor? letters with
  | none => .error .invalid
  | some factor =>
      if numeral.isEmpty && text.isEmpty then .error .invalid
      else if greatest < count * factor then .error .range
      else .ok (count * factor)

end Size

end Overseer
