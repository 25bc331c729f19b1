import Overseer.Text.Numeral
import Overseer.Text.Size

/-!
# Amounts

Values of options that are numbers, with at most one letter for a multiple.
-/

namespace Overseer.Machine

/-- What is wrong with a text that should be an amount. -/
inductive AmountProblem
  /-- It does not begin with a number. -/
  | invalid
  /-- Something follows the number that should not. -/
  | suffix
  /-- It is too large. -/
  | tooLarge
deriving DecidableEq, Repr

/-- What is said of the value of an option. -/
def AmountProblem.text (option : String) (value : Bytes) : AmountProblem → Bytes
  | invalid => utf8 ("invalid " ++ option ++ " argument '") ++ value ++ utf8 "'"
  | suffix => utf8 ("invalid suffix in " ++ option ++ " argument '") ++ value ++ utf8 "'"
  | tooLarge => utf8 (option ++ " argument '") ++ value ++ utf8 "' too large"

/-- Read an amount.  Some letters stand for multiples, and for one of these if there
is no number. -/
def readAmount (letters : String) (text : Bytes) : Except AmountProblem Nat :=
  let trimmed := trimFront text
  let numeral := if trimmed.head? = some 0x2b then trimmed.tail else trimmed
  let digits := numeral.takeWhile Byte.isDigit
  let isUnit (b : UInt8) : Bool := letters.toList.any (fun c => c.toNat = b.toNat)
  let (count, rest) :=
    if digits.isEmpty then (1, text) else (digitsValue 10 digits, numeral.drop digits.length)
  let checked (amount : Nat) : Except AmountProblem Nat :=
    if Size.greatest < amount then .error .tooLarge else .ok amount
  match rest with
  | [] => if digits.isEmpty then .error .invalid else checked count
  | [letter] =>
      if isUnit letter then checked (count * (Size.factor? [letter]).getD 1)
      else .error (if digits.isEmpty then .invalid else .suffix)
  | letter :: _ => .error (if digits.isEmpty && !isUnit letter then .invalid else .suffix)

end Overseer.Machine
