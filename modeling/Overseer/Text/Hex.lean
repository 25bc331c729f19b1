import Overseer.Text.Bytes

/-!
# Hexadecimal text

A byte is two lower-case hexadecimal digits, the high one first.
-/

namespace Overseer

/-- The lower-case hexadecimal digit of a number below sixteen. -/
def hexDigit (n : Nat) : Char :=
  if n < 10 then Char.ofNat (0x30 + n) else Char.ofNat (0x57 + n)

/-- The value of a lower-case hexadecimal digit. -/
def hexValue? (c : Char) : Option Nat :=
  if '0' ≤ c ∧ c ≤ '9' then some (c.toNat - 0x30)
  else if 'a' ≤ c ∧ c ≤ 'f' then some (c.toNat - 0x57)
  else none

namespace Bytes

/-- The hexadecimal digits of a byte string. -/
def toHex (s : Bytes) : List Char :=
  s.flatMap (fun b => [hexDigit (b.toNat / 16), hexDigit (b.toNat % 16)])

/-- Read hexadecimal digits, of which there must be an even number. -/
def ofHex? : List Char → Option Bytes
  | [] => some []
  | high :: low :: rest => do
      let a ← hexValue? high
      let b ← hexValue? low
      return UInt8.ofNat (16 * a + b) :: (← ofHex? rest)
  | [_] => none

end Bytes

end Overseer
