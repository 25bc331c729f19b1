import Overseer.Text.Numeral

/-!
# Version order

Names with numbers in them are compared so that the numbers count by their values.
Endings of file names count only if the names are the same without them.
-/

namespace Overseer.Version

/-- An ASCII letter. -/
def isLetter (b : UInt8) : Bool :=
  (0x41 ≤ b && b ≤ 0x5a) || (0x61 ≤ b && b ≤ 0x7a)

/-- The sign that comes before everything, even the end. -/
def tilde : UInt8 :=
  0x7e

/-- The rank of what comes next among texts between numbers: a tilde is before the
end, the end before numbers, those before letters and those before other signs. -/
def rank : Bytes → Nat
  | [] => 1
  | b :: _ =>
      if Byte.isDigit b then 2
      else if b = tilde then 0
      else if isLetter b then b.toNat + 3
      else b.toNat + 300

/-- Compare what comes before the next number: how it differs, or what follows in
both texts. -/
def compareSigns : Nat → Bytes → Bytes → Except Ordering (Bytes × Bytes)
  | 0, a, b => .ok (a, b)
  | fuel + 1, a, b =>
      let ends (text : Bytes) : Bool := text.head?.all Byte.isDigit
      if ends a && ends b then .ok (a, b)
      else
        match compare (rank a) (rank b) with
        | .eq => compareSigns fuel a.tail b.tail
        | other => .error other

/-- The digits of the number that a text begins with, without zeros in front, and
what follows. -/
def takeNumber (text : Bytes) : Bytes × Bytes :=
  let digits := text.takeWhile Byte.isDigit
  (digits.dropWhile (· = 0x30), text.drop digits.length)

/-- Compare two texts, sign by sign and number by number; the first argument bounds
their length. -/
def compareTexts : Nat → Bytes → Bytes → Ordering
  | 0, _, _ => .eq
  | fuel + 1, a, b =>
      if a.isEmpty && b.isEmpty then .eq
      else
        match compareSigns (a.length + b.length + 1) a b with
        | .error other => other
        | .ok (a, b) =>
            let (m, a) := takeNumber a
            let (n, b) := takeNumber b
            match compare (digitsValue 10 m) (digitsValue 10 n) with
            | .eq => compareTexts fuel a b
            | other => other

/-- Compare two texts. -/
def compareAll (a b : Bytes) : Ordering :=
  compareTexts (a.length + b.length + 1) a b

/-- A name without the endings that begin with a full stop and a letter; the first
argument bounds its length and the second is what comes before. -/
def dropEndings : Nat → Bytes → Bytes → Bytes
  | 0, before, _ => before
  | _ + 1, before, [] => before
  | fuel + 1, before, b :: rest =>
      let isPart (c : UInt8) : Bool := isLetter c || Byte.isDigit c || c = tilde
      let rec endings : Nat → Bytes → Bytes
        | 0, text => text
        | n + 1, text =>
            match text with
            | 0x2e :: c :: later =>
                if isLetter c || c = tilde then endings n (later.dropWhile isPart) else text
            | _ => text
      let later := endings rest.length rest
      if later.isEmpty then before ++ [b]
      else dropEndings fuel (before ++ b :: rest.take (rest.length - later.length)) later

/-- The rank of a name among those that begin with a full stop and others. -/
def nameRank (name : Bytes) : Nat :=
  if name = [] then 0
  else if name = utf8 "." then 1
  else if name = utf8 ".." then 2
  else if name.head? = some Byte.dot then 3
  else 4

/-- Compare two names of files. -/
def compareNames (a b : Bytes) : Ordering :=
  match compare (nameRank a) (nameRank b) with
  | .eq =>
      if nameRank a < 3 then .eq
      else
        match compareAll (dropEndings a.length [] a) (dropEndings b.length [] b) with
        | .eq => compareAll a b
        | other => other
  | other => other

end Overseer.Version
