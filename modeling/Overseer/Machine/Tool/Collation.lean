import Overseer.Machine.Options
import Overseer.Text.Floating
import Overseer.Text.Version

/-!
# Order of lines

Lines are compared by keys, which are parts of them, and each key by a rule.  Where
the keys say nothing, whole lines are compared byte by byte.
-/

namespace Overseer.Machine

/-! ## Comparing texts -/

/-- A decimal numeral with a fraction: its digits as a number, and how many of them
come after the point. -/
structure DecimalText where
  /-- The digits with the sign. -/
  digits : Int
  /-- How many come after the point. -/
  places : Nat

namespace DecimalText

/-- The numeral that a text begins with, zero if there is none, and what follows. -/
def read (text : Bytes) : DecimalText × Bytes :=
  let negative := text.head? = some 0x2d
  let text := if negative then text.tail else text
  let whole := text.takeWhile Byte.isDigit
  let (fraction, rest) : Bytes × Bytes :=
    match text.drop whole.length with
    | 0x2e :: later =>
        let fraction := later.takeWhile Byte.isDigit
        (fraction, later.drop fraction.length)
    | rest => ([], rest)
  let n := Int.ofNat (digitsValue 10 (whole ++ fraction))
  ({ digits := if negative then -n else n, places := fraction.length }, rest)

/-- Compare by value. -/
def order (a b : DecimalText) : Ordering :=
  compare (a.digits * Int.ofNat (Nat.pow 10 b.places)) (b.digits * Int.ofNat (Nat.pow 10 a.places))

end DecimalText

/-- Whether a byte may stand between fields. -/
def isFieldGap (b : UInt8) : Bool :=
  b = Byte.space || b = Byte.tab || b = Byte.newline

/-- Bytes compared one by one. -/
def orderBytes (a b : Bytes) : Ordering :=
  if a = b then .eq else if a < b then .lt else .gt

/-- Texts compared by the numerals they begin with. -/
def orderNumbers (a b : Bytes) : Ordering :=
  (DecimalText.read (a.dropWhile isFieldGap)).1.order (DecimalText.read (b.dropWhile isFieldGap)).1

/-- Texts compared as floating numbers; those that are none come first. -/
def orderFloating (a b : Bytes) : Ordering :=
  match Floating.read? .extended80 a, Floating.read? .extended80 b with
  | none, none => .eq
  | none, some _ => .lt
  | some _, none => .gt
  | some x, some y => x.value.order y.value

/-- The rank of the unit after a numeral, negative before a minus sign; zero has
none. -/
def unitRank (text : Bytes) : Int :=
  let (n, rest) := DecimalText.read text
  let units := utf8 "KMGTPEZYRQ"
  match rest with
  | unit :: _ =>
      let unit := if unit = 0x6b then 0x4b else unit
      let power := if units.contains unit then Int.ofNat (units.idxOf unit) + 1 else 0
      if n.digits = 0 then 0 else if n.digits < 0 then -power else power
  | [] => 0

/-- Texts compared by numerals with units. -/
def orderUnits (a b : Bytes) : Ordering :=
  let a := a.dropWhile isFieldGap
  let b := b.dropWhile isFieldGap
  (compare (unitRank a) (unitRank b)).then ((DecimalText.read a).1.order (DecimalText.read b).1)

/-- A byte as a capital letter. -/
def capital (b : UInt8) : UInt8 :=
  if 0x61 ≤ b && b ≤ 0x7a then b - 0x20 else b

/-- The names of the months, as far as they count. -/
def monthNames : List String :=
  ["JAN", "FEB", "MAR", "APR", "MAY", "JUN", "JUL", "AUG", "SEP", "OCT", "NOV", "DEC"]

/-- The number of the month that a text names, zero if it names none. -/
def monthNumber (text : Bytes) : Nat :=
  let text := (text.dropWhile isFieldGap).map capital
  match monthNames.findIdx? (fun month => (utf8 month).isPrefixOf text) with
  | some i => i + 1
  | none => 0

/-! ## Rules and keys -/

/-- How a key is compared. -/
structure SortRule where
  /-- Whether gaps before the beginning of a key are skipped. -/
  skipsBefore : Bool := false
  /-- Whether gaps before the end of a key are skipped. -/
  skipsAfter : Bool := false
  /-- The other letters given for it. -/
  letters : List Char := []
deriving DecidableEq

namespace SortRule

/-- The letters of rules, in the order in which they are listed, besides the one for
gaps. -/
def ruleLetters : List Char :=
  ['d', 'f', 'g', 'h', 'i', 'M', 'n', 'R', 'r', 'V']

/-- Whether a letter was given. -/
def has (r : SortRule) (letter : Char) : Bool :=
  r.letters.contains letter

/-- The rule with another letter, if it is one. -/
def add? (r : SortRule) (before after : Bool) (letter : Char) : Option SortRule :=
  if letter = 'b' then
    some { r with skipsBefore := r.skipsBefore || before, skipsAfter := r.skipsAfter || after }
  else if letter = 'i' && r.has 'd' then some r
  else if letter = 'd' then some { r with letters := 'd' :: r.letters.filter (· ≠ 'i') }
  else if ruleLetters.contains letter then some { r with letters := letter :: r.letters }
  else none

/-- Whether the rule says nothing but which way round. -/
def isStandard (r : SortRule) : Bool :=
  !r.skipsBefore && !r.skipsAfter && r.letters.all (· = 'r')

/-- The letters of a rule that do not go together, if there are such. -/
def conflict? (r : SortRule) : Option String :=
  let ways := ['n', 'g', 'h', 'M'].filter r.has
  let others := if ['V', 'R', 'd', 'i'].any r.has then 1 else 0
  if 1 < ways.length + others then
    some (String.ofList (ruleLetters.filter (fun letter => letter ≠ 'r' && r.has letter)))
  else none

/-- What of a key counts. -/
def relevant (r : SortRule) (text : Bytes) : Bytes :=
  let kept :=
    if r.has 'd' then
      text.filter (fun b => Version.isLetter b || Byte.isDigit b || isFieldGap b)
    else if r.has 'i' then text.filter Quoting.isPrintable
    else text
  if r.has 'f' then kept.map capital else kept

/-- Compare what counts of two keys. -/
def order (r : SortRule) (a b : Bytes) : Ordering :=
  let result :=
    if r.has 'n' then orderNumbers a b
    else if r.has 'g' then orderFloating a b
    else if r.has 'h' then orderUnits a b
    else if r.has 'M' then compare (monthNumber a) (monthNumber b)
    else if r.has 'V' then Version.compareNames a b
    else orderBytes a b
  if r.has 'r' then result.swap else result

end SortRule

/-- Where a key begins or ends: so many fields further on, and so many bytes. -/
structure KeyPoint where
  /-- The number of fields. -/
  fields : Nat
  /-- The number of bytes. -/
  bytes : Nat

/-- A key. -/
structure SortKey where
  /-- Where it begins, if not at the beginning of the line. -/
  first : Option KeyPoint := none
  /-- Where it ends, if not at the end of the line.  Without bytes that is the end of
  the field. -/
  last : Option KeyPoint := none
  /-- How it is compared. -/
  rule : SortRule := {}

/-- A text after so many fields with what separates them. -/
def dropFields (separator : Option UInt8) : Nat → Bytes → Bytes
  | 0, text => text
  | _, [] => []
  | n + 1, text =>
      match separator with
      | some c => dropFields separator n (text.dropWhile (· ≠ c)).tail
      | none => dropFields separator n ((text.dropWhile isFieldGap).dropWhile (!isFieldGap ·))

/-- A text after so many fields, of which a separator after the last one is left. -/
def dropWholeFields (separator : Option UInt8) : Nat → Bytes → Bytes
  | 0, text => text
  | n + 1, text =>
      let before := dropFields separator n text
      match separator with
      | some c => before.dropWhile (· ≠ c)
      | none => (before.dropWhile isFieldGap).dropWhile (!isFieldGap ·)

namespace SortKey

/-- The part of a line that a key is. -/
def text (key : SortKey) (separator : Option UInt8) (line : Bytes) : Bytes :=
  let skip (skips : Bool) (text : Bytes) : Bytes :=
    if skips then text.dropWhile isFieldGap else text
  let beginning :=
    match key.first with
    | none => skip key.rule.skipsBefore line
    | some p => (skip key.rule.skipsBefore (dropFields separator p.fields line)).drop p.bytes
  let ending :=
    match key.last with
    | none => []
    | some p =>
        if p.bytes = 0 then dropWholeFields separator (p.fields + 1) line
        else (skip key.rule.skipsAfter (dropFields separator p.fields line)).drop p.bytes
  beginning.take (beginning.length - ending.length)

end SortKey

/-! ## Reading keys -/

/-- A count at the beginning of a text, and what follows. -/
def readKeyCount (problem : String) (text : Bytes) : Except OptionProblem (Nat × Bytes) :=
  let trimmed := trimFront text
  let digits := if trimmed.head? = some 0x2b then trimmed.tail else trimmed
  if digits.head?.any Byte.isDigit then .ok (readDigits 10 digits)
  else
    .error (.plain (utf8 (problem ++ ": invalid count at start of ") ++ Quoting.single text))

/-- The rule with the letters at the beginning of a text, and what follows. -/
def readRule (before after : Bool) : SortRule → Bytes → SortRule × Bytes
  | rule, [] => (rule, [])
  | rule, b :: rest =>
      match rule.add? before after (Char.ofNat b.toNat) with
      | some rule => readRule before after rule rest
      | none => (rule, b :: rest)

/-- A count after a point at the beginning of a text, or what it is without one, and
what follows. -/
def readKeyBytes (otherwise : Nat) : Bytes → Except OptionProblem (Nat × Bytes)
  | 0x2e :: rest => readKeyCount "invalid number after '.'" rest
  | rest => .ok (otherwise, rest)

/-- That a text is no key. -/
def badKey (problem : String) (text : Bytes) : OptionProblem :=
  .plain (utf8 (problem ++ ": invalid field specification ") ++ Quoting.single text)

/-- What is said of a key with more after it. -/
def strayText : String :=
  "stray character in field spec"

/-- Read a key. -/
def readKey (text : Bytes) : Except OptionProblem SortKey := do
  let refuse {α : Type} (problem : String) : Except OptionProblem α := .error (badKey problem text)
  let (field, rest) ← readKeyCount "invalid number at field start" text
  if field = 0 then refuse "field number is zero"
  let (byte, rest) ← readKeyBytes 1 rest
  if byte = 0 then refuse "character offset is zero"
  let first := if field = 1 && byte = 1 then none
    else some { fields := field - 1, bytes := byte - 1 }
  let (rule, rest) := readRule true false {} rest
  let (last, rule, rest) : Option KeyPoint × SortRule × Bytes ←
    match rest with
    | 0x2c :: rest => do
        let (field, rest) ← readKeyCount "invalid number after ','" rest
        if field = 0 then refuse "field number is zero"
        let (byte, rest) ← readKeyBytes 0 rest
        let (rule, rest) := readRule false true rule rest
        pure (some { fields := field - 1, bytes := byte }, rule, rest)
    | rest => pure (none, rule, rest)
  if !rest.isEmpty then refuse strayText
  return { first, last, rule }

/-- Read a word as the beginning of a key: a plus sign, and how many fields and bytes
come before it. -/
def readKeyStart? : Bytes → Option SortKey
  | 0x2b :: text => do
      let (fields, rest) ← (readKeyCount "" text).toOption
      let (bytes, rest) ← (readKeyBytes 0 rest).toOption
      let (rule, rest) := readRule true false {} rest
      if rest.isEmpty then
        some { first := if fields = 0 && bytes = 0 then none else some { fields, bytes }, rule }
      else none
  | _ => none

/-- Whether a word after such a beginning is the end of the key. -/
def isKeyEnd : Bytes → Bool
  | 0x2d :: digit :: _ => Byte.isDigit digit
  | _ => false

/-- Read a word as the end of a key: a minus sign, and how many fields and bytes come
before it. -/
def readKeyEnd (key : SortKey) (word : Bytes) : Except OptionProblem SortKey := do
  let (fields, rest) ← readKeyCount "invalid number after '-'" word.tail
  let (bytes, rest) ← readKeyBytes 0 rest
  let (rule, rest) := readRule false true key.rule rest
  if !rest.isEmpty then throw (badKey strayText word)
  return { key with last := some { fields := if bytes = 0 then fields - 1 else fields, bytes }, rule }

end Overseer.Machine
