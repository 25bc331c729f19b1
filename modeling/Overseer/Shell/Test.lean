import Overseer.Machine.Activity
import Overseer.Text.Numeral

/-!
# Conditions

What the commands `test` and `[` find to be true of texts, numbers and files.
Tests are joined by `-a`, which binds more tightly, and `-o`, and may stand in
parentheses.  What a word means depends on the words after it: an operator with
nothing to apply it to is an ordinary word.
-/

namespace Overseer.Shell

open Overseer.Machine Overseer.File

/-- What a word means in a test. -/
inductive TestWord
  /-- There is no word. -/
  | nothing
  /-- An ordinary word. -/
  | operand
  /-- An operator with one operand. -/
  | unary (letter : Char)
  /-- An operator with two operands. -/
  | binary (text : Bytes)
  /-- The opposite. -/
  | negation
  /-- Both of two tests. -/
  | conjunction
  /-- One of two tests. -/
  | disjunction
  /-- An opening parenthesis. -/
  | opening
  /-- A closing parenthesis. -/
  | closing
deriving DecidableEq, Repr

/-- The operators with two operands. -/
def binaryTests : List String :=
  ["=", "!=", "<", ">", "-eq", "-ne", "-ge", "-gt", "-le", "-lt", "-nt", "-ot", "-ef"]

/-- Whether a word is an operator with two operands. -/
def isBinaryTest (word : Bytes) : Bool :=
  binaryTests.any (fun text => utf8 text = word)

/-- What a word means by itself. -/
def TestWord.ofText (word : Bytes) : TestWord :=
  if isBinaryTest word then .binary word
  else if word = utf8 "!" then .negation
  else if word = utf8 "-a" then .conjunction
  else if word = utf8 "-o" then .disjunction
  else if word = utf8 "(" then .opening
  else if word = utf8 ")" then .closing
  else
    match word with
    | [0x2d, letter] =>
        if (utf8 "rwxefdcbpugkstznhOGLS").contains letter then .unary (Char.ofNat letter.toNat)
        else .operand
    | _ => .operand

/-- Whether an operator with one operand is an ordinary word before some others. -/
def standsAlone : List Bytes → Bool
  | [] => true
  | [_] => false
  | next :: _ => isBinaryTest next

/-- What the first of some words means. -/
def TestWord.ofWords : List Bytes → TestWord
  | [] => .nothing
  | word :: rest =>
      match TestWord.ofText word with
      | .unary letter => if standsAlone rest then .operand else .unary letter
      | .opening => if rest.isEmpty then .operand else .opening
      | other => other

/-- The number a word stands for, or a complaint. -/
def testNumber (word : Bytes) : Except Bytes Int :=
  match readDecimal? word with
  | some n => .ok n
  | none => .error (utf8 "Illegal number: " ++ word)

/-- The truth of a test with one operand. -/
def testUnary (o : Outlook) (letter : Char) (operand : Bytes) : Except Bytes Bool :=
  let node := o.stat? operand
  match letter with
  | 'n' => .ok !operand.isEmpty
  | 'z' => .ok operand.isEmpty
  | 't' => (testNumber operand).map (fun _ => false)
  | 'e' | 'O' | 'G' => .ok node.isSome
  | 'r' => .ok (node.any Node.isReadable)
  | 'w' => .ok (node.any Node.isWritable)
  | 'x' => .ok (node.any Node.isExecutableByOwner)
  | 'f' => .ok (node.any Node.isRegular)
  | 'd' => .ok (node.any Node.isDirectory)
  | 'c' => .ok (node.any Node.isDevice)
  | 'p' => .ok (decide (node = some .pipe))
  | 's' => .ok (node.any Node.hasContent)
  | 'h' | 'L' =>
      let place := (o.tree.resolveLink o.place operand).toOption
      .ok ((place.bind o.tree.node?).any Node.isLink)
  | _ => .ok false

/-- The truth of a test with two operands. -/
def testBinary (o : Outlook) (operator left right : Bytes) : Except Bytes Bool :=
  let numbers (holds : Int → Int → Bool) : Except Bytes Bool := do
    let a ← testNumber left
    let b ← testNumber right
    return holds a b
  let places (holds : Place → Place → Bool) : Bool :=
    match o.tree.resolve o.place left, o.tree.resolve o.place right with
    | .ok a, .ok b => holds a b
    | _, _ => false
  let table : List (String × Except Bytes Bool) :=
    [("=", .ok (left == right)), ("!=", .ok (left != right)), ("<", .ok (decide (left < right))),
      (">", .ok (decide (right < left))), ("-eq", numbers (· == ·)), ("-ne", numbers (· != ·)),
      ("-lt", numbers (fun a b => decide (a < b))), ("-le", numbers (fun a b => decide (a ≤ b))),
      ("-gt", numbers (fun a b => decide (b < a))), ("-ge", numbers (fun a b => decide (b ≤ a))),
      ("-ef", .ok (places (fun a b => decide (a = b)))), ("-nt", .ok (places o.tree.isNewer)),
      ("-ot", .ok (places (fun a b => o.tree.isNewer b a)))]
  match table.find? (fun entry => utf8 entry.1 = operator) with
  | some (_, truth) => truth
  | none => .ok false

/-- What reads a part of a test; the words begin with the last one that was read. -/
abbrev Testing (α : Type) := StateT (List Bytes) (Except Bytes) α

/-- Go on by some words: what the next one means. -/
def moveOn (count : Nat) : Testing TestWord := do
  modify (List.drop count)
  pure (.ofWords (← get))

/-- What the word after this one means. -/
def wordAfter : Testing TestWord := do
  pure (.ofWords (← get).tail)

/-- The word here. -/
def wordHere (otherwise : Bytes) : Testing Bytes := do
  match ← get with
  | [] => throw otherwise
  | word :: _ => pure word

mutual

/-- Read tests of which one has to be true; `first` is what the word here means. -/
def readEither (o : Outlook) : Nat → TestWord → Testing Bool
  | 0, _ => pure false
  | fuel + 1, first => do
      let value ← readBoth o fuel first
      if (← wordAfter) = .disjunction then
        let later ← readEither o fuel (← moveOn 2)
        return value || later
      return value

/-- Read tests all of which have to be true. -/
def readBoth (o : Outlook) : Nat → TestWord → Testing Bool
  | 0, _ => pure false
  | fuel + 1, first => do
      let value ← readOpposite o fuel first
      if (← wordAfter) = .conjunction then
        let later ← readBoth o fuel (← moveOn 2)
        return value && later
      return value

/-- Read a test that may have to be false. -/
def readOpposite (o : Outlook) : Nat → TestWord → Testing Bool
  | 0, _ => pure false
  | fuel + 1, first => do
      if first = .negation then
        let next ← wordAfter
        if next ≠ .nothing then modify List.tail
        return !(← readOpposite o fuel next)
      readSingle o fuel first

/-- Read a single test. -/
def readSingle (o : Outlook) : Nat → TestWord → Testing Bool
  | 0, _ => pure false
  | fuel + 1, first => do
      match first with
      | .nothing => return false
      | .opening =>
          let inner ← moveOn 1
          if inner = .closing then return false
          let value ← readEither o fuel inner
          if (← moveOn 1) ≠ .closing then throw (utf8 "closing paren expected")
          return value
      | .unary letter =>
          let operator ← wordHere []
          let _ ← moveOn 1
          let operand ← wordHere (operator ++ utf8 ": argument expected")
          liftM (testUnary o letter operand)
      | _ =>
          let left ← wordHere []
          match ← wordAfter with
          | .binary operator =>
              let _ ← moveOn 2
              let right ← wordHere (operator ++ utf8 ": argument expected")
              liftM (testBinary o operator left right)
          | _ => return !left.isEmpty

end

/-- The truth of a test that all the words make, or a complaint about it. -/
def evaluateWords (o : Outlook) (first : TestWord) (words : List Bytes) : Except Bytes Bool := do
  let (value, rest) ← (readEither o (4 * words.length + 4) first).run words
  match rest with
  | last :: _ :: _ => throw (last ++ utf8 ": unexpected operator")
  | _ => return value

/-- The truth of a test, or a complaint about it.  Three words with an operator in
the middle are always a test with two operands; otherwise an exclamation mark before
two or three words, and parentheses around one or two, come first. -/
def evaluateTest (o : Outlook) : List Bytes → Except Bytes Bool
  | [] => .ok false
  | [left, operator, right] =>
      if isBinaryTest operator then evaluateWords o .operand [left, operator, right]
      else if left = utf8 "(" && right = utf8 ")" then
        evaluateWords o (.ofWords [operator]) [operator]
      else if left = utf8 "!" then (evaluateTest o [operator, right]).map not
      else evaluateWords o (.ofWords [left, operator, right]) [left, operator, right]
  | [first, second, third, fourth] =>
      if first = utf8 "(" && fourth = utf8 ")" then
        evaluateWords o (.ofWords [second, third]) [second, third]
      else if first = utf8 "!" then (evaluateTest o [second, third, fourth]).map not
      else evaluateWords o (.ofWords [first, second, third, fourth]) [first, second, third, fourth]
  | words => evaluateWords o (.ofWords words) words

end Overseer.Shell
