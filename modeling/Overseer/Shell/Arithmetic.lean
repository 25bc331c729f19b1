import Overseer.Text.Numeral

/-!
# Shell arithmetic

Expressions over variables, in integers of 64 bits that wrap around.  Operators
of one level associate to the left, and comparisons give one or zero.  An
expression is evaluated while it is read, so that of two things that are wrong
with it the earlier one counts.
-/

namespace Overseer.Shell

/-- What is wrong with an expression. -/
inductive ArithmeticProblem
  /-- Something else was expected. -/
  | expecting (what : String)
  /-- A division by zero. -/
  | divisionByZero
  /-- A quotient that is too large, which no program survives. -/
  | overflow
  /-- A variable whose value is no number. -/
  | badNumber (value : Bytes)
deriving DecidableEq

/-! ## Numerals -/

/-- The number that the value of a variable stands for.  There may be blanks
around the numeral; nothing stands for zero. -/
def readValue? (value : Bytes) : Option Int64 :=
  match readInteger? value with
  | none => if (trimFront value).isEmpty then some 0 else none
  | some (n, rest) =>
      let bound : Int := Int.ofNat greatestSigned
      if !(trimFront rest).isEmpty || bound < n || n < -bound - 1 then none else some (.ofInt n)

/-! ## Symbols -/

/-- What expressions are made of. -/
inductive Symbol
  /-- A number. -/
  | number (value : Int64)
  /-- A variable. -/
  | variable (name : Bytes)
  /-- A sign. -/
  | sign (text : String)
  /-- A byte that has no meaning. -/
  | stray
deriving DecidableEq

/-- The signs, longer ones before their beginnings. -/
def arithmeticSigns : List String :=
  ["<<=", ">>=", "<<", ">>", "<=", ">=", "==", "!=", "&&", "||", "+=", "-=", "*=", "/=", "%=",
    "&=", "|=", "^=", "+", "-", "*", "/", "%", "<", ">", "!", "~", "&", "|", "^", "?", ":", "=",
    "(", ")"]

/-- The symbols of an expression; the first argument bounds their number. -/
def scanSymbols : Nat → Bytes → List Symbol
  | 0, _ => []
  | fuel + 1, text =>
      match trimFront text with
      | [] => []
      | b :: rest =>
          let text := b :: rest
          if Byte.isDigit b then
            let (n, rest) := readNumeral text
            .number (Int64.ofNat (min n greatestSigned)) :: scanSymbols fuel rest
          else if Byte.isNameStart b then
            let name := text.takeWhile Byte.isNamePart
            .variable name :: scanSymbols fuel (text.drop name.length)
          else
            match arithmeticSigns.find? (fun sign => (utf8 sign).isPrefixOf text) with
            | some sign => .sign sign :: scanSymbols fuel (text.drop (utf8 sign).length)
            | none => [.stray]

/-! ## Operators -/

/-- One for true and zero for false. -/
def truth (b : Bool) : Int64 :=
  if b then 1 else 0

/-- Something that is only defined for a divisor. -/
def dividing (f : Int64 → Int64 → Int64) (a b : Int64) : Except ArithmeticProblem Int64 :=
  if b = 0 then .error .divisionByZero
  else if a = Int64.minValue && b = -1 then .error .overflow
  else .ok (f a b)

/-- What a binary operator computes, or else its first operand. -/
def applyOperator (sign : String) (a b : Int64) : Except ArithmeticProblem Int64 :=
  match sign with
  | "|" => .ok (a ||| b)
  | "^" => .ok (a ^^^ b)
  | "&" => .ok (a &&& b)
  | "==" => .ok (truth (a == b))
  | "!=" => .ok (truth (a != b))
  | "<" => .ok (truth (decide (a < b)))
  | ">" => .ok (truth (decide (b < a)))
  | "<=" => .ok (truth (decide (a ≤ b)))
  | ">=" => .ok (truth (decide (b ≤ a)))
  | "<<" => .ok (a <<< b)
  | ">>" => .ok (a >>> b)
  | "+" => .ok (a + b)
  | "-" => .ok (a - b)
  | "*" => .ok (a * b)
  | "/" => dividing (· / ·) a b
  | "%" => dividing (· % ·) a b
  | _ => .ok a

/-- The operators whose operands are always evaluated, level by level from the
loosest to the tightest. -/
def operatorLevels : List (List String) :=
  [["|"], ["^"], ["&"], ["==", "!="], ["<", ">", "<=", ">="], ["<<", ">>"], ["+", "-"],
    ["*", "/", "%"]]

/-- The operators that assign the result of another operator. -/
def assigningOperators : List (String × String) :=
  [("<<=", "<<"), (">>=", ">>"), ("+=", "+"), ("-=", "-"), ("*=", "*"), ("/=", "/"), ("%=", "%"),
    ("&=", "&"), ("|=", "|"), ("^=", "^"), ("=", "")]

/-! ## Evaluation -/

/-- An expression under way. -/
structure Computation where
  /-- The symbols that are left. -/
  symbols : List Symbol
  /-- What was assigned, the latest first. -/
  assigned : List (Bytes × Int64) := []

/-- What evaluates a part of an expression. -/
abbrev Computing (α : Type) := StateT Computation (Except ArithmeticProblem) α

/-- Go past a sign, if it is one of some: which one. -/
def takeSign? (signs : List String) : Computing (Option String) := do
  let c ← get
  match c.symbols with
  | .sign text :: rest =>
      if signs.contains text then
        set { c with symbols := rest }
        pure (some text)
      else pure none
  | _ => pure none

/-- Go past a sign that has to be there. -/
def expectSign (text what : String) : Computing Unit := do
  if (← takeSign? [text]).isNone then throw (.expecting what)

/-- The value of a variable. -/
def variableValue (look : Bytes → Option Bytes) (name : Bytes) : Computing Int64 := do
  match (← get).assigned.find? (fun entry => entry.1 = name) with
  | some (_, value) => pure value
  | none =>
      let text := (look name).getD []
      match readValue? text with
      | some value => pure value
      | none => throw (.badNumber text)

/-- Give a variable a value. -/
def assignValue (name : Bytes) (value : Int64) : Computing Unit :=
  modify (fun c => { c with assigned := (name, value) :: c.assigned })

/-- The variable and the operator of an assignment that comes next, which is gone
past. -/
def takeAssignment? : Computing (Option (Bytes × String)) := do
  let c ← get
  match c.symbols with
  | .variable name :: .sign text :: rest =>
      match assigningOperators.find? (fun entry => entry.1 = text) with
      | some (_, operator) =>
          set { c with symbols := rest }
          pure (some (name, operator))
      | none => pure none
  | _ => pure none

/- Parts that do not count are read, but nothing is looked up, computed or
assigned for them. -/

mutual

/-- Evaluate an assignment or something tighter. -/
def computeAssignment (look : Bytes → Option Bytes) : Nat → Bool → Computing Int64
  | 0, _ => throw (.expecting "primary")
  | fuel + 1, counts => do
      match ← takeAssignment? with
      | none => computeChoice look fuel counts
      | some (name, operator) =>
          let right ← computeAssignment look fuel counts
          if !counts then return right
          let value ←
            if operator = "" then pure right
            else
              let left ← variableValue look name
              liftM (applyOperator operator left right)
          assignValue name value
          return value

/-- Evaluate one of two, as a condition is true or not. -/
def computeChoice (look : Bytes → Option Bytes) : Nat → Bool → Computing Int64
  | 0, _ => throw (.expecting "primary")
  | fuel + 1, counts => do
      let condition ← computeEither look fuel counts
      if (← takeSign? ["?"]).isNone then return condition
      let first ← computeAssignment look fuel (counts && condition != 0)
      expectSign ":" "':'"
      let second ← computeChoice look fuel (counts && condition == 0)
      return if condition != 0 then first else second

/-- Evaluate alternatives up to the first that is true. -/
def computeEither (look : Bytes → Option Bytes) : Nat → Bool → Computing Int64
  | 0, _ => throw (.expecting "primary")
  | fuel + 1, counts => do
      let first ← computeBoth look fuel counts
      if (← takeSign? ["||"]).isNone then return first
      let second ← computeEither look fuel (counts && first == 0)
      return truth (first != 0 || second != 0)

/-- Evaluate conditions up to the first that is false. -/
def computeBoth (look : Bytes → Option Bytes) : Nat → Bool → Computing Int64
  | 0, _ => throw (.expecting "primary")
  | fuel + 1, counts => do
      let first ← computeLevel look fuel counts operatorLevels
      if (← takeSign? ["&&"]).isNone then return first
      let second ← computeBoth look fuel (counts && first != 0)
      return truth (first != 0 && second != 0)

/-- Evaluate an expression of the given levels. -/
def computeLevel (look : Bytes → Option Bytes) : Nat → Bool → List (List String) → Computing Int64
  | 0, _, _ => throw (.expecting "primary")
  | fuel + 1, counts, [] => computeOperand look fuel counts
  | fuel + 1, counts, signs :: tighter => do
      let first ← computeLevel look fuel counts tighter
      computeRest look fuel counts signs tighter first

/-- Go on after a first operand. -/
def computeRest (look : Bytes → Option Bytes) :
    Nat → Bool → List String → List (List String) → Int64 → Computing Int64
  | 0, _, _, _, _ => throw (.expecting "primary")
  | fuel + 1, counts, signs, tighter, first => do
      match ← takeSign? signs with
      | none => return first
      | some sign =>
          let second ← computeLevel look fuel counts tighter
          let value ← if counts then liftM (applyOperator sign first second) else pure second
          computeRest look fuel counts signs tighter value

/-- Evaluate a number, a variable, a signed operand or something in
parentheses. -/
def computeOperand (look : Bytes → Option Bytes) : Nat → Bool → Computing Int64
  | 0, _ => throw (.expecting "primary")
  | fuel + 1, counts => do
      let c ← get
      match c.symbols with
      | .number value :: rest =>
          set { c with symbols := rest }
          return value
      | .variable name :: rest =>
          set { c with symbols := rest }
          if counts then variableValue look name else return 0
      | _ =>
          match ← takeSign? ["-", "+", "~", "!", "("] with
          | some "-" => return -(← computeOperand look fuel counts)
          | some "+" => computeOperand look fuel counts
          | some "~" => return ~~~(← computeOperand look fuel counts)
          | some "!" => return truth ((← computeOperand look fuel counts) == 0)
          | some _ =>
              let value ← computeAssignment look fuel counts
              expectSign ")" "')'"
              return value
          | none => throw (.expecting "primary")

end

/-- How deep the parts of an expression can be nested for each of its symbols. -/
def nestingOfSymbol : Nat :=
  16

/-- The value of a whole expression, and what it assigns, the latest first. -/
def evaluate (look : Bytes → Option Bytes) (text : Bytes) :
    Except ArithmeticProblem (Int64 × List (Bytes × Int64)) := do
  let symbols := scanSymbols (text.length + 1) text
  let fuel := nestingOfSymbol * (symbols.length + 1)
  let (value, c) ← (computeAssignment look fuel true).run { symbols }
  if c.symbols.isEmpty then return (value, c.assigned)
  else throw (.expecting "EOF")

/-- The wording of a problem with an expression. -/
def ArithmeticProblem.message (expression : Bytes) : ArithmeticProblem → Bytes
  | expecting what =>
      utf8 ("arithmetic expression: expecting " ++ what ++ ": \"") ++ expression ++ utf8 "\""
  | divisionByZero | overflow =>
      utf8 "arithmetic expression: division by zero: \"" ++ expression ++ utf8 "\""
  | badNumber value => utf8 "Illegal number: " ++ value

end Overseer.Shell
