import Overseer.Shell.Syntax

/-!
# Nesting

What a word of the shell language is in the middle of: quotes, braces and
substitutions, one inside of the other.
-/

namespace Overseer.Shell

/-- What a word can be in the middle of. -/
inductive Nest
  /-- Single quotes. -/
  | single
  /-- Double quotes. -/
  | double
  /-- Parentheses around commands whose output is substituted. -/
  | paren
  /-- The double parentheses of an arithmetic expression. -/
  | sum
  /-- Parentheses inside of one. -/
  | group
  /-- Braces of a parameter. -/
  | brace
  /-- Braces of a parameter that takes a pattern off its value. -/
  | pattern
  /-- Back quotes. -/
  | back
  /-- A text that a redirection reads. -/
  | document
  /-- The word that ends such a text. -/
  | ending
deriving DecidableEq, Repr

/-- A back quote. -/
def backquote : UInt8 := 0x60
/-- An opening parenthesis. -/
def openParen : UInt8 := 0x28
/-- A closing parenthesis. -/
def closeParen : UInt8 := 0x29
/-- A number sign. -/
def numberSign : UInt8 := 0x23

/-- The number of line feeds in a text. -/
def lineFeeds (text : Bytes) : Nat :=
  text.count Byte.newline

/-- The beginning of a parameter in braces: its name and the sign after it.  All that
stands where the sign should be belongs to it, whatever it would mean elsewhere. -/
structure ParameterHead where
  /-- How long it is. -/
  length : Nat
  /-- What follows it is in the middle of. -/
  nest : Nest := .brace

namespace ParameterHead

/-- Whether a byte alone names a parameter. -/
def isSpecialName (b : UInt8) : Bool :=
  (utf8 "?#$@*!-").contains b || Byte.isDigit b

/-- The head with a name of some length, given what follows that. -/
def ofSign (name : Nat) : Bytes → ParameterHead
  | 0x3a :: _ :: _ => { length := name + 2 }
  | b :: rest =>
      if b = Byte.closeBrace then { length := name }
      else if b = 0x25 || b = numberSign then
        { length := name + (if rest.head? = some b then 2 else 1), nest := .pattern }
      else { length := name + 1 }
  | [] => { length := name }

/-- Read a head, given what follows the brace. -/
def read (text : Bytes) : ParameterHead :=
  let name (text : Bytes) : Nat :=
    if text.head?.any Byte.isDigit then (text.takeWhile Byte.isDigit).length
    else (text.takeWhile Byte.isNamePart).length
  match text with
  | [] => { length := 0 }
  | b :: rest =>
      if b = Byte.closeBrace then { length := 0 }
      else if Byte.isNamePart b then ofSign (name text) (text.drop (name text))
      else if b = numberSign then
        match rest with
        | c :: next :: _ =>
            if Byte.isNamePart c then { length := 1 + name rest }
            else if c ≠ Byte.closeBrace && next = Byte.closeBrace then { length := 2 }
            else ofSign 1 rest
        | _ => ofSign 1 rest
      else if isSpecialName b then ofSign 1 rest
      else { length := 1 }

end ParameterHead

/-- What is read at once. -/
structure Stride where
  /-- What follows it is in the middle of. -/
  stack : List Nest
  /-- How many bytes it has. -/
  length : Nat
  /-- How many lines it goes past. -/
  lines : Nat := 0

namespace Nest

/-- Whether single quotes are ordinary bytes. -/
def takesQuotes : List Nest → Bool
  | .double :: _ | .sum :: _ | .group :: _ | .document :: _ => true
  | .brace :: outer => takesQuotes outer
  | _ => false

/-- Whether double quotes are ordinary bytes. -/
def isArithmetic (stack : List Nest) : Bool :=
  stack.head? = some .sum || stack.head? = some .group

/-- Whether dollar signs and back quotes are ordinary bytes. -/
def isPlain (stack : List Nest) : Bool :=
  stack.getLast? = some .ending

/-- Whether a backslash and a line end stay where they join lines. -/
def keepsJoins (stack : List Nest) : Bool :=
  !stack.isEmpty && stack.head? ≠ some .back && !isPlain stack

/-- Whether a word ends where a byte stands that ends words. -/
def isOutermost (stack : List Nest) : Bool :=
  stack.isEmpty || stack = [.ending]

/-- Whether commands in parentheses whose output is substituted begin here, given a
byte and what follows it. -/
def opensScript (stack : List Nest) (b : UInt8) (rest : Bytes) : Bool :=
  b = Byte.dollar && rest.head? = some openParen && rest.tail.head? ≠ some openParen &&
    stack.head? ≠ some .single && stack.head? ≠ some .back && !isPlain stack

/-- What a byte does to the nesting it is read in, and how many bytes are read
with it, unless commands in parentheses begin there. -/
def advance (stack : List Nest) (b : UInt8) (rest : Bytes) : List Nest × Nat :=
  match stack with
  | .single :: outer => (if b = Byte.quote then outer else stack, 1)
  | _ =>
      let top := stack.head?
      let outer := stack.tail
      if b = Byte.backslash then (stack, 2)
      else if top = some .back then (if b = backquote then outer else stack, 1)
      else if b = Byte.quote then (if takesQuotes stack then stack else .single :: stack, 1)
      else if b = Byte.doubleQuote then
        (if top = some .double then outer
          else if isArithmetic stack || top = some .document then stack
          else .double :: stack, 1)
      else if isPlain stack then (stack, 1)
      else if b = backquote then (.back :: stack, 1)
      else if b = Byte.dollar && rest.take 2 = [openParen, openParen] then (.sum :: stack, 3)
      else if top = some .sum && b = closeParen then
        if rest.head? = some closeParen then (outer, 2) else (stack, 1)
      else if b = openParen && isArithmetic stack then (.group :: stack, 1)
      else if b = closeParen && top = some .group then (outer, 1)
      else if b = Byte.dollar && rest.head? = some Byte.openBrace then
        let head := ParameterHead.read rest.tail
        (head.nest :: stack, 2 + head.length)
      else if b = Byte.closeBrace && (top = some .brace || top = some .pattern) then (outer, 1)
      else (stack, 1)

/-- What is read at once with a byte in some nesting, unless commands in parentheses begin
there.  Line ends in the head of a parameter do not count. -/
def step (stack : List Nest) (b : UInt8) (rest : Bytes) : Stride :=
  let (after, length) := advance stack b rest
  let isHead := b = Byte.dollar && rest.head? = some Byte.openBrace && 1 < length
  { stack := after, length, lines := if isHead then 0 else lineFeeds ((b :: rest).take length) }

/-- What is not closed when a script ends in some nesting: the quotes around
braces, if there are any, and what is innermost otherwise.  In a text that a redirection
reads quotes do not count. -/
def unclosed (stack : List Nest) : Nest :=
  let inDocument := (stack.takeWhile (· ≠ .paren)).contains .document
  match stack with
  | .brace :: outer => if takesQuotes outer && !inDocument then .double else .brace
  | innermost :: _ =>
      if inDocument && (innermost = .single || innermost = .double) then .brace else innermost
  | [] => .single

end Nest

/-! ## Joined lines -/

/-- What is left of a text, and how many line ends were gone past. -/
structure Remainder where
  /-- The number of line ends. -/
  lines : Nat := 0
  /-- What is left. -/
  text : Bytes

/-- Whether a line goes on after a backslash, given what follows that. -/
def joinsLines (b : UInt8) (rest : Bytes) : Bool :=
  b = Byte.backslash && rest.head? = some Byte.newline

/-- Go past line ends after backslashes. -/
def dropJoins : Bytes → Remainder
  | 0x5c :: 0x0a :: rest =>
      let r := dropJoins rest
      { r with lines := r.lines + 1 }
  | text => { text }

/-- Join the lines in the head of a parameter that a text begins with. -/
def joinHead : Bytes → Remainder
  | 0x5c :: 0x0a :: rest =>
      let r := joinHead rest
      { r with lines := r.lines + 1 }
  | b :: rest =>
      if Byte.isNamePart b then
        let r := joinHead rest
        { r with text := b :: r.text }
      else
        let r := dropJoins rest
        if (utf8 "#%:").contains b then { r with text := b :: r.text } else { text := b :: rest }
  | [] => { text := [] }

/-- What follows a given beginning of a text, inside of which lines may be joined. -/
def after? : Bytes → Bytes → Option Remainder
  | [], text => some { text }
  | c :: beginning, text =>
      let here := dropJoins text
      match here.text with
      | b :: rest =>
          if b = c then
            (after? beginning rest).map (fun r => { r with lines := r.lines + here.lines })
          else none
      | [] => none

/-- Go past blanks, joined lines and a comment. -/
def skipGaps : Bytes → Remainder
  | [] => { text := [] }
  | 0x5c :: 0x0a :: rest =>
      let r := skipGaps rest
      { r with lines := r.lines + 1 }
  | b :: rest =>
      if Byte.isGap b then skipGaps rest
      else if b = numberSign then { text := rest.dropWhile (· ≠ Byte.newline) }
      else { text := b :: rest }

end Overseer.Shell
