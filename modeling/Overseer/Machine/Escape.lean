import Overseer.Text.Numeral

/-!
# Escapes

Backslash escapes as programs that print text read them.
-/

namespace Overseer.Machine

/-- Which escapes a text has besides those of letters and of octal digits. -/
structure EscapeStyle where
  /-- Whether a zero may stand before three octal digits. -/
  zeroFirst : Bool := false
  /-- Whether hexadecimal digits may stand after a letter. -/
  hexadecimal : Bool := false
  /-- Whether hexadecimal digits have to stand after that letter, others stand for
  characters by their numbers, and what follows another backslash has no meaning. -/
  strict : Bool := false
  /-- Whether a letter ends all output. -/
  stops : Bool := false
  /-- Whether a double quote stands for itself. -/
  quotes : Bool := false
deriving DecidableEq, Repr

/-- What an escape stands for. -/
inductive EscapeMeaning
  /-- Some bytes; something follows. -/
  | piece (text rest : Bytes)
  /-- That all output ends. -/
  | ends
  /-- Nothing, which is complained about. -/
  | bad (complaint : Bytes)
deriving DecidableEq

/-- The byte that a letter after a backslash stands for. -/
def escapeLetter? (b : UInt8) : Option UInt8 :=
  match Char.ofNat b.toNat with
  | 'a' => some 0x07
  | 'b' => some 0x08
  | 'e' => some 0x1b
  | 'f' => some 0x0c
  | 'n' => some 0x0a
  | 'r' => some 0x0d
  | 't' => some 0x09
  | 'v' => some 0x0b
  | '\\' => some 0x5c
  | _ => none

/-- The letter that ends all output. -/
def stopLetter : UInt8 :=
  0x63

/-- The letter before hexadecimal digits. -/
def hexadecimalLetter : UInt8 :=
  0x78

/-- The byte of leading digits in a base, at most `count`, and what follows them. -/
def takeByte (base count : Nat) (text : Bytes) : UInt8 × Bytes :=
  let digits := (text.take count).takeWhile (isDigitIn base)
  ((digitsValue base digits).toUInt8, text.drop digits.length)

/-- That hexadecimal digits are missing. -/
def missingDigits : EscapeMeaning :=
  .bad (utf8 "missing hexadecimal number in escape")

/-- Whether a number is that of no character. -/
def isNoCharacter (n : Nat) : Bool :=
  0xd800 ≤ n && n ≤ 0xdfff

/-- The text of a number in base sixteen, with zeros in front up to a length. -/
def hexadecimalDigits (length n : Nat) : Bytes :=
  let digits := digitsIn 16 n
  List.replicate (length - digits.length) 0x30 ++ digits

/-- The character of a number given by so many digits after a letter.  One that is not
ASCII is written by its number. -/
def readCharacter (letter : UInt8) (count : Nat) (text : Bytes) : EscapeMeaning :=
  let digits := text.take count
  if digits.length < count || !digits.all (isDigitIn 16) then missingDigits
  else
    let n := digitsValue 16 digits
    if isNoCharacter n then
      .bad (utf8 "invalid universal character name \\" ++ [letter] ++ hexadecimalDigits count n)
    else if n < 0x80 then .piece [n.toUInt8] (text.drop count)
    else
      let shown := if n < 0x10000 then utf8 "\\u" ++ hexadecimalDigits 4 n
        else utf8 "\\U" ++ hexadecimalDigits 8 n
      let capitals := shown.take 2 ++
        (shown.drop 2).map (fun b => if 0x61 ≤ b && b ≤ 0x66 then b - 0x20 else b)
      .piece capitals (text.drop count)

/-- One escape, given what follows its backslash. -/
def readEscape (style : EscapeStyle) : Bytes → EscapeMeaning
  | [] => .piece [Byte.backslash] []
  | b :: rest =>
      if b = stopLetter && style.stops then .ends
      else if b = Byte.doubleQuote && style.quotes then .piece [b] rest
      else if b = hexadecimalLetter && style.hexadecimal then
        if rest.head?.any (isDigitIn 16) then
          let (c, rest) := takeByte 16 2 rest
          .piece [c] rest
        else if style.strict then missingDigits
        else .piece [Byte.backslash, b] rest
      else if b = 0x75 && style.strict then readCharacter b 4 rest
      else if b = 0x55 && style.strict then readCharacter b 8 rest
      else if isDigitIn 8 b then
        let (c, rest) := takeByte 8 (if style.zeroFirst && b = 0x30 then 4 else 3) (b :: rest)
        .piece [c] rest
      else
        match escapeLetter? b with
        | some c => .piece [c] rest
        | none =>
            if style.strict then .piece [Byte.backslash, b] rest
            else .piece [Byte.backslash] (b :: rest)

/-- What a text with escapes comes to. -/
structure Unescaped where
  /-- The text. -/
  text : Bytes
  /-- Whether an escape ended all output. -/
  ends : Bool := false
  /-- What an escape was complained about. -/
  complaint : Option Bytes := none

/-- Replace the escapes of a text.  The first argument bounds the number of pieces and
may be the length of the text. -/
def unescapeWithin (style : EscapeStyle) : Nat → Bytes → Unescaped
  | 0, text => { text }
  | fuel + 1, text =>
      let plain := text.takeWhile (· ≠ Byte.backslash)
      match text.drop plain.length with
      | [] => { text := plain }
      | _ :: rest =>
          match readEscape style rest with
          | .ends => { text := plain, ends := true }
          | .bad complaint => { text := plain, ends := true, complaint := some complaint }
          | .piece piece rest =>
              let later := unescapeWithin style fuel rest
              { later with text := plain ++ piece ++ later.text }

/-- Replace the escapes of a text. -/
def unescape (style : EscapeStyle) (text : Bytes) : Unescaped :=
  unescapeWithin style text.length text

end Overseer.Machine
