import Overseer.Machine.Escape
import Overseer.Text.Floating.Print
import Overseer.Text.Quoting

/-!
# Formats

A format is text in which directives stand for arguments.  It is gone through
again and again until all arguments are used.
-/

namespace Overseer.Machine

/-- The greatest length or precision. -/
def greatestSize : Nat :=
  2147483647

/-- What is wrong with an argument that should be a number. -/
inductive NumberProblem
  /-- It begins with no number. -/
  | missing
  /-- Something follows the number. -/
  | incomplete
  /-- The number is too large. -/
  | range
deriving DecidableEq, Repr

/-- A directive without its conversion letter. -/
structure Directive where
  /-- The flags. -/
  flags : Bytes := []
  /-- The least length. -/
  width : Nat := 0
  /-- The precision. -/
  precision : Option Nat := none
  /-- Whether a precision is written, even if that says nothing. -/
  hasPoint : Bool := false
  /-- Whether there is nothing between the sign and the letter. -/
  isBare : Bool := false

/-- What a program that prints under formats does in its own way. -/
structure FormatStyle where
  /-- The escapes in formats. -/
  escapes : EscapeStyle
  /-- The escapes in arguments. -/
  argumentEscapes : EscapeStyle
  /-- The flags of directives. -/
  flags : String
  /-- The letters for lengths, which say nothing. -/
  lengths : String := ""
  /-- Whether a directive goes with a conversion letter. -/
  allows : Directive → Char → Bool
  /-- The floating numbers. -/
  floats : FloatingFormat
  /-- Whether a quote alone stands for zero. -/
  loneQuotes : Bool
  /-- What is said of a bad number. -/
  numberComplaint : NumberProblem → Bytes → Bytes
  /-- What is said of an argument that begins with a quote and goes on after the byte
  after that. -/
  characterComplaint? : Option (Bytes → Bytes) := none
  /-- What is said of a bad directive. -/
  directiveComplaint : Bytes → Bytes
  /-- What is said of a directive at the end of the format. -/
  endComplaint : Bytes → Bytes := directiveComplaint
  /-- The code after a bad directive. -/
  failure : Nat
  /-- What is said of arguments that a format does not use, of which the first is
  given. -/
  excessComplaint? : Option (Bytes → Bytes) := none

/-- A part of what going through a format comes to. -/
inductive FormatPart
  /-- Text that is printed. -/
  | text (text : Bytes)
  /-- What is said of an argument or a directive. -/
  | complaint (text : Bytes)

/-- What going through a format comes to. -/
structure Formatted where
  /-- The parts. -/
  parts : List FormatPart := []
  /-- The arguments not used. -/
  rest : List Bytes
  /-- Whether any argument was asked for. -/
  used : Bool := false
  /-- The code. -/
  code : Nat := 0
  /-- Whether nothing more is printed. -/
  ends : Bool := false

namespace Directive

/-- Whether there is a flag. -/
def has (d : Directive) (flag : Char) : Bool :=
  d.flags.contains flag.toNat.toUInt8

/-- Fill a text up to the least length. -/
def fill (d : Directive) (text : Bytes) : Bytes :=
  let blanks := List.replicate (d.width - text.length) Byte.space
  if d.has '-' then text ++ blanks else blanks ++ text

/-- A text under the directive. -/
def showText (d : Directive) (text : Bytes) : Bytes :=
  d.fill (match d.precision with
    | some n => text.take n
    | none => text)

/-- Digits under the directive, after a sign or a mark of their base. -/
def showDigits (d : Directive) (mark digits : Bytes) : Bytes :=
  let zeros (n : Nat) : Bytes := List.replicate n 0x30
  match d.precision with
  | some n =>
      let digits := if n = 0 && digits = utf8 "0" then [] else digits
      d.fill (mark ++ zeros (n - digits.length) ++ digits)
  | none =>
      if d.has '0' && !d.has '-' then
        mark ++ zeros (d.width - mark.length - digits.length) ++ digits
      else d.fill (mark ++ digits)

/-- A number with a sign under the directive. -/
def showSigned (d : Directive) (n : Int) : Bytes :=
  let sign := if n < 0 then utf8 "-" else if d.has '+' then utf8 "+"
    else if d.has ' ' then utf8 " " else []
  d.showDigits sign (digitsIn 10 n.natAbs)

/-- A number without a sign under the directive, by its conversion letter. -/
def showUnsigned (d : Directive) (letter : Char) (n : Nat) : Bytes :=
  let marked := d.has '#' && n ≠ 0
  match letter with
  | 'x' => d.showDigits (if marked then utf8 "0x" else []) (digitsIn 16 n)
  | 'X' =>
      d.showDigits (if marked then utf8 "0X" else [])
        (utf8 (String.ofList ((Nat.toDigits 16 n).map Char.toUpper)))
  | 'o' =>
      if marked then d.showDigits [] (utf8 "0" ++ digitsIn 8 n)
      else if d.has '#' then
        { d with precision := d.precision.map (max 1) }.showDigits [] (utf8 "0")
      else d.showDigits [] (digitsIn 8 n)
  | _ => d.showDigits [] (digitsIn 10 n)

/-- A floating number under the directive. -/
def showFloating (d : Directive) (format : FloatingFormat) (way : Floating.Notation)
    (capitals : Bool) (x : Floating) : Bytes :=
  let sign := if x.isNegative then utf8 "-" else if d.has '+' then utf8 "+"
    else if d.has ' ' then utf8 " " else []
  let text := x.text format way d.precision (d.has '#')
  let text := if capitals then
      text.map (fun b => if 0x61 ≤ b && b ≤ 0x7a then b - 0x20 else b)
    else text
  let isFinite := match x with
    | .finite _ _ _ => true
    | _ => false
  let mark := if way = .hexadecimal && isFinite then text.take 2 else []
  let digits := text.drop mark.length
  if isFinite && d.has '0' && !d.has '-' then
    let zeros := d.width - sign.length - mark.length - digits.length
    sign ++ mark ++ List.replicate zeros 0x30 ++ digits
  else d.fill (sign ++ mark ++ digits)

end Directive

/-- What an argument stands for, and what is said of it. -/
structure NumberArgument (α : Type) where
  /-- The number. -/
  value : α
  /-- What is wrong with it. -/
  problem : Option NumberProblem := none
  /-- What is not looked at. -/
  ignored : Bytes := []

/-- The number that a quote and the byte after it stand for; a quote alone may stand
for zero. -/
def readQuoted? (loneQuotes : Bool) (argument : Bytes) : Option (Nat × Bytes) :=
  match argument with
  | b :: rest =>
      if (b = Byte.quote || b = Byte.doubleQuote) && (loneQuotes || !rest.isEmpty) then
        some ((rest.headD 0).toNat, rest.tail)
      else none
  | [] => none

/-- The number an argument stands for.  A quote stands for the number of the byte after
it, and nothing for zero. -/
def readArgument (loneQuotes : Bool) (argument : Bytes) : NumberArgument Int :=
  match readQuoted? loneQuotes argument with
  | some (n, ignored) => { value := n, ignored }
  | none =>
      if argument.isEmpty then { value := 0 }
      else
        match readInteger? argument with
        | none => { value := 0, problem := some .missing }
        | some (n, rest) =>
            { value := n, problem := if rest.isEmpty then none else some .incomplete }

/-- The floating number an argument stands for. -/
def readFloatingArgument (loneQuotes : Bool) (format : FloatingFormat) (argument : Bytes) :
    NumberArgument Floating :=
  match readQuoted? loneQuotes argument with
  | some (n, ignored) => { value := .ofNat n, ignored }
  | none =>
      if argument.isEmpty then { value := .zero }
      else
        match Floating.read? format argument with
        | none => { value := .zero, problem := some .missing }
        | some r =>
            { value := r.value
              problem := if !r.rest.isEmpty then some .incomplete
                else if r.outOfRange then some .range
                else none }

/-- A number within bounds. -/
def clamp (least greatest : Int) (n : NumberArgument Int) : NumberArgument Int :=
  if n.value < least then { n with value := least, problem := some .range }
  else if greatest < n.value then { n with value := greatest, problem := some .range }
  else n

namespace Formatted

/-- Take an argument. -/
def take (f : Formatted) : Bytes × Formatted :=
  (f.rest.headD [], { f with rest := f.rest.tail, used := true })

/-- Add text. -/
def add (f : Formatted) (text : Bytes) : Formatted :=
  { f with parts := f.parts ++ [.text text] }

/-- Complain. -/
def say (f : Formatted) (complaint : Bytes) : Formatted :=
  { f with parts := f.parts ++ [.complaint complaint] }

/-- The text that is printed. -/
def text (f : Formatted) : Bytes :=
  f.parts.flatMap (fun part => match part with
    | .text text => text
    | .complaint _ => [])

/-- What is said. -/
def complaints (f : Formatted) : List Bytes :=
  f.parts.filterMap (fun part => match part with
    | .text _ => none
    | .complaint text => some text)

/-- Take note of what is said of a number. -/
def note {α : Type} (f : Formatted) (style : FormatStyle) (argument : Bytes)
    (n : NumberArgument α) : Formatted :=
  let f :=
    match n.problem with
    | none => f
    | some problem => { f.say (style.numberComplaint problem argument) with code := 1 }
  match style.characterComplaint? with
  | some complaint => if n.ignored.isEmpty then f else f.say (complaint n.ignored)
  | none => f

/-- End because of a bad directive, of which something is said. -/
def refuse (f : Formatted) (style : FormatStyle) (complaint : Bytes) : Formatted :=
  { f.say complaint with code := style.failure, ends := true }

/-- A number given by digits, or by an argument in their place; and what follows.  A
number that is too large is complained about by its name. -/
def readSize (f : Formatted) (style : FormatStyle) (what : String) (text : Bytes) :
    Option Int × Bytes × Formatted :=
  match text with
  | 0x2a :: rest =>
      if f.rest.isEmpty then (some 0, rest, f)
      else
        let (argument, f) := f.take
        let n := readArgument style.loneQuotes argument
        let f := f.note style argument n
        if n.value.natAbs ≤ greatestSize then (some n.value, rest, f)
        else
          (none, rest,
            f.refuse style (utf8 ("invalid " ++ what ++ ": ") ++ Quoting.single argument))
  | _ =>
      let digits := text.takeWhile Byte.isDigit
      ((readNumber? digits).map Int.ofNat, text.drop digits.length, f)

/-- Read a directive after its sign, without the conversion letter: it, and what
follows.  A negative precision says nothing. -/
def readDirective (f : Formatted) (style : FormatStyle) (text : Bytes) :
    Directive × Bytes × Formatted :=
  let flags := text.takeWhile (utf8 style.flags).contains
  let (width, rest, f) := f.readSize style "field width" (text.drop flags.length)
  let (hasPoint, precision, rest, f) : Bool × Option Int × Bytes × Formatted :=
    match rest with
    | 0x2e :: rest =>
        let (n, rest, f) := f.readSize style "precision" rest
        (true, some (n.getD 0), rest, f)
    | _ => (false, none, rest, f)
  let isBare := rest.length = text.length
  let rest := rest.dropWhile (utf8 style.lengths).contains
  let width := width.getD 0
  let flags := if width < 0 then 0x2d :: flags else flags
  let precision := (precision.filter (0 ≤ ·)).map Int.toNat
  ({ flags, width := width.natAbs, precision, hasPoint, isBare }, rest, f)

/-- The floating notation of a conversion letter, and whether it is a capital. -/
def floatingNotation? (letter : Char) : Option (Floating.Notation × Bool) :=
  let way : Option Floating.Notation :=
    match letter.toLower with
    | 'f' => some .fixed
    | 'e' => some .scientific
    | 'g' => some .general
    | 'a' => some .hexadecimal
    | _ => none
  way.map (fun way => (way, letter.isUpper))

/-- Convert an argument by a directive with a conversion letter; nothing for a
letter that is none. -/
def convert? (f : Formatted) (style : FormatStyle) (d : Directive) (letter : Char) :
    Option Formatted :=
  let (argument, later) := f.take
  match letter with
  | 's' => some (later.add (d.showText argument))
  | 'c' => some (later.add ({ d with precision := none }.showText [argument.headD 0]))
  | 'q' => some (if f.rest.isEmpty then later else later.add (Quoting.wordIfNeeded argument))
  | 'b' =>
      let u := unescape style.argumentEscapes argument
      let later := { later.add (d.showText u.text) with ends := u.ends }
      some (match u.complaint with
        | none => later
        | some complaint => later.refuse style complaint)
  | 'd' | 'i' =>
      let n := clamp (-Int.ofNat greatestSigned - 1) (Int.ofNat greatestSigned)
        (readArgument style.loneQuotes argument)
      some ((later.note style argument n).add (d.showSigned n.value))
  | 'u' | 'o' | 'x' | 'X' =>
      let n := clamp (-Int.ofNat greatestUnsigned) (Int.ofNat greatestUnsigned)
        (readArgument style.loneQuotes argument)
      let wrapped := (n.value % (Int.ofNat greatestUnsigned + 1)).toNat
      some ((later.note style argument n).add (d.showUnsigned letter wrapped))
  | _ =>
      (floatingNotation? letter).map (fun (way, capitals) =>
        let n := readFloatingArgument style.loneQuotes style.floats argument
        (later.note style argument n).add (d.showFloating style.floats way capitals n.value))

end Formatted

/-- Go once through a format; the first argument bounds its length. -/
def formatOnce (style : FormatStyle) : Nat → Bytes → Formatted → Formatted
  | 0, _, f => f
  | fuel + 1, text, f =>
      let plain := text.takeWhile (fun b => b ≠ Byte.backslash && b ≠ 0x25)
      let f := f.add plain
      match text.drop plain.length with
      | [] => f
      | b :: rest =>
          if b = Byte.backslash then
            match readEscape style.escapes rest with
            | .piece piece rest => formatOnce style fuel rest (f.add piece)
            | .ends => { f with ends := true }
            | .bad complaint => f.refuse style complaint
          else if rest.head? = some 0x25 then formatOnce style fuel rest.tail (f.add [0x25])
          else
            let (d, later, g) := f.readDirective style rest
            if g.ends then g
            else match later with
            | [] => g.refuse style (style.endComplaint (b :: rest))
            | letter :: after =>
                let letter := Char.ofNat letter.toNat
                match if style.allows d letter then g.convert? style d letter else none with
                | none =>
                    let directive := b :: rest.take (rest.length - after.length)
                    g.refuse style (style.directiveComplaint directive)
                | some f => if f.ends then f else formatOnce style fuel after f

/-- Go through a format until all arguments are used; the first argument bounds
how often. -/
def formatWithin (style : FormatStyle) (format : Bytes) : Nat → Formatted → Formatted
  | 0, f => f
  | fuel + 1, f =>
      let f := formatOnce style (format.length + 1) format { f with used := false }
      if f.ends || f.rest.isEmpty then f
      else if f.used then formatWithin style format fuel f
      else
        match style.excessComplaint?, f.rest with
        | some complaint, first :: _ => f.say (complaint first)
        | _, _ => f

/-- Print arguments under a format. -/
def formatAll (style : FormatStyle) (format : Bytes) (args : List Bytes) : Formatted :=
  formatWithin style format (args.length + 1) { rest := args }

end Overseer.Machine
