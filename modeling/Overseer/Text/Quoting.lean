import Overseer.Text.Bytes

/-!
# Quoting

How programs show texts that they were given: between single quotes with escapes,
between double quotes, without quotes but with escapes, and as a word that a shell
would read as the text.
-/

namespace Overseer.Quoting

/-- Whether a byte is shown as it is. -/
def isPrintable (b : UInt8) : Bool :=
  0x20 ≤ b && b ≤ 0x7e

/-- The letters that stand for bytes after a backslash. -/
def letters : List (UInt8 × Char) :=
  [(0x07, 'a'), (0x08, 'b'), (0x0c, 'f'), (0x0a, 'n'), (0x0d, 'r'), (0x09, 't'), (0x0b, 'v')]

/-- The letter that stands for a byte after a backslash. -/
def letter? (b : UInt8) : Option UInt8 :=
  ((letters.find? (fun entry => entry.1 = b)).map Prod.snd).map (fun c => c.toNat.toUInt8)

/-- Three octal digits. -/
def octal (b : UInt8) : Bytes :=
  [b >>> 6, (b >>> 3) &&& 7, b &&& 7].map (· + 0x30)

/-- The escape for a byte that is not shown as it is. -/
def escape (b : UInt8) : Bytes :=
  Byte.backslash :: (match letter? b with
    | some c => [c]
    | none => octal b)

/-- A text in which backslashes, bytes of a list, and what cannot be shown are
escaped. -/
def escaped (also : Bytes) (text : Bytes) : Bytes :=
  text.flatMap (fun b =>
    if b = Byte.backslash || also.contains b then [Byte.backslash, b]
    else if isPrintable b then [b]
    else escape b)

/-- A text between single quotes. -/
def single (text : Bytes) : Bytes :=
  [Byte.quote] ++ escaped [Byte.quote] text ++ [Byte.quote]

/-- A text between double quotes. -/
def double (text : Bytes) : Bytes :=
  [Byte.doubleQuote] ++ escaped [Byte.doubleQuote] text ++ [Byte.doubleQuote]

/-! ## Words of a shell -/

/-- The bytes that mean something to a shell wherever they stand. -/
def specials : Bytes :=
  utf8 " ?\\'!\"$&()*;<=>[^\x60|"

/-- Whether a text means something else to a shell than itself. -/
def needsQuotes (text : Bytes) : Bool :=
  text.isEmpty || text.any (fun b => specials.contains b || !isPrintable b) ||
    text = utf8 "\x7b" || text = utf8 "\x7d" ||
    text.head? = some 0x23 || text.head? = some 0x7e

/-- Whether a byte means the same between double quotes, given that it comes first
and that it is the only one. -/
def isPlain (first alone : Bool) (b : UInt8) : Bool :=
  if b = Byte.space || b = Byte.quote then true
  else if b = Byte.openBrace || b = Byte.closeBrace then alone
  else if b = 0x23 || b = 0x7e then first
  else isPrintable b && !specials.contains b

/-- Whether all bytes of a text mean the same between double quotes. -/
def isAllPlain (text : Bytes) : Bool :=
  match text with
  | [] => true
  | b :: rest => isPlain true rest.isEmpty b && rest.all (isPlain false false)

/-- The inside of a word between single quotes, given whether an escape comes right
before it. -/
def wordInside : Bool → Bytes → Bytes
  | _, [] => []
  | escaping, b :: rest =>
      if b = Byte.quote then utf8 "'\\''" ++ wordInside false rest
      else if isPrintable b then
        (if escaping then utf8 "''" else []) ++ b :: wordInside false rest
      else (if escaping then [] else utf8 "'$'") ++ escape b ++ wordInside true rest

/-- A text as a word between quotes.  Double quotes are used if that makes a single
quote readable. -/
def word (text : Bytes) : Bytes :=
  if text.contains Byte.quote && isAllPlain text then
    [Byte.doubleQuote] ++ text ++ [Byte.doubleQuote]
  else [Byte.quote] ++ wordInside false text ++ [Byte.quote]

/-- A text as a word, between quotes only if it needs them. -/
def wordIfNeeded (text : Bytes) : Bytes :=
  if needsQuotes text then word text else text

/-- Whether a text means something else to a shell than itself, if what cannot be shown
is left as it is. -/
def needsPlainQuotes (text : Bytes) : Bool :=
  needsQuotes (text.map (fun b =>
    if isPrintable b || b = Byte.newline || b = Byte.tab || b = Byte.carriageReturn then b
    else 0x61))

/-- A text as a word between quotes in which nothing is escaped but quotes. -/
def plainWord (text : Bytes) : Bytes :=
  if text.contains Byte.quote && isAllPlain text then
    [Byte.doubleQuote] ++ text ++ [Byte.doubleQuote]
  else
    [Byte.quote] ++ text.flatMap (fun b => if b = Byte.quote then utf8 "'\\''" else [b]) ++
      [Byte.quote]

/-- A text between double quotes if something in it has to be escaped. -/
def doubleIfNeeded (text : Bytes) : Bytes :=
  if text.any (fun b => !isPrintable b || b = Byte.doubleQuote) then double text else text

/-- The name of a file before a colon, between quotes if it needs them or holds a
colon itself. -/
def fileName (text : Bytes) : Bytes :=
  if needsQuotes text || text.contains Byte.colon then word text else text

end Overseer.Quoting
