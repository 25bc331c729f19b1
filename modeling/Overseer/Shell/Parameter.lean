import Overseer.Shell.Field
import Overseer.Shell.Token

/-!
# Parameters

How expansions are written after a dollar sign, and what quotes and backslashes
mean to them.
-/

namespace Overseer.Shell

/-- What a text that is expanded stands in. -/
inductive Enclosure
  /-- No quotes; it may take the place of a value that is cut into fields, or be given
  to a variable. -/
  | bare (splits assigns : Bool)
  /-- Double quotes in such a text, perhaps around braces. -/
  | quotes (splits assigns braced : Bool)
  /-- A text that a redirection reads. -/
  | document
  /-- An arithmetic expression. -/
  | sum
deriving DecidableEq, Repr

namespace Enclosure

/-- Whether there are no quotes. -/
def isBare : Enclosure → Bool
  | bare _ _ => true
  | _ => false

/-- Whether there are no quotes around what is given to a variable. -/
def assigns : Enclosure → Bool
  | bare _ assigns => assigns
  | _ => false

/-- Whether values stay together. -/
def isQuoted (e : Enclosure) : Bool :=
  !e.isBare

/-- What follows a double quote stands in, if that has a meaning.  Inside of braces between
quotes it changes nothing. -/
def toggled? : Enclosure → Option Enclosure
  | bare splits assigns => some (quotes splits assigns false)
  | quotes splits assigns false => some (bare splits assigns)
  | quotes splits assigns true => some (quotes splits assigns true)
  | document | sum => none

/-- What a text in braces stands in. -/
def inBraces : Enclosure → Enclosure
  | quotes splits assigns _ => quotes splits assigns true
  | document => quotes false false true
  | other => other

/-- What a text stands in that takes the place of a value. -/
def forValue : Enclosure → Enclosure
  | bare _ assigns => bare true assigns
  | other => other.inBraces

/-- The nesting that an expansion is read in. -/
def nesting : Enclosure → List Nest
  | bare _ _ => []
  | quotes _ _ _ => [.double]
  | document => [.document]
  | sum => [.sum]

/-- Whether a backslash protects a byte. -/
def protects (e : Enclosure) (b : UInt8) : Bool :=
  match e with
  | bare _ _ => true
  | quotes _ _ braced =>
      b = Byte.dollar || b = backquote || b = Byte.doubleQuote || b = Byte.backslash ||
        (braced && b = Byte.closeBrace)
  | sum => b = Byte.dollar || b = backquote || b = Byte.doubleQuote || b = Byte.backslash
  | document => b = Byte.dollar || b = backquote || b = Byte.backslash

/-- The piece that ordinary text makes. -/
def piece (text : Bytes) : Enclosure → Piece
  | bare splits _ => if splits then .split text else .literal text
  | _ => .quoted text

end Enclosure

/-- Whether a byte may have a meaning of its own in a word. -/
def isActive (b : UInt8) : Bool :=
  b = Byte.doubleQuote || b = Byte.quote || b = Byte.backslash || b = Byte.dollar || b = backquote

/-! ## Names -/

/-- The name of a parameter at the beginning of a text, and what follows. -/
def takeName (text : Bytes) : Bytes × Bytes :=
  match text with
  | [] => ([], [])
  | b :: rest =>
      if Byte.isNameStart b then
        let name := text.takeWhile Byte.isNamePart
        (name, text.drop name.length)
      else if ParameterHead.isSpecialName b then ([b], rest)
      else ([], text)

/-- The same inside braces, where a name may have several digits. -/
def takeBracedName (text : Bytes) : Bytes × Bytes :=
  let digits := text.takeWhile Byte.isDigit
  if digits.isEmpty then takeName text else (digits, text.drop digits.length)

/-- Whether a name stands for all arguments. -/
def isArgumentsName (name : Bytes) : Bool :=
  name = utf8 "@" || name = utf8 "*"

/-! ## Braces -/

/-- What an expansion in braces does with the value of a parameter, or for want
of one. -/
inductive Treatment
  /-- Nothing. -/
  | plain
  /-- A default takes its place. -/
  | default (alsoEmpty : Bool) (word : Bytes)
  /-- A default takes its place and is assigned to it. -/
  | assigned (alsoEmpty : Bool) (word : Bytes)
  /-- A word takes its place exactly if there is a value. -/
  | alternative (alsoEmpty : Bool) (word : Bytes)
  /-- A complaint ends the shell. -/
  | required (alsoEmpty : Bool) (word : Bytes)
  /-- A part at one end of the value is left out. -/
  | stripped (fromEnd longest : Bool) (pattern : Bytes)
deriving DecidableEq, Repr

/-- Read what follows the name of a parameter in braces. -/
def readTreatment? (text : Bytes) : Option Treatment :=
  let (alsoEmpty, text) : Bool × Bytes :=
    match text with
    | 0x3a :: rest => (true, rest)
    | _ => (false, text)
  match text with
  | [] => if alsoEmpty then none else some .plain
  | 0x2d :: word => some (.default alsoEmpty word)
  | 0x3d :: word => some (.assigned alsoEmpty word)
  | 0x2b :: word => some (.alternative alsoEmpty word)
  | 0x3f :: word => some (.required alsoEmpty word)
  | 0x23 :: 0x23 :: pattern => if alsoEmpty then none else some (.stripped false true pattern)
  | 0x23 :: pattern => if alsoEmpty then none else some (.stripped false false pattern)
  | 0x25 :: 0x25 :: pattern => if alsoEmpty then none else some (.stripped true true pattern)
  | 0x25 :: pattern => if alsoEmpty then none else some (.stripped true false pattern)
  | _ => none

/-- What is written between the braces of an expansion. -/
inductive Braced
  /-- The length of the value of a parameter. -/
  | length (name : Bytes)
  /-- The value of a parameter, treated in some way. -/
  | value (name : Bytes) (treatment : Treatment)
deriving DecidableEq, Repr

/-- Read what is written between the braces of an expansion. -/
def readBraced? (inside : Bytes) : Option Braced :=
  let treated : Option Braced :=
    let (name, rest) := takeBracedName inside
    if name.isEmpty then none else (readTreatment? rest).map (.value name)
  match inside with
  | 0x23 :: name =>
      if !name.isEmpty && (takeBracedName name).2.isEmpty then some (.length name) else treated
  | _ => treated

/-- Whether a value counts as one. -/
def counts (alsoEmpty : Bool) : Option Bytes → Bool
  | none => false
  | some text => !(alsoEmpty && text.isEmpty)

/-- What is said of a parameter that has to have a value. -/
def missingText (alsoEmpty : Bool) : Bytes :=
  if alsoEmpty then utf8 "parameter not set or null" else utf8 "parameter not set"

/-- The pieces of fields that are kept apart; between quotes there is no field at
all if there are none. -/
def separatePieces (quoted : Bool) (fields : List Bytes) : List Piece :=
  if fields.isEmpty then (if quoted then [.nothing] else [])
  else (fields.map (valuePiece quoted)).intersperse .boundary

/-! ## Home -/

/-- The directories of the users that every system has. -/
def userHomes : List (String × String) :=
  [("root", "/root"), ("daemon", "/usr/sbin"), ("bin", "/bin"), ("sys", "/dev"),
    ("sync", "/bin"), ("games", "/usr/games"), ("man", "/var/cache/man"),
    ("lp", "/var/spool/lpd"), ("mail", "/var/mail"), ("news", "/var/spool/news"),
    ("uucp", "/var/spool/uucp"), ("proxy", "/bin"), ("www-data", "/var/www"),
    ("backup", "/var/backups"), ("list", "/var/list"), ("nobody", "/nonexistent")]

/-- The directory of a user; one without a name is that of the shell, whose directory is
given. -/
def homeOf? (own : Option Bytes) (user : Bytes) : Option Bytes :=
  if user.isEmpty then own
  else (userHomes.find? (fun entry => utf8 entry.1 = user)).map (fun entry => utf8 entry.2)

/-- The directory of a user in place of a tilde and a name at the beginning of a text:
the pieces that it makes, and what follows.  Where a variable gets the text, a colon ends
the name as well. -/
def takeHome? (own : Option Bytes) (assigns : Bool) (raw : Bytes) :
    Option (List Piece × Bytes) :=
  match raw with
  | 0x7e :: rest =>
      let user := rest.takeWhile (fun b => b ≠ Byte.slash && !(assigns && b = Byte.colon))
      (homeOf? own user).map (fun home =>
        (if home.isEmpty then [] else [.quoted home], rest.drop user.length))
  | _ => none

/-- How much of a text comes before the first tilde after a colon, with that. -/
def beforeTilde? : Bytes → Option Nat
  | 0x3a :: 0x7e :: _ => some 1
  | _ :: rest => (beforeTilde? rest).map (· + 1)
  | [] => none

end Overseer.Shell
