import Overseer.File.Path

/-!
# Patterns

A pattern matches texts.  In it an asterisk stands for any text, a question mark
for any byte and a bracket for one of some bytes, unless they are quoted.
-/

namespace Overseer.Shell

open Overseer.File

/-- A byte of an expanded word. -/
structure Letter where
  /-- The byte. -/
  byte : UInt8
  /-- Whether it was quoted, so that it stands for itself. -/
  quoted : Bool
deriving DecidableEq, Repr

/-- A kind of bytes that a bracket may name. -/
structure ByteClass where
  /-- Its name. -/
  name : String
  /-- The ranges of bytes that belong to it. -/
  ranges : List (UInt8 × UInt8)
deriving DecidableEq, Repr

/-- The kinds of bytes that brackets may name. -/
def byteClasses : List ByteClass :=
  let digits : List (UInt8 × UInt8) := [(0x30, 0x39)]
  let capitals : List (UInt8 × UInt8) := [(0x41, 0x5a)]
  let small : List (UInt8 × UInt8) := [(0x61, 0x7a)]
  [⟨"alnum", digits ++ capitals ++ small⟩, ⟨"alpha", capitals ++ small⟩,
    ⟨"blank", [(0x09, 0x09), (0x20, 0x20)]⟩, ⟨"cntrl", [(0x00, 0x1f), (0x7f, 0x7f)]⟩,
    ⟨"digit", digits⟩, ⟨"graph", [(0x21, 0x7e)]⟩, ⟨"lower", small⟩, ⟨"print", [(0x20, 0x7e)]⟩,
    ⟨"punct", [(0x21, 0x2f), (0x3a, 0x40), (0x5b, 0x60), (0x7b, 0x7e)]⟩,
    ⟨"space", [(0x09, 0x0d), (0x20, 0x20)]⟩, ⟨"upper", capitals⟩,
    ⟨"xdigit", digits ++ [(0x41, 0x46), (0x61, 0x66)]⟩]

/-- An item of a pattern. -/
inductive PatternItem
  /-- A byte that stands for itself. -/
  | exactly (b : UInt8)
  /-- Any byte. -/
  | one
  /-- Any text. -/
  | many
  /-- A byte within one of some ranges, or within none of them. -/
  | among (negated : Bool) (ranges : List (UInt8 × UInt8))
deriving DecidableEq, Repr

/-- A pattern. -/
abbrev Pattern := List PatternItem

/-- Whether a byte is unquoted and the given one. -/
def Letter.isSign (l : Letter) (b : UInt8) : Bool :=
  !l.quoted && l.byte = b

/-- An opening bracket. -/
def openBracket : UInt8 := 0x5b

/-- A closing bracket. -/
def closeBracket : UInt8 := 0x5d

/-- The kind of bytes that letters after an opening bracket name, and what follows. -/
def readByteClass? (letters : List Letter) : Option (ByteClass × List Letter) :=
  byteClasses.findSome? (fun c =>
    let written := utf8 (":" ++ c.name ++ ":]")
    let (name, rest) := letters.splitAt written.length
    if name.map Letter.byte = written && name.all (!·.quoted) then some (c, rest) else none)

/-- The ranges of a bracket up to its end, and what follows that. -/
def readRanges : Nat → List (UInt8 × UInt8) → List Letter →
    Option (List (UInt8 × UInt8) × List Letter)
  | 0, _, _ => none
  | _ + 1, _, [] => none
  | fuel + 1, ranges, l :: rest =>
      let named := if l.isSign openBracket then readByteClass? rest else none
      if l.isSign closeBracket && !ranges.isEmpty then some (ranges.reverse, rest)
      else if let some (c, rest) := named then readRanges fuel (c.ranges.reverse ++ ranges) rest
      else
        match rest with
        | mark :: last :: later =>
            if mark.isSign 0x2d && !last.isSign closeBracket then
              readRanges fuel ((l.byte, last.byte) :: ranges) later
            else readRanges fuel ((l.byte, l.byte) :: ranges) rest
        | _ => readRanges fuel ((l.byte, l.byte) :: ranges) rest

/-- The pattern that letters make; the first argument bounds their number. -/
def readPattern : Nat → List Letter → Pattern
  | 0, _ => []
  | _ + 1, [] => []
  | fuel + 1, l :: rest =>
      if l.isSign 0x2a then .many :: readPattern fuel rest
      else if l.isSign 0x3f then .one :: readPattern fuel rest
      else if l.isSign openBracket then
        let negated := rest.head?.any (·.isSign 0x21)
        match readRanges rest.length [] (if negated then rest.tail else rest) with
        | some (ranges, rest) => .among negated ranges :: readPattern fuel rest
        | none => .exactly l.byte :: readPattern fuel rest
      else .exactly l.byte :: readPattern fuel rest

/-- The pattern that letters make. -/
def Pattern.ofLetters (letters : List Letter) : Pattern :=
  readPattern (letters.length + 1) letters

/-- The text that letters make. -/
def lettersText (letters : List Letter) : Bytes :=
  letters.map Letter.byte

namespace Pattern

/-- Whether a pattern stands for more than one text. -/
def isGeneral (p : Pattern) : Bool :=
  p.any (fun item =>
    match item with
    | .exactly _ => false
    | _ => true)

/-- Whether a pattern matches a text. -/
def accepts : Pattern → Bytes → Bool
  | [], [] => true
  | [], _ :: _ => false
  | .many :: p, [] => accepts p []
  | .many :: p, b :: rest => accepts p (b :: rest) || accepts (.many :: p) rest
  | .exactly c :: p, b :: rest => decide (c = b) && accepts p rest
  | .one :: p, _ :: rest => accepts p rest
  | .among negated ranges :: p, b :: rest =>
      (ranges.any (fun range => range.1 ≤ b && b ≤ range.2) != negated) && accepts p rest
  | _ :: _, [] => false
termination_by p s => (p.length, s.length)

/-- A text without the shortest or the longest part at one of its ends that the
pattern matches. -/
def strip (p : Pattern) (fromEnd longest : Bool) (text : Bytes) : Bytes :=
  let counts := List.range (text.length + 1)
  let counts := if longest then counts.reverse else counts
  let found := counts.find? (fun n =>
    p.accepts (if fromEnd then text.drop (text.length - n) else text.take n))
  match found with
  | none => text
  | some n => if fromEnd then text.take (text.length - n) else text.drop n

end Pattern

/-! ## Paths -/

/-- Letters cut at the slashes. -/
def splitLetters : List Letter → List (List Letter)
  | [] => [[]]
  | l :: rest =>
      if l.byte = Byte.slash then [] :: splitLetters rest
      else
        match splitLetters rest with
        | [] => [[l]]
        | piece :: pieces => (l :: piece) :: pieces

/-- The names in a directory that a pattern matches.  A name that begins with a full
stop is matched by a pattern that does. -/
def matchingNames (t : Tree) (origin : Place) (directory : Bytes) (p : Pattern) : List Bytes :=
  match t.resolve origin (if directory.isEmpty then here else directory) with
  | .error _ => []
  | .ok place =>
      let isHidden (name : Bytes) : Bool := name.head? = some Byte.dot
      (here :: above :: t.names place).filter (fun name =>
        p.accepts name && (!isHidden name || p.head? = some (.exactly Byte.dot)))

/-- The paths that go on from a beginning as the patterns of their names say.  A link
counts whether or not it leads anywhere. -/
def matchingPaths (t : Tree) (origin : Place) : List (List Letter) → Bytes → List Bytes
  | [], start => [start]
  | letters :: later, start =>
      let p := Pattern.ofLetters letters
      let next (name : Bytes) : List Bytes :=
        matchingPaths t origin later
          (start ++ name ++ if later.isEmpty then [] else [Byte.slash])
      let text := lettersText letters
      if p.isGeneral then (matchingNames t origin start p).flatMap next
      else if later.isEmpty && !(t.resolveLink origin (start ++ text)).toOption.isSome then []
      else next text

/-- The paths that an expanded word stands for, in order: itself, unless it is a pattern
that some path matches. -/
def expandPaths (t : Tree) (origin : Place) (letters : List Letter) : List Bytes :=
  let text := lettersText letters
  if (Pattern.ofLetters letters).isGeneral then
    let paths := matchingPaths t origin (splitLetters letters) []
    if paths.isEmpty then [text]
    else paths.mergeSort (fun left right => decide (left ≤ right))
  else [text]

end Overseer.Shell
