import Overseer.Shell.Pattern

/-!
# Fields

Expanding a word gives pieces, some of them quoted.  The pieces are joined to one
text, or cut into the fields that become the words of a command.

Separators that are white space only keep fields apart; any other one ends a
field, even an empty one, together with the white space around it.
-/

namespace Overseer.Shell

/-- A piece of an expanded word. -/
inductive Piece
  /-- Text that stays together, and makes a field even if it is empty. -/
  | quoted (text : Bytes)
  /-- Text that stays together. -/
  | literal (text : Bytes)
  /-- Text that is cut at separators. -/
  | split (text : Bytes)
  /-- The end of a field. -/
  | boundary
  /-- No field at all, also between quotes. -/
  | nothing
deriving DecidableEq, Repr

/-- The text of a piece where fields are joined. -/
def Piece.text (joint : Bytes) : Piece → Bytes
  | quoted text | literal text | split text => text
  | boundary => joint
  | nothing => []

/-- The letters of a piece. -/
def Piece.letters : Piece → List Letter
  | quoted text => text.map (fun byte => { byte, quoted := true })
  | literal text | split text => text.map (fun byte => { byte, quoted := false })
  | boundary | nothing => []

/-- The pattern of all pieces. -/
def piecesPattern (pieces : List Piece) : Pattern :=
  .ofLetters (pieces.flatMap Piece.letters)

/-- The text of all pieces, with something between fields. -/
def joinPieces (joint : Bytes) (pieces : List Piece) : Bytes :=
  pieces.flatMap (Piece.text joint)

/-- Whether a byte is white space among separators. -/
def isWhite (b : UInt8) : Bool :=
  b = Byte.space || b = Byte.tab || b = Byte.newline

/-- Fields under way: those that are complete, the latest first, and the one
that goes on. -/
structure FieldBuilder where
  /-- The complete fields. -/
  complete : List (List Letter) := []
  /-- The field that goes on, its latest letter first. -/
  current : Option (List Letter) := none
  /-- Whether only white space has come since the last field. -/
  afterWhite : Bool := false

namespace FieldBuilder

/-- Add a letter to the field that goes on. -/
def push (f : FieldBuilder) (l : Letter) : FieldBuilder :=
  { f with current := some (l :: f.current.getD []), afterWhite := false }

/-- Complete the field that goes on. -/
def cut (f : FieldBuilder) : FieldBuilder :=
  match f.current with
  | some letters => { complete := letters.reverse :: f.complete }
  | none => f

/-- Meet a separator. -/
def separate (f : FieldBuilder) (separator : UInt8) : FieldBuilder :=
  if isWhite separator then
    if f.current.isSome then { f.cut with afterWhite := true } else f
  else if f.current.isSome then f.cut
  else if f.afterWhite then { f with afterWhite := false }
  else { f with complete := [] :: f.complete }

/-- Add a piece. -/
def add (separators : Bytes) (f : FieldBuilder) (piece : Piece) : FieldBuilder :=
  match piece with
  | .quoted _ => piece.letters.foldl push { f with current := some (f.current.getD []) }
  | .literal _ => piece.letters.foldl push f
  | .split _ =>
      piece.letters.foldl (fun f l =>
        if separators.contains l.byte then f.separate l.byte else f.push l) f
  | .boundary => f.cut
  | .nothing => f

/-- The fields. -/
def fields (f : FieldBuilder) : List (List Letter) :=
  f.cut.complete.reverse

end FieldBuilder

/-- The fields of the pieces of a word. -/
def cutFields (separators : Bytes) (pieces : List Piece) : List (List Letter) :=
  let fields := (pieces.foldl (FieldBuilder.add separators) {}).fields
  if fields = [[]] && pieces.contains .nothing then [] else fields

/-- Text without line feeds at its end. -/
def dropFinalNewlines (text : Bytes) : Bytes :=
  (text.reverse.dropWhile (· = Byte.newline)).reverse

/-- The piece that a value makes, inside or outside of double quotes. -/
def valuePiece (inQuotes : Bool) (value : Bytes) : Piece :=
  if inQuotes then .quoted value else .split value

/-! ## Lines cut for variables -/

/-- Whether a letter is a separator. -/
def Letter.separates (separators : Bytes) (l : Letter) : Bool :=
  !l.quoted && separators.contains l.byte

/-- Whether a letter is a separator that is white space. -/
def Letter.isGap (separators : Bytes) (l : Letter) : Bool :=
  l.separates separators && isWhite l.byte

/-- The first field of a line, and the line after the separator. -/
def takeField (separators : Bytes) (letters : List Letter) : List Letter × List Letter :=
  let letters := letters.dropWhile (·.isGap separators)
  let field := letters.takeWhile (fun l => !l.separates separators)
  let rest := (letters.drop field.length).dropWhile (·.isGap separators)
  match rest with
  | l :: later =>
      if l.separates separators then (field, later.dropWhile (·.isGap separators))
      else (field, rest)
  | [] => (field, [])

/-- Cut a line into as many values as there are variables.  The last one gets all
that is left, without the white space at the end, unless that is one field. -/
def cutLine (separators : Bytes) : Nat → List Letter → List Bytes
  | 0, _ => []
  | 1, letters =>
      let letters := letters.dropWhile (·.isGap separators)
      let (field, rest) := takeField separators letters
      if rest.isEmpty then [lettersText field]
      else [lettersText (letters.reverse.dropWhile (·.isGap separators)).reverse]
  | count + 2, letters =>
      let (field, rest) := takeField separators letters
      lettersText field :: cutLine separators (count + 1) rest

end Overseer.Shell
