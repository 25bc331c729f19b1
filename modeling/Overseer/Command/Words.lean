import Overseer.Fault

/-!
# Splitting a line into words

Words are separated by white space.  A run between single quotes or between
double quotes stands for itself, white space and the other quote included, and
may be empty; neighbouring bare bytes and quoted runs form one word.  There is
no escape character.  The only failure is a quote that is never closed.
-/

namespace Overseer.Command

/-- Where the reader of a line stands. -/
inductive Mode
  /-- Outside quotes. -/
  | bare
  /-- After an opening quote, which this byte closes. -/
  | inside (closing : UInt8)
deriving DecidableEq

/-- The words from some position of a line on: the word the position continues,
if one begins or goes on there, and the words after it. -/
structure Reading where
  /-- What the text at the position adds to a word that reaches up to it. -/
  here : Option Bytes
  /-- The words after that one. -/
  later : List Bytes
deriving DecidableEq

namespace Reading

/-- The words, once the position is known to begin no word in progress. -/
def words (reading : Reading) : List Bytes :=
  reading.here.toList ++ reading.later

/-- Put a byte in front of the word at the position. -/
def cons (b : UInt8) (reading : Reading) : Reading :=
  { reading with here := some (b :: reading.here.getD []) }

/-- A word stands at the position even if nothing follows. -/
def begin (reading : Reading) : Reading :=
  { reading with here := some (reading.here.getD []) }

/-- A separator in front of the position: no word is in progress. -/
def separate (reading : Reading) : Reading :=
  { here := none, later := reading.words }

end Reading

/-- Whether a byte opens a quoted run. -/
def isQuote (b : UInt8) : Bool :=
  b = Byte.quote || b = Byte.doubleQuote

/-- Read the rest of a line in the given mode. -/
def readFrom : Mode → Bytes → Except Fault Reading
  | .bare, [] => .ok { here := none, later := [] }
  | .inside _, [] => .error .unterminatedQuote
  | .bare, b :: rest =>
      if Byte.isBlank b then (readFrom .bare rest).map Reading.separate
      else if isQuote b then (readFrom (.inside b) rest).map Reading.begin
      else (readFrom .bare rest).map (Reading.cons b)
  | .inside closing, b :: rest =>
      if b = closing then readFrom .bare rest
      else (readFrom (.inside closing) rest).map (Reading.cons b)

/-- The words of a line. -/
def split (line : Bytes) : Except Fault (List Bytes) :=
  (readFrom .bare line).map Reading.words

/-- Outside quotes, white space separates. -/
theorem readFrom_bare_blank {b : UInt8} {rest : Bytes} (hblank : Byte.isBlank b = true) :
    readFrom .bare (b :: rest) = (readFrom .bare rest).map Reading.separate := by
  simp [readFrom, hblank]

end Overseer.Command
