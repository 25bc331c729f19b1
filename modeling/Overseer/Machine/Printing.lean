import Overseer.Machine.Activity
import Overseer.Text.Quoting

/-!
# Programs that print

What a program prints is gathered and written in whole blocks; the rest is written
before a complaint and when the program ends.
-/

namespace Overseer.Machine

/-- How many bytes are gathered. -/
def bufferSize : Nat :=
  4096

/-- What a program has printed but not written. -/
structure Unwritten where
  /-- The text. -/
  text : Bytes := []
  /-- Whether something before it could not be written. -/
  hasLost : Bool := false

/-- Add text: what is to be written now, and what is left. -/
def Unwritten.add (u : Unwritten) (text : Bytes) : Bytes × Unwritten :=
  let all := u.text ++ text
  let kept := if all.length ≤ bufferSize then all.length else all.length % bufferSize
  (all.take (all.length - kept), { u with text := all.drop (all.length - kept) })

/-- What a program does, unless it gives up with a code. -/
abbrev Printing (α : Type) := ExceptT Nat (StateT Unwritten Act) α

/-- Write to the output, and take note if that fails. -/
def send (text : Bytes) : Printing (Except Errno Unit) := do
  let reply ← writeTo standardOutput text
  if !reply.isOk then modify (fun u => { u with hasLost := true })
  return reply

/-- Print a text. -/
def put (text : Bytes) : Printing (Except Errno Unit) := do
  let (ready, left) := (← get).add text
  set left
  send ready

/-- Print a text; whether it can be written shows when the program ends. -/
def print (text : Bytes) : Printing Unit := do
  let _ ← put text

/-- Write what was gathered. -/
def flush : Printing (Except Errno Unit) := do
  let text := (← get).text
  modify (fun u => { u with text := [] })
  send text

/-! ## Texts -/

/-- Words with a space between them. -/
def unwords (words : List Bytes) : Bytes :=
  Bytes.joinWith [Byte.space] words

/-- The lines of a text; a line feed at the end ends the last one. -/
def lines (text : Bytes) : List Bytes :=
  let pieces := Bytes.splitOn Byte.newline text
  if pieces.getLast? = some [] then pieces.dropLast else pieces

/-- Lines with a line feed after each. -/
def unlines (ls : List Bytes) : Bytes :=
  ls.flatMap (· ++ [Byte.newline])

/-- Texts in increasing order of their bytes. -/
def sorted (texts : List Bytes) : List Bytes :=
  texts.mergeSort (fun left right => decide (left ≤ right))

/-- The name that stands for the input. -/
def hyphen : Bytes :=
  utf8 "-"

/-! ## Complaints -/

/-- Complain in the name of a program. -/
def complainAs (name text : Bytes) : Act Unit :=
  complain (name ++ utf8 ": " ++ text ++ [Byte.newline])

/-- Complain in the name of a program, and say how it explains itself. -/
def adviseAs (name text : Bytes) : Act Unit :=
  complain (name ++ utf8 ": " ++ text ++ utf8 "\nTry '" ++ name ++
    utf8 " --help' for more information.\n")

/-- Complain in the name of a program, once what was printed is written. -/
def warn (name text : Bytes) : Printing Unit := do
  let _ ← flush
  complainAs name text

/-- Complain about something in the name of a program. -/
def warnOf (name what : Bytes) (errno : Errno) : Printing Unit :=
  warn name (what ++ utf8 ": " ++ errno.description)

/-- Complain and end with a code. -/
def giveUp {α : Type} (name text : Bytes) (code : Nat) : Printing α := do
  warn name text
  throw code

end Overseer.Machine
