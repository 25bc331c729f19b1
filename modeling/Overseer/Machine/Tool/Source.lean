import Overseer.Machine.Options

/-!
# Files that programs read

Where a program takes files, a minus sign stands for the input, which is also read
if there are none.
-/

namespace Overseer.Machine

open Overseer.File

/-- How many times a program reads at most. -/
def readLimit : Nat :=
  1000000

/-- Do something with a file that is open to be read, or with the input. -/
def withSource {α : Type} (path : Bytes) (use : Descriptor → Printing α) :
    Printing (Except Errno α) := do
  if path = hyphen then return .ok (← use standardInput)
  match ← openFile path .read with
  | .error errno => return .error errno
  | .ok d =>
      let value ← use d
      closeDescriptor d
      return .ok value

/-- The files that words name. -/
def sources (words : List Bytes) : List Bytes :=
  if words.isEmpty then [hyphen] else words

/-- Give up if the input was to be read but there is none. -/
def requireInput (name what : Bytes) (paths : List Bytes) : Printing Unit := do
  if paths.contains hyphen && ((← look).stream? standardInput).isNone then
    giveUp name (what ++ utf8 ": " ++ Errno.badDescriptor.description) 1

/-- The code of a program that cannot go on. -/
def troubleCode : Nat :=
  2

end Overseer.Machine
