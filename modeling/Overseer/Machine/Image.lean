import Overseer.File.Path

/-!
# Program images

What runs when the system is told to execute a path: a program of the system, or
the interpreter that a script names on its first line.
-/

namespace Overseer.Machine

open Overseer.File

/-- What runs, and with which words. -/
structure Image where
  /-- The name of a program of the system. -/
  program : Bytes
  /-- Its own name as it sees it, and its arguments. -/
  words : List Bytes
deriving DecidableEq

/-- How many files may be executed in a row, each the interpreter of the one
before. -/
def interpreterLimit : Nat :=
  6

/-- How many bytes of a file are looked at to find its interpreter. -/
def headLength : Nat :=
  256

/-- The first two bytes of a script. -/
def scriptMark : Bytes :=
  utf8 "#!"

/-- Whether a byte ends the name of an interpreter. -/
def endsInterpreter (b : UInt8) : Bool :=
  Byte.isGap b || b = 0

/-- A text without gaps at its end. -/
def trimGaps (text : Bytes) : Bytes :=
  (text.reverse.dropWhile Byte.isGap).reverse

/-- The line of a script that names its interpreter, given what follows the mark.
Without a line feed the line is as long as the part of the file that is looked
at, provided the name of the interpreter ends before that. -/
def interpreterLine? (body : Bytes) : Option Bytes :=
  if body.contains Byte.newline then some (body.takeWhile (· ≠ Byte.newline))
  else if (body.dropWhile Byte.isGap).any endsInterpreter then some body.dropLast
  else none

/-- The interpreter and its one optional argument on the first line of a
script. -/
def interpreter? (content : Bytes) : Option (Bytes × Option Bytes) :=
  let beginning := (content ++ List.replicate headLength 0).take headLength
  if beginning.take scriptMark.length = scriptMark then do
    let line ← interpreterLine? (beginning.drop scriptMark.length)
    let text := (trimGaps line).dropWhile Byte.isGap
    if text.isEmpty then none
    else
      let path := text.takeWhile (fun b => !endsInterpreter b)
      let later := text.drop path.length
      let argument := later.dropWhile Byte.isGap
      if later.head?.all (· = 0) || argument.isEmpty then some (path, none)
      else some (path, some (Bytes.untilNul argument))
  else none

/-- From which length on a word is too long, with the NUL after it. -/
def wordLimit : Nat :=
  131072

/-- How many bytes the words and entries of a program may take. -/
def wordsLimit : Nat :=
  2097152

/-- The bytes that the reference to a word takes. -/
def referenceSize : Nat :=
  8

/-- Whether a program can be given these words and entries. -/
def fits (path : Bytes) (words entries : List Bytes) : Bool :=
  let all := words ++ entries
  let size := all.foldl (fun n word => n + word.length + 1 + referenceSize) (path.length + 1)
  all.all (fun word => word.length < wordLimit) && size ≤ wordsLimit

/-- What runs when a path is executed from a directory with the given words, the
first of which is the name the program is called by.  Which paths the user may execute
is a parameter. -/
def Image.find (t : Tree) (mayExecute : Bytes → Bool) (place : Place) :
    Nat → Bytes → List Bytes → Except Errno Image
  | 0, _, _ => .error .linkLoop
  | fuel + 1, path, words =>
      match t.stat place path with
      | .error errno => .error errno
      | .ok node =>
          if !node.isRegular || !mayExecute path then .error .accessDenied
          else
            match node with
            | .program name => .ok { program := name, words }
            | .file _ content =>
                match interpreter? content with
                | none => .error .notExecutable
                | some ([], _) => .error .accessDenied
                | some (found, argument) =>
                    find t mayExecute place fuel found
                      (found :: argument.toList ++ path :: words.tail)
            | _ => .error .notExecutable

/-- What runs when a path is executed with the given words and raw environment
entries. -/
def Image.load (t : Tree) (mayExecute : Bytes → Bool) (place : Place) (path : Bytes)
    (words entries : List Bytes) : Except Errno Image := do
  let node ← t.stat place path
  if !node.isRegular || !mayExecute path then throw .accessDenied
  if !fits path words entries then throw .tooManyWords
  Image.find t mayExecute place interpreterLimit path words

end Overseer.Machine
