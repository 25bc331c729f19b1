import Overseer.Shell.State

/-!
# Options of commands

How commands built into the shell read the options in front of their arguments, and
the same for scripts, which read those of their own arguments one at a time.
-/

namespace Overseer.Shell

open Overseer.Machine

/-- The letters of the options of a command. -/
structure OptionLetters where
  /-- Those that stand by themselves. -/
  alone : String := ""
  /-- Those that need an argument. -/
  needing : String := ""
  /-- Those after which nothing more is read. -/
  ending : String := ""

/-- An option that was read. -/
structure ReadOption where
  /-- The letter. -/
  letter : UInt8
  /-- The argument. -/
  argument : Bytes := []

/-- Read the letters of a word, given the words after it: the options, and the words
that are left; or what is wrong. -/
def readLetterWord (known : OptionLetters) (words : List Bytes) :
    Bytes → Except Bytes (List ReadOption × List Bytes)
  | [] => .ok ([], words)
  | letter :: letters => do
      if (utf8 known.needing).contains letter then
        match letters, words with
        | [], [] => throw (utf8 "No arg for -" ++ [letter] ++ utf8 " option")
        | [], argument :: words => return ([{ letter, argument }], words)
        | argument, words => return ([{ letter, argument }], words)
      else if (utf8 known.alone).contains letter then
        let (options, words) ← readLetterWord known words letters
        return ({ letter } :: options, words)
      else if (utf8 known.ending).contains letter then return ([{ letter }], [])
      else throw (utf8 "Illegal option -" ++ [letter])

/-- Read the options in front of words, and the words that are left; the first argument
bounds the number of words. -/
def readOptionWords (known : OptionLetters) :
    Nat → List Bytes → Except Bytes (List ReadOption × List Bytes)
  | 0, words => .ok ([], words)
  | fuel + 1, words =>
      match words with
      | [0x2d, 0x2d] :: rest => .ok ([], rest)
      | (0x2d :: letter :: letters) :: rest => do
          let (options, words) ← readLetterWord known rest (letter :: letters)
          let (more, words) ← readOptionWords known fuel words
          return (options ++ more, words)
      | _ => .ok ([], words)

/-- Take the options off the arguments of a command, or no more of it. -/
def takeOptions (known : OptionLetters) (args : List Bytes) :
    Work (List ReadOption × List Bytes) := do
  match readOptionWords known args.length args with
  | .ok found => pure found
  | .error problem => giveUp problem

/-- Take the arguments of a command that has no options. -/
def takeArguments (args : List Bytes) : Work (List Bytes) :=
  Prod.snd <$> takeOptions {} args

/-! ## Options of scripts -/

/-- The name and the value of a word that may give a variable a value. -/
def cutDefinition (word : Bytes) : Bytes × Option Bytes :=
  let name := word.takeWhile (· ≠ Byte.equals)
  match word.drop name.length with
  | _ :: value => (name, some value)
  | [] => (name, none)

/-- What became of looking for an option. -/
inductive Found
  /-- There are no more. -/
  | none
  /-- An option that is known, with its argument. -/
  | known (letter : UInt8) (argument : Bytes)
  /-- One that is not known. -/
  | unknown (letter : UInt8)
  /-- One without the argument that it needs. -/
  | lacking (letter : UInt8)

/-- Whether a letter is among those of a specification, and then whether it needs an
argument.  A colon after a letter says that it does. -/
def letterIn? (letter : UInt8) : Bytes → Option Bool
  | [] => none
  | l :: 0x3a :: rest => if l = letter then some true else letterIn? letter rest
  | l :: rest => if l = letter then some false else letterIn? letter rest

/-- Look for the next option among words: what was found, and where to look next. -/
def nextOption (letters : Bytes) (words : List Bytes) (place : OptionPlace) :
    Found × OptionPlace :=
  let before := if place.word ≤ 1 then [] else words.getD (place.word - 2) []
  let left := (place.offset.map before.drop).getD []
  let (text, place) : Option Bytes × OptionPlace :=
    if !left.isEmpty then (some left, place)
    else
      match words[place.word - 1]? with
      | some [0x2d, 0x2d] => (none, { word := place.word + 1 })
      | some (0x2d :: letter :: rest) => (some (letter :: rest), { word := place.word + 1 })
      | _ => (none, { word := place.word })
  match text with
  | none | some [] => (.none, { place with offset := none })
  | some (letter :: rest) =>
      let whole := words.getD (place.word - 2) []
      let inside := { place with offset := some (whole.length - rest.length) }
      match letterIn? letter letters with
      | none => (.unknown letter, inside)
      | some false => (.known letter [], inside)
      | some true =>
          if !rest.isEmpty then (.known letter rest, { place with offset := none })
          else
            match words[place.word - 1]? with
            | some argument => (.known letter argument, { word := place.word + 1 })
            | none => (.lacking letter, inside)

/-- Look for the next option among words, or else the arguments of the script, and set
variables to what was found. -/
def getOption (args : List Bytes) : Work Nat := do
  match args with
  | specification :: name :: words =>
      let s ← get
      let words := if words.isEmpty then s.arguments else words
      let place := if words.length + 1 < s.place.word then {} else s.place
      let isQuiet := specification.head? = some Byte.colon
      let (found, place) := nextOption specification words place
      modify ({ · with place := {} })
      let refused (letter : UInt8) (mark : UInt8) (complaint : Bytes) : Work UInt8 := do
        if isQuiet then
          assign argumentName [letter]
          pure mark
        else
          onSystem (complain (complaint ++ [Byte.newline]))
          forget argumentName
          pure question
      let mark ← match found with
        | .none => pure question
        | .known letter argument =>
            assign argumentName argument
            pure letter
        | .unknown letter => refused letter question (utf8 "Illegal option -" ++ [letter])
        | .lacking letter =>
            refused letter Byte.colon (utf8 "No arg for -" ++ [letter] ++ utf8 " option")
      assignQuietly optionIndexName (decimal (Int.ofNat place.word))
      let (name, _) := cutDefinition name
      if !isName name then giveUp (name ++ utf8 ": bad variable name")
      assign name [mark]
      modify ({ · with place })
      pure (if let .none := found then 1 else 0)
  | _ => giveUp (utf8 "Usage: getopts optstring var [arg...]")
where
  /-- The variable for the argument of an option. -/
  argumentName : Bytes := utf8 "OPTARG"
  /-- The letter for what is no option. -/
  question : UInt8 := 0x3f

end Overseer.Shell
