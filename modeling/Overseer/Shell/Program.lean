import Overseer.Machine.Image
import Overseer.Shell.Builtin

/-!
# Programs as a shell finds them

Which file a command stands for, what runs when it is executed, and what is said
if nothing can.
-/

namespace Overseer.Shell

open Overseer.Machine Overseer.File

/-- The code of a command that was not found. -/
def notFoundCode : Nat :=
  127

/-- The code of a command that could not be executed. -/
def notExecutedCode : Nat :=
  126

/-- The path of the shell. -/
def shellPath : Bytes :=
  utf8 "/bin/sh"

/-- How much of a file is looked at to see whether it is a script. -/
def glanceLength : Nat :=
  128

/-- Whether a byte does not occur on the first line of a script. -/
def isForeign (b : UInt8) : Bool :=
  b < 0x09 || (0x10 ≤ b && b < 0x20 && b ≠ 0x1b) || b = 0x7f

/-- Whether what a file holds may be a script. -/
def isScript (content : Bytes) : Bool :=
  !((content.take glanceLength).takeWhile (· ≠ Byte.newline)).any isForeign

/-- What runs when a command is executed.  A file that is no program may be a script
for the shell. -/
def loadCommand (o : Outlook) (words entries : List Bytes) (path : Bytes) : Except Errno Image :=
  let load := Image.load o.tree (o.tree.ownerMayExecute o.place) o.place
  match load path words entries, o.tree.stat o.place path with
  | .error .notExecutable, .ok (.file _ content) =>
      if isScript content then load shellPath (shellPath :: path :: words.tail) entries
      else .error .notExecutable
  | loaded, _ => loaded

/-- What runs when the first of some paths is executed that can be. -/
def loadFirst (o : Outlook) (words entries : List Bytes) (errno : Errno) :
    List Bytes → Except Errno Image
  | [] => .error errno
  | path :: paths =>
      match loadCommand o words entries path with
      | .ok image => .ok image
      | .error later => loadFirst o words entries (if isAbsence later then errno else later) paths

/-- The code of a command that cannot be executed. -/
def executionCode (errno : Errno) : Nat :=
  if isAbsence errno || errno = .linkLoop || errno = .nameTooLong then notFoundCode
  else notExecutedCode

/-! ## Telling what a command is -/

/-- What a name stands for as a command. -/
inductive Meaning
  /-- A word of the language. -/
  | keyword
  /-- A text. -/
  | standsFor (found : Alias)
  /-- A function. -/
  | function
  /-- A command that is built in. -/
  | builtin
  /-- A program at a path, which may have been found before. -/
  | program (path : Bytes) (again : Bool)

/-- What a name stands for as a command, if it stands for anything.  Programs may be
looked for under another search path than that of the shell. -/
def State.meaning? (s : State) (o : Outlook) (search : Option Bytes) (name : Bytes) :
    Option Meaning :=
  if isReserved name then some .keyword
  else
    match alias? s.aliases name with
    | some found => some (.standsFor found)
    | none =>
        if s.functions.any (fun entry => entry.1 = name) then some .function
        else if isBuiltin name then some .builtin
        else if Byte.slash ∈ name then
          if (o.tree.stat o.place name).toOption.isSome then some (.program name false) else none
        else
          match search, s.tracked.find? (fun t => t.name = name) with
          | none, some t => some (.program t.path true)
          | none, none => ((s.paths? o name).bind List.head?).map (.program · false)
          | some path, _ =>
              ((pathsIn? o name (candidatesIn path name)).bind List.head?).map (.program · false)

/-- A meaning told at length. -/
def Meaning.sentence (name : Bytes) : Meaning → Bytes
  | keyword => name ++ utf8 " is a shell keyword"
  | standsFor found => name ++ utf8 " is an alias for " ++ found.value
  | function => name ++ utf8 " is a shell function"
  | builtin =>
      name ++ utf8 (if isSpecialCommand name then " is a special shell builtin"
        else " is a shell builtin")
  | program path again =>
      name ++ utf8 (if again then " is a tracked alias for " else " is ") ++ path

/-- A meaning told briefly. -/
def Meaning.brief (name : Bytes) : Meaning → Bytes
  | program path _ => path
  | standsFor found => utf8 "alias " ++ found.line
  | _ => name

/-- Tell what a name stands for as a command. -/
def tellMeaning (search : Option Bytes) (atLength : Bool) (name : Bytes) : Work Nat := do
  match (← get).meaning? (← onSystem look) search name with
  | some meaning =>
      if let (.program path _, none) := (meaning, search) then track name path
      printLine "type" (if atLength then meaning.sentence name else meaning.brief name)
  | none =>
      if atLength then
        let _ ← printText "type" (name ++ utf8 ": not found\n")
      pure notFoundCode

/-- Tell what names stand for as commands. -/
def tellMeanings (code : Nat) : List Bytes → Work Nat
  | [] => pure code
  | name :: names => do
      let own ← tellMeaning none true name
      tellMeanings (if own = 0 then code else own) names

/-- Tell what the first of some words stands for, if that is asked for by options. -/
def tellAsked (args : List Bytes) : Work Nat := do
  let (options, words) ← takeOptions { alone := "pvV" } args
  let letters := options.map ReadOption.letter
  let atLength := letters.contains 0x56
  match words with
  | name :: _ =>
      if atLength || letters.contains 0x76 then
        tellMeaning (if letters.contains 0x70 then some defaultSearchPath else none) atLength name
      else pure 0
  | [] => pure 0

/-! ## Commands behind a word -/

/-- Whether a command takes assignments as they are. -/
def isDeclaration (name : Bytes) : Bool :=
  ["alias", "export", "local", "readonly"].any (fun declaring => utf8 declaring = name)

/-- A command with the words in front of it taken off that let functions be passed
over. -/
structure PlainWords where
  /-- Whether functions are passed over. -/
  bare : Bool := false
  /-- The search path, if it is not that of the shell. -/
  search : Option Bytes := none
  /-- The command and its arguments. -/
  words : List Bytes

/-- The command behind options that do not ask what it is: whether it is looked for
elsewhere, and its words. -/
def behindOptions? (standard : Bool) : List Bytes → Option (Bool × List Bytes)
  | [] => none
  | word :: rest =>
      match word with
      | [0x2d, 0x2d] => if rest.isEmpty then none else some (standard, rest)
      | 0x2d :: letter :: letters =>
          if (letter :: letters).all (· = 0x70) then behindOptions? true rest else none
      | _ => some (standard, word :: rest)

/-- Take the words in front off a command, unless they ask what it is; the first
argument bounds their number. -/
def takeFrontWords : Nat → PlainWords → PlainWords
  | 0, p => p
  | fuel + 1, p =>
      match p.words with
      | word :: rest =>
          if word = utf8 "command" then
            match behindOptions? false rest with
            | some (standard, words) =>
                let search := if standard then some defaultSearchPath else p.search
                takeFrontWords fuel { bare := true, search, words }
            | none => p
          else p
      | [] => p

/-- A command without the words in front of it. -/
def plainWords (words : List Bytes) : PlainWords :=
  takeFrontWords words.length { words }

/-- Whether the command that words begin takes assignments as they are. -/
def takesAssignments (words : List Bytes) : Bool :=
  (plainWords words).words.head?.any isDeclaration

end Overseer.Shell
