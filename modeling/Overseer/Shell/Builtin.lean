import Overseer.Shell.Builtin.Job
import Overseer.Shell.Builtin.Process
import Overseer.Shell.Builtin.Variable

/-!
# Commands built into the shell

The table of the commands that a shell carries out itself, apart from those that run
other commands.
-/

namespace Overseer.Shell

open Overseer.Machine Overseer.File

/-! ## Jumps -/

/-- Leave the shell with a code, by default that of the last command. -/
def exit (args : List Bytes) : Work Nat := do
  match args with
  | [] =>
      let s ← get
      stop (s.interrupted.getD s.status)
  | code :: _ => stop ((← readCount code) % 256)

/-- Jump out of loops, or do nothing where there is none. -/
def jumpOut (jump : Nat → Jump) (args : List Bytes) : Work Nat := do
  let depth ← match args with
    | [] => pure 1
    | depth :: _ =>
        let n ← readCount depth
        if n = 0 then giveUp (utf8 "Illegal number: " ++ depth)
        pure n
  let loops := (← get).loops
  setStatus 0
  if loops = 0 then pure 0 else throw (jump (min loops depth))

/-- Leave a function, or else the shell, with a code, by default that of the last
command. -/
def comeBack (args : List Bytes) : Work Nat := do
  match args with
  | [] => throw (.back (← get).status)
  | code :: _ => throw (.back (← readCount code))

/-! ## Names of commands -/

/-- Define aliases, or tell of them. -/
def defineAliases (code : Nat) : List Bytes → Work Nat
  | [] => pure code
  | word :: rest => do
      let name := word.take 1 ++ (word.drop 1).takeWhile (· ≠ Byte.equals)
      match word.drop name.length, alias? (← get).aliases word with
      | _ :: value, _ =>
          modify (fun s => { s with aliases := setAlias name value s.aliases })
          defineAliases code rest
      | [], some found =>
          let _ ← printLine "alias" found.line
          defineAliases code rest
      | [], none =>
          onSystem (complainAs (utf8 "alias") (word ++ utf8 " not found"))
          defineAliases 1 rest

/-- Define aliases, or list them. -/
def aliasNames (args : List Bytes) : Work Nat := do
  if args.isEmpty then printText "alias" (unlines (aliasLines (← get).aliases))
  else defineAliases 0 args

/-- Forget aliases. -/
def forgetAliases (code : Nat) : List Bytes → Work Nat
  | [] => pure code
  | name :: rest => do
      let s ← get
      match alias? s.aliases name with
      | some _ =>
          set { s with aliases := s.aliases.filter (fun a => a.name ≠ name) }
          forgetAliases code rest
      | none =>
          onSystem (complainAs (utf8 "unalias") (name ++ utf8 " not found"))
          forgetAliases 1 rest

/-- Forget aliases, perhaps all of them. -/
def unaliasNames (args : List Bytes) : Work Nat := do
  let (options, names) ← takeOptions { alone := "a" } args
  if options.isEmpty then forgetAliases 0 names
  else
    modify ({ · with aliases := [] })
    pure 0

/-- Look for programs, and take note of where they are. -/
def hashAll (isBuiltin : Bytes → Bool) (code : Nat) : List Bytes → Work Nat
  | [] => pure code
  | name :: rest => do
      let s ← get
      let o ← onSystem look
      if isBuiltin name || s.functions.any (fun entry => entry.1 = name) then
        hashAll isBuiltin code rest
      else
        match (s.paths? o name).bind List.head? with
        | some path =>
            track name path
            hashAll isBuiltin code rest
        | none =>
            grumble (executionProblem name (s.absence o name))
            hashAll isBuiltin 1 rest

/-- Look for programs, list those that were found, or forget them. -/
def hash (isBuiltin : Bytes → Bool) (args : List Bytes) : Work Nat := do
  let (options, names) ← takeOptions { alone := "r" } args
  if !options.isEmpty then
    modify ({ · with tracked := [] })
    pure 0
  else if names.isEmpty then printText "hash" (← get).trackedLines
  else hashAll isBuiltin 0 names

/-- The time that the shell and its children took, of which a clock shows nothing. -/
def times : Work Nat :=
  printText "times" (unlines (List.replicate 2 (utf8 "0m0.000000s 0m0.000000s")))

/-! ## The table -/

/-- The commands that are built in and run other commands. -/
def runningNames : List String :=
  [".", "command", "eval", "exec", "type"]

/-- The commands that are built in and run no others, apart from one that looks for
them. -/
def plainBuiltins (args : List Bytes) : List (String × Work Nat) :=
  [(":", pure 0), ("true", pure 0), ("false", pure 1), ("echo", shellEcho args),
    ("printf", shellPrintf args), ("exit", exit args), ("kill", kill args),
    ("read", readVariables args), ("test", test args), ("[", bracket args),
    ("cd", changeDirectory args), ("chdir", changeDirectory args), ("pwd", printDirectory args),
    ("export", exportVariables args), ("unset", unsetVariables args), ("shift", shift args),
    ("set", setArguments args), ("break", jumpOut .leave args), ("continue", jumpOut .next args),
    ("return", comeBack args), ("wait", wait args), ("trap", trap args),
    ("local", localVariables args), ("readonly", fixVariables args), ("umask", changeMask args),
    ("ulimit", changeLimit args), ("jobs", jobs args), ("fg", refuseControl args),
    ("bg", refuseControl args), ("getopts", getOption args), ("alias", aliasNames args),
    ("unalias", unaliasNames args), ("times", times)]

/-- Whether a command is built in. -/
def isBuiltin (name : Bytes) : Bool :=
  name = utf8 "hash" || runningNames.any (fun known => utf8 known = name) ||
    (plainBuiltins []).any (fun entry => utf8 entry.1 = name)

/-- The command of a name, if it is built in and runs no other one. -/
def builtin? (name : Bytes) (args : List Bytes) : Option (Work Nat) :=
  if name = utf8 "hash" then some (hash isBuiltin args)
  else ((plainBuiltins args).find? (fun entry => utf8 entry.1 = name)).map Prod.snd

end Overseer.Shell
