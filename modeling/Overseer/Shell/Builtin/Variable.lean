import Overseer.Shell.Builtin.Print
import Overseer.Shell.Field

/-!
# Commands for variables and arguments

The commands built into the shell that read, declare and forget variables, and that
change the arguments and the options of the shell.
-/

namespace Overseer.Shell

open Overseer.Machine

/-! ## Reading -/

/-- Read a line from the input byte by byte, without the line feed; whether there
was one.  Unless the line is taken as it is, a backslash protects the byte after
it and joins lines. -/
def readLetters (raw : Bool) : Nat → List Letter → Act (List Letter × Bool)
  | 0, _ => Act.leave .spin
  | fuel + 1, before => do
      match ← Activity.read standardInput 1 .untilSignal with
      | .ok [b] =>
          if b = Byte.newline then pure (before.reverse, true)
          else if b = 0 then readLetters raw fuel before
          else if b = Byte.backslash && !raw then
            match ← Activity.read standardInput 1 .untilSignal with
            | .ok [c] =>
                if c = Byte.newline then readLetters raw fuel before
                else readLetters raw fuel ({ byte := c, quoted := true } :: before)
            | _ => pure (before.reverse, false)
          else readLetters raw fuel ({ byte := b, quoted := false } :: before)
      | _ => pure (before.reverse, false)

/-- How many bytes a line may have. -/
def lineLimit : Nat :=
  1000000

/-- Refuse a name that no variable can have. -/
def requireName (name : Bytes) : Work Unit := do
  if !isName name then giveUp (name ++ utf8 ": bad variable name")

/-- Read a line into variables.  A prompt would only be shown on a terminal. -/
def readVariables (args : List Bytes) : Work Nat := do
  let (options, names) ← takeOptions { alone := "r", needing := "p" } args
  if names.isEmpty then giveUp (utf8 "arg count")
  let raw := options.any (fun option => option.letter = 0x72)
  let (letters, complete) ← onSystem (readLetters raw lineLimit [])
  let values := cutLine (← get).separators names.length letters
  for (word, value) in names.zip values do
    let (name, _) := cutDefinition word
    requireName name
    assign name value
  pure (if complete then 0 else 1)

/-! ## Declaring -/

/-- Do something with variables, after giving them values where there are any. -/
def declare (use : Bytes → State → State) : List Bytes → Work Nat
  | [] => pure 0
  | word :: rest => do
      let (name, value) := cutDefinition word
      requireName name
      if let some value := value then assign name value
      modify (use name)
      declare use rest

/-- List variables by their names, with their values where they have any, after a
word. -/
def listVariables (word : String) (names : List Bytes) : Work Nat := do
  let s ← get
  let line (name : Bytes) : Bytes :=
    let value := match s.values.find? name with
      | some value => [Byte.equals] ++ inSingleQuotes value
      | none => []
    utf8 word ++ name ++ value ++ [Byte.newline]
  printText "echo" ((sorted names).flatMap line)

/-- Give variables to programs from now on. -/
def exportVariables (args : List Bytes) : Work Nat := do
  let (options, words) ← takeOptions { ending := "p" } args
  if words.isEmpty || !options.isEmpty then listVariables "export " (← get).exported
  else declare (fun name s => s.give name) words

/-- Let variables keep their values. -/
def fixVariables (args : List Bytes) : Work Nat := do
  let (options, words) ← takeOptions { ending := "p" } args
  if words.isEmpty || !options.isEmpty then listVariables "readonly " (← get).fixed
  else
    declare (fun name s =>
      { s with fixed := if s.fixed.contains name then s.fixed else s.fixed ++ [name] }) words

/-- Let variables have values of their own in a function; a hyphen stands for the
options. -/
def localVariables (args : List Bytes) : Work Nat := do
  if (← get).calls = 0 then giveUp (utf8 "not in a function")
  for word in args do
    if word = hyphen then
      modify (fun s => { s with former := .options s.options :: s.former })
    else
      let (name, value) := cutDefinition word
      if value.isNone then requireName name
      remember name
      if let (some value, true) := (value, isName name) then assign name value
  pure 0

/-- Forget variables, or functions. -/
def unsetVariables (args : List Bytes) : Work Nat := do
  let (options, words) ← takeOptions { alone := "vf" } args
  if options.getLast?.any (fun option => option.letter = 0x66) then
    modify (fun s => { s with
      functions := s.functions.filter (fun entry => !words.contains entry.1) })
  else
    for word in words do
      let (name, _) := cutDefinition word
      requireName name
      forget name
  pure 0

/-! ## Arguments and options of the shell -/

/-- Drop arguments. -/
def shift (args : List Bytes) : Work Nat := do
  let n ← match args with
    | [] => pure 1
    | count :: _ => readCount count
  let s ← get
  if s.arguments.length < n then giveUp (utf8 "can't shift that many")
  else
    set { s with arguments := s.arguments.drop n, place := {} }
    pure 0

/-- How the options with names are listed. -/
def State.optionTable (s : State) (asCommands : Bool) : String :=
  let line (entry : String × UInt8) : String :=
    let on := s.has entry.2
    if asCommands then "set " ++ (if on then "-" else "+") ++ "o " ++ entry.1 ++ "\n"
    else
      let gap := String.ofList (List.replicate (16 - entry.1.length) ' ')
      entry.1 ++ gap ++ (if on then "on" else "off") ++ "\n"
  (if asCommands then "" else "Current option settings\n") ++
    String.join (optionNames.map line)

/-- What words that set options lead to. -/
structure Setting where
  /-- The state with the options. -/
  state : State
  /-- What was asked for to be listed meanwhile. -/
  listed : String := ""
  /-- The words that are left. -/
  words : List Bytes
  /-- What is wrong with the options after those. -/
  problem : Option Bytes := none

/-- Turn options on or off as letters say, or names among the words that follow; for
want of a name the options are listed.  Besides the letters of options some others may
be given. -/
def applyLetters (others : Bytes) (on : Bool) (s : Setting) : Bytes → Setting
  | [] => s
  | letter :: letters =>
      if letter = 0x6f then
        match s.words with
        | [] =>
            applyLetters others on { s with listed := s.listed ++ s.state.optionTable !on } letters
        | name :: words =>
            match optionNames.find? (fun entry => utf8 entry.1 = name) with
            | some (_, option) =>
                applyLetters others on
                  { s with state := s.state.setOption on option, words } letters
            | none => { s with problem := some (utf8 "Illegal option -o " ++ name) }
      else if (optionLetters ++ others).contains letter then
        applyLetters others on { s with state := s.state.setOption on letter } letters
      else { s with problem := some (utf8 "Illegal option -" ++ [letter]) }

/-- Read options off words: what they lead to, and whether there are words after them.
The number bounds how many words there are.  A minus sign alone ends the options; unless
there are others, it turns off what shows commands. -/
def readOptions (others : Bytes) : Nat → Setting → Setting × Bool
  | 0, s => (s, true)
  | fuel + 1, s =>
      match s.words with
      | [] => (s, false)
      | [0x2d, 0x2d] :: words => ({ s with words }, true)
      | [0x2d] :: words =>
          let state := if others.isEmpty then
            (s.state.setOption false tells).setOption false repeats else s.state
          ({ s with state, words }, !words.isEmpty)
      | (sign :: letters) :: words =>
          if sign = 0x2d || sign = 0x2b then
            let s := applyLetters others (sign = 0x2d) { s with words } letters
            if s.problem.isSome then (s, true) else readOptions others fuel s
          else (s, true)
      | [] :: _ => (s, true)

/-- Set options as words say, among which there may be some others, and list those that
are asked for: what is left, and whether there are words after the options. -/
def setOptions (others : Bytes) (args : List Bytes) : Work (List Bytes × Bool) := do
  let (setting, hasMore) :=
    readOptions others (args.length + 1) { state := ← get, words := args }
  set setting.state
  if !setting.listed.isEmpty then
    let _ ← printText "set" (utf8 setting.listed)
  match setting.problem with
  | some problem => giveUp problem
  | none => pure (setting.words, hasMore)

/-- Turn the control of jobs off where it was turned on: there is no terminal. -/
def refuseTerminal : Work Unit := do
  let s ← get
  if s.has controlsJobs then
    set (s.setOption false controlsJobs)
    grumble (utf8 "can't access tty; job control turned off")

/-- Set options and replace the arguments, or list all variables. -/
def setArguments (args : List Bytes) : Work Nat := do
  if args.isEmpty then
    return (← listVariables "" ((← get).values.entries.map Prod.fst))
  let (arguments, replaces) ← setOptions [] args
  refuseTerminal
  if replaces then modify ({ · with arguments, place := {} })
  pure 0

end Overseer.Shell
