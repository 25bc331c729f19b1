import Overseer.Environment
import Overseer.Machine.Signal
import Overseer.Machine.Tool
import Overseer.Shell.Job
import Overseer.Shell.Reader

/-!
# The state of a shell

A shell has variables and arguments of its own, and what it does may jump out of
the middle.
-/

namespace Overseer.Shell

open Overseer.Machine Overseer.File

/-- How a command is left in the middle. -/
inductive Jump
  /-- The shell ends with a code. -/
  | exit (code : Nat)
  /-- The shell ends, unless it is in the middle of a command that may fail. -/
  | failure
  /-- A number of loops is left. -/
  | leave (depth : Nat)
  /-- The next turn of an outer loop begins. -/
  | next (depth : Nat)
  /-- A function, or else the shell, is left with a code. -/
  | back (code : Nat)
deriving DecidableEq, Repr

/-- What is restored at the end of a function. -/
inductive Former
  /-- A variable: its name, its value if it had one, and whether programs were given
  it. -/
  | variable (name : Bytes) (value : Option Bytes) (exported : Bool)
  /-- The letters of the options. -/
  | options (letters : Bytes)

/-- A program that was found. -/
structure Tracked where
  /-- Its name. -/
  name : Bytes
  /-- Its path. -/
  path : Bytes
  /-- Whether the directory was changed since. -/
  isDoubtful : Bool := false

/-- Where the next option among the arguments of a command is looked for. -/
structure OptionPlace where
  /-- The number of the next word. -/
  word : Nat := 1
  /-- How much of the word before was read already, if there is more of it. -/
  offset : Option Nat := none

/-- A shell's own state. -/
structure State where
  /-- The values of the variables. -/
  values : NameMap := .empty
  /-- The names of the variables that programs are given. -/
  exported : List Bytes := []
  /-- The names of the variables that keep their values. -/
  fixed : List Bytes := []
  /-- The variables to restore at the end of the innermost function or command
  with variables of its own, the latest first. -/
  former : List Former := []
  /-- The name the shell was called by. -/
  name : Bytes := []
  /-- The arguments. -/
  arguments : List Bytes := []
  /-- The exit code of the last command. -/
  status : Nat := 0
  /-- The exit code of the last substitution in the command under way. -/
  substituted : Option Nat := none
  /-- The exit code of the last command before what is done about a signal or the
  end of the shell. -/
  interrupted : Option Nat := none
  /-- The command that is named in complaints. -/
  command : Option Bytes := none
  /-- The line of the command that runs. -/
  line : Nat := 1
  /-- The path of the current directory. -/
  directory : Bytes := []
  /-- The same without links in it. -/
  physical : Bytes := []
  /-- The letters of the options that are on. -/
  options : Bytes := []
  /-- The programs that were found. -/
  tracked : List Tracked := []
  /-- The aliases. -/
  aliases : List Alias := []
  /-- Where the next option among the arguments is looked for. -/
  place : OptionPlace := {}
  /-- The functions. -/
  functions : List (Bytes × Command) := []
  /-- What is done when a signal comes, which is nothing if the script is empty;
  the number zero stands for the end of the shell. -/
  traps : List (Nat × Bytes) := []
  /-- The signals that were ignored from the start and stay so. -/
  barred : List Nat := []
  /-- The signals that have come and for which nothing was done yet. -/
  arrived : List Nat := []
  /-- The jobs in the background, the latest first. -/
  jobs : List Job := []
  /-- The number of the last process in the background. -/
  background : Option Nat := none
  /-- How many functions are under way. -/
  calls : Nat := 0
  /-- How many loops are under way. -/
  loops : Nat := 0
  /-- How many conditions are under way, whose failure has no consequence. -/
  conditions : Nat := 0
  /-- The number of the shell's process, which its subshells go by as well. -/
  pid : Nat

/-- What a shell does. -/
abbrev Work (α : Type) := ExceptT Jump (StateT State Act) α

/-- Ask the system for something. -/
def onSystem {α : Type} (act : Act α) : Work α :=
  liftM act

/-- End the shell. -/
def stop {α : Type} (code : Nat) : Work α :=
  throw (.exit code)

/-- Go on for ever. -/
def spin {α : Type} : Work α :=
  onSystem (Act.leave .spin)

/-- End the shell, unless it is in the middle of a command that may fail. -/
def fail {α : Type} : Work α :=
  throw .failure

/-- Set the exit code of the last command. -/
def setStatus (code : Nat) : Work Unit :=
  modify ({ · with status := code })

/-- Do something in a state that is entered before and left afterwards, also by
a jump. -/
def within {α : Type} (enter leave : State → State) (work : Work α) : Work α := do
  modify enter
  try
    let value ← work
    modify leave
    pure value
  catch jump =>
    modify leave
    throw jump

/-- Do something as part of a loop. -/
def inLoop {α : Type} (work : Work α) : Work α :=
  within (fun s => { s with loops := s.loops + 1 }) (fun s => { s with loops := s.loops - 1 }) work

/-- Do something as part of a condition. -/
def inCondition {α : Type} (work : Work α) : Work α :=
  within (fun s => { s with conditions := s.conditions + 1 })
    (fun s => { s with conditions := s.conditions - 1 }) work

/-- Whether an option is on. -/
def State.has (s : State) (option : UInt8) : Bool :=
  s.options.contains option

/-- The letters of the options, in the order they are shown. -/
def optionLetters : Bytes :=
  utf8 "pubaCEVvxsnmiIfe"

/-- The options with names; for want of letters some have control bytes. -/
def optionNames : List (String × UInt8) :=
  [("errexit", 0x65), ("noglob", 0x66), ("ignoreeof", 0x49), ("interactive", 0x69),
    ("monitor", 0x6d), ("noexec", 0x6e), ("stdin", 0x73), ("xtrace", 0x78), ("verbose", 0x76),
    ("vi", 0x56), ("emacs", 0x45), ("noclobber", 0x43), ("allexport", 0x61), ("notify", 0x62),
    ("nounset", 0x75), ("privileged", 0x70), ("nolog", 0x01), ("debug", 0x02)]

/-- The option to stop when a command fails. -/
def stopsOnFailure : UInt8 := 0x65
/-- The option to refuse parameters without a value. -/
def refusesUnset : UInt8 := 0x75
/-- The option to take patterns for plain words. -/
def ignoresPatterns : UInt8 := 0x66
/-- The option to give all variables to programs. -/
def exportsAll : UInt8 := 0x61
/-- The option to tell of each command before it runs. -/
def tells : UInt8 := 0x78
/-- The option to run nothing. -/
def runsNothing : UInt8 := 0x6e
/-- The option to read commands from the input. -/
def readsInput : UInt8 := 0x73
/-- The option to repeat what is read. -/
def repeats : UInt8 := 0x76
/-- The option to have jobs under control, for which there has to be a terminal. -/
def controlsJobs : UInt8 := 0x6d
/-- The option to ask for commands, and to go on after failures. -/
def asksForCommands : UInt8 := 0x69
/-- The option to pay no heed to the end of the input. -/
def ignoresEnd : UInt8 := 0x49
/-- Two ways to edit lines, of which one is on at most. -/
def editors : Bytes := [0x56, 0x45]

/-- Turn an option on or off. -/
def State.setOption (s : State) (on : Bool) (option : UInt8) : State :=
  let others := s.options.filter (fun other =>
    other ≠ option && !(on && editors.contains option && editors.contains other))
  { s with options := if on then option :: others else others }

/-- Stop after a failure outside of conditions, if the option for that is on. -/
def heedFailure : Work Unit := do
  let s ← get
  if s.status ≠ 0 && s.conditions = 0 && s.has stopsOnFailure then stop s.status

/-- What the shell has to say about something, in its own name and that of the
command under way. -/
def State.remark (s : State) (text : Bytes) : Bytes :=
  s.name ++ utf8 ": " ++ decimal (Int.ofNat s.line) ++ utf8 ": " ++
    (match s.command with
      | some command => command ++ utf8 ": "
      | none => []) ++ text ++ [Byte.newline]

/-- Complain in the name of the shell. -/
def grumble (text : Bytes) : Work Unit := do
  onSystem (complain ((← get).remark text))

/-- The code of a shell that cannot go on. -/
def failureCode : Nat :=
  2

/-- Complain, and go no further. -/
def giveUp {α : Type} (text : Bytes) : Work α := do
  grumble text
  fail

/-- Let programs be given a variable. -/
def State.give (s : State) (name : Bytes) : State :=
  { s with exported := if s.exported.contains name then s.exported else s.exported ++ [name] }

/-- The variable that holds the search path. -/
def searchName : Bytes :=
  utf8 "PATH"

/-- The variable that holds the number of the next argument to look for options in. -/
def optionIndexName : Bytes :=
  utf8 "OPTIND"

/-- The number that a word stands for, which takes 31 bits; there may be blanks around
it. -/
def readCount? (text : Bytes) : Option Nat :=
  match readDecimal? text with
  | some (.ofNat n) => if n < 0x80000000 then some n else none
  | _ => none

/-- The number that a word stands for, or no more of the command. -/
def readCount (text : Bytes) : Work Nat := do
  match readCount? text with
  | some n => pure n
  | none => giveUp (utf8 "Illegal number: " ++ text)

/-- Give a variable a value, and leave alone what depends on it. -/
def assignQuietly (name value : Bytes) : Work Unit := do
  let s ← get
  if s.fixed.contains name then giveUp (name ++ utf8 ": is read only")
  let s := if s.has exportsAll then s.give name else s
  set { s with values := s.values.insert name value }

/-- Take note of a new value of a variable: programs may be elsewhere then, and options
are looked for from another word on. -/
def heedValue (name value : Bytes) : Work Unit := do
  if name = searchName then modify ({ · with tracked := [] })
  if name = optionIndexName then
    let word ← readCount value
    modify ({ · with place := { word := max 1 word } })

/-- Give a variable a value. -/
def assign (name value : Bytes) : Work Unit := do
  if !(← get).fixed.contains name then heedValue name value
  assignQuietly name value

/-- Take away the value of a variable. -/
def forget (name : Bytes) : Work Unit := do
  let s ← get
  if s.fixed.contains name then giveUp (name ++ utf8 ": is read only")
  heedValue name []
  modify (fun s => { s with
    values := s.values.erase name, exported := s.exported.filter (· ≠ name) })

/-- Take note of what a variable is, to restore it later. -/
def remember (name : Bytes) : Work Unit :=
  modify (fun s =>
    let former := Former.variable name (s.values.find? name) (s.exported.contains name)
    { s with former := former :: s.former })

/-- The state in which something is as it was. -/
def State.restore (s : State) : Former → State
  | .variable name value exported =>
      let others := s.exported.filter (· ≠ name)
      { s with
        values := match value with
          | some value => s.values.insert name value
          | none => s.values.erase name
        exported := if exported then others ++ [name] else others
        tracked := if name = searchName then [] else s.tracked
        place := if name = optionIndexName then
          { word := max 1 ((value.bind readCount?).getD 1) } else s.place }
  | .options letters => { s with options := letters }

/-- The name that was remembered latest and cannot be that of a variable. -/
def State.badFormer? (s : State) : Option Bytes :=
  s.former.findSome? (fun former =>
    match former with
    | .variable name _ _ => if isName name then none else some name
    | .options _ => none)

/-- Do something, and restore the variables that were remembered meanwhile.  That fails
for what cannot be a variable. -/
def inScope {α : Type} (work : Work α) : Work α := do
  let outer := (← get).former
  let (value, bad) ← within (fun s => { s with former := [] })
    (fun s => { s.former.foldl State.restore s with former := outer })
    (do
      let value ← work
      pure (value, (← get).badFormer?))
  match bad with
  | some name => giveUp (name ++ utf8 ": bad variable name")
  | none => pure value

/-- The search path of a shell that was given none. -/
def defaultSearchPath : Bytes :=
  utf8 "/usr/local/sbin:/usr/local/bin:/usr/sbin:/usr/bin:/sbin:/bin"

/-- The variable that holds the bytes that separate fields. -/
def separatorName : Bytes :=
  utf8 "IFS"

/-- The bytes that separate fields unless others are chosen. -/
def defaultSeparators : Bytes :=
  utf8 " \t\n"

/-- The bytes that separate fields. -/
def State.separators (s : State) : Bytes :=
  (s.values.find? separatorName).getD defaultSeparators

/-- The variable that holds the directory of the user. -/
def homeName : Bytes :=
  utf8 "HOME"

/-- The variable that holds the current directory. -/
def directoryName : Bytes :=
  utf8 "PWD"

/-- The variable that holds the directory before. -/
def formerDirectoryName : Bytes :=
  utf8 "OLDPWD"

/-- The variable that holds the number of the process that started the shell. -/
def parentName : Bytes :=
  utf8 "PPID"

/-- The text of a place as a path. -/
def placePath (place : Place) : Bytes :=
  if place.isEmpty then [Byte.slash] else place.flatMap (Byte.slash :: ·)

/-- The path that a shell goes by which is started in a place: one it was given, if
that leads there, or else that of the place. -/
def startDirectory (o : Outlook) (given : Option Bytes) : Bytes :=
  match given with
  | some path =>
      let leadsHere := (o.tree.resolve [] path).toOption = some o.place
      if path.head? = some Byte.slash && leadsHere then path else placePath o.place
  | none => placePath o.place

/-- The state of a shell that is started with raw environment entries, before it
has read its words.  Only entries whose name can be that of a variable count, and
the last of a name; some variables never get their values from there. -/
def State.start (entries : List Bytes) (o : Outlook) (name : Bytes) : State :=
  let all := (entries.filterMap Environment.decodeEntry?).filter (fun entry => isName entry.1)
  let (places, given) := all.partition (fun entry => entry.1 = directoryName)
  let directory := startDirectory o (places.getLast?.map Prod.snd)
  let own := [(searchName, defaultSearchPath), (separatorName, defaultSeparators),
    (optionIndexName, utf8 "1"), (utf8 "PS1", utf8 "$ "), (utf8 "PS2", utf8 "> "),
    (utf8 "PS4", utf8 "+ "), (parentName, decimal (Int.ofNat o.parent)),
    (directoryName, directory)]
  let lasting := given.filter (fun entry =>
    entry.1 ≠ separatorName && entry.1 ≠ optionIndexName && entry.1 ≠ parentName)
  { values := .ofList (own ++ lasting)
    exported := (given.map Prod.fst).eraseDups ++ [directoryName]
    name, directory, physical := placePath o.place, pid := o.pid, barred := o.ignored, line := 0 }

/-- The raw environment entries a shell gives to programs. -/
def State.entries (s : State) : List Bytes :=
  s.exported.filterMap (fun name =>
    (s.values.find? name).map (fun value => Environment.encodeEntry (name, value)))

/-- The state of a subshell. -/
def State.forSubshell (s : State) : State :=
  { s with traps := s.traps.filter (fun entry => entry.2.isEmpty), arrived := [], jobs := [] }

/-- Whether anything is done when a signal comes or the shell ends. -/
def State.hasTraps (s : State) : Bool :=
  s.traps.any (fun entry => !entry.2.isEmpty)

/-- The arguments as one text. -/
def State.joinedArguments (s : State) : Bytes :=
  Bytes.joinWith (s.separators.take 1) s.arguments

/-- The value of a parameter, if it has one. -/
def State.parameter? (s : State) (name : Bytes) : Option Bytes :=
  if name = utf8 "?" then some (decimal (Int.ofNat s.status))
  else if name = utf8 "#" then some (decimal (Int.ofNat s.arguments.length))
  else if name = utf8 "$" then some (decimal (Int.ofNat s.pid))
  else if name = utf8 "-" then some (optionLetters.filter s.options.contains)
  else if name = utf8 "!" then s.background.map (fun pid => decimal (Int.ofNat pid))
  else if name = utf8 "@" || name = utf8 "*" then
    if s.arguments.isEmpty then none else some s.joinedArguments
  else
    match readNumber? name with
    | some 0 => some s.name
    | some n => s.arguments[n - 1]?
    | none => s.values.find? name

end Overseer.Shell
