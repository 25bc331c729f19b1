import Overseer.Command.Placeholder
import Overseer.Command.Words

/-!
# Command lines

A command line is a program, its arguments and the bindings of placeholders.
Programs and arguments are kept as written; every reading of them expands the
placeholders with the bindings in force at that time.
-/

namespace Overseer

/-- A program with its arguments, before placeholders are expanded. -/
structure CommandLine where
  /-- The program as written. -/
  program : Bytes
  /-- The arguments as written. -/
  arguments : List Bytes
  /-- What placeholders stand for. -/
  bindings : NameMap
  /-- There is always a program. -/
  program_ne_nil : program ≠ []
deriving DecidableEq

namespace CommandLine

/-- The command line of a program without arguments. -/
def ofProgram (program : Bytes) : Except Fault CommandLine :=
  if h : program = [] then .error .emptyExecutable
  else .ok { program, arguments := [], bindings := .empty, program_ne_nil := h }

/-- Add one argument, taken as it is. -/
def addArgument (line : CommandLine) (argument : Bytes) : CommandLine :=
  { line with arguments := line.arguments ++ [argument] }

/-- Add the words of a text as arguments. -/
def addArguments (line : CommandLine) (text : Bytes) : Except Fault CommandLine :=
  (Command.split text).map
    (fun words => { line with arguments := line.arguments ++ words })

/-- Read a line: the first word is the program and the others are its
arguments. -/
def parse (text : Bytes) : Except Fault CommandLine :=
  match Command.split text with
  | .error fault => .error fault
  | .ok [] => .error .emptyCommandLine
  | .ok (program :: arguments) =>
      (ofProgram program).map (fun line => { line with arguments := arguments })

/-- Add the words of a text as arguments in place, one after the other.  What has been changed
before a fault is raised stays changed. -/
def extend (text : Bytes) : EStateM Fault CommandLine Unit := do
  let words ← MonadExcept.ofExcept (Command.split text)
  words.forM fun word => modify (·.addArgument word)

/-- Replace the bindings of all placeholders. -/
def bind (line : CommandLine) (bindings : NameMap) : CommandLine :=
  { line with bindings := bindings }

/-- The program with its placeholders expanded. -/
def expandedProgram (line : CommandLine) : Bytes :=
  Command.expand line.bindings line.program

/-- The arguments with their placeholders expanded. -/
def expandedArguments (line : CommandLine) : List Bytes :=
  line.arguments.map (Command.expand line.bindings)

/-- The expanded program followed by the expanded arguments. -/
def words (line : CommandLine) : List Bytes :=
  line.expandedProgram :: line.expandedArguments

/-- Whether a word is written between quotes. -/
def needsQuotes (word : Bytes) : Bool :=
  word.isEmpty ||
    word.any (fun b => b = Byte.space || b = Byte.tab || b = Byte.doubleQuote)

/-- A word as it is written in a line. -/
def renderWord (word : Bytes) : Bytes :=
  if needsQuotes word then Byte.quote :: word ++ [Byte.quote] else word

/-- A text with one more word behind it, kept apart if there is any text. -/
def appendWord (text word : Bytes) : Bytes :=
  (if text.isEmpty then text else text ++ [Byte.space]) ++ renderWord word

/-- The expanded command line as one line of text. -/
def render (line : CommandLine) : Bytes :=
  line.words.foldl appendWord []

end CommandLine

end Overseer
