import Overseer.Shell.Alias

/-!
# Shell commands

The commands of a small shell language.  Words are kept as they are written,
quotes and all, because expanding them depends on the state of the shell at the
time they are reached.
-/

namespace Overseer.Shell

/-- What a redirection does with its descriptor. -/
inductive RedirectionKind
  /-- Read from a file. -/
  | read
  /-- Write to a file, which is emptied first. -/
  | write
  /-- Write to a file, which is emptied first even if files are to be kept. -/
  | overwrite
  /-- Write to the end of a file. -/
  | append
  /-- Read from a file and write to it. -/
  | update
  /-- Do as another descriptor does. -/
  | copy
  /-- Read a text that stands in the script, and that may hold expansions. -/
  | text (expands : Bool)
deriving DecidableEq, Repr

/-- Where a text was read. -/
structure Origin where
  /-- The line it begins on. -/
  line : Nat
  /-- The aliases that there were. -/
  aliases : List Alias := []
deriving DecidableEq, Repr

/-- The origin of a text some lines later. -/
def Origin.after (o : Origin) (lines : Nat) : Origin :=
  { o with line := o.line + lines }

/-- A text in a script in which expansions may be carried out. -/
structure Word extends Origin where
  /-- The text as it is written. -/
  raw : Bytes
  /-- Whether it is a text that a redirection reads. -/
  isDocument : Bool := false
deriving DecidableEq, Repr

/-- A redirection of a descriptor. -/
structure Redirection where
  /-- The descriptor. -/
  descriptor : Nat
  /-- What is done with it. -/
  kind : RedirectionKind
  /-- The file, the other descriptor, or the text. -/
  target : Word
deriving DecidableEq, Repr

/-- A command. -/
inductive Command
  /-- Assignments, then the words of a command with its redirections. -/
  | simple (line : Nat) (assignments : List (Bytes × Word)) (words : List Word)
      (redirections : List Redirection)
  /-- Commands side by side; the output of each is the input of the next. -/
  | pipeline (stages : List Command)
  /-- A command that is not waited for. -/
  | background (body : Command)
  /-- The opposite success. -/
  | negation (body : Command)
  /-- The second if the first succeeds. -/
  | both (first second : Command)
  /-- The second if the first fails. -/
  | either (first second : Command)
  /-- One after the other. -/
  | sequence (first second : Command)
  /-- Nothing, successfully. -/
  | nothing
  /-- One of two, as a condition succeeds or fails. -/
  | branch (condition consequence alternative : Command)
  /-- A body again and again, as long as a condition succeeds, or fails. -/
  | loop (whileSucceeds : Bool) (condition body : Command)
  /-- A body for each of some words. -/
  | iterate (name : Bytes) (items : Option (List Word)) (body : Command)
  /-- A body in a shell of its own. -/
  | subshell (body : Command)
  /-- A body with redirections. -/
  | redirected (body : Command) (redirections : List Redirection)
  /-- The first body one of whose patterns a word matches. -/
  | choice (subject : Word) (arms : List (List Word × Command))
  /-- A body that is known by a name from now on. -/
  | definition (name : Bytes) (body : Command)
  /-- A command that begins on a line. -/
  | onLine (line : Nat) (body : Command)
deriving Repr

namespace Command

/-- One command after the other, unless that is nothing. -/
def followedBy (first : Command) : Command → Command
  | nothing => first
  | second => sequence first second

/-- Wrap a command in redirections, if there are any. -/
def redirect (c : Command) (redirections : List Redirection) : Command :=
  if redirections.isEmpty then c else redirected c redirections

end Command

/-- The commands whose failure ends the shell, and whose own variables stay with
it. -/
def specialNames : List String :=
  [":", ".", "break", "continue", "eval", "exec", "exit", "export", "local", "readonly", "return",
    "set", "shift", "times", "trap", "unset"]

/-- Whether a name is that of a special command. -/
def isSpecialCommand (name : Bytes) : Bool :=
  specialNames.any (fun special => utf8 special = name)

end Overseer.Shell
