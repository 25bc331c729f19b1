import Overseer.Machine.Tool.Cat
import Overseer.Machine.Tool.Head
import Overseer.Machine.Tool.List
import Overseer.Machine.Tool.Print
import Overseer.Machine.Tool.Sleep
import Overseer.Machine.Tool.Sort

/-!
# Programs of the system

The small programs that are always there.  Each takes the name it was called by
and its arguments, and answers with its exit code.
-/

namespace Overseer.Machine

/-- A program. -/
structure Tool where
  /-- Its name. -/
  name : String
  /-- What it does, given the name it was called by and its arguments. -/
  run : Bytes → List Bytes → Printing Nat
  /-- Its code if its output fails. -/
  failure : Nat := 1
  /-- Whether it puts something in the place of streams that are missing. -/
  fillsStreams : Bool := false

/-- The programs, apart from the shell. -/
def tools : List Tool :=
  [{ name := "echo", run := echo },
    { name := "printf", run := printf },
    { name := "cat", run := cat },
    { name := "head", run := head },
    { name := "ls", run := ls, failure := troubleCode },
    { name := "sort", run := sort, failure := troubleCode, fillsStreams := true },
    { name := "sleep", run := sleep },
    { name := "true", run := fun _ _ => pure 0 },
    { name := "false", run := fun _ _ => pure 1 }]

/-- What a program does that was called with words, its name first. -/
def Tool.act (tool : Tool) (words : List Bytes) : Act Nat := do
  let name := words.headD []
  let (reply, left) ← (tool.run name words.tail).run.run {}
  let code := match reply with
    | .ok code | .error code => code
  let closing ← writeTo standardOutput left.text
  let isMissing := left.hasLost && !tool.fillsStreams && ((← look).stream? standardOutput).isNone
  let problem := utf8 "write error"
  match if isMissing then .error .badDescriptor else closing with
  | .ok () =>
      if left.hasLost then complainAs name problem
      return if left.hasLost then tool.failure else code
  | .error errno =>
      complainAs name (problem ++ utf8 ": " ++ errno.description)
      return tool.failure

/-- The program of a name, unless it is the shell. -/
def tool? (name : Bytes) : Option Tool :=
  tools.find? (fun tool => utf8 tool.name = name)

end Overseer.Machine
