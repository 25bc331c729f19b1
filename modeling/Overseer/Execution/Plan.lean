import Overseer.Command.Line
import Overseer.Environment
import Overseer.Watchdog.Basic

/-!
# Plans of executions

A plan is everything an execution needs to know, taken down when the execution
is asked for.  Later changes of the supervisor's settings or of the caller's
command line do not reach it.
-/

namespace Overseer

/-- The index of a stream handler. -/
abbrev HandlerId := Nat

/-- The index of a watchdog. -/
abbrev WatchdogId := Nat

/-- The index of a destroyer. -/
abbrev DestroyerId := Nat

/-- A stream handler at work for one execution: the handler itself, or one of
the sessions it made for its executions. -/
structure SessionId where
  /-- The handler. -/
  handler : HandlerId
  /-- Which of the handler's own sessions, if it is not the handler itself. -/
  own : Option Nat := none
deriving DecidableEq, Inhabited, Repr

/-- The exit values that count as success: all of them, or those listed, where
an empty list leaves the decision to the launcher's convention. -/
abbrev SuccessValues := Option (List Int)

/-- Whether an exit value counts as a failure. -/
def SuccessValues.isFailure (values : SuccessValues) (convention : Int → Bool) (exitValue : Int) :
    Bool :=
  match values with
  | none => false
  | some [] => convention exitValue
  | some listed => !listed.contains exitValue

/-- What a launcher is asked for. -/
structure LaunchOrder where
  /-- The program and its arguments, with placeholders expanded. -/
  words : List Bytes
  /-- The environment of the new process; without one it inherits. -/
  environment : Option Environment
  /-- The directory the process starts in; the empty one stands for the current. -/
  directory : Bytes
deriving DecidableEq

/-- Everything an execution needs to know. -/
structure Plan where
  /-- The command to run. -/
  command : CommandLine
  /-- The environment to run it in. -/
  environment : Option Environment
  /-- The directory to run it in. -/
  directory : Bytes
  /-- Who handles its streams. -/
  handler : HandlerId
  /-- Who watches it. -/
  watchdog : Option WatchdogId
  /-- Who destroys it at shutdown. -/
  destroyer : Option DestroyerId
  /-- Where its notices go. -/
  journal : JournalId
  /-- The exit values that count as success. -/
  success : SuccessValues
deriving DecidableEq

/-- The order a plan gives to the launcher. -/
def Plan.order (plan : Plan) : LaunchOrder :=
  { words := plan.command.words, environment := plan.environment, directory := plan.directory }

end Overseer
