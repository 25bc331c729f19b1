import Overseer.Execution.Plan

/-!
# Settings of a supervisor

The settings that future executions are planned with.  Taking the plan copies
them, so changing a setting reaches only executions that are asked for later.
-/

namespace Overseer

/-- What a supervisor plans its executions with. -/
structure Settings where
  /-- Who handles streams. -/
  handler : HandlerId
  /-- Who watches processes. -/
  watchdog : Option WatchdogId := none
  /-- Who destroys processes at shutdown. -/
  destroyer : Option DestroyerId := none
  /-- Where notices go. -/
  journal : JournalId
  /-- The directory processes start in. -/
  directory : Bytes := utf8 "."
  /-- The exit values that count as success. -/
  success : SuccessValues := some []
deriving DecidableEq

namespace Settings

/-- The plan of an execution asked for now. -/
def plan (settings : Settings) (command : CommandLine) (environment : Option Environment) : Plan :=
  { command
    environment
    directory := settings.directory
    handler := settings.handler
    watchdog := settings.watchdog
    destroyer := settings.destroyer
    journal := settings.journal
    success := settings.success }

/-- The settings with another stream handler, which must be given. -/
def withHandler (settings : Settings) (handler : Option HandlerId) : Except Fault Settings :=
  match handler with
  | some i => .ok { settings with handler := i }
  | none => .error .missingStreamHandler

/-- The settings with another journal, which must be given. -/
def withJournal (settings : Settings) (journal : Option JournalId) : Except Fault Settings :=
  match journal with
  | some i => .ok { settings with journal := i }
  | none => .error .missingLogger

/-- The settings with one exit value that counts as success. -/
def withSuccessValue (settings : Settings) (value : Int) : Settings :=
  { settings with success := some [value] }

end Settings

end Overseer
