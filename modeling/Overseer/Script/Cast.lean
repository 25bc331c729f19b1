import Overseer.Execution.World
import Overseer.Script.Handler
import Overseer.Script.Process

/-!
# Casts

A cast is everybody an execution calls on, all of them scripted.  Processes are
scripted in the order of their launches; a launch without a script of its own
gets the plain one.
-/

namespace Overseer.Script

/-- Scripted collaborators. -/
structure Cast where
  /-- The scripts of launches to come. -/
  queue : List ProcessScript := []
  /-- The processes launched so far. -/
  launched : List ScriptedProcess := []
  /-- The process that somebody else started. -/
  outsider : ScriptedProcess := {}
  /-- The stream handlers. -/
  handlers : List ScriptedHandler := []

namespace Cast

/-- A process of the cast. -/
def process (c : Cast) : ProcessRef → ScriptedProcess
  | .launched i => c.launched.getD i {}
  | .outsider => c.outsider

/-- Change a process of the cast. -/
def setProcess (c : Cast) (p : ProcessRef) (s : ScriptedProcess) : Cast :=
  match p with
  | .launched i => { c with launched := c.launched.set i s }
  | .outsider => { c with outsider := s }

/-- Launch the next process. -/
def launch (c : Cast) : Except Fault Unit × Cast :=
  let script := c.queue.headD {}
  let c := { c with queue := c.queue.tail, launched := c.launched ++ [{ script }] }
  match script.launchFault with
  | some fault => (.error fault, c)
  | none => (.ok (), c)

/-- Ask a stream handler for a session. -/
def openSession (c : Cast) (i : HandlerId) : Except Fault SessionId × Cast :=
  let (reply, h) := (c.handlers.getD i {}).openSession i
  (reply, { c with handlers := c.handlers.set i h })

/-- Make a call on a session; sessions behave like their handler. -/
def callSession (c : Cast) (session : SessionId) (call : HandlerCall) : Except Fault Unit × Cast :=
  ((c.handlers.getD session.handler {}).answer call, c)

/-- Begin to wait for a process. -/
def enterWait (c : Cast) (p : ProcessRef) : WaitReply Fault × Cast :=
  let (reply, s) := (c.process p).enterWait
  (reply, c.setProcess p s)

/-- Destroy a process. -/
def destroy (c : Cast) (p : ProcessRef) : Except Fault Unit × Cast :=
  let (reply, s) := (c.process p).destroy
  (reply, c.setProcess p s)

/-- Tell a process to end by itself. -/
def tell (c : Cast) (p : ProcessRef) : Cast :=
  c.setProcess p (c.process p).tell

/-- How often each launched process was destroyed. -/
def destroyCalls (c : Cast) : List Nat :=
  c.launched.map (·.destroyCalls)

/-- The cast as the surroundings of executions, under a convention for exit
values that are failures and with a view of the paths that exist. -/
def surroundings (isFailure : Int → Bool) (pathExists : Bytes → Except Errno Bool) :
    Surroundings Cast where
  pathExists path _ := pathExists path
  launch _ _ c := c.launch
  pid c p := (c.process p).script.pid
  openSession i c := c.openSession i
  attach session stream _ c := c.callSession session (.attach stream)
  startStreams session c := c.callSession session .start
  stopStreams session c := c.callSession session .stop
  enterWait p c := c.enterWait p
  resumeWait p c := ((c.process p).reply, c)
  destroy p c := c.destroy p
  close p stream c := ((c.process p).close stream, c)
  release _ c := c
  isFailure
  elapse _ c := c
  nextChange? _ := none

end Cast

end Overseer.Script
