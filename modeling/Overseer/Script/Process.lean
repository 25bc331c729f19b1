import Overseer.Fault
import Overseer.Process

/-!
# Scripted processes

A scripted process behaves as its script says: what each wait comes to, whether
it ends by itself, and which calls raise which faults.  It is made for
rehearsing executions without a system.
-/

namespace Overseer.Script

/-- How a process is to behave. -/
structure ProcessScript where
  /-- Its number. -/
  pid : Int := 4242
  /-- What it exits with if nobody destroys it. -/
  exitValue : Int := 0
  /-- What it exits with once it was destroyed. -/
  killedExitValue : Int := 137
  /-- What the first waits raise, in order. -/
  waits : List Fault := []
  /-- Whether it runs until it is told to end or is destroyed. -/
  lingers : Bool := false
  /-- What destroying raises, although it takes effect. -/
  destroyFault : Option Fault := none
  /-- How many calls of destroying raise; without a number all do. -/
  destroyFaults : Option Nat := none
  /-- What closing a stream raises. -/
  closeFault : StandardStream → Option Fault := fun _ => none
  /-- What launching it raises. -/
  launchFault : Option Fault := none

/-- A scripted process at some point of its life. -/
structure ScriptedProcess where
  /-- Its script. -/
  script : ProcessScript := {}
  /-- How often it was waited for. -/
  waitCalls : Nat := 0
  /-- How often it was destroyed. -/
  destroyCalls : Nat := 0
  /-- Whether it was told to end. -/
  told : Bool := false

namespace ScriptedProcess

/-- Whether the process has ended. -/
def hasEnded (p : ScriptedProcess) : Bool :=
  !p.script.lingers || p.told || p.destroyCalls != 0

/-- What a wait comes to that raises nothing. -/
def reply (p : ScriptedProcess) : WaitReply Fault :=
  if p.hasEnded then
    .exited (if p.destroyCalls = 0 then p.script.exitValue else p.script.killedExitValue)
  else .pending

/-- Begin to wait. -/
def enterWait (p : ScriptedProcess) : WaitReply Fault × ScriptedProcess :=
  let entered := { p with waitCalls := p.waitCalls + 1 }
  match p.script.waits[p.waitCalls]? with
  | some fault => (.failed fault, entered)
  | none => (entered.reply, entered)

/-- Whether the next call of destroying raises the scripted fault. -/
def raisesOnDestroy (p : ScriptedProcess) : Bool :=
  match p.script.destroyFaults with
  | some n => decide (p.destroyCalls < n)
  | none => true

/-- Destroy the process; it takes effect even if it raises. -/
def destroy (p : ScriptedProcess) : Except Fault Unit × ScriptedProcess :=
  (match p.script.destroyFault with
    | some fault => if p.raisesOnDestroy then .error fault else .ok ()
    | none => .ok (),
    { p with destroyCalls := p.destroyCalls + 1 })

/-- Close a stream of the process. -/
def close (p : ScriptedProcess) (stream : StandardStream) : Except Fault Unit :=
  match p.script.closeFault stream with
  | some fault => .error fault
  | none => .ok ()

/-- Tell the process to end. -/
def tell (p : ScriptedProcess) : ScriptedProcess :=
  { p with told := true }

end ScriptedProcess

end Overseer.Script
