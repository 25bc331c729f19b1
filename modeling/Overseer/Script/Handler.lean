import Overseer.Execution.Plan

/-!
# Scripted stream handlers

A scripted stream handler moves no data.  Its script says whether it makes a
session of its own for every execution, and which calls raise which faults.
-/

namespace Overseer.Script

/-- The calls a stream handler gets. -/
inductive HandlerCall
  /-- A session is asked for. -/
  | session
  /-- A stream is handed over. -/
  | attach (stream : StandardStream)
  /-- The streams are to flow. -/
  | start
  /-- The streams are to end. -/
  | stop
deriving DecidableEq

/-- How a stream handler is to behave. -/
structure HandlerScript where
  /-- Whether every execution gets a session of its own. -/
  ownSessions : Bool := false
  /-- What each call raises. -/
  fault : HandlerCall → Option Fault := fun _ => none

/-- A scripted stream handler at some point of its life. -/
structure ScriptedHandler where
  /-- Its script. -/
  script : HandlerScript := {}
  /-- How many sessions of its own it has made. -/
  sessions : Nat := 0

namespace ScriptedHandler

/-- Answer a call. -/
def answer (h : ScriptedHandler) (call : HandlerCall) : Except Fault Unit :=
  match h.script.fault call with
  | some fault => .error fault
  | none => .ok ()

/-- Ask for a session. -/
def openSession (h : ScriptedHandler) (i : HandlerId) : Except Fault SessionId × ScriptedHandler :=
  match h.answer .session with
  | .error fault => (.error fault, h)
  | .ok () =>
      if h.script.ownSessions then
        (.ok { handler := i, own := some h.sessions }, { h with sessions := h.sessions + 1 })
      else (.ok { handler := i }, h)

end ScriptedHandler

end Overseer.Script
