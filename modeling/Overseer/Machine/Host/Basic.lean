import Overseer.Execution.World
import Overseer.Machine.Child
import Overseer.Pump.Session
import Overseer.Pump.Step

/-!
# Hosts

A host is a system whose processes are the children of a supervisor, with the
pumps that move the data of their streams.
-/

namespace Overseer.Machine

open Overseer.File Overseer.Pump

/-- A pump at work on a stream of a child. -/
structure Pumping where
  /-- The session it belongs to. -/
  session : Nat
  /-- The stream. -/
  stream : StandardStream
  /-- The child. -/
  process : ProcessRef
  /-- What it is at. -/
  work : Work := .begin stream

/-- A system with children. -/
structure Host where
  /-- The processes of the system, its files and its time. -/
  kernel : Kernel
  /-- The current directory. -/
  place : Place
  /-- The raw environment entries that children inherit. -/
  inherited : List Bytes
  /-- The sinks and the source of the stream handler. -/
  reservoir : Reservoir := { output := {}, error := some {}, source := none }
  /-- The children, by the index of their launch. -/
  children : List (Nat × Child) := []
  /-- The sessions of the stream handler. -/
  sessions : List (Session ProcessRef) := []
  /-- The pumps of the sessions, in the order they were started. -/
  pumpings : List Pumping := []
  /-- How many waits for a running child are yet to be interrupted. -/
  interruptions : Nat := 0
  /-- Whether the user may execute what a path leads to from a directory. -/
  mayExecute : Tree → Place → Bytes → Bool := Tree.ownerMayExecute

namespace Host

/-- The number of the first child. -/
def firstPid : Nat :=
  1000

/-- The host at the beginning. -/
def start (tree : Tree) (place : Place) (inherited : List Bytes) : Host :=
  { kernel := { tree, clock := Instant.first.toNatClampNeg, nextPid := firstPid }
    place, inherited }

/-- A child. -/
def child? (h : Host) : ProcessRef → Option Child
  | .launched i => (h.children.find? (fun entry => entry.1 = i)).map Prod.snd
  | .outsider => none

/-- The number of a child. -/
def pid (h : Host) (p : ProcessRef) : Int :=
  ((h.child? p).map (fun child => Int.ofNat child.pid)).getD 0

/-- Replace a child. -/
def setChild (h : Host) (p : ProcessRef) (child : Child) : Host :=
  match p with
  | .launched i =>
      { h with children := h.children.map (fun entry => if entry.1 = i then (i, child) else entry) }
  | .outsider => h

/-- Let a child change the host, if it is there. -/
def withChild {α : Type} (h : Host) (p : ProcessRef) (absent : α)
    (f : Child → Kernel → α × Child × Kernel) : α × Host :=
  match h.child? p with
  | none => (absent, h)
  | some child =>
      let (value, child, kernel) := f child h.kernel
      (value, { h with kernel }.setChild p child)

/-- Let a child change the system, if it is there. -/
def withKernel {α : Type} (h : Host) (p : ProcessRef) (absent : α)
    (f : Child → Kernel → α × Kernel) : α × Host :=
  h.withChild p absent (fun child k =>
    let (value, k) := f child k
    (value, child, k))

/-- Change a session. -/
def updateSession (h : Host) (session : Nat) (f : Session ProcessRef → Session ProcessRef) :
    Host :=
  { h with sessions := h.sessions.modify session f }

end Host

end Overseer.Machine
