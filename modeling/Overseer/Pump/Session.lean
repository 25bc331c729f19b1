import Overseer.Fault
import Overseer.Process

/-!
# Pump sessions

A session binds streams, starts a pump for each of them, and stops once all of
them have ended.  It keeps the first fault its pumps record.  Stopping reports
that fault, once, and leaves nothing bound, so that a session starts clean.
-/

namespace Overseer.Pump

/-- A session over streams of type `α`. -/
structure Session (α : Type) where
  /-- What is bound to each of the three streams. -/
  bound : StandardStream → Option α := fun _ => none
  /-- The pumps that were started and not yet joined. -/
  pumps : List (StandardStream × α) := []
  /-- The first fault recorded since the start. -/
  firstFault : Option Fault := none

namespace Session

variable {α : Type}

/-- Bind a stream, or leave it unbound. -/
def bind (s : Session α) (stream : StandardStream) (what : Option α) : Session α :=
  { s with bound := fun other => if other = stream then what else s.bound other }

/-- The order in which pumps are started. -/
def startOrder : List StandardStream :=
  [.output, .error, .input]

/-- Start a pump for every bound stream and forget earlier faults. -/
def start (s : Session α) : Session α :=
  { s with
    pumps := s.pumps ++
      startOrder.filterMap (fun stream => (s.bound stream).map (fun what => (stream, what)))
    firstFault := none }

/-- A pump records its fault; only the first one is kept. -/
def record (s : Session α) (fault : Fault) : Session α :=
  { s with firstFault := s.firstFault.or (some fault) }

/-- Stop, all pumps having ended: what they report, and the session left. -/
def stop (s : Session α) : Except Fault Unit × Session α :=
  (match s.firstFault with
    | some fault => .error fault
    | none => .ok (),
    {})

end Session

end Overseer.Pump
