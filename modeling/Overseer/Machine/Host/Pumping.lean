import Overseer.Machine.Host.Basic
import Overseer.Machine.Schedule

/-!
# Pumps at work

The pumps of a host work beside its processes.  An output pump reads what there is
and writes it to a sink, until the stream ends or the sink fails; it then leaves
what follows in the pipe, so that a child which goes on writing waits for room at
last.  An input pump writes one chunk of the source after the other.
-/

namespace Overseer.Machine.Host

open Overseer.Pump

/-- How many steps pumps and processes are followed before they count as
endless. -/
def stepLimit : Nat :=
  1000000

/-- What one step of a pump comes to: the pump and the host. -/
abbrev PumpStep := Pumping × Host

/-- A step of an input pump, unless it has to wait. -/
def feedStep? (h : Host) (p : Pumping) (child : Child) : Feeding → Option PumpStep
  | .writing [] =>
      let (stage, source) := Feeding.take (h.reservoir.source.getD { remaining := [] })
      some ({ p with work := .feeding stage },
        { h with reservoir := { h.reservoir with source := some source } })
  | .writing left@(_ :: _) =>
      match child.write h.kernel left with
      | (.ok 0, _) => none
      | (.ok count, kernel) =>
          some ({ p with work := .feeding (.written left (.taken count)) }, { h with kernel })
      | (.error errno, kernel) =>
          some ({ p with work := .feeding (.written left (.failed errno)) }, { h with kernel })
  | .closing =>
      let (reply, h) := h.withChild p.process (.ok ()) (fun child k => child.close k .input)
      some ({ p with work := .feeding (.closed reply) }, h)
  | .ended _ => none

/-- A step of an output pump, unless it has to wait. -/
def drainStep? (h : Host) (p : Pumping) (child : Child) : Draining → Option PumpStep
  | .reading =>
      (child.read? h.kernel p.stream chunkSize).map (fun (data, kernel) =>
        let reply := if data.isEmpty then ReadReply.ended else .data data
        ({ p with work := .draining (.read reply) }, { h with kernel }))
  | .holding chunk =>
      let (stage, sink) := Draining.write Sink.kind chunk (h.reservoir.sink p.stream)
      some ({ p with work := .draining stage },
        { h with reservoir := h.reservoir.setSink p.stream sink })
  | .flushing =>
      let (stage, sink) := Draining.flush Sink.kind (h.reservoir.sink p.stream)
      some ({ p with work := .draining stage },
        { h with reservoir := h.reservoir.setSink p.stream sink })
  | .ended _ => none

/-- A step of a pump, unless it has to wait or there is nothing left to do.  The session takes note
of the fault of a pump that has ended. -/
def pumpStep? (h : Host) (p : Pumping) : Option PumpStep :=
  match p.work.ending?, h.child? p.process with
  | some none, _ => none
  | some (some fault), _ =>
      some ({ p with work := p.work.done }, h.updateSession p.session (·.record fault))
  | none, none => some ({ p with work := p.work.done }, h)
  | none, some child =>
      match p.work with
      | .feeding stage => h.feedStep? p child stage
      | .draining stage => h.drainStep? p child stage

/-- Let a pump go on until it waits, given whether anything has moved. -/
def pumpWithin : Nat → Bool → Pumping → Host → Bool × PumpStep
  | 0, moved, p, h => (moved, p, h)
  | fuel + 1, moved, p, h =>
      match h.pumpStep? p with
      | none => (moved, p, h)
      | some (p, h) => pumpWithin fuel true p h

/-- Let every pump go on until it waits. -/
def pump (h : Host) : Bool × Host :=
  let (moved, pumpings, h) := h.pumpings.foldl
    (fun (moved, done, h) p =>
      let (moved, p, h) := pumpWithin stepLimit moved p h
      (moved, done ++ [p], h))
    (false, [], h)
  (moved, { h with pumpings })

/-- Let processes and pumps go on in turn until all of them wait. -/
def settleWithin : Nat → Host → Host
  | 0, h => h
  | fuel + 1, h =>
      match { h with kernel := h.kernel.settle }.pump with
      | (true, h) => settleWithin fuel h
      | (false, h) => h

/-- Let processes and pumps go on until all of them wait. -/
def settle (h : Host) : Host :=
  h.settleWithin stepLimit

/-- Let processes and pumps go on until a condition holds, or until nothing happens
any more, at most for some number of instants. -/
def runWithin (done : Host → Bool) : Nat → Host → Host
  | 0, h => h
  | fuel + 1, h =>
      if done h then h
      else
        match h.kernel.nextWake? with
        | some time =>
            let kernel := { h.kernel with clock := max h.kernel.clock time }
            runWithin done fuel { h with kernel }.settle
        | none => h

/-- Let processes and pumps go on until a condition holds, or until nothing happens
any more. -/
def runUntil (h : Host) (done : Host → Bool) : Host :=
  h.runWithin done stepLimit

/-- Let the time go on to an instant. -/
def advance (h : Host) (time : Nat) : Host :=
  let h := h.runUntil (fun h => !h.kernel.nextWake?.any (· ≤ time))
  { h with kernel := { h.kernel with clock := max h.kernel.clock time } }

end Overseer.Machine.Host
