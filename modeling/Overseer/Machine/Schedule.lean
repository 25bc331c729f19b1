import Overseer.Machine.Kernel

/-!
# Letting processes run

Processes take turns.  What they do takes no time, so that they run until all of
them wait, for each other, for the supervisor or for an instant.
-/

namespace Overseer.Machine.Kernel

/-- How many requests a process makes in one turn. -/
def turnLength : Nat :=
  256

/-- How many rounds of turns processes are followed before they count as
endless. -/
def roundLimit : Nat :=
  1000000

/-- Whether a process sends a signal next.  That ends its turn, so that the signal
takes effect before it does anything more. -/
def sendsSignal (t : Task) : Bool :=
  match t.activity with
  | .signal _ _ _ => true
  | _ => false

/-- Let a process make some requests: whether it made any, and the kernel. -/
def turn (pid : Nat) : Nat → Bool → Kernel → Bool × Kernel
  | 0, moved, k => (moved, k)
  | fuel + 1, moved, k =>
      match k.task? pid with
      | none => (moved, k)
      | some t =>
          if t.stopped || t.ending.isSome then (moved, k)
          else
            match k.step? t with
            | none => (moved, k)
            | some k => if sendsSignal t then (true, k) else turn pid fuel true k

/-- Give every process a turn. -/
def round (k : Kernel) : Bool × Kernel :=
  k.tasks.foldl (fun (moved, k) t => turn t.pid turnLength moved k) (false, k)

/-- Give turns until every process waits. -/
def settleWithin : Nat → Kernel → Kernel
  | 0, k => k
  | fuel + 1, k =>
      match k.round with
      | (true, k) => settleWithin fuel k
      | (false, k) => k

/-- Let processes run until every one of them waits. -/
def settle (k : Kernel) : Kernel :=
  k.settleWithin roundLimit

/-- The next instant at which a process goes on by itself. -/
def nextWake? (k : Kernel) : Option Nat :=
  (k.tasks.filterMap (fun t => if t.stopped then none else t.wake)).min?

end Overseer.Machine.Kernel
