import Overseer.Supervisor.Basic

/-!
# Calls on a supervisor

The calls a caller from outside makes, each run until it returns.  While a
caller waits, the workers take their steps in the order of `firstStep?`; time
passes only when nobody can take a step and somebody waits for the end of a
process.

All loops take a bound on the number of steps: an execution whose waits are
interrupted for ever would never end.
-/

namespace Overseer

namespace Supervisor

variable {σ : Type}

/-- Whether a worker waits for its process. -/
def isWaiting (sup : Supervisor σ) (i : WorkerId) : Bool :=
  (sup.workers[i]?).any (·.run.isBlocked)

/-- The step of the earliest worker that can take one.  Those that do not wait for
their processes go first, so that what one process has come to is dealt with, and
what follows from that, before the next process is asked after. -/
def firstStep? (s : Surroundings σ) (sup : Supervisor σ) : Option (Supervisor σ) :=
  let (waiting, others) := (List.range sup.workers.length).partition sup.isWaiting
  (others ++ waiting).findSome? (sup.stepWorker? s)

/-- Let the timer of a watchdog end. -/
def expire (s : Surroundings σ) (sup : Supervisor σ) (i : WatchdogId) : Supervisor σ :=
  { sup with world := sup.world.expire s i }

/-- Let the workers take steps until none can and no timer is due. -/
def settle (s : Surroundings σ) : Nat → Supervisor σ → Supervisor σ
  | 0, sup => sup
  | fuel + 1, sup =>
      match sup.firstStep? s with
      | some next => settle s fuel next
      | none =>
          match sup.world.dueWatchdog? with
          | some i => settle s fuel (sup.expire s i)
          | none => sup

/-- Whether every worker has finished. -/
def allFinished (sup : Supervisor σ) : Bool :=
  sup.workers.all Worker.isFinished

/-- Let time pass until something has come about, or nothing can happen any more. -/
def passUntil (s : Surroundings σ) (done : Supervisor σ → Bool) :
    Nat → Supervisor σ → Supervisor σ
  | 0, sup => sup
  | fuel + 1, sup =>
      let sup := sup.settle s fuel
      if done sup then sup
      else
        match sup.world.nextInstant? s with
        | some t => passUntil s done fuel { sup with world := sup.world.elapse s t }
        | none => sup

/-- Let time pass until every worker has finished, or nothing can happen any
more. -/
def finish (s : Surroundings σ) (fuel : Nat) (sup : Supervisor σ) : Supervisor σ :=
  sup.passUntil s allFinished fuel

/-- Let a worker take steps until its caller goes on. -/
def awaitStart (s : Surroundings σ) (i : WorkerId) : Nat → Supervisor σ → Supervisor σ
  | 0, sup => sup
  | fuel + 1, sup =>
      match sup.passStart? i with
      | some passed => passed
      | none =>
          match sup.stepWorker? s i with
          | some next => awaitStart s i fuel next
          | none => sup

/-- Ask for a background execution and wait until its launch was tried. -/
def executeInBackground (s : Surroundings σ) (fuel : Nat) (sup : Supervisor σ)
    (command : CommandLine) (environment : Option Environment) (receiver : Option Receiver) :
    Except Fault Unit × Supervisor σ :=
  match sup.submit s (.outside 0) command environment receiver with
  | .error fault => (.error fault, sup)
  | .ok (i, sup) => (.ok (), sup.awaitStart s i fuel)

/-- Carry an execution on to its outcome.  Nothing comes out of one that waits
for an end that never comes. -/
def complete (s : Surroundings σ) : Nat → Run → Supervisor σ → Option Outcome × Supervisor σ
  | 0, _, sup => (none, sup)
  | fuel + 1, run, sup =>
      let (run, world) := run.advance s fuel sup.world
      let sup := { sup with world }
      match run.outcome? with
      | some outcome => (some outcome, sup)
      | none =>
          match sup.world.dueWatchdog?, sup.world.nextInstant? s with
          | some i, _ => complete s fuel run ((sup.expire s i).settle s fuel)
          | none, some t => complete s fuel run { sup with world := sup.world.elapse s t }
          | none, none => (none, sup)

/-- Carry out an execution while the caller waits. -/
def execute (s : Surroundings σ) (fuel : Nat) (sup : Supervisor σ) (command : CommandLine)
    (environment : Option Environment) : Option Outcome × Supervisor σ :=
  match sup.checkDirectory s with
  | .error fault => (some (.fault fault), sup)
  | .ok () => sup.complete s fuel { plan := sup.settings.plan command environment }

/-- Part with workers one after the other, as far as they have finished. -/
def partAll (sup : Supervisor σ) : List WorkerId → Supervisor σ
  | [] => sup
  | i :: rest =>
      match sup.part? (.outside 0) i with
      | some next => next.partAll rest
      | none => sup

/-- Wait for the workers there are.  Who is put on the list meanwhile is not waited
for. -/
def awaitWorkers (s : Surroundings σ) (fuel : Nat) (sup : Supervisor σ) : Supervisor σ :=
  let (taken, sup) := sup.takeWorkers
  (sup.passUntil s (fun sup => taken.all sup.hasFinished) fuel).partAll taken

end Supervisor

end Overseer
