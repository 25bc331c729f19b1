import Overseer.Supervisor.Settings
import Overseer.Supervisor.Worker
import Overseer.ResultBox

/-!
# Supervisors

A supervisor carries out executions: at once, while the caller waits, or in the
background on workers.  It lists its workers until somebody parts with them: a
worker that has finished is joined, and a worker that waits for all workers from
its own receiver is detached, because nobody can join himself.

A worker's step is one atomic section of what it does, so any interleaving of
workers and callers is a sequence of the steps defined here.
-/

namespace Overseer

/-- Who makes a call on a supervisor. -/
inductive Caller
  /-- Somebody from outside. -/
  | outside (i : Nat)
  /-- The receiver of a worker, when it is called. -/
  | worker (i : WorkerId)
deriving DecidableEq

/-- How a worker was parted with. -/
inductive Parting
  /-- Somebody waited until it had finished. -/
  | joined (caller : Caller)
  /-- It was left to itself. -/
  | detached (caller : Caller)
deriving DecidableEq

/-- A supervisor in its world. -/
structure Supervisor (σ : Type) where
  /-- The world of its executions. -/
  world : World σ
  /-- The settings of later executions. -/
  settings : Settings
  /-- All workers created so far. -/
  workers : List Worker := []
  /-- The workers nobody has taken from the list. -/
  listed : List WorkerId := []
  /-- Who was parted with, in order. -/
  partings : List (WorkerId × Parting) := []
  /-- What the receivers got. -/
  boxes : ReceiverId → ResultBox := fun _ => .waiting

namespace Supervisor

variable {σ : Type}

/-- Change the worker with an index. -/
def updateWorker (sup : Supervisor σ) (i : WorkerId) (f : Worker → Worker) : Supervisor σ :=
  { sup with workers := sup.workers.modify i f }

/-- Let a worker go on to a phase. -/
def enter (sup : Supervisor σ) (i : WorkerId) (phase : Phase) : Supervisor σ :=
  sup.updateWorker i (fun w => { w with phase })

/-- Whether a worker has finished; one that was never created has nothing to
finish. -/
def hasFinished (sup : Supervisor σ) (i : WorkerId) : Bool :=
  match sup.workers[i]? with
  | some w => w.isFinished
  | none => true

/-! ## Asking for executions -/

/-- Check that the working directory of executions exists.  The empty one
stands for the current directory. -/
def checkDirectory (s : Surroundings σ) (sup : Supervisor σ) : Except Fault Unit :=
  let directory := sup.settings.directory
  if directory.isEmpty then .ok ()
  else
    match s.pathExists directory sup.world.outside with
    | .error errno => .error (.system errno directory)
    | .ok false => .error (.missingDirectory directory)
    | .ok true => .ok ()

/-- Join the listed workers that have finished and take them from the list.  Those that stay
may change places. -/
def reap (s : Surroundings σ) (sup : Supervisor σ) (caller : Caller) : Supervisor σ :=
  let (finished, others) := s.divide sup.hasFinished sup.listed sup.world.outside
  { sup with
    listed := others
    partings := sup.partings ++ finished.map (fun i => (i, .joined caller)) }

/-- Put a new worker on the list. -/
def spawn (sup : Supervisor σ) (plan : Plan) (receiver : Receiver) : WorkerId × Supervisor σ :=
  let i := sup.workers.length
  (i, { sup with
        workers := sup.workers ++ [{ run := { plan }, receiver }]
        listed := sup.listed ++ [i] })

/-- Ask for a background execution.  The caller has yet to wait for its start. -/
def submit (s : Surroundings σ) (sup : Supervisor σ) (caller : Caller) (command : CommandLine)
    (environment : Option Environment) (receiver : Option Receiver) :
    Except Fault (WorkerId × Supervisor σ) := do
  match receiver with
  | none => throw .missingReceiver
  | some receiver =>
      sup.checkDirectory s
      let world :=
        match sup.settings.watchdog with
        | some i => sup.world.updateWatchdog i Watchdog.forgetLaunch
        | none => sup.world
      let sup := reap s { sup with world } caller
      return sup.spawn (sup.settings.plan command environment) receiver

/-! ## Waiting -/

/-- The caller of a background execution goes on once the launch was tried. -/
def passStart? (sup : Supervisor σ) (other : WorkerId) : Option (Supervisor σ) :=
  match sup.workers[other]? with
  | none => some sup
  | some w => w.signal.pass?.map (fun signal => sup.updateWorker other ({ · with signal }))

/-- Take all workers from the list, to wait for them. -/
def takeWorkers (sup : Supervisor σ) : List WorkerId × Supervisor σ :=
  (sup.listed, { sup with listed := [] })

/-- Part with a worker: a worker detaches itself, and joins another one once
that has finished. -/
def part? (sup : Supervisor σ) (caller : Caller) (other : WorkerId) : Option (Supervisor σ) :=
  if caller = .worker other then
    some { sup with partings := sup.partings ++ [(other, .detached caller)] }
  else if sup.hasFinished other then
    some { sup with partings := sup.partings ++ [(other, .joined caller)] }
  else none

/-! ## Steps of workers -/

/-- Deliver an outcome to a receiver: a failure is noted first. -/
def deliver (sup : Supervisor σ) (run : Run) (receiver : Receiver) (outcome : Outcome) :
    Supervisor σ :=
  match Worker.delivery outcome with
  | .ok exitValue =>
      { sup with
        world := sup.world.record (.completed receiver.id exitValue)
        boxes := fun r => if r = receiver.id then .completed exitValue else sup.boxes r }
  | .error fault =>
      { sup with
        world :=
          (sup.world.note run.plan.journal (.failed run.plan.command.render fault)).record
            (.failed receiver.id fault)
        boxes := fun r => if r = receiver.id then .failed fault else sup.boxes r }

/-- A receiver raised a fault: it is noted, and the worker has finished. -/
def receiverRaised (sup : Supervisor σ) (i : WorkerId) (run : Run) (fault : Fault) :
    Supervisor σ :=
  enter { sup with world := sup.world.note run.plan.journal (.receiverFailed fault) } i .finished

/-- Carry out what a receiver still does. -/
def react (s : Surroundings σ) (sup : Supervisor σ) (i : WorkerId) (w : Worker) :
    List Reaction → Supervisor σ
  | [] => sup.enter i .finished
  | .raise fault :: _ => sup.receiverRaised i w.run fault
  | .awaitWorkers :: rest =>
      let (others, sup) := sup.takeWorkers
      sup.enter i (.joining others rest)
  | .follow command receiver :: rest =>
      match sup.submit s (.worker i) command none (some { id := receiver }) with
      | .error fault => sup.receiverRaised i w.run fault
      | .ok (other, sup) => sup.enter i (.starting other rest)

/-- The next step of a worker, or `none` while it has to wait or has finished. -/
def stepWorker? (s : Surroundings σ) (sup : Supervisor σ) (i : WorkerId) :
    Option (Supervisor σ) :=
  match sup.workers[i]? with
  | none => none
  | some w =>
      match w.phase with
      | .executing =>
          match w.run.outcome? with
          | some outcome => some (sup.enter i (.announcing outcome))
          | none =>
              let (run, world) := w.run.step s sup.world
              if w.run.isBlocked && run.isBlocked then none
              else
                let signal := if run.announced then w.signal.notify else w.signal
                some (updateWorker { sup with world } i ({ · with run, signal }))
      | .announcing outcome =>
          some (sup.updateWorker i (fun w =>
            { w with signal := w.signal.notify, phase := .holding outcome }))
      | .holding outcome =>
          if w.signal.mayDeliver then some (sup.enter i (.delivering outcome)) else none
      | .delivering outcome =>
          some ((sup.deliver w.run w.receiver outcome).enter i (.reacting w.receiver.reactions))
      | .reacting rest => some (sup.react s i w rest)
      | .joining [] rest =>
          some (enter { sup with world := sup.world.record (.waited w.receiver.id) } i
            (.reacting rest))
      | .joining (other :: others) rest =>
          (sup.part? (.worker i) other).map (·.enter i (.joining others rest))
      | .starting other rest => (sup.passStart? other).map (·.enter i (.reacting rest))
      | .finished => none

end Supervisor

end Overseer
