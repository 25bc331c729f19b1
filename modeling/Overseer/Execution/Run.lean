import Overseer.Execution.World

/-!
# One execution, step by step

An execution launches its process, hands the three streams to a session, starts
the session, registers the process, has it watched and waits for it.  Then it
cleans up: it ends the watch, stops the session, closes the streams, judges the
outcome, and leaves by undoing the registration and letting go of the process.

Each step makes at most one call on a collaborator, so whatever else goes on in
the world may happen between any two steps.  `Stage` says what the next step
does.  A standard fault leads to the cleanup that the stage asks for; an alien
fault goes straight to leaving.
-/

namespace Overseer

/-- How an execution ends. -/
inductive Outcome
  /-- With an exit value. -/
  | value (exitValue : Int)
  /-- With a fault. -/
  | fault (fault : Fault)
deriving DecidableEq

/-- What an execution holds once it has a session. -/
structure Custody where
  /-- Its process. -/
  process : ProcessRef
  /-- The session that handles the streams. -/
  session : SessionId
  /-- Whether the session was started. -/
  flowing : Bool := false
  /-- Whether the process was given to the destroyer. -/
  enlisted : Bool := false
  /-- Whether the watchdog was started for the process. -/
  watched : Bool := false
deriving DecidableEq

/-- What the next step of an execution does. -/
inductive Stage
  /-- Launch the process. -/
  | launching
  /-- Ask for a session. -/
  | opening (p : ProcessRef)
  /-- Hand a stream to the session. -/
  | attaching (c : Custody) (stream : StandardStream)
  /-- Start the session. -/
  | starting (c : Custody)
  /-- Register the process with the destroyer. -/
  | enlisting (c : Custody)
  /-- Have the process watched. -/
  | watching (c : Custody)
  /-- Wait for the process; `interrupted` once a wait was, `entered` while a
  wait is under way. -/
  | waiting (c : Custody) (interrupted entered : Bool)
  /-- Destroy the process after its wait was interrupted. -/
  | killing (c : Custody)
  /-- Destroy the process because of a fault. -/
  | abandoning (c : Custody) (fault : Fault)
  /-- End the watch because of a fault. -/
  | unwatching (c : Custody) (fault : Fault)
  /-- Stop the session because of a fault. -/
  | halting (c : Custody) (fault : Fault)
  /-- End the watch of a process that has ended. -/
  | ending (c : Custody) (exitValue : Int)
  /-- Stop the session of a process that has ended. -/
  | stopping (c : Custody) (exitValue : Int)
  /-- Close a stream of a process that has ended; `first` is the first fault of
  the cleanup so far. -/
  | closing (c : Custody) (exitValue : Int) (first : Option Fault) (stream : StandardStream)
  /-- Judge the outcome of a process that has ended. -/
  | judging (c : Custody) (exitValue : Int) (first : Option Fault)
  /-- End the watch if it is still on. -/
  | leaving (c : Custody) (outcome : Outcome)
  /-- Undo the registration. -/
  | delisting (c : Custody) (outcome : Outcome)
  /-- Let go of the process. -/
  | releasing (p : ProcessRef) (outcome : Outcome)
  /-- Nothing is left to do. -/
  | ended (outcome : Outcome)
deriving DecidableEq

/-- An execution under way. -/
structure Run where
  /-- What it was asked to do. -/
  plan : Plan
  /-- What it does next. -/
  stage : Stage := .launching
  /-- Whether it has told its caller that the launch was tried. -/
  announced : Bool := false
deriving DecidableEq

namespace Run

/-- The outcome of an execution that has ended. -/
def outcome? (r : Run) : Option Outcome :=
  match r.stage with
  | .ended outcome => some outcome
  | _ => none

/-- Whether the execution has begun to wait for its process and has not been
answered. -/
def isBlocked (r : Run) : Bool :=
  match r.stage with
  | .waiting _ _ entered => entered
  | _ => false

/-- The stage after the streams were handed over up to and including one. -/
def afterAttaching (c : Custody) : StandardStream → Stage
  | .input => .attaching c .output
  | .output => .attaching c .error
  | .error => .starting c

/-- The stage after the streams were closed up to and including one. -/
def afterClosing (c : Custody) (exitValue : Int) (first : Option Fault) : StandardStream → Stage
  | .output => .closing c exitValue first .input
  | .input => .closing c exitValue first .error
  | .error => .judging c exitValue first

/-- The outcome of a process that ended with an exit value: the first fault of
the cleanup, else the fault its watchdog holds, else a failure if the exit value
counts as one. -/
def judge (plan : Plan) (convention : Int → Bool) (first watchdogFault : Option Fault)
    (exitValue : Int) : Outcome :=
  match first, watchdogFault with
  | some fault, _ => .fault fault
  | none, some fault => .fault fault.ofWatchdog
  | none, none =>
      if plan.success.isFailure convention exitValue then .fault (.badExitValue exitValue)
      else .value exitValue

variable {σ : Type}

/-- Take down a fault of the cleanup: the first one counts and later ones are
noted. -/
def keepFirst (w : World σ) (journal : JournalId) (first : Option Fault) (fault : Fault) :
    Option Fault × World σ :=
  match first with
  | none => (some fault, w)
  | some earlier => (some earlier, w.note journal (.dropped fault))

/-- Launch the process. -/
def stepLaunch (s : Surroundings σ) (r : Run) (w : World σ) : Run × World σ :=
  let w := w.note r.plan.journal (.launching r.plan.command.render r.plan.directory)
  match w.launch s r.plan.order with
  | (.ok p, w) =>
      ({ r with announced := true, stage := .opening p },
        w.note r.plan.journal (.started (w.pid s p)))
  | (.error fault, w) =>
      if fault.isStandard then
        ({ r with announced := true, stage := .ended (.fault fault) },
          match r.plan.watchdog with
          | some i => w.updateWatchdog i (·.launchFailed (some fault))
          | none => w)
      else ({ r with stage := .ended (.fault fault) }, w)

/-- Use the answer of a wait. -/
def stepWait (r : Run) (c : Custody) (interrupted : Bool) (reply : WaitReply Fault)
    (w : World σ) (s : Surroundings σ) : Run × World σ :=
  match reply with
  | .pending => ({ r with stage := .waiting c interrupted true }, w)
  | .exited exitValue =>
      ({ r with stage := .ending c exitValue },
        w.note r.plan.journal (.exited (w.pid s c.process) exitValue))
  | .failed .interrupted =>
      if interrupted then ({ r with stage := .waiting c true false }, w)
      else
        ({ r with stage := .killing c },
          w.note r.plan.journal (.waitInterrupted (w.pid s c.process)))
  | .failed fault =>
      if fault.isStandard then ({ r with stage := .abandoning c fault }, w)
      else ({ r with stage := .leaving c (.fault fault) }, w)

/-- The stage after a call whose fault makes the execution give up its process. -/
def orAbandon (c : Custody) (next : Stage) : Except Fault Unit → Stage
  | .ok () => next
  | .error fault =>
      if fault.isStandard then .abandoning c fault else .leaving c (.fault fault)

/-- Take the next step.  An execution that has ended stays as it is, and one
whose wait is not answered asks again. -/
def step (s : Surroundings σ) (r : Run) (w : World σ) : Run × World σ :=
  match r.stage with
  | .launching => r.stepLaunch s w
  | .opening p =>
      match w.openSession s r.plan.handler with
      | (.ok session, w) => ({ r with stage := .attaching { process := p, session } .input }, w)
      | (.error fault, w) => ({ r with stage := .releasing p (.fault fault) }, w)
  | .attaching c stream =>
      let (reply, w) := w.attach s c.session stream c.process
      ({ r with stage := orAbandon c (afterAttaching c stream) reply }, w)
  | .starting c =>
      let (reply, w) := w.startStreams s c.session
      ({ r with stage := orAbandon c (.enlisting { c with flowing := true }) reply }, w)
  | .enlisting c =>
      match r.plan.destroyer with
      | none => ({ r with stage := .watching c }, w)
      | some i =>
          let (reply, w) := w.enlist s i c.process
          let c := { c with enlisted := true }
          ({ r with stage := orAbandon c (.watching c) reply }, w)
  | .watching c =>
      match r.plan.watchdog with
      | none => ({ r with stage := .waiting c false false }, w)
      | some i =>
          let (reply, w) := w.startWatch i c.process
          ({ r with stage := orAbandon c (.waiting { c with watched := true } false false) reply },
            w)
  | .waiting c interrupted entered =>
      let (reply, w) := if entered then w.resumeWait s c.process else w.enterWait s c.process
      r.stepWait c interrupted reply w s
  | .killing c =>
      let (reply, w) := w.destroy s .execution c.process
      ({ r with stage := orAbandon c (.waiting c true false) reply }, w)
  | .abandoning c fault =>
      match w.destroy s .execution c.process with
      | (.ok (), w) => ({ r with stage := .unwatching c fault }, w)
      | (.error later, w) =>
          if later.isStandard then
            ({ r with stage := .unwatching c fault },
              w.note r.plan.journal (.notDestroyed (w.pid s c.process) later))
          else ({ r with stage := .leaving c (.fault later) }, w)
  | .unwatching c fault =>
      match c.watched, r.plan.watchdog with
      | true, some i =>
          ({ r with stage := .halting { c with watched := false } fault }, w.stopWatch i)
      | _, _ => ({ r with stage := .halting c fault }, w)
  | .halting c fault =>
      if c.flowing then
        match w.stopStreams s c.session with
        | (.ok (), w) => ({ r with stage := .leaving c (.fault fault) }, w)
        | (.error later, w) =>
            if later.isStandard then
              ({ r with stage := .leaving c (.fault fault) },
                w.note r.plan.journal (.streamsFailed later))
            else ({ r with stage := .leaving c (.fault later) }, w)
      else ({ r with stage := .leaving c (.fault fault) }, w)
  | .ending c exitValue =>
      match c.watched, r.plan.watchdog with
      | true, some i =>
          ({ r with stage := .stopping { c with watched := false } exitValue }, w.stopWatch i)
      | _, _ => ({ r with stage := .stopping c exitValue }, w)
  | .stopping c exitValue =>
      match w.stopStreams s c.session with
      | (.ok (), w) => ({ r with stage := .closing c exitValue none .output }, w)
      | (.error fault, w) =>
          if fault.isStandard then
            ({ r with stage := .closing c exitValue (some fault) .output }, w)
          else ({ r with stage := .leaving c (.fault fault) }, w)
  | .closing c exitValue first stream =>
      match w.close s c.process stream with
      | (.ok (), w) => ({ r with stage := afterClosing c exitValue first stream }, w)
      | (.error fault, w) =>
          if fault.isStandard then
            let (first, w) := keepFirst w r.plan.journal first fault
            ({ r with stage := afterClosing c exitValue first stream }, w)
          else ({ r with stage := .leaving c (.fault fault) }, w)
  | .judging c exitValue first =>
      let outcome := judge r.plan s.isFailure first (w.watchdogFault r.plan.watchdog) exitValue
      ({ r with stage := .leaving c outcome }, w)
  | .leaving c outcome =>
      match c.watched, r.plan.watchdog with
      | true, some i =>
          ({ r with stage := .delisting { c with watched := false } outcome }, w.stopWatch i)
      | _, _ => ({ r with stage := .delisting c outcome }, w)
  | .delisting c outcome =>
      match c.enlisted, r.plan.destroyer with
      | true, some i =>
          match w.delist i c.process with
          | (.ok (), w) => ({ r with stage := .releasing c.process outcome }, w)
          | (.error fault, w) =>
              ({ r with stage := .releasing c.process outcome },
                w.note r.plan.journal (.notDelisted (w.pid s c.process) fault))
      | _, _ => ({ r with stage := .releasing c.process outcome }, w)
  | .releasing p outcome => ({ r with stage := .ended outcome }, w.release s p)
  | .ended _ => (r, w)

/-- Take steps until the execution has ended or its wait is not answered, at
most as many as `fuel`. -/
def advance (s : Surroundings σ) (fuel : Nat) (r : Run) (w : World σ) : Run × World σ :=
  match fuel with
  | 0 => (r, w)
  | fuel + 1 =>
      match r.outcome? with
      | some _ => (r, w)
      | none =>
          let (next, w) := r.step s w
          if next.isBlocked then (next, w) else advance s fuel next w

@[simp]
theorem step_ended (s : Surroundings σ) (r : Run) (w : World σ) (outcome : Outcome)
    (hended : r.stage = .ended outcome) : r.step s w = (r, w) := by
  simp [step, hended]

end Run

end Overseer
