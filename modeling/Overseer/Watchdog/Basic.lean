import Overseer.Fault
import Overseer.Process
import Overseer.Watchdog.Deadline

/-!
# Watchdogs

A watchdog watches one process at a time and destroys it when its timeout ends
or when it is told to.  Starting and stopping consist of several sections, each
of which holds the watchdog's lock; between them other users may get in.  The
whole operations `start` and `stop` run their sections without a gap.

Destroying the watched process is an effect on the process, so it is split in
two: `target?` says which process is to be destroyed, and `settle` records how
that went.
-/

namespace Overseer

/-- The index of a journal. -/
abbrev JournalId := Nat

/-- A timer that runs for a watched process. -/
structure Timer where
  /-- The process the timer was started for. -/
  process : ProcessRef
  /-- When the timer ends. -/
  deadline : Instant
  /-- Whether the timer has ended and only waits to be joined. -/
  ended : Bool := false
deriving DecidableEq

/-- A watchdog and its state. -/
structure Watchdog where
  /-- How long a process may run. -/
  timeout : Timeout
  /-- Where kills are noted. -/
  journal : Option JournalId
  /-- The watched process. -/
  process : Option ProcessRef := none
  /-- Whether a process is being watched. -/
  watching : Bool := false
  /-- Whether the last watched process was destroyed by the watchdog. -/
  killed : Bool := false
  /-- Whether a launch has succeeded or failed since this was last reset. -/
  started : Bool := false
  /-- Whether the timer is told to end without acting. -/
  stopRequested : Bool := false
  /-- The fault of destroying the last watched process, or of a failed launch. -/
  fault : Option Fault := none
  /-- The timer in place. -/
  timer : Option Timer := none
deriving DecidableEq

namespace Watchdog

/-- A watchdog that watches nothing yet. -/
def create (timeout : Timeout) (journal : Option JournalId) : Except Fault Watchdog :=
  if timeout.isAccepted then .ok { timeout, journal } else .error .badTimeout

/-! ## Sections -/

/-- The first section of a start: refuse while a process is held, else take the
timer left behind by an earlier watch, which has to end before the next section. -/
def clearance (w : Watchdog) : Except Fault (Option Timer × Watchdog) :=
  match w.process with
  | some _ => .error .alreadyWatching
  | none => .ok (w.timer, { w with timer := none })

/-- The second section of a start: hold the process, forget the earlier watch
and put a timer in place unless the timeout is infinite. -/
def commit (w : Watchdog) (now : Instant) (p : ProcessRef) : Watchdog :=
  { w with
    process := some p
    watching := true
    killed := false
    started := true
    stopRequested := false
    fault := none
    timer :=
      if w.timeout = Timeout.infinite then w.timer
      else some { process := p, deadline := w.timeout.deadline now } }

/-- The first section of a stop: tell the timer to end and take it. -/
def requestStop (w : Watchdog) : Option Timer × Watchdog :=
  (w.timer, { w with stopRequested := true, timer := none })

/-- The last section of a stop, after the timer has ended: watch nothing. -/
def clear (w : Watchdog) : Watchdog :=
  { w with watching := false, process := none }

/-! ## Operations -/

/-- Start watching a process. -/
def start (w : Watchdog) (now : Instant) (p : ProcessRef) : Except Fault Watchdog :=
  w.clearance.map (fun cleared => cleared.2.commit now p)

/-- Stop watching. -/
def stop (w : Watchdog) : Watchdog :=
  w.requestStop.2.clear

/-- The process that the end of the timeout or a kill destroys. -/
def target? (w : Watchdog) : Option ProcessRef :=
  if w.watching then w.process else none

/-- Whether a kill can go on, or has to wait for a launch. -/
def canKill (w : Watchdog) : Bool :=
  w.started

/-- Note that a kill of the watched process begins. -/
def beginKill (w : Watchdog) : Watchdog :=
  match w.target? with
  | some _ => { w with killed := true }
  | none => w

/-- Record how destroying the target went and watch nothing from then on.  An
alien fault is not kept: it passes on to whoever asked for the kill, before
anything is recorded. -/
def settle (w : Watchdog) (reply : Except Fault Unit) : Except Fault Watchdog :=
  match reply with
  | .ok () => .ok w.clear
  | .error fault =>
      if fault.isStandard then .ok { w with fault := some fault }.clear else .error fault

/-- Forget earlier launches before a background execution; what is being
watched keeps its mark. -/
def forgetLaunch (w : Watchdog) : Watchdog :=
  if w.watching then w else { w with started := false }

/-- Take note of a failed launch, so that kills do not wait for it.  The fault
is kept only while nothing is watched. -/
def launchFailed (w : Watchdog) (fault : Option Fault) : Watchdog :=
  if w.watching then { w with started := true }
  else { w with started := true, fault := fault }

/-- Whether the timer in place is due. -/
def isDue (w : Watchdog) (now : Instant) : Bool :=
  match w.timer with
  | some timer => !timer.ended && !w.stopRequested && timer.deadline ≤ now
  | none => false

/-- The timer has ended by itself: it stays in place to be joined, but acts no
more. -/
def retireTimer (w : Watchdog) : Watchdog :=
  { w with timer := w.timer.map (fun timer => { timer with ended := true }) }

/-- The deadline of the timer that runs. -/
def nextDeadline? (w : Watchdog) : Option Instant :=
  match w.timer with
  | some timer => if timer.ended || w.stopRequested then none else some timer.deadline
  | none => none

end Watchdog

end Overseer
