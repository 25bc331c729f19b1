import Overseer.Execution.Plan
import Overseer.Journal.Notice
import Overseer.Registry

/-!
# The world of an execution

An execution calls on collaborators: a launcher, a stream handler and the
process itself.  `Surroundings` says what each call answers and what it does to
a state of the collaborators' own; nothing else about them is known.  The
`World` adds the supervisor's shared parts (watchdogs, destroyers, journals) and
the trace of all calls, in order.
-/

namespace Overseer

/-- How the collaborators of executions answer. -/
structure Surroundings (σ : Type) where
  /-- Whether a path leads to anything; an error number if that cannot be told. -/
  pathExists : Bytes → σ → Except Errno Bool
  /-- Launch the process with the given index. -/
  launch : Nat → LaunchOrder → σ → Except Fault Unit × σ
  /-- The number the system gave to a process. -/
  pid : σ → ProcessRef → Int
  /-- Ask a stream handler for a session. -/
  openSession : HandlerId → σ → Except Fault SessionId × σ
  /-- Hand one stream of a process to a session. -/
  attach : SessionId → StandardStream → ProcessRef → σ → Except Fault Unit × σ
  /-- Let a session's streams flow. -/
  startStreams : SessionId → σ → Except Fault Unit × σ
  /-- Wait until a session's streams have ended. -/
  stopStreams : SessionId → σ → Except Fault Unit × σ
  /-- Begin to wait for a process. -/
  enterWait : ProcessRef → σ → WaitReply Fault × σ
  /-- Ask again about a process whose wait has begun. -/
  resumeWait : ProcessRef → σ → WaitReply Fault × σ
  /-- Destroy a process. -/
  destroy : ProcessRef → σ → Except Fault Unit × σ
  /-- Close the supervisor's end of a stream. -/
  close : ProcessRef → StandardStream → σ → Except Fault Unit × σ
  /-- Let go of a process. -/
  release : ProcessRef → σ → σ
  /-- The launcher's convention for exit values that are failures. -/
  isFailure : Int → Bool
  /-- Let the collaborators' time reach an instant. -/
  elapse : Instant → σ → σ
  /-- The next instant at which something happens to a process by itself. -/
  nextChange? : σ → Option Instant
  /-- How a list is divided into those of whom something holds and the others.  The order in
  which it leaves them is its own. -/
  divide : (Nat → Bool) → List Nat → σ → List Nat × List Nat := fun test l _ => l.partition test
  /-- Everybody comes out on his side. -/
  perm_divide : ∀ test l x, (divide test l x).1.Perm (l.filter test) ∧
      (divide test l x).2.Perm (l.filter (fun i => !test i)) := by
    simp [List.partition_eq_filter_filter, Function.comp_def]

/-- Who asks for a process to be destroyed. -/
inductive Agent
  /-- The execution that launched it. -/
  | execution
  /-- A watchdog. -/
  | watchdog (i : WatchdogId)
  /-- A destroyer. -/
  | destroyer (i : DestroyerId)
deriving DecidableEq, Repr

/-- The index of a receiver of results. -/
structure ReceiverId where
  /-- The index among the receivers that callers supplied. -/
  index : Nat
  /-- Whether it is the receiver of an execution that this receiver asked for. -/
  follower : Bool := false
deriving DecidableEq, Inhabited, Repr

/-- A call made to a collaborator. -/
inductive Event
  /-- The launch with this index. -/
  | launch (index : Nat)
  /-- A session was asked for. -/
  | openSession (handler : HandlerId)
  /-- A stream was handed to a session. -/
  | attach (session : SessionId) (stream : StandardStream) (p : ProcessRef)
  /-- A session was started. -/
  | startStreams (session : SessionId)
  /-- A session was stopped. -/
  | stopStreams (session : SessionId)
  /-- A process was added to a destroyer. -/
  | enlist (destroyer : DestroyerId) (p : ProcessRef)
  /-- A process was removed from a destroyer. -/
  | delist (destroyer : DestroyerId) (p : ProcessRef)
  /-- A process was waited for. -/
  | waitFor (p : ProcessRef)
  /-- A process was destroyed. -/
  | destroy (agent : Agent) (p : ProcessRef)
  /-- A stream of a process was closed. -/
  | close (p : ProcessRef) (stream : StandardStream)
  /-- A process was let go of. -/
  | release (p : ProcessRef)
  /-- A receiver got an exit value. -/
  | completed (receiver : ReceiverId) (exitValue : Int)
  /-- A receiver got a failure. -/
  | failed (receiver : ReceiverId) (fault : Fault)
  /-- A receiver has waited for the background executions. -/
  | waited (receiver : ReceiverId)
deriving DecidableEq

/-- What an execution registers its process with. -/
inductive Destroyer
  /-- A shutdown registry. -/
  | registry (r : Registry)
  /-- A listing whose every answer is given in advance: it may raise on adding
  and on removing, and then does nothing. -/
  | scripted (addFault removeFault : Option Fault) (members : List ProcessRef)
deriving DecidableEq

/-- The number of processes a destroyer lists. -/
def Destroyer.size : Destroyer → Nat
  | registry r => r.size
  | scripted _ _ members => members.length

/-- Whether a destroyer takes a process in that is added. -/
def Destroyer.admits (d : Destroyer) (p : ProcessRef) : Bool :=
  match d with
  | registry r => decide (r.admission p = .listed)
  | scripted _ _ members => decide (p ∉ members)

/-- Whether a destroyer lists a process. -/
def Destroyer.lists (d : Destroyer) (p : ProcessRef) : Bool :=
  match d with
  | registry r => r.contains p
  | scripted _ _ members => decide (p ∈ members)

/-- The collaborators' state together with the shared parts of a supervisor. -/
structure World (σ : Type) where
  /-- The collaborators' own state. -/
  outside : σ
  /-- The watchdogs. -/
  watchdogs : List Watchdog := []
  /-- The destroyers. -/
  destroyers : List Destroyer := []
  /-- The journals. -/
  journals : List Journal := []
  /-- The orders given to the launcher, in order. -/
  launches : List LaunchOrder := []
  /-- All calls made so far, in order. -/
  trace : List Event := []
  /-- The time. -/
  clock : Instant := Instant.first

namespace World

variable {σ : Type}

/-- Write a notice to a journal. -/
def note (w : World σ) (journal : JournalId) (notice : Notice) : World σ :=
  { w with journals := w.journals.modify journal (·.add notice) }

/-- Write a notice to a journal, if there is one. -/
def noteIf (w : World σ) (journal : Option JournalId) (notice : Notice) : World σ :=
  match journal with
  | some i => w.note i notice
  | none => w

/-- Add a call to the trace. -/
def record (w : World σ) (event : Event) : World σ :=
  { w with trace := w.trace ++ [event] }

/-- Replace the state of a watchdog. -/
def updateWatchdog (w : World σ) (i : WatchdogId) (f : Watchdog → Watchdog) : World σ :=
  { w with watchdogs := w.watchdogs.modify i f }

/-- Replace the state of a destroyer. -/
def updateDestroyer (w : World σ) (i : DestroyerId) (f : Destroyer → Destroyer) : World σ :=
  { w with destroyers := w.destroyers.modify i f }

/-- Make a call on the collaborators and add it to the trace. -/
def call {α : Type} (w : World σ) (event : Event) (act : σ → α × σ) : α × World σ :=
  let (reply, outside) := act w.outside
  (reply, { w.record event with outside := outside })

/-! ## Calls on collaborators -/

/-- Launch a process as ordered. -/
def launch (s : Surroundings σ) (w : World σ) (order : LaunchOrder) :
    Except Fault ProcessRef × World σ :=
  let index := w.launches.length
  let (reply, w) := w.call (.launch index) (s.launch index order)
  (reply.map (fun _ => .launched index), { w with launches := w.launches ++ [order] })

/-- The number of a process. -/
def pid (s : Surroundings σ) (w : World σ) (p : ProcessRef) : Int :=
  s.pid w.outside p

/-- Ask a stream handler for a session. -/
def openSession (s : Surroundings σ) (w : World σ) (handler : HandlerId) :
    Except Fault SessionId × World σ :=
  w.call (.openSession handler) (s.openSession handler)

/-- Hand a stream of a process to a session. -/
def attach (s : Surroundings σ) (w : World σ) (session : SessionId) (stream : StandardStream)
    (p : ProcessRef) : Except Fault Unit × World σ :=
  w.call (.attach session stream p) (s.attach session stream p)

/-- Let a session's streams flow. -/
def startStreams (s : Surroundings σ) (w : World σ) (session : SessionId) :
    Except Fault Unit × World σ :=
  w.call (.startStreams session) (s.startStreams session)

/-- Wait until a session's streams have ended. -/
def stopStreams (s : Surroundings σ) (w : World σ) (session : SessionId) :
    Except Fault Unit × World σ :=
  w.call (.stopStreams session) (s.stopStreams session)

/-- Begin to wait for a process. -/
def enterWait (s : Surroundings σ) (w : World σ) (p : ProcessRef) :
    WaitReply Fault × World σ :=
  w.call (.waitFor p) (s.enterWait p)

/-- Ask again about a process whose wait has begun. -/
def resumeWait (s : Surroundings σ) (w : World σ) (p : ProcessRef) :
    WaitReply Fault × World σ :=
  let (reply, outside) := s.resumeWait p w.outside
  (reply, { w with outside := outside })

/-- Destroy a process. -/
def destroy (s : Surroundings σ) (w : World σ) (agent : Agent) (p : ProcessRef) :
    Except Fault Unit × World σ :=
  w.call (.destroy agent p) (s.destroy p)

/-- Close a stream of a process. -/
def close (s : Surroundings σ) (w : World σ) (p : ProcessRef) (stream : StandardStream) :
    Except Fault Unit × World σ :=
  w.call (.close p stream) (s.close p stream)

/-- Let go of a process. -/
def release (s : Surroundings σ) (w : World σ) (p : ProcessRef) : World σ :=
  (w.call (.release p) (fun outside => ((), s.release p outside))).2

/-! ## Shared parts -/

/-- Add a process to a destroyer.  While a registry is running it destroys the
process instead. -/
def enlist (s : Surroundings σ) (w : World σ) (i : DestroyerId) (p : ProcessRef) :
    Except Fault Unit × World σ :=
  let w := w.record (.enlist i p)
  match w.destroyers[i]? with
  | none => (.ok (), w)
  | some (.registry r) =>
      match r.admission p with
      | .condemned => w.destroy s (.destroyer i) p
      | _ => (.ok (), w.updateDestroyer i (fun _ => .registry (r.add p)))
  | some (.scripted (some fault) _ _) => (.error fault, w)
  | some (.scripted none removeFault members) =>
      (.ok (), w.updateDestroyer i
        (fun _ => .scripted none removeFault (if p ∈ members then members else members ++ [p])))

/-- Remove a process from a destroyer. -/
def delist (w : World σ) (i : DestroyerId) (p : ProcessRef) : Except Fault Unit × World σ :=
  let w := w.record (.delist i p)
  match w.destroyers[i]? with
  | none => (.ok (), w)
  | some (.registry r) => (.ok (), w.updateDestroyer i (fun _ => .registry (r.remove p)))
  | some (.scripted _ (some fault) _) => (.error fault, w)
  | some (.scripted addFault none members) =>
      (.ok (), w.updateDestroyer i (fun _ => .scripted addFault none (members.erase p)))

/-- Add a process to a destroyer, and say whether it was taken in. -/
def register (s : Surroundings σ) (w : World σ) (i : DestroyerId) (p : ProcessRef) :
    Except Fault Bool × World σ :=
  let (reply, v) := w.enlist s i p
  (reply.map fun _ => w.destroyers[i]?.any (·.admits p), v)

/-- Remove a process from a destroyer, and say whether it was listed. -/
def deregister (w : World σ) (i : DestroyerId) (p : ProcessRef) : Except Fault Bool × World σ :=
  let (reply, v) := w.delist i p
  (reply.map fun _ => w.destroyers[i]?.any (·.lists p), v)

/-- Destroy the listed processes one after the other.  A standard fault is
noted and does not keep the others alive; an alien one ends the run. -/
def destroyAll (s : Surroundings σ) (i : DestroyerId) (journal : Option JournalId) :
    List ProcessRef → World σ → Except Fault Unit × World σ
  | [], w => (.ok (), w)
  | p :: rest, w =>
      match w.destroy s (.destroyer i) p with
      | (.ok (), w) => destroyAll s i journal rest w
      | (.error fault, w) =>
          if fault.isStandard then
            destroyAll s i journal rest (w.noteIf journal (.notTerminated (w.pid s p) fault))
          else (.error fault, w)

/-- Run a shutdown registry. -/
def runRegistry (s : Surroundings σ) (w : World σ) (i : DestroyerId) :
    Except Fault Unit × World σ :=
  match w.destroyers[i]? with
  | some (.registry r) =>
      destroyAll s i r.journal r.members (w.updateDestroyer i (fun _ => .registry r.run))
  | _ => (.ok (), w)

/-- Let a watchdog destroy the process it watches, if it watches one. -/
def kill (s : Surroundings σ) (w : World σ) (i : WatchdogId) : Except Fault Unit × World σ :=
  match w.watchdogs[i]? with
  | none => (.ok (), w)
  | some dog =>
      match dog.target? with
      | none => (.ok (), w.updateWatchdog i Watchdog.clear)
      | some p =>
          let w := w.updateWatchdog i Watchdog.beginKill
          let w := w.noteIf dog.journal (.watchdogKills (w.pid s p) dog.timeout)
          let (reply, w) := w.destroy s (.watchdog i) p
          match dog.beginKill.settle reply with
          | .ok settled => (.ok (), w.updateWatchdog i (fun _ => settled))
          | .error fault => (.error fault, w)

/-- The timer of a watchdog ends: it retires, and the watched process, if any,
is destroyed. -/
def expire (s : Surroundings σ) (w : World σ) (i : WatchdogId) : World σ :=
  ((w.kill s i).2).updateWatchdog i Watchdog.retireTimer

/-- Start the watch of a process. -/
def startWatch (w : World σ) (i : WatchdogId) (p : ProcessRef) : Except Fault Unit × World σ :=
  match w.watchdogs[i]? with
  | none => (.ok (), w)
  | some dog =>
      match dog.start w.clock p with
      | .error fault => (.error fault, w)
      | .ok watching => (.ok (), w.updateWatchdog i (fun _ => watching))

/-- Stop the watch of a watchdog, whatever it watches. -/
def stopWatch (w : World σ) (i : WatchdogId) : World σ :=
  w.updateWatchdog i Watchdog.stop

/-! ## Time -/

/-- The first watchdog whose timer is due. -/
def dueWatchdog? (w : World σ) : Option WatchdogId :=
  w.watchdogs.findIdx? (·.isDue w.clock)

/-- The next instant at which a timer ends or something happens to a process, if
there is one. -/
def nextInstant? (s : Surroundings σ) (w : World σ) : Option Instant :=
  let instants := w.watchdogs.filterMap Watchdog.nextDeadline? ++ (s.nextChange? w.outside).toList
  instants.foldl (fun least t => some (match least with | some u => min u t | none => t)) none

/-- Let the time reach an instant, unless it has passed it. -/
def elapse (s : Surroundings σ) (w : World σ) (t : Instant) : World σ :=
  let clock := max w.clock t
  { w with clock, outside := s.elapse clock w.outside }

/-- Let the time pass until the timer of a watchdog ends, and let it end. -/
def awaitTimer (s : Surroundings σ) (w : World σ) (i : WatchdogId) : World σ :=
  match (w.watchdogs[i]?).bind Watchdog.nextDeadline? with
  | none => w
  | some deadline =>
      let w := w.elapse s deadline
      if w.dueWatchdog? = some i then w.expire s i else w

/-- What was written to a journal after the first so many notices. -/
def textAfter (w : World σ) (journal : JournalId) (count : Nat) : Bytes :=
  match w.journals[journal]? with
  | some j => (j.notices.drop count).flatMap Notice.line
  | none => []

/-- How many notices a journal has. -/
def noticeCount (w : World σ) (journal : JournalId) : Nat :=
  match w.journals[journal]? with
  | some j => j.notices.length
  | none => 0

/-- The fault a watchdog holds. -/
def watchdogFault (w : World σ) (watchdog : Option WatchdogId) : Option Fault :=
  watchdog.bind (fun i => w.watchdogs[i]?.bind (·.fault))

@[simp]
theorem trace_record (w : World σ) (event : Event) :
    (w.record event).trace = w.trace ++ [event] :=
  rfl

@[simp]
theorem trace_note (w : World σ) (journal : JournalId) (notice : Notice) :
    (w.note journal notice).trace = w.trace :=
  rfl

@[simp]
theorem trace_noteIf (w : World σ) (journal : Option JournalId) (notice : Notice) :
    (w.noteIf journal notice).trace = w.trace := by
  cases journal <;> rfl

@[simp]
theorem trace_call {α : Type} (w : World σ) (event : Event) (act : σ → α × σ) :
    (w.call event act).2.trace = w.trace ++ [event] :=
  rfl

end World

end Overseer
