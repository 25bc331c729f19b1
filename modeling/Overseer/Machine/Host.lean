import Overseer.Machine.Host.Launch

/-!
# Hosts at work

What a host does for its children and their streams.  It is what executions call on
when they are not rehearsed.
-/

namespace Overseer.Machine

open Overseer.File Overseer.Pump

namespace Host

/-! ## Children and their streams -/

/-- Whether the supervisor's end of a stream is open. -/
def isOpen (h : Host) (p : ProcessRef) (stream : StandardStream) : Bool :=
  (h.child? p).any (fun child => (child.stream stream).isOpen)

/-- Close the supervisor's end of a stream. -/
def close (h : Host) (p : ProcessRef) (stream : StandardStream) : Except Fault Unit × Host :=
  let (reply, h) := h.withChild p (.ok ()) (fun child k => child.close k stream)
  (reply, h.settle)

/-- Let the time go on to the next instant at which a process goes on by itself. -/
def passTime? (h : Host) : Option Host :=
  h.kernel.nextWake?.map (fun time =>
    { h with kernel := { h.kernel with clock := max h.kernel.clock time } }.settle)

/-- Write to a child's input, waiting for room; the first argument bounds the number
of attempts. -/
def writeWithin : Nat → Host → ProcessRef → Bytes → Except Errno Unit × Host
  | 0, h, _, _ => (.ok (), h)
  | fuel + 1, h, p, data =>
      match h.withKernel p (.error .badDescriptor) (fun child k => child.write k data) with
      | (.error errno, h) => (.error errno, h)
      | (.ok 0, h) =>
          match h.passTime? with
          | some h => writeWithin fuel h p data
          | none => (.ok (), h)
      | (.ok count, h) =>
          if count = data.length then (.ok (), h.settle)
          else writeWithin fuel h.settle p (data.drop count)

/-- Write to a child's input. -/
def write (h : Host) (p : ProcessRef) (data : Bytes) : Except Errno Unit × Host :=
  if data.isEmpty then (.ok (), h) else h.writeWithin stepLimit p data

/-- Read one of a child's outputs up to its end, after pieces of which the latest
comes first; the first argument bounds the number of reads. -/
def readWithin : Nat → Host → ProcessRef → StandardStream → List Bytes → Bytes × Host
  | 0, h, _, _, before => (before.reverse.flatten, h)
  | fuel + 1, h, p, stream, before =>
      match (h.child? p).map (fun child => child.read? h.kernel stream Pipe.capacity) with
      | none | some (some ([], _)) => (before.reverse.flatten, h)
      | some (some (data, kernel)) =>
          readWithin fuel { h with kernel }.settle p stream (data :: before)
      | some none =>
          match h.passTime? with
          | some h => readWithin fuel h p stream before
          | none => (before.reverse.flatten, h)

/-- Read one of a child's outputs up to its end. -/
def readAll (h : Host) (p : ProcessRef) (stream : StandardStream) : Bytes × Host :=
  h.readWithin stepLimit p stream []

/-- Begin or go on to wait for a child. -/
def wait (h : Host) (p : ProcessRef) : WaitReply Fault × Host :=
  h.withChild p .pending Child.wait

/-- Begin to wait for a child; the wait may be interrupted. -/
def enterWait (h : Host) (p : ProcessRef) : WaitReply Fault × Host :=
  match h.wait p, h.interruptions with
  | (.pending, h), n + 1 => (.failed .interrupted, { h with interruptions := n })
  | (reply, h), _ => (reply, h)

/-- Destroy a child. -/
def destroy (h : Host) (p : ProcessRef) : Except Fault Unit × Host :=
  let (reply, h) := h.withKernel p (.ok ()) Child.destroy
  (reply, h.settle)

/-- Let go of a child. -/
def release (h : Host) (p : ProcessRef) : Host :=
  (h.withKernel p () (fun child k => ((), child.release k))).2.settle

/-- Let the time reach the end of a child, if it ends. -/
def awaitEnd (h : Host) (p : ProcessRef) : Host :=
  match h.child? p with
  | some child => h.runUntil (·.kernel.hasEnded child.pid)
  | none => h

/-- Let somebody else collect the status of a child: its exit value, once it has
ended. -/
def collectElsewhere (h : Host) (p : ProcessRef) : Option Int × Host :=
  (h.awaitEnd p).withKernel p none Child.collectElsewhere

/-- Let the time reach an instant. -/
def elapse (h : Host) (t : Instant) : Host :=
  h.advance t.toNatClampNeg

/-- The next instant at which a process goes on by itself. -/
def nextChange? (h : Host) : Option Instant :=
  h.kernel.nextWake?.bind (fun time =>
    if time ≤ Int64.maxValue.toNatClampNeg then some (.ofNat time) else none)

/-! ## Sessions of the stream handler -/

/-- Make a session. -/
def openSession (h : Host) (handler : HandlerId) : Except Fault SessionId × Host :=
  (.ok { handler, own := some h.sessions.length }, { h with sessions := h.sessions ++ [{}] })

/-- Bind a stream of a child; without a source its input is closed at once. -/
def attach (h : Host) (session : SessionId) (stream : StandardStream) (p : ProcessRef) :
    Except Fault Unit × Host :=
  if stream = .input && h.reservoir.source.isNone then h.close p .input
  else (.ok (), h.updateSession (session.own.getD 0) (·.bind stream (some p)))

/-- Start the pumps of a session. -/
def startStreams (h : Host) (session : SessionId) : Except Fault Unit × Host :=
  let index := session.own.getD 0
  match h.sessions[index]? with
  | none => (.ok (), h)
  | some s =>
      let started := (s.start.pumps.drop s.pumps.length).map (fun (stream, process) =>
        ({ session := index, stream, process } : Pumping))
      let h := h.updateSession index Session.start
      (.ok (), { h with pumpings := h.pumpings ++ started }.settle)

/-- Wait for the pumps of a session and stop it. -/
def stopStreams (h : Host) (session : SessionId) : Except Fault Unit × Host :=
  let index := session.own.getD 0
  let h := h.runUntil (·.pumpings.all (fun p => p.session ≠ index || p.work.isDone))
  let h := { h with pumpings := h.pumpings.filter (fun p => p.session ≠ index) }
  match h.sessions[index]? with
  | some s =>
      let (report, s) := s.stop
      (report, h.updateSession index (fun _ => s))
  | none => (.ok (), h)

/-- The host as the surroundings of executions. -/
def surroundings : Surroundings Host where
  pathExists path h := h.kernel.tree.pathExists h.place path
  launch index order h := h.launch index order
  pid h p := h.pid p
  openSession handler h := h.openSession handler
  attach session stream p h := h.attach session stream p
  startStreams session h := h.startStreams session
  stopStreams session h := h.stopStreams session
  enterWait p h := h.enterWait p
  resumeWait p h := h.wait p
  destroy p h := h.destroy p
  close p stream h := h.close p stream
  release p h := h.release p
  isFailure exitValue := decide (exitValue ≠ 0)
  elapse t h := h.elapse t
  nextChange? h := h.nextChange?

end Host

end Overseer.Machine
