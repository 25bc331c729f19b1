import Overseer.Pump.Reservoir
import Overseer.Pump.Session
import Overseer.Stream.Shelf

/-!
# Rounds of pumping

A round binds a session to the ends of three fresh pipes, starts it, puts bytes
into the pipes as its script says, and stops it.  The sinks and the source
outlive the round.
-/

namespace Overseer.Script

open Overseer.Pump

/-- What a session's input is bound to. -/
inductive InputEnd
  /-- The writing end of a pipe that is read from. -/
  | writing
  /-- The writing end of a pipe whose reading end is closed. -/
  | unread
  /-- The reading end, which cannot be written to. -/
  | reading
deriving DecidableEq

/-- What a session's output is bound to. -/
inductive OutputEnd
  /-- The reading end of a pipe that gets these bytes and ends. -/
  | reading (content : Bytes)
  /-- The writing end, which cannot be read from. -/
  | writing
deriving DecidableEq

/-- The script of a round. -/
structure RoundScript where
  /-- What the input is bound to. -/
  input : Option InputEnd := none
  /-- What the output is bound to. -/
  output : Option OutputEnd := none
  /-- What the error stream is bound to. -/
  error : Option OutputEnd := none
  /-- Whether the session is started. -/
  starts : Bool := true

/-- A round under way. -/
structure Round where
  /-- The pipes' ends. -/
  shelf : Shelf
  /-- The session, whose streams are places on the shelf. -/
  session : Session Nat
  /-- What the session shares with others. -/
  reservoir : Reservoir

namespace Round

/-- The place of a pipe's writing end. -/
def writer : StandardStream → Nat
  | .input => 0
  | .output => 2
  | .error => 4

/-- The place of a pipe's reading end. -/
def reader : StandardStream → Nat
  | .input => 1
  | .output => 3
  | .error => 5

/-- Three fresh pipes. -/
def freshShelf : Shelf :=
  [StandardStream.input, .output, .error].foldl
    (fun s stream => s.openPipe (writer stream) (reader stream)) (.ofSize 6)

/-- The place of what the input is bound to. -/
def inputPlace : InputEnd → Nat
  | .reading => reader .input
  | _ => writer .input

/-- The place of what an output is bound to. -/
def outputPlace (stream : StandardStream) : OutputEnd → Nat
  | .reading _ => reader stream
  | .writing => writer stream

/-- Bind the input; without a source its stream is closed at once. -/
def bindInput (r : Round) (what : InputEnd) : Round :=
  let shelf := if what = .unread then (r.shelf.close (reader .input)).2 else r.shelf
  match r.reservoir.source with
  | some _ => { r with shelf, session := r.session.bind .input (some (inputPlace what)) }
  | none =>
      { r with shelf := (shelf.close (inputPlace what)).2, session := r.session.bind .input none }

/-- Bind an output. -/
def bindOutput (r : Round) (stream : StandardStream) (what : OutputEnd) : Round :=
  { r with session := r.session.bind stream (some (outputPlace stream what)) }

/-- Put the scripted bytes into a pipe and end it. -/
def fill (r : Round) (stream : StandardStream) : OutputEnd → Round
  | .reading content =>
      { r with shelf := ((r.shelf.write (writer stream) content).2.close (writer stream)).2 }
  | .writing => r

/-- Run the pump of one stream to its end. -/
def pump (r : Round) (stream : StandardStream) (place : Nat) : Round :=
  let keep (r : Round) (fault : Option Fault) : Round :=
    match fault with
    | some fault => { r with session := r.session.record fault }
    | none => r
  match stream with
  | .input =>
      match r.reservoir.source with
      | none => r
      | some source =>
          let replies :=
            match (r.shelf.write place []).1 with
            | .ok () => []
            | .error errno => [WriteReply.failed errno]
          let fed := feed replies source
          let (fault, shelf) := fed.conclude (·.close place) (r.shelf.write place fed.delivered).2
          keep { r with shelf, reservoir := { r.reservoir with source := some fed.source } } fault
  | _ =>
      match r.shelf.readAll place with
      | (.ok data, shelf) =>
          let (fault, reservoir) := r.reservoir.drain stream (readsOf data)
          keep { r with shelf, reservoir } fault
      | (.error errno, shelf) =>
          let (fault, reservoir) := r.reservoir.drain stream [.failed errno]
          keep { r with shelf, reservoir } fault

/-- Bind the streams of a round, run its pumps and stop it: what stopping
reports, and the round in the end. -/
def run (script : RoundScript) (session : Session Nat) (reservoir : Reservoir) :
    Except Fault Unit × Round :=
  let r : Round := { shelf := freshShelf, session, reservoir }
  let r := script.input.elim r r.bindInput
  let r := script.output.elim r (r.bindOutput .output)
  let r := script.error.elim r (r.bindOutput .error)
  let r := if script.starts then { r with session := r.session.start } else r
  let r := script.output.elim r (r.fill .output)
  let r := script.error.elim r (r.fill .error)
  let r := r.session.pumps.foldl (fun r (stream, place) => r.pump stream place) r
  let (report, session) := r.session.stop
  (report, { r with session })

/-- Whether the stream that the input was bound to is still open. -/
def inputIsOpen (r : Round) (script : RoundScript) : Bool :=
  (r.shelf.ownership.stream ((script.input.map inputPlace).getD (writer .input))).isOpen

/-- Whether the reading end of the output's pipe is still open. -/
def outputIsOpen (r : Round) : Bool :=
  (r.shelf.ownership.stream (reader .output)).isOpen

/-- The bytes that arrived at the other end of the input. -/
def received (r : Round) : Bytes :=
  match (r.shelf.readAll (reader .input)).1 with
  | .ok data => data
  | .error _ => []

end Round

end Overseer.Script
