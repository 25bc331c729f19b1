import Overseer.Pump.Drain

/-!
# Feeding a process

The input pump takes chunks from a source and writes each of them to the stream
a process reads from.  The answers of the writes are given as a list; a write
after the last of them takes all it is asked to.  A process that no longer reads
ends the pump without a fault, and any other failed write ends it with one, in
which case the stream is left open.
-/

namespace Overseer.Pump

/-- Where the bytes for processes come from. -/
structure Source where
  /-- What is left. -/
  remaining : Bytes
  /-- Whether reading has failed, so that nothing more comes. -/
  failed : Bool := false
deriving DecidableEq, Inhabited

/-- Take the next chunk of a source; an empty one means that there is no more. -/
def Source.take (s : Source) : Bytes × Source :=
  if s.failed then ([], s)
  else (s.remaining.take chunkSize, { s with remaining := s.remaining.drop chunkSize })

/-- What one write comes to. -/
inductive WriteReply
  /-- So many of the bytes were taken, but never more than it was asked to take. -/
  | taken (count : Nat)
  /-- The write failed, or a signal interrupted it. -/
  | failed (errno : Errno)
deriving DecidableEq

/-- The fault of a write that failed. -/
def writeFault (errno : Errno) : Fault :=
  .system errno (utf8 "write to process stdin")

/-- How writing a chunk ends. -/
inductive WriteEnd
  /-- All of it was taken. -/
  | complete
  /-- The process no longer reads. -/
  | unread
  /-- A write failed otherwise. -/
  | failed (errno : Errno)
deriving DecidableEq

/-- The bytes of a chunk that were taken, how writing it ended, and the answers
left for later writes. -/
structure Written where
  /-- What was taken. -/
  taken : Bytes
  /-- How it ended. -/
  ending : WriteEnd
  /-- The answers of later writes. -/
  replies : List WriteReply

/-- Write a chunk, going on after partial and interrupted writes. -/
def writeAll : List WriteReply → Bytes → Written
  | replies, [] => { taken := [], ending := .complete, replies }
  | [], data => { taken := data, ending := .complete, replies := [] }
  | .failed errno :: replies, data =>
      if errno = .interrupted then writeAll replies data
      else { taken := [], ending := if errno = .brokenPipe then .unread else .failed errno, replies }
  | .taken count :: replies, data =>
      let later := writeAll replies (data.drop count)
      { later with taken := data.take count ++ later.taken }

/-- What an input pump did. -/
structure Fed where
  /-- The bytes that the process's stream took. -/
  delivered : Bytes
  /-- What is left of the source. -/
  source : Source
  /-- The fault of the pump. -/
  fault : Option Fault
deriving DecidableEq

/-- End a pump.  Unless a write failed it closes the stream, and a close that fails is its fault. -/
def Fed.conclude {τ : Type} (f : Fed) (close : τ → Except Fault Unit × τ) (stream : τ) :
    Option Fault × τ :=
  match f.fault with
  | some fault => (some fault, stream)
  | none =>
      match close stream with
      | (.ok (), stream) => (none, stream)
      | (.error fault, stream) => (some fault, stream)

/-- What is left of a source that a chunk was taken from is less. -/
theorem Source.length_take {s : Source} (hchunk : s.take.1 ≠ []) :
    s.take.2.remaining.length < s.remaining.length := by
  unfold take at *
  split at hchunk
  · contradiction
  · next hgood =>
      cases hremaining : s.remaining with
      | nil => simp [hremaining] at hchunk
      | cons first rest =>
          simp only [if_neg hgood, List.length_drop, List.length_cons, chunkSize]
          omega

/-- Feed a process from a source. -/
def feed (replies : List WriteReply) (source : Source) : Fed :=
  if _hchunk : source.take.1 = [] then { delivered := [], source := source.take.2, fault := none }
  else
    let written := writeAll replies source.take.1
    match written.ending with
    | .unread => { delivered := written.taken, source := source.take.2, fault := none }
    | .failed errno =>
        { delivered := written.taken, source := source.take.2, fault := some (writeFault errno) }
    | .complete =>
        let later := feed written.replies source.take.2
        { later with delivered := written.taken ++ later.delivered }
termination_by source.remaining.length
decreasing_by exact Source.length_take ‹_›

@[simp]
theorem writeAll_nil (replies : List WriteReply) :
    writeAll replies [] = { taken := [], ending := .complete, replies } := by
  cases replies <;> rfl

@[simp]
theorem writeAll_of_no_replies (data : Bytes) :
    writeAll [] data = { taken := data, ending := .complete, replies := [] } := by
  cases data <;> rfl

theorem writeAll_taken (count : Nat) (replies : List WriteReply) {data : Bytes}
    (hdata : data ≠ []) :
    writeAll (.taken count :: replies) data =
      { writeAll replies (data.drop count) with
        taken := data.take count ++ (writeAll replies (data.drop count)).taken } := by
  cases data with
  | nil => contradiction
  | cons first rest => rfl

theorem writeAll_interrupted (replies : List WriteReply) {data : Bytes} (hdata : data ≠ []) :
    writeAll (.failed .interrupted :: replies) data = writeAll replies data := by
  cases data with
  | nil => contradiction
  | cons first rest => simp [writeAll]

theorem writeAll_failed {errno : Errno} (hinterrupted : errno ≠ .interrupted)
    (replies : List WriteReply) {data : Bytes} (hdata : data ≠ []) :
    writeAll (.failed errno :: replies) data =
      { taken := [], replies
        ending := if errno = .brokenPipe then .unread else .failed errno } := by
  cases data with
  | nil => contradiction
  | cons first rest => simp [writeAll, hinterrupted]

end Overseer.Pump
