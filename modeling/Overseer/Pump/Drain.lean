import Overseer.Fault
import Overseer.Pump.Sink

/-!
# Draining a process

An output pump reads from a stream of a process until that ends and writes all
it reads to a sink.  The answers of the reads are given as a list; reading on
after the last of them finds the stream ended.
-/

namespace Overseer.Pump

/-- The most bytes one read asks for. -/
def chunkSize : Nat :=
  4096

/-- What one read comes to. -/
inductive ReadReply
  /-- Some bytes were read. -/
  | data (chunk : Bytes)
  /-- A signal interrupted the read. -/
  | interrupted
  /-- The stream has ended. -/
  | ended
  /-- The read failed. -/
  | failed (errno : Errno)
deriving DecidableEq

/-- The fault of a read that failed. -/
def readFault (errno : Errno) : Fault :=
  .system errno (utf8 "read from process")

/-- The fault of a sink that failed. -/
def sinkFault : Fault :=
  .system .inputOutput (utf8 "write to output sink failed")

variable {σ : Type}

/-- Drain a stream into a sink: the fault of the pump, if any, and the sink.
The flush at the end is not asked how it went. -/
def drain (kind : SinkKind σ) : List ReadReply → σ → Option Fault × σ
  | [], sink => (none, (kind.flush sink).2)
  | .ended :: _, sink => (none, (kind.flush sink).2)
  | .interrupted :: rest, sink => drain kind rest sink
  | .failed errno :: _, sink => (some (readFault errno), sink)
  | .data chunk :: rest, sink =>
      match kind.write chunk sink with
      | (true, sink) => drain kind rest sink
      | (false, sink) => (some sinkFault, sink)

/-- Cut bytes into reads of at most `fuel + 1` chunks. -/
def chunksOf : Nat → Bytes → List Bytes
  | 0, data => if data.isEmpty then [] else [data]
  | fuel + 1, data =>
      if data.isEmpty then [] else data.take chunkSize :: chunksOf fuel (data.drop chunkSize)

/-- The reads of a stream that holds the given bytes and then ends. -/
def readsOf (data : Bytes) : List ReadReply :=
  (chunksOf (data.length / chunkSize) data).map .data ++ [.ended]

theorem drain_data_of_taken {kind : SinkKind σ} {chunk : Bytes} {sink : σ}
    (htaken : (kind.write chunk sink).1 = true) (rest : List ReadReply) :
    drain kind (.data chunk :: rest) sink = drain kind rest (kind.write chunk sink).2 := by
  rw [drain]
  split
  · next hanswer => rw [hanswer]
  · next hanswer => simp [hanswer] at htaken

theorem drain_data_of_refused {kind : SinkKind σ} {chunk : Bytes} {sink : σ}
    (hrefused : (kind.write chunk sink).1 = false) (rest : List ReadReply) :
    drain kind (.data chunk :: rest) sink = (some sinkFault, (kind.write chunk sink).2) := by
  rw [drain]
  split
  · next hanswer => simp [hanswer] at hrefused
  · next hanswer => rw [hanswer]

end Overseer.Pump
