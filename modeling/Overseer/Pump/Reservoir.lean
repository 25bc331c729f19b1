import Overseer.Process
import Overseer.Pump.Drain
import Overseer.Pump.Feed

/-!
# Reservoirs

The sinks and the source that all sessions of one stream handler share.
-/

namespace Overseer.Pump

/-- What sessions share, with sinks of some kind. -/
structure Shared (σ : Type) where
  /-- The sink for output. -/
  output : σ
  /-- The sink for errors, unless they go to the sink for output. -/
  error : Option σ
  /-- Where input comes from. -/
  source : Option Source

namespace Shared

variable {σ : Type}

/-- The sink of an output stream. -/
def sink (r : Shared σ) : StandardStream → σ
  | .error => r.error.getD r.output
  | _ => r.output

/-- Replace the sink of an output stream. -/
def setSink (r : Shared σ) (stream : StandardStream) (sink : σ) : Shared σ :=
  match stream, r.error with
  | .error, some _ => { r with error := some sink }
  | _, _ => { r with output := sink }

end Shared

/-- What sessions share when their sinks keep what they take. -/
abbrev Reservoir := Shared Sink

namespace Reservoir

/-- Drain reads of one of the output streams into its sink. -/
def drain (r : Reservoir) (stream : StandardStream) (reads : List ReadReply) :
    Option Fault × Reservoir :=
  let (fault, sink) := Pump.drain Sink.kind reads (r.sink stream)
  (fault, r.setSink stream sink)

end Reservoir

end Overseer.Pump
