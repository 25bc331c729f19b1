import Overseer.Text.Bytes

/-!
# Sinks

A sink takes bytes.  It may fail, and whether it has failed can be asked after
every write and after a flush.
-/

namespace Overseer.Pump

/-- How sinks with a state of type `σ` take bytes.  Both answers say whether the
sink is still good. -/
structure SinkKind (σ : Type) where
  /-- Take bytes. -/
  write : Bytes → σ → Bool × σ
  /-- Pass on what was taken but is still held back. -/
  flush : σ → Bool × σ

/-- A sink that keeps what it takes, up to a limit if there is one.  It fails
when a write does not fit, keeping the part that does, and then takes nothing
more. -/
structure Sink where
  /-- How many bytes it takes in total. -/
  limit : Option Nat := none
  /-- What it has taken. -/
  taken : Bytes := []
  /-- Whether it has failed. -/
  failed : Bool := false
deriving DecidableEq, Inhabited

namespace Sink

/-- How many more bytes the sink takes, if there is a limit. -/
def room (s : Sink) : Option Nat :=
  s.limit.map (· - s.taken.length)

/-- Take bytes. -/
def write (data : Bytes) (s : Sink) : Bool × Sink :=
  if s.failed then (false, s)
  else
    match s.room with
    | none => (true, { s with taken := s.taken ++ data })
    | some room =>
        if data.length ≤ room then (true, { s with taken := s.taken ++ data })
        else (false, { s with taken := s.taken ++ data.take room, failed := true })

/-- Nothing is held back. -/
def flush (s : Sink) : Bool × Sink :=
  (!s.failed, s)

/-- The kind of these sinks. -/
def kind : SinkKind Sink where
  write := write
  flush := flush

end Sink

end Overseer.Pump
