/-!
# Start signals

A background execution and the caller who asked for it meet twice.  The worker
tells the caller that the launch was tried, and before it delivers the result it
waits until the caller has seen that.  So the caller never goes on before the
launch, and no result arrives before the caller goes on.
-/

namespace Overseer

/-- The signal between a caller and the worker of its background execution. -/
structure StartSignal where
  /-- Whether the worker has told that the launch was tried. -/
  notified : Bool := false
  /-- Whether the caller has seen it. -/
  observed : Bool := false
deriving DecidableEq, Inhabited

namespace StartSignal

/-- The worker tells that the launch was tried; telling it again changes
nothing. -/
def notify (s : StartSignal) : StartSignal :=
  { s with notified := true }

/-- The caller goes on once it was told, and leaves a mark; before that it
waits. -/
def pass? (s : StartSignal) : Option StartSignal :=
  if s.notified then some { s with observed := true } else none

/-- Whether the worker may deliver its result. -/
def mayDeliver (s : StartSignal) : Bool :=
  s.observed

end StartSignal

end Overseer
