import Overseer.Execution.World

/-!
# Disturbances

What can happen in the world of an execution without the execution's doing: timers
end, somebody has a watched process destroyed or runs a registry, time passes, and
the collaborators change by themselves.
-/

namespace Overseer

/-- Something that happens in a world. -/
inductive Disturbance (σ : Type)
  /-- The timer of a watchdog ends, whether or not it was due. -/
  | timer (i : WatchdogId)
  /-- Somebody has the watched process destroyed. -/
  | kill (i : WatchdogId)
  /-- Somebody runs a registry. -/
  | shutdown (i : DestroyerId)
  /-- The time reaches an instant. -/
  | time (t : Instant)
  /-- The collaborators change. -/
  | outside (change : σ → σ)

/-- The world after a disturbance. -/
def Disturbance.apply {σ : Type} (s : Surroundings σ) : Disturbance σ → World σ → World σ
  | .timer i, w => w.expire s i
  | .kill i, w => (w.kill s i).2
  | .shutdown i, w => (w.runRegistry s i).2
  | .time t, w => w.elapse s t
  | .outside change, w => { w with outside := change w.outside }

end Overseer
