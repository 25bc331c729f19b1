import Overseer.Supervisor.Call

/-!
# Control of a supervisor

Giving a supervisor its collaborators, and using the watchdog and the destroyer
it has.  Without a watchdog or a destroyer, using it does nothing.
-/

namespace Overseer

namespace Supervisor

variable {σ : Type}

/-- The watchdog in use. -/
def watchdog? (sup : Supervisor σ) : Option Watchdog :=
  sup.settings.watchdog.bind (sup.world.watchdogs[·]?)

/-- The destroyer in use. -/
def destroyer? (sup : Supervisor σ) : Option Destroyer :=
  sup.settings.destroyer.bind (sup.world.destroyers[·]?)

/-- Use a new watchdog from now on, or none. -/
def useWatchdog (sup : Supervisor σ) (dog : Option Watchdog) : Supervisor σ :=
  let watchdogs := sup.world.watchdogs
  { sup with
    world := { sup.world with watchdogs := watchdogs ++ dog.toList }
    settings := { sup.settings with watchdog := dog.map (fun _ => watchdogs.length) } }

/-- Use a new destroyer from now on, or none. -/
def useDestroyer (sup : Supervisor σ) (d : Option Destroyer) : Supervisor σ :=
  let destroyers := sup.world.destroyers
  { sup with
    world := { sup.world with destroyers := destroyers ++ d.toList }
    settings := { sup.settings with destroyer := d.map (fun _ => destroyers.length) } }

/-- Let the watchdog destroy what it watches. -/
def killWatched (s : Surroundings σ) (sup : Supervisor σ) : Except Fault Unit × Supervisor σ :=
  match sup.settings.watchdog with
  | none => (.ok (), sup)
  | some i =>
      let (reply, world) := sup.world.kill s i
      (reply, { sup with world })

/-- Run the shutdown registry. -/
def runDestroyer (s : Surroundings σ) (sup : Supervisor σ) : Except Fault Unit × Supervisor σ :=
  match sup.settings.destroyer with
  | none => (.ok (), sup)
  | some i =>
      let (reply, world) := sup.world.runRegistry s i
      (reply, { sup with world })

/-- Let the watchdog watch a process. -/
def startWatch (sup : Supervisor σ) (p : ProcessRef) : Except Fault Unit × Supervisor σ :=
  match sup.settings.watchdog with
  | none => (.ok (), sup)
  | some i =>
      let (reply, world) := sup.world.startWatch i p
      (reply, { sup with world })

/-- Let the watchdog stop watching. -/
def stopWatch (sup : Supervisor σ) : Supervisor σ :=
  match sup.settings.watchdog with
  | none => sup
  | some i => { sup with world := sup.world.stopWatch i }

/-- The watchdog last given is the one in use. -/
@[simp]
theorem watchdog?_useWatchdog (sup : Supervisor σ) (dog : Option Watchdog) :
    (sup.useWatchdog dog).watchdog? = dog := by
  cases dog <;> simp [watchdog?, useWatchdog]

/-- The destroyer last given is the one in use. -/
@[simp]
theorem destroyer?_useDestroyer (sup : Supervisor σ) (d : Option Destroyer) :
    (sup.useDestroyer d).destroyer? = d := by
  cases d <;> simp [destroyer?, useDestroyer]

end Supervisor

end Overseer
