import Overseer.Proofs.Execution.Disturbance
import Overseer.Proofs.Execution.Course

/-!
# Fleets

A fleet is any number of executions that take their steps in any order in one world,
together with whatever else happens there.  Starting and ending a watch are two
sections each, and others may get in between, so in a fleet they are two steps.
-/

namespace Overseer

/-- An execution among others. -/
structure Member where
  /-- The execution. -/
  run : Run
  /-- Whether it has done the first section, but not the second, of starting or of
  ending its watch. -/
  midway : Bool := false

/-- Executions that share a world. -/
structure Fleet (σ : Type) where
  /-- The world they share. -/
  world : World σ
  /-- The executions, in the order in which they were asked for. -/
  members : List Member := []

/-- What happens next in a fleet. -/
inductive Act (σ : Type)
  /-- Somebody asks for an execution, to wait for it or to have it carried out in the
  background. -/
  | enroll (plan : Plan) (background : Bool)
  /-- An execution goes on. -/
  | advance (j : Nat)
  /-- Something else happens. -/
  | disturb (d : Disturbance σ)

namespace Member

variable {σ : Type}

/-- Take a step that is not divided. -/
def step (s : Surroundings σ) (m : Member) (w : World σ) : Member × World σ :=
  ({ run := (m.run.step s w).1 }, (m.run.step s w).2)

/-- Go on to the end of the next section. -/
def advance (s : Surroundings σ) (m : Member) (w : World σ) : Member × World σ :=
  match m.run.stage, m.run.plan.watchdog with
  | .watching c, some i =>
      if m.midway then
        ({ run := { m.run with stage := .waiting { c with watched := true } false false } },
          w.updateWatchdog i (·.commit w.clock c.process))
      else
        match w.watchdogs[i]?.map Watchdog.clearance with
        | some (.ok (_, cleared)) =>
            ({ m with midway := true }, w.updateWatchdog i (fun _ => cleared))
        | _ => m.step s w
  | .unwatching c _, some i | .ending c _, some i | .leaving c _, some i =>
      if c.watched then
        if m.midway then ({ run := (m.run.step s w).1 }, w.updateWatchdog i Watchdog.clear)
        else ({ m with midway := true }, w.updateWatchdog i (·.requestStop.2))
      else m.step s w
  | _, _ => m.step s w

end Member

namespace Fleet

variable {σ : Type}

/-- What becomes of a fleet.  Before a background execution its watchdog forgets
earlier launches. -/
def act (s : Surroundings σ) (f : Fleet σ) : Act σ → Fleet σ
  | .enroll plan background =>
      { world :=
          match background, plan.watchdog with
          | true, some i => f.world.updateWatchdog i Watchdog.forgetLaunch
          | _, _ => f.world
        members := f.members ++ [{ run := { plan } }] }
  | .advance j =>
      match f.members[j]? with
      | none => f
      | some m =>
          { world := (m.advance s f.world).2, members := f.members.set j (m.advance s f.world).1 }
  | .disturb d => { f with world := d.apply s f.world }

/-- A fleet after one thing after the other. -/
def play (s : Surroundings σ) (f : Fleet σ) (acts : List (Act σ)) : Fleet σ :=
  acts.foldl (act s) f

end Fleet

/-! ## Sections make up steps -/

namespace World

variable {σ : Type}

theorem updateWatchdog_updateWatchdog (w : World σ) (i : WatchdogId) (f g : Watchdog → Watchdog) :
    (w.updateWatchdog i f).updateWatchdog i g = w.updateWatchdog i (fun dog => g (f dog)) := by
  simp only [updateWatchdog, List.modify_modify_eq]
  rfl

end World

namespace Member

variable {σ : Type}

/-- If nobody gets in between its sections, a member takes the step of its execution. -/
theorem advance_eq_step (s : Surroundings σ) (m : Member) (w : World σ)
    (atStart : m.midway = false) :
    (if (m.advance s w).1.midway then (m.advance s w).1.advance s (m.advance s w).2
      else m.advance s w) = m.step s w := by
  rcases m with ⟨⟨plan, stage, announced⟩, midway⟩
  change midway = false at atStart
  subst atStart
  cases watchdog : plan.watchdog with
  | none => simp [advance, step, watchdog]
  | some i =>
      cases stage with
      | watching c =>
          cases found : w.watchdogs[i]? with
          | none => simp [advance, step, watchdog, found]
          | some dog =>
              cases cleared : dog.clearance with
              | error fault => simp [advance, step, watchdog, found, cleared]
              | ok pair =>
                  have started : dog.start w.clock c.process =
                      .ok (pair.2.commit w.clock c.process) := by
                    simp [Watchdog.start, cleared, Except.map]
                  simp [advance, step, watchdog, found, cleared, Run.step, World.startWatch,
                    started, Run.orAbandon, World.updateWatchdog_updateWatchdog]
                  rfl
      | unwatching c fault | ending c exitValue | leaving c outcome =>
          cases watched : c.watched with
          | false => simp [advance, step, watchdog, watched]
          | true =>
              simp [advance, step, watchdog, watched, Run.step, World.stopWatch,
                World.updateWatchdog_updateWatchdog]
              rfl
      | _ => simp [advance, step]

end Member

end Overseer
