import Overseer.Supervisor.Control
import Overseer.Proofs.Supervisor.Alike

/-!
# Moves of a supervisor

A supervisor with its workers and callers goes from one state to the next by single
moves: a worker takes a step, a caller asks for an execution, goes on or waits,
somebody changes the settings, an execution that somebody waits for takes a step in
the same world, or the world is disturbed.  Nothing is assumed about their order, and
a move that is not possible yet changes nothing.

What a move comes to does not depend on the marks of watchdogs.
-/

namespace Overseer

namespace Supervisor

variable {σ : Type}

/-- What happens next to a supervisor. -/
inductive Move (σ : Type)
  /-- A worker takes a step, unless it has to wait. -/
  | worker (i : WorkerId)
  /-- The caller of a background execution goes on, unless it has to wait. -/
  | pass (i : WorkerId)
  /-- Somebody asks for a background execution. -/
  | submit (caller : Caller) (command : CommandLine) (environment : Option Environment)
      (receiver : Option Receiver)
  /-- Somebody takes all workers from the list, to wait for them. -/
  | take
  /-- Somebody parts with a worker, unless he has to wait. -/
  | part (caller : Caller) (i : WorkerId)
  /-- The settings change. -/
  | configure (settings : Settings)
  /-- A new watchdog, or none, is used from now on. -/
  | useWatchdog (dog : Option Watchdog)
  /-- A new destroyer, or none, is used from now on. -/
  | useDestroyer (d : Option Destroyer)
  /-- An execution that somebody waits for takes a step. -/
  | foreign (r : Run)
  /-- Something else happens in the world. -/
  | disturb (d : Disturbance σ)

/-- Whether a move is a step of a worker. -/
def Move.isStepOf (i : WorkerId) : Move σ → Bool
  | worker j => j == i
  | _ => false

/-- A supervisor after a move. -/
def move (s : Surroundings σ) (sup : Supervisor σ) : Move σ → Supervisor σ
  | .worker i => (sup.stepWorker? s i).getD sup
  | .pass i => (sup.passStart? i).getD sup
  | .submit caller command environment receiver =>
      match sup.submit s caller command environment receiver with
      | .ok (_, next) => next
      | .error _ => sup
  | .take => sup.takeWorkers.2
  | .part caller i => (sup.part? caller i).getD sup
  | .configure settings => { sup with settings }
  | .useWatchdog dog => sup.useWatchdog dog
  | .useDestroyer d => sup.useDestroyer d
  | .foreign r => { sup with world := (r.step s sup.world).2 }
  | .disturb d => { sup with world := d.apply s sup.world }

/-- A supervisor after one move after the other. -/
def play (s : Surroundings σ) (sup : Supervisor σ) (moves : List (Move σ)) : Supervisor σ :=
  moves.foldl (move s) sup

/-- The same supervisor in another world. -/
def moveTo (sup : Supervisor σ) (w : World σ) : Supervisor σ :=
  { sup with world := w }

@[simp]
theorem world_moveTo (sup : Supervisor σ) (w : World σ) : (sup.moveTo w).world = w :=
  rfl

@[simp]
theorem workers_moveTo (sup : Supervisor σ) (w : World σ) :
    (sup.moveTo w).workers = sup.workers :=
  rfl

@[simp]
theorem world_enter (sup : Supervisor σ) (i : WorkerId) (phase : Phase) :
    (sup.enter i phase).world = sup.world :=
  rfl

theorem play_append (s : Surroundings σ) (sup : Supervisor σ) (moves more : List (Move σ)) :
    sup.play s (moves ++ more) = (sup.play s moves).play s more :=
  List.foldl_append

theorem isStepOf_eq_true {i : WorkerId} {m : Move σ} (own : m.isStepOf i = true) :
    m = .worker i := by
  cases m with
  | worker j => exact congrArg Move.worker (eq_of_beq own)
  | _ => contradiction

/-! ## Asking for an execution -/

/-- What asking for a background execution comes to when it is not refused. -/
theorem submit_eq_ok {s : Surroundings σ} {sup next : Supervisor σ} {caller : Caller}
    {command : CommandLine} {environment : Option Environment} {receiver : Option Receiver}
    {i : WorkerId} (asked : sup.submit s caller command environment receiver = .ok (i, next)) :
    sup.checkDirectory s = .ok () ∧ i = sup.workers.length ∧ ∃ given, receiver = some given ∧
      next.workers = sup.workers ++
        [{ run := { plan := sup.settings.plan command environment }, receiver := given }] ∧
      next.world = match sup.settings.watchdog with
        | some i => sup.world.updateWatchdog i Watchdog.forgetLaunch
        | none => sup.world := by
  cases receiver with
  | none => contradiction
  | some given =>
      simp only [submit] at asked
      cases checked : sup.checkDirectory s with
      | error fault =>
          rw [checked] at asked
          contradiction
      | ok _ =>
          rw [checked] at asked
          cases asked
          exact ⟨rfl, rfl, given, rfl, rfl, rfl⟩

/-- Who is joined and who stays depends on the collaborators, and on nothing else in the world. -/
theorem reap_moveTo (s : Surroundings σ) (sup : Supervisor σ) (caller : Caller) {v : World σ}
    (same : v.outside = sup.world.outside) :
    (sup.moveTo v).reap s caller = (sup.reap s caller).moveTo v := by
  unfold reap
  rw [world_moveTo, same]
  rfl

/-! ## Marks of watchdogs -/

/-- Supervisors that differ in the marks of watchdogs at most. -/
def Alike (a b : Supervisor σ) : Prop :=
  ∃ v : World σ, v.Alike b.world ∧ a = b.moveTo v

namespace Alike

variable {a b : Supervisor σ}

theorem world (alike : a.Alike b) : a.world.Alike b.world := by
  obtain ⟨v, worlds, rfl⟩ := alike
  exact worlds

theorem enter (alike : a.Alike b) (i : WorkerId) (phase : Phase) :
    (a.enter i phase).Alike (b.enter i phase) := by
  obtain ⟨v, worlds, rfl⟩ := alike
  exact ⟨v, worlds, rfl⟩

/-- Asking for a background execution comes to the same. -/
theorem submit (alike : a.Alike b) (s : Surroundings σ) (caller : Caller) (command : CommandLine)
    (environment : Option Environment) (receiver : Option Receiver) :
    (∃ fault, a.submit s caller command environment receiver = .error fault ∧
        b.submit s caller command environment receiver = .error fault) ∨
      ∃ i x y, a.submit s caller command environment receiver = .ok (i, x) ∧
        b.submit s caller command environment receiver = .ok (i, y) ∧ x.Alike y := by
  obtain ⟨v, worlds, rfl⟩ := alike
  cases receiver with
  | none => exact .inl ⟨_, rfl, rfl⟩
  | some given =>
      have sameCheck : (b.moveTo v).checkDirectory s = b.checkDirectory s := by
        unfold checkDirectory
        rw [world_moveTo, worlds.outside]
        rfl
      simp only [Supervisor.submit, sameCheck]
      cases b.checkDirectory s with
      | error fault => exact .inl ⟨fault, rfl, rfl⟩
      | ok _ =>
          refine .inr ⟨_, _, _, rfl, rfl, ?_⟩
          have spawned : ∀ {v w : World σ}, v.outside = w.outside →
              (((b.moveTo v).reap s caller).spawn (b.settings.plan command environment) given).2 =
                (((b.moveTo w).reap s caller).spawn
                  (b.settings.plan command environment) given).2.moveTo v := by
            intro v w same
            exact congrArg (fun sup => (sup.spawn (sup.settings.plan command environment) given).2)
              (reap_moveTo s (b.moveTo w) caller same)
          cases watchdog : b.settings.watchdog with
          | none =>
              refine ⟨v, ?_, ?_⟩
              · exact worlds
              · simp only [moveTo, watchdog]
                exact spawned worlds.outside
          | some k =>
              refine ⟨v.updateWatchdog k Watchdog.forgetLaunch, ?_, ?_⟩
              · exact worlds.updateWatchdog k Watchdog.isBlind_forgetLaunch
              · simp only [moveTo, watchdog]
                exact spawned worlds.outside

/-- What a receiver does comes to the same. -/
theorem react (alike : a.Alike b) (s : Surroundings σ) (i : WorkerId) (w : Worker)
    (rest : List Reaction) : (a.react s i w rest).Alike (b.react s i w rest) := by
  have raised : ∀ fault, (a.receiverRaised i w.run fault).Alike
      (b.receiverRaised i w.run fault) := by
    intro fault
    obtain ⟨v, worlds, rfl⟩ := alike
    exact ⟨_, worlds.note w.run.plan.journal (.receiverFailed fault), rfl⟩
  cases rest with
  | nil => exact alike.enter i .finished
  | cons reaction rest =>
      cases reaction with
      | raise fault => exact raised fault
      | awaitWorkers =>
          obtain ⟨v, worlds, rfl⟩ := alike
          exact ⟨v, worlds, rfl⟩
      | follow command receiver =>
          simp only [Supervisor.react]
          rcases alike.submit s (.worker i) command none (some { id := receiver }) with
            ⟨fault, left, right⟩ | ⟨other, x, y, left, right, still⟩
          · rw [left, right]
            exact raised fault
          · rw [left, right]
            exact still.enter i (.starting other rest)

theorem pass (alike : a.Alike b) (i : WorkerId) :
    Option.Rel Alike (a.passStart? i) (b.passStart? i) := by
  obtain ⟨v, worlds, rfl⟩ := alike
  unfold passStart?
  rw [workers_moveTo]
  cases b.workers[i]? with
  | none => exact .some ⟨v, worlds, rfl⟩
  | some w =>
      dsimp only
      cases w.signal.pass? with
      | none => exact .none
      | some signal =>
          refine .some ?_
          exact ⟨v, worlds, rfl⟩

theorem part (alike : a.Alike b) (caller : Caller) (i : WorkerId) :
    Option.Rel Alike (a.part? caller i) (b.part? caller i) := by
  obtain ⟨v, worlds, rfl⟩ := alike
  have sameFinished : (b.moveTo v).hasFinished i = b.hasFinished i := rfl
  unfold part?
  rw [sameFinished]
  split
  · exact .some ⟨v, worlds, rfl⟩
  · split
    · exact .some ⟨v, worlds, rfl⟩
    · exact .none

theorem deliver (alike : a.Alike b) (run : Run) (receiver : Receiver) (outcome : Outcome) :
    (a.deliver run receiver outcome).Alike (b.deliver run receiver outcome) := by
  obtain ⟨v, worlds, rfl⟩ := alike
  unfold Supervisor.deliver
  cases Worker.delivery outcome with
  | ok exitValue => exact ⟨_, worlds.record (.completed receiver.id exitValue), rfl⟩
  | error fault =>
      have noted := worlds.note run.plan.journal (.failed run.plan.command.render fault)
      exact ⟨_, noted.record (.failed receiver.id fault), rfl⟩

theorem enterIf {x y : Option (Supervisor σ)} (both : Option.Rel Alike x y) (i : WorkerId)
    (phase : Phase) : Option.Rel Alike (x.map (·.enter i phase)) (y.map (·.enter i phase)) := by
  cases both with
  | none => exact .none
  | some still => exact .some (still.enter i phase)

/-- A worker takes the same step. -/
theorem stepWorker (alike : a.Alike b) (s : Surroundings σ) (i : WorkerId) :
    Option.Rel Alike (a.stepWorker? s i) (b.stepWorker? s i) := by
  have sameWorkers : a.workers = b.workers := by
    obtain ⟨v, worlds, rfl⟩ := alike
    rfl
  unfold stepWorker?
  rw [sameWorkers]
  cases b.workers[i]? with
  | none => exact .none
  | some w =>
      dsimp only
      cases w.phase with
      | executing =>
          dsimp only
          cases w.run.outcome? with
          | some outcome => exact .some (alike.enter i (.announcing outcome))
          | none =>
              obtain ⟨v, worlds, rfl⟩ := alike
              obtain ⟨sameRun, stepped⟩ := worlds.step s w.run
              simp only [world_moveTo, sameRun]
              split
              · exact .none
              · exact .some ⟨_, stepped, rfl⟩
      | announcing outcome =>
          obtain ⟨v, worlds, rfl⟩ := alike
          exact .some ⟨v, worlds, rfl⟩
      | holding outcome =>
          dsimp only
          split
          · exact .some (alike.enter i (.delivering outcome))
          · exact .none
      | delivering outcome =>
          have delivered := alike.deliver w.run w.receiver outcome
          exact .some (delivered.enter i (.reacting w.receiver.reactions))
      | reacting rest => exact .some (alike.react s i w rest)
      | joining others rest =>
          cases others with
          | nil =>
              obtain ⟨v, worlds, rfl⟩ := alike
              exact .some ⟨_, worlds.record (.waited w.receiver.id), rfl⟩
          | cons other others =>
              exact enterIf (alike.part (.worker i) other) i (.joining others rest)
      | starting other rest => exact enterIf (alike.pass other) i (.reacting rest)
      | finished => exact .none

/-- A move that may be impossible keeps supervisors alike. -/
theorem getD (alike : a.Alike b) {x y : Option (Supervisor σ)} (both : Option.Rel Alike x y) :
    (x.getD a).Alike (y.getD b) := by
  cases both with
  | none => exact alike
  | some still => exact still

/-- Moves do not look at the marks of watchdogs. -/
theorem move (alike : a.Alike b) (s : Surroundings σ) (m : Move σ) :
    (a.move s m).Alike (b.move s m) := by
  cases m with
  | worker i => exact alike.getD (alike.stepWorker s i)
  | pass i => exact alike.getD (alike.pass i)
  | submit caller command environment receiver =>
      simp only [Supervisor.move]
      rcases alike.submit s caller command environment receiver with
        ⟨fault, left, right⟩ | ⟨i, x, y, left, right, still⟩
      · rw [left, right]
        exact alike
      · rw [left, right]
        exact still
  | part caller i => exact alike.getD (alike.part caller i)
  | foreign r =>
      obtain ⟨v, worlds, rfl⟩ := alike
      exact ⟨_, (worlds.step s r).2, rfl⟩
  | disturb d =>
      obtain ⟨v, worlds, rfl⟩ := alike
      exact ⟨_, Disturbance.alike worlds s d, rfl⟩
  | useWatchdog dog =>
      obtain ⟨v, ⟨dogs, rfl, same⟩, rfl⟩ := alike
      have sameLength : dogs.length = b.world.watchdogs.length := by
        simpa using congrArg List.length same
      refine ⟨{ b.world with watchdogs := dogs ++ dog.toList }, ⟨_, rfl, ?_⟩, ?_⟩
      · simp only [Supervisor.move, useWatchdog, List.map_append, same]
      · simp only [Supervisor.move, useWatchdog, moveTo, sameLength]
  | useDestroyer d =>
      obtain ⟨v, ⟨dogs, rfl, same⟩, rfl⟩ := alike
      exact ⟨_, ⟨dogs, rfl, same⟩, rfl⟩
  | take | configure settings =>
      obtain ⟨v, worlds, rfl⟩ := alike
      exact ⟨v, worlds, rfl⟩

end Alike

end Supervisor

end Overseer
