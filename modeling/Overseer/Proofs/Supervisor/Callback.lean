import Overseer.Proofs.Supervisor.Step

/-!
# Callbacks

A worker calls its receiver in one of its steps.  The calls a worker makes in the
course of some moves are its callbacks; the same receiver may be called by other
workers as well, and their calls are not counted.
-/

namespace Overseer

/-- Whether an event is the call of a receiver with an outcome. -/
def Event.isCallback : Event → Bool
  | .completed _ _ | .failed _ _ => true
  | _ => false

/-! ## What a receiver is told -/

namespace Fault

/-- Whether a fault is an execution failure. -/
def isExecution : Fault → Bool
  | execution _ _ | causedExecution _ _ _ => true
  | _ => false

/-- The fault that caused an execution failure. -/
def cause? : Fault → Option Fault
  | causedExecution _ _ cause => some cause
  | _ => none

/-- What a receiver is told of a fault.  An execution failure is told as it is, and
any other fault as the cause of one; a fault of no known kind describes itself as an
unknown error. -/
structure Conveys (told fault : Fault) : Prop where
  /-- The receiver is told of an execution failure. -/
  isExecution_told : told.isExecution = true
  /-- An execution failure is told as it is. -/
  eq_of_isExecution : fault.isExecution = true → told = fault
  /-- Otherwise there is no exit value. -/
  exitValue_told : fault.isExecution = false → told.exitValue = noExitValue
  /-- Otherwise the fault is the cause. -/
  cause?_told : fault.isExecution = false → told.cause? = some fault
  /-- Otherwise the description names the fault. -/
  message_told : fault.isExecution = false →
    told.message = utf8 "Execution failed (" ++ fault.message ++ utf8 ")"

theorem conveys_forReceiver (fault : Fault) : fault.forReceiver.Conveys fault := by
  have opening : utf8 "Execution failed" ++ utf8 " (" = utf8 "Execution failed (" := rfl
  cases fault with
  | execution reason exitValue => exact ⟨rfl, fun _ => rfl, nofun, nofun, nofun⟩
  | causedExecution summary exitValue cause => exact ⟨rfl, fun _ => rfl, nofun, nofun, nofun⟩
  | _ =>
      refine ⟨rfl, nofun, fun _ => rfl, fun _ => rfl, fun _ => ?_⟩
      rw [forReceiver, message_executionFailed, opening]
      all_goals nofun

end Fault

/-- What a receiver is told of an outcome. -/
def report (receiver : ReceiverId) (outcome : Outcome) : Event :=
  match Worker.delivery outcome with
  | .ok exitValue => .completed receiver exitValue
  | .error fault => .failed receiver fault

/-- A call of a receiver tells an outcome: an exit value as it is, and a fault by what
conveys it. -/
structure Reports (receiver : ReceiverId) (outcome : Outcome) (event : Event) : Prop where
  /-- It tells an exit value exactly if that is the outcome. -/
  value_iff : ∀ exitValue, outcome = .value exitValue ↔ event = .completed receiver exitValue
  /-- It tells of a fault that was raised. -/
  failed_of_fault : ∀ fault, outcome = .fault fault →
    ∃ told, event = .failed receiver told ∧ told.Conveys fault
  /-- It tells of no other. -/
  fault_of_failed : ∀ told, event = .failed receiver told →
    ∃ fault, outcome = .fault fault ∧ told.Conveys fault

theorem reports_report (receiver : ReceiverId) (outcome : Outcome) :
    Reports receiver outcome (report receiver outcome) := by
  cases outcome with
  | value v =>
      constructor
      · intro exitValue
        simp [report, Worker.delivery]
      · intro fault wrong
        contradiction
      · intro told wrong
        contradiction
  | fault fault =>
      constructor
      · intro exitValue
        simp [report, Worker.delivery]
      · intro raised same
        cases same
        exact ⟨_, rfl, fault.conveys_forReceiver⟩
      · intro told same
        cases same
        exact ⟨fault, rfl, fault.conveys_forReceiver⟩

@[simp]
theorem isCallback_report (receiver : ReceiverId) (outcome : Outcome) :
    (report receiver outcome).isCallback = true := by
  cases outcome <;> rfl

/-! ## Who calls a receiver -/

/-- No call that an execution makes is the call of a receiver. -/
theorem Moment.isCallback_of_mem_calls {σ : Type} {m : Moment σ} {event : Event}
    (called : event ∈ m.calls) : event.isCallback = false := by
  have made := Moment.makes_of_mem_calls called
  cases event with
  | completed receiver exitValue | failed receiver fault => simp [Stage.makes] at made
  | _ => rfl

namespace Supervisor

variable {σ : Type}

/-- The calls of receivers that a worker makes in the course of moves. -/
def callbacks (s : Surroundings σ) (i : WorkerId) : Supervisor σ → List (Move σ) → List Event
  | _, [] => []
  | sup, m :: moves =>
      let next := sup.move s m
      let news := next.world.trace.drop sup.world.trace.length
      (if m.isStepOf i then news.filter Event.isCallback else []) ++ callbacks s i next moves

theorem callbacks_append (s : Surroundings σ) (i : WorkerId) (sup : Supervisor σ)
    (moves more : List (Move σ)) :
    callbacks s i sup (moves ++ more) =
      callbacks s i sup moves ++ callbacks s i (sup.play s moves) more := by
  induction moves generalizing sup with
  | nil => rfl
  | cons m moves inductionHypothesis =>
      simp only [List.cons_append, callbacks, inductionHypothesis, List.append_assoc]
      rfl

/-- A move that is not the worker's own makes none of its callbacks. -/
theorem callbacks_cons_of_foreign (s : Surroundings σ) {i : WorkerId} (sup : Supervisor σ)
    {m : Move σ} (foreign : m.isStepOf i = false) (moves : List (Move σ)) :
    callbacks s i sup (m :: moves) = callbacks s i (sup.move s m) moves := by
  simp [callbacks, foreign]

/-- A step of the worker makes the callbacks it adds to the trace. -/
theorem callbacks_cons_of_trace {s : Surroundings σ} {i : WorkerId} {sup : Supervisor σ}
    {news : List Event} (added : (sup.move s (.worker i)).world.trace = sup.world.trace ++ news)
    (moves : List (Move σ)) :
    callbacks s i sup (.worker i :: moves) =
      news.filter Event.isCallback ++ callbacks s i (sup.move s (.worker i)) moves := by
  simp [callbacks, Move.isStepOf, added]

theorem callbacks_cons_of_quiet {s : Surroundings σ} {i : WorkerId} {sup : Supervisor σ}
    (quiet : (sup.move s (.worker i)).world.trace = sup.world.trace) (moves : List (Move σ)) :
    callbacks s i sup (.worker i :: moves) = callbacks s i (sup.move s (.worker i)) moves := by
  simp [callbacks, Move.isStepOf, quiet]

/-! ## The steps of a worker -/

section

variable {s : Surroundings σ} {sup : Supervisor σ} {i : WorkerId} {w : Worker}

/-- A worker takes a step of its execution, unless the end of its process is still to be
waited for. -/
theorem move_of_executing (found : sup.workers[i]? = some w) (phase : w.phase = .executing)
    (running : w.run.outcome? = none) :
    sup.move s (.worker i) =
      if w.run.isBlocked && (w.run.step s sup.world).1.isBlocked then sup
      else
        updateWorker (sup.moveTo (w.run.step s sup.world).2) i (fun w' =>
          { w' with
            run := (w.run.step s sup.world).1
            signal :=
              if (w.run.step s sup.world).1.announced then w.signal.notify else w.signal }) := by
  simp only [move, stepWorker?, found, phase, running]
  split <;> rfl

theorem move_of_ended {outcome : Outcome} (found : sup.workers[i]? = some w)
    (phase : w.phase = .executing) (ended : w.run.outcome? = some outcome) :
    sup.move s (.worker i) = sup.enter i (.announcing outcome) := by
  simp [move, stepWorker?, found, phase, ended]

theorem move_of_announcing {outcome : Outcome} (found : sup.workers[i]? = some w)
    (phase : w.phase = .announcing outcome) :
    sup.move s (.worker i) =
      sup.updateWorker i (fun w =>
        { w with signal := w.signal.notify, phase := .holding outcome }) := by
  simp [move, stepWorker?, found, phase]

theorem move_of_holding {outcome : Outcome} (found : sup.workers[i]? = some w)
    (phase : w.phase = .holding outcome) :
    sup.move s (.worker i) =
      if w.signal.mayDeliver then sup.enter i (.delivering outcome) else sup := by
  simp only [move, stepWorker?, found, phase]
  split <;> rfl

theorem move_of_delivering {outcome : Outcome} (found : sup.workers[i]? = some w)
    (phase : w.phase = .delivering outcome) :
    sup.move s (.worker i) =
      (sup.deliver w.run w.receiver outcome).enter i (.reacting w.receiver.reactions) := by
  simp [move, stepWorker?, found, phase]

end

/-- A delivery is the call of a receiver and nothing else. -/
theorem trace_deliver (sup : Supervisor σ) (run : Run) (receiver : Receiver) (outcome : Outcome) :
    (sup.deliver run receiver outcome).world.trace =
      sup.world.trace ++ [report receiver.id outcome] := by
  unfold deliver report
  cases Worker.delivery outcome <;> rfl

theorem workers_deliver (sup : Supervisor σ) (run : Run) (receiver : Receiver)
    (outcome : Outcome) : (sup.deliver run receiver outcome).workers = sup.workers := by
  unfold deliver
  split <;> rfl

/-! ## After the delivery -/

/-- Whether a worker has called its receiver. -/
def hasDelivered : Phase → Bool
  | .reacting _ | .joining _ _ | .starting _ _ | .finished => true
  | .executing | .announcing _ | .holding _ | .delivering _ => false

/-- A worker has called its receiver. -/
def HasDelivered (sup : Supervisor σ) (i : WorkerId) : Prop :=
  ∃ w, sup.workers[i]? = some w ∧ hasDelivered w.phase = true

theorem world_move_pass (s : Surroundings σ) (sup : Supervisor σ) (i : WorkerId) :
    (sup.move s (.pass i)).world = sup.world := by
  cases passed : sup.passStart? i with
  | none => simp [move, passed]
  | some next => simpa [move, passed] using world_passStart passed

theorem trace_submit {s : Surroundings σ} {sup next : Supervisor σ} {caller : Caller}
    {command : CommandLine} {environment : Option Environment} {receiver : Option Receiver}
    {i : WorkerId} (asked : sup.submit s caller command environment receiver = .ok (i, next)) :
    next.world.trace = sup.world.trace := by
  obtain ⟨_, _, _, _, _, world⟩ := submit_eq_ok asked
  rw [world]
  split <;> rfl

/-- A worker goes on to a phase after the delivery. -/
theorem Leaves.hasDelivered {sup next : Supervisor σ} {i : WorkerId}
    (leaves : Leaves i sup next) (delivered : sup.HasDelivered i) {phase : Phase}
    (later : Supervisor.hasDelivered phase = true) : (next.enter i phase).HasDelivered i := by
  obtain ⟨w, found, _⟩ := delivered
  obtain ⟨left, leftFound, _⟩ := leaves w found
  refine ⟨{ left with phase }, ?_, later⟩
  rw [Supervisor.enter, getElem?_updateWorker, leftFound]
  rfl

/-- After the delivery a worker's step leads to such a phase again, and does no more to it
than others may do. -/
theorem Steps.exists_enter {s : Surroundings σ} {sup next : Supervisor σ} {i : WorkerId}
    {w : Worker} (steps : Steps s sup i w next)
    (delivered : Supervisor.hasDelivered w.phase = true) :
    ∃ mid phase, Leaves i sup mid ∧ Supervisor.hasDelivered phase = true ∧
      next = mid.enter i phase := by
  cases steps with
  | advance phase _ _ | conclude phase _ | announce phase | observe phase _ | deliver phase =>
      rw [phase] at delivered
      contradiction
  | finish _ => exact ⟨sup, _, .of_eq rfl, rfl, rfl⟩
  | take _ => exact ⟨sup.takeWorkers.2, _, .of_eq rfl, rfl, rfl⟩
  | raise _ | refuse _ _ | joined _ => exact ⟨sup.moveTo _, _, .moveTo sup _, rfl, rfl⟩
  | ask _ asked => exact ⟨_, _, .submit asked, rfl, rfl⟩
  | part _ parted => exact ⟨_, _, .part parted, rfl, rfl⟩
  | pass _ passed => exact ⟨_, _, .pass passed, rfl, rfl⟩

/-- It calls nobody, and records no more than that its receiver has waited. -/
theorem Steps.trace_of_delivered {s : Surroundings σ} {sup next : Supervisor σ} {i : WorkerId}
    {w : Worker} (steps : Steps s sup i w next)
    (delivered : Supervisor.hasDelivered w.phase = true) :
    ∃ news, next.world.trace = sup.world.trace ++ news ∧
      ∀ event ∈ news, event = .waited w.receiver.id := by
  have quiet : next.world.trace = sup.world.trace →
      ∃ news, next.world.trace = sup.world.trace ++ news ∧
        ∀ event ∈ news, event = .waited w.receiver.id := by
    intro same
    exact ⟨[], by simpa using same, nofun⟩
  cases steps with
  | advance phase _ _ | conclude phase _ | announce phase | observe phase _ | deliver phase =>
      rw [phase] at delivered
      contradiction
  | finish _ | raise _ | take _ | refuse _ _ => exact quiet rfl
  | joined _ => exact ⟨[.waited w.receiver.id], rfl, by simp⟩
  | ask _ asked =>
      apply quiet
      rw [world_enter]
      exact trace_submit asked
  | part _ parted =>
      apply quiet
      rw [world_enter, world_part parted]
  | pass _ passed =>
      apply quiet
      rw [world_enter, world_passStart passed]

/-- After the delivery a worker's step is no delivery either. -/
theorem HasDelivered.stepWorker {s : Surroundings σ} {sup next : Supervisor σ} {i : WorkerId}
    (delivered : sup.HasDelivered i) (stepped : sup.stepWorker? s i = some next) :
    next.HasDelivered i ∧ ∃ news, next.world.trace = sup.world.trace ++ news ∧
      news.filter Event.isCallback = [] := by
  obtain ⟨w, found, later⟩ := delivered
  have steps := (stepWorker?_eq_some_iff found).mp stepped
  obtain ⟨mid, phase, leaves, stays, rfl⟩ := steps.exists_enter later
  obtain ⟨news, trace, waited⟩ := steps.trace_of_delivered later
  refine ⟨leaves.hasDelivered ⟨w, found, later⟩ stays, news, trace, ?_⟩
  rw [List.filter_eq_nil_iff]
  intro event isNew
  rw [waited event isNew]
  nofun

/-- A worker that has called its receiver never calls it again. -/
theorem HasDelivered.callbacks_eq_nil {s : Surroundings σ} {sup : Supervisor σ} {i : WorkerId}
    (delivered : sup.HasDelivered i) (moves : List (Move σ)) : callbacks s i sup moves = [] := by
  induction moves generalizing sup with
  | nil => rfl
  | cons m moves inductionHypothesis =>
      cases own : m.isStepOf i with
      | false =>
          rw [callbacks_cons_of_foreign s sup own]
          apply inductionHypothesis
          obtain ⟨w, found, later⟩ := delivered
          obtain ⟨left, leftFound, isLeft⟩ := Leaves.move s sup own w found
          refine ⟨left, leftFound, ?_⟩
          rcases isLeft with rfl | ⟨signal, _, rfl⟩ <;> exact later
      | true =>
          obtain rfl := isStepOf_eq_true own
          cases stepped : sup.stepWorker? s i with
          | none =>
              have stays : sup.move s (.worker i) = sup := by simp [move, stepped]
              rw [callbacks_cons_of_quiet (by rw [stays]), stays]
              exact inductionHypothesis delivered
          | some next =>
              have goesOn : sup.move s (.worker i) = next := by simp [move, stepped]
              obtain ⟨still, news, trace, silent⟩ := delivered.stepWorker stepped
              rw [callbacks_cons_of_trace (goesOn ▸ trace), silent, goesOn]
              exact inductionHypothesis still

end Supervisor

end Overseer
