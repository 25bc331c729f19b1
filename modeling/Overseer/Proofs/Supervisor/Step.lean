import Overseer.Proofs.Supervisor.Move

/-!
# The steps of a worker

`Steps` lists what one step of a worker can do, one case for each kind of step, with what
has to hold for it.  Whatever a worker's step is to be shown to keep is shown case by case
from this list, without opening the step itself.

No move but a worker's own changes more of that worker than its signal.
-/

namespace Overseer

namespace Supervisor

variable {σ : Type}

/-- What the next step of a worker makes of a supervisor. -/
inductive Steps (s : Surroundings σ) (sup : Supervisor σ) (i : WorkerId) (w : Worker) :
    Supervisor σ → Prop
  /-- The execution takes a step. -/
  | advance (phase : w.phase = .executing) (running : w.run.outcome? = none)
      (answered : (w.run.isBlocked && (w.run.step s sup.world).1.isBlocked) = false) :
      Steps s sup i w
        (updateWorker (sup.moveTo (w.run.step s sup.world).2) i (fun w' =>
          { w' with
            run := (w.run.step s sup.world).1
            signal :=
              if (w.run.step s sup.world).1.announced then w.signal.notify else w.signal }))
  /-- The execution has ended. -/
  | conclude {outcome : Outcome} (phase : w.phase = .executing)
      (ended : w.run.outcome? = some outcome) :
      Steps s sup i w (sup.enter i (.announcing outcome))
  /-- The caller is told once more that the launch was tried. -/
  | announce {outcome : Outcome} (phase : w.phase = .announcing outcome) :
      Steps s sup i w
        (sup.updateWorker i (fun w =>
          { w with signal := w.signal.notify, phase := .holding outcome }))
  /-- The caller has gone on. -/
  | observe {outcome : Outcome} (phase : w.phase = .holding outcome)
      (observed : w.signal.observed = true) :
      Steps s sup i w (sup.enter i (.delivering outcome))
  /-- The receiver is called. -/
  | deliver {outcome : Outcome} (phase : w.phase = .delivering outcome) :
      Steps s sup i w
        ((sup.deliver w.run w.receiver outcome).enter i (.reacting w.receiver.reactions))
  /-- The receiver returns. -/
  | finish (phase : w.phase = .reacting []) : Steps s sup i w (sup.enter i .finished)
  /-- The receiver raises a fault. -/
  | raise {fault : Fault} {rest : List Reaction}
      (phase : w.phase = .reacting (.raise fault :: rest)) :
      Steps s sup i w (sup.receiverRaised i w.run fault)
  /-- The receiver begins to wait for the workers there are. -/
  | take {rest : List Reaction} (phase : w.phase = .reacting (.awaitWorkers :: rest)) :
      Steps s sup i w (sup.takeWorkers.2.enter i (.joining sup.listed rest))
  /-- The receiver is refused another execution. -/
  | refuse {command : CommandLine} {receiver : ReceiverId} {rest : List Reaction} {fault : Fault}
      (phase : w.phase = .reacting (.follow command receiver :: rest))
      (refused : sup.submit s (.worker i) command none (some { id := receiver }) = .error fault) :
      Steps s sup i w (sup.receiverRaised i w.run fault)
  /-- The receiver asks for another execution. -/
  | ask {command : CommandLine} {receiver : ReceiverId} {rest : List Reaction} {other : WorkerId}
      {next : Supervisor σ} (phase : w.phase = .reacting (.follow command receiver :: rest))
      (asked : sup.submit s (.worker i) command none (some { id := receiver }) =
        .ok (other, next)) :
      Steps s sup i w (next.enter i (.starting other rest))
  /-- One of the workers waited for is parted with. -/
  | part {other : WorkerId} {others : List WorkerId} {rest : List Reaction} {next : Supervisor σ}
      (phase : w.phase = .joining (other :: others) rest)
      (parted : sup.part? (.worker i) other = some next) :
      Steps s sup i w (next.enter i (.joining others rest))
  /-- All of them have been. -/
  | joined {rest : List Reaction} (phase : w.phase = .joining [] rest) :
      Steps s sup i w
        (enter { sup with world := sup.world.record (.waited w.receiver.id) } i (.reacting rest))
  /-- The execution that was asked for was started. -/
  | pass {other : WorkerId} {rest : List Reaction} {next : Supervisor σ}
      (phase : w.phase = .starting other rest) (passed : sup.passStart? other = some next) :
      Steps s sup i w (next.enter i (.reacting rest))

variable {s : Surroundings σ} {sup next : Supervisor σ} {i : WorkerId} {w : Worker}

theorem Steps.of_react {rest : List Reaction} (phase : w.phase = .reacting rest) :
    Steps s sup i w (sup.react s i w rest) := by
  cases rest with
  | nil => exact .finish phase
  | cons reaction rest =>
      cases reaction with
      | raise fault => exact .raise phase
      | awaitWorkers => exact .take phase
      | follow command receiver =>
          simp only [react]
          cases asked : sup.submit s (.worker i) command none (some { id := receiver }) with
          | error fault => exact .refuse phase asked
          | ok result => exact .ask phase asked

/-- A worker takes a step exactly if there is one for it to take. -/
theorem stepWorker?_eq_some_iff (found : sup.workers[i]? = some w) :
    sup.stepWorker? s i = some next ↔ Steps s sup i w next := by
  constructor
  · intro stepped
    simp only [stepWorker?, found] at stepped
    cases phase : w.phase with
    | executing =>
        simp only [phase] at stepped
        cases running : w.run.outcome? with
        | some outcome =>
            simp only [running, Option.some.injEq] at stepped
            exact stepped ▸ .conclude phase running
        | none =>
            simp only [running] at stepped
            split at stepped
            · contradiction
            · next answered =>
                cases stepped
                exact .advance phase running (by simpa using answered)
    | announcing outcome =>
        simp only [phase, Option.some.injEq] at stepped
        exact stepped ▸ .announce phase
    | holding outcome =>
        simp only [phase] at stepped
        split at stepped
        · next observed =>
            cases stepped
            exact .observe phase observed
        · contradiction
    | delivering outcome =>
        simp only [phase, Option.some.injEq] at stepped
        exact stepped ▸ .deliver phase
    | reacting rest =>
        simp only [phase, Option.some.injEq] at stepped
        exact stepped ▸ .of_react phase
    | joining others rest =>
        cases others with
        | nil =>
            simp only [phase, Option.some.injEq] at stepped
            exact stepped ▸ .joined phase
        | cons other others =>
            simp only [phase, Option.map_eq_some_iff] at stepped
            obtain ⟨mid, parted, rfl⟩ := stepped
            exact .part phase parted
    | starting other rest =>
        simp only [phase, Option.map_eq_some_iff] at stepped
        obtain ⟨mid, passed, rfl⟩ := stepped
        exact .pass phase passed
    | finished =>
        simp only [phase] at stepped
        contradiction
  · intro steps
    cases steps with
    | advance phase running answered => simp [stepWorker?, found, phase, running, answered]; rfl
    | conclude phase ended => simp [stepWorker?, found, phase, ended]
    | announce phase => simp [stepWorker?, found, phase]
    | observe phase observed => simp [stepWorker?, found, phase, StartSignal.mayDeliver, observed]
    | deliver phase => simp [stepWorker?, found, phase]
    | finish phase | raise phase => simp [stepWorker?, found, phase, react]
    | take phase => simp [stepWorker?, found, phase, react, takeWorkers]
    | refuse phase refused => simp [stepWorker?, found, phase, react, refused]
    | ask phase asked => simp [stepWorker?, found, phase, react, asked]
    | part phase parted => simp [stepWorker?, found, phase, parted]
    | joined phase => simp [stepWorker?, found, phase]
    | pass phase passed => simp [stepWorker?, found, phase, passed]

theorem steps_of_stepWorker (stepped : sup.stepWorker? s i = some next) :
    ∃ w, sup.workers[i]? = some w ∧ Steps s sup i w next := by
  cases found : sup.workers[i]? with
  | none => simp [stepWorker?, found] at stepped
  | some w => exact ⟨w, rfl, (stepWorker?_eq_some_iff found).mp stepped⟩

/-! ## What moves leave of a worker -/

variable {j : WorkerId} {w' : Worker}

/-- Going on leaves a mark and nothing else. -/
theorem eq_of_pass {signal passed : StartSignal} (goesOn : signal.pass? = some passed) :
    signal.notified = true ∧ passed = { signal with observed := true } := by
  unfold StartSignal.pass? at goesOn
  split at goesOn
  · next notified => exact ⟨notified, (Option.some.inj goesOn).symm⟩
  · contradiction

/-- A worker as others may leave it: as it was, or with the mark that its caller has
gone on. -/
def IsLeft (w left : Worker) : Prop :=
  left = w ∨ ∃ signal, w.signal.pass? = some signal ∧ left = { w with signal }

/-- A worker is found in a later state as others may leave it. -/
def Leaves (i : WorkerId) (sup next : Supervisor σ) : Prop :=
  ∀ w, sup.workers[i]? = some w → ∃ left, next.workers[i]? = some left ∧ IsLeft w left

theorem getElem?_updateWorker (sup : Supervisor σ) (i : WorkerId) (f : Worker → Worker) :
    (sup.updateWorker i f).workers[i]? = sup.workers[i]?.map f :=
  List.getElem?_modify_eq ..

theorem getElem?_enter_ne (sup : Supervisor σ) {i j : WorkerId} (other : j ≠ i) (phase : Phase) :
    (sup.enter j phase).workers[i]? = sup.workers[i]? :=
  List.getElem?_modify_ne _ _ other

theorem getElem?_enter (sup : Supervisor σ) (i : WorkerId) (phase : Phase) :
    (sup.enter i phase).workers[i]? = sup.workers[i]?.map (fun w => { w with phase }) :=
  getElem?_updateWorker sup i _

/-- Going on changes nothing but the signal of the worker, if there is one. -/
theorem eq_of_passStart (passed : sup.passStart? j = some next) :
    sup.workers[j]? = none ∧ next = sup ∨
      ∃ w signal, sup.workers[j]? = some w ∧ w.signal.pass? = some signal ∧
        next = sup.updateWorker j ({ · with signal }) := by
  unfold passStart? at passed
  cases found : sup.workers[j]? with
  | none =>
      rw [found] at passed
      exact .inl ⟨rfl, (Option.some.inj passed).symm⟩
  | some w =>
      simp only [found, Option.map_eq_some_iff] at passed
      obtain ⟨signal, goesOn, rfl⟩ := passed
      exact .inr ⟨w, signal, rfl, goesOn, rfl⟩

theorem getElem?_pass_of_ne (passed : sup.passStart? j = some next) (other : j ≠ i) :
    next.workers[i]? = sup.workers[i]? := by
  rcases eq_of_passStart passed with ⟨_, rfl⟩ | ⟨w, signal, _, _, rfl⟩
  · rfl
  · exact List.getElem?_modify_ne _ _ other

theorem world_passStart (passed : sup.passStart? j = some next) : next.world = sup.world := by
  rcases eq_of_passStart passed with ⟨_, rfl⟩ | ⟨w, signal, _, _, rfl⟩
  · rfl
  · rfl

theorem exists_of_part {caller : Caller} (parted : sup.part? caller j = some next) :
    ∃ partings, next = { sup with partings } := by
  unfold part? at parted
  split at parted
  · exact ⟨_, (Option.some.inj parted).symm⟩
  · split at parted
    · exact ⟨_, (Option.some.inj parted).symm⟩
    · contradiction

theorem workers_part {caller : Caller} (parted : sup.part? caller j = some next) :
    next.workers = sup.workers := by
  obtain ⟨_, rfl⟩ := exists_of_part parted
  rfl

theorem world_part {caller : Caller} (parted : sup.part? caller j = some next) :
    next.world = sup.world := by
  obtain ⟨_, rfl⟩ := exists_of_part parted
  rfl

theorem getElem?_submit {caller : Caller} {command : CommandLine}
    {environment : Option Environment} {receiver : Option Receiver}
    (asked : sup.submit s caller command environment receiver = .ok (j, next))
    (found : sup.workers[i]? = some w') : next.workers[i]? = some w' := by
  obtain ⟨_, _, given, _, workers, _⟩ := submit_eq_ok asked
  rw [workers, List.getElem?_append_left (List.getElem?_eq_some_iff.mp found).1]
  exact found

namespace Leaves

theorem of_eq (same : next.workers[i]? = sup.workers[i]?) : Leaves i sup next := by
  intro w found
  exact ⟨w, same.trans found, .inl rfl⟩

theorem moveTo (sup : Supervisor σ) (v : World σ) : Leaves i sup (sup.moveTo v) :=
  of_eq rfl

theorem enter (leaves : Leaves i sup next) (other : j ≠ i) (phase : Phase) :
    Leaves i sup (next.enter j phase) := by
  intro w found
  rw [getElem?_enter_ne next other]
  exact leaves w found

theorem submit {caller : Caller} {command : CommandLine}
    {environment : Option Environment} {receiver : Option Receiver} {k : WorkerId}
    (asked : sup.submit s caller command environment receiver = .ok (k, next)) :
    Leaves i sup next := by
  intro w found
  exact ⟨w, getElem?_submit asked found, .inl rfl⟩

theorem pass (passed : sup.passStart? j = some next) : Leaves i sup next := by
  by_cases here : j = i
  · subst here
    intro w found
    rcases eq_of_passStart passed with ⟨missing, _⟩ | ⟨known, signal, foundHere, goesOn, rfl⟩
    · simp [missing] at found
    · obtain rfl : known = w := Option.some.inj (foundHere.symm.trans found)
      refine ⟨{ known with signal }, ?_, .inr ⟨signal, goesOn, rfl⟩⟩
      rw [getElem?_updateWorker, found]
      rfl
  · exact of_eq (getElem?_pass_of_ne passed here)

theorem part {caller : Caller} (parted : sup.part? caller j = some next) :
    Leaves i sup next :=
  of_eq (congrArg (·[i]?) (workers_part parted))

theorem deliver (sup : Supervisor σ) (run : Run) (receiver : Receiver) (outcome : Outcome) :
    Leaves i sup (sup.deliver run receiver outcome) := by
  unfold Supervisor.deliver
  split <;> exact of_eq rfl

/-- A step of another worker. -/
theorem steps (steps : Steps s sup j w next) (other : j ≠ i) : Leaves i sup next := by
  cases steps with
  | advance _ _ _ | announce _ => exact of_eq (List.getElem?_modify_ne _ _ other)
  | conclude _ _ | observe _ _ | finish _ | raise _ | take _ | refuse _ _ | joined _ =>
      exact of_eq (getElem?_enter_ne _ other _)
  | deliver _ => exact (deliver sup w.run w.receiver _).enter other _
  | ask _ asked => exact (submit asked).enter other _
  | part _ parted => exact (part parted).enter other _
  | pass _ passed => exact (pass passed).enter other _

theorem stepWorker (other : j ≠ i) (stepped : sup.stepWorker? s j = some next) :
    Leaves i sup next := by
  obtain ⟨w, _, taken⟩ := steps_of_stepWorker stepped
  exact steps taken other

theorem getD {possible : Option (Supervisor σ)}
    (leaves : ∀ next, possible = some next → Leaves i sup next) :
    Leaves i sup (possible.getD sup) := by
  cases possible with
  | none => exact of_eq rfl
  | some next => exact leaves next rfl

/-- A move that is not a worker's own leaves the worker but for its signal. -/
theorem move (s : Surroundings σ) (sup : Supervisor σ) {m : Move σ}
    (foreign : m.isStepOf i = false) : Leaves i sup (sup.move s m) := by
  cases m with
  | worker j =>
      refine getD fun next stepped => stepWorker ?_ stepped
      rintro rfl
      simp [Move.isStepOf] at foreign
  | pass j => exact getD fun next passed => pass passed
  | submit caller command environment receiver =>
      simp only [Supervisor.move]
      cases asked : sup.submit s caller command environment receiver with
      | error fault => exact of_eq rfl
      | ok result => exact submit asked
  | part caller j => exact getD fun next parted => part parted
  | _ => exact of_eq rfl

end Leaves

end Supervisor

end Overseer
