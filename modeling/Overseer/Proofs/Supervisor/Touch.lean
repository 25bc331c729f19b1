import Overseer.Proofs.Execution.Debts
import Overseer.Proofs.Supervisor.Callback

/-!
# A caller and a worker in touch

Whoever waits for a mark of the start signal looks for it, falls asleep if it is not there,
and looks again when he is roused, which may also happen for no reason.  Whoever leaves a
mark rouses the sleepers afterwards, in a section of its own.

What a caller and a worker then know of each other is an invariant: nobody sleeps on while
there is a mark for him and nobody about to rouse him.
-/

namespace Overseer

/-- What somebody who uses a start signal is about to do. -/
inductive Poise
  /-- To go on, or to look for the mark. -/
  | awake
  /-- To sleep until somebody rouses him. -/
  | asleep
  /-- To rouse the other one, after leaving a mark. -/
  | rousing
  /-- Nothing any more. -/
  | gone
deriving DecidableEq

/-- What he is about to do when he is roused. -/
def Poise.roused : Poise → Poise
  | asleep => awake
  | poise => poise

/-- What a worker and its caller know of each other. -/
structure InTouch (caller worker : Poise) (w : Worker) : Prop where
  /-- The caller has left its mark exactly if it has gone on. -/
  observed_iff : w.signal.observed = true ↔ caller = .rousing ∨ caller = .gone
  /-- It was told before. -/
  notified : w.signal.observed = true → w.signal.notified = true
  /-- It is not told before the launch was tried. -/
  tried : w.signal.notified = true → w.run.stage ≠ .launching
  /-- An execution that has told has done so to the caller. -/
  announced : w.run.announced = true → w.signal.notified = true
  /-- If the caller was not told, the launch is still to come or the execution is over. -/
  untold : w.signal.notified = false → w.run.stage = .launching ∨ ∃ o, w.run.outcome? = some o
  /-- The worker leaves its execution when that is over. -/
  isOver : w.phase ≠ .executing → ∃ o, w.run.outcome? = some o
  /-- It waits for its caller only after telling it. -/
  told : ∀ o, w.phase = .holding o → w.signal.notified = true
  /-- It calls its receiver only after its caller has gone on. -/
  seen : ∀ o, w.phase = .delivering o → w.signal.observed = true
  /-- And so it does all that follows. -/
  seenLater : Supervisor.hasDelivered w.phase = true → w.signal.observed = true
  /-- A caller sleeps only as long as there is nothing to see, or somebody to rouse it. -/
  caller_asleep : caller = .asleep → w.signal.notified = false ∨ worker = .rousing
  /-- So does the worker, and only when it waits for its caller. -/
  worker_asleep : worker = .asleep →
    (∃ o, w.phase = .holding o) ∧ (w.signal.observed = false ∨ caller = .rousing)
  /-- Only the caller goes away. -/
  worker_stays : worker ≠ .gone

namespace InTouch

variable {caller worker : Poise} {w : Worker}

/-- The caller is told and goes on. -/
theorem pass (inTouch : InTouch .awake worker w) (told : w.signal.notified = true) :
    InTouch .rousing worker { w with signal := { w.signal with observed := true } } where
  observed_iff := by simp
  notified _ := told
  tried := inTouch.tried
  announced := inTouch.announced
  untold := inTouch.untold
  isOver := inTouch.isOver
  told := inTouch.told
  seen _ _ := rfl
  seenLater _ := rfl
  caller_asleep := nofun
  worker_asleep sleeps := ⟨(inTouch.worker_asleep sleeps).1, .inr rfl⟩
  worker_stays := inTouch.worker_stays

/-- The caller is not told and falls asleep. -/
theorem sleep (inTouch : InTouch .awake worker w) (untold : w.signal.notified = false) :
    InTouch .asleep worker w :=
  { inTouch with
    observed_iff := by
      have unseen := inTouch.observed_iff
      simp_all
    caller_asleep := fun _ => .inl untold
    worker_asleep := fun sleeps => by
      have unseen := inTouch.observed_iff
      simp_all [inTouch.worker_asleep sleeps] }

/-- The caller rouses the worker. -/
theorem leave (inTouch : InTouch .rousing worker w) : InTouch .gone worker.roused w :=
  { inTouch with
    observed_iff := by
      have seen := inTouch.observed_iff
      simp_all
    caller_asleep := nofun
    worker_asleep := fun sleeps => by cases worker <;> contradiction
    worker_stays := by
      have stays := inTouch.worker_stays
      cases worker <;> simp_all [Poise.roused] }

/-- The caller is roused. -/
theorem stirCaller (inTouch : InTouch caller worker w) : InTouch caller.roused worker w := by
  cases caller with
  | asleep =>
      exact
        { inTouch with
          observed_iff := by
            have unseen := inTouch.observed_iff
            simp_all [Poise.roused]
          caller_asleep := nofun
          worker_asleep := fun sleeps => by
            have unseen := inTouch.observed_iff
            simp_all [Poise.roused, inTouch.worker_asleep sleeps] }
  | _ => exact inTouch

/-- The worker is roused. -/
theorem stirWorker (inTouch : InTouch caller worker w) : InTouch caller worker.roused w := by
  cases worker with
  | asleep =>
      exact
        { inTouch with
          caller_asleep := fun sleeps => by
            have untold := inTouch.caller_asleep sleeps
            simp_all
          worker_asleep := nofun
          worker_stays := nofun }
  | _ => exact inTouch

/-- The worker rouses its caller. -/
theorem rouse (inTouch : InTouch caller .rousing w) : InTouch caller.roused .awake w :=
  { inTouch.stirCaller with
    caller_asleep := fun sleeps => by cases caller <;> contradiction
    worker_asleep := nofun
    worker_stays := nofun }

/-- The worker finds that its caller has not gone on, and falls asleep. -/
theorem doze (inTouch : InTouch caller .awake w) {outcome : Outcome}
    (holding : w.phase = .holding outcome) (unseen : w.signal.observed = false) :
    InTouch caller .asleep w :=
  { inTouch with
    caller_asleep := fun sleeps => by
      have untold := inTouch.caller_asleep sleeps
      simp_all
    worker_asleep := fun _ => ⟨⟨outcome, holding⟩, .inl unseen⟩
    worker_stays := nofun }

/-- The worker goes on to a phase for which there is nothing to know. -/
theorem enter (inTouch : InTouch caller .awake w) {phase : Phase}
    (isOver : ∃ o, w.run.outcome? = some o)
    (told : ∀ o, phase = .holding o → w.signal.notified = true)
    (seen : ∀ o, phase = .delivering o → w.signal.observed = true)
    (seenLater : Supervisor.hasDelivered phase = true → w.signal.observed = true) :
    InTouch caller .awake { w with phase } :=
  { inTouch with
    isOver := fun _ => isOver
    told := told
    seen := seen
    seenLater := seenLater
    worker_asleep := nofun }

/-- Whoever sleeps, the other one can rouse him or is about to. -/
theorem caller_awake (inTouch : InTouch caller .asleep w) :
    caller = .awake ∨ caller = .rousing := by
  obtain ⟨⟨o, holding⟩, unseen⟩ := inTouch.worker_asleep rfl
  have told := inTouch.told o holding
  have seen := inTouch.observed_iff
  cases caller with
  | awake => exact .inl rfl
  | rousing => exact .inr rfl
  | asleep =>
      have untold := inTouch.caller_asleep rfl
      simp_all
  | gone => simp_all

end InTouch

/-! ## Steps of the worker -/

namespace Supervisor

variable {σ : Type} {s : Surroundings σ} {sup next : Supervisor σ} {i : WorkerId} {w : Worker}

theorem passStart?_of_worker (found : sup.workers[i]? = some w) :
    sup.passStart? i =
      if w.signal.notified then
        some (sup.updateWorker i
          (fun v => { v with signal := { w.signal with observed := true } }))
      else none := by
  simp only [passStart?, found, StartSignal.pass?]
  split <;> rfl

/-- After the delivery a worker goes from one such phase to the next. -/
theorem Steps.enters_of_delivered (steps : Steps s sup i w next)
    (found : sup.workers[i]? = some w) (delivered : hasDelivered w.phase = true)
    (seen : w.signal.observed = true) :
    ∃ phase, hasDelivered phase = true ∧ next.workers[i]? = some { w with phase } := by
  obtain ⟨mid, phase, leaves, later, rfl⟩ := steps.exists_enter delivered
  obtain ⟨left, foundLeft, isLeft⟩ := leaves w found
  refine ⟨phase, later, ?_⟩
  rw [getElem?_enter, foundLeft]
  rcases isLeft with rfl | ⟨signal, passes, rfl⟩
  · rfl
  · obtain ⟨_, rfl⟩ := eq_of_pass passes
    rw [← seen]
    rfl

/-- Whether the next step of a worker tells its caller that the launch was tried. -/
def tells (s : Surroundings σ) (sup : Supervisor σ) (i : WorkerId) : Bool :=
  match sup.workers[i]? with
  | none => false
  | some w =>
      match w.phase with
      | .executing => Moment.announces s { run := w.run, world := sup.world }
      | .announcing _ => true
      | _ => false

theorem tells_of_executing (found : sup.workers[i]? = some w) (phase : w.phase = .executing) :
    sup.tells s i = Moment.announces s { run := w.run, world := sup.world } := by
  simp [tells, found, phase]

theorem tells_of_announcing {outcome : Outcome} (found : sup.workers[i]? = some w)
    (phase : w.phase = .announcing outcome) : sup.tells s i = true := by
  simp [tells, found, phase]

theorem tells_of_other (found : sup.workers[i]? = some w) (executed : w.phase ≠ .executing)
    (announced : ∀ o, w.phase ≠ .announcing o) : sup.tells s i = false := by
  cases phase : w.phase <;> simp_all [tells]

theorem stage_step_ne_launching (s : Surroundings σ) (r : Run) (v : World σ) :
    (r.step s v).1.stage ≠ .launching := by
  rw [Run.stage_step]
  by_cases launching : r.stage = .launching
  · simp only [launching, Moment.reply]
    cases (v.launch s r.plan.order).1 <;> simp [Reply.ofCall, Stage.after]
  · exact Stage.after_ne_launching launching

/-- A launch of which the caller is not told by this step has failed, and the execution is
over. -/
theorem outcome?_step_of_silent {r : Run} {v : World σ} (launching : r.stage = .launching)
    (silent : Moment.announces s { run := r, world := v } = false) :
    ∃ o, (r.step s v).1.outcome? = some o := by
  have stage := Run.stage_step s r v
  simp only [Moment.announces, Moment.reply, launching] at silent stage
  cases answer : (v.launch s r.plan.order).1 with
  | ok p => simp [answer, Reply.ofCall] at silent
  | error fault =>
      refine ⟨.fault fault, ?_⟩
      rw [answer] at stage
      simp [Run.outcome?, stage, Reply.ofCall, Stage.after]

/-- A step of the execution keeps caller and worker in touch: if it tells the caller, the
worker rouses him next. -/
theorem inTouch_advance {caller : Poise} (inTouch : InTouch caller .awake w)
    (found : sup.workers[i]? = some w) (phase : w.phase = .executing)
    (running : w.run.outcome? = none) :
    InTouch caller (if sup.tells s i then .rousing else .awake)
      { w with
        run := (w.run.step s sup.world).1
        signal := if (w.run.step s sup.world).1.announced then w.signal.notify else w.signal } := by
  have tells := tells_of_executing (s := s) found phase
  have announced : (w.run.step s sup.world).1.announced = (w.run.announced || sup.tells s i) := by
    rw [tells]
    exact congrArg (·.1.announced) (Moment.next_eq s { run := w.run, world := sup.world })
  have launched := stage_step_ne_launching s w.run sup.world
  cases told : (w.run.step s sup.world).1.announced with
  | true =>
      simp only [if_true]
      constructor
      case observed_iff => exact inTouch.observed_iff
      case notified => exact fun _ => rfl
      case tried => exact fun _ => launched
      case announced => exact fun _ => rfl
      case untold => nofun
      case isOver => exact fun executed => absurd phase executed
      case told => exact fun _ _ => rfl
      case seen => exact inTouch.seen
      case seenLater => exact inTouch.seenLater
      case caller_asleep =>
        intro sleeps
        cases tellsNow : sup.tells s i with
        | true => exact .inr rfl
        | false =>
            -- The caller was told by an earlier step, and would not be asleep.
            rw [told, tellsNow, Bool.or_false] at announced
            have toldBefore := inTouch.announced announced.symm
            have untold := inTouch.caller_asleep sleeps
            simp [toldBefore] at untold
      case worker_asleep => split <;> nofun
      case worker_stays => split <;> nofun
  | false =>
      have silent : w.run.announced = false ∧ sup.tells s i = false := by
        simpa [told] using announced.symm
      simp only [silent.2, Bool.false_eq_true, if_false]
      constructor
      case observed_iff => exact inTouch.observed_iff
      case notified => exact inTouch.notified
      case tried => exact fun _ => launched
      case announced => exact fun announces => by simp [told] at announces
      case untold =>
        intro untold
        right
        rcases inTouch.untold untold with launching | ⟨o, ended⟩
        · exact outcome?_step_of_silent launching (tells ▸ silent.2)
        · simp [running] at ended
      case isOver => exact fun executed => absurd phase executed
      case told => exact inTouch.told
      case seen => exact inTouch.seen
      case seenLater => exact inTouch.seenLater
      case caller_asleep => exact inTouch.caller_asleep
      case worker_asleep => nofun
      case worker_stays => nofun

/-- After the delivery there is nothing more to tell. -/
theorem Steps.inTouch_delivered {caller : Poise} (steps : Steps s sup i w next)
    (found : sup.workers[i]? = some w) (inTouch : InTouch caller .awake w)
    (delivered : hasDelivered w.phase = true) :
    sup.tells s i = false ∧
      ∃ w', next.workers[i]? = some w' ∧ InTouch caller .awake w' := by
  have seen := inTouch.seenLater delivered
  obtain ⟨phase, later, foundNext⟩ := steps.enters_of_delivered found delivered seen
  constructor
  · apply tells_of_other found
    · intro same
      rw [same] at delivered
      contradiction
    · intro o same
      rw [same] at delivered
      contradiction
  · refine ⟨_, foundNext, ?_⟩
    apply inTouch.enter
    · apply inTouch.isOver
      intro same
      rw [same] at delivered
      contradiction
    · intro o same
      rw [same] at later
      contradiction
    · intro o same
      rw [same] at later
      contradiction
    · exact fun _ => seen

/-- The worker tells its caller, and rouses him next. -/
theorem inTouch_announce {caller : Poise} {outcome : Outcome} (inTouch : InTouch caller .awake w)
    (phase : w.phase = .announcing outcome) :
    InTouch caller .rousing { w with signal := w.signal.notify, phase := .holding outcome } :=
  have isOver := inTouch.isOver (by rw [phase]; nofun)
  { inTouch with
    notified := fun _ => rfl
    tried := fun _ launching => by
      obtain ⟨o, ended⟩ := isOver
      have stage := Run.stage_of_outcome ended
      rw [launching] at stage
      contradiction
    announced := fun _ => rfl
    untold := nofun
    isOver := fun _ => isOver
    told := fun _ _ => rfl
    seen := nofun
    seenLater := nofun
    caller_asleep := fun _ => .inr rfl
    worker_asleep := nofun
    worker_stays := nofun }

/-- A step of the worker keeps it in touch with its caller. -/
theorem Steps.inTouch {caller : Poise} (steps : Steps s sup i w next)
    (found : sup.workers[i]? = some w) (inTouch : InTouch caller .awake w) :
    ∃ w', next.workers[i]? = some w' ∧
      InTouch caller (if sup.tells s i then .rousing else .awake) w' := by
  by_cases delivered : hasDelivered w.phase = true
  · obtain ⟨silent, still⟩ := steps.inTouch_delivered found inTouch delivered
    simpa [silent] using still
  cases steps with
  | advance phase running _ =>
      refine ⟨_, ?_, inTouch_advance inTouch found phase running⟩
      rw [getElem?_updateWorker, workers_moveTo, found]
      rfl
  | @conclude outcome phase ended =>
      refine ⟨{ w with phase := .announcing outcome }, by rw [getElem?_enter, found]; rfl, ?_⟩
      have tells : sup.tells s i = false := by
        simp [tells_of_executing found phase, Moment.announces, Run.stage_of_outcome ended]
      rw [tells]
      exact inTouch.enter ⟨outcome, ended⟩ (by simp) (by simp) (by simp [hasDelivered])
  | @announce outcome phase =>
      refine ⟨{ w with signal := w.signal.notify, phase := .holding outcome }, ?_, ?_⟩
      · rw [getElem?_updateWorker, found]
        rfl
      · rw [tells_of_announcing found phase]
        exact inTouch_announce inTouch phase
  | @observe outcome phase observed =>
      refine ⟨{ w with phase := .delivering outcome }, by rw [getElem?_enter, found]; rfl, ?_⟩
      rw [tells_of_other found (by simp [phase]) (by simp [phase])]
      have isOver := inTouch.isOver (by simp [phase])
      exact inTouch.enter isOver (by simp) (fun _ _ => observed) (by simp [hasDelivered])
  | @deliver outcome phase =>
      refine ⟨{ w with phase := .reacting w.receiver.reactions }, ?_, ?_⟩
      · rw [getElem?_enter, workers_deliver, found]
        rfl
      · rw [tells_of_other found (by simp [phase]) (by simp [phase])]
        have seen := inTouch.seen outcome phase
        exact inTouch.enter (inTouch.isOver (by simp [phase])) (by simp) (by simp) fun _ => seen
  | finish phase | raise phase | take phase | refuse phase _ | ask phase _ | part phase _
  | joined phase | pass phase _ =>
      rw [phase] at delivered
      exact absurd rfl delivered

end Supervisor

end Overseer
