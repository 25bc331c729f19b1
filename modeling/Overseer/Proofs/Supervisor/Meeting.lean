import Overseer.Proofs.Supervisor.Touch
import Overseer.Script.Rehearsal

/-!
# How a caller and a worker meet

A meeting is a caller and the worker of his background execution with what each of them is
about to do; all others may do anything meanwhile.  The caller may be anybody: somebody
from outside, or the receiver of another worker.

The launch is tried, the caller goes on, and the receiver is called, in this order, and
caller and worker never keep each other waiting.
-/

namespace Overseer

/-- Whether a worker waits for another one to try its launch. -/
def Phase.awaitsStartOf (i : WorkerId) : Phase → Bool
  | .starting other _ => other == i
  | _ => false

/-- Whether a worker waits until its caller has gone on. -/
def Phase.isHolding : Phase → Bool
  | .holding _ => true
  | _ => false

/-- Whether a worker waits, on behalf of its receiver, for other workers. -/
def Phase.waitsForOthers : Phase → Bool
  | .joining (_ :: _) _ | .starting _ _ => true
  | _ => false

/-- How far a worker and its caller have come with each other: the launch was tried, the
caller has gone on, the receiver was called. -/
def Worker.milestone (w : Worker) : Nat :=
  if Supervisor.hasDelivered w.phase then 3
  else if w.signal.observed then 2
  else if w.run.stage = .launching then 0
  else 1

namespace Supervisor

variable {σ : Type}

/-- Whether a worker waits until its caller has gone on. -/
def holdsBack (sup : Supervisor σ) (i : WorkerId) : Bool :=
  (sup.workers[i]?).any (·.phase.isHolding)

/-- Whether a worker waits for its process and the process has not ended. -/
def waitsInVain (s : Surroundings σ) (sup : Supervisor σ) (i : WorkerId) : Bool :=
  match sup.workers[i]? with
  | none => false
  | some w =>
      decide (w.phase = .executing) && w.run.isBlocked && (w.run.step s sup.world).1.isBlocked

/-- Whether a worker waits, on behalf of its receiver, for other workers. -/
def waitsForOthers (sup : Supervisor σ) (i : WorkerId) : Bool :=
  (sup.workers[i]?).any (·.phase.waitsForOthers)

/-- Whether a move is a worker's own or looks at its start signal. -/
def concerns (sup : Supervisor σ) (i : WorkerId) : Move σ → Bool
  | .worker j => j == i || (sup.workers[j]?).any (·.phase.awaitsStartOf i)
  | .pass j => j == i
  | _ => false

/-- The caller of a background execution goes on once the launch was tried. -/
def goOn? (s : Surroundings σ) (sup : Supervisor σ) (i : WorkerId) : Caller → Option (Supervisor σ)
  | .outside _ => sup.passStart? i
  | .worker k => sup.stepWorker? s k

/-- Somebody has asked for a background execution, and has yet to wait for its start. -/
inductive Begins (s : Surroundings σ) : Caller → WorkerId → Supervisor σ → Prop
  | outside {sup next : Supervisor σ} {n : Nat} {command : CommandLine}
      {environment : Option Environment} {receiver : Option Receiver} {i : WorkerId}
      (asked : sup.submit s (.outside n) command environment receiver = .ok (i, next)) :
      Begins s (.outside n) i next
  | worker {sup next : Supervisor σ} {k : WorkerId} {w : Worker} {command : CommandLine}
      {receiver : ReceiverId} {rest : List Reaction} {i : WorkerId}
      (found : sup.workers[k]? = some w)
      (phase : w.phase = .reacting (.follow command receiver :: rest))
      (asked : sup.submit s (.worker k) command none (some { id := receiver }) = .ok (i, next)) :
      Begins s (.worker k) i (next.enter k (.starting i rest))

end Supervisor

/-- A supervisor with a caller and the worker he waits for. -/
structure Meeting (σ : Type) where
  /-- The supervisor with all its workers. -/
  sup : Supervisor σ
  /-- What the caller is about to do. -/
  caller : Poise := .awake
  /-- What the worker is about to do. -/
  worker : Poise := .awake

namespace Meeting

variable {σ : Type}

/-- The next section of the caller, or `none` while he sleeps or when he has gone. -/
def callerStep? (s : Surroundings σ) (who : Caller) (i : WorkerId) (c : Meeting σ) :
    Option (Meeting σ) :=
  match c.caller with
  | .awake =>
      match c.sup.goOn? s i who with
      | some sup => some { c with sup, caller := .rousing }
      | none => some { c with caller := .asleep }
  | .rousing => some { c with caller := .gone, worker := c.worker.roused }
  | .asleep | .gone => none

/-- The next section of the worker, or `none` while it sleeps or has to wait for something
else than its caller. -/
def workerStep? (s : Surroundings σ) (i : WorkerId) (c : Meeting σ) : Option (Meeting σ) :=
  match c.worker with
  | .awake =>
      match c.sup.stepWorker? s i with
      | some sup => some { c with sup, worker := if c.sup.tells s i then .rousing else .awake }
      | none => if c.sup.holdsBack i then some { c with worker := .asleep } else none
  | .rousing => some { c with worker := .awake, caller := c.caller.roused }
  | .asleep | .gone => none

/-- What happens next. -/
inductive Act (σ : Type)
  /-- The caller does his next section, if there is one. -/
  | caller
  /-- The worker does its next section, if there is one. -/
  | worker
  /-- The caller is roused for no reason. -/
  | stirCaller
  /-- The worker is roused for no reason. -/
  | stirWorker
  /-- Somebody else makes a move. -/
  | elsewhere (m : Supervisor.Move σ)

/-- A meeting after an act. -/
def act (s : Surroundings σ) (who : Caller) (i : WorkerId) (c : Meeting σ) : Act σ → Meeting σ
  | .caller => (c.callerStep? s who i).getD c
  | .worker => (c.workerStep? s i).getD c
  | .stirCaller => { c with caller := c.caller.roused }
  | .stirWorker => { c with worker := c.worker.roused }
  | .elsewhere m => if c.sup.concerns i m then c else { c with sup := c.sup.move s m }

/-- A meeting after one act after the other. -/
def play (s : Surroundings σ) (who : Caller) (i : WorkerId) (c : Meeting σ) (acts : List (Act σ)) :
    Meeting σ :=
  acts.foldl (act s who i) c

/-- What a caller and his worker have to do in a certain order. -/
inductive Mark
  /-- The worker has tried its launch, with success or without. -/
  | tried (index : Nat)
  /-- The caller has gone on. -/
  | passed
  /-- The worker has called its receiver. -/
  | called (event : Event)
deriving DecidableEq

/-- The mark of a call that a worker makes. -/
def Mark.ofEvent? : Event → Option Mark
  | .launch index => some (.tried index)
  | event => if event.isCallback then some (.called event) else none

/-- The marks of a meeting from its beginning to its end, in their order. -/
def Mark.inOrder (index : Nat) (event : Event) : List Mark :=
  [.tried index, .passed, .called event]

/-- The marks of an act. -/
def marksOf (s : Surroundings σ) (who : Caller) (i : WorkerId) (c : Meeting σ) : Act σ → List Mark
  | .caller =>
      if c.caller = .awake ∧ (c.sup.goOn? s i who).isSome then [.passed] else []
  | .worker =>
      ((c.act s who i .worker).sup.world.trace.drop c.sup.world.trace.length).filterMap
        Mark.ofEvent?
  | .stirCaller | .stirWorker | .elsewhere _ => []

/-- The marks of one act after the other. -/
def marks (s : Surroundings σ) (who : Caller) (i : WorkerId) : Meeting σ → List (Act σ) → List Mark
  | _, [] => []
  | c, a :: acts => c.marksOf s who i a ++ marks s who i (c.act s who i a) acts

end Meeting

/-! ## What others leave alone -/

namespace Supervisor

variable {σ : Type} {s : Surroundings σ} {sup next : Supervisor σ} {i j : WorkerId} {w w' : Worker}

/-- A step of another worker that does not look at a worker's signal leaves the worker
alone. -/
theorem Steps.getElem?_of_ne (steps : Steps s sup j w next) (other : j ≠ i)
    (aside : w.phase.awaitsStartOf i = false) (found : sup.workers[i]? = some w') :
    next.workers[i]? = some w' := by
  cases steps with
  | advance _ _ _ | announce _ => exact (List.getElem?_modify_ne _ _ other).trans found
  | conclude _ _ | observe _ _ | finish _ | raise _ | take _ | refuse _ _ | joined _ =>
      exact (getElem?_enter_ne _ other _).trans found
  | deliver _ =>
      rw [getElem?_enter_ne _ other, workers_deliver]
      exact found
  | ask _ asked =>
      rw [getElem?_enter_ne _ other]
      exact getElem?_submit asked found
  | part _ parted =>
      rw [getElem?_enter_ne _ other, workers_part parted]
      exact found
  | pass phase passed =>
      rw [getElem?_enter_ne _ other, getElem?_pass_of_ne passed]
      · exact found
      · simpa [Phase.awaitsStartOf, phase] using aside

theorem getElem?_move_of_aside {m : Move σ} (aside : sup.concerns i m = false)
    (found : sup.workers[i]? = some w') : (sup.move s m).workers[i]? = some w' := by
  cases m with
  | worker j =>
      simp only [concerns, Bool.or_eq_false_iff, beq_eq_false_iff_ne] at aside
      simp only [move]
      cases stepped : sup.stepWorker? s j with
      | none => exact found
      | some next =>
          obtain ⟨w, here, steps⟩ := steps_of_stepWorker stepped
          exact steps.getElem?_of_ne aside.1 (by simpa [here] using aside.2) found
  | pass j =>
      simp only [move]
      cases passed : sup.passStart? j with
      | none => exact found
      | some next =>
          have other : j ≠ i := by simpa [concerns] using aside
          exact (getElem?_pass_of_ne passed other).trans found
  | submit caller command environment receiver =>
      simp only [move]
      cases asked : sup.submit s caller command environment receiver with
      | error fault => exact found
      | ok result => exact getElem?_submit asked found
  | part caller j =>
      simp only [move]
      cases parted : sup.part? caller j with
      | none => exact found
      | some next =>
          rw [Option.getD_some, workers_part parted]
          exact found
  | _ => exact found

/-- A worker that waits for the start of another one goes on doing so while others move. -/
theorem awaitsStart_move {m : Move σ} (aside : sup.concerns i m = false)
    (found : sup.workers[j]? = some w) (awaits : w.phase.awaitsStartOf i = true) :
    ∃ w', (sup.move s m).workers[j]? = some w' ∧ w'.phase = w.phase := by
  have foreign : m.isStepOf j = false := by
    cases m with
    | worker k =>
        cases own : (Move.worker k : Move σ).isStepOf j with
        | false => rfl
        | true =>
            have same : k = j := by simpa [Move.isStepOf] using own
            simp [concerns, same, found, awaits] at aside
    | _ => rfl
  obtain ⟨left, foundLeft, isLeft⟩ := Leaves.move s sup foreign w found
  refine ⟨left, foundLeft, ?_⟩
  rcases isLeft with rfl | ⟨signal, _, rfl⟩ <;> rfl

end Supervisor

/-! ## Milestones -/

/-- The marks between one milestone and the next. -/
inductive Passage : Nat → Nat → List Meeting.Mark → Prop
  | stays (n : Nat) : Passage n n []
  | tries (index : Nat) : Passage 0 1 [.tried index]
  | passes : Passage 1 2 [.passed]
  | calls (event : Event) : Passage 2 3 [.called event]

namespace Passage

variable {first second : Nat} {marks : List Meeting.Mark}

theorem le (passage : Passage first second marks) : first ≤ second := by
  cases passage with
  | stays _ => exact Nat.le_refl _
  | tries _ | passes | calls _ => exact Nat.le_succ _

/-- A passage goes before all that leads on from where it ends. -/
theorem join {last : Nat} (passage : Passage first second marks) (further : second ≤ last)
    (index : Nat) (event : Event) :
    ∃ index' event',
      marks ++ ((Meeting.Mark.inOrder index event).take last).drop second =
        ((Meeting.Mark.inOrder index' event').take last).drop first := by
  obtain ⟨more, rfl⟩ := Nat.exists_eq_add_of_le further
  cases passage with
  | stays n => exact ⟨index, event, rfl⟩
  | tries index' =>
      refine ⟨index', event, ?_⟩
      rw [Nat.add_comm]
      rfl
  | passes =>
      refine ⟨index, event, ?_⟩
      rw [Nat.add_comm]
      rfl
  | calls event' =>
      refine ⟨index, event', ?_⟩
      rw [Nat.add_comm]
      cases more <;> rfl

end Passage

namespace Moment

variable {σ : Type} {m : Moment σ}

theorem notMem_launch_calls (launched : m.run.stage ≠ .launching) (index : Nat) :
    .launch index ∉ m.calls := by
  intro called
  have made := makes_of_mem_calls called
  cases atStage : m.run.stage with
  | launching => exact launched atStage
  | _ => simp [Stage.makes, atStage] at made

/-- Only a launch is a mark among the calls of an execution. -/
theorem filterMap_ofEvent_calls :
    m.calls.filterMap Meeting.Mark.ofEvent? =
      if m.run.stage = .launching then [.tried m.world.launches.length] else [] := by
  split
  · next launching => simp [calls, launching, Meeting.Mark.ofEvent?]
  · next launched =>
      rw [List.filterMap_eq_nil_iff]
      intro event called
      have notLaunch := notMem_launch_calls (m := m) launched
      have notCallback := isCallback_of_mem_calls called
      cases event with
      | launch index => exact absurd called (notLaunch index)
      | completed receiver exitValue | failed receiver fault => contradiction
      | _ => rfl

end Moment

namespace Supervisor

variable {σ : Type} {s : Surroundings σ} {sup next : Supervisor σ} {i : WorkerId} {w w' : Worker}

theorem milestone_of_delivered (delivered : hasDelivered w.phase = true) : w.milestone = 3 := by
  simp [Worker.milestone, delivered]

theorem milestone_of_pending (pending : hasDelivered w.phase = false) :
    w.milestone = if w.signal.observed then 2 else if w.run.stage = .launching then 0 else 1 := by
  simp [Worker.milestone, pending]

/-- A step of the execution leads to the first milestone if it is the launch. -/
theorem passage_of_launched (pending : hasDelivered w.phase = false)
    (pendingNext : hasDelivered w'.phase = false)
    (observed : w'.signal.observed = w.signal.observed) (launched : w'.run.stage ≠ .launching)
    (tried : w.signal.observed = true → w.run.stage ≠ .launching) (index : Nat) :
    Passage w.milestone w'.milestone
      (if w.run.stage = .launching then [.tried index] else []) := by
  rw [milestone_of_pending pending, milestone_of_pending pendingNext, observed]
  by_cases launching : w.run.stage = .launching
  · have unseen : w.signal.observed = false := by
      cases seen : w.signal.observed with
      | false => rfl
      | true => exact absurd launching (tried seen)
    simp only [unseen, launching, launched, if_true, if_false, Bool.false_eq_true]
    exact .tries index
  · simp only [launching, launched, if_false]
    exact .stays _

/-- A step of the worker leads to the next milestone or to none. -/
theorem Steps.passage {caller : Poise} (steps : Steps s sup i w next)
    (found : sup.workers[i]? = some w) (inTouch : InTouch caller .awake w)
    (foundNext : next.workers[i]? = some w') :
    ∃ news, next.world.trace = sup.world.trace ++ news ∧
      Passage w.milestone w'.milestone (news.filterMap Meeting.Mark.ofEvent?) := by
  by_cases delivered : hasDelivered w.phase = true
  · have seen := inTouch.seenLater delivered
    obtain ⟨phase, later, same⟩ := steps.enters_of_delivered found delivered seen
    obtain ⟨news, trace, waited⟩ := steps.trace_of_delivered delivered
    have silent : news.filterMap Meeting.Mark.ofEvent? = [] := by
      rw [List.filterMap_eq_nil_iff]
      intro event isNew
      rw [waited event isNew]
      rfl
    obtain rfl := Option.some.inj (same.symm.trans foundNext)
    refine ⟨news, trace, ?_⟩
    rw [milestone_of_delivered delivered, milestone_of_delivered later, silent]
    exact .stays 3
  · have pending : hasDelivered w.phase = false := by simpa using delivered
    cases steps with
    | advance phase running _ =>
        refine ⟨_, Moment.trace_next s { run := w.run, world := sup.world }, ?_⟩
        rw [getElem?_updateWorker, workers_moveTo, found] at foundNext
        obtain rfl := Option.some.inj foundNext
        rw [Moment.filterMap_ofEvent_calls]
        apply passage_of_launched pending
        · exact pending
        · dsimp only
          split <;> rfl
        · exact stage_step_ne_launching s w.run sup.world
        · exact fun seen => inTouch.tried (inTouch.notified seen)
    | conclude phase _ | observe phase _ =>
        refine ⟨[], (List.append_nil _).symm, ?_⟩
        rw [getElem?_enter, found] at foundNext
        obtain rfl := Option.some.inj foundNext
        rw [milestone_of_pending pending]
        exact .stays _
    | announce phase =>
        refine ⟨[], (List.append_nil _).symm, ?_⟩
        rw [getElem?_updateWorker, found] at foundNext
        obtain rfl := Option.some.inj foundNext
        rw [milestone_of_pending pending]
        exact .stays _
    | @deliver outcome phase =>
        refine ⟨_, trace_deliver sup w.run w.receiver outcome, ?_⟩
        rw [getElem?_enter, workers_deliver, found] at foundNext
        obtain rfl := Option.some.inj foundNext
        have called : [report w.receiver.id outcome].filterMap Meeting.Mark.ofEvent? =
            [.called (report w.receiver.id outcome)] := by
          cases outcome <;> rfl
        rw [milestone_of_pending pending, inTouch.seen outcome phase, called]
        exact .calls _
    | finish phase | raise phase | take phase | refuse phase _ | ask phase _ | part phase _
    | joined phase | pass phase _ =>
        rw [phase] at pending
        contradiction

end Supervisor

namespace Meeting

variable {σ : Type} {s : Surroundings σ} {who : Caller} {i : WorkerId} {c : Meeting σ} {w : Worker}

/-! ## Acts -/

/-- What every act keeps to: caller and worker are in touch, and a caller who is a worker
himself waits for this start and for nothing else. -/
structure IsProper (who : Caller) (i : WorkerId) (c : Meeting σ) (w : Worker) : Prop where
  found : c.sup.workers[i]? = some w
  inTouch : InTouch c.caller c.worker w
  awaits : ∀ k, who = .worker k → c.caller = .awake ∨ c.caller = .asleep →
    k ≠ i ∧ ∃ v, c.sup.workers[k]? = some v ∧ v.phase.awaitsStartOf i = true

namespace IsProper

theorem exists_starting (proper : IsProper who i c w) {k : WorkerId} (worker : who = .worker k)
    (waits : c.caller = .awake ∨ c.caller = .asleep) :
    k ≠ i ∧ ∃ v rest, c.sup.workers[k]? = some v ∧ v.phase = .starting i rest := by
  obtain ⟨other, v, found, awaits⟩ := proper.awaits k worker waits
  refine ⟨other, v, ?_⟩
  cases phase : v.phase with
  | starting j rest =>
      obtain rfl : j = i := by simpa [phase, Phase.awaitsStartOf] using awaits
      exact ⟨rest, found, rfl⟩
  | _ => simp [phase, Phase.awaitsStartOf] at awaits

/-- A caller who was not told does not go on. -/
theorem goOn?_of_untold (proper : IsProper who i c w) (awake : c.caller = .awake)
    (untold : w.signal.notified = false) : c.sup.goOn? s i who = none := by
  have stays : c.sup.passStart? i = none := by
    rw [Supervisor.passStart?_of_worker proper.found]
    simp [untold]
  cases caller : who with
  | outside n => exact stays
  | worker k =>
      obtain ⟨_, v, rest, found, phase⟩ := proper.exists_starting caller (.inl awake)
      simp [Supervisor.goOn?, Supervisor.stepWorker?, found, phase, stays]

/-- A caller who was told goes on and leaves his mark. -/
theorem exists_goOn? (proper : IsProper who i c w) (awake : c.caller = .awake)
    (told : w.signal.notified = true) :
    ∃ next, c.sup.goOn? s i who = some next ∧
      next.workers[i]? = some { w with signal := { w.signal with observed := true } } := by
  have passes := Supervisor.passStart?_of_worker proper.found
  rw [told, if_pos rfl] at passes
  have marked : (c.sup.updateWorker i (fun v =>
      { v with signal := { w.signal with observed := true } })).workers[i]? =
      some { w with signal := { w.signal with observed := true } } := by
    rw [Supervisor.getElem?_updateWorker, proper.found]
    rfl
  cases caller : who with
  | outside n => exact ⟨_, passes, marked⟩
  | worker k =>
      obtain ⟨other, v, rest, found, phase⟩ := proper.exists_starting caller (.inl awake)
      refine ⟨_, (Supervisor.stepWorker?_eq_some_iff found).mpr (.pass phase passes), ?_⟩
      rw [Supervisor.getElem?_enter_ne _ other]
      exact marked

end IsProper

/-- An act keeps a meeting proper and leads to the next milestone or to none. -/
def Keeps (who : Caller) (i : WorkerId) (w : Worker) (next : Meeting σ) (marks : List Mark) :
    Prop :=
  ∃ w', IsProper who i next w' ∧ Passage w.milestone w'.milestone marks

namespace IsProper

/-- Nobody's turn changes the supervisor or leaves a mark. -/
theorem keeps_of_inTouch (proper : IsProper who i c w) {caller worker : Poise}
    (inTouch : InTouch caller worker w)
    (waits : caller = .awake ∨ caller = .asleep → c.caller = .awake ∨ c.caller = .asleep) :
    Keeps who i w { c with caller, worker } [] := by
  refine ⟨w, ?_, .stays _⟩
  constructor
  · exact proper.found
  · exact inTouch
  · intro k same still
    exact proper.awaits k same (waits still)

theorem keeps_caller (proper : IsProper who i c w) :
    Keeps who i w (c.act s who i .caller) (c.marksOf s who i .caller) := by
  have inTouch := proper.inTouch
  cases poise : c.caller with
  | awake =>
      rw [poise] at inTouch
      cases told : w.signal.notified with
      | false =>
          have stays := proper.goOn?_of_untold (s := s) poise told
          simp only [act, callerStep?, marksOf, poise, stays, Option.getD_some]
          exact proper.keeps_of_inTouch (inTouch.sleep told) fun _ => .inl poise
      | true =>
          obtain ⟨next, goesOn, found⟩ := proper.exists_goOn? (s := s) poise told
          simp only [act, callerStep?, marksOf, poise, goesOn, Option.getD_some]
          refine ⟨_, ⟨found, inTouch.pass told, nofun⟩, ?_⟩
          have unseen : w.signal.observed = false := by
            have seen := inTouch.observed_iff
            simpa using seen
          have pending : Supervisor.hasDelivered w.phase = false := by
            cases delivered : Supervisor.hasDelivered w.phase with
            | false => rfl
            | true => simp [inTouch.seenLater delivered] at unseen
          have before : w.milestone = 1 := by
            simp [Worker.milestone, pending, unseen, inTouch.tried told]
          have after : Worker.milestone
              { w with signal := { w.signal with observed := true } } = 2 := by
            simp [Worker.milestone, pending]
          rw [before, after]
          exact .passes
  | rousing =>
      rw [poise] at inTouch
      simp only [act, callerStep?, marksOf, poise, Option.getD_some]
      exact proper.keeps_of_inTouch inTouch.leave nofun
  | asleep | gone =>
      simp only [act, callerStep?, marksOf, poise, Option.getD_none]
      exact ⟨w, proper, .stays _⟩

theorem keeps_worker (proper : IsProper who i c w) :
    Keeps who i w (c.act s who i .worker) (c.marksOf s who i .worker) := by
  have inTouch := proper.inTouch
  have silent : ∀ next, c.act s who i .worker = next → next.sup = c.sup →
      c.marksOf s who i .worker = [] := by
    rintro next rfl same
    simp [marksOf, same]
  cases poise : c.worker with
  | awake =>
      rw [poise] at inTouch
      cases stepped : c.sup.stepWorker? s i with
      | some next =>
          obtain ⟨v, here, steps⟩ := Supervisor.steps_of_stepWorker stepped
          obtain rfl : v = w := Option.some.inj (here.symm.trans proper.found)
          obtain ⟨w', foundNext, inTouchNext⟩ := steps.inTouch here inTouch
          obtain ⟨news, trace, passage⟩ := steps.passage here inTouch foundNext
          simp only [act, workerStep?, marksOf, poise, stepped, Option.getD_some]
          rw [trace, List.drop_left]
          refine ⟨w', ⟨foundNext, inTouchNext, ?_⟩, passage⟩
          intro k same waits
          obtain ⟨other, v, foundOther, awaits⟩ := proper.awaits k same waits
          obtain ⟨left, foundLeft, isLeft⟩ :=
            Supervisor.Leaves.stepWorker other.symm stepped v foundOther
          refine ⟨other, left, foundLeft, ?_⟩
          rcases isLeft with rfl | ⟨signal, _, rfl⟩
          · exact awaits
          · exact awaits
      | none =>
          cases held : c.sup.holdsBack i with
          | true =>
              have after : c.act s who i .worker = { c with worker := .asleep } := by
                simp [act, workerStep?, poise, stepped, held]
              obtain ⟨outcome, holding, unseen⟩ : ∃ o, w.phase = .holding o ∧
                  w.signal.observed = false := by
                cases phase : w.phase with
                | holding o =>
                    refine ⟨o, rfl, ?_⟩
                    cases seen : w.signal.observed with
                    | false => rfl
                    | true =>
                        simp [Supervisor.stepWorker?, proper.found, phase, StartSignal.mayDeliver,
                          seen] at stepped
                | _ => simp [Supervisor.holdsBack, proper.found, phase, Phase.isHolding] at held
              rw [silent _ after rfl, after]
              exact proper.keeps_of_inTouch (inTouch.doze holding unseen) id
          | false =>
              have after : c.act s who i .worker = c := by
                simp [act, workerStep?, poise, stepped, held]
              rw [silent _ after rfl, after]
              exact ⟨w, proper, .stays _⟩
  | rousing =>
      rw [poise] at inTouch
      have after : c.act s who i .worker =
          { c with worker := .awake, caller := c.caller.roused } := by
        simp [act, workerStep?, poise]
      rw [silent _ after rfl, after]
      apply proper.keeps_of_inTouch inTouch.rouse
      cases c.caller <;> simp [Poise.roused]
  | asleep | gone =>
      have after : c.act s who i .worker = c := by simp [act, workerStep?, poise]
      rw [silent _ after rfl, after]
      exact ⟨w, proper, .stays _⟩

theorem keeps_elsewhere (proper : IsProper who i c w) (m : Supervisor.Move σ) :
    Keeps who i w (c.act s who i (.elsewhere m)) [] := by
  refine ⟨w, ?_, .stays _⟩
  cases aside : c.sup.concerns i m with
  | true =>
      simp only [act, aside, if_true]
      exact proper
  | false =>
      simp only [act, aside, Bool.false_eq_true, if_false]
      constructor
      · exact Supervisor.getElem?_move_of_aside aside proper.found
      · exact proper.inTouch
      · intro k same waits
        obtain ⟨other, v, found, awaits⟩ := proper.awaits k same waits
        obtain ⟨v', foundNext, still⟩ := Supervisor.awaitsStart_move (s := s) aside found awaits
        exact ⟨other, v', foundNext, still ▸ awaits⟩

theorem keeps (proper : IsProper who i c w) (a : Act σ) :
    Keeps who i w (c.act s who i a) (c.marksOf s who i a) := by
  cases a with
  | caller => exact proper.keeps_caller
  | worker => exact proper.keeps_worker
  | stirCaller =>
      apply proper.keeps_of_inTouch proper.inTouch.stirCaller
      cases c.caller <;> simp [Poise.roused]
  | stirWorker => exact proper.keeps_of_inTouch proper.inTouch.stirWorker id
  | elsewhere m => exact proper.keeps_elsewhere m

/-- The marks of a run lead from one milestone to another, in their order. -/
theorem exists_play (proper : IsProper who i c w) (acts : List (Act σ)) :
    ∃ w', IsProper who i (c.play s who i acts) w' ∧ w.milestone ≤ w'.milestone ∧
      ∃ index event, marks s who i c acts =
        ((Mark.inOrder index event).take w'.milestone).drop w.milestone := by
  induction acts generalizing c w with
  | nil =>
      refine ⟨w, proper, Nat.le_refl _, 0, .waited { index := 0 }, ?_⟩
      rw [List.drop_eq_nil_of_le (List.length_take_le ..)]
      rfl
  | cons a acts inductionHypothesis =>
      obtain ⟨mid, properMid, passage⟩ := proper.keeps (s := s) a
      obtain ⟨w', properNext, further, index, event, later⟩ := inductionHypothesis properMid
      refine ⟨w', properNext, Nat.le_trans passage.le further, ?_⟩
      simp only [marks, later]
      exact passage.join further index event

end IsProper

/-! ## The beginning -/

theorem inTouch_of_fresh (plan : Plan) (receiver : Receiver) :
    InTouch .awake .awake { run := { plan }, receiver } where
  observed_iff := by simp
  notified := nofun
  tried := nofun
  announced := nofun
  untold _ := .inl rfl
  isOver := nofun
  told := nofun
  seen := nofun
  seenLater := nofun
  caller_asleep := nofun
  worker_asleep := nofun
  worker_stays := nofun

theorem milestone_of_fresh (plan : Plan) (receiver : Receiver) :
    Worker.milestone { run := { plan }, receiver } = 0 := by
  simp [Worker.milestone, Supervisor.hasDelivered]

theorem exists_fresh_of_submit {sup next : Supervisor σ} {caller : Caller}
    {command : CommandLine} {environment : Option Environment} {receiver : Option Receiver}
    (asked : sup.submit s caller command environment receiver = .ok (i, next)) :
    ∃ plan given, next.workers[i]? = some { run := { plan }, receiver := given } := by
  obtain ⟨_, rfl, given, _, workers, _⟩ := Supervisor.submit_eq_ok asked
  refine ⟨sup.settings.plan command environment, given, ?_⟩
  rw [workers]
  exact List.getElem?_concat_length

theorem exists_of_begins {start : Supervisor σ} (begins : Supervisor.Begins s who i start) :
    ∃ w, IsProper who i { sup := start } w ∧ w.milestone = 0 := by
  cases begins with
  | outside asked =>
      obtain ⟨plan, given, fresh⟩ := exists_fresh_of_submit asked
      exact ⟨_, ⟨fresh, inTouch_of_fresh plan given, nofun⟩, milestone_of_fresh plan given⟩
  | @worker sup next k v command receiver rest i found phase asked =>
      obtain ⟨plan, given, fresh⟩ := exists_fresh_of_submit asked
      have other : k ≠ i := by
        obtain ⟨_, rfl, _⟩ := Supervisor.submit_eq_ok asked
        exact Nat.ne_of_lt (List.getElem?_eq_some_iff.mp found).1
      refine ⟨_, ⟨?_, inTouch_of_fresh plan given, ?_⟩, milestone_of_fresh plan given⟩
      · rw [Supervisor.getElem?_enter_ne _ other]
        exact fresh
      · rintro _ ⟨⟩ _
        refine ⟨other, { v with phase := .starting i rest }, ?_, ?_⟩
        · rw [Supervisor.getElem?_enter, Supervisor.getElem?_submit asked found]
          rfl
        · simp [Phase.awaitsStartOf]

/-! ## Progress -/

/-- What keeps a worker from taking a step. -/
theorem isSome_stepWorker?_or (found : c.sup.workers[i]? = some w) :
    (c.sup.stepWorker? s i).isSome = true ∨ c.sup.waitsInVain s i = true ∨
      (∃ o, w.phase = .holding o ∧ w.signal.observed = false) ∨
      c.sup.waitsForOthers i = true ∨ c.sup.hasFinished i = true := by
  cases phase : w.phase with
  | executing =>
      cases running : w.run.outcome? with
      | some outcome =>
          left
          simp [Supervisor.stepWorker?, found, phase, running]
      | none =>
          cases vain : w.run.isBlocked && (w.run.step s c.sup.world).1.isBlocked with
          | true =>
              right; left
              simpa [Supervisor.waitsInVain, found, phase] using vain
          | false =>
              left
              simp [Supervisor.stepWorker?, found, phase, running, vain]
  | holding outcome =>
      cases seen : w.signal.observed with
      | true =>
          left
          simp [Supervisor.stepWorker?, found, phase, StartSignal.mayDeliver, seen]
      | false => exact .inr (.inr (.inl ⟨outcome, rfl, rfl⟩))
  | joining others rest =>
      cases others with
      | nil =>
          left
          simp [Supervisor.stepWorker?, found, phase]
      | cons other others =>
          right; right; right; left
          simp [Supervisor.waitsForOthers, found, phase, Phase.waitsForOthers]
  | starting other rest =>
      right; right; right; left
      simp [Supervisor.waitsForOthers, found, phase, Phase.waitsForOthers]
  | finished =>
      right; right; right; right
      simp [Supervisor.hasFinished, found, phase]
  | _ =>
      left
      simp [Supervisor.stepWorker?, found, phase]

/-- A worker whose caller was not told and who is not about to rouse him takes a step. -/
theorem IsProper.isSome_stepWorker?_of_untold (proper : IsProper who i c w)
    (untold : w.signal.notified = false) : (c.sup.stepWorker? s i).isSome = true := by
  have unseen : w.signal.observed = false := by
    cases seen : w.signal.observed with
    | false => rfl
    | true => simp [proper.inTouch.notified seen] at untold
  cases phase : w.phase with
  | executing =>
      cases running : w.run.outcome? with
      | some outcome => simp [Supervisor.stepWorker?, proper.found, phase, running]
      | none =>
          have launching : w.run.stage = .launching := by
            rcases proper.inTouch.untold untold with launching | ⟨o, ended⟩
            · exact launching
            · simp [running] at ended
          have free : w.run.isBlocked = false := by simp [Run.isBlocked, launching]
          simp [Supervisor.stepWorker?, proper.found, phase, running, free]
  | announcing outcome => simp [Supervisor.stepWorker?, proper.found, phase]
  | holding outcome => simp [proper.inTouch.told outcome phase] at untold
  | delivering outcome => simp [proper.inTouch.seen outcome phase] at unseen
  | reacting rest | joining others rest | starting other rest | finished =>
      simp [proper.inTouch.seenLater (by rw [phase]; rfl)] at unseen

theorem IsProper.progress (proper : IsProper who i c w) :
    (c.callerStep? s who i).isSome = true ∨ (c.workerStep? s i).isSome = true ∨
      c.caller = .gone ∧ (c.sup.waitsInVain s i = true ∨ c.sup.waitsForOthers i = true ∨
        c.sup.hasFinished i = true) := by
  have inTouch := proper.inTouch
  cases caller : c.caller with
  | awake =>
      left
      cases goesOn : c.sup.goOn? s i who <;> simp [callerStep?, caller, goesOn]
  | rousing =>
      left
      simp [callerStep?, caller]
  | asleep =>
      right; left
      cases worker : c.worker with
      | awake =>
          have untold := inTouch.caller_asleep caller
          simp only [worker, reduceCtorEq, or_false] at untold
          obtain ⟨next, stepped⟩ :=
            Option.isSome_iff_exists.mp (proper.isSome_stepWorker?_of_untold (s := s) untold)
          simp [workerStep?, worker, stepped]
      | rousing => simp [workerStep?, worker]
      | asleep =>
          rw [worker] at inTouch
          rcases inTouch.caller_awake with awake | rousing
          · simp [caller] at awake
          · simp [caller] at rousing
      | gone => exact absurd worker inTouch.worker_stays
  | gone =>
      cases worker : c.worker with
      | awake =>
          rcases isSome_stepWorker?_or (s := s) proper.found with
            stepped | vain | ⟨o, _, unseen⟩ | others | finished
          · right; left
            obtain ⟨next, stepped⟩ := Option.isSome_iff_exists.mp stepped
            simp [workerStep?, worker, stepped]
          · exact .inr (.inr ⟨rfl, .inl vain⟩)
          · have seen := inTouch.observed_iff.mpr (.inr caller)
            simp [unseen] at seen
          · exact .inr (.inr ⟨rfl, .inr (.inl others)⟩)
          · exact .inr (.inr ⟨rfl, .inr (.inr finished)⟩)
      | rousing =>
          right; left
          simp [workerStep?, worker]
      | asleep =>
          rw [worker] at inTouch
          rcases inTouch.caller_awake with awake | rousing
          · simp [caller] at awake
          · simp [caller] at rousing
      | gone => exact absurd worker inTouch.worker_stays

/-- A background execution and its caller meet in order, and never keep each other waiting.

Whatever happens, the launch is tried first, then the caller goes on, and then the receiver
is called, each of them at most once; when the worker has finished, all three have come
about.  Caller and worker are never both asleep.  As long as the caller has not gone, one of
the two can go on; afterwards the worker can, unless it has finished, or its process has not
ended, or its receiver waits for other workers. -/
theorem start_signal_protocol {start : Supervisor σ} (begins : Supervisor.Begins s who i start)
    (acts : List (Act σ)) :
    let c := play s who i { sup := start } acts
    (∃ index event, marks s who i { sup := start } acts <+: Mark.inOrder index event) ∧
    (c.sup.hasFinished i = true →
      ∃ index event, marks s who i { sup := start } acts = Mark.inOrder index event) ∧
    ¬(c.caller = .asleep ∧ c.worker = .asleep) ∧
    ((c.callerStep? s who i).isSome = true ∨ (c.workerStep? s i).isSome = true ∨
      c.caller = .gone ∧ (c.sup.waitsInVain s i = true ∨ c.sup.waitsForOthers i = true ∨
        c.sup.hasFinished i = true)) := by
  intro c
  obtain ⟨fresh, properStart, beginning⟩ := exists_of_begins begins
  obtain ⟨w, proper, _, index, event, inOrder⟩ := properStart.exists_play acts
  rw [beginning, List.drop_zero] at inOrder
  refine ⟨⟨index, event, ?_⟩, ?_, ?_, proper.progress⟩
  · rw [inOrder]
    exact List.take_prefix ..
  · intro finished
    have isOver : w.milestone = 3 := by
      apply Supervisor.milestone_of_delivered
      have phase : w.phase = .finished := by
        simpa [c, Supervisor.hasFinished, proper.found] using finished
      rw [phase]
      rfl
    refine ⟨index, event, ?_⟩
    rw [inOrder, isOver]
    rfl
  · rintro ⟨callerSleeps, workerSleeps⟩
    have inTouch := proper.inTouch
    rw [workerSleeps] at inTouch
    rcases inTouch.caller_awake with awake | rousing
    · exact absurd (callerSleeps.symm.trans awake) nofun
    · exact absurd (callerSleeps.symm.trans rousing) nofun

open Script in
/-- A supervisor whose first launch raises what is of no known kind. -/
def grounded : Supervisor Cast where
  world := Cast.world { queue := [{ launchFault := some .alien }] }
  settings :=
    { handler := 0, watchdog := some 0, destroyer := some 0, journal := 0, directory := [] }

open Script in
/-- There the caller falls asleep, is told of the failed launch and roused, and lets the
worker go on, which has fallen asleep itself. -/
theorem start_signal_protocol_grounded :
    let receiver : Receiver := { id := { index := 0 } }
    let meet : List (Act Cast) := .caller :: List.replicate 5 .worker
    let turns := meet ++ [.caller, .caller, .worker, .worker, .worker]
    ∃ begun, grounded.submit Cast.rehearsal (.outside 0) rehearsed none (some receiver) =
        .ok (0, begun) ∧
      (play Cast.rehearsal (.outside 0) 0 { sup := begun } meet).worker = .asleep ∧
      ∃ index event,
        marks Cast.rehearsal (.outside 0) 0 { sup := begun } turns = Mark.inOrder index event := by
  intro receiver meet turns
  have asked : grounded.submit Cast.rehearsal (.outside 0) rehearsed none (some receiver) =
      .ok (0, _) := rfl
  refine ⟨_, asked, by decide, ?_⟩
  apply (start_signal_protocol (.outside asked) turns).2.1
  decide

end Meeting

end Overseer
