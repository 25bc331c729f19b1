import Overseer.Proofs.Execution.Course
import Overseer.Script.Rehearsal

/-!
# The outcome of an execution

Three kinds of faults can decide how an execution ends.  A fault on the way to
the end of the process makes it give up, and nothing that goes wrong while it
gives up matters.  Once the process has ended, the first fault of the cleanup
comes before the fault its watchdog holds, and that before the exit value.

The stages after the process was given up carry the outcome with them, and the
stages of the cleanup carry its first fault, so each result is an induction over
the worlds an execution finds.
-/

namespace Overseer

/-- Whether a stage lies on the way to the end of the process. -/
def Stage.isForward : Stage → Bool
  | .launching | .opening _ | .attaching _ _ | .starting _ | .enlisting _ | .watching _
  | .waiting _ _ _ | .killing _ => true
  | _ => false

namespace Moment

variable {σ : Type}

/-- The fault of a step on the way to the end of the process.  A wait that is
interrupted has not failed: it is taken up again. -/
def setback? (s : Surroundings σ) (m : Moment σ) : Option Fault :=
  match m.run.stage, m.reply s with
  | .waiting _ _ _, .raised .interrupted => none
  | stage, reply => if stage.isForward then reply.fault? else none

/-- The exit value that a wait came to. -/
def exit? (s : Surroundings σ) (m : Moment σ) : Option Int :=
  match m.run.stage, m.reply s with
  | .waiting _ _ _, .exited exitValue => some exitValue
  | _, _ => none

/-- The fault of a step that stops the session or closes a stream after the
process has ended. -/
def cleanupFault? (s : Surroundings σ) (m : Moment σ) : Option Fault :=
  match m.run.stage with
  | .stopping _ _ | .closing _ _ _ _ => (m.reply s).fault?
  | _ => none

/-- Whether the step judges the outcome. -/
def isJudging (m : Moment σ) : Bool :=
  match m.run.stage with
  | .judging _ _ _ => true
  | _ => false

end Moment

namespace World

variable {σ : Type} {w : World σ} {watchdog : Option WatchdogId} {fault : Fault}

theorem watchdogFault_eq_some_iff : w.watchdogFault watchdog = some fault ↔
    ∃ i dog, watchdog = some i ∧ w.watchdogs[i]? = some dog ∧ dog.fault = some fault := by
  simp [watchdogFault, Option.bind_eq_some_iff]

theorem watchdogFault_eq_none_iff : w.watchdogFault watchdog = none ↔
    ∀ i dog, watchdog = some i → w.watchdogs[i]? = some dog → dog.fault = none := by
  simp only [watchdogFault, Option.bind_eq_none_iff]
  constructor
  · exact fun nothing i dog configured => nothing i configured dog
  · exact fun nothing i configured dog => nothing i dog configured

end World

/-- Whether a notice tells of a fault that gave way to an earlier one. -/
def Notice.isDropped : Notice → Bool
  | .dropped _ => true
  | _ => false

namespace Moment

variable {σ : Type}

/-- The notice that the fault of a cleanup step gives way to an earlier one, if the
journal writes warnings. -/
def complaint? (s : Surroundings σ) (m : Moment σ) : Option Notice :=
  if m.world.hears m.run.plan.journal .warning then (m.cleanupFault? s).map .dropped else none

end Moment

/-- Whether only standard faults are raised in a course. -/
def Run.IsStandard {σ : Type} (s : Surroundings σ) (r : Run) (worlds : List (World σ)) : Prop :=
  ∀ m ∈ r.moments s worlds, (m.reply s).isStandard = true

instance {σ : Type} (s : Surroundings σ) (r : Run) (worlds : List (World σ)) :
    Decidable (r.IsStandard s worlds) :=
  inferInstanceAs (Decidable (∀ m ∈ r.moments s worlds, (m.reply s).isStandard = true))

namespace Run

variable {σ : Type}

/-- The faults of the cleanup, in order. -/
def cleanupFaults (s : Surroundings σ) (r : Run) (worlds : List (World σ)) : List Fault :=
  (r.moments s worlds).filterMap (·.cleanupFault? s)

/-- The moments of the cleanup at which a fault was raised, in order. -/
def failedCleanups (s : Surroundings σ) (r : Run) (worlds : List (World σ)) : List (Moment σ) :=
  (r.moments s worlds).filter (fun m => (m.cleanupFault? s).isSome)

/-- The notices of dropped faults that were written, in order. -/
def droppedNotices (s : Surroundings σ) (r : Run) (worlds : List (World σ)) : List Notice :=
  (r.moments s worlds).flatMap (fun m => (m.notices s).filter Notice.isDropped)

end Run

theorem Run.IsStandard.head {σ : Type} {s : Surroundings σ} {r : Run} {w : World σ}
    {worlds : List (World σ)} (standard : r.IsStandard s (w :: worlds)) :
    (Moment.reply s { run := r, world := w }).isStandard = true :=
  standard _ List.mem_cons_self

theorem Run.IsStandard.tail {σ : Type} {s : Surroundings σ} {r : Run} {w : World σ}
    {worlds : List (World σ)} (standard : r.IsStandard s (w :: worlds)) :
    (r.step s w).1.IsStandard s worlds :=
  fun m found => standard m (List.mem_cons_of_mem _ found)

/-! ## Giving up -/

namespace Stage

/-- The outcome that a stage carries with it. -/
def settled? : Stage → Option Outcome
  | .abandoning _ fault | .unwatching _ fault | .halting _ fault => some (.fault fault)
  | .leaving _ outcome | .delisting _ outcome | .releasing _ outcome | .ended outcome =>
      some outcome
  | _ => none

/-- How many steps are left at most, from the end of the process or from giving
it up. -/
def remaining : Stage → Nat
  | .ending _ _ => 9
  | .stopping _ _ => 8
  | .closing _ _ _ .output => 7
  | .closing _ _ _ .input | .abandoning _ _ => 6
  | .closing _ _ _ .error | .unwatching _ _ => 5
  | .judging _ _ _ | .halting _ _ => 4
  | .leaving _ _ => 3
  | .delisting _ _ => 2
  | .releasing _ _ => 1
  | _ => 0

variable {plan : Plan} {convention : Int → Bool} {stage : Stage} {reply : Reply}

/-- A settled outcome stays, and the end comes nearer. -/
theorem settled?_after (plan : Plan) (convention : Int → Bool) {outcome : Outcome}
    (standard : reply.isStandard = true)
    (settled : stage.settled? = some outcome) :
    (stage.after plan convention reply).settled? = some outcome ∧
      (stage.after plan convention reply).remaining = stage.remaining - 1 := by
  cases stage with
  | abandoning c fault | halting c fault =>
      cases reply with
      | raised later =>
          simp only [Reply.isStandard] at standard
          simpa [after, Reply.orLeave, standard, settled?, remaining] using settled
      | _ => simpa [after, Reply.orLeave, settled?, remaining] using settled
  | unwatching c fault | leaving c outcome | delisting c outcome | releasing p outcome
  | ended outcome => simpa [after, settled?, remaining] using settled
  | _ => simp [settled?] at settled

/-- A call on the way to the end of the process that raises nothing keeps the
execution on that way. -/
theorem isForward_after (forward : stage.isForward = true) (quiet : reply.fault? = none)
    (notWaiting : ∀ c interrupted entered, stage ≠ .waiting c interrupted entered) :
    (stage.after plan convention reply).isForward = true := by
  cases stage with
  | launching | opening p =>
      cases reply with
      | raised fault => simp [Reply.fault?] at quiet
      | _ => rfl
  | attaching c stream =>
      cases reply with
      | raised fault => simp [Reply.fault?] at quiet
      | _ => cases stream <;> rfl
  | starting c | killing c =>
      cases reply with
      | raised fault => simp [Reply.fault?] at quiet
      | _ => rfl
  | enlisting c =>
      cases reply with
      | raised fault => simp [Reply.fault?] at quiet
      | _ =>
          cases destroyer : plan.destroyer <;>
            simp [after, Reply.orAbandon, destroyer, isForward]
  | watching c =>
      cases reply with
      | raised fault => simp [Reply.fault?] at quiet
      | _ => cases watchdog : plan.watchdog <;> simp [after, Reply.orAbandon, watchdog, isForward]
  | waiting c interrupted entered => exact absurd rfl (notWaiting c interrupted entered)
  | _ => simp [isForward] at forward

/-- No step leads back onto the way to the end of the process. -/
theorem not_isForward_after (past : stage.isForward = false) :
    (stage.after plan convention reply).isForward = false := by
  cases stage with
  | abandoning c fault | halting c fault | stopping c exitValue =>
      cases reply with
      | raised later => cases standard : later.isStandard <;>
          simp [after, Reply.orLeave, standard, isForward]
      | _ => rfl
  | closing c exitValue first stream =>
      cases reply with
      | raised later => cases standard : later.isStandard <;> cases stream <;>
          simp [after, Reply.orLeave, Run.afterClosing, standard, isForward]
      | _ => cases stream <;> rfl
  | judging c exitValue first => cases reply <;> rfl
  | unwatching c fault | ending c exitValue | leaving c outcome | delisting c outcome
  | releasing p outcome | ended outcome => rfl
  | _ => simp [isForward] at past

end Stage

namespace Run

variable {σ : Type} {s : Surroundings σ} {worlds : List (World σ)}

/-- An execution with a settled outcome ends with it. -/
theorem outcome?_of_settled {r : Run} {outcome : Outcome}
    (settled : r.stage.settled? = some outcome) (enough : r.stage.remaining ≤ worlds.length)
    (standard : r.IsStandard s worlds) : (r.follow s worlds).outcome? = some outcome := by
  induction worlds generalizing r with
  | nil =>
      rcases r with ⟨plan, stage, announced⟩
      cases stage <;> simp_all [Stage.settled?, Stage.remaining, follow, outcome?]
  | cons w worlds inductionHypothesis =>
      obtain ⟨stillSettled, nearer⟩ :=
        Stage.settled?_after r.plan s.isFailure standard.head settled
      rw [← stage_step] at stillSettled nearer
      refine inductionHypothesis stillSettled ?_ standard.tail
      simp only [List.length_cons] at enough
      omega

end Run

namespace Moment

variable {σ : Type} {s : Surroundings σ} {m : Moment σ}

theorem reply_of_setback {fault : Fault} (setback : m.setback? s = some fault) :
    m.reply s = .raised fault ∧ m.run.stage.isForward = true := by
  unfold setback? at setback
  split at setback
  · contradiction
  · split at setback
    · next forward =>
        refine ⟨?_, forward⟩
        cases replied : m.reply s <;> simp_all [Reply.fault?]
    · contradiction

theorem exit?_of_setback {fault : Fault} (setback : m.setback? s = some fault) :
    m.exit? s = none := by
  unfold exit?
  rw [(reply_of_setback setback).1]
  split <;> simp_all

/-- A fault on the way to the end of the process settles the outcome. -/
theorem settled?_of_setback {fault : Fault} (setback : m.setback? s = some fault)
    (standard : (m.reply s).isStandard = true) :
    (m.next s).1.stage.settled? = some (.fault fault) ∧ (m.next s).1.stage.remaining ≤ 6 := by
  obtain ⟨raised, forward⟩ := reply_of_setback setback
  rw [raised] at standard
  simp only [Reply.isStandard] at standard
  rw [stage_next, raised]
  rcases m with ⟨⟨plan, stage, announced⟩, w⟩
  cases stage with
  | enlisting c =>
      cases destroyer : plan.destroyer with
      | none => simp [reply, destroyer] at raised
      | some i =>
          simp [Stage.after, Reply.orAbandon, standard, destroyer, Stage.settled?, Stage.remaining]
  | watching c =>
      cases watchdog : plan.watchdog with
      | none => simp [reply, watchdog] at raised
      | some i =>
          simp [Stage.after, Reply.orAbandon, standard, watchdog, Stage.settled?, Stage.remaining]
  | waiting c interrupted entered =>
      cases fault with
      | interrupted => simp [setback?, raised] at setback
      | alien => simp at standard
      | _ => simp [Stage.after, Reply.orAbandon, Fault.isStandard, Stage.settled?, Stage.remaining]
  | launching | opening p =>
      simp [Stage.after, Stage.settled?, Stage.remaining]
  | attaching c stream | starting c | killing c =>
      simp [Stage.after, Reply.orAbandon, standard, Stage.settled?, Stage.remaining]
  | _ => simp [Stage.isForward] at forward

/-- Without such a fault the way goes on until the process has ended. -/
theorem isForward_next (forward : m.run.stage.isForward = true) (clear : m.setback? s = none) :
    (m.exit? s = none ∧ (m.next s).1.stage.isForward = true) ∨
      ∃ c exitValue, m.exit? s = some exitValue ∧ (m.next s).1.stage = .ending c exitValue := by
  rw [stage_next]
  rcases m with ⟨⟨plan, stage, announced⟩, w⟩
  simp only [setback?] at clear
  cases stage with
  | waiting c interrupted entered =>
      simp only [exit?]
      cases replied : reply s
          { run := ⟨plan, .waiting c interrupted entered, announced⟩, world := w } with
      | exited exitValue => exact .inr ⟨c, exitValue, rfl, rfl⟩
      | raised fault =>
          rw [replied] at clear
          cases fault with
          | interrupted => cases interrupted <;> simp [Stage.after, Stage.isForward]
          | _ => simp [Stage.isForward, Reply.fault?] at clear
      | _ => exact .inl ⟨rfl, rfl⟩
  | attaching c stream | starting c | enlisting c | watching c | killing c | launching
  | opening p =>
      refine .inl ⟨rfl, Stage.isForward_after forward ?_ (by simp)⟩
      simpa [Stage.isForward] using clear
  | _ => simp [Stage.isForward] at forward

/-- Nobody gets back onto that way. -/
theorem not_isForward_next (past : m.run.stage.isForward = false) :
    m.setback? s = none ∧ m.exit? s = none ∧ (m.next s).1.stage.isForward = false := by
  rw [stage_next]
  rcases m with ⟨⟨plan, stage, announced⟩, w⟩
  refine ⟨?_, ?_, Stage.not_isForward_after past⟩
  · cases stage <;> simp_all [setback?, Stage.isForward]
  · cases stage <;> simp_all [exit?, Stage.isForward]

theorem cleanupFault?_of_isForward (forward : m.run.stage.isForward = true) :
    m.cleanupFault? s = none := by
  unfold cleanupFault?
  split <;> simp_all [Stage.isForward]

theorem cleanupFault?_of_settled {outcome : Outcome}
    (settled : m.run.stage.settled? = some outcome) : m.cleanupFault? s = none := by
  unfold cleanupFault?
  split <;> simp_all [Stage.settled?]

/-- Only closing a stream after an earlier fault of the cleanup drops a fault. -/
theorem closing_of_isDropped {notice : Notice} (said : notice ∈ m.remarks s)
    (dropped : notice.isDropped = true) :
    ∃ c exitValue earlier stream, m.run.stage = .closing c exitValue (some earlier) stream := by
  cases notice with
  | dropped fault =>
      unfold remarks at said
      split at said
      case h_7 c exitValue earlier stream _ atStage _ =>
        exact ⟨c, exitValue, earlier, stream, atStage⟩
      all_goals simp_all
  | _ => simp [Notice.isDropped] at dropped

theorem filter_isDropped_of_not_closing
    (notClosing : ∀ c exitValue earlier stream,
      m.run.stage ≠ .closing c exitValue (some earlier) stream) :
    (m.notices s).filter Notice.isDropped = [] := by
  rw [notices_eq_remarks]
  apply List.filter_eq_nil_iff.mpr
  intro notice found dropped
  obtain ⟨c, exitValue, earlier, stream, atStage⟩ :=
    closing_of_isDropped (List.mem_filter.mp found).1 dropped
  exact notClosing c exitValue earlier stream atStage

theorem filter_isDropped_of_closing {c : Custody} {exitValue : Int} {earlier : Fault}
    {stream : StandardStream} (atStage : m.run.stage = .closing c exitValue (some earlier) stream)
    (standard : (m.reply s).isStandard = true) :
    (m.notices s).filter Notice.isDropped = (m.complaint? s).toList := by
  rw [notices_eq_remarks]
  simp only [remarks, complaint?, cleanupFault?, atStage]
  cases replied : m.reply s with
  | raised fault =>
      rw [replied] at standard
      simp only [Reply.isStandard] at standard
      cases heard : m.world.hears m.run.plan.journal .warning <;>
        simp [standard, heard, Notice.level, Notice.isDropped, Reply.fault?]
  | _ => simp [Reply.fault?]

end Moment

/-! ## Cleaning up -/

namespace Stage

/-- The exit value and the first fault so far that a stage of the cleanup carries
with it. -/
def cleaning? : Stage → Option (Int × Option Fault)
  | .ending _ exitValue | .stopping _ exitValue => some (exitValue, none)
  | .closing _ exitValue first _ | .judging _ exitValue first => some (exitValue, first)
  | _ => none

end Stage

namespace Moment

variable {σ : Type} {s : Surroundings σ} {m : Moment σ}

theorem complaint?_eq_none_of (quiet : m.cleanupFault? s = none) : m.complaint? s = none := by
  simp [complaint?, quiet]

/-- A step of the cleanup drops its fault exactly if there was one before. -/
theorem filter_isDropped_of_cleaning {exitValue : Int} {first : Option Fault}
    (cleaning : m.run.stage.cleaning? = some (exitValue, first))
    (standard : (m.reply s).isStandard = true) :
    (m.notices s).filter Notice.isDropped =
      if first.isSome then (m.complaint? s).toList else [] := by
  cases atStage : m.run.stage with
  | closing c v first' stream =>
      have same : first' = first := by
        rw [atStage] at cleaning
        simpa [Stage.cleaning?] using congrArg (Option.map Prod.snd) cleaning
      subst same
      cases first' with
      | none => exact filter_isDropped_of_not_closing (by simp [atStage])
      | some earlier => exact filter_isDropped_of_closing atStage standard
  | judging c v first' =>
      have quiet : m.cleanupFault? s = none := by simp [cleanupFault?, atStage]
      rw [filter_isDropped_of_not_closing (by simp [atStage]), complaint?_eq_none_of quiet]
      simp
  | ending c v | stopping c v =>
      have same : first = none := by
        rw [atStage] at cleaning
        simpa [Stage.cleaning?] using (congrArg (Option.map Prod.snd) cleaning).symm
      rw [filter_isDropped_of_not_closing (by simp [atStage]), same]
      rfl
  | _ => simp [atStage, Stage.cleaning?] at cleaning

theorem stage_of_isJudging (judging : m.isJudging = true) :
    ∃ c exitValue first, m.run.stage = .judging c exitValue first := by
  unfold isJudging at judging
  split at judging
  · next c exitValue first atStage => exact ⟨c, exitValue, first, atStage⟩
  · contradiction

theorem stage_of_judging {c : Custody} {exitValue : Int} {first : Option Fault}
    (atStage : m.run.stage = .judging c exitValue first) :
    (m.next s).1.stage =
      .leaving c (Run.judge m.run.plan s.isFailure first
        (m.world.watchdogFault m.run.plan.watchdog) exitValue) := by
  rw [stage_next, atStage]
  simp only [reply, atStage, Stage.after]

/-- Up to judging the outcome, a step of the cleanup keeps the exit value, takes
its fault down if there was none before, and comes nearer to the end. -/
theorem cleaning?_next {exitValue : Int} {first : Option Fault}
    (cleaning : m.run.stage.cleaning? = some (exitValue, first)) (notJudging : m.isJudging = false)
    (standard : (m.reply s).isStandard = true) :
    (m.next s).1.stage.cleaning? = some (exitValue, first.or (m.cleanupFault? s)) ∧
      (m.next s).1.stage.remaining = m.run.stage.remaining - 1 := by
  rw [stage_next]
  unfold cleanupFault?
  rcases m with ⟨⟨plan, stage, announced⟩, w⟩
  cases stage with
  | ending c v =>
      simp only [Stage.cleaning?, Option.some.injEq, Prod.mk.injEq] at cleaning
      obtain ⟨rfl, rfl⟩ := cleaning
      simp [Stage.after, Stage.cleaning?, Stage.remaining]
  | stopping c v =>
      simp only [Stage.cleaning?, Option.some.injEq, Prod.mk.injEq] at cleaning
      obtain ⟨rfl, rfl⟩ := cleaning
      generalize reply s ⟨⟨plan, .stopping c v, announced⟩, w⟩ = reply at standard
      cases reply <;>
        simp_all [Stage.after, Reply.isStandard, Reply.orLeave, Stage.cleaning?, Stage.remaining]
  | closing c v first' stream =>
      simp only [Stage.cleaning?, Option.some.injEq, Prod.mk.injEq] at cleaning
      obtain ⟨rfl, rfl⟩ := cleaning
      generalize reply s ⟨⟨plan, .closing c v first' stream, announced⟩, w⟩ = reply at standard
      cases reply <;> cases stream <;>
        simp_all [Stage.after, Reply.isStandard, Reply.orLeave, Run.afterClosing, Stage.cleaning?,
          Stage.remaining]
  | judging c v first' => simp [isJudging] at notJudging
  | _ => simp [Stage.cleaning?] at cleaning

end Moment

namespace Run

variable {σ : Type} {s : Surroundings σ} {worlds : List (World σ)}

/-- Once the outcome is settled, no fault counts for the cleanup and none is
dropped. -/
theorem quiet_of_settled {r : Run} {outcome : Outcome}
    (settled : r.stage.settled? = some outcome) (standard : r.IsStandard s worlds) :
    ∀ m ∈ r.moments s worlds,
      m.cleanupFault? s = none ∧ (m.notices s).filter Notice.isDropped = [] := by
  induction worlds generalizing r with
  | nil => simp [moments]
  | cons w worlds inductionHypothesis =>
      intro m found
      rcases List.mem_cons.mp found with rfl | found
      · refine ⟨Moment.cleanupFault?_of_settled settled, Moment.filter_isDropped_of_not_closing ?_⟩
        intro c exitValue earlier stream atStage
        change r.stage = _ at atStage
        simp [atStage, Stage.settled?] at settled
      · have stillSettled :=
          (Stage.settled?_after r.plan s.isFailure standard.head
            settled).1
        rw [← stage_step] at stillSettled
        exact inductionHypothesis stillSettled standard.tail m found

theorem cleanupFaults_cons (r : Run) (w : World σ) :
    r.cleanupFaults s (w :: worlds) =
      (Moment.cleanupFault? s { run := r, world := w }).toList ++
        (r.step s w).1.cleanupFaults s worlds :=
  filterMap_moments_cons _ r w

theorem cleanupFaults_of_settled {r : Run} {outcome : Outcome}
    (settled : r.stage.settled? = some outcome) (standard : r.IsStandard s worlds) :
    r.cleanupFaults s worlds = [] :=
  List.filterMap_eq_nil_iff.mpr fun m found => (quiet_of_settled settled standard m found).1

/-- A cleanup ends as judged by its first fault, by what the watchdog holds then,
and by the exit value. -/
theorem judged_of_cleaning {r : Run} {exitValue : Int} {first : Option Fault}
    (cleaning : r.stage.cleaning? = some (exitValue, first))
    (enough : r.stage.remaining ≤ worlds.length) (standard : r.IsStandard s worlds) :
    ∃ m ∈ r.moments s worlds, m.isJudging = true ∧
      (r.follow s worlds).outcome? =
        some (judge r.plan s.isFailure (first.or (r.cleanupFaults s worlds).head?)
          (m.world.watchdogFault r.plan.watchdog) exitValue) := by
  induction worlds generalizing r first with
  | nil =>
      rcases r with ⟨plan, stage, announced⟩
      cases stage with
      | closing c v first' stream => cases stream <;> simp [Stage.remaining] at enough
      | _ => simp_all [Stage.cleaning?, Stage.remaining]
  | cons w worlds inductionHypothesis =>
      cases judging : Moment.isJudging { run := r, world := w } with
      | true =>
          refine ⟨_, List.mem_cons_self, judging, ?_⟩
          obtain ⟨c, v, first', atStage⟩ := Moment.stage_of_isJudging judging
          change r.stage = _ at atStage
          have exact : v = exitValue ∧ first' = first := by
            simpa [atStage, Stage.cleaning?] using cleaning
          obtain ⟨rfl, rfl⟩ := exact
          have judged := Moment.stage_of_judging (s := s) (m := { run := r, world := w }) atStage
          simp only [Moment.next] at judged
          have settled := congrArg Stage.settled? judged
          have quiet : Moment.cleanupFault? s { run := r, world := w } = none := by
            simp [Moment.cleanupFault?, atStage]
          rw [cleanupFaults_cons, cleanupFaults_of_settled settled standard.tail, quiet]
          simp only [Option.toList_none, List.append_nil, List.head?_nil, Option.or_none]
          rw [follow]
          refine outcome?_of_settled settled ?_ standard.tail
          rw [judged, Stage.remaining]
          rw [atStage, Stage.remaining, List.length_cons] at enough
          omega
      | false =>
          obtain ⟨stillCleaning, nearer⟩ :=
            Moment.cleaning?_next cleaning judging standard.head
          simp only [Moment.next] at stillCleaning nearer
          have enough' : (r.step s w).1.stage.remaining ≤ worlds.length := by
            rw [List.length_cons] at enough
            omega
          obtain ⟨m, found, isJudging, judged⟩ :=
            inductionHypothesis stillCleaning enough' standard.tail
          refine ⟨m, List.mem_cons_of_mem _ found, isJudging, ?_⟩
          rw [cleanupFaults_cons, follow, judged, plan_step]
          cases first <;> cases Moment.cleanupFault? s { run := r, world := w } <;> simp

theorem droppedNotices_of_settled {r : Run} {outcome : Outcome}
    (settled : r.stage.settled? = some outcome) (standard : r.IsStandard s worlds) :
    r.droppedNotices s worlds = [] :=
  List.flatMap_eq_nil_iff.mpr fun m found => (quiet_of_settled settled standard m found).2

theorem failedCleanups_of_settled {r : Run} {outcome : Outcome}
    (settled : r.stage.settled? = some outcome) (standard : r.IsStandard s worlds) :
    r.failedCleanups s worlds = [] :=
  List.filter_eq_nil_iff.mpr fun m found => by
    simp [(quiet_of_settled settled standard m found).1]

/-- All faults of a cleanup but the first are dropped, and each of them is noted
once if the journal writes warnings. -/
theorem droppedNotices_of_cleaning {r : Run} {exitValue : Int} {first : Option Fault}
    (cleaning : r.stage.cleaning? = some (exitValue, first)) (standard : r.IsStandard s worlds) :
    r.droppedNotices s worlds =
      ((r.failedCleanups s worlds).drop (if first.isSome then 0 else 1)).filterMap
        (·.complaint? s) := by
  induction worlds generalizing r first with
  | nil => simp [droppedNotices, failedCleanups, moments]
  | cons w worlds inductionHypothesis =>
      have dropped := Moment.filter_isDropped_of_cleaning (m := { run := r, world := w })
        cleaning standard.head
      have noFault := Moment.complaint?_eq_none_of (s := s) (m := { run := r, world := w })
      have later : (r.step s w).1.droppedNotices s worlds =
          (((r.step s w).1.failedCleanups s worlds).drop
            (if (first.or (Moment.cleanupFault? s { run := r, world := w })).isSome then 0
              else 1)).filterMap (·.complaint? s) := by
        cases judging : Moment.isJudging { run := r, world := w } with
        | true =>
            obtain ⟨c, v, first', atStage⟩ := Moment.stage_of_isJudging judging
            have settled := congrArg Stage.settled? (Moment.stage_of_judging (s := s) atStage)
            simp only [Moment.next] at settled
            rw [droppedNotices_of_settled settled standard.tail,
              failedCleanups_of_settled settled standard.tail]
            simp
        | false =>
            exact inductionHypothesis (Moment.cleaning?_next cleaning judging standard.head).1
              standard.tail
      simp only [droppedNotices, failedCleanups, moments, List.flatMap_cons, List.filter_cons]
      simp only [droppedNotices, failedCleanups] at later
      rw [later, dropped]
      cases fault : Moment.cleanupFault? s { run := r, world := w } with
      | none => cases first <;> simp [noFault, fault]
      | some f =>
          cases first with
          | none => simp
          | some earlier =>
              cases complaint : Moment.complaint? s { run := r, world := w } <;>
                simp [complaint]

/-! ## From the launch on -/

theorem not_isForward_of_settled {stage : Stage} {outcome : Outcome}
    (settled : stage.settled? = some outcome) : stage.isForward = false := by
  cases stage <;> simp_all [Stage.settled?, Stage.isForward]

/-- Off the way to the end of the process nothing sets the execution back, and no
wait comes to an exit value. -/
theorem findSome?_of_not_isForward {r : Run} (past : r.stage.isForward = false) :
    (r.moments s worlds).findSome? (·.setback? s) = none ∧
      (r.moments s worlds).findSome? (·.exit? s) = none := by
  induction worlds generalizing r with
  | nil => simp [moments]
  | cons w worlds inductionHypothesis =>
      obtain ⟨noSetback, noExit, stillPast⟩ :=
        Moment.not_isForward_next (s := s) (m := { run := r, world := w }) past
      obtain ⟨noneSetback, noneExit⟩ := inductionHypothesis stillPast
      simp only [moments, List.findSome?_cons, noSetback, noExit]
      exact ⟨noneSetback, noneExit⟩

/-- An execution that is set back ends with the fault that did it. -/
theorem outcome?_of_setback {r : Run} {fault : Fault} {more : List (World σ)}
    (forward : r.stage.isForward = true)
    (setback : (r.moments s worlds).findSome? (·.setback? s) = some fault)
    (enough : 6 ≤ more.length) (standard : r.IsStandard s (worlds ++ more)) :
    (r.follow s (worlds ++ more)).outcome? = some (.fault fault) := by
  induction worlds generalizing r with
  | nil => simp [moments] at setback
  | cons w worlds inductionHypothesis =>
      rw [List.cons_append] at standard ⊢
      simp only [moments, List.findSome?_cons] at setback
      cases here : Moment.setback? s { run := r, world := w } with
      | some first =>
          rw [here] at setback
          cases setback
          obtain ⟨settled, near⟩ := Moment.settled?_of_setback here standard.head
          simp only [Moment.next] at settled near
          rw [follow]
          refine outcome?_of_settled settled ?_ standard.tail
          rw [List.length_append]
          omega
      | none =>
          rw [here] at setback
          rcases Moment.isForward_next forward here with ⟨_, stillForward⟩ | ⟨c, v, _, ended⟩
          · exact inductionHypothesis stillForward setback standard.tail
          · have past : (r.step s w).1.stage.isForward = false :=
              congrArg Stage.isForward ended
            rw [(findSome?_of_not_isForward past).1] at setback
            contradiction

/-- An execution whose process ends goes through its cleanup from there on. -/
theorem judged_of_exit {r : Run} {exitValue : Int} {more : List (World σ)}
    (forward : r.stage.isForward = true)
    (exit : (r.moments s worlds).findSome? (·.exit? s) = some exitValue)
    (enough : 9 ≤ more.length) (standard : r.IsStandard s (worlds ++ more)) :
    (∃ m ∈ r.moments s (worlds ++ more), m.isJudging = true ∧
      (r.follow s (worlds ++ more)).outcome? =
        some (judge r.plan s.isFailure (r.cleanupFaults s (worlds ++ more)).head?
          (m.world.watchdogFault r.plan.watchdog) exitValue)) ∧
      r.droppedNotices s (worlds ++ more) =
        (r.failedCleanups s (worlds ++ more)).tail.filterMap (·.complaint? s) := by
  induction worlds generalizing r with
  | nil => simp [moments] at exit
  | cons w worlds inductionHypothesis =>
      rw [List.cons_append] at standard ⊢
      simp only [moments, List.findSome?_cons] at exit
      have quiet := Moment.cleanupFault?_of_isForward (s := s)
        (m := { run := r, world := w }) forward
      have nothingDropped := Moment.filter_isDropped_of_not_closing (s := s)
        (m := { run := r, world := w }) (fun c v earlier stream atStage => by
          change r.stage = _ at atStage
          rw [atStage] at forward
          contradiction)
      have sameFaults : r.cleanupFaults s (w :: (worlds ++ more)) =
          (r.step s w).1.cleanupFaults s (worlds ++ more) := by
        rw [cleanupFaults_cons, quiet, Option.toList_none, List.nil_append]
      have sameFailures : r.failedCleanups s (w :: (worlds ++ more)) =
          (r.step s w).1.failedCleanups s (worlds ++ more) := by
        simp [failedCleanups, moments, quiet]
      have sameDropped : r.droppedNotices s (w :: (worlds ++ more)) =
          (r.step s w).1.droppedNotices s (worlds ++ more) := by
        simp [droppedNotices, moments, nothingDropped]
      rw [sameFaults, sameFailures, sameDropped]
      cases here : Moment.setback? s { run := r, world := w } with
      | some first =>
          obtain ⟨settled, _⟩ := Moment.settled?_of_setback here standard.head
          simp only [Moment.next] at settled
          have noExit : Moment.exit? s { run := r, world := w } = none :=
            Moment.exit?_of_setback here
          rw [noExit, (findSome?_of_not_isForward (not_isForward_of_settled settled)).2] at exit
          contradiction
      | none =>
          rcases Moment.isForward_next forward here with
            ⟨noExit, stillForward⟩ | ⟨c, v, exited, ended⟩
          · rw [noExit] at exit
            simp only [Moment.next] at stillForward
            obtain ⟨⟨m, found, judging, judged⟩, dropped⟩ :=
              inductionHypothesis stillForward exit standard.tail
            rw [plan_step] at judged
            exact ⟨⟨m, List.mem_cons_of_mem _ found, judging, judged⟩, dropped⟩
          · rw [exited] at exit
            cases exit
            have cleaning : (r.step s w).1.stage.cleaning? = some (exitValue, none) :=
              congrArg Stage.cleaning? ended
            have enough' : (r.step s w).1.stage.remaining ≤ (worlds ++ more).length := by
              have nine : (r.step s w).1.stage.remaining = 9 := congrArg Stage.remaining ended
              rw [nine, List.length_append]
              omega
            obtain ⟨m, found, judging, judged⟩ :=
              judged_of_cleaning cleaning enough' standard.tail
            rw [plan_step, Option.none_or] at judged
            refine ⟨⟨m, List.mem_cons_of_mem _ found, judging, judged⟩, ?_⟩
            rw [droppedNotices_of_cleaning cleaning standard.tail]
            simp

/-- Which fault, or which value, an execution ends with.  In whatever worlds it
takes its steps, and if all that is raised is of a standard kind:

* The first fault of the launch, of opening, handing over or starting the session,
  of registering the process, of starting its watch or of waiting for it is the
  outcome, whatever is raised while the process is given up.
* If the wait comes to an exit value, the first fault of stopping the session and
  closing the streams is the outcome, and of every later one a warning is written
  if warnings are.  Without such a fault the outcome is the fault that the watchdog
  holds, as it is if a system call failed and as an input/output error otherwise;
  and without that it is the exit value, or the failure it counts as. -/
theorem outcome_precedence (s : Surroundings σ) (plan : Plan) (worlds more : List (World σ))
    (enough : 9 ≤ more.length) (standard : IsStandard s { plan } (worlds ++ more)) :
    let before := moments s { plan } worlds
    let outcome? := (follow s { plan } (worlds ++ more)).outcome?
    let faults := cleanupFaults s { plan } (worlds ++ more)
    (∀ fault, before.findSome? (·.setback? s) = some fault → outcome? = some (.fault fault)) ∧
    (∀ exitValue, before.findSome? (·.exit? s) = some exitValue →
      (∀ first later, faults = first :: later → outcome? = some (.fault first)) ∧
      droppedNotices s { plan } (worlds ++ more) =
        (failedCleanups s { plan } (worlds ++ more)).tail.filterMap (·.complaint? s) ∧
      (faults = [] → ∃ m ∈ moments s { plan } (worlds ++ more), m.isJudging = true ∧
        (∀ i dog, plan.watchdog = some i → m.world.watchdogs[i]? = some dog →
          (∀ errno context, dog.fault = some (.system errno context) →
            outcome? = some (.fault (.system errno context))) ∧
          (∀ fault, dog.fault = some fault → fault.isStandard = true →
            (∀ errno context, fault ≠ .system errno context) →
            outcome? = some (.fault (.system .inputOutput fault.message)))) ∧
        ((∀ i dog, plan.watchdog = some i → m.world.watchdogs[i]? = some dog → dog.fault = none) →
          outcome? = some
            (if plan.success.isFailure s.isFailure exitValue then
              .fault (.execution
                (utf8 "Process exited with an error: " ++ decimal exitValue) exitValue)
            else .value exitValue)))) := by
  intro before outcome? faults
  have forward : ({ plan } : Run).stage.isForward = true := rfl
  refine ⟨fun fault setback => ?_, fun exitValue exit => ?_⟩
  · exact outcome?_of_setback forward setback (by omega) standard
  · obtain ⟨⟨m, found, judging, judged⟩, dropped⟩ := judged_of_exit forward exit enough standard
    change outcome? = some (judge plan s.isFailure faults.head?
      (m.world.watchdogFault plan.watchdog) exitValue) at judged
    refine ⟨fun first later split => ?_, dropped, fun noFault => ⟨m, found, judging, ?_, ?_⟩⟩
    · rw [judged, split]
      rfl
    · intro i dog configured there
      have holds : ∀ fault, dog.fault = some fault →
          m.world.watchdogFault plan.watchdog = some fault := fun fault held =>
        World.watchdogFault_eq_some_iff.mpr ⟨i, dog, configured, there, held⟩
      constructor
      · intro errno context held
        rw [judged, noFault, holds _ held]
        rfl
      · intro fault held known notSystem
        rw [judged, noFault, holds _ held]
        cases fault with
        | system errno context => exact absurd rfl (notSystem errno context)
        | alien => contradiction
        | _ => rfl
    · intro nothingHeld
      rw [judged, noFault, World.watchdogFault_eq_none_iff.mpr nothingHeld]
      cases failure : plan.success.isFailure s.isFailure exitValue <;>
        simp [judge, failure, Fault.badExitValue]

open Script in
/-- A cast that fails in every part of the cleanup, and whose process does as well. -/
def untidyCast : Cast where
  queue := [{
    exitValue := 3
    closeFault := fun
      | .input => none
      | .output => some (.system .badDescriptor [])
      | .error => some (.logic []) }]
  handlers := [{ script := { fault := fun
    | .stop => some (.runtime [])
    | _ => none } }]

open Script in
/-- A cast whose process goes on until it is destroyed, and raises a fault when it is. -/
def clingingCast : Cast where
  queue := [{ lingers := true, destroyFault := some (.runtime [0x78]) }]

open Script in
/-- The worlds of an execution by this cast whose time runs out while it waits. -/
def overtime : List (World Cast) :=
  let inTime := unattended Cast.rehearsal 12 { plan := rehearsalPlan } clingingCast.world
  let late := (inTime.getLastD clingingCast.world).expire Cast.rehearsal 0
  inTime ++
    unattended Cast.rehearsal 10 (follow Cast.rehearsal { plan := rehearsalPlan } inTime) late

open Script in
/-- Of what fails in the cleanup of the first cast the session's fault is the outcome, and
the streams' faults are written down.  The process of the second one is destroyed by its
watchdog, whose fault is the outcome, though the process has exited with a value. -/
theorem outcome_precedence_untidyCast :
    let worlds := unattended Cast.rehearsal 18 { plan := rehearsalPlan } untidyCast.world
    let more := List.replicate 9 untidyCast.world
    let later := List.replicate 9 clingingCast.world
    9 ≤ more.length ∧ IsStandard Cast.rehearsal { plan := rehearsalPlan } (worlds ++ more) ∧
      (follow Cast.rehearsal { plan := rehearsalPlan } (worlds ++ more)).outcome? =
        some (.fault (.runtime [])) ∧
      droppedNotices Cast.rehearsal { plan := rehearsalPlan } (worlds ++ more) =
        [.dropped (.system .badDescriptor []), .dropped (.logic [])] ∧
      IsStandard Cast.rehearsal { plan := rehearsalPlan } (overtime ++ later) ∧
      (moments Cast.rehearsal { plan := rehearsalPlan } overtime).findSome?
        (·.exit? Cast.rehearsal) = some 137 ∧
      (follow Cast.rehearsal { plan := rehearsalPlan } (overtime ++ later)).outcome? =
        some (.fault (.system .inputOutput [0x78])) := by
  intro worlds more later
  have enough : 9 ≤ more.length := by decide
  have standard : IsStandard Cast.rehearsal { plan := rehearsalPlan } (worlds ++ more) := by
    decide
  obtain ⟨first, dropped, _⟩ :=
    (outcome_precedence Cast.rehearsal rehearsalPlan worlds more enough standard).2 3 (by decide)
  have standardLate : IsStandard Cast.rehearsal { plan := rehearsalPlan } (overtime ++ later) := by
    decide
  have exit : (moments Cast.rehearsal { plan := rehearsalPlan } overtime).findSome?
      (·.exit? Cast.rehearsal) = some 137 := by decide
  have held : ∀ m ∈ moments Cast.rehearsal { plan := rehearsalPlan } (overtime ++ later),
      m.isJudging = true →
        (m.world.watchdogs[0]?).bind (·.fault) = some (.runtime [0x78]) := by decide
  obtain ⟨_, _, judged⟩ := (outcome_precedence Cast.rehearsal rehearsalPlan overtime later
    (by decide) standardLate).2 137 exit
  obtain ⟨m, found, judging, byWatchdog, _⟩ := judged (by decide)
  obtain ⟨dog, there, fault⟩ := Option.bind_eq_some_iff.mp (held m found judging)
  refine ⟨enough, standard, ?_, ?_, standardLate, exit, ?_⟩
  · exact first _ [.system .badDescriptor [], .logic []] (by decide)
  · exact dropped.trans (by decide)
  · exact (byWatchdog 0 dog rfl there).2 _ fault rfl nofun

end Run

end Overseer
