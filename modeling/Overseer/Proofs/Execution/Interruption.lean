import Overseer.Proofs.Execution.Destruction

/-!
# Interrupted waits

An execution that is interrupted while it waits for its process destroys the process and waits
again, as often as it is interrupted.  The process is destroyed after the first interruption only,
and only that one is reported.

A wait may be asked about many times before it is answered.  So the calls are found by going
through the answers: one answer after the other a stretch of the course is taken off, up to the
answer that ends the waiting.
-/

namespace Overseer

open List (replicate)

namespace Event

/-- Whether a call waits for a process, or destroys one on behalf of an execution. -/
def seeksEnd : Event → Bool
  | .waitFor _ | .destroy .execution _ => true
  | _ => false

/-- The calls of waiting for a process with some number of interruptions. -/
def waits (p : ProcessRef) : Nat → List Event
  | 0 => [.waitFor p]
  | n + 1 => .waitFor p :: .destroy .execution p :: replicate (n + 1) (.waitFor p)

/-- Whether these calls were made one right after the other, and before and after them nobody
waited for a process or destroyed it on behalf of an execution. -/
def SeekEnd (calls events : List Event) : Prop :=
  ∃ before after, events = before ++ calls ++ after ∧
    (∀ event ∈ before, event.seeksEnd = false) ∧ ∀ event ∈ after, event.seeksEnd = false

end Event

namespace Moment

variable {σ : Type}

/-- What a wait came to, once it is answered. -/
def answer? (s : Surroundings σ) (m : Moment σ) : Option Reply :=
  match m.run.stage, m.reply s with
  | .waiting _ _ _, .pending => none
  | .waiting _ _ _, reply => some reply
  | _, _ => none

/-- What destroying the process after an interruption came to. -/
def kill? (s : Surroundings σ) (m : Moment σ) : Option Reply :=
  match m.run.stage with
  | .killing _ => some (m.reply s)
  | _ => none

/-- Whether a wait was interrupted. -/
def isInterrupted (s : Surroundings σ) (m : Moment σ) : Bool :=
  m.answer? s = some (.raised .interrupted)

/-- The warnings that are written while the process is waited for. -/
def warnings (s : Surroundings σ) (m : Moment σ) : List Notice :=
  match m.run.stage with
  | .waiting _ _ _ | .killing _ => (m.notices s).filter (·.level = .warning)
  | _ => []

/-- The warning of an interruption, if the journal writes warnings. -/
def alarm? (s : Surroundings σ) (m : Moment σ) : Option Notice :=
  match m.run.stage with
  | .waiting c _ _ =>
      if m.world.hears m.run.plan.journal .warning then
        some (.waitInterrupted ((m.called s).pid s c.process))
      else none
  | _ => none

end Moment

namespace Run

variable {σ : Type}

/-- What the waits of an execution came to, in order. -/
def answers (s : Surroundings σ) (r : Run) (worlds : List (World σ)) : List Reply :=
  (r.moments s worlds).filterMap (·.answer? s)

/-- What destroying the process after an interruption came to, as often as it was tried. -/
def kills (s : Surroundings σ) (r : Run) (worlds : List (World σ)) : List Reply :=
  (r.moments s worlds).filterMap (·.kill? s)

/-- The warnings that are written while the process is waited for. -/
def warnings (s : Surroundings σ) (r : Run) (worlds : List (World σ)) : List Notice :=
  (r.moments s worlds).flatMap (·.warnings s)

end Run

/-! ## Stages that are not left any more -/

namespace Stage

/-- Whether an execution that was interrupted waits again, or has come to the end of its waits. -/
def isResumed : Stage → Bool
  | .waiting _ interrupted _ => interrupted
  | stage => !stage.isForward

/-- Whether the process is neither waited for nor destroyed any more. -/
def isSettling : Stage → Bool
  | .abandoning _ _ => false
  | stage => !stage.isForward

/-- Whether the waits have not been interrupted so far. -/
def isUndisturbed : Stage → Bool
  | .waiting _ interrupted _ => !interrupted
  | stage => stage.precedesWatch

variable {plan : Plan} {convention : Int → Bool} {stage : Stage} {reply : Reply}

theorem isResumed_of_not_isForward (past : stage.isForward = false) : stage.isResumed = true := by
  cases stage <;> first | rfl | contradiction

theorem isUndisturbed_of_precedesWatch (precedes : stage.precedesWatch = true) :
    stage.isUndisturbed = true := by
  cases stage <;> first | rfl | contradiction

/-- After the first interruption nobody comes back to it. -/
theorem isResumed_after (resumed : stage.isResumed = true) :
    (stage.after plan convention reply).isResumed = true := by
  cases past : stage.isForward with
  | false => exact isResumed_of_not_isForward (not_isForward_after past)
  | true =>
      cases stage with
      | waiting c interrupted entered =>
          obtain rfl : interrupted = true := resumed
          have goesOn : (reply.orAbandon c (.waiting c true entered)).isResumed = true := by
            rcases Reply.orAbandon_eq c (.waiting c true entered) reply with
              eq | ⟨fault, eq⟩ | ⟨_, fault, eq⟩ <;> rw [eq] <;> rfl
          cases reply with
          | raised fault =>
              cases fault with
              | interrupted => rfl
              | _ => exact goesOn
          | _ => rfl
      | _ => simp_all [isResumed]

theorem isResumed_after_of_killing {c : Custody} (killing : stage = .killing c) :
    (stage.after plan convention reply).isResumed = true := by
  subst killing
  simp only [after]
  rcases Reply.orAbandon_eq c (.waiting c true false) reply with
    eq | ⟨fault, eq⟩ | ⟨_, fault, eq⟩ <;> rw [eq] <;> rfl

theorem isSettling_after (settling : stage.isSettling = true) :
    (stage.after plan convention reply).isSettling = true := by
  have leaves : ∀ (c : Custody) (next : Stage), next.isSettling = true →
      (reply.orLeave c next).isSettling = true := by
    intro c next goesOn
    rcases Reply.orLeave_eq c next reply with eq | ⟨_, fault, eq⟩ <;> rw [eq]
    · exact goesOn
    · rfl
  cases stage with
  | halting c fault | stopping c exitValue => exact leaves c _ rfl
  | closing c exitValue first stream =>
      apply leaves
      cases stream <;> rfl
  | judging c exitValue first => cases reply <;> rfl
  | unwatching c fault | ending c exitValue | leaving c outcome | delisting c outcome
  | releasing p outcome | ended outcome => rfl
  | _ => contradiction

/-- A process is waited for, or destroyed on behalf of an execution, at three stages only. -/
theorem stage_of_seeksEnd {event : Event} (makes : stage.makes event = true)
    (seeks : event.seeksEnd = true) :
    (∃ c interrupted entered, stage = .waiting c interrupted entered) ∨
      (∃ c, stage = .killing c) ∨ ∃ c fault, stage = .abandoning c fault := by
  cases event with
  | waitFor p =>
      cases stage with
      | waiting c interrupted entered => exact .inl ⟨c, interrupted, entered, rfl⟩
      | _ => contradiction
  | destroy agent p =>
      cases agent with
      | execution =>
          cases stage with
          | killing c => exact .inr (.inl ⟨c, rfl⟩)
          | abandoning c fault => exact .inr (.inr ⟨c, fault, rfl⟩)
          | _ => contradiction
      | _ => contradiction
  | _ => contradiction

theorem not_seeksEnd_of_precedesWatch {event : Event} (precedes : stage.precedesWatch = true)
    (makes : stage.makes event = true) : event.seeksEnd = false := by
  rw [← Bool.not_eq_true]
  intro seeks
  rcases stage_of_seeksEnd makes seeks with ⟨c, interrupted, entered, rfl⟩ | ⟨c, rfl⟩ |
    ⟨c, fault, rfl⟩ <;> contradiction

theorem not_seeksEnd_of_isSettling {event : Event} (settling : stage.isSettling = true)
    (makes : stage.makes event = true) : event.seeksEnd = false := by
  rw [← Bool.not_eq_true]
  intro seeks
  rcases stage_of_seeksEnd makes seeks with ⟨c, interrupted, entered, rfl⟩ | ⟨c, rfl⟩ |
    ⟨c, fault, rfl⟩ <;> contradiction

/-- Up to its wait an execution goes on, gives up or comes to wait. -/
theorem after_of_precedesWatch (precedes : stage.precedesWatch = true) :
    (stage.after plan convention reply).precedesWatch = true ∨
      (stage.after plan convention reply).isForward = false ∨
      ∃ c, stage.after plan convention reply = .waiting c false false := by
  by_cases watching : ∃ c, stage = .watching c
  · obtain ⟨c, rfl⟩ := watching
    simp only [after]
    split
    · exact .inr (.inr ⟨c, rfl⟩)
    · rcases Reply.orAbandon_eq c (.waiting { c with watched := true } false false) reply with
        eq | ⟨fault, eq⟩ | ⟨_, fault, eq⟩ <;> rw [eq]
      · exact .inr (.inr ⟨_, rfl⟩)
      · exact .inr (.inl rfl)
      · exact .inr (.inl rfl)
  · refine (precedesWatch_or_not_isForward precedes fun c atStage => ?_).imp_right .inl
    exact watching ⟨c, atStage⟩

end Stage

namespace Moment

variable {σ : Type} {s : Surroundings σ} {m : Moment σ} {reply : Reply}

theorem waiting_of_answer? (answered : m.answer? s = some reply) :
    ∃ c interrupted entered, m.run.stage = .waiting c interrupted entered ∧ m.reply s = reply := by
  unfold answer? at answered
  split at answered
  · contradiction
  · next c interrupted entered atStage _ =>
      exact ⟨c, interrupted, entered, atStage, Option.some.inj answered⟩
  · contradiction

theorem killing_of_kill? (killed : m.kill? s = some reply) :
    ∃ c, m.run.stage = .killing c ∧ m.reply s = reply := by
  unfold kill? at killed
  split at killed
  · next c atStage => exact ⟨c, atStage, Option.some.inj killed⟩
  · contradiction

end Moment

namespace Run

variable {σ : Type} {s : Surroundings σ} {r : Run} {worlds : List (World σ)}

/-- What no step leads out of holds at every moment. -/
theorem forall_stage_moments {P : Stage → Prop}
    (closed : ∀ {plan convention stage reply}, P stage → P (stage.after plan convention reply))
    (holds : P r.stage) : ∀ m ∈ r.moments s worlds, P m.run.stage := by
  induction worlds generalizing r with
  | nil => simp [moments]
  | cons w worlds inductionHypothesis =>
      rw [moments, List.forall_mem_cons]
      refine ⟨holds, inductionHypothesis ?_⟩
      rw [stage_step]
      exact closed holds

theorem answers_of_not_isForward (past : r.stage.isForward = false) : r.answers s worlds = [] := by
  rw [answers, List.filterMap_eq_nil_iff]
  intro m found
  rw [Option.eq_none_iff_forall_ne_some]
  intro reply answered
  obtain ⟨c, interrupted, entered, atStage, -⟩ := Moment.waiting_of_answer? answered
  have late := forall_stage_moments (P := fun stage => stage.isForward = false)
    Stage.not_isForward_after past m found
  rw [atStage] at late
  contradiction

theorem kills_of_isResumed (resumed : r.stage.isResumed = true) : r.kills s worlds = [] := by
  rw [kills, List.filterMap_eq_nil_iff]
  intro m found
  rw [Option.eq_none_iff_forall_ne_some]
  intro reply killed
  obtain ⟨c, atStage, -⟩ := Moment.killing_of_kill? killed
  have late := forall_stage_moments (P := fun stage => stage.isResumed = true)
    Stage.isResumed_after resumed m found
  rw [atStage] at late
  contradiction

theorem not_seeksEnd_of_isSettling (settling : r.stage.isSettling = true) :
    ∀ event ∈ r.events s worlds, event.seeksEnd = false := by
  intro event made
  obtain ⟨m, found, called⟩ := List.mem_flatMap.mp made
  have late := forall_stage_moments (P := fun stage => stage.isSettling = true)
    Stage.isSettling_after settling m found
  rw [Moment.events_eq_calls] at called
  exact Stage.not_seeksEnd_of_isSettling late (Moment.makes_of_mem_calls called)

end Run

/-! ## Stretches of a course -/

namespace Run

variable {σ : Type} {s : Surroundings σ} {r : Run} {worlds : List (World σ)}

theorem follow_append (r : Run) (early late : List (World σ)) :
    r.follow s (early ++ late) = (r.follow s early).follow s late := by
  induction early generalizing r with
  | nil => rfl
  | cons w early inductionHypothesis => exact inductionHypothesis _

theorem moments_append (r : Run) (early late : List (World σ)) :
    r.moments s (early ++ late) = r.moments s early ++ (r.follow s early).moments s late := by
  induction early generalizing r with
  | nil => rfl
  | cons w early inductionHypothesis => exact congrArg _ (inductionHypothesis _)

theorem events_append (r : Run) (early late : List (World σ)) :
    r.events s (early ++ late) = r.events s early ++ (r.follow s early).events s late := by
  simp [events, moments_append]

theorem answers_append (r : Run) (early late : List (World σ)) :
    r.answers s (early ++ late) = r.answers s early ++ (r.follow s early).answers s late := by
  simp [answers, moments_append]

theorem kills_append (r : Run) (early late : List (World σ)) :
    r.kills s (early ++ late) = r.kills s early ++ (r.follow s early).kills s late := by
  simp [kills, moments_append]

theorem answers_cons (r : Run) (w : World σ) :
    r.answers s (w :: worlds) =
      (Moment.answer? s { run := r, world := w }).toList ++ (r.step s w).1.answers s worlds :=
  filterMap_moments_cons _ r w

theorem kills_cons (r : Run) (w : World σ) :
    r.kills s (w :: worlds) =
      (Moment.kill? s { run := r, world := w }).toList ++ (r.step s w).1.kills s worlds :=
  filterMap_moments_cons _ r w

/-- After the launch a step changes nothing but the stage. -/
theorem step_of_ne_launching (launched : r.stage ≠ .launching) (w : World σ) :
    (r.step s w).1 =
      { r with stage :=
          r.stage.after r.plan s.isFailure (Moment.reply s { run := r, world := w }) } := by
  have next := congrArg Prod.fst (Moment.next_eq s { run := r, world := w })
  have silent : Moment.announces s { run := r, world := w } = false := by
    unfold Moment.announces
    split <;> first | rfl | contradiction
  simpa [Moment.next, silent] using next

/-- Worlds through which an execution comes to a stage: what its waits come to meanwhile and what
destroying the process after an interruption comes to, and which calls it makes. -/
structure Stretch (s : Surroundings σ) (r : Run) (worlds : List (World σ)) (stage : Stage)
    (answers kills : List Reply) (calls : List Event) : Prop where
  follow : r.follow s worlds = { r with stage }
  answers : r.answers s worlds = answers
  kills : r.kills s worlds = kills
  events : r.events s worlds = calls

namespace Stretch

variable {w : World σ} {stage final : Stage} {early late : List (World σ)} {reply : Reply}
  {answers moreAnswers kills moreKills : List Reply} {calls moreCalls : List Event}

theorem append (first : r.Stretch s early stage answers kills calls)
    (second : Stretch s { r with stage } late final moreAnswers moreKills moreCalls) :
    r.Stretch s (early ++ late) final (answers ++ moreAnswers) (kills ++ moreKills)
      (calls ++ moreCalls) where
  follow := by rw [follow_append, first.follow, second.follow]
  answers := by rw [answers_append, first.answers, first.follow, second.answers]
  kills := by rw [kills_append, first.kills, first.follow, second.kills]
  events := by rw [events_append, first.events, first.follow, second.events]

/-- One step of waiting. -/
theorem of_waiting {c : Custody} {interrupted entered : Bool}
    (waiting : r.stage = .waiting c interrupted entered)
    (replied : Moment.reply s { run := r, world := w } = reply)
    (answered : (if reply = .pending then [] else [reply]) = answers) :
    r.Stretch s [w] ((Stage.waiting c interrupted entered).after r.plan s.isFailure reply)
      answers []
      (if entered then [] else [.waitFor c.process]) where
  follow := by
    rw [Run.follow, Run.follow, step_of_ne_launching (by simp [waiting]), waiting, replied]
  answers := by
    rw [answers_cons, Moment.answer?, ← answered]
    simp only [waiting, replied]
    cases reply <;> rfl
  kills := by
    rw [kills_cons, Moment.kill?]
    simp only [waiting]
    rfl
  events := by
    rw [events_cons, Moment.calls]
    simp only [waiting]
    exact List.append_nil _

/-- Destroying the process after an interruption. -/
theorem of_killing {c : Custody} (killing : r.stage = .killing c)
    (replied : Moment.reply s { run := r, world := w } = reply) :
    r.Stretch s [w] (reply.orAbandon c (.waiting c true false)) [] [reply]
      [.destroy .execution c.process] where
  follow := by
    rw [Run.follow, Run.follow, step_of_ne_launching (by simp [killing]), killing, replied]
    rfl
  answers := by
    rw [answers_cons, Moment.answer?]
    simp only [killing]
    rfl
  kills := by
    rw [kills_cons, Moment.kill?]
    simp only [killing, replied]
    rfl
  events := by
    rw [events_cons, Moment.calls]
    simp only [killing]
    exact List.append_nil _

end Stretch

/-! ## Waits -/

/-- A wait is answered after a stretch in which it was asked about, or it never is. -/
theorem exists_answered (s : Surroundings σ) (worlds : List (World σ)) {c : Custody}
    {interrupted entered : Bool} (waiting : r.stage = .waiting c interrupted entered) :
    (r.answers s worlds = [] ∧ r.kills s worlds = []) ∨
      ∃ answer spell late, worlds = spell ++ late ∧
        r.Stretch s spell ((Stage.waiting c interrupted false).after r.plan s.isFailure answer)
          [answer] [] (if entered then [] else [.waitFor c.process]) ∧
        ((∃ exitValue, answer = .exited exitValue) ∨ ∃ fault, answer = .raised fault) := by
  induction worlds generalizing r entered with
  | nil => exact .inl ⟨rfl, rfl⟩
  | cons w worlds inductionHypothesis =>
      have replied : Moment.reply s { run := r, world := w } =
          .ofWait (if entered then w.resumeWait s c.process else w.enterWait s c.process).1 := by
        simp only [Moment.reply, waiting]
      generalize (if entered then w.resumeWait s c.process
        else w.enterWait s c.process).1 = reply at replied
      cases reply with
      | pending =>
          have first : r.Stretch s [w] (.waiting c interrupted true) [] []
              (if entered then [] else [.waitFor c.process]) := .of_waiting waiting replied rfl
          rcases inductionHypothesis (r := { r with stage := .waiting c interrupted true }) rfl with
            ⟨noAnswer, noKill⟩ | ⟨answer, spell, late, rfl, later, kind⟩
          · left
            constructor
            · rw [← List.singleton_append, answers_append, first.answers, first.follow]
              exact noAnswer
            · rw [← List.singleton_append, kills_append, first.kills, first.follow]
              exact noKill
          · exact .inr ⟨answer, [w] ++ spell, late, rfl, by simpa using first.append later, kind⟩
      | exited exitValue =>
          exact .inr ⟨.exited exitValue, [w], worlds, rfl, .of_waiting waiting replied rfl,
            .inl ⟨exitValue, rfl⟩⟩
      | failed fault =>
          refine .inr ⟨.raised fault, [w], worlds, rfl, ?_, .inr ⟨fault, rfl⟩⟩
          cases fault <;> exact .of_waiting waiting replied rfl

/-- The first answer is that of the wait that has to be begun. -/
theorem exists_first_answer {c : Custody} {interrupted : Bool} {answer : Reply} {rest : List Reply}
    (waiting : r.stage = .waiting c interrupted false)
    (answered : r.answers s worlds = answer :: rest) :
    ∃ spell late, worlds = spell ++ late ∧
      r.Stretch s spell ((Stage.waiting c interrupted false).after r.plan s.isFailure answer)
        [answer] [] [.waitFor c.process] ∧
      (r.follow s spell).answers s late = rest := by
  rcases exists_answered s worlds waiting with
    ⟨noAnswer, -⟩ | ⟨first, spell, late, rfl, stretch, -⟩
  · rw [noAnswer] at answered
    contradiction
  · rw [answers_append, stretch.answers] at answered
    obtain ⟨rfl, later⟩ := List.cons.inj answered
    exact ⟨spell, late, rfl, stretch, later⟩

/-- Once interrupted, an execution waits as often as it is interrupted, and once more. -/
theorem exists_retried {c : Custody} {n : Nat} {answer : Reply}
    (waiting : r.stage = .waiting c true false)
    (answered : r.answers s worlds = replicate n (.raised .interrupted) ++ [answer]) :
    ∃ spell late, worlds = spell ++ late ∧
      r.Stretch s spell ((Stage.waiting c true false).after r.plan s.isFailure answer)
        (replicate n (.raised .interrupted) ++ [answer]) []
        (replicate (n + 1) (.waitFor c.process)) := by
  induction n generalizing r worlds with
  | zero =>
      obtain ⟨spell, late, split, stretch, -⟩ := exists_first_answer waiting answered
      exact ⟨spell, late, split, stretch⟩
  | succ n inductionHypothesis =>
      obtain ⟨spell, late, rfl, stretch, later⟩ := exists_first_answer waiting answered
      rw [stretch.follow] at later
      obtain ⟨more, rest, rfl, again⟩ :=
        inductionHypothesis (r := { r with stage := .waiting c true false }) rfl later
      exact ⟨spell ++ more, rest, (List.append_assoc ..).symm, stretch.append again⟩

/-- Destroying the process after an interruption leads back to the wait, or to giving up. -/
theorem exists_killed {c : Custody} (killing : r.stage = .killing c) (w : World σ) :
    r.Stretch s [w] (.waiting c true false) [] [.done] [.destroy .execution c.process] ∨
      ∃ fault, r.Stretch s [w] (Reply.orAbandon c (.waiting c true false) (.raised fault)) []
        [.raised fault] [.destroy .execution c.process] := by
  have replied : Moment.reply s { run := r, world := w } =
      .ofCall (fun _ => .done) (w.destroy s .execution c.process).1 := by
    simp only [Moment.reply, killing]
  generalize (w.destroy s .execution c.process).1 = reply at replied
  cases reply with
  | ok done => exact .inl (.of_killing killing replied)
  | error fault => exact .inr ⟨fault, .of_killing killing replied⟩

theorem isForward_orAbandon_raised (c : Custody) (next : Stage) (fault : Fault) :
    (Reply.orAbandon c next (.raised fault)).isForward = false := by
  cases standard : fault.isStandard <;> simp [Reply.orAbandon, standard, Stage.isForward]

/-- An execution destroys its process after the first interruption, and waits as often as it is
interrupted and once more. -/
theorem exists_waited {c : Custody} {n : Nat} {answer : Reply} {stage : Stage}
    (waiting : r.stage = .waiting c false false)
    (answered : r.answers s worlds = replicate n (.raised .interrupted) ++ [answer])
    (ends : ∀ interrupted,
      (Stage.waiting c interrupted false).after r.plan s.isFailure answer = stage) :
    ∃ spell late kills, worlds = spell ++ late ∧
      r.Stretch s spell stage (replicate n (.raised .interrupted) ++ [answer]) kills
        (Event.waits c.process n) := by
  cases n with
  | zero =>
      obtain ⟨spell, late, split, stretch, -⟩ := exists_first_answer waiting answered
      exact ⟨spell, late, [], split, ends false ▸ stretch⟩
  | succ n =>
      obtain ⟨spell, late, rfl, stretch, later⟩ := exists_first_answer waiting answered
      replace stretch : r.Stretch s spell (.killing c) [.raised .interrupted] []
        [.waitFor c.process] := stretch
      rw [stretch.follow] at later
      cases late with
      | nil => simp [answers, moments] at later
      | cons w late =>
          rw [← List.singleton_append, answers_append] at later
          rcases exists_killed (s := s) (r := { r with stage := .killing c }) rfl w with
            killed | ⟨fault, failed⟩
          · rw [killed.answers, killed.follow] at later
            obtain ⟨more, rest, rfl, again⟩ :=
              exists_retried (r := { r with stage := .waiting c true false }) rfl later
            exact ⟨spell ++ [w] ++ more, rest, _, by simp,
              ends true ▸ (stretch.append killed).append again⟩
          · have givenUp := isForward_orAbandon_raised c (.waiting c true false) fault
            rw [failed.answers, failed.follow, answers_of_not_isForward givenUp] at later
            simp at later

theorem quiet_of_precedesWatch {m : Moment σ} (precedes : m.run.stage.precedesWatch = true) :
    m.answer? s = none ∧ m.kill? s = none ∧ ∀ event ∈ m.calls, event.seeksEnd = false := by
  refine ⟨?_, ?_, fun event called => ?_⟩
  · unfold Moment.answer?
    split <;> simp_all [Stage.precedesWatch]
  · unfold Moment.kill?
    split <;> simp_all [Stage.precedesWatch]
  · exact Stage.not_seeksEnd_of_precedesWatch precedes (Moment.makes_of_mem_calls called)

/-- An execution comes to wait for its process, or there is no wait and no interruption. -/
theorem exists_approach (s : Surroundings σ) (worlds : List (World σ))
    (precedes : r.stage.precedesWatch = true) :
    (r.answers s worlds = [] ∧ r.kills s worlds = []) ∨
      ∃ c early late, worlds = early ++ late ∧
        (r.follow s early).stage = .waiting c false false ∧
        (∀ event ∈ r.events s early, event.seeksEnd = false) ∧
        r.answers s early = [] ∧ r.kills s early = [] := by
  induction worlds generalizing r with
  | nil => exact .inl ⟨rfl, rfl⟩
  | cons w worlds inductionHypothesis =>
      obtain ⟨noAnswer, noKill, noCall⟩ :=
        quiet_of_precedesWatch (s := s) (m := { run := r, world := w }) precedes
      have onward : (r.step s w).1.stage.precedesWatch = true ∨
          (r.step s w).1.stage.isForward = false ∨
          ∃ c, (r.step s w).1.stage = .waiting c false false := by
        rw [stage_step]
        exact Stage.after_of_precedesWatch precedes
      rw [answers_cons, kills_cons, noAnswer, noKill]
      rcases onward with goesOn | past | ⟨c, waiting⟩
      · rcases inductionHypothesis goesOn with
          quiet | ⟨c, early, late, rfl, waiting, noCalls, noAnswers, noKills⟩
        · exact .inl quiet
        · refine .inr ⟨c, w :: early, late, rfl, waiting, ?_, ?_, ?_⟩
          · rw [events_cons, List.forall_mem_append]
            exact ⟨noCall, noCalls⟩
          · rw [answers_cons, noAnswer, noAnswers]
            rfl
          · rw [kills_cons, noKill, noKills]
            rfl
      · exact .inl ⟨answers_of_not_isForward past,
          kills_of_isResumed (Stage.isResumed_of_not_isForward past)⟩
      · refine .inr ⟨c, [w], worlds, rfl, waiting, ?_, ?_, ?_⟩
        · rw [events_cons, List.forall_mem_append]
          exact ⟨noCall, by simp [events, moments]⟩
        · rw [answers_cons, noAnswer]
          rfl
        · rw [kills_cons, noKill]
          rfl

/-- If the process cannot be destroyed after an interruption, it is given up. -/
theorem exists_failed_kill_of_killing {c : Custody} {fault : Fault} (killing : r.stage = .killing c)
    (failed : .raised fault ∈ r.kills s worlds) (standard : fault.isStandard = true) :
    ∃ w late, worlds = w :: late ∧
      r.Stretch s [w] (.abandoning c fault) [] [.raised fault]
        [.destroy .execution c.process] := by
  cases worlds with
  | nil => contradiction
  | cons w late =>
      rw [← List.singleton_append, kills_append] at failed
      rcases exists_killed (s := s) killing w with killed | ⟨found, raised⟩
      · rw [killed.kills, killed.follow, kills_of_isResumed rfl] at failed
        simp at failed
      · have givenUp := isForward_orAbandon_raised c (.waiting c true false) found
        rw [raised.kills, raised.follow,
          kills_of_isResumed (Stage.isResumed_of_not_isForward givenUp)] at failed
        obtain rfl : fault = found := by simpa using failed
        have abandons : Reply.orAbandon c (.waiting c true false) (.raised fault) =
            .abandoning c fault := if_pos standard
        exact ⟨w, late, rfl, abandons ▸ raised⟩

/-- The process is destroyed in vain only after an interruption. -/
theorem exists_failed_kill {c : Custody} {fault : Fault}
    (waiting : r.stage = .waiting c false false)
    (failed : .raised fault ∈ r.kills s worlds) (standard : fault.isStandard = true) :
    ∃ spell late, worlds = spell ++ late ∧
      r.Stretch s spell (.abandoning c fault) [.raised .interrupted] [.raised fault]
        [.waitFor c.process, .destroy .execution c.process] := by
  rcases exists_answered s worlds waiting with
    ⟨-, noKill⟩ | ⟨answer, spell, late, rfl, stretch, kind⟩
  · rw [noKill] at failed
    contradiction
  · rw [kills_append, stretch.kills, List.nil_append, stretch.follow] at failed
    by_cases interrupted : answer = .raised .interrupted
    · subst interrupted
      obtain ⟨w, late, rfl, raised⟩ := exists_failed_kill_of_killing rfl failed standard
      exact ⟨spell ++ [w], late, by simp, stretch.append raised⟩
    · have past : ((Stage.waiting c false false).after r.plan s.isFailure answer).isForward =
          false := by
        rcases kind with ⟨exitValue, rfl⟩ | ⟨found, rfl⟩
        · rfl
        · cases found <;> first | rfl | contradiction
      rw [kills_of_isResumed (Stage.isResumed_of_not_isForward past)] at failed
      contradiction

/-! ## After the waits -/

theorem outcome?_of_settled_of_isSome {outcome : Outcome}
    (settled : r.stage.settled? = some outcome) (standard : r.IsStandard s worlds)
    (finished : (r.follow s worlds).outcome?.isSome) :
    (r.follow s worlds).outcome? = some outcome := by
  induction worlds generalizing r with
  | nil =>
      obtain ⟨found, ended⟩ := stage_of_isSome_outcome? finished
      change r.stage = _ at ended
      rw [ended] at settled
      rw [follow, outcome?, ended]
      exact settled
  | cons w worlds inductionHypothesis =>
      have stillSettled := (Stage.settled?_after r.plan s.isFailure standard.head settled).1
      rw [← stage_step] at stillSettled
      exact inductionHypothesis stillSettled standard.tail finished

/-- Who gives up his process destroys it once, before anything else. -/
theorem events_of_abandoning {c : Custody} {fault : Fault}
    (abandoning : r.stage = .abandoning c fault) (finished : (r.follow s worlds).outcome?.isSome) :
    ∃ later, r.events s worlds = .destroy .execution c.process :: later ∧
      ∀ event ∈ later, event.seeksEnd = false := by
  cases worlds with
  | nil => simp [follow, outcome?, abandoning] at finished
  | cons w worlds =>
      have called : Moment.calls { run := r, world := w } = [.destroy .execution c.process] := by
        simp [Moment.calls, abandoning]
      refine ⟨(r.step s w).1.events s worlds, ?_, not_seeksEnd_of_isSettling ?_⟩
      · rw [events_cons, called]
        rfl
      · rw [stage_step, abandoning]
        simp only [Stage.after]
        rcases Reply.orLeave_eq c (.unwatching c fault) (Moment.reply s { run := r, world := w })
          with eq | ⟨_, later, eq⟩ <;> rw [eq] <;> rfl

/-- Who waits, waits for the process he has launched. -/
theorem launched_of_waiting {plan : Plan} {c : Custody} {interrupted entered : Bool}
    {early : List (World σ)} (late : List (World σ))
    (waiting : (follow s { plan } early).stage = .waiting c interrupted entered) :
    launched s { plan } (early ++ late) = [c.process] := by
  refine eq_singleton_of_mem (length_launched_le _) ?_
  have balance := releases_balance s early { plan }
  rw [waiting] at balance
  have owed : c.process ∈ launched s { plan } early := by
    change [] ++ _ = _ at balance
    rw [← List.nil_append (launched s { plan } early), balance]
    simp [Stage.owedRelease, Stage.custody?]
  rw [launched, moments_append, List.filterMap_append]
  exact List.mem_append_left _ owed

end Run

/-! ## Warnings -/

namespace Moment

variable {σ : Type} {s : Surroundings σ} {m : Moment σ}

/-- The first interruption is reported, and the process is to be destroyed. -/
theorem warnings_of_isInterrupted (undisturbed : m.run.stage.isUndisturbed = true)
    (interrupted : m.isInterrupted s = true) :
    m.warnings s = (m.alarm? s).toList ∧ ∃ c, (m.next s).1.stage = .killing c := by
  have answered : m.answer? s = some (.raised .interrupted) := of_decide_eq_true interrupted
  obtain ⟨c, resumed, entered, atStage, replied⟩ := waiting_of_answer? answered
  rw [atStage] at undisturbed
  obtain rfl : resumed = false := by simpa [Stage.isUndisturbed] using undisturbed
  constructor
  · simp only [warnings, notices_eq_remarks, remarks, alarm?, atStage, replied]
    cases heard : m.world.hears m.run.plan.journal .warning <;> simp [heard, Notice.level]
  · rw [stage_next, atStage, replied]
    exact ⟨c, rfl⟩

/-- While it waits an execution says nothing but that it was interrupted, and that only once. -/
theorem warnings_of_waiting {c : Custody} {resumed entered : Bool}
    (waiting : m.run.stage = .waiting c resumed entered)
    (calm : resumed = true ∨ m.reply s ≠ .raised .interrupted) : m.warnings s = [] := by
  simp only [warnings, notices_eq_remarks, remarks, waiting]
  cases replied : m.reply s with
  | raised fault =>
      cases fault <;> cases resumed <;> simp_all
  | exited exitValue => simp [Notice.level, Level.debug, Level.warning]
  | _ => simp

/-- Without an interruption nothing is reported, and the waits go on or are over. -/
theorem warnings_of_not_isInterrupted (undisturbed : m.run.stage.isUndisturbed = true)
    (calm : m.isInterrupted s = false) :
    m.warnings s = [] ∧
      ((m.next s).1.stage.isUndisturbed = true ∨ (m.next s).1.stage.isForward = false) := by
  rw [stage_next]
  by_cases waiting : ∃ c resumed entered, m.run.stage = .waiting c resumed entered
  · obtain ⟨c, resumed, entered, atStage⟩ := waiting
    have notInterrupted : m.reply s ≠ .raised .interrupted := by
      intro replied
      simp [isInterrupted, answer?, atStage, replied] at calm
    refine ⟨warnings_of_waiting atStage (.inr notInterrupted), ?_⟩
    rw [atStage] at undisturbed ⊢
    cases replied : m.reply s with
    | raised fault =>
        right
        cases fault with
        | interrupted => exact absurd replied notInterrupted
        | _ => rfl
    | exited exitValue => exact .inr rfl
    | _ => exact .inl undisturbed
  · have precedes : m.run.stage.precedesWatch = true := by
      cases atStage : m.run.stage with
      | waiting c resumed entered => exact absurd ⟨c, resumed, entered, atStage⟩ waiting
      | _ => simpa [Stage.isUndisturbed, atStage] using undisturbed
    constructor
    · unfold warnings
      split <;> simp_all [Stage.precedesWatch]
    · rcases Stage.after_of_precedesWatch precedes with goesOn | past | ⟨c, comes⟩
      · exact .inl (Stage.isUndisturbed_of_precedesWatch goesOn)
      · exact .inr past
      · left
        rw [comes]
        rfl

/-- Later interruptions are not reported, nor is what destroying the process comes to. -/
theorem warnings_of_disturbed
    (disturbed : m.run.stage.isResumed = true ∨ ∃ c, m.run.stage = .killing c) :
    m.warnings s = [] := by
  rcases disturbed with resumed | ⟨c, killing⟩
  · cases atStage : m.run.stage with
    | waiting c again entered =>
        rw [atStage] at resumed
        exact warnings_of_waiting atStage (.inl resumed)
    | killing c =>
        rw [atStage] at resumed
        contradiction
    | _ => simp [warnings, atStage]
  · simp [warnings, notices_eq_remarks, remarks, killing]

end Moment

namespace Run

variable {σ : Type} {s : Surroundings σ} {r : Run} {worlds : List (World σ)}

theorem warnings_of_disturbed
    (disturbed : r.stage.isResumed = true ∨ ∃ c, r.stage = .killing c) :
    r.warnings s worlds = [] := by
  refine List.flatMap_eq_nil_iff.mpr fun m found => Moment.warnings_of_disturbed ?_
  refine forall_stage_moments (P := fun stage => stage.isResumed = true ∨ ∃ c, stage = .killing c)
    (fun holds => .inl ?_) disturbed m found
  rcases holds with resumed | ⟨c, killing⟩
  · exact Stage.isResumed_after resumed
  · exact Stage.isResumed_after_of_killing killing

theorem find?_isInterrupted_of_not_isForward (past : r.stage.isForward = false) :
    (r.moments s worlds).find? (·.isInterrupted s) = none := by
  have noAnswers : r.answers s worlds = [] := answers_of_not_isForward past
  have noAnswer := List.filterMap_eq_nil_iff.mp noAnswers
  refine List.find?_eq_none.mpr fun m found => ?_
  simp [Moment.isInterrupted, noAnswer m found]

/-- Of all interruptions the first one is reported. -/
theorem warnings_eq (undisturbed : r.stage.isUndisturbed = true) :
    r.warnings s worlds =
      (((r.moments s worlds).find? (·.isInterrupted s)).bind (·.alarm? s)).toList := by
  induction worlds generalizing r with
  | nil => rfl
  | cons w worlds inductionHypothesis =>
      rw [warnings, moments, List.flatMap_cons, List.find?_cons]
      change _ ++ (r.step s w).1.warnings s worlds = _
      cases interrupted : Moment.isInterrupted s { run := r, world := w } with
      | true =>
          obtain ⟨reported, c, killing⟩ := Moment.warnings_of_isInterrupted undisturbed interrupted
          have silent : (r.step s w).1.warnings s worlds = [] :=
            warnings_of_disturbed (.inr ⟨c, killing⟩)
          rw [reported, silent]
          exact List.append_nil _
      | false =>
          obtain ⟨silent, onward⟩ := Moment.warnings_of_not_isInterrupted undisturbed interrupted
          rw [silent, List.nil_append]
          rcases onward with goesOn | past
          · exact inductionHypothesis goesOn
          · have nothing : (r.step s w).1.warnings s worlds = [] :=
              warnings_of_disturbed (.inl (Stage.isResumed_of_not_isForward past))
            have noMore : ((r.step s w).1.moments s worlds).find? (·.isInterrupted s) = none :=
              find?_isInterrupted_of_not_isForward past
            rw [nothing, noMore]
            rfl

/-! ## Interrupted executions -/

theorem isStandard_of_reply {fault : Fault} {m : Moment σ} (standard : r.IsStandard s worlds)
    (found : m ∈ r.moments s worlds) (replied : m.reply s = .raised fault) :
    fault.isStandard = true := by
  have known := standard m found
  rwa [replied] at known

theorem isStandard_of_mem_answers {fault : Fault} (standard : r.IsStandard s worlds)
    (answered : .raised fault ∈ r.answers s worlds) : fault.isStandard = true := by
  obtain ⟨m, found, answer⟩ := List.mem_filterMap.mp answered
  obtain ⟨-, -, -, -, replied⟩ := Moment.waiting_of_answer? answer
  exact isStandard_of_reply standard found replied

theorem isStandard_of_mem_kills {fault : Fault} (standard : r.IsStandard s worlds)
    (killed : .raised fault ∈ r.kills s worlds) : fault.isStandard = true := by
  obtain ⟨m, found, kill⟩ := List.mem_filterMap.mp killed
  obtain ⟨-, -, replied⟩ := Moment.killing_of_kill? kill
  exact isStandard_of_reply standard found replied

/-- Who gives up his process after waiting for it ends with the fault that made him, and destroys
the process before anything else. -/
theorem seekEnd_of_abandoning {early spell late : List (World σ)} {c : Custody} {fault : Fault}
    {answers kills : List Reply} {calls : List Event}
    (quiet : ∀ event ∈ r.events s early, event.seeksEnd = false)
    (stretch : (r.follow s early).Stretch s spell (.abandoning c fault) answers kills calls)
    (standard : r.IsStandard s (early ++ (spell ++ late)))
    (finished : (r.follow s (early ++ (spell ++ late))).outcome?.isSome) :
    (r.follow s (early ++ (spell ++ late))).outcome? = some (.fault fault) ∧
      Event.SeekEnd (calls ++ [.destroy .execution c.process])
        (r.events s (early ++ (spell ++ late))) := by
  rw [follow_append, follow_append, stretch.follow] at finished ⊢
  have standardLate : IsStandard s { r.follow s early with stage := .abandoning c fault } late := by
    intro m found
    refine standard m ?_
    rw [moments_append, moments_append, stretch.follow]
    exact List.mem_append_right _ (List.mem_append_right _ found)
  obtain ⟨later, destroyed, nothing⟩ := events_of_abandoning rfl finished
  refine ⟨outcome?_of_settled_of_isSome rfl standardLate finished, r.events s early, later, ?_,
    quiet, nothing⟩
  rw [events_append, events_append, stretch.events, stretch.follow, destroyed]
  simp

/-- An execution whose wait is answered has come to wait before. -/
theorem exists_approach_of_answered {plan : Plan} {n : Nat} {answer : Reply}
    (answered : answers s { plan } worlds = replicate n (.raised .interrupted) ++ [answer]) :
    ∃ c early late, worlds = early ++ late ∧
      (follow s { plan } early).stage = .waiting c false false ∧
      (∀ event ∈ events s { plan } early, event.seeksEnd = false) ∧
      (follow s { plan } early).answers s late =
        replicate n (.raised .interrupted) ++ [answer] := by
  rcases exists_approach s worlds (r := { plan }) rfl with
    ⟨noAnswer, -⟩ | ⟨c, early, late, rfl, waiting, quiet, noAnswer, -⟩
  · rw [noAnswer] at answered
    simp at answered
  · rw [answers_append, noAnswer, List.nil_append] at answered
    exact ⟨c, early, late, rfl, waiting, quiet, answered⟩

/-- An execution that comes to an exit value goes on as if its first wait had come to it. -/
theorem exists_exited {plan : Plan} {n : Nat} {exitValue : Int}
    (answered : answers s { plan } worlds =
      replicate n (.raised .interrupted) ++ [.exited exitValue]) :
    ∃ c, launched s { plan } worlds = [c.process] ∧
      Event.SeekEnd (Event.waits c.process n) (events s { plan } worlds) ∧
      ∃ early spell late, worlds = early ++ spell ++ late ∧
        (follow s { plan } early).stage = .waiting c false false ∧
        (follow s { plan } (early ++ spell)).stage = .ending c exitValue ∧
        ∀ w, (World.enterWait s w c.process).1 = .exited exitValue →
          follow s { plan } (early ++ [w]) = follow s { plan } (early ++ spell) := by
  obtain ⟨c, early, rest, rfl, waiting, quiet, later⟩ := exists_approach_of_answered answered
  obtain ⟨spell, late, kills, rfl, stretch⟩ := exists_waited waiting later fun _ => rfl
  have reached : follow s { plan } (early ++ spell) =
      { follow s { plan } early with stage := .ending c exitValue } := by
    rw [follow_append, stretch.follow]
  have settling : (follow s { plan } (early ++ spell)).stage.isSettling = true := by
    rw [reached]
    rfl
  refine ⟨c, launched_of_waiting _ waiting, ?_, early, spell, late, ?_, waiting, ?_, ?_⟩
  · refine ⟨events s { plan } early, (follow s { plan } (early ++ spell)).events s late, ?_, quiet,
      not_seeksEnd_of_isSettling settling⟩
    rw [← List.append_assoc, events_append, events_append, stretch.events]
  · exact (List.append_assoc ..).symm
  · rw [reached]
  · intro w exits
    have replied : Moment.reply s { run := follow s { plan } early, world := w } =
        .exited exitValue := by
      simp [Moment.reply, waiting, exits, Reply.ofWait]
    have single := Stretch.of_waiting waiting replied rfl
    rw [follow_append, single.follow, reached]
    rfl

/-- An execution whose wait fails gives its process up. -/
theorem exists_failed_wait {plan : Plan} {n : Nat} {fault : Fault}
    (answered : answers s { plan } worlds = replicate n (.raised .interrupted) ++ [.raised fault])
    (failed : fault ≠ .interrupted) (standard : IsStandard s { plan } worlds)
    (finished : (follow s { plan } worlds).outcome?.isSome) :
    (follow s { plan } worlds).outcome? = some (.fault fault) ∧
      ∃ p, launched s { plan } worlds = [p] ∧
        Event.SeekEnd (Event.waits p n ++ [.destroy .execution p]) (events s { plan } worlds) := by
  have known : fault.isStandard = true := by
    apply isStandard_of_mem_answers standard
    simp [answered]
  obtain ⟨c, early, rest, rfl, waiting, quiet, later⟩ := exists_approach_of_answered answered
  have abandons : ∀ interrupted, (Stage.waiting c interrupted false).after
      (follow s { plan } early).plan s.isFailure (.raised fault) = .abandoning c fault := by
    intro interrupted
    cases fault with
    | interrupted | alien => contradiction
    | _ => rfl
  obtain ⟨spell, late, kills, rfl, stretch⟩ := exists_waited waiting later abandons
  obtain ⟨outcome, seek⟩ := seekEnd_of_abandoning quiet stretch standard finished
  exact ⟨outcome, c.process, launched_of_waiting _ waiting, seek⟩

/-- An execution that cannot destroy its process after an interruption gives it up. -/
theorem exists_failed_destruction {plan : Plan} {fault : Fault}
    (failed : .raised fault ∈ kills s { plan } worlds) (standard : IsStandard s { plan } worlds)
    (finished : (follow s { plan } worlds).outcome?.isSome) :
    (follow s { plan } worlds).outcome? = some (.fault fault) ∧
      answers s { plan } worlds = [.raised .interrupted] ∧
      ∃ p, launched s { plan } worlds = [p] ∧
        Event.SeekEnd [.waitFor p, .destroy .execution p, .destroy .execution p]
          (events s { plan } worlds) := by
  have known := isStandard_of_mem_kills standard failed
  rcases exists_approach s worlds (r := { plan }) rfl with
    ⟨-, noKill⟩ | ⟨c, early, rest, rfl, waiting, quiet, noAnswer, noKill⟩
  · rw [noKill] at failed
    contradiction
  rw [kills_append, noKill, List.nil_append] at failed
  obtain ⟨spell, late, rfl, stretch⟩ := exists_failed_kill waiting failed known
  obtain ⟨outcome, seek⟩ := seekEnd_of_abandoning quiet stretch standard finished
  refine ⟨outcome, ?_, c.process, launched_of_waiting _ waiting, seek⟩
  rw [answers_append, answers_append, noAnswer, stretch.answers, stretch.follow,
    answers_of_not_isForward rfl]
  rfl

/-- An execution whose wait is interrupted.  In whatever worlds it takes its steps:

* If the wait is interrupted some number of times and then comes to an exit value, the process
  was waited for once more than that and, if it was interrupted at all, destroyed once by the
  execution, right after the first interruption.  Nothing else waited for it or destroyed it on
  behalf of the execution, and the execution goes on as if the first wait had come to that value.
* If the wait comes to a fault instead, that is the outcome, and the execution has destroyed the
  process once more right after it, provided that all that is raised is of a standard kind.
* If the destruction after the first interruption raises a fault, that is the outcome, and the
  execution has destroyed the process once more right after it.
* The first interruption is reported if the journal writes warnings, and no other warning is
  written while the process is waited for. -/
theorem wait_interrupted (s : Surroundings σ) (plan : Plan) (worlds : List (World σ)) :
    let answers := answers s { plan } worlds
    let events := events s { plan } worlds
    let outcome? := (follow s { plan } worlds).outcome?
    (∀ n exitValue, answers = replicate n (.raised .interrupted) ++ [.exited exitValue] →
      ∃ c, launched s { plan } worlds = [c.process] ∧
        Event.SeekEnd (Event.waits c.process n) events ∧
        ∃ early spell late, worlds = early ++ spell ++ late ∧
          (follow s { plan } early).stage = .waiting c false false ∧
          (follow s { plan } (early ++ spell)).stage = .ending c exitValue ∧
          ∀ w, (World.enterWait s w c.process).1 = .exited exitValue →
            follow s { plan } (early ++ [w]) = follow s { plan } (early ++ spell)) ∧
    (outcome?.isSome → IsStandard s { plan } worlds →
      (∀ n fault, answers = replicate n (.raised .interrupted) ++ [.raised fault] →
        fault ≠ .interrupted → outcome? = some (.fault fault) ∧
          ∃ p, launched s { plan } worlds = [p] ∧
            Event.SeekEnd (Event.waits p n ++ [.destroy .execution p]) events) ∧
      ∀ fault, .raised fault ∈ kills s { plan } worlds → outcome? = some (.fault fault) ∧
        answers = [.raised .interrupted] ∧
          ∃ p, launched s { plan } worlds = [p] ∧
            Event.SeekEnd [.waitFor p, .destroy .execution p, .destroy .execution p] events) ∧
    warnings s { plan } worlds =
      (((moments s { plan } worlds).find? (·.isInterrupted s)).bind (·.alarm? s)).toList := by
  intro answers events outcome?
  refine ⟨fun n exitValue answered => exists_exited answered, fun finished standard => ⟨?_, ?_⟩,
    warnings_eq rfl⟩
  · intro n fault answered failed
    exact exists_failed_wait answered failed standard finished
  · intro fault failed
    exact exists_failed_destruction failed standard finished

open Script in
/-- A cast whose process is interrupted twice and ends once it was destroyed. -/
def restlessCast : Cast where
  queue := [{ waits := [.interrupted, .interrupted], lingers := true }]

open Script in
/-- A cast whose process is interrupted once and cannot be waited for then. -/
def waitlessCast : Cast where
  queue := [{ waits := [.interrupted, .runtime []] }]

open Script in
/-- A process that is interrupted twice is waited for three times, one whose wait fails then is
destroyed twice, and so is one that cannot be destroyed. -/
theorem wait_interrupted_restlessCast :
    let restless := unattended Cast.rehearsal 24 { plan := rehearsalPlan } restlessCast.world
    let waitless := unattended Cast.rehearsal 24 { plan := rehearsalPlan } waitlessCast.world
    let stubborn := unattended Cast.rehearsal 24 { plan := rehearsalPlan } stubbornCast.world
    Event.SeekEnd (Event.waits (.launched 0) 2)
        (events Cast.rehearsal { plan := rehearsalPlan } restless) ∧
      warnings Cast.rehearsal { plan := rehearsalPlan } restless = [.waitInterrupted 4242] ∧
      (follow Cast.rehearsal { plan := rehearsalPlan } waitless).outcome? =
        some (.fault (.runtime [])) ∧
      (follow Cast.rehearsal { plan := rehearsalPlan } stubborn).outcome? =
        some (.fault (.runtime [])) := by
  intro restless waitless stubborn
  obtain ⟨exits, -, warned⟩ := wait_interrupted Cast.rehearsal rehearsalPlan restless
  obtain ⟨c, launched, seek, -⟩ := exits 2 137 (by decide)
  obtain ⟨fails, -⟩ := (wait_interrupted Cast.rehearsal rehearsalPlan waitless).2.1
    (by decide) (by decide)
  obtain ⟨-, failsToKill⟩ := (wait_interrupted Cast.rehearsal rehearsalPlan stubborn).2.1
    (by decide) (by decide)
  have process : [ProcessRef.launched 0] = [c.process] := launched
  rw [← List.singleton_inj.mp process] at seek
  refine ⟨seek, warned.trans (by decide), ?_, ?_⟩
  · exact (fails 1 (.runtime []) (by decide) (by decide)).1
  · exact (failsToKill (.runtime []) (by decide)).1

end Run

end Overseer
