import Overseer.Proofs.Execution.Outcome

/-!
# What an execution owes

What an execution takes on it has to give back: a session that was started is to be
stopped, a process that was given to a destroyer is to be taken off it, and a process
that was launched is to be let go of.  The stage of an execution tells what it owes.
Every step balances: what was owed before it and what it takes on are what it gives
back and what is owed after it.
-/

namespace Overseer

namespace Event

/-- The session that a call stops. -/
def stopped? : Event → Option SessionId
  | .stopStreams session => some session
  | _ => none

/-- The destroyer and the process that a call adds to it. -/
def enlisted? : Event → Option (DestroyerId × ProcessRef)
  | .enlist i p => some (i, p)
  | _ => none

/-- The destroyer and the process that a call removes from it. -/
def delisted? : Event → Option (DestroyerId × ProcessRef)
  | .delist i p => some (i, p)
  | _ => none

/-- The process that a call lets go of. -/
def released? : Event → Option ProcessRef
  | .release p => some p
  | _ => none

end Event

namespace Moment

variable {σ : Type}

/-- The process that the step launches. -/
def launched? (s : Surroundings σ) (m : Moment σ) : Option ProcessRef :=
  match m.run.stage, m.reply s with
  | .launching, .launched p => some p
  | _, _ => none

/-- The session that the step starts. -/
def started? (s : Surroundings σ) (m : Moment σ) : Option SessionId :=
  match m.run.stage with
  | .starting c => if (m.reply s).fault?.isNone then some c.session else none
  | _ => none

end Moment

/-! ## What is owed -/

namespace Stage

/-- What an execution holds at a stage at which it has a session. -/
def custody? : Stage → Option Custody
  | .attaching c _ | .starting c | .enlisting c | .watching c | .waiting c _ _ | .killing c
  | .abandoning c _ | .unwatching c _ | .halting c _ | .ending c _ | .stopping c _
  | .closing c _ _ _ | .judging c _ _ | .leaving c _ | .delisting c _ => some c
  | _ => none

/-- Whether an execution can be at a stage with what it holds. -/
def isSound : Stage → Bool
  | .attaching c _ | .starting c => !c.flowing && !c.enlisted && !c.watched
  | .enlisting c => c.flowing && !c.enlisted && !c.watched
  | .watching c => c.flowing && !c.watched
  | .waiting c _ _ | .killing c | .ending c _ | .stopping c _ => c.flowing
  | _ => true

/-- The session that is still to be stopped. -/
def owedStop : Stage → Option SessionId
  | .enlisting c | .watching c | .waiting c _ _ | .killing c | .ending c _ | .stopping c _ =>
      some c.session
  | .abandoning c _ | .unwatching c _ | .halting c _ => if c.flowing then some c.session else none
  | _ => none

/-- The process that is still to be taken off a destroyer. -/
def owedDelist (plan : Plan) (stage : Stage) : Option (DestroyerId × ProcessRef) :=
  stage.custody?.bind (fun c => if c.enlisted then plan.destroyer.map (·, c.process) else none)

/-- The process that is still to be let go of. -/
def owedRelease : Stage → Option ProcessRef
  | .opening p | .releasing p _ => some p
  | stage => stage.custody?.map (·.process)

variable {plan : Plan} {convention : Int → Bool} {stage : Stage} {reply : Reply}

theorem isSound_orAbandon {c : Custody} {next : Stage} (sound : next.isSound = true) :
    (reply.orAbandon c next).isSound = true := by
  rcases Reply.orAbandon_eq c next reply with eq | ⟨fault, eq⟩ | ⟨_, fault, eq⟩
  · rwa [eq]
  · rw [eq]
    rfl
  · rw [eq]
    rfl

theorem isSound_orLeave {c : Custody} {next : Stage} (sound : next.isSound = true) :
    (reply.orLeave c next).isSound = true := by
  rcases Reply.orLeave_eq c next reply with eq | ⟨_, fault, eq⟩
  · rwa [eq]
  · rw [eq]
    rfl

theorem isSound_after (sound : stage.isSound = true) :
    (stage.after plan convention reply).isSound = true := by
  cases stage with
  | launching | opening p | judging c exitValue first => cases reply <;> rfl
  | attaching c stream =>
      apply isSound_orAbandon
      cases stream <;> exact sound
  | starting c =>
      apply isSound_orAbandon
      simp_all [isSound]
  | enlisting c =>
      simp only [after]
      split
      · simp_all [isSound]
      · apply isSound_orAbandon
        simp_all [isSound]
  | watching c =>
      simp only [after]
      split
      · simp_all [isSound]
      · apply isSound_orAbandon
        simp_all [isSound]
  | waiting c interrupted entered =>
      cases reply with
      | raised fault => cases fault <;> cases interrupted <;> first | exact sound | rfl
      | _ => exact sound
  | killing c => exact isSound_orAbandon sound
  | abandoning c fault | halting c fault | stopping c exitValue => exact isSound_orLeave rfl
  | closing c exitValue first stream =>
      apply isSound_orLeave
      cases stream <;> rfl
  | ending c exitValue => simpa [after, isSound] using sound
  | unwatching c fault | leaving c outcome | delisting c outcome | releasing p outcome
  | ended outcome => rfl

theorem owedStop_orAbandon (c : Custody) (next : Stage) (standard : reply.isStandard = true)
    (same : next.owedStop = if c.flowing then some c.session else none) :
    (reply.orAbandon c next).owedStop = if c.flowing then some c.session else none := by
  rcases Reply.orAbandon_eq c next reply with eq | ⟨fault, eq⟩ | ⟨alien, _⟩
  · rw [eq, same]
  · rw [eq, owedStop]
  · simp [standard] at alien

theorem owedRelease_of_custody {c : Custody} (held : stage.custody? = some c) :
    stage.owedRelease = some c.process := by
  cases stage <;> simp_all [custody?, owedRelease]

/-- Of what is held the process and the registration stay the same. -/
def KeepsHold (c : Custody) (next : Stage) : Prop :=
  ∃ c', next.custody? = some c' ∧ c'.process = c.process ∧ c'.enlisted = c.enlisted

theorem keepsHold_orAbandon {c : Custody} {next : Stage} (keeps : KeepsHold c next) :
    KeepsHold c (reply.orAbandon c next) := by
  rcases Reply.orAbandon_eq c next reply with eq | ⟨fault, eq⟩ | ⟨_, fault, eq⟩
  · rwa [eq]
  · exact ⟨c, congrArg custody? eq, rfl, rfl⟩
  · exact ⟨c, congrArg custody? eq, rfl, rfl⟩

theorem keepsHold_orLeave {c : Custody} {next : Stage} (keeps : KeepsHold c next) :
    KeepsHold c (reply.orLeave c next) := by
  rcases Reply.orLeave_eq c next reply with eq | ⟨_, fault, eq⟩
  · rwa [eq]
  · exact ⟨c, congrArg custody? eq, rfl, rfl⟩

/-- Whether the step adds the process to a destroyer. -/
def enlists (plan : Plan) : Stage → Bool
  | .enlisting _ => plan.destroyer.isSome
  | _ => false

theorem not_enlisted_of_enlists {c : Custody} (sound : stage.isSound = true)
    (held : stage.custody? = some c) (enlists : stage.enlists plan = true) :
    c.enlisted = false := by
  cases stage with
  | enlisting c' =>
      cases held
      simp only [isSound, Bool.and_eq_true, Bool.not_eq_true'] at sound
      exact sound.1.2
  | _ => simp [Stage.enlists] at enlists

/-- The process is held until it is let go of, and its registration from the step that
makes it until the one that undoes it. -/
theorem keepsHold_after (plan : Plan) (convention : Int → Bool) (reply : Reply) {c : Custody}
    (held : stage.custody? = some c) :
    KeepsHold { c with enlisted := c.enlisted || stage.enlists plan }
        (stage.after plan convention reply) ∨
      ∃ outcome, stage = .delisting c outcome ∧
        stage.after plan convention reply = .releasing c.process outcome := by
  cases stage with
  | launching | opening p | releasing p outcome | ended outcome => simp [custody?] at held
  | delisting c' outcome =>
      cases held
      exact .inr ⟨outcome, rfl, rfl⟩
  | attaching c' stream =>
      cases held
      simp only [enlists, Bool.or_false]
      exact .inl (keepsHold_orAbandon (by cases stream <;> exact ⟨c, rfl, rfl, rfl⟩))
  | starting c' | killing c' =>
      cases held
      simp only [enlists, Bool.or_false]
      exact .inl (keepsHold_orAbandon ⟨_, rfl, rfl, rfl⟩)
  | enlisting c' =>
      cases held
      simp only [after, enlists]
      cases plan.destroyer with
      | none => exact .inl ⟨c, rfl, rfl, by simp⟩
      | some i =>
          simp only [Option.isSome_some, Bool.or_true]
          exact .inl (keepsHold_orAbandon ⟨_, rfl, rfl, rfl⟩)
  | watching c' =>
      cases held
      simp only [after, enlists, Bool.or_false]
      cases plan.watchdog with
      | none => exact .inl ⟨c, rfl, rfl, rfl⟩
      | some i => exact .inl (keepsHold_orAbandon ⟨_, rfl, rfl, rfl⟩)
  | waiting c' interrupted entered =>
      cases held
      simp only [enlists, Bool.or_false]
      have keeps : KeepsHold c (reply.orAbandon c (.waiting c interrupted entered)) :=
        keepsHold_orAbandon ⟨c, rfl, rfl, rfl⟩
      cases reply with
      | raised fault =>
          cases fault with
          | interrupted => cases interrupted <;> exact .inl ⟨c, rfl, rfl, rfl⟩
          | _ => exact .inl keeps
      | _ => exact .inl ⟨c, rfl, rfl, rfl⟩
  | abandoning c' fault | halting c' fault | stopping c' exitValue =>
      cases held
      simp only [enlists, Bool.or_false]
      exact .inl (keepsHold_orLeave ⟨_, rfl, rfl, rfl⟩)
  | closing c' exitValue first stream =>
      cases held
      simp only [enlists, Bool.or_false]
      exact .inl (keepsHold_orLeave (by cases stream <;> exact ⟨c, rfl, rfl, rfl⟩))
  | judging c' exitValue first =>
      cases held
      simp only [enlists, Bool.or_false]
      cases reply <;> exact .inl ⟨c, rfl, rfl, rfl⟩
  | unwatching c' fault | ending c' exitValue | leaving c' outcome =>
      cases held
      simp only [enlists, Bool.or_false]
      exact .inl ⟨_, rfl, Custody.process_unwatched plan c, Custody.enlisted_unwatched plan c⟩

end Stage

/-! ## Every step balances -/

namespace Moment

variable {σ : Type} {s : Surroundings σ} {m : Moment σ}

theorem stop_balanced (sound : m.run.stage.isSound = true)
    (standard : (m.reply s).isStandard = true) :
    m.run.stage.owedStop.toList ++ (m.started? s).toList =
      m.calls.filterMap Event.stopped? ++ (m.next s).1.stage.owedStop.toList := by
  rw [stage_next]
  rcases m with ⟨⟨plan, stage, announced⟩, w⟩
  cases stage with
  | launching | opening p =>
      simp only [started?, calls, Stage.after]
      generalize reply s _ = reply
      cases reply <;> rfl
  | attaching c stream =>
      simp only [Stage.isSound, Bool.and_eq_true, Bool.not_eq_true'] at sound
      have owed := Stage.owedStop_orAbandon c (Run.afterAttaching c stream) standard
        (by cases stream <;> simp [Run.afterAttaching, Stage.owedStop, sound])
      rw [Stage.after, owed]
      simp [started?, calls, Event.stopped?, Stage.owedStop, sound]
  | starting c =>
      simp only [Stage.isSound, Bool.and_eq_true, Bool.not_eq_true'] at sound
      simp only [started?, calls, Stage.after]
      generalize reply s _ = reply at standard ⊢
      cases reply <;>
        simp_all [Reply.orAbandon, Reply.isStandard, Reply.fault?, Stage.owedStop, Event.stopped?]
  | enlisting c =>
      simp only [Stage.isSound, Bool.and_eq_true, Bool.not_eq_true'] at sound
      cases destroyer : plan.destroyer with
      | none => simp [started?, calls, Stage.after, Stage.owedStop, destroyer]
      | some i =>
          have owed := Stage.owedStop_orAbandon { c with enlisted := true }
            (.watching { c with enlisted := true }) standard (by simp [Stage.owedStop, sound])
          have blind := World.filterMap_condemnation (f := Event.stopped?) w i c.process rfl
          simp only [Stage.after, destroyer, owed]
          simp [started?, calls, destroyer, List.filterMap_cons, Event.stopped?, blind,
            Stage.owedStop, sound]
  | watching c =>
      simp only [Stage.isSound, Bool.and_eq_true, Bool.not_eq_true'] at sound
      cases watchdog : plan.watchdog with
      | none => simp [started?, calls, Stage.after, Stage.owedStop, watchdog]
      | some i =>
          have owed := Stage.owedStop_orAbandon c
            (.waiting { c with watched := true } false false) standard
            (by simp [Stage.owedStop, sound])
          simp only [Stage.after, watchdog, owed]
          simp [started?, calls, Stage.owedStop, sound]
  | waiting c interrupted entered =>
      simp only [Stage.isSound] at sound
      simp only [started?, calls, Stage.after]
      generalize reply s _ = reply at standard ⊢
      cases reply with
      | raised fault =>
          cases fault <;> cases interrupted <;> cases entered <;>
            simp_all [Reply.orAbandon, Reply.isStandard, Stage.owedStop, Event.stopped?]
      | _ => cases entered <;> simp [Reply.orAbandon, Stage.owedStop, Event.stopped?]
  | killing c =>
      simp only [Stage.isSound] at sound
      have owed := Stage.owedStop_orAbandon c (.waiting c true false) standard
        (by simp [Stage.owedStop, sound])
      rw [Stage.after, owed]
      simp [started?, calls, Event.stopped?, Stage.owedStop, sound]
  | abandoning c fault =>
      rw [Stage.after, Reply.orLeave_of_isStandard standard]
      simp [started?, calls, Event.stopped?, Stage.owedStop]
  | unwatching c fault | ending c exitValue =>
      simp [started?, calls, Stage.after, Stage.owedStop]
  | halting c fault =>
      rw [Stage.after, Reply.orLeave_of_isStandard standard]
      cases flowing : c.flowing <;>
        simp [started?, calls, Event.stopped?, Stage.owedStop, flowing]
  | stopping c exitValue =>
      rw [Stage.after, Reply.orLeave_of_isStandard standard]
      simp [started?, calls, Event.stopped?, Stage.owedStop]
  | closing c exitValue first stream =>
      rw [Stage.after, Reply.orLeave_of_isStandard standard]
      cases stream <;>
        simp [started?, calls, Run.afterClosing, Event.stopped?, Stage.owedStop]
  | judging c exitValue first => rfl
  | delisting c outcome =>
      simp only [started?, calls, Stage.after]
      split <;> rfl
  | leaving c outcome | releasing p outcome | ended outcome => rfl

/-- Who has a session neither launches a process nor lets go of one. -/
theorem released_calls_of_custody {c : Custody} (held : m.run.stage.custody? = some c) :
    m.launched? s = none ∧ m.calls.filterMap Event.released? = [] := by
  rcases m with ⟨⟨plan, stage, announced⟩, w⟩
  cases stage with
  | launching | opening p | releasing p outcome | ended outcome => simp [Stage.custody?] at held
  | enlisting c' =>
      refine ⟨rfl, ?_⟩
      simp only [calls]
      cases plan.destroyer with
      | none => rfl
      | some i => exact World.filterMap_condemnation w i c'.process rfl
  | waiting c' interrupted entered => cases entered <;> exact ⟨rfl, rfl⟩
  | halting c' fault =>
      refine ⟨rfl, ?_⟩
      simp only [calls]
      split <;> rfl
  | delisting c' outcome =>
      refine ⟨rfl, ?_⟩
      simp only [calls]
      split <;> rfl
  | _ => exact ⟨rfl, rfl⟩

theorem release_balanced :
    m.run.stage.owedRelease.toList ++ (m.launched? s).toList =
      m.calls.filterMap Event.released? ++ (m.next s).1.stage.owedRelease.toList := by
  rw [stage_next]
  cases held : m.run.stage.custody? with
  | some c =>
      obtain ⟨noLaunch, noRelease⟩ := released_calls_of_custody (s := s) held
      rw [noLaunch, noRelease, Stage.owedRelease_of_custody held]
      rcases Stage.keepsHold_after m.run.plan s.isFailure (m.reply s) held with
        ⟨c', stillHeld, same, _⟩ | ⟨outcome, _, next⟩
      · rw [Stage.owedRelease_of_custody stillHeld, same]
        rfl
      · rw [next]
        rfl
  | none =>
      rcases m with ⟨⟨plan, stage, announced⟩, w⟩
      cases stage with
      | launching | opening p =>
          simp only [launched?, calls, Stage.after]
          generalize reply s _ = reply
          cases reply <;> rfl
      | releasing p outcome | ended outcome => rfl
      | _ => simp [Stage.custody?] at held

theorem releasing_of_mem_calls {p : ProcessRef} (called : .release p ∈ m.calls) :
    ∃ outcome, m.run.stage = .releasing p outcome := by
  have made := makes_of_mem_calls called
  cases atStage : m.run.stage with
  | releasing q outcome =>
      simp only [calls, atStage, List.mem_singleton, Event.release.injEq] at called
      exact ⟨outcome, by rw [called]⟩
  | _ => simp [Stage.makes, atStage] at made

theorem delisting_of_mem_calls {i : DestroyerId} {p : ProcessRef} (called : .delist i p ∈ m.calls) :
    ∃ c outcome, m.run.stage = .delisting c outcome ∧ c.process = p ∧ m.calls = [.delist i p] := by
  have made := makes_of_mem_calls called
  cases atStage : m.run.stage with
  | delisting c outcome =>
      simp only [calls, atStage] at called ⊢
      split at called
      · simp only [List.mem_singleton, Event.delist.injEq] at called
        obtain ⟨rfl, rfl⟩ := called
        exact ⟨c, outcome, rfl, rfl, by simp_all⟩
      · contradiction
  | _ => simp [Stage.makes, atStage] at made

/-- The process that the step adds to a destroyer. -/
def enlisted? (m : Moment σ) : Option (DestroyerId × ProcessRef) :=
  m.run.stage.custody?.bind (fun c =>
    if m.run.stage.enlists m.run.plan then m.run.plan.destroyer.map (·, c.process) else none)

theorem enlisted_calls : m.calls.filterMap Event.enlisted? = m.enlisted?.toList := by
  rcases m with ⟨⟨plan, stage, announced⟩, w⟩
  cases stage with
  | enlisting c =>
      cases destroyer : plan.destroyer with
      | none => simp [calls, enlisted?, Stage.custody?, destroyer]
      | some i =>
          have blind := World.filterMap_condemnation (f := Event.enlisted?) w i c.process rfl
          simp [calls, destroyer, Event.enlisted?, blind, enlisted?, Stage.custody?, Stage.enlists]
  | waiting c interrupted entered => cases entered <;> rfl
  | halting c fault =>
      simp only [calls]
      split <;> rfl
  | delisting c outcome =>
      simp only [calls]
      split <;> rfl
  | _ => rfl

/-- Only one step removes a process from a destroyer. -/
theorem delisted_calls (notDelisting : ∀ c outcome, m.run.stage ≠ .delisting c outcome) :
    m.calls.filterMap Event.delisted? = [] := by
  rw [List.filterMap_eq_nil_iff]
  intro event called
  cases event with
  | delist i p =>
      obtain ⟨c, outcome, atStage, _⟩ := delisting_of_mem_calls called
      exact absurd atStage (notDelisting c outcome)
  | _ => rfl

theorem delist_balanced (sound : m.run.stage.isSound = true) :
    (m.run.stage.owedDelist m.run.plan).toList ++ m.calls.filterMap Event.enlisted? =
      m.calls.filterMap Event.delisted? ++ ((m.next s).1.stage.owedDelist m.run.plan).toList := by
  rw [stage_next, enlisted_calls, enlisted?]
  cases held : m.run.stage.custody? with
  | some c =>
      rcases Stage.keepsHold_after m.run.plan s.isFailure (m.reply s) held with
        ⟨c', stillHeld, same, enlisted⟩ | ⟨outcome, stage, next⟩
      · have noDelist : m.calls.filterMap Event.delisted? = [] := by
          apply delisted_calls
          intro c outcome stage
          rw [stage] at stillHeld
          simp [Stage.after, Stage.custody?] at stillHeld
        rw [noDelist]
        simp only [Stage.owedDelist, held, stillHeld, enlisted, same, Option.bind_some]
        cases enlists : m.run.stage.enlists m.run.plan with
        | false => simp
        | true =>
            have fresh : c.enlisted = false := Stage.not_enlisted_of_enlists sound held enlists
            simp [fresh]
      · rw [next]
        rcases m with ⟨⟨plan, stage, announced⟩, w⟩
        cases stage
        simp only [calls, Stage.owedDelist, Stage.custody?, Stage.enlists, Option.bind_some]
        cases c.enlisted <;> cases plan.destroyer <;> rfl
  | none =>
      rcases m with ⟨⟨plan, stage, announced⟩, w⟩
      cases stage with
      | launching | opening p =>
          simp only [calls, Stage.after]
          generalize reply s _ = reply
          cases reply <;> rfl
      | releasing p outcome | ended outcome => rfl
      | _ => simp [Stage.custody?] at held

end Moment

/-! ## Nothing is taken on twice -/

namespace Stage

/-- How far an execution has come in taking things on. -/
def rank : Stage → Nat
  | .launching => 0
  | .opening _ => 1
  | .attaching _ _ => 2
  | .starting _ => 3
  | .enlisting _ => 4
  | _ => 5

theorem rank_le (stage : Stage) : stage.rank ≤ 5 := by
  cases stage <;> simp [rank]

variable {plan : Plan} {convention : Int → Bool} {reply : Reply}

theorem le_rank_orAbandon {c : Custody} {next : Stage} {n : Nat} (later : n ≤ next.rank) :
    n ≤ (reply.orAbandon c next).rank := by
  rcases Reply.orAbandon_eq c next reply with eq | ⟨fault, eq⟩ | ⟨_, fault, eq⟩
  · rwa [eq]
  · rw [eq]
    exact Nat.le_trans later next.rank_le
  · rw [eq]
    exact Nat.le_trans later next.rank_le

theorem le_rank_orLeave {c : Custody} {next : Stage} {n : Nat} (later : n ≤ next.rank) :
    n ≤ (reply.orLeave c next).rank := by
  rcases Reply.orLeave_eq c next reply with eq | ⟨_, fault, eq⟩
  · rwa [eq]
  · rw [eq]
    exact Nat.le_trans later next.rank_le

/-- No step goes back. -/
theorem rank_le_rank_after (plan : Plan) (convention : Int → Bool) (stage : Stage)
    (reply : Reply) : stage.rank ≤ (stage.after plan convention reply).rank := by
  cases stage with
  | launching => simp [rank]
  | opening p => cases reply <;> simp [after, rank]
  | attaching c stream =>
      apply le_rank_orAbandon
      cases stream <;> simp [Run.afterAttaching, rank]
  | starting c | killing c => exact le_rank_orAbandon (by simp [rank])
  | enlisting c =>
      simp only [after]
      split
      · simp [rank]
      · exact le_rank_orAbandon (by simp [rank])
  | watching c =>
      simp only [after]
      split
      · simp [rank]
      · exact le_rank_orAbandon (by simp [rank])
  | waiting c interrupted entered =>
      have goesOn : 5 ≤ (reply.orAbandon c (.waiting c interrupted entered)).rank :=
        le_rank_orAbandon (by simp [rank])
      cases reply with
      | raised fault =>
          cases fault with
          | interrupted => cases interrupted <;> simp [after, rank]
          | _ => exact goesOn
      | _ => simp [after, Reply.orAbandon, rank]
  | abandoning c fault | halting c fault | stopping c exitValue =>
      exact le_rank_orLeave (by simp [rank])
  | closing c exitValue first stream =>
      apply le_rank_orLeave
      cases stream <;> simp [Run.afterClosing, rank]
  | judging c exitValue first => cases reply <;> simp [after, rank]
  | unwatching c fault | ending c exitValue | leaving c outcome | delisting c outcome
  | releasing p outcome | ended outcome => simp [after, rank]

theorem after_ne_launching {stage : Stage} (launched : stage ≠ .launching) :
    stage.after plan convention reply ≠ .launching := by
  intro back
  have onward := rank_le_rank_after plan convention stage reply
  rw [back] at onward
  cases stage <;> simp_all [rank]

end Stage

namespace Moment

variable {σ : Type} {s : Surroundings σ} {m : Moment σ}

theorem rank_of_launched {p : ProcessRef} (launched : m.launched? s = some p) :
    m.run.stage.rank < 1 ∧ 1 ≤ (m.next s).1.stage.rank := by
  rw [stage_next]
  unfold launched? at launched
  split at launched
  · next atStage replied =>
      rw [atStage, replied]
      exact ⟨Nat.zero_lt_one, Nat.le_refl 1⟩
  · contradiction

theorem rank_of_started {session : SessionId} (started : m.started? s = some session) :
    m.run.stage.rank < 4 ∧ 4 ≤ (m.next s).1.stage.rank := by
  rw [stage_next]
  unfold started? at started
  split at started
  · next c atStage =>
      rw [atStage]
      exact ⟨by simp [Stage.rank], Stage.le_rank_orAbandon (Nat.le_refl _)⟩
  · contradiction

theorem rank_of_enlisted {pair : DestroyerId × ProcessRef} (enlisted : m.enlisted? = some pair) :
    m.run.stage.rank < 5 ∧ 5 ≤ (m.next s).1.stage.rank := by
  rw [stage_next]
  rcases m with ⟨⟨plan, stage, announced⟩, w⟩
  cases stage with
  | enlisting c =>
      refine ⟨by simp [Stage.rank], ?_⟩
      simp only [Stage.after]
      split
      · exact Nat.le_refl 5
      · exact Stage.le_rank_orAbandon (Nat.le_refl _)
  | _ => simp [enlisted?, Stage.enlists] at enlisted

end Moment

namespace Run

variable {σ : Type} {s : Surroundings σ} {worlds : List (World σ)}

/-- What moves the execution on to a rank happens once. -/
theorem filterMap_length_le_one {α : Type} {taken? : Moment σ → Option α} {n : Nat}
    (passes : ∀ m a, taken? m = some a → m.run.stage.rank < n ∧ n ≤ (m.next s).1.stage.rank)
    (r : Run) :
    ((r.moments s worlds).filterMap taken?).length ≤ 1 ∧
      (n ≤ r.stage.rank → (r.moments s worlds).filterMap taken? = []) := by
  induction worlds generalizing r with
  | nil => simp [moments]
  | cons w worlds inductionHypothesis =>
      obtain ⟨atMostOne, noneLater⟩ := inductionHypothesis (r.step s w).1
      have onward : r.stage.rank ≤ (r.step s w).1.stage.rank := by
        rw [stage_step]
        exact Stage.rank_le_rank_after ..
      cases taken : taken? { run := r, world := w } with
      | none =>
          simp only [moments, List.filterMap_cons, taken]
          exact ⟨atMostOne, fun late => noneLater (Nat.le_trans late onward)⟩
      | some a =>
          obtain ⟨before, after⟩ := passes _ a taken
          simp only [Moment.next] at before after
          simp only [moments, List.filterMap_cons, taken, noneLater after]
          exact ⟨Nat.le_refl 1, fun late => absurd before (Nat.not_lt.mpr late)⟩

end Run

end Overseer
