import Overseer.Proofs.Execution.Watch
import Overseer.Proofs.Fleet.Basic

/-!
# References are claimed by executions

A reference to a process is harmless as long as an execution still has to undo it.
So what an execution owes is also a claim: the execution that has yet to end its watch
answers for what the watchdog holds, and the one that has yet to take its process off
a registry answers for its entry.  `Member.Advances` says how a member may change
references: it may make one that it claims from then on, and if it gives a claim up,
the reference is gone.
-/

namespace Overseer

/-! ## Frames of a step -/

namespace Moment

variable {σ : Type} {s : Surroundings σ} {m : Moment σ}

theorem slot_next (other : m.run.stage.handlesWatch = false) :
    (m.next s).2.slot = m.world.slot := by
  rw [next_eq, World.slot_eq_of_watchdogs (World.watchdogs_noteAll ..)]
  rcases m with ⟨⟨plan, stage, announced⟩, w⟩
  cases stage with
  | launching =>
      simp only [called]
      split
      · split
        · exact World.slot_updateWatchdog_of_process _ _ (fun dog _ => by
            unfold Watchdog.launchFailed
            split <;> rfl)
        · rfl
      · rfl
  | enlisting c =>
      simp only [called]
      split
      · rfl
      · exact World.slot_eq_of_watchdogs (World.watchdogs_enlist ..)
  | waiting c interrupted entered => cases entered <;> rfl
  | halting c fault =>
      simp only [called]
      split <;> rfl
  | delisting c outcome =>
      simp only [called]
      split
      · exact World.slot_eq_of_watchdogs (World.watchdogs_delist ..)
      · rfl
  | watching c | unwatching c fault | ending c exitValue | leaving c outcome =>
      simp [Stage.handlesWatch] at other
  | _ => rfl

theorem registered_next
    (notEnlisting : ∀ c, m.run.stage ≠ .enlisting c)
    (notDelisting : ∀ c outcome, m.run.stage ≠ .delisting c outcome) :
    (m.next s).2.registered = m.world.registered := by
  rw [next_eq, World.registered_eq_of_destroyers (World.destroyers_noteAll ..)]
  rcases m with ⟨⟨plan, stage, announced⟩, w⟩
  cases stage with
  | launching =>
      simp only [called]
      split
      · split <;> rfl
      · rfl
  | watching c =>
      simp only [called]
      split
      · rfl
      · exact World.registered_eq_of_destroyers (World.destroyers_startWatch ..)
  | waiting c interrupted entered => cases entered <;> rfl
  | halting c fault =>
      simp only [called]
      split <;> rfl
  | unwatching c fault | ending c exitValue | leaving c outcome =>
      simp only [called]
      split <;> rfl
  | enlisting c => exact absurd rfl (notEnlisting c)
  | delisting c outcome => exact absurd rfl (notDelisting c outcome)
  | _ => rfl

/-- A launch is counted, whatever comes of it. -/
theorem launches_next :
    (m.next s).2.launches.length =
      m.world.launches.length + if m.run.stage = .launching then 1 else 0 := by
  rw [next_eq]
  simp only [World.launches_noteAll]
  rcases m with ⟨⟨plan, stage, announced⟩, w⟩
  cases stage with
  | launching =>
      have counted : (w.launch s plan.order).2.launches.length = w.launches.length + 1 :=
        List.length_append
      simp only [called]
      split
      · split <;> exact counted
      · exact counted
  | enlisting c =>
      simp only [called]
      split <;> simp
  | watching c =>
      simp only [called]
      split <;> simp
  | waiting c interrupted entered => cases entered <;> rfl
  | halting c fault =>
      simp only [called]
      split <;> rfl
  | unwatching c fault | ending c exitValue | leaving c outcome =>
      simp only [called]
      split <;> rfl
  | delisting c outcome =>
      simp only [called]
      split <;> simp
  | _ => rfl

/-- A launched process is named after the number of launches before it. -/
theorem launched?_eq_some {p : ProcessRef} (launched : m.launched? s = some p) :
    m.run.stage = .launching ∧ p = .launched m.world.launches.length := by
  unfold launched? at launched
  split at launched
  · next q atStage replied =>
      cases launched
      refine ⟨atStage, ?_⟩
      simp only [reply, atStage, World.launch] at replied
      cases answer : (m.world.call (.launch m.world.launches.length)
          (s.launch m.world.launches.length m.run.plan.order)).1 with
      | error fault => simp [answer, Except.map, Reply.ofCall] at replied
      | ok _ =>
          simp only [answer, Except.map, Reply.ofCall, Reply.launched.injEq] at replied
          exact replied.symm
  · contradiction

/-- Only a destroyer that a process is added to destroys on its own account during a
step. -/
theorem held_of_destroy {agent : Agent} {p : ProcessRef} (foreign : agent ≠ .execution)
    (called : .destroy agent p ∈ m.calls) : m.run.stage.owedRelease = some p := by
  have made := makes_of_mem_calls called
  cases atStage : m.run.stage with
  | enlisting c =>
      simp only [calls, atStage] at called
      split at called
      · contradiction
      · rcases List.mem_cons.mp called with same | condemned
        · contradiction
        · cases World.eq_destroy_of_mem_condemnation condemned
          rfl
  | _ => cases agent <;> simp_all [Stage.makes]

end Moment

/-! ## Members -/

namespace Member

variable {σ : Type}

/-- The process that a member has yet to let go of. -/
def held (m : Member) : Option ProcessRef :=
  m.run.stage.owedRelease

/-- The reference of a watchdog that a member has yet to undo. -/
def watch (m : Member) : Option (WatchdogId × ProcessRef) :=
  m.run.stage.owedUnwatch m.run.plan

/-- The entry of a registry that a member has yet to undo. -/
def entry (m : Member) : Option (DestroyerId × ProcessRef) :=
  m.run.stage.owedDelist m.run.plan

/-- How a member can go on, and the world with it. -/
structure Advances (m m' : Member) (w w' : World σ) : Prop where
  /-- What the member holds still fits its stage. -/
  sound : m'.run.stage.isSound = true
  /-- Launches are not forgotten. -/
  launches : w.launches.length ≤ w'.launches.length
  /-- A process that the member gets hold of was launched just now. -/
  held : ∀ p, m'.held = some p →
    m.held = some p ∨
      p = .launched w.launches.length ∧ w.launches.length < w'.launches.length
  /-- A process that a watchdog holds is claimed from now on, or it was held before and
  the member has not given up a claim to that. -/
  slot : ∀ i p, w'.slot i = some p →
    m'.watch = some (i, p) ∨ w.slot i = some p ∧ m.watch ≠ some (i, p)
  /-- A process that a registry lists is claimed from now on, or it was listed before and
  the member has not given up a claim to that. -/
  registered : ∀ i p, p ∈ w'.registered i →
    m'.entry = some (i, p) ∨ p ∈ w.registered i ∧ m.entry ≠ some (i, p)
  /-- No registry lists a process twice. -/
  distinct : ∀ i, (w'.registered i).Nodup
  /-- Letting go of a process is a step of its own, and nobody but an execution destroys a
  process that the member does not hold. -/
  trace : ∃ calls, w'.trace = w.trace ++ calls ∧
    (∀ p, .release p ∈ calls → m.held = some p ∧ m'.held = none ∧ calls = [.release p]) ∧
    ∀ agent p, agent ≠ .execution → .destroy agent p ∈ calls → m.held = some p

variable {s : Surroundings σ} {m m' : Member} {w : World σ}

/-- A claim that is kept does not disturb a reference that is kept. -/
theorem claimed_or {α : Type} {claim claim' : Option α} {a : α} {P : Prop}
    (kept : claim = some a → claim' = some a) (referred : P) :
    claim' = some a ∨ P ∧ claim ≠ some a := by
  by_cases owed : claim = some a
  · exact .inl (kept owed)
  · exact .inr ⟨referred, owed⟩

/-- A section that changes only what watchdogs hold. -/
theorem advances_of_updateWatchdog (i : WatchdogId) (f : Watchdog → Watchdog)
    (sound : m'.run.stage.isSound = true) (held : m'.held = m.held) (entry : m'.entry = m.entry)
    (distinct : ∀ i, (w.registered i).Nodup)
    (slot : ∀ k p, (w.updateWatchdog i f).slot k = some p →
      m'.watch = some (k, p) ∨ w.slot k = some p ∧ m.watch ≠ some (k, p)) :
    m.Advances m' w (w.updateWatchdog i f) where
  sound := sound
  launches := Nat.le_refl _
  held p still := .inl (by rwa [held] at still)
  slot := slot
  registered k p listed := claimed_or (by rw [entry]; exact id) listed
  distinct := distinct
  trace := ⟨[], (List.append_nil _).symm, by simp, by simp⟩

theorem held_step (m : Member) (s : Surroundings σ) (w : World σ) {p : ProcessRef}
    (held : (m.step s w).1.held = some p) :
    m.held = some p ∨
      m.run.stage = .launching ∧ p = .launched w.launches.length := by
  have balance := Moment.release_balanced (s := s) (m := { run := m.run, world := w })
  have owed : p ∈ m.run.stage.owedRelease.toList ++
      (Moment.launched? s { run := m.run, world := w }).toList := by
    rw [balance]
    apply List.mem_append_right _
    rw [Option.mem_toList]
    exact held
  rcases List.mem_append.mp owed with before | launched
  · exact .inl (Option.mem_toList.mp before)
  · exact .inr (Moment.launched?_eq_some (Option.mem_toList.mp launched))

/-- The entry is owed until the step that undoes it. -/
theorem entry_step (sound : m.run.stage.isSound = true) (s : Surroundings σ) (w : World σ)
    (notEnlisting : ∀ c, m.run.stage ≠ .enlisting c)
    (notDelisting : ∀ c outcome, m.run.stage ≠ .delisting c outcome) :
    (m.step s w).1.entry = m.entry := by
  have balance := Moment.delist_balanced (s := s) (m := { run := m.run, world := w }) sound
  have enlistsNothing : Stage.enlists m.run.plan m.run.stage = false := by
    cases atStage : m.run.stage with
    | enlisting c => exact absurd atStage (notEnlisting c)
    | _ => rfl
  rw [Moment.enlisted_calls, Moment.delisted_calls notDelisting] at balance
  have nothing : Moment.enlisted? { run := m.run, world := w } = none := by
    simp only [Moment.enlisted?, enlistsNothing]
    cases m.run.stage.custody? <;> rfl
  rw [nothing, Option.toList_none, List.append_nil, List.nil_append] at balance
  have same := congrArg List.head? balance
  rw [Option.head?_toList, Option.head?_toList] at same
  simp only [entry, step, Run.plan_step]
  exact same.symm

theorem registered_step (sound : m.run.stage.isSound = true)
    (distinct : ∀ i, (w.registered i).Nodup) (s : Surroundings σ) (i : DestroyerId) :
    (∀ p ∈ (m.step s w).2.registered i,
      (m.step s w).1.entry = some (i, p) ∨ p ∈ w.registered i ∧ m.entry ≠ some (i, p)) ∧
      ((m.step s w).2.registered i).Nodup := by
  by_cases enlisting : ∃ c, m.run.stage = .enlisting c
  · obtain ⟨c, atStage⟩ := enlisting
    simp only [Stage.isSound, atStage, Bool.and_eq_true, Bool.not_eq_true'] at sound
    have fresh : m.entry = none := by
      simp [entry, atStage, Stage.owedDelist, Stage.custody?, sound]
    cases destroyer : m.run.plan.destroyer with
    | none =>
        simp only [step, Run.step, atStage, destroyer]
        exact ⟨fun p listed => .inr ⟨listed, by simp [fresh]⟩, distinct i⟩
    | some j =>
        have effect : (m.step s w).2 = (w.enlist s j c.process).2 := by
          simp [step, Run.step, atStage, destroyer]
        have claimed : (m.step s w).1.entry = some (j, c.process) := by
          simp only [step, Run.step, atStage, destroyer, entry, Run.orAbandon]
          split
          · simp [Stage.owedDelist, Stage.custody?, destroyer]
          · split <;> simp [Stage.owedDelist, Stage.custody?, destroyer]
        obtain ⟨listed, stillDistinct⟩ := World.registered_enlist s w j i c.process
        rw [effect, claimed]
        refine ⟨fun p found => ?_, stillDistinct (distinct i)⟩
        rcases listed p found with before | ⟨rfl, rfl⟩
        · exact .inr ⟨before, by simp [fresh]⟩
        · exact .inl rfl
  · by_cases delisting : ∃ c outcome, m.run.stage = .delisting c outcome
    · obtain ⟨c, outcome, atStage⟩ := delisting
      have noted : ∀ (v : World σ) (journal : JournalId) (notice : Notice),
          (v.note journal notice).registered = v.registered := fun _ _ _ => rfl
      cases owed : c.enlisted with
      | false =>
          have nothing : m.entry = none := by
            simp [entry, atStage, Stage.owedDelist, Stage.custody?, owed]
          simp only [step, Run.step, atStage, owed]
          exact ⟨fun p listed => .inr ⟨listed, by simp [nothing]⟩, distinct i⟩
      | true =>
          cases destroyer : m.run.plan.destroyer with
          | none =>
              have nothing : m.entry = none := by
                simp [entry, atStage, Stage.owedDelist, Stage.custody?, destroyer]
              simp only [step, Run.step, atStage, owed, destroyer]
              exact ⟨fun p listed => .inr ⟨listed, by simp [nothing]⟩, distinct i⟩
          | some j =>
              have owing : m.entry = some (j, c.process) := by
                simp [entry, atStage, Stage.owedDelist, Stage.custody?, owed, destroyer]
              have effect : (m.step s w).2.registered = (w.delist j c.process).2.registered := by
                simp only [step, Run.step, atStage, owed, destroyer]
                rcases w.delist j c.process with ⟨fault | _, v⟩ <;> rfl
              obtain ⟨listed, stillDistinct, gone⟩ := World.registered_delist w j i c.process
              rw [effect, owing]
              refine ⟨fun p found => .inr ⟨listed p found, ?_⟩, stillDistinct (distinct i)⟩
              intro same
              simp only [Option.some.injEq, Prod.mk.injEq] at same
              obtain ⟨rfl, rfl⟩ := same
              exact gone (distinct j) found
    · have notEnlisting : ∀ c, m.run.stage ≠ .enlisting c :=
        fun c atStage => enlisting ⟨c, atStage⟩
      have notDelisting : ∀ c outcome, m.run.stage ≠ .delisting c outcome :=
        fun c outcome atStage => delisting ⟨c, outcome, atStage⟩
      have same : (m.step s w).2.registered = w.registered :=
        Moment.registered_next (m := { run := m.run, world := w }) notEnlisting notDelisting
      rw [same, entry_step sound s w notEnlisting notDelisting]
      exact ⟨fun p listed => claimed_or id listed, distinct i⟩

theorem advances_of_step (sound : m.run.stage.isSound = true)
    (distinct : ∀ i, (w.registered i).Nodup)
    (slot : ∀ i p, (m.step s w).2.slot i = some p →
      (m.step s w).1.watch = some (i, p) ∨ w.slot i = some p ∧ m.watch ≠ some (i, p)) :
    m.Advances (m.step s w).1 w (m.step s w).2 where
  sound := by
    change (m.run.step s w).1.stage.isSound = true
    rw [Run.stage_step]
    exact Stage.isSound_after sound
  launches := by
    have counted := Moment.launches_next (s := s) (m := { run := m.run, world := w })
    simp only [Moment.next] at counted
    simp only [step]
    omega
  held p still := by
    rcases held_step m s w still with before | ⟨atStage, rfl⟩
    · exact .inl before
    · refine .inr ⟨rfl, ?_⟩
      have counted := Moment.launches_next (s := s) (m := { run := m.run, world := w })
      simp only [Moment.next, atStage, if_true] at counted
      simp only [step]
      omega
  slot := slot
  registered i p listed := (registered_step sound distinct s i).1 p listed
  distinct i := (registered_step sound distinct s i).2
  trace := by
    refine ⟨Moment.calls { run := m.run, world := w },
      Moment.trace_next s { run := m.run, world := w }, ?_, ?_⟩
    · intro p called
      obtain ⟨outcome, atStage⟩ := Moment.releasing_of_mem_calls called
      change m.run.stage = _ at atStage
      refine ⟨?_, ?_, ?_⟩
      · simp [held, atStage, Stage.owedRelease]
      · simp [held, step, Run.step, atStage, Stage.owedRelease, Stage.custody?]
      · simp [Moment.calls, atStage]
    · intro agent p foreign called
      exact Moment.held_of_destroy foreign called

/-- A step that concerns no watch. -/
theorem advances_of_other (sound : m.run.stage.isSound = true)
    (distinct : ∀ i, (w.registered i).Nodup) (s : Surroundings σ)
    (other : m.run.stage.handlesWatch = false) :
    m.Advances (m.step s w).1 w (m.step s w).2 := by
  apply advances_of_step sound distinct
  intro i p referred
  have same : (m.step s w).2.slot = w.slot :=
    Moment.slot_next (m := { run := m.run, world := w }) other
  rw [same] at referred
  refine claimed_or (fun owed => ?_) referred
  simp only [watch, step, Run.plan_step]
  rw [Run.stage_step, Stage.owedUnwatch_after other]
  exact owed

/-- A step that has nothing to do about a watch. -/
theorem advances_of_idle (sound : m.run.stage.isSound = true)
    (distinct : ∀ i, (w.registered i).Nodup) (s : Surroundings σ)
    (same : (m.step s w).2 = w) (unclaimed : m.watch = none) :
    m.Advances (m.step s w).1 w (m.step s w).2 := by
  apply advances_of_step sound distinct
  intro i p referred
  rw [same] at referred
  exact .inr ⟨referred, by simp [unclaimed]⟩

/-- The first section of starting or ending a watch, which changes no reference. -/
theorem advances_of_half (sound : m.run.stage.isSound = true)
    (distinct : ∀ i, (w.registered i).Nodup) (i : WatchdogId) {f : Watchdog → Watchdog}
    (same : ∀ dog, w.watchdogs[i]? = some dog → (f dog).process = dog.process) :
    m.Advances { m with midway := true } w (w.updateWatchdog i f) := by
  refine advances_of_updateWatchdog i f sound rfl rfl distinct fun k p referred => ?_
  rw [World.slot_updateWatchdog_of_process w i same] at referred
  exact claimed_or id referred

/-- The second section of starting a watch: what the watchdog holds from now on is
claimed. -/
theorem advances_of_commit (sound : m.run.stage.isSound = true)
    (distinct : ∀ i, (w.registered i).Nodup) {i : WatchdogId} {c : Custody}
    (atStage : m.run.stage = .watching c) (watchdog : m.run.plan.watchdog = some i) :
    m.Advances
      { run := { m.run with stage := .waiting { c with watched := true } false false } } w
      (w.updateWatchdog i (·.commit w.clock c.process)) := by
  simp only [Stage.isSound, atStage, Bool.and_eq_true, Bool.not_eq_true'] at sound
  refine advances_of_updateWatchdog i _ sound.1 ?_ ?_ distinct fun k p referred => ?_
  · simp [held, atStage, Stage.owedRelease, Stage.custody?]
  · simp [entry, atStage, Stage.owedDelist, Stage.custody?]
  · by_cases here : k = i
    · rw [here, World.slot_updateWatchdog_self] at referred
      cases found : w.watchdogs[i]? with
      | none => simp [found] at referred
      | some dog =>
          simp only [found, Option.bind_some, Watchdog.commit, Option.some.injEq] at referred
          left
          simp [watch, Stage.owedUnwatch, Stage.custody?, watchdog, here, referred]
    · rw [World.slot_updateWatchdog_of_ne w _ here] at referred
      refine .inr ⟨referred, ?_⟩
      simp [watch, atStage, Stage.owedUnwatch, Stage.custody?, sound.2]

/-- The second section of ending a watch: the watchdog holds nothing from now on. -/
theorem advances_of_clear {i : WatchdogId} {p : ProcessRef} (owing : m.watch = some (i, p))
    (sound : m'.run.stage.isSound = true) (held : m'.held = m.held) (entry : m'.entry = m.entry)
    (distinct : ∀ i, (w.registered i).Nodup) :
    m.Advances m' w (w.updateWatchdog i Watchdog.clear) := by
  apply advances_of_updateWatchdog i _ sound held entry distinct
  intro k q referred
  obtain ⟨other, before⟩ := World.slot_updateWatchdog_of_none (fun _ => rfl) referred
  refine .inr ⟨before, ?_⟩
  rw [owing]
  intro same
  simp only [Option.some.injEq, Prod.mk.injEq] at same
  exact other same.1.symm

theorem process_of_clearance {dog cleared : Watchdog} {timer : Option Timer}
    (done : dog.clearance = .ok (timer, cleared)) : cleared.process = dog.process := by
  unfold Watchdog.clearance at done
  cases process : dog.process with
  | some q => simp [process] at done
  | none =>
      simp only [process, Except.ok.injEq, Prod.mk.injEq] at done
      rw [← done.2]

/-- How a member goes on, whatever section is next. -/
theorem advances_advance (sound : m.run.stage.isSound = true)
    (distinct : ∀ i, (w.registered i).Nodup) (s : Surroundings σ) :
    m.Advances (m.advance s w).1 w (m.advance s w).2 := by
  cases watchdog : m.run.plan.watchdog with
  | none =>
      have whole : m.advance s w = m.step s w := by
        unfold advance
        rw [watchdog]
        split <;> simp_all
      rw [whole]
      cases handles : m.run.stage.handlesWatch with
      | false => exact advances_of_other sound distinct s handles
      | true =>
          refine advances_of_idle sound distinct s ?_ ?_
          · cases atStage : m.run.stage <;> simp_all [Stage.handlesWatch, step, Run.step]
          · cases atStage : m.run.stage <;>
              simp [watch, atStage, watchdog, Stage.owedUnwatch, Stage.custody?]
  | some i =>
      cases atStage : m.run.stage with
      | watching c =>
          have unwatched : c.watched = false := by
            simp only [Stage.isSound, atStage, Bool.and_eq_true, Bool.not_eq_true'] at sound
            exact sound.2
          have unclaimed : m.watch = none := by
            simp [watch, atStage, Stage.owedUnwatch, Stage.custody?, unwatched]
          cases halfway : m.midway with
          | true =>
              simp only [advance, atStage, watchdog, halfway, if_true]
              exact advances_of_commit sound distinct atStage watchdog
          | false =>
              cases found : w.watchdogs[i]? with
              | none =>
                  have whole : m.advance s w = m.step s w := by
                    simp [advance, atStage, watchdog, halfway, found]
                  rw [whole]
                  refine advances_of_idle sound distinct s ?_ unclaimed
                  simp [step, Run.step, atStage, watchdog, World.startWatch, found]
              | some dog =>
                  cases done : dog.clearance with
                  | error fault =>
                      have whole : m.advance s w = m.step s w := by
                        simp [advance, atStage, watchdog, halfway, found, done]
                      have refused : dog.start w.clock c.process = .error fault := by
                        simp [Watchdog.start, done, Except.map]
                      rw [whole]
                      refine advances_of_idle sound distinct s ?_ unclaimed
                      simp [step, Run.step, atStage, watchdog, World.startWatch, found, refused]
                  | ok pair =>
                      simp only [advance, atStage, watchdog, halfway, found, Option.map_some, done]
                      apply advances_of_half sound distinct i
                      intro other here
                      rw [found] at here
                      cases here
                      exact process_of_clearance done
      | unwatching c fault | ending c exitValue | leaving c outcome =>
          cases watched : c.watched with
          | false =>
              have whole : m.advance s w = m.step s w := by
                simp [advance, atStage, watchdog, watched]
              rw [whole]
              refine advances_of_idle sound distinct s ?_ ?_
              · simp [step, Run.step, atStage, watched]
              · simp [watch, atStage, Stage.owedUnwatch, Stage.custody?, watched]
          | true =>
              cases halfway : m.midway with
              | false =>
                  simp only [advance, atStage, watchdog, watched, halfway, if_true]
                  exact advances_of_half sound distinct i fun _ _ => rfl
              | true =>
                  have owing : m.watch = some (i, c.process) := by
                    simp [watch, atStage, Stage.owedUnwatch, Stage.custody?, watched, watchdog]
                  simp only [advance, atStage, watchdog, watched, halfway, if_true]
                  refine advances_of_clear owing ?_ ?_ ?_ distinct
                  · change (m.run.step s w).1.stage.isSound = true
                    rw [Run.stage_step]
                    exact Stage.isSound_after sound
                  · simp [held, Run.step, atStage, watched, watchdog, Stage.owedRelease,
                      Stage.custody?]
                  · simp [entry, Run.step, atStage, watched, watchdog, Stage.owedDelist,
                      Stage.custody?]
      | _ =>
          have whole : m.advance s w = m.step s w := by simp [advance, atStage]
          rw [whole]
          exact advances_of_other sound distinct s (by rw [atStage]; rfl)

end Member

end Overseer
