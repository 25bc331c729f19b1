import Overseer.Proofs.Fleet.Claims
import Overseer.Proofs.Fleet.Disturbance

/-!
# Tenures

A member of a fleet takes its watchdog once and lets it go once, each in two sections.
Its tenure tells how far it has got with that.  A `Deed` is all that one section can mean
for the tenure and for the watchdog: most sections leave both alone, and four of them
belong to the watch.
-/

namespace Overseer

/-- How far a member has got with its watch. -/
inductive Tenure
  /-- It has not begun. -/
  | before
  /-- It has found the watchdog free and is about to take it. -/
  | taking
  /-- It has taken the watchdog. -/
  | holding
  /-- It has told the timer to end and is about to let the watchdog go. -/
  | ending
  /-- It has let the watchdog go, or goes on without one. -/
  | after
deriving DecidableEq

namespace Tenure

/-- The place of a tenure in their order. -/
def rank : Tenure → Nat
  | before => 0
  | taking => 1
  | holding => 2
  | ending => 3
  | after => 4

/-- Whether a member has changed, between two tenures, whom the watchdog watches. -/
def hasStruck : Tenure → Tenure → Bool
  | taking, later => later != taking
  | holding, later | ending, later => later == after
  | before, _ | after, _ => false

/-- Whether a member is between the beginning and the end of its watch. -/
def isUnderWay : Tenure → Bool
  | taking | holding | ending => true
  | before | after => false

@[simp]
theorem hasStruck_self (t : Tenure) : t.hasStruck t = false := by
  cases t <;> rfl

theorem eq_of_rank_le {t u : Tenure} (first : t.rank ≤ u.rank) (second : u.rank ≤ t.rank) :
    u = t := by
  cases t <;> cases u <;> simp_all [rank]

/-- Who has struck stays so. -/
theorem hasStruck_mono {t u v : Tenure} (struck : t.hasStruck u = true) (first : t.rank ≤ u.rank)
    (second : u.rank ≤ v.rank) : t.hasStruck v = true := by
  cases t <;> cases u <;> cases v <;> simp_all [hasStruck, rank]

/-- Who has struck has done so early or late. -/
theorem hasStruck_or {t u v : Tenure} (struck : t.hasStruck v = true) (first : t.rank ≤ u.rank) :
    t.hasStruck u = true ∨ u.hasStruck v = true := by
  cases t <;> cases u <;> cases v <;> simp_all [hasStruck, rank]

/-- Who strikes late could have done so early, unless it had not begun. -/
theorem hasStruck_of_later {t u v : Tenure} (struck : u.hasStruck v = true)
    (first : t.rank ≤ u.rank) (begun : t = before → u = before ∨ u = after) :
    t.hasStruck v = true := by
  cases t <;> cases u <;> cases v <;> simp_all [hasStruck, rank]

end Tenure

/-- What a section of a member that holds a process means for the watchdog it uses: the
tenures before and after it, and what becomes of the watchdog. -/
inductive Deed (dog? : Option Watchdog) (held? : Option ProcessRef) :
    Tenure → Tenure → (Watchdog → Watchdog) → Prop
  /-- It has nothing to do with the watch. -/
  | idle (t : Tenure) {f : Watchdog → Watchdog} (marks : Watchdog.IsMarking f) :
      Deed dog? held? t t f
  /-- The member gives up before it has a watch. -/
  | forgo {f : Watchdog → Watchdog} (marks : Watchdog.IsMarking f) :
      Deed dog? held? .before .after f
  /-- There is no such watchdog. -/
  | lack {f : Watchdog → Watchdog} (missing : dog? = none) : Deed dog? held? .before .holding f
  /-- The member finds the watchdog free. -/
  | prepare {f : Watchdog → Watchdog}
      (free : ∀ dog, dog? = some dog → dog.process = none ∧ (f dog).process = none) :
      Deed dog? held? .before .taking f
  /-- It takes the watchdog, whoever has taken it meanwhile. -/
  | take (now : Instant) {p : ProcessRef} (holds : held? = some p) :
      Deed dog? held? .taking .holding (·.commit now p)
  /-- It tells the timer to end. -/
  | request : Deed dog? held? .holding .ending (·.requestStop.2)
  /-- It lets the watchdog go, whomever that watches. -/
  | drop : Deed dog? held? .ending .after Watchdog.clear

namespace Watchdog

theorem target_commit (dog : Watchdog) (now : Instant) (p : ProcessRef) :
    (dog.commit now p).target? = some p :=
  rfl

theorem target_of_process_eq_none {dog : Watchdog} (free : dog.process = none) :
    dog.target? = none := by
  cases target : dog.target? with
  | none => rfl
  | some p => simp [(process_of_target target).2] at free

end Watchdog

namespace Deed

variable {dog? : Option Watchdog} {dog : Watchdog} {held? : Option ProcessRef} {t u : Tenure}
  {f : Watchdog → Watchdog} {p : ProcessRef}

theorem rank_le (deed : Deed dog? held? t u f) : t.rank ≤ u.rank := by
  cases deed <;> simp [Tenure.rank]

/-- Only who holds a process has it watched. -/
theorem target_before (deed : Deed (some dog) held? t u f)
    (foreign : t = .taking → held? ≠ some p) (target : (f dog).target? = some p) :
    dog.target? = some p := by
  cases deed with
  | idle _ marks | forgo marks => rwa [marks.target] at target
  | lack missing => contradiction
  | prepare free =>
      rw [Watchdog.target_of_process_eq_none (free dog rfl).2] at target
      contradiction
  | take now holds =>
      rw [Watchdog.target_commit] at target
      cases target
      exact absurd holds (foreign rfl)
  | request => exact target
  | drop => contradiction

/-- A process stays watched until somebody else strikes. -/
theorem target_iff (deed : Deed (some dog) held? t u f) (foreign : t = .taking → held? ≠ some p)
    (target : dog.target? = some p) :
    (f dog).target? = some p ↔ t.hasStruck u = false := by
  cases deed with
  | idle _ marks => simp [marks.target, target]
  | forgo marks => simp [marks.target, target, Tenure.hasStruck]
  | lack missing => contradiction
  | prepare free =>
      rw [Watchdog.target_of_process_eq_none (free dog rfl).1] at target
      contradiction
  | take now holds =>
      have taken := foreign rfl
      rw [holds] at taken
      rw [Watchdog.target_commit]
      exact ⟨fun same => absurd same taken, fun calm => by simp [Tenure.hasStruck] at calm⟩
  | request => exact ⟨fun _ => rfl, fun _ => target⟩
  | drop => simp [Tenure.hasStruck, Watchdog.clear, Watchdog.target?]

/-- While a process is watched nobody begins a watch. -/
theorem begun (deed : Deed (some dog) held? t u f) (target : dog.target? = some p)
    (unbegun : t = .before) : u = .before ∨ u = .after := by
  cases deed with
  | idle _ marks => exact .inl unbegun
  | forgo marks => exact .inr rfl
  | lack missing => contradiction
  | prepare free =>
      rw [Watchdog.target_of_process_eq_none (free dog rfl).1] at target
      contradiction
  | take now holds | request | drop => contradiction

/-- A watchdog whose users stand still is at most marked. -/
theorem eq_of_still (deed : Deed (some dog) held? t u f) (target : dog.target? = some p)
    (still : t.isUnderWay = true → u = t) : ∃ started, f dog = { dog with started } := by
  have watching := (Watchdog.process_of_target target).1
  cases deed with
  | idle _ marks | forgo marks => exact marks.watched dog watching
  | lack missing => contradiction
  | prepare free =>
      rw [Watchdog.target_of_process_eq_none (free dog rfl).1] at target
      contradiction
  | take now holds | request | drop => exact absurd (still rfl) (by decide)

end Deed

/-! ## Members -/

namespace Member

variable {σ : Type} {s : Surroundings σ} {m : Member} {w : World σ} {i : WatchdogId}

/-- How far the member has got with its watch. -/
def tenure (m : Member) : Tenure :=
  match m.run.stage.precedesWatch, m.watch.isSome, m.midway && m.run.stage.handlesWatch with
  | true, _, false => .before
  | true, _, true => .taking
  | false, true, false => .holding
  | false, true, true => .ending
  | false, false, _ => .after

theorem plan_advance (m : Member) (s : Surroundings σ) (w : World σ) :
    (m.advance s w).1.run.plan = m.run.plan := by
  have whole : (m.step s w).1.run.plan = m.run.plan := Run.plan_step s m.run w
  unfold advance
  split
  · split
    · rfl
    · split
      · rfl
      · exact whole
  all_goals try exact whole
  all_goals
    split
    · split
      · exact whole
      · rfl
    · exact whole

theorem tenure_of_precedes (precedes : m.run.stage.precedesWatch = true)
    (calm : (m.midway && m.run.stage.handlesWatch) = false) : m.tenure = .before := by
  simp [tenure, precedes, calm]

theorem tenure_of_watch_eq_none (past : m.run.stage.precedesWatch = false)
    (unwatched : m.watch = none) : m.tenure = .after := by
  simp [tenure, past, unwatched]

theorem tenure_of_watch (past : m.run.stage.precedesWatch = false)
    {claim : WatchdogId × ProcessRef} (watched : m.watch = some claim)
    (calm : (m.midway && m.run.stage.handlesWatch) = false) : m.tenure = .holding := by
  simp [tenure, past, watched, calm]

theorem precedesWatch_of_watch (sound : m.run.stage.isSound = true)
    {claim : WatchdogId × ProcessRef} (watched : m.watch = some claim) :
    m.run.stage.precedesWatch = false := by
  cases precedes : m.run.stage.precedesWatch with
  | false => rfl
  | true =>
      have unwatched : m.watch = none := Stage.owedUnwatch_of_precedesWatch sound precedes
      rw [unwatched] at watched
      contradiction

theorem watchdog_of_watch {p : ProcessRef} (watched : m.watch = some (i, p)) :
    m.run.plan.watchdog = some i := by
  simp only [watch] at watched
  unfold Stage.owedUnwatch at watched
  split at watched
  · contradiction
  · obtain ⟨c, _, owes⟩ := Option.bind_eq_some_iff.mp watched
    split at owes
    · obtain ⟨k, used, same⟩ := Option.map_eq_some_iff.mp owes
      cases same
      exact used
    · contradiction

theorem watch_step_of_other (other : m.run.stage.handlesWatch = false) :
    (m.step s w).1.watch = m.watch := by
  simp only [watch, step, Run.plan_step]
  rw [Run.stage_step, Stage.owedUnwatch_after other]

/-- A step that concerns no watch leaves the tenure as it is, or the member goes on
without a watch. -/
theorem tenure_step_of_other (sound : m.run.stage.isSound = true)
    (other : m.run.stage.handlesWatch = false) :
    (m.step s w).1.tenure = m.tenure ∨
      m.tenure = .before ∧ (m.step s w).1.tenure = .after := by
  have calm : (m.midway && m.run.stage.handlesWatch) = false := by simp [other]
  have same : (m.step s w).1.watch = m.watch := watch_step_of_other other
  cases precedes : m.run.stage.precedesWatch with
  | true =>
      have unwatched : m.watch = none := Stage.owedUnwatch_of_precedesWatch sound precedes
      rw [tenure_of_precedes precedes calm]
      cases still : (m.step s w).1.run.stage.precedesWatch with
      | true => exact .inl (tenure_of_precedes still rfl)
      | false => exact .inr ⟨rfl, tenure_of_watch_eq_none still (same.trans unwatched)⟩
  | false =>
      left
      have past : (m.step s w).1.run.stage.precedesWatch = false := by
        simp only [step]
        rw [Run.stage_step]
        exact Stage.precedesWatch_after precedes
      cases watched : m.watch with
      | none =>
          rw [tenure_of_watch_eq_none precedes watched]
          exact tenure_of_watch_eq_none past (same.trans watched)
      | some claim =>
          rw [tenure_of_watch precedes watched calm]
          exact tenure_of_watch past (same.trans watched) rfl

theorem deed_step_of_other (sound : m.run.stage.isSound = true) (s : Surroundings σ) (w : World σ)
    (i : WatchdogId) (other : m.run.stage.handlesWatch = false) :
    ∃ f, Deed w.watchdogs[i]? m.held m.tenure (m.step s w).1.tenure f ∧
      (m.step s w).2.watchdogs[i]? = w.watchdogs[i]?.map f := by
  have changed : ∃ f, Watchdog.IsMarking f ∧
      (m.step s w).2.watchdogs[i]? = w.watchdogs[i]?.map f := by
    by_cases launching : m.run.stage = .launching
    · exact Moment.watchdogs_next_of_launching (m := { run := m.run, world := w }) launching i
    · have same : (m.step s w).2.watchdogs = w.watchdogs :=
        Moment.watchdogs_next (m := { run := m.run, world := w }) other launching
      exact ⟨id, Watchdog.isMarking_id, by simp [same]⟩
  obtain ⟨f, marks, effect⟩ := changed
  refine ⟨f, ?_, effect⟩
  rcases tenure_step_of_other (s := s) (w := w) sound other with same | ⟨unbegun, done⟩
  · rw [same]
    exact .idle m.tenure marks
  · rw [unbegun, done]
    exact .forgo marks

/-- The section before the watch is taken. -/
theorem deed_advance_of_watching (sound : m.run.stage.isSound = true) (s : Surroundings σ)
    (w : World σ) (used : m.run.plan.watchdog = some i) {c : Custody}
    (atStage : m.run.stage = .watching c) :
    ∃ f, Deed w.watchdogs[i]? m.held m.tenure (m.advance s w).1.tenure f ∧
      (m.advance s w).2.watchdogs[i]? = w.watchdogs[i]?.map f := by
  have unwatched : c.watched = false := by
    simp only [Stage.isSound, atStage, Bool.and_eq_true, Bool.not_eq_true'] at sound
    exact sound.2
  cases halfway : m.midway with
  | true =>
      have taking : m.tenure = .taking := by
        simp [tenure, atStage, halfway, Stage.precedesWatch, Stage.handlesWatch]
      have holding : (m.advance s w).1.tenure = .holding := by
        simp [advance, atStage, used, halfway, tenure, watch, Stage.precedesWatch,
          Stage.owedUnwatch, Stage.custody?]
      rw [taking, holding]
      refine ⟨_, .take w.clock (p := c.process) ?_, ?_⟩
      · simp [held, atStage, Stage.owedRelease, Stage.custody?]
      · simp only [advance, atStage, used, halfway, if_true]
        exact List.getElem?_modify_eq ..
  | false =>
      have unbegun : m.tenure = .before := by
        simp [tenure, atStage, halfway, Stage.precedesWatch]
      rw [unbegun]
      cases found : w.watchdogs[i]? with
      | none =>
          have whole : m.advance s w = m.step s w := by
            simp [advance, atStage, used, halfway, found]
          have holding : (m.step s w).1.tenure = .holding := by
            simp [step, Run.step, atStage, used, World.startWatch, found, Run.orAbandon, tenure,
              watch, Stage.precedesWatch, Stage.owedUnwatch, Stage.custody?]
          rw [whole, holding]
          refine ⟨id, .lack rfl, ?_⟩
          simp [step, Run.step, atStage, used, World.startWatch, found]
      | some dog =>
          cases done : dog.clearance with
          | error fault =>
              have whole : m.advance s w = m.step s w := by
                simp [advance, atStage, used, halfway, found, done]
              have refused : dog.start w.clock c.process = .error fault := by
                simp [Watchdog.start, done, Except.map]
              have gone : (m.step s w).1.tenure = .after := by
                simp only [step, Run.step, atStage, used, World.startWatch, found, refused,
                  Run.orAbandon]
                split <;>
                  simp [tenure, watch, unwatched, Stage.precedesWatch, Stage.owedUnwatch,
                    Stage.custody?]
              rw [whole, gone]
              refine ⟨id, .forgo Watchdog.isMarking_id, ?_⟩
              simp [step, Run.step, atStage, used, World.startWatch, found, refused]
          | ok pair =>
              obtain ⟨timer, cleared⟩ := pair
              have taking : (m.advance s w).1.tenure = .taking := by
                simp [advance, atStage, used, halfway, found, done, tenure, Stage.precedesWatch,
                  Stage.handlesWatch]
              have free : dog.process = none := by
                cases process : dog.process with
                | none => rfl
                | some q => simp [Watchdog.clearance, process] at done
              rw [taking]
              refine ⟨fun _ => cleared, .prepare ?_, ?_⟩
              · intro other same
                cases same
                exact ⟨free, (process_of_clearance done).trans free⟩
              · simp only [advance, atStage, used, halfway, found, Option.map_some, done]
                exact World.watchdogs_updateWatchdog found _

/-- What the next section of a member means for the watchdog it uses. -/
theorem deed_advance (sound : m.run.stage.isSound = true) (s : Surroundings σ) (w : World σ)
    (used : m.run.plan.watchdog = some i) :
    ∃ f, Deed w.watchdogs[i]? m.held m.tenure (m.advance s w).1.tenure f ∧
      (m.advance s w).2.watchdogs[i]? = w.watchdogs[i]?.map f := by
  cases atStage : m.run.stage with
  | watching c => exact deed_advance_of_watching sound s w used atStage
  | unwatching c fault | ending c exitValue | leaving c outcome =>
      have past : m.run.stage.precedesWatch = false := by
        rw [atStage]
        rfl
      cases watched : c.watched with
      | false =>
          have whole : m.advance s w = m.step s w := by simp [advance, atStage, used, watched]
          have gone : m.tenure = .after := by
            simp [tenure, atStage, Stage.precedesWatch, watch, Stage.owedUnwatch, Stage.custody?,
              watched]
          have still : (m.step s w).1.tenure = .after := by
            simp [step, Run.step, atStage, used, watched, tenure, Stage.precedesWatch, watch,
              Stage.owedUnwatch, Stage.custody?]
          rw [whole, gone, still]
          refine ⟨id, .idle _ Watchdog.isMarking_id, ?_⟩
          simp [step, Run.step, atStage, used, watched]
      | true =>
          cases halfway : m.midway with
          | false =>
              have holding : m.tenure = .holding := by
                simp [tenure, atStage, Stage.precedesWatch, watch, Stage.owedUnwatch,
                  Stage.custody?, watched, used, halfway]
              have ending : (m.advance s w).1.tenure = .ending := by
                simp [advance, tenure, atStage, Stage.precedesWatch, Stage.handlesWatch, watch,
                  Stage.owedUnwatch, Stage.custody?, watched, used, halfway]
              rw [holding, ending]
              refine ⟨_, .request, ?_⟩
              simp only [advance, atStage, used, watched, halfway, if_true]
              exact List.getElem?_modify_eq ..
          | true =>
              have ending : m.tenure = .ending := by
                simp [tenure, atStage, Stage.precedesWatch, Stage.handlesWatch, watch,
                  Stage.owedUnwatch, Stage.custody?, watched, used, halfway]
              have gone : (m.advance s w).1.tenure = .after := by
                simp [advance, Run.step, tenure, atStage, Stage.precedesWatch, watch,
                  Stage.owedUnwatch, Stage.custody?, watched, used, halfway]
              rw [ending, gone]
              refine ⟨_, .drop, ?_⟩
              simp only [advance, atStage, used, watched, halfway, if_true]
              exact List.getElem?_modify_eq ..
  | _ =>
      have whole : m.advance s w = m.step s w := by simp [advance, atStage]
      rw [whole]
      exact deed_step_of_other sound s w i (by rw [atStage]; rfl)

/-- A watchdog that a member does not use is left as it is. -/
theorem watchdogs_advance_of_ne (m : Member) (s : Surroundings σ) (w : World σ)
    (other : m.run.plan.watchdog ≠ some i) :
    (m.advance s w).2.watchdogs[i]? = w.watchdogs[i]? := by
  have whole : (m.step s w).2.watchdogs[i]? = w.watchdogs[i]? :=
    Moment.watchdogs_next_of_ne (m := { run := m.run, world := w }) other
  have elsewhere : ∀ (k : WatchdogId) (f : Watchdog → Watchdog),
      m.run.plan.watchdog = some k → (w.updateWatchdog k f).watchdogs[i]? = w.watchdogs[i]? := by
    intro k f used
    apply List.getElem?_modify_ne
    rintro rfl
    exact other used
  unfold advance
  split
  · next used =>
      split
      · exact elsewhere _ _ used
      · split
        · exact elsewhere _ _ used
        · exact whole
  all_goals try exact whole
  all_goals
    next used =>
      split
      · split
        · exact elsewhere _ _ used
        · exact elsewhere _ _ used
      · exact whole

/-- What a member has claimed of its watchdog stays the same until it lets go. -/
theorem watch_advance (sound : m.run.stage.isSound = true) (s : Surroundings σ) (w : World σ)
    {claim : WatchdogId × ProcessRef} (watched : m.watch = some claim) :
    (m.advance s w).1.watch = some claim ∨ (m.advance s w).1.tenure = .after := by
  have past := precedesWatch_of_watch sound watched
  cases atStage : m.run.stage with
  | watching c =>
      rw [atStage] at past
      contradiction
  | unwatching c fault | ending c exitValue | leaving c outcome =>
      simp only [watch, atStage, Stage.owedUnwatch, Stage.custody?, Option.bind_some,
        Option.ite_none_right_eq_some, Option.map_eq_some_iff] at watched
      obtain ⟨owes, i, used, _⟩ := watched
      cases halfway : m.midway with
      | false =>
          left
          simpa [advance, atStage, used, owes, halfway, watch, Stage.owedUnwatch, Stage.custody?]
      | true =>
          right
          simp [advance, Run.step, atStage, used, owes, halfway, tenure, watch,
            Stage.precedesWatch, Stage.owedUnwatch, Stage.custody?]
  | _ =>
      left
      have whole : m.advance s w = m.step s w := by simp [advance, atStage]
      rw [whole, watch_step_of_other (by rw [atStage]; rfl)]
      exact watched

end Member

end Overseer
