import Overseer.Proofs.Execution.Debts
import Overseer.Proofs.Fleet.References

/-!
# The watch of an execution

An execution starts its watch in one step and ends it in one of three others, according
to how it comes to its end.  These lemmas say which stages come before the watch, what is
still owed of it at each stage, and that the other steps leave watchdogs alone; only a
failed launch leaves a mark.
-/

namespace Overseer

namespace Watchdog

/-- A change that leaves alone what is watched, and of a watch at most marks that the
launch was tried. -/
structure IsMarking (f : Watchdog → Watchdog) : Prop where
  target : ∀ dog, (f dog).target? = dog.target?
  watched : ∀ dog, dog.watching = true → ∃ started, f dog = { dog with started }

theorem isMarking_id : IsMarking id where
  target _ := rfl
  watched dog _ := ⟨dog.started, rfl⟩

theorem isMarking_forgetLaunch : IsMarking forgetLaunch where
  target dog := by
    unfold forgetLaunch
    split <;> rfl
  watched dog watching := ⟨dog.started, if_pos watching⟩

theorem isMarking_launchFailed (fault : Option Fault) : IsMarking (·.launchFailed fault) where
  target dog := by
    unfold launchFailed
    split <;> rfl
  watched dog watching := ⟨true, if_pos watching⟩

end Watchdog

namespace Stage

/-- Whether the next step starts or ends a watch. -/
def handlesWatch : Stage → Bool
  | .watching _ | .unwatching _ _ | .ending _ _ | .leaving _ _ => true
  | _ => false

/-- The watch that is still to be ended. -/
def owedUnwatch (plan : Plan) : Stage → Option (WatchdogId × ProcessRef)
  | .delisting _ _ => none
  | stage =>
      stage.custody?.bind (fun c => if c.watched then plan.watchdog.map (·, c.process) else none)

variable {plan : Plan} {convention : Int → Bool} {stage : Stage} {reply : Reply}

theorem owedUnwatch_orAbandon {c : Custody} {next : Stage}
    (keeps : next.owedUnwatch plan = (Stage.abandoning c .alien).owedUnwatch plan) :
    (reply.orAbandon c next).owedUnwatch plan =
      (Stage.abandoning c .alien).owedUnwatch plan := by
  rcases Reply.orAbandon_eq c next reply with eq | ⟨fault, eq⟩ | ⟨_, fault, eq⟩
  · rwa [eq]
  · rw [eq]
    rfl
  · rw [eq]
    rfl

theorem owedUnwatch_orLeave {c : Custody} {next : Stage}
    (keeps : next.owedUnwatch plan = (Stage.abandoning c .alien).owedUnwatch plan) :
    (reply.orLeave c next).owedUnwatch plan = (Stage.abandoning c .alien).owedUnwatch plan := by
  rcases Reply.orLeave_eq c next reply with eq | ⟨_, fault, eq⟩
  · rwa [eq]
  · rw [eq]
    rfl

/-- Who neither starts nor ends a watch goes on to owe its end, or goes on without. -/
theorem owedUnwatch_after (other : stage.handlesWatch = false) :
    (stage.after plan convention reply).owedUnwatch plan = stage.owedUnwatch plan := by
  cases stage with
  | launching | opening p => cases reply <;> rfl
  | attaching c stream =>
      refine owedUnwatch_orAbandon ?_
      cases stream <;> rfl
  | starting c | killing c => exact owedUnwatch_orAbandon rfl
  | enlisting c =>
      simp only [after]
      split
      · rfl
      · exact owedUnwatch_orAbandon rfl
  | waiting c interrupted entered =>
      have goesOn : (reply.orAbandon c (.waiting c interrupted entered)).owedUnwatch plan =
          (Stage.abandoning c .alien).owedUnwatch plan := owedUnwatch_orAbandon rfl
      cases reply with
      | raised fault =>
          cases fault with
          | interrupted => cases interrupted <;> rfl
          | _ => exact goesOn
      | _ => rfl
  | abandoning c fault | halting c fault | stopping c exitValue =>
      exact owedUnwatch_orLeave rfl
  | closing c exitValue first stream =>
      refine owedUnwatch_orLeave ?_
      cases stream <;> rfl
  | judging c exitValue first => cases reply <;> rfl
  | watching c | unwatching c fault | ending c exitValue | leaving c outcome =>
      simp [handlesWatch] at other
  | delisting c outcome | releasing p outcome | ended outcome => rfl

/-- Whether the watch is still to come. -/
def precedesWatch : Stage → Bool
  | .launching | .opening _ | .attaching _ _ | .starting _ | .enlisting _ | .watching _ => true
  | _ => false

theorem precedesWatch_orAbandon {c : Custody} {next : Stage} (past : next.precedesWatch = false) :
    (reply.orAbandon c next).precedesWatch = false := by
  rcases Reply.orAbandon_eq c next reply with eq | ⟨fault, eq⟩ | ⟨_, fault, eq⟩ <;> rw [eq]
  · exact past
  · rfl
  · rfl

theorem precedesWatch_orLeave {c : Custody} {next : Stage} (past : next.precedesWatch = false) :
    (reply.orLeave c next).precedesWatch = false := by
  rcases Reply.orLeave_eq c next reply with eq | ⟨_, fault, eq⟩ <;> rw [eq]
  · exact past
  · rfl

/-- Nobody comes back to his watch. -/
theorem precedesWatch_after (past : stage.precedesWatch = false) :
    (stage.after plan convention reply).precedesWatch = false := by
  cases stage with
  | waiting c interrupted entered =>
      have goesOn : (reply.orAbandon c (.waiting c interrupted entered)).precedesWatch = false :=
        precedesWatch_orAbandon rfl
      cases reply with
      | raised fault =>
          cases fault with
          | interrupted => cases interrupted <;> rfl
          | _ => exact goesOn
      | _ => rfl
  | killing c => exact precedesWatch_orAbandon rfl
  | abandoning c fault | halting c fault | stopping c exitValue => exact precedesWatch_orLeave rfl
  | closing c exitValue first stream =>
      apply precedesWatch_orLeave
      cases stream <;> rfl
  | judging c exitValue first => cases reply <;> rfl
  | unwatching c fault | ending c exitValue | leaving c outcome | delisting c outcome
  | releasing p outcome | ended outcome => rfl
  | _ => contradiction

theorem owedUnwatch_of_precedesWatch (sound : stage.isSound = true)
    (precedes : stage.precedesWatch = true) : stage.owedUnwatch plan = none := by
  cases stage with
  | launching | opening p => rfl
  | attaching c stream | starting c | enlisting c | watching c =>
      simp only [isSound, Bool.and_eq_true, Bool.not_eq_true'] at sound
      simp [owedUnwatch, custody?, sound]
  | _ => contradiction

end Stage

/-! ## What a step does to watchdogs -/

namespace Moment

variable {σ : Type} {s : Surroundings σ} {m : Moment σ}

theorem watchdogs_next (other : m.run.stage.handlesWatch = false)
    (launched : m.run.stage ≠ .launching) :
    (m.next s).2.watchdogs = m.world.watchdogs := by
  rw [next_eq, World.watchdogs_noteAll]
  rcases m with ⟨⟨plan, stage, announced⟩, w⟩
  cases stage with
  | launching => contradiction
  | enlisting c =>
      simp only [called]
      split
      · rfl
      · exact World.watchdogs_enlist ..
  | waiting c interrupted entered => cases entered <;> rfl
  | halting c fault =>
      simp only [called]
      split <;> rfl
  | delisting c outcome =>
      simp only [called]
      split
      · exact World.watchdogs_delist ..
      · rfl
  | watching c | unwatching c fault | ending c exitValue | leaving c outcome => contradiction
  | _ => rfl

theorem watchdogs_next_of_launching (launching : m.run.stage = .launching) (i : WatchdogId) :
    ∃ f, Watchdog.IsMarking f ∧
      (m.next s).2.watchdogs[i]? = m.world.watchdogs[i]?.map f := by
  rw [next_eq, World.watchdogs_noteAll]
  simp only [called, launching]
  have aside : ∃ f, Watchdog.IsMarking f ∧
      (m.world.launch s m.run.plan.order).2.watchdogs[i]? = m.world.watchdogs[i]?.map f :=
    ⟨id, Watchdog.isMarking_id, Option.map_id.symm ▸ rfl⟩
  split
  · next fault k _ _ =>
      split
      · by_cases here : k = i
        · subst here
          exact ⟨_, Watchdog.isMarking_launchFailed (some fault), List.getElem?_modify_eq ..⟩
        · obtain ⟨f, marks, same⟩ := aside
          exact ⟨f, marks, (List.getElem?_modify_ne _ _ here).trans same⟩
      · exact aside
  · exact aside

/-- A watchdog that the execution does not use is left as it is. -/
theorem watchdogs_next_of_ne {i : WatchdogId} (other : m.run.plan.watchdog ≠ some i) :
    (m.next s).2.watchdogs[i]? = m.world.watchdogs[i]? := by
  have elsewhere : ∀ (w : World σ) (k : WatchdogId) (f : Watchdog → Watchdog),
      m.run.plan.watchdog = some k → (w.updateWatchdog k f).watchdogs[i]? = w.watchdogs[i]? := by
    intro w k f used
    apply List.getElem?_modify_ne
    rintro rfl
    exact other used
  by_cases handles : m.run.stage.handlesWatch = true
  · rw [next_eq, World.watchdogs_noteAll]
    cases atStage : m.run.stage with
    | watching c =>
        simp only [called, atStage]
        split
        · rfl
        · next k used =>
            unfold World.startWatch
            split
            · rfl
            · split
              · rfl
              · exact elsewhere _ k _ used
    | unwatching c fault | ending c exitValue | leaving c outcome =>
        simp only [called, atStage]
        split
        · next k _ used => exact elsewhere _ k _ used
        · rfl
    | _ =>
        rw [atStage] at handles
        contradiction
  · by_cases launching : m.run.stage = .launching
    · rw [next_eq, World.watchdogs_noteAll]
      simp only [called, launching]
      split
      · next k _ used =>
          split
          · exact elsewhere _ k _ used
          · rfl
      · rfl
    · rw [watchdogs_next (by simpa using handles) launching]

end Moment

end Overseer
