import Overseer.Proofs.Execution.Course

/-!
# References to processes

Watchdogs and registries refer to processes without owning them: a watchdog holds
the one it watches, a registry lists those it would destroy.  These lemmas say which
operations change what they refer to.
-/

namespace Overseer

namespace World

variable {σ : Type}

/-- The process that a watchdog holds. -/
def slot (w : World σ) (i : WatchdogId) : Option ProcessRef :=
  w.watchdogs[i]?.bind (·.process)

/-- The processes that a registry lists. -/
def registered (w : World σ) (i : DestroyerId) : List ProcessRef :=
  match w.destroyers[i]? with
  | some (.registry r) => r.members
  | _ => []

theorem slot_eq_of_watchdogs {v w : World σ} (same : v.watchdogs = w.watchdogs) :
    v.slot = w.slot := by
  funext i
  rw [slot, slot, same]

theorem registered_eq_of_destroyers {v w : World σ} (same : v.destroyers = w.destroyers) :
    v.registered = w.registered := by
  funext i
  rw [registered, registered, same]

/-! ## Notes -/

@[simp]
theorem watchdogs_noteAll (w : World σ) (journal : JournalId) (notices : List Notice) :
    (w.noteAll journal notices).watchdogs = w.watchdogs := by
  induction notices generalizing w with
  | nil => rfl
  | cons notice rest inductionHypothesis => exact inductionHypothesis _

@[simp]
theorem destroyers_noteAll (w : World σ) (journal : JournalId) (notices : List Notice) :
    (w.noteAll journal notices).destroyers = w.destroyers := by
  induction notices generalizing w with
  | nil => rfl
  | cons notice rest inductionHypothesis => exact inductionHypothesis _

@[simp]
theorem launches_noteAll (w : World σ) (journal : JournalId) (notices : List Notice) :
    (w.noteAll journal notices).launches = w.launches := by
  induction notices generalizing w with
  | nil => rfl
  | cons notice rest inductionHypothesis => exact inductionHypothesis _

theorem slot_noteIf (w : World σ) (journal : Option JournalId) (notice : Notice) :
    (w.noteIf journal notice).slot = w.slot := by
  cases journal <;> rfl

/-! ## Watchdogs -/

theorem slot_updateWatchdog_self (w : World σ) (i : WatchdogId) (f : Watchdog → Watchdog) :
    (w.updateWatchdog i f).slot i = w.watchdogs[i]?.bind (fun dog => (f dog).process) := by
  rw [slot, updateWatchdog, List.getElem?_modify_eq]
  cases w.watchdogs[i]? <;> rfl

theorem slot_updateWatchdog_of_ne (w : World σ) {i k : WatchdogId} (f : Watchdog → Watchdog)
    (other : k ≠ i) : (w.updateWatchdog i f).slot k = w.slot k := by
  have same : (w.watchdogs.modify i f)[k]? = w.watchdogs[k]? :=
    List.getElem?_modify_ne f w.watchdogs other.symm
  simp only [slot, updateWatchdog, same]

/-- A change of a watchdog that leaves its process alone. -/
theorem slot_updateWatchdog_of_process (w : World σ) (i : WatchdogId) {f : Watchdog → Watchdog}
    (same : ∀ dog, w.watchdogs[i]? = some dog → (f dog).process = dog.process) :
    (w.updateWatchdog i f).slot = w.slot := by
  funext k
  by_cases here : k = i
  · rw [here, slot_updateWatchdog_self, slot]
    cases found : w.watchdogs[i]? with
    | none => rfl
    | some dog => exact same dog found
  · exact slot_updateWatchdog_of_ne w f here

/-- Nothing is held by a watchdog that was made to let go. -/
theorem slot_updateWatchdog_of_none {w : World σ} {i k : WatchdogId} {f : Watchdog → Watchdog}
    {p : ProcessRef} (clears : ∀ dog, (f dog).process = none)
    (held : (w.updateWatchdog i f).slot k = some p) : k ≠ i ∧ w.slot k = some p := by
  by_cases here : k = i
  · rw [here, slot_updateWatchdog_self] at held
    cases found : w.watchdogs[i]? <;> simp [found, clears] at held
  · rw [slot_updateWatchdog_of_ne w f here] at held
    exact ⟨here, held⟩

/-! ## Registries -/

@[simp]
theorem watchdogs_enlist (s : Surroundings σ) (w : World σ) (i : DestroyerId) (p : ProcessRef) :
    (w.enlist s i p).2.watchdogs = w.watchdogs := by
  unfold enlist
  simp only [record]
  rcases w.destroyers[i]? with _ | ⟨r⟩ | ⟨_ | fault, _, _⟩
  · rfl
  · dsimp only
    cases r.admission p <;> rfl
  · rfl
  · rfl

@[simp]
theorem watchdogs_delist (w : World σ) (i : DestroyerId) (p : ProcessRef) :
    (w.delist i p).2.watchdogs = w.watchdogs := by
  unfold delist
  simp only [record]
  split <;> rfl

@[simp]
theorem launches_enlist (s : Surroundings σ) (w : World σ) (i : DestroyerId) (p : ProcessRef) :
    (w.enlist s i p).2.launches = w.launches := by
  unfold enlist
  simp only [record]
  rcases w.destroyers[i]? with _ | ⟨r⟩ | ⟨_ | fault, _, _⟩
  · rfl
  · dsimp only
    cases r.admission p <;> rfl
  · rfl
  · rfl

@[simp]
theorem launches_delist (w : World σ) (i : DestroyerId) (p : ProcessRef) :
    (w.delist i p).2.launches = w.launches := by
  unfold delist
  simp only [record]
  split <;> rfl

@[simp]
theorem launches_startWatch (w : World σ) (i : WatchdogId) (p : ProcessRef) :
    (w.startWatch i p).2.launches = w.launches := by
  unfold startWatch
  split
  · rfl
  · split <;> rfl

@[simp]
theorem destroyers_startWatch (w : World σ) (i : WatchdogId) (p : ProcessRef) :
    (w.startWatch i p).2.destroyers = w.destroyers := by
  unfold startWatch
  split
  · rfl
  · split <;> rfl

theorem registered_updateDestroyer_self (w : World σ) (i : DestroyerId) {r : Registry}
    (known : ∃ d, w.destroyers[i]? = some d) :
    (w.updateDestroyer i (fun _ => .registry r)).registered i = r.members := by
  obtain ⟨d, found⟩ := known
  rw [registered, updateDestroyer, List.getElem?_modify_eq, found]
  rfl

theorem registered_updateDestroyer_of_ne (w : World σ) {i k : DestroyerId}
    (f : Destroyer → Destroyer) (other : k ≠ i) :
    (w.updateDestroyer i f).registered k = w.registered k := by
  have same : (w.destroyers.modify i f)[k]? = w.destroyers[k]? :=
    List.getElem?_modify_ne f w.destroyers other.symm
  simp only [registered, updateDestroyer, same]

theorem registered_updateDestroyer_scripted (w : World σ) (i : DestroyerId)
    {addFault removeFault : Option Fault} {members old : List ProcessRef}
    {oldAdd oldRemove : Option Fault}
    (found : w.destroyers[i]? = some (.scripted oldAdd oldRemove old)) :
    (w.updateDestroyer i (fun _ => .scripted addFault removeFault members)).registered =
      w.registered := by
  funext k
  by_cases here : k = i
  · rw [here, registered, registered, updateDestroyer, List.getElem?_modify_eq, found]
    rfl
  · exact registered_updateDestroyer_of_ne w _ here

/-- A registry that a process is added to lists at most that process in addition, and
no process twice. -/
theorem registered_enlist (s : Surroundings σ) (w : World σ) (i k : DestroyerId) (p : ProcessRef) :
    (∀ q ∈ (w.enlist s i p).2.registered k, q ∈ w.registered k ∨ k = i ∧ q = p) ∧
      ((w.registered k).Nodup → ((w.enlist s i p).2.registered k).Nodup) := by
  unfold enlist
  have recorded : (w.record (.enlist i p)).registered = w.registered := rfl
  cases found : w.destroyers[i]? with
  | none =>
      simp only [record, found]
      exact ⟨fun q listed => .inl listed, id⟩
  | some d =>
      cases d with
      | scripted addFault removeFault members =>
          have found' : (w.record (.enlist i p)).destroyers[i]? =
              some (.scripted addFault removeFault members) := found
          cases addFault with
          | some fault =>
              simp only [found']
              exact ⟨fun q listed => .inl listed, id⟩
          | none =>
              simp only [found']
              rw [registered_updateDestroyer_scripted _ i found', recorded]
              exact ⟨fun q listed => .inl listed, id⟩
      | registry r =>
          have found' : (w.record (.enlist i p)).destroyers[i]? = some (.registry r) := found
          have members : w.registered i = r.members := by simp [registered, found]
          simp only [found']
          cases admitted : r.admission p with
          | condemned => exact ⟨fun q listed => .inl listed, id⟩
          | listed | known =>
              by_cases here : k = i
              · rw [here, registered_updateDestroyer_self _ i ⟨_, found'⟩, members]
                refine ⟨fun q listed => ?_, fun distinct => Registry.nodup_add distinct p⟩
                simp only [Registry.add, admitted] at listed
                simp_all
              · simp only [registered_updateDestroyer_of_ne _ _ here, recorded]
                exact ⟨fun q listed => .inl listed, id⟩

/-- A process that was removed from a registry is not listed any more. -/
theorem registered_delist (w : World σ) (i k : DestroyerId) (p : ProcessRef) :
    (∀ q ∈ (w.delist i p).2.registered k, q ∈ w.registered k) ∧
      ((w.registered k).Nodup → ((w.delist i p).2.registered k).Nodup) ∧
      ((w.registered i).Nodup → p ∉ (w.delist i p).2.registered i) := by
  unfold delist
  have recorded : (w.record (.delist i p)).registered = w.registered := rfl
  cases found : w.destroyers[i]? with
  | none => simp [record, found, registered]
  | some d =>
      cases d with
      | scripted addFault removeFault members =>
          have found' : (w.record (.delist i p)).destroyers[i]? =
              some (.scripted addFault removeFault members) := found
          have nothing : w.registered i = [] := by simp [registered, found]
          cases removeFault with
          | some fault =>
              refine ⟨fun q listed => ?_, fun distinct => ?_, fun _ => ?_⟩ <;>
                simp_all [record, registered]
          | none =>
              simp only [found']
              rw [registered_updateDestroyer_scripted _ i found', recorded, nothing]
              exact ⟨fun q listed => listed, id, fun _ => List.not_mem_nil⟩
      | registry r =>
          have found' : (w.record (.delist i p)).destroyers[i]? = some (.registry r) := found
          have members : w.registered i = r.members := by simp [registered, found]
          simp only [found']
          have removed := registered_updateDestroyer_self (w.record (.delist i p)) i
            (r := r.remove p) ⟨_, found'⟩
          by_cases here : k = i
          · rw [here, removed, members]
            exact ⟨fun q listed => List.mem_of_mem_erase listed, fun distinct => distinct.erase p,
              fun distinct => distinct.not_mem_erase⟩
          · rw [registered_updateDestroyer_of_ne _ _ here, recorded, removed, members]
            exact ⟨fun q listed => listed, id, fun distinct => distinct.not_mem_erase⟩

end World

end Overseer
