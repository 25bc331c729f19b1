import Overseer.Proofs.Execution.Disturbance
import Overseer.Proofs.Fleet.References

/-!
# Disturbances destroy only what is referred to

Whatever happens without an execution's doing, no watchdog takes hold of a process
and no registry changes its list; and the processes destroyed meanwhile are those a
watchdog held or a registry listed.
-/

namespace Overseer

namespace Watchdog

theorem process_of_target {dog : Watchdog} {p : ProcessRef} (target : dog.target? = some p) :
    dog.watching = true ∧ dog.process = some p := by
  unfold target? at target
  split at target
  · next watching => exact ⟨watching, target⟩
  · contradiction

theorem process_beginKill (dog : Watchdog) : dog.beginKill.process = dog.process := by
  unfold beginKill
  split <;> rfl

/-- A kill that has gone on to its end has let go of the process, and may have left a fault. -/
theorem settle_eq_ok {dog settled : Watchdog} {reply : Except Fault Unit}
    (done : dog.settle reply = .ok settled) : ∃ fault, settled = { dog with fault }.clear := by
  unfold settle at done
  split at done
  · cases done
    exact ⟨dog.fault, rfl⟩
  · split at done
    · cases done
      exact ⟨_, rfl⟩
    · contradiction

theorem process_of_settle {dog settled : Watchdog} {reply : Except Fault Unit}
    (done : dog.settle reply = .ok settled) : settled.process = none := by
  obtain ⟨fault, rfl⟩ := settle_eq_ok done
  rfl

end Watchdog

namespace World

variable {σ : Type}

/-- Whether a watchdog or a registry refers to a process. -/
def RefersTo (w : World σ) (p : ProcessRef) : Prop :=
  (∃ i, w.slot i = some p) ∨ ∃ i, p ∈ w.registered i

/-- How a world can become another one without new references. -/
structure Decays (w v : World σ) : Prop where
  /-- Nothing is launched. -/
  launches : v.launches = w.launches
  /-- Watchdogs at most let go of their processes. -/
  slot : ∀ i p, v.slot i = some p → w.slot i = some p
  /-- Registries keep their lists. -/
  registered : v.registered = w.registered
  /-- The only calls are the destruction of processes that were referred to. -/
  trace : ∃ calls, v.trace = w.trace ++ calls ∧
    ∀ event ∈ calls, ∃ agent p, event = .destroy agent p ∧ w.RefersTo p

namespace Decays

variable {u v w : World σ}

/-- What only concerns other parts of a world. -/
theorem of_same (launches : v.launches = w.launches) (watchdogs : v.watchdogs = w.watchdogs)
    (destroyers : v.destroyers = w.destroyers) (trace : v.trace = w.trace) : w.Decays v where
  launches := launches
  slot i p held := by rwa [slot_eq_of_watchdogs watchdogs] at held
  registered := registered_eq_of_destroyers destroyers
  trace := ⟨[], by simp [trace], by simp⟩

theorem refersTo (decays : w.Decays v) {p : ProcessRef} (referred : v.RefersTo p) :
    w.RefersTo p := by
  rcases referred with ⟨i, held⟩ | ⟨i, listed⟩
  · exact .inl ⟨i, decays.slot i p held⟩
  · rw [decays.registered] at listed
    exact .inr ⟨i, listed⟩

theorem trans (first : w.Decays v) (second : v.Decays u) : w.Decays u where
  launches := second.launches.trans first.launches
  slot i p held := first.slot i p (second.slot i p held)
  registered := second.registered.trans first.registered
  trace := by
    obtain ⟨calls, firstTrace, firstCalls⟩ := first.trace
    obtain ⟨more, secondTrace, secondCalls⟩ := second.trace
    refine ⟨calls ++ more, by rw [secondTrace, firstTrace, List.append_assoc], ?_⟩
    intro event called
    rcases List.mem_append.mp called with early | late
    · exact firstCalls event early
    · obtain ⟨agent, p, same, referred⟩ := secondCalls event late
      exact ⟨agent, p, same, first.refersTo referred⟩

/-- A watchdog that takes hold of nothing new. -/
theorem updateWatchdog (w : World σ) (i : WatchdogId) {f : Watchdog → Watchdog}
    (keeps : ∀ dog p, (f dog).process = some p → dog.process = some p) :
    w.Decays (w.updateWatchdog i f) where
  launches := rfl
  slot k p held := by
    by_cases here : k = i
    · rw [here] at held ⊢
      rw [slot_updateWatchdog_self] at held
      cases found : w.watchdogs[i]? with
      | none => simp [found] at held
      | some dog =>
          rw [found] at held
          simp only [World.slot, found]
          exact keeps dog p held
    · rwa [slot_updateWatchdog_of_ne w f here] at held
  registered := rfl
  trace := ⟨[], (List.append_nil _).symm, by simp⟩

/-- The destruction of a process that is referred to. -/
theorem destroy (s : Surroundings σ) (agent : Agent) {p : ProcessRef} (referred : w.RefersTo p) :
    w.Decays (w.destroy s agent p).2 where
  launches := rfl
  slot i p held := held
  registered := rfl
  trace := by
    refine ⟨[.destroy agent p], rfl, ?_⟩
    intro event called
    exact ⟨agent, p, List.mem_singleton.mp called, referred⟩

theorem noteIf (w : World σ) (journal : Option JournalId) (notice : Notice) :
    w.Decays (w.noteIf journal notice) := by
  cases journal <;> exact of_same rfl rfl rfl rfl

theorem destroyAll (s : Surroundings σ) (i : DestroyerId) (journal : Option JournalId)
    (processes : List ProcessRef) (w : World σ) (listed : ∀ p ∈ processes, p ∈ w.registered i) :
    w.Decays (w.destroyAll s i journal processes).2 := by
  induction processes generalizing w with
  | nil => exact of_same rfl rfl rfl rfl
  | cons p rest inductionHypothesis =>
      have first : w.Decays (w.destroy s (.destroyer i) p).2 :=
        destroy s _ (.inr ⟨i, listed p List.mem_cons_self⟩)
      have stillListed : ∀ q ∈ rest, q ∈ w.registered i :=
        fun q found => listed q (List.mem_cons_of_mem _ found)
      rw [World.destroyAll]
      rcases destroyed : w.destroy s (.destroyer i) p with ⟨fault | _, v⟩ <;>
        rw [destroyed] at first
      · simp only
        split
        · have noted := first.trans (noteIf v journal (.notTerminated (v.pid s p) fault))
          refine noted.trans (inductionHypothesis _ ?_)
          rwa [noted.registered]
        · exact first
      · refine first.trans (inductionHypothesis v ?_)
        rwa [first.registered]

theorem runRegistry (s : Surroundings σ) (w : World σ) (i : DestroyerId) :
    w.Decays (w.runRegistry s i).2 := by
  unfold World.runRegistry
  split
  · next r found =>
      have marked : w.Decays (w.updateDestroyer i (fun _ => .registry r.run)) := by
        refine ⟨rfl, fun _ _ held => held, ?_, [], (List.append_nil _).symm, by simp⟩
        funext k
        by_cases here : k = i
        · rw [here, registered_updateDestroyer_self w i ⟨_, found⟩, World.registered, found]
          rfl
        · exact registered_updateDestroyer_of_ne w _ here
      refine marked.trans (destroyAll s i r.journal r.members _ ?_)
      intro p member
      rw [registered_updateDestroyer_self w i ⟨_, found⟩]
      exact member
  · exact of_same rfl rfl rfl rfl

theorem kill (s : Surroundings σ) (w : World σ) (i : WatchdogId) : w.Decays (w.kill s i).2 := by
  unfold World.kill
  cases found : w.watchdogs[i]? with
  | none => exact of_same rfl rfl rfl rfl
  | some dog =>
      simp only
      cases target : dog.target? with
      | none => exact updateWatchdog w i (fun _ _ held => by simp [Watchdog.clear] at held)
      | some p =>
          have held : w.slot i = some p := by
            simp [World.slot, found, (Watchdog.process_of_target target).2]
          have begun : w.Decays (w.updateWatchdog i Watchdog.beginKill) :=
            updateWatchdog w i (fun dog q same => by rwa [Watchdog.process_beginKill] at same)
          have noted := begun.trans (noteIf _ dog.journal
            (.watchdogKills ((w.updateWatchdog i Watchdog.beginKill).pid s p) dog.timeout))
          have referred : ((w.updateWatchdog i Watchdog.beginKill).noteIf dog.journal
              (.watchdogKills ((w.updateWatchdog i Watchdog.beginKill).pid s p)
                dog.timeout)).RefersTo p := by
            refine .inl ⟨i, ?_⟩
            rw [slot_noteIf, slot_updateWatchdog_of_process w i
              (fun dog _ => Watchdog.process_beginKill dog), held]
          dsimp only
          generalize (w.updateWatchdog i Watchdog.beginKill).noteIf dog.journal
            (.watchdogKills ((w.updateWatchdog i Watchdog.beginKill).pid s p) dog.timeout) = u
            at noted referred ⊢
          have destroyed := noted.trans (destroy s (.watchdog i) referred)
          rcases replied : u.destroy s (.watchdog i) p with ⟨reply, v⟩
          rw [replied] at destroyed
          dsimp only
          cases done : dog.beginKill.settle reply with
          | error fault => exact destroyed
          | ok settled =>
              refine destroyed.trans (updateWatchdog v i fun _ q same => ?_)
              rw [Watchdog.process_of_settle done] at same
              contradiction

theorem expire (s : Surroundings σ) (w : World σ) (i : WatchdogId) : w.Decays (w.expire s i) := by
  refine (kill s w i).trans (updateWatchdog _ i ?_)
  intro dog p held
  exact held

end Decays

end World

/-- No disturbance makes a reference. -/
theorem Disturbance.decays {σ : Type} (s : Surroundings σ) (d : Disturbance σ) (w : World σ) :
    w.Decays (d.apply s w) := by
  cases d with
  | timer i => exact World.Decays.expire s w i
  | kill i => exact World.Decays.kill s w i
  | shutdown i => exact World.Decays.runRegistry s w i
  | time t => exact World.Decays.of_same rfl rfl rfl rfl
  | outside change => exact World.Decays.of_same rfl rfl rfl rfl

/-! ## Disturbances and watchdogs -/

/-- Whether a disturbance ends the watch of a watchdog. -/
def Disturbance.endsWatch {σ : Type} (i : WatchdogId) : Disturbance σ → Bool
  | .timer k | .kill k => k == i
  | _ => false

namespace World

variable {σ : Type}

theorem watchdogs_noteIf (w : World σ) (journal : Option JournalId) (notice : Notice) :
    (w.noteIf journal notice).watchdogs = w.watchdogs := by
  cases journal <;> rfl

theorem watchdogs_destroyAll (s : Surroundings σ) (i : DestroyerId) (journal : Option JournalId)
    (processes : List ProcessRef) (w : World σ) :
    (w.destroyAll s i journal processes).2.watchdogs = w.watchdogs := by
  induction processes generalizing w with
  | nil => rfl
  | cons p rest inductionHypothesis =>
      have destroyed : (w.destroy s (.destroyer i) p).2.watchdogs = w.watchdogs := rfl
      rw [destroyAll]
      split
      · next v replied =>
          rw [replied] at destroyed
          rw [inductionHypothesis, destroyed]
      · next fault v replied =>
          rw [replied] at destroyed
          split
          · rw [inductionHypothesis, watchdogs_noteIf, destroyed]
          · exact destroyed

theorem watchdogs_kill_of_ne (s : Surroundings σ) (w : World σ) {i k : WatchdogId}
    (other : k ≠ i) : (w.kill s k).2.watchdogs[i]? = w.watchdogs[i]? := by
  have elsewhere : ∀ (v : World σ) (f : Watchdog → Watchdog),
      (v.updateWatchdog k f).watchdogs[i]? = v.watchdogs[i]? :=
    fun v f => List.getElem?_modify_ne f v.watchdogs other
  unfold kill
  split
  · rfl
  · next dog _ =>
      split
      · exact elsewhere w _
      · next p _ =>
          dsimp only
          have begun : ∀ notice, ((((w.updateWatchdog k Watchdog.beginKill).noteIf dog.journal
              notice).destroy s (.watchdog k) p).2).watchdogs[i]? = w.watchdogs[i]? := by
            intro notice
            change ((w.updateWatchdog k Watchdog.beginKill).noteIf dog.journal
              notice).watchdogs[i]? = _
            rw [watchdogs_noteIf]
            exact elsewhere w _
          split
          · exact (elsewhere _ _).trans (begun _)
          · exact begun _

/-- A disturbance that does not end its watch leaves a watchdog as it is. -/
theorem watchdogs_disturb (s : Surroundings σ) (w : World σ) {d : Disturbance σ} {i : WatchdogId}
    (aside : d.endsWatch i = false) : (d.apply s w).watchdogs[i]? = w.watchdogs[i]? := by
  cases d with
  | timer k =>
      have other : k ≠ i := by simpa [Disturbance.endsWatch] using aside
      exact (List.getElem?_modify_ne _ _ other).trans (watchdogs_kill_of_ne s w other)
  | kill k =>
      have other : k ≠ i := by simpa [Disturbance.endsWatch] using aside
      exact watchdogs_kill_of_ne s w other
  | shutdown k =>
      simp only [Disturbance.apply, runRegistry]
      split
      · rw [watchdogs_destroyAll]
        rfl
      · rfl
  | time t | outside change => rfl

variable {s : Surroundings σ} {w : World σ} {i : WatchdogId} {dog : Watchdog} {p : ProcessRef}

theorem watchdogs_updateWatchdog (known : w.watchdogs[i]? = some dog) (f : Watchdog → Watchdog) :
    (w.updateWatchdog i f).watchdogs[i]? = some (f dog) := by
  rw [updateWatchdog, List.getElem?_modify_eq, known]
  rfl

theorem outside_noteIf (w : World σ) (journal : Option JournalId) (notice : Notice) :
    (w.noteIf journal notice).outside = w.outside := by
  cases journal <;> rfl

theorem kill_of_idle (known : w.watchdogs[i]? = some dog) (free : dog.target? = none) :
    w.kill s i = (.ok (), w.updateWatchdog i Watchdog.clear) := by
  simp [kill, known, free]

/-- A kill destroys the process that is watched, and the watchdog is told how that went
unless a fault of an unknown kind was raised. -/
theorem kill_of_target (known : w.watchdogs[i]? = some dog) (target : dog.target? = some p) :
    (w.kill s i).2.trace = w.trace ++ [.destroy (.watchdog i) p] ∧
      (w.kill s i).2.watchdogs[i]? = some
        ((dog.beginKill.settle (s.destroy p w.outside).1).toOption.getD dog.beginKill) := by
  have begun := watchdogs_updateWatchdog known Watchdog.beginKill
  simp only [kill, known, target]
  generalize noted : (w.updateWatchdog i Watchdog.beginKill).noteIf dog.journal _ = v
  have outside : v.outside = w.outside := by rw [← noted, outside_noteIf]; rfl
  have trace : v.trace = w.trace := by rw [← noted, trace_noteIf]; rfl
  have watchdogs : v.watchdogs[i]? = some dog.beginKill := by
    rw [← noted, watchdogs_noteIf, begun]
  simp only [destroy, call, outside]
  cases done : dog.beginKill.settle (s.destroy p w.outside).1 with
  | error fault => exact ⟨by simp [record, trace], watchdogs⟩
  | ok settled => exact ⟨by simp [record, trace], watchdogs_updateWatchdog watchdogs _⟩

end World

end Overseer
