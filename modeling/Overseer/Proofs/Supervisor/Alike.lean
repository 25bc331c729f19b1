import Overseer.Proofs.Execution.Course
import Overseer.Proofs.Execution.Disturbance

/-!
# Worlds that are alike

A watchdog remembers whether a launch was tried, so that a kill can wait for it.
Asking for a background execution resets that mark, and asking for one that the
caller waits for does not.  Nothing an execution does depends on the mark: worlds that
differ in marks only are *alike*, they stay alike whatever happens, and executions
take the same steps in them.
-/

namespace Overseer

namespace Watchdog

/-- A watchdog whose mark of a tried launch is taken away. -/
def unmarked (dog : Watchdog) : Watchdog :=
  { dog with started := false }

/-- Watchdogs that differ in their marks at most. -/
theorem eq_of_unmarked {dog other : Watchdog} (same : dog.unmarked = other.unmarked) :
    dog = { other with started := dog.started } := by
  rcases dog
  rcases other
  simp_all [unmarked]

/-- A change of watchdogs that does not look at the mark. -/
def IsBlind (f : Watchdog → Watchdog) : Prop :=
  ∀ dog marked, (f { dog with started := marked }).unmarked = (f dog).unmarked

theorem isBlind_launchFailed (fault : Option Fault) : IsBlind (·.launchFailed fault) := by
  rintro ⟨timeout, journal, process, watching, killed, started, stop, held, timer⟩ marked
  cases watching <;> rfl

theorem isBlind_forgetLaunch : IsBlind forgetLaunch := by
  rintro ⟨timeout, journal, process, watching, killed, started, stop, held, timer⟩ marked
  cases watching <;> rfl

theorem unmarked_forgetLaunch (dog : Watchdog) : dog.forgetLaunch.unmarked = dog.unmarked := by
  unfold forgetLaunch
  split <;> rfl

theorem isBlind_clear : IsBlind clear :=
  fun _ _ => rfl

theorem isBlind_stop : IsBlind stop :=
  fun _ _ => rfl

theorem isBlind_retireTimer : IsBlind retireTimer :=
  fun _ _ => rfl

theorem isBlind_beginKill : IsBlind beginKill := by
  rintro ⟨timeout, journal, process, watching, killed, started, stop, held, timer⟩ marked
  cases watching <;> cases process <;> rfl

/-- Nor does the end of a kill look at the mark. -/
theorem unmarked_settle {dog other : Watchdog} (same : dog.unmarked = other.unmarked)
    (reply : Except Fault Unit) :
    (dog.beginKill.settle reply).map unmarked = (other.beginKill.settle reply).map unmarked := by
  have begun : dog.beginKill.unmarked = other.beginKill.unmarked := by
    rw [eq_of_unmarked same]
    exact isBlind_beginKill other dog.started
  rw [eq_of_unmarked begun]
  unfold settle
  cases reply with
  | ok _ => rfl
  | error fault =>
      dsimp only
      split <;> rfl

/-- A start does not look at the mark, and leaves one of its own. -/
theorem start_marked (dog : Watchdog) (marked : Bool) (now : Instant) (p : ProcessRef) :
    ({ dog with started := marked } : Watchdog).start now p = dog.start now p := by
  unfold start clearance
  cases dog.process <;> rfl

end Watchdog

namespace World

variable {σ : Type}

/-- Worlds that differ at most in what their watchdogs remember of launches. -/
def Alike (v w : World σ) : Prop :=
  ∃ dogs, v = { w with watchdogs := dogs } ∧
    dogs.map Watchdog.unmarked = w.watchdogs.map Watchdog.unmarked

namespace Alike

variable {v w : World σ}

theorem refl (w : World σ) : w.Alike w :=
  ⟨w.watchdogs, rfl, rfl⟩

theorem launches (alike : v.Alike w) : v.launches = w.launches := by
  obtain ⟨dogs, rfl, _⟩ := alike
  rfl

theorem trace (alike : v.Alike w) : v.trace = w.trace := by
  obtain ⟨dogs, rfl, _⟩ := alike
  rfl

theorem outside (alike : v.Alike w) : v.outside = w.outside := by
  obtain ⟨dogs, rfl, _⟩ := alike
  rfl

/-- Whatever does not concern watchdogs keeps worlds alike. -/
theorem frame {f : World σ → World σ} (alike : v.Alike w)
    (blind : ∀ (w : World σ) dogs,
      f { w with watchdogs := dogs } = { f w with watchdogs := dogs })
    (keeps : (f w).watchdogs = w.watchdogs) : (f v).Alike (f w) := by
  obtain ⟨dogs, rfl, same⟩ := alike
  exact ⟨dogs, blind w dogs, by rw [same, keeps]⟩

/-- A watchdog of one world and its counterpart. -/
theorem getElem? (alike : v.Alike w) (i : WatchdogId) :
    v.watchdogs[i]?.map Watchdog.unmarked = w.watchdogs[i]?.map Watchdog.unmarked := by
  obtain ⟨dogs, rfl, same⟩ := alike
  have there := congrArg (·[i]?) same
  simpa using there

theorem updateWatchdogs {f g : Watchdog → Watchdog} (alike : v.Alike w) (i : WatchdogId)
    (same : ∀ dog other, v.watchdogs[i]? = some dog → w.watchdogs[i]? = some other →
      dog.unmarked = other.unmarked → (f dog).unmarked = (g other).unmarked) :
    (v.updateWatchdog i f).Alike (w.updateWatchdog i g) := by
  have counterparts := alike.getElem?
  obtain ⟨dogs, rfl, equal⟩ := alike
  refine ⟨dogs.modify i f, rfl, ?_⟩
  apply List.ext_getElem?
  intro k
  have there := counterparts k
  simp only [World.updateWatchdog, List.getElem?_map] at there ⊢
  by_cases here : i = k
  · subst here
    rw [List.getElem?_modify_eq, List.getElem?_modify_eq]
    cases dogFound : dogs[i]? with
    | none =>
        cases otherFound : w.watchdogs[i]? with
        | none => rfl
        | some other => simp [dogFound, otherFound] at there
    | some dog =>
        cases otherFound : w.watchdogs[i]? with
        | none => simp [dogFound, otherFound] at there
        | some other =>
            simp only [dogFound, otherFound, Option.map_some, Option.some.injEq] at there
            simp [same dog other dogFound otherFound there]
  · rw [List.getElem?_modify_ne f dogs here, List.getElem?_modify_ne g _ here]
    exact there

theorem updateWatchdog {f : Watchdog → Watchdog} (alike : v.Alike w) (i : WatchdogId)
    (blind : Watchdog.IsBlind f) : (v.updateWatchdog i f).Alike (w.updateWatchdog i f) := by
  apply alike.updateWatchdogs i
  intro dog other _ _ same
  rw [Watchdog.eq_of_unmarked same]
  exact blind other dog.started

/-- Forgetting a launch changes no more than a mark. -/
theorem forgetLaunch (w : World σ) (i : WatchdogId) :
    w.Alike (w.updateWatchdog i Watchdog.forgetLaunch) := by
  have unchanged : w.updateWatchdog i id = w := by
    simp [World.updateWatchdog]
  have alike : (w.updateWatchdog i id).Alike (w.updateWatchdog i Watchdog.forgetLaunch) := by
    apply (refl w).updateWatchdogs i
    intro dog other _ _ same
    rw [Watchdog.unmarked_forgetLaunch]
    exact same
  rw [unchanged] at alike
  exact alike

theorem note (alike : v.Alike w) (journal : JournalId) (notice : Notice) :
    (v.note journal notice).Alike (w.note journal notice) :=
  alike.frame (f := (·.note journal notice)) (fun _ _ => rfl) rfl

theorem noteIf (alike : v.Alike w) (journal : Option JournalId) (notice : Notice) :
    (v.noteIf journal notice).Alike (w.noteIf journal notice) := by
  cases journal with
  | none => exact alike
  | some i => exact alike.note i notice

theorem noteAll (alike : v.Alike w) (journal : JournalId) (notices : List Notice) :
    (v.noteAll journal notices).Alike (w.noteAll journal notices) := by
  induction notices generalizing v w with
  | nil => exact alike
  | cons notice rest inductionHypothesis => exact inductionHypothesis (alike.note journal notice)

theorem record (alike : v.Alike w) (event : Event) : (v.record event).Alike (w.record event) :=
  alike.frame (f := (·.record event)) (fun _ _ => rfl) rfl

/-- A call on collaborators comes to the same. -/
theorem call {α : Type} (alike : v.Alike w) (event : Event) (act : σ → α × σ) :
    (v.call event act).1 = (w.call event act).1 ∧
      (v.call event act).2.Alike (w.call event act).2 := by
  obtain ⟨dogs, rfl, same⟩ := alike
  exact ⟨rfl, dogs, rfl, same⟩

theorem launch (alike : v.Alike w) (s : Surroundings σ) (order : LaunchOrder) :
    (v.launch s order).1 = (w.launch s order).1 ∧
      (v.launch s order).2.Alike (w.launch s order).2 := by
  obtain ⟨dogs, rfl, same⟩ := alike
  exact ⟨rfl, dogs, rfl, same⟩

theorem resumeWait (alike : v.Alike w) (s : Surroundings σ) (p : ProcessRef) :
    (v.resumeWait s p).1 = (w.resumeWait s p).1 ∧
      (v.resumeWait s p).2.Alike (w.resumeWait s p).2 := by
  obtain ⟨dogs, rfl, same⟩ := alike
  exact ⟨rfl, dogs, rfl, same⟩

theorem enlist (alike : v.Alike w) (s : Surroundings σ) (i : DestroyerId) (p : ProcessRef) :
    (v.enlist s i p).1 = (w.enlist s i p).1 ∧ (v.enlist s i p).2.Alike (w.enlist s i p).2 := by
  obtain ⟨dogs, rfl, same⟩ := alike
  unfold World.enlist
  simp only [World.record]
  rcases w.destroyers[i]? with _ | ⟨r⟩ | ⟨_ | fault, _, _⟩
  · exact ⟨rfl, dogs, rfl, same⟩
  · dsimp only
    cases r.admission p <;> exact ⟨rfl, dogs, rfl, same⟩
  · exact ⟨rfl, dogs, rfl, same⟩
  · exact ⟨rfl, dogs, rfl, same⟩

theorem delist (alike : v.Alike w) (i : DestroyerId) (p : ProcessRef) :
    (v.delist i p).1 = (w.delist i p).1 ∧ (v.delist i p).2.Alike (w.delist i p).2 := by
  obtain ⟨dogs, rfl, same⟩ := alike
  unfold World.delist
  simp only [World.record]
  split <;> exact ⟨rfl, dogs, rfl, same⟩

theorem startWatch (alike : v.Alike w) (i : WatchdogId) (p : ProcessRef) :
    (v.startWatch i p).1 = (w.startWatch i p).1 ∧
      (v.startWatch i p).2.Alike (w.startWatch i p).2 := by
  have counterpart := alike.getElem? i
  have clock : v.clock = w.clock := by
    obtain ⟨dogs, rfl, _⟩ := alike
    rfl
  unfold World.startWatch
  cases dogFound : v.watchdogs[i]? with
  | none =>
      cases otherFound : w.watchdogs[i]? with
      | none => exact ⟨rfl, alike⟩
      | some other => simp [dogFound, otherFound] at counterpart
  | some dog =>
      cases otherFound : w.watchdogs[i]? with
      | none => simp [dogFound, otherFound] at counterpart
      | some other =>
          simp only [dogFound, otherFound, Option.map_some, Option.some.injEq] at counterpart
          have same : dog.start v.clock p = other.start w.clock p := by
            rw [Watchdog.eq_of_unmarked counterpart, clock]
            exact Watchdog.start_marked ..
          simp only [same]
          cases other.start w.clock p with
          | error fault => exact ⟨rfl, alike⟩
          | ok watching => exact ⟨rfl, alike.updateWatchdog i fun _ _ => rfl⟩

theorem stopWatch (alike : v.Alike w) (i : WatchdogId) :
    (v.stopWatch i).Alike (w.stopWatch i) :=
  alike.updateWatchdog i Watchdog.isBlind_stop

theorem watchdogFault (alike : v.Alike w) (watchdog : Option WatchdogId) :
    v.watchdogFault watchdog = w.watchdogFault watchdog := by
  cases watchdog with
  | none => rfl
  | some i =>
      have counterpart := congrArg (·.bind (·.fault)) (alike.getElem? i)
      simp only [Option.bind_map] at counterpart
      exact counterpart

/-! ## Disturbances -/

theorem destroyAll (alike : v.Alike w) (s : Surroundings σ) (i : DestroyerId)
    (journal : Option JournalId) (processes : List ProcessRef) :
    (v.destroyAll s i journal processes).2.Alike (w.destroyAll s i journal processes).2 := by
  induction processes generalizing v w with
  | nil => exact alike
  | cons p rest inductionHypothesis =>
      obtain ⟨sameReply, stillAlike⟩ := alike.call (.destroy (.destroyer i) p) (s.destroy p)
      simp only [World.destroyAll, World.destroy]
      generalize v.call (.destroy (.destroyer i) p) (s.destroy p) = called at sameReply stillAlike ⊢
      generalize w.call (.destroy (.destroyer i) p) (s.destroy p) = other at sameReply stillAlike ⊢
      rcases called with ⟨reply, v'⟩
      rcases other with ⟨_, w'⟩
      obtain rfl := sameReply
      change v'.Alike w' at stillAlike
      cases reply with
      | ok _ => exact inductionHypothesis stillAlike
      | error fault =>
          dsimp only
          split
          · simp only [World.pid, stillAlike.outside]
            exact inductionHypothesis (stillAlike.noteIf ..)
          · exact stillAlike

theorem runRegistry (alike : v.Alike w) (s : Surroundings σ) (i : DestroyerId) :
    (v.runRegistry s i).2.Alike (w.runRegistry s i).2 := by
  have destroyers : v.destroyers = w.destroyers := by
    obtain ⟨dogs, rfl, _⟩ := alike
    rfl
  unfold World.runRegistry
  rw [destroyers]
  split
  · next r _ =>
      refine destroyAll ?_ s i r.journal r.members
      exact alike.frame (f := (·.updateDestroyer i (fun _ => .registry r.run))) (fun _ _ => rfl) rfl
  · exact alike

theorem kill (alike : v.Alike w) (s : Surroundings σ) (i : WatchdogId) :
    (v.kill s i).2.Alike (w.kill s i).2 := by
  have counterpart := alike.getElem? i
  unfold World.kill
  cases dogFound : v.watchdogs[i]? with
  | none =>
      cases otherFound : w.watchdogs[i]? with
      | none => exact alike
      | some other => simp [dogFound, otherFound] at counterpart
  | some dog =>
      cases otherFound : w.watchdogs[i]? with
      | none => simp [dogFound, otherFound] at counterpart
      | some other =>
          simp only [dogFound, otherFound, Option.map_some, Option.some.injEq] at counterpart
          have sameDog := Watchdog.eq_of_unmarked counterpart
          have target : dog.target? = other.target? := by
            rw [sameDog]
            rfl
          have journal : dog.journal = other.journal := by rw [sameDog]
          have timeout : dog.timeout = other.timeout := by rw [sameDog]
          simp only [target]
          cases other.target? with
          | none => exact alike.updateWatchdog i Watchdog.isBlind_clear
          | some p =>
              have begun := alike.updateWatchdog i Watchdog.isBlind_beginKill
              have noted := begun.noteIf other.journal
                (.watchdogKills ((w.updateWatchdog i Watchdog.beginKill).pid s p) other.timeout)
              have pid : (v.updateWatchdog i Watchdog.beginKill).pid s p =
                  (w.updateWatchdog i Watchdog.beginKill).pid s p :=
                congrArg (s.pid · p) begun.outside
              simp only [journal, timeout, pid]
              generalize (v.updateWatchdog i Watchdog.beginKill).noteIf _ _ = v' at noted ⊢
              generalize (w.updateWatchdog i Watchdog.beginKill).noteIf _ _ = w' at noted ⊢
              obtain ⟨sameReply, destroyed⟩ := noted.call (.destroy (.watchdog i) p) (s.destroy p)
              change (v'.destroy s (.watchdog i) p).1 = (w'.destroy s (.watchdog i) p).1
                at sameReply
              have settled := Watchdog.unmarked_settle counterpart
                (w'.destroy s (.watchdog i) p).1
              rw [sameReply]
              cases done : dog.beginKill.settle (w'.destroy s (.watchdog i) p).1 with
              | error fault =>
                  cases done' : other.beginKill.settle (w'.destroy s (.watchdog i) p).1 with
                  | error fault' => exact destroyed
                  | ok other' => simp [done, done', Except.map] at settled
              | ok dog' =>
                  cases done' : other.beginKill.settle (w'.destroy s (.watchdog i) p).1 with
                  | error fault' => simp [done, done', Except.map] at settled
                  | ok other' =>
                      simp only [done, done', Except.map, Except.ok.injEq] at settled
                      exact destroyed.updateWatchdogs i fun _ _ _ _ _ => settled

theorem expire (alike : v.Alike w) (s : Surroundings σ) (i : WatchdogId) :
    (v.expire s i).Alike (w.expire s i) :=
  (alike.kill s i).updateWatchdog i Watchdog.isBlind_retireTimer

end Alike

end World

/-- A disturbance keeps worlds alike. -/
theorem Disturbance.alike {σ : Type} {v w : World σ} (alike : v.Alike w) (s : Surroundings σ)
    (d : Disturbance σ) : (d.apply s v).Alike (d.apply s w) := by
  cases d with
  | timer i => exact alike.expire s i
  | kill i => exact alike.kill s i
  | shutdown i => exact alike.runRegistry s i
  | time t =>
      obtain ⟨dogs, rfl, same⟩ := alike
      exact ⟨dogs, rfl, same⟩
  | outside change =>
      obtain ⟨dogs, rfl, same⟩ := alike
      exact ⟨dogs, rfl, same⟩

/-! ## Executions -/

namespace World.Alike

variable {σ : Type} {v w : World σ}

theorem reply (alike : v.Alike w) (s : Surroundings σ) (r : Run) :
    Moment.reply s { run := r, world := v } = Moment.reply s { run := r, world := w } := by
  rcases r with ⟨plan, stage, announced⟩
  cases stage with
  | enlisting c =>
      cases destroyer : plan.destroyer with
      | none => simp only [Moment.reply, destroyer]
      | some i => simp only [Moment.reply, destroyer, (alike.enlist s i c.process).1]
  | watching c =>
      cases watchdog : plan.watchdog with
      | none => simp only [Moment.reply, watchdog]
      | some i => simp only [Moment.reply, watchdog, (alike.startWatch i c.process).1]
  | judging c exitValue first => simp only [Moment.reply, alike.watchdogFault]
  | delisting c outcome =>
      have sameReply := fun i => (alike.delist i c.process).1
      simp only [Moment.reply, sameReply]
  | waiting c interrupted entered =>
      obtain ⟨dogs, rfl, _⟩ := alike
      cases entered <;> rfl
  | halting c fault =>
      obtain ⟨dogs, rfl, _⟩ := alike
      simp only [Moment.reply]
      split <;> rfl
  | _ =>
      obtain ⟨dogs, rfl, _⟩ := alike
      rfl

theorem called (alike : v.Alike w) (s : Surroundings σ) (r : Run) :
    (Moment.called s { run := r, world := v }).Alike
      (Moment.called s { run := r, world := w }) := by
  have sameReply := alike.reply s r
  rcases r with ⟨plan, stage, announced⟩
  cases stage with
  | launching =>
      have launched := (alike.launch s plan.order).2
      simp only [Moment.called, sameReply]
      split
      · split
        · exact launched.updateWatchdog _ (Watchdog.isBlind_launchFailed _)
        · exact launched
      · exact launched
  | enlisting c =>
      simp only [Moment.called]
      split
      · exact alike
      · exact (alike.enlist s _ c.process).2
  | watching c =>
      simp only [Moment.called]
      split
      · exact alike
      · exact (alike.startWatch _ c.process).2
  | waiting c interrupted entered =>
      cases entered with
      | false => exact (alike.call (.waitFor c.process) (s.enterWait c.process)).2
      | true => exact (alike.resumeWait s c.process).2
  | halting c fault =>
      simp only [Moment.called]
      split
      · exact (alike.call (.stopStreams c.session) (s.stopStreams c.session)).2
      · exact alike
  | unwatching c fault | ending c exitValue | leaving c outcome =>
      simp only [Moment.called]
      split
      · exact alike.stopWatch _
      · exact alike
  | delisting c outcome =>
      simp only [Moment.called]
      split
      · exact (alike.delist _ c.process).2
      · exact alike
  | judging c exitValue first | ended outcome => exact alike
  | _ =>
      obtain ⟨dogs, rfl, same⟩ := alike
      exact ⟨dogs, rfl, same⟩

/-- An execution takes the same step in worlds that are alike, and leaves them alike. -/
theorem step (alike : v.Alike w) (s : Surroundings σ) (r : Run) :
    (r.step s v).1 = (r.step s w).1 ∧ (r.step s v).2.Alike (r.step s w).2 := by
  have here := Moment.next_eq s { run := r, world := v }
  have there := Moment.next_eq s { run := r, world := w }
  have sameReply := alike.reply s r
  have sameCalled := alike.called s r
  have sameAnnounces : Moment.announces s { run := r, world := v } =
      Moment.announces s { run := r, world := w } := by
    simp only [Moment.announces, sameReply]
  have samePid : (Moment.called s { run := r, world := v }).pid s =
      (Moment.called s { run := r, world := w }).pid s := by
    funext p
    exact congrArg (s.pid · p) sameCalled.outside
  have sameRemarks : Moment.remarks s { run := r, world := v } =
      Moment.remarks s { run := r, world := w } := by
    simp only [Moment.remarks, sameReply, samePid]
  simp only [Moment.next] at here there
  rw [here, there, sameReply, sameAnnounces, sameRemarks]
  exact ⟨rfl, sameCalled.noteAll ..⟩

end World.Alike

end Overseer
