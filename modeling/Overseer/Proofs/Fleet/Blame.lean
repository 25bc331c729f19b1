import Mathlib.Data.List.Induction
import Overseer.Proofs.Execution.Mark
import Overseer.Proofs.Fleet.Eviction

/-!
# Whose fault a watchdog holds

A watchdog has room for one fault.  It forgets the fault when a watch begins, takes down a
fault of destroying the process that it watches, and takes down a launch that has failed
while nothing is watched.  An execution asks for the fault at its end, some time after it has
let the watchdog go, and then it may be told of the fault of another execution.

Reports are what a watchdog is told.  The last one decides which fault it holds, and
`judged_by_last_report` says whose it can be.
-/

namespace Overseer

/-- What a watchdog is told that decides which fault it holds. -/
inductive Report
  /-- A watch has begun. -/
  | begun
  /-- Destroying the process that it watched raised a fault. -/
  | destroyed (p : ProcessRef) (fault : Fault)
  /-- The launch of a member failed while nothing was watched. -/
  | failed (k : Nat) (fault : Fault)
deriving DecidableEq

namespace Report

/-- The fault the watchdog holds from then on. -/
def fault? : Report → Option Fault
  | begun => none
  | destroyed _ fault | failed _ fault => some fault

/-- What is held after a report, or without one. -/
def heldAfter (held : Option Fault) : Option Report → Option Fault
  | none => held
  | some report => report.fault?

end Report

/-- The fault of destroying a process that a watchdog takes down. -/
def Watchdog.kept? : Except Fault Unit → Option Fault
  | .ok () => none
  | .error fault => if fault.isStandard then some fault else none

section

variable {σ : Type}

/-- What a member is about to tell the watchdog it uses. -/
def Member.report? (s : Surroundings σ) (w : World σ) (i : WatchdogId) (k : Nat) (m : Member) :
    Option Report :=
  match m.run.stage, Moment.reply s { run := m.run, world := w } with
  | .watching _, _ => if m.midway then some .begun else none
  | .launching, .raised fault =>
      if fault.isStandard ∧ w.watchdogs[i]?.any (!·.watching) then some (.failed k fault) else none
  | _, _ => none

namespace Fleet

/-- What a watchdog is about to be told. -/
def report? (s : Surroundings σ) (i : WatchdogId) (f : Fleet σ) : Act σ → Option Report
  | .enroll _ _ => none
  | .advance k =>
      (f.members[k]?.filter (·.run.plan.watchdog = some i)).bind (·.report? s f.world i k)
  | .disturb d =>
      if d.endsWatch i then
        (f.world.guarded i).bind fun p =>
          (Watchdog.kept? (s.destroy p f.world.outside).1).map (.destroyed p)
      else none

/-- What a watchdog is told as one thing happens after the other. -/
def reports (s : Surroundings σ) (i : WatchdogId) (f : Fleet σ) : List (Act σ) → List Report
  | [] => []
  | a :: acts => (f.report? s i a).toList ++ (f.act s a).reports s i acts

end Fleet

end

/-! ## What a watchdog holds -/

namespace Watchdog

/-- A kill leaves the fault that was raised, or else the one before. -/
theorem fault_settled (dog : Watchdog) (reply : Except Fault Unit) :
    ((dog.beginKill.settle reply).toOption.getD dog.beginKill).fault =
      (kept? reply).or dog.fault := by
  have begun : dog.beginKill.fault = dog.fault := by
    unfold beginKill
    split <;> rfl
  cases reply with
  | ok done =>
      cases done
      exact begun
  | error fault =>
      cases standard : fault.isStandard with
      | true => simp [settle, kept?, standard, clear, Except.toOption]
      | false => simp [settle, kept?, standard, begun, Except.toOption]

end Watchdog

namespace World

variable {σ : Type} {s : Surroundings σ} {w v : World σ} {i : WatchdogId}

theorem watchdogFault_of_same (same : v.watchdogs[i]? = w.watchdogs[i]?) :
    v.watchdogFault (some i) = w.watchdogFault (some i) := by
  simp [watchdogFault, same]

theorem watchdogFault_updateWatchdog (f : Watchdog → Watchdog)
    (keeps : ∀ dog, (f dog).fault = dog.fault) (k : WatchdogId) :
    (w.updateWatchdog k f).watchdogFault (some i) = w.watchdogFault (some i) := by
  by_cases here : k = i
  · rw [here]
    cases found : w.watchdogs[i]? with
    | none => simp [watchdogFault, updateWatchdog, found]
    | some dog => simp [watchdogFault, watchdogs_updateWatchdog found, found, keeps]
  · exact watchdogFault_of_same (List.getElem?_modify_ne f w.watchdogs here)

theorem watchdogFault_kill (s : Surroundings σ) (w : World σ) (i : WatchdogId) :
    (w.kill s i).2.watchdogFault (some i) =
      ((w.guarded i).bind fun p => Watchdog.kept? (s.destroy p w.outside).1).or
        (w.watchdogFault (some i)) := by
  cases found : w.watchdogs[i]? with
  | none => simp [kill, found, watchdogFault, guarded]
  | some dog =>
      cases target : dog.target? with
      | none =>
          have kept := watchdogFault_updateWatchdog (w := w) (i := i) Watchdog.clear (fun _ => rfl) i
          simp [kill_of_idle found target, kept, guarded, found, target]
      | some p =>
          have settled := (kill_of_target (s := s) found target).2
          simp [watchdogFault, guarded, settled, found, target, Watchdog.fault_settled]

end World

namespace Member

variable {σ : Type} {s : Surroundings σ} {w : World σ} {i : WatchdogId} {m : Member}

/-- What a member can tell. -/
theorem cases_of_report {k : Nat} {report : Report} (told : m.report? s w i k = some report) :
    report = .begun ∨
      ∃ fault, m.run.stage = .launching ∧
        (∃ dog, w.watchdogs[i]? = some dog ∧ dog.watching = false) ∧ report = .failed k fault := by
  unfold report? at told
  split at told
  · left
    simpa using (Option.ite_none_right_eq_some.mp told).2.symm
  · next fault launching _ =>
      right
      obtain ⟨⟨_, free⟩, same⟩ := Option.ite_none_right_eq_some.mp told
      refine ⟨fault, launching, ?_, (Option.some.inj same).symm⟩
      simpa [Option.any_eq_true] using free
  · contradiction

theorem watchdogFault_step_of_launching (launching : m.run.stage = .launching)
    (used : m.run.plan.watchdog = some i) (k : Nat) :
    (m.step s w).2.watchdogFault (some i) =
      Report.heldAfter (w.watchdogFault (some i)) (m.report? s w i k) := by
  have next : (m.step s w).2 = (Moment.next s { run := m.run, world := w }).2 := rfl
  rw [next]
  cases replied : Moment.reply s { run := m.run, world := w } with
  | launched p =>
      have same := Moment.watchdogs_next_of_launched launching replied
      simp [report?, launching, replied, Report.heldAfter, World.watchdogFault, same]
  | raised fault =>
      have told := Moment.watchdogs_next_of_failed launching replied used
      simp only [report?, launching, replied, World.watchdogFault, told, Option.bind_some]
      cases found : w.watchdogs[i]? with
      | none => simp [Report.heldAfter]
      | some dog =>
          cases standard : fault.isStandard <;> cases watching : dog.watching <;>
            simp [Report.heldAfter, Report.fault?, Watchdog.launchFailed, watching]
  | _ =>
      simp only [Moment.reply, launching] at replied
      cases launched : (w.launch s m.run.plan.order).1 <;>
        simp [launched, Reply.ofCall] at replied

/-- The only section of a start that tells anything is the last one. -/
theorem watchdogFault_advance_of_watching {c : Custody} (watching : m.run.stage = .watching c)
    (used : m.run.plan.watchdog = some i) (k : Nat) :
    (m.advance s w).2.watchdogFault (some i) =
      Report.heldAfter (w.watchdogFault (some i)) (m.report? s w i k) := by
  cases halfway : m.midway with
  | true =>
      simp only [advance, watching, used, halfway, if_true, report?, Report.heldAfter,
        Report.fault?]
      cases found : w.watchdogs[i]? with
      | none => simp [World.watchdogFault, World.updateWatchdog, found]
      | some dog =>
          simp [World.watchdogFault, World.watchdogs_updateWatchdog found, Watchdog.commit]
  | false =>
      simp only [report?, watching, halfway, Bool.false_eq_true, if_false, Report.heldAfter]
      cases found : w.watchdogs[i]? with
      | none =>
          simp [advance, watching, used, halfway, found, step, Run.step, World.startWatch]
      | some dog =>
          cases process : dog.process with
          | none =>
              simp [advance, watching, used, halfway, found, Watchdog.clearance, process,
                World.watchdogFault, World.watchdogs_updateWatchdog found]
          | some p =>
              simp [advance, watching, used, halfway, found, Watchdog.clearance, process, step,
                Run.step, World.startWatch, Watchdog.start, Except.map]

/-- What a member tells its watchdog decides what that holds. -/
theorem watchdogFault_advance (m : Member) (s : Surroundings σ) (w : World σ)
    (used : m.run.plan.watchdog = some i) (k : Nat) :
    (m.advance s w).2.watchdogFault (some i) =
      Report.heldAfter (w.watchdogFault (some i)) (m.report? s w i k) := by
  cases atStage : m.run.stage with
  | launching =>
      have whole : m.advance s w = m.step s w := by simp [advance, atStage]
      rw [whole]
      exact watchdogFault_step_of_launching atStage used k
  | watching c => exact watchdogFault_advance_of_watching atStage used k
  | unwatching c fault | ending c exitValue | leaving c outcome =>
      have silent : m.report? s w i k = none := by simp [report?, atStage]
      rw [silent, Report.heldAfter]
      cases watched : c.watched with
      | false => simp [advance, atStage, used, watched, step, Run.step]
      | true =>
          cases halfway : m.midway with
          | false =>
              have asked := World.watchdogFault_updateWatchdog (w := w) (i := i)
                (·.requestStop.2) (fun _ => rfl) i
              simpa [advance, atStage, used, watched, halfway] using asked
          | true =>
              have cleared := World.watchdogFault_updateWatchdog (w := w) (i := i)
                Watchdog.clear (fun _ => rfl) i
              simpa [advance, atStage, used, watched, halfway] using cleared
  | _ =>
      have whole : m.advance s w = m.step s w := by simp [advance, atStage]
      have silent : m.report? s w i k = none := by simp [report?, atStage]
      rw [whole, silent, Report.heldAfter]
      apply World.watchdogFault_of_same
      have same : (m.step s w).2.watchdogs = w.watchdogs :=
        Moment.watchdogs_next (m := { run := m.run, world := w }) (by rw [atStage]; rfl)
          (by simp [atStage])
      rw [same]

end Member

namespace Fleet

variable {σ : Type} {s : Surroundings σ} {f : Fleet σ} {i : WatchdogId} {j : Nat}

/-- What one act tells a watchdog decides what that holds. -/
theorem watchdogFault_act (s : Surroundings σ) (f : Fleet σ) (a : Act σ) :
    (f.act s a).world.watchdogFault (some i) =
      Report.heldAfter (f.world.watchdogFault (some i)) (f.report? s i a) := by
  cases a with
  | enroll plan background =>
      simp only [act, report?, Report.heldAfter]
      split
      · refine World.watchdogFault_updateWatchdog _ (fun dog => ?_) _
        unfold Watchdog.forgetLaunch
        split <;> rfl
      · rfl
  | advance k =>
      simp only [act, report?]
      cases here : f.members[k]? with
      | none => rfl
      | some m =>
          by_cases used : m.run.plan.watchdog = some i
          · simpa [used, Option.filter] using m.watchdogFault_advance s f.world used k
          · have same := Member.watchdogs_advance_of_ne m s f.world used
            simpa [used, Option.filter, Report.heldAfter] using World.watchdogFault_of_same same
  | disturb d =>
      simp only [act, report?]
      cases ends : d.endsWatch i with
      | false =>
          exact World.watchdogFault_of_same (World.watchdogs_disturb s f.world ends)
      | true =>
          have killed : (d.apply s f.world).watchdogFault (some i) =
              (f.world.kill s i).2.watchdogFault (some i) := by
            cases d with
            | timer k =>
                have here : k = i := by simpa [Disturbance.endsWatch] using ends
                rw [here]
                exact World.watchdogFault_updateWatchdog Watchdog.retireTimer (fun _ => rfl) i
            | kill k =>
                have here : k = i := by simpa [Disturbance.endsWatch] using ends
                rw [here]
                rfl
            | _ => contradiction
          rw [killed, World.watchdogFault_kill]
          cases f.world.guarded i with
          | none => rfl
          | some p =>
              simp only [Option.bind_some, if_true]
              cases Watchdog.kept? (s.destroy p f.world.outside).1 <;> rfl

/-- The last report decides what a watchdog holds. -/
theorem watchdogFault_play (s : Surroundings σ) (f : Fleet σ) (acts : List (Act σ)) :
    (f.play s acts).world.watchdogFault (some i) =
      Report.heldAfter (f.world.watchdogFault (some i)) (f.reports s i acts).getLast? := by
  induction acts generalizing f with
  | nil => rfl
  | cons a acts inductionHypothesis =>
      rw [play_cons, inductionHypothesis, watchdogFault_act, reports]
      cases report : f.report? s i a with
      | none => simp [Report.heldAfter]
      | some first =>
          cases last : ((f.act s a).reports s i acts).getLast? with
          | none =>
              have nothing := List.getLast?_eq_none_iff.mp last
              simp [Report.heldAfter, nothing]
          | some report =>
              simp [Report.heldAfter, List.getLast?_cons, last]

end Fleet

/-! ## Since the watch began -/

namespace Stage

variable {plan : Plan} {convention : Int → Bool} {stage next : Stage} {reply : Reply}
  {c : Custody} {p : ProcessRef}

/-- The process of an execution that has begun its watch and has gone on regularly since. -/
def attended? : Stage → Option ProcessRef
  | .waiting c _ _ | .killing c | .ending c _ | .stopping c _ | .closing c _ _ _
  | .judging c _ _ => some c.process
  | _ => none

theorem attended?_orAbandon (attended : (reply.orAbandon c next).attended? = some p) :
    next.attended? = some p := by
  rcases Reply.orAbandon_eq c next reply with same | ⟨fault, same⟩ | ⟨_, fault, same⟩
  · rwa [same] at attended
  · rw [same] at attended
    contradiction
  · rw [same] at attended
    contradiction

theorem attended?_orLeave (attended : (reply.orLeave c next).attended? = some p) :
    next.attended? = some p := by
  rcases Reply.orLeave_eq c next reply with same | ⟨_, fault, same⟩
  · rwa [same] at attended
  · rw [same] at attended
    contradiction

/-- Nobody gets there but through the beginning of the watch. -/
theorem attended?_after (attended : (stage.after plan convention reply).attended? = some p) :
    stage.attended? = some p ∨ ∃ c, stage = .watching c ∧ c.process = p := by
  cases stage with
  | launching | opening q => cases reply <;> contradiction
  | attaching c stream =>
      have onward := attended?_orAbandon attended
      cases stream <;> contradiction
  | starting c =>
      have onward := attended?_orAbandon attended
      contradiction
  | enlisting c =>
      simp only [after] at attended
      split at attended
      · contradiction
      · have onward := attended?_orAbandon attended
        contradiction
  | watching c =>
      refine .inr ⟨c, rfl, ?_⟩
      simp only [after] at attended
      split at attended
      · exact Option.some.inj attended
      · exact Option.some.inj (attended?_orAbandon attended)
  | waiting c interrupted entered =>
      have goesOn : (reply.orAbandon c (.waiting c interrupted entered)).attended? = some p →
          (waiting c interrupted entered).attended? = some p := attended?_orAbandon
      left
      cases reply with
      | raised fault =>
          cases fault with
          | interrupted => cases interrupted <;> exact attended
          | _ => exact goesOn attended
      | _ => exact attended
  | killing c =>
      have goesOn : (reply.orAbandon c (.waiting c true false)).attended? = some p := attended
      have onward := attended?_orAbandon goesOn
      exact .inl onward
  | abandoning c fault | halting c fault =>
      have onward := attended?_orLeave attended
      contradiction
  | ending c exitValue =>
      left
      simpa [after, attended?] using attended
  | stopping c exitValue =>
      have goesOn : (reply.orLeave c
        (.closing c exitValue reply.fault? .output)).attended? = some p := attended
      have onward := attended?_orLeave goesOn
      exact .inl onward
  | closing c exitValue first stream =>
      have onward := attended?_orLeave attended
      cases stream <;> exact .inl onward
  | judging c exitValue first => cases reply <;> first | exact .inl attended | contradiction
  | unwatching c fault | leaving c outcome | delisting c outcome | releasing q outcome
  | ended outcome => contradiction

end Stage

namespace Member

variable {σ : Type} {s : Surroundings σ} {w : World σ} {i : WatchdogId} {m : Member}
  {p : ProcessRef}

theorem held_of_attended (attended : m.run.stage.attended? = some p) : m.held = some p := by
  cases atStage : m.run.stage with
  | waiting c interrupted entered | killing c | ending c exitValue | stopping c exitValue
  | closing c exitValue first stream | judging c exitValue first =>
      rw [atStage] at attended
      simpa [held, atStage, Stage.owedRelease, Stage.custody?, Stage.attended?] using attended
  | _ => simp [atStage, Stage.attended?] at attended

/-- The section in which the watch begins, and what it leaves. -/
theorem begun_of_attended {c : Custody} (watching : m.run.stage = .watching c)
    (used : m.run.plan.watchdog = some i)
    (attended : (m.advance s w).1.run.stage.attended? = some p) :
    (m.advance s w).1.watch = some (i, p) ∧
      (m.advance s w).2.watchdogFault (some i) = none := by
  have told := m.watchdogFault_advance s w used 0
  cases halfway : m.midway with
  | true =>
      have begun : m.report? s w i 0 = some .begun := by simp [report?, watching, halfway]
      rw [told, begun]
      simp only [advance, watching, used, halfway, if_true] at attended ⊢
      cases attended
      simp [watch, Stage.owedUnwatch, Stage.custody?, used, Report.heldAfter, Report.fault?]
  | false =>
      cases found : w.watchdogs[i]? with
      | none =>
          simp [advance, watching, used, halfway, found, step, Run.step, World.startWatch,
            Run.orAbandon, Stage.attended?] at attended
          simp [advance, watching, used, halfway, found, step, Run.step, World.startWatch,
            Run.orAbandon, watch, Stage.owedUnwatch, Stage.custody?, attended,
            World.watchdogFault]
      | some dog =>
          cases process : dog.process with
          | none =>
              simp [advance, watching, used, halfway, found, Watchdog.clearance, process,
                Stage.attended?] at attended
          | some q =>
              simp [advance, watching, used, halfway, found, Watchdog.clearance, process, step,
                Run.step, World.startWatch, Watchdog.start, Except.map, Run.orAbandon,
                Fault.alreadyWatching, Fault.isStandard, Stage.attended?] at attended

/-- How a member has got where it has: it was there before, or its watch begins now. -/
theorem attended_advance (m : Member) (s : Surroundings σ) (w : World σ)
    (used : m.run.plan.watchdog = some i)
    (attended : (m.advance s w).1.run.stage.attended? = some p) :
    m.run.stage.attended? = some p ∨
      (m.advance s w).1.watch = some (i, p) ∧
        (m.advance s w).2.watchdogFault (some i) = none := by
  have stepped : m.advance s w = m.step s w → m.run.stage.handlesWatch = false →
      m.run.stage.attended? = some p := by
    intro whole other
    rw [whole] at attended
    simp only [step] at attended
    rw [Run.stage_step] at attended
    rcases Stage.attended?_after attended with same | ⟨c, watching, _⟩
    · exact same
    · rw [watching] at other
      contradiction
  cases atStage : m.run.stage with
  | watching c => exact .inr (begun_of_attended atStage used attended)
  | ending c exitValue =>
      left
      cases watched : c.watched <;> cases halfway : m.midway <;>
        simpa [advance, atStage, used, watched, halfway, step, Run.step, Stage.attended?]
          using attended
  | unwatching c fault | leaving c outcome =>
      cases watched : c.watched <;> cases halfway : m.midway <;>
        simp [advance, atStage, used, watched, halfway, step, Run.step, Stage.attended?]
          at attended
  | _ =>
      have whole : m.advance s w = m.step s w := by simp [advance, atStage]
      rw [← atStage]
      exact .inl (stepped whole (by rw [atStage]; rfl))

end Member

namespace Fleet

variable {σ : Type} {s : Surroundings σ} {f : Fleet σ} {i : WatchdogId} {j k : Nat}
  {p : ProcessRef}

/-- A member that uses a watchdog has begun its watch on a process and has gone on regularly
since. -/
def Attends (f : Fleet σ) (j : Nat) (i : WatchdogId) (p : ProcessRef) : Prop :=
  ∃ m, f.members[j]? = some m ∧ m.run.plan.watchdog = some i ∧ m.run.stage.attended? = some p

/-- How a member has got where it has: it was there before the act, or the act begins its
watch. -/
theorem attends_act (s : Surroundings σ) (a : Act σ) (attends : (f.act s a).Attends j i p) :
    f.Attends j i p ∨
      a = .advance j ∧ (f.act s a).Holds j i p ∧
        (f.act s a).world.watchdogFault (some i) = none := by
  obtain ⟨m, here, used, attended⟩ := attends
  cases a with
  | enroll plan background =>
      left
      simp only [act] at here
      rcases Nat.lt_or_ge j f.members.length with known | beyond
      · exact ⟨m, by rwa [List.getElem?_append_left known] at here, used, attended⟩
      · rw [List.getElem?_append_right beyond] at here
        obtain rfl := List.mem_singleton.mp (List.mem_of_getElem? here)
        contradiction
  | advance k =>
      simp only [act] at here ⊢
      cases there : f.members[k]? with
      | none =>
          rw [there] at here
          exact .inl ⟨m, here, used, attended⟩
      | some m' =>
          rw [there] at here
          by_cases own : k = j
          · subst own
            have within := (List.getElem?_eq_some_iff.mp there).1
            simp only [List.getElem?_set_self within, Option.some.injEq] at here ⊢
            subst here
            rw [Member.plan_advance] at used
            rcases Member.attended_advance m' s f.world used attended with before | ⟨watch, held⟩
            · exact .inl ⟨m', there, used, before⟩
            · exact .inr ⟨trivial, ⟨_, List.getElem?_set_self within, watch⟩, held⟩
          · simp only [List.getElem?_set_ne own] at here
            exact .inl ⟨m, here, used, attended⟩
  | disturb d => exact .inl ⟨m, here, used, attended⟩

/-- Whoever attends to a process has begun his watch on it at some point and has not done
anything else since; when the watch began, the watchdog held no fault. -/
theorem exists_begun (s : Surroundings σ) (world : World σ) (acts : List (Act σ))
    (attends : (play s { world } acts).Attends j i p) :
    ∃ before after, acts = before ++ .advance j :: after ∧
      (play s { world } (before ++ [.advance j])).Holds j i p ∧
      (play s { world } (before ++ [.advance j])).world.watchdogFault (some i) = none ∧
      ∀ earlier later, after = earlier ++ later →
        ((play s { world } (before ++ [.advance j])).play s earlier).Attends j i p := by
  induction acts using List.reverseRecOn with
  | nil =>
      obtain ⟨m, here, _⟩ := attends
      contradiction
  | append_singleton acts a inductionHypothesis =>
      have last : play s { world } (acts ++ [a]) = (play s { world } acts).act s a := by
        simp [play]
      have attendsLast := attends
      rw [last] at attends
      rcases attends_act s a attends with earlier | ⟨rfl, holds, held⟩
      · obtain ⟨before, after, rfl, holds, held, since⟩ := inductionHypothesis earlier
        refine ⟨before, after ++ [a], by simp, holds, held, ?_⟩
        intro earlier later split
        rcases List.eq_nil_or_concat later with rfl | ⟨more, b, rfl⟩
        · rw [List.append_nil] at split
          subst split
          have whole : (play s { world } (before ++ [.advance j])).play s (after ++ [a]) =
              play s { world } ((before ++ .advance j :: after) ++ [a]) := by
            simp [play]
          rwa [whole]
        · rw [List.concat_eq_append, ← List.append_assoc] at split
          exact since earlier more (List.append_inj' split rfl).1
      · rw [← last] at holds held
        refine ⟨acts, [], rfl, holds, held, ?_⟩
        intro earlier later split
        obtain ⟨rfl, rfl⟩ := List.append_eq_nil_iff.mp split.symm
        exact attendsLast

/-- Where a report was made. -/
theorem exists_of_mem_reports {acts : List (Act σ)} {report : Report}
    (told : report ∈ f.reports s i acts) :
    ∃ earlier a later, acts = earlier ++ a :: later ∧
      (f.play s earlier).report? s i a = some report := by
  induction acts generalizing f with
  | nil => contradiction
  | cons a acts inductionHypothesis =>
      rcases List.mem_append.mp told with now | afterwards
      · exact ⟨[], a, acts, rfl, Option.mem_toList.mp now⟩
      · obtain ⟨earlier, b, later, rfl, toldThen⟩ := inductionHypothesis afterwards
        exact ⟨a :: earlier, b, later, rfl, toldThen⟩

/-- Members keep their plans. -/
theorem exists_plan_play (s : Surroundings σ) (acts : List (Act σ)) {m : Member}
    (here : f.members[k]? = some m) :
    ∃ m', (f.play s acts).members[k]? = some m' ∧ m'.run.plan = m.run.plan := by
  induction acts generalizing f m with
  | nil => exact ⟨m, here, rfl⟩
  | cons a acts inductionHypothesis =>
      have now : ∃ m', (f.act s a).members[k]? = some m' ∧ m'.run.plan = m.run.plan := by
        have within := (List.getElem?_eq_some_iff.mp here).1
        cases a with
        | enroll plan background =>
            exact ⟨m, (List.getElem?_append_left within).trans here, rfl⟩
        | advance l =>
            simp only [act]
            cases there : f.members[l]? with
            | none => exact ⟨m, here, rfl⟩
            | some m' =>
                by_cases own : l = k
                · subst own
                  rw [here] at there
                  cases there
                  exact ⟨_, List.getElem?_set_self within, Member.plan_advance m s f.world⟩
                · exact ⟨m, (List.getElem?_set_ne own).trans here, rfl⟩
        | disturb d => exact ⟨m, here, rfl⟩
      obtain ⟨m', there, same⟩ := now
      obtain ⟨m'', last, same'⟩ := inductionHypothesis there
      exact ⟨m'', last, same'.trans same⟩

/-- While a member attends to its process, a fault that the watchdog takes down is that of
destroying this process, or the process is not guarded and the fault is that of another
member. -/
theorem blamed (orderly : f.IsOrderly) (attends : f.Attends j i p) {a : Act σ} {report : Report}
    {fault : Fault} (told : f.report? s i a = some report)
    (faulty : report.fault? = some fault) :
    report = .destroyed p fault ∨
      f.world.guarded i ≠ some p ∧
        ∃ k m, k ≠ j ∧ f.members[k]? = some m ∧ m.run.plan.watchdog = some i ∧
          (report = .failed k fault ∨
            ∃ q, m.watch = some (i, q) ∧ report = .destroyed q fault) := by
  obtain ⟨m, here, _, attended⟩ := attends
  cases a with
  | enroll plan background => contradiction
  | advance k =>
      right
      obtain ⟨m', found, told⟩ := Option.bind_eq_some_iff.mp told
      obtain ⟨there, used⟩ := Option.filter_eq_some_iff.mp found
      rcases Member.cases_of_report told with rfl | ⟨cause, launching, free, rfl⟩
      · contradiction
      · cases faulty
        constructor
        · obtain ⟨dog, known, unwatched⟩ := free
          simp [World.guarded, known, Watchdog.target?, unwatched]
        · refine ⟨k, m', ?_, there, by simpa using used, .inl rfl⟩
          rintro rfl
          rw [here] at there
          cases there
          rw [launching] at attended
          contradiction
  | disturb d =>
      simp only [report?, Option.ite_none_right_eq_some, Option.bind_eq_some_iff,
        Option.map_eq_some_iff] at told
      obtain ⟨_, q, guarded, raised, _, rfl⟩ := told
      cases faulty
      by_cases own : q = p
      · exact .inl (by rw [own])
      · right
        obtain ⟨dog, known, target⟩ := Option.bind_eq_some_iff.mp guarded
        have inSlot : f.world.slot i = some q := by
          simp [World.slot, known, (Watchdog.process_of_target target).2]
        obtain ⟨k, m', there, watched⟩ := orderly.watched i q inSlot
        refine ⟨by simpa [guarded] using own, k, m', ?_, there,
          Member.watchdog_of_watch watched, .inr ⟨q, watched, rfl⟩⟩
        rintro rfl
        rw [here] at there
        cases there
        have held := Member.held_of_attended attended
        rw [Member.held_of_watch watched] at held
        exact own (Option.some.inj held)

/-- What the watchdog of an execution can make of its outcome.  However many executions share
a watchdog, in whatever order they take the sections of their steps, and whatever happens in
between: suppose the launch of an execution, its wait, the stop of its session and all its
closes have gone well, so that it is about to be judged.

* Its watch began at some point, on its own process and with no fault, and the outcome is
  decided by the last report that its watchdog was given since: if that tells of a fault,
  the execution fails with it, and otherwise its exit value counts.
* A report of a fault is that of destroying its own process, or it came when its process was
  not guarded any more.  Then it is the fault of another execution that uses the watchdog: its
  launch failed, or its process could not be destroyed.
* So if nobody else uses the watchdog, nothing but the fault of destroying its own process
  makes the execution fail in this way. -/
theorem judged_by_last_report (s : Surroundings σ) {world : World σ} (fresh : world.IsFresh)
    (acts : List (Act σ)) (reached : f = play s { world } acts) {m : Member} {c : Custody}
    {exitValue : Int} (member : f.members[j]? = some m)
    (judging : m.run.stage = .judging c exitValue none)
    (used : m.run.plan.watchdog = some i) :
    ∃ before after, acts = before ++ .advance j :: after ∧
      let g := play s { world } (before ++ [.advance j])
      g.Holds j i c.process ∧ g.world.watchdogFault (some i) = none ∧
      (m.advance s f.world).1.run.stage =
        .leaving c (Run.judge m.run.plan s.isFailure none
          ((g.reports s i after).getLast?.bind Report.fault?) exitValue) ∧
      (∀ earlier a later report fault, after = earlier ++ a :: later →
        (g.play s earlier).report? s i a = some report → report.fault? = some fault →
        report = .destroyed c.process fault ∨
          (g.play s earlier).world.guarded i ≠ some c.process ∧
            ∃ k m', k ≠ j ∧ (g.play s earlier).members[k]? = some m' ∧
              m'.run.plan.watchdog = some i ∧
              (report = .failed k fault ∨
                ∃ q, m'.watch = some (i, q) ∧ report = .destroyed q fault)) ∧
      ((∀ k m', k ≠ j → f.members[k]? = some m' → m'.run.plan.watchdog ≠ some i) →
        ∀ fault, (g.reports s i after).getLast?.bind Report.fault? = some fault →
          .destroyed c.process fault ∈ g.reports s i after) := by
  have attends : (play s { world } acts).Attends j i c.process := by
    rw [← reached]
    exact ⟨m, member, used, by rw [judging]; rfl⟩
  obtain ⟨before, after, rfl, holds, held, since⟩ := exists_begun s world acts attends
  refine ⟨before, after, rfl, ?_⟩
  intro g
  have whole : f = g.play s after := by
    rw [reached]
    simp [g, play]
  have blame : ∀ earlier a later report fault, after = earlier ++ a :: later →
      (g.play s earlier).report? s i a = some report → report.fault? = some fault →
      report = .destroyed c.process fault ∨
        (g.play s earlier).world.guarded i ≠ some c.process ∧
          ∃ k m', k ≠ j ∧ (g.play s earlier).members[k]? = some m' ∧
            m'.run.plan.watchdog = some i ∧
            (report = .failed k fault ∨
              ∃ q, m'.watch = some (i, q) ∧ report = .destroyed q fault) := by
    intro earlier a later report fault split told faulty
    have orderly : (g.play s earlier).IsOrderly :=
      ((IsOrderly.of_isFresh fresh).play s _).play s earlier
    exact blamed orderly (since earlier (a :: later) split) told faulty
  refine ⟨holds, held, ?_, blame, ?_⟩
  · have last : f.world.watchdogFault (some i) =
        (g.reports s i after).getLast?.bind Report.fault? := by
      rw [whole, watchdogFault_play, held]
      cases (g.reports s i after).getLast? <;> rfl
    simp [Member.advance, judging, Member.step, Run.step, used, last]
  · intro alone fault faulty
    obtain ⟨report, last, faulty⟩ := Option.bind_eq_some_iff.mp faulty
    have told := List.mem_of_getLast? last
    obtain ⟨earlier, a, later, split, toldThen⟩ := exists_of_mem_reports told
    rcases blame earlier a later report fault split toldThen faulty with
      rfl | ⟨_, k, m', other, there, uses, _⟩
    · exact told
    · obtain ⟨m'', here, plan⟩ := exists_plan_play s (a :: later) there
      have same : (g.play s earlier).play s (a :: later) = f := by
        rw [whole, split]
        simp [play]
      rw [same] at here
      exact absurd (by rw [plan, uses]) (alone k m'' other here)

open Script in
/-- A cast whose second launch fails. -/
def stumblingCast : Cast where
  queue := [{}, { launchFault := some (.runtime (utf8 "no launch")) }]

open Script in
/-- A first execution has ended its watch when the launch of a second one fails; then the first
one goes on until it is about to be judged. -/
def stumbling : List (Act Cast) :=
  [.enroll rehearsalPlan false, .enroll rehearsalPlan false] ++ List.replicate 12 (.advance 0) ++
    [.advance 1] ++ List.replicate 4 (.advance 0)

open Script in
/-- What the first execution holds when it is about to be judged. -/
def stumblingCustody : Custody where
  process := .launched 0
  session := { handler := 0 }
  flowing := true
  enlisted := true

open Script in
/-- The watch of the first execution began once, and what was told since made its outcome. -/
theorem judged_by_last_report_stumbling :
    let f := play Cast.rehearsal { world := stumblingCast.world } stumbling
    f.Attends 0 0 (.launched 0) ∧
      ∃ before after, stumbling = before ++ .advance 0 :: after ∧
        (play Cast.rehearsal { world := stumblingCast.world }
          (before ++ [.advance 0])).Holds 0 0 (.launched 0) := by
  intro f
  have fresh : stumblingCast.world.IsFresh := by
    refine ⟨?_, ?_, rfl⟩
    · simp [Cast.world]
    · simp [Cast.world]
  obtain ⟨m, member, judging, used⟩ : ∃ m, f.members[0]? = some m ∧
      m.run.stage = .judging stumblingCustody 0 none ∧ m.run.plan.watchdog = some 0 :=
    ⟨_, rfl, by decide, by decide⟩
  obtain ⟨before, after, split, holds, _⟩ :=
    judged_by_last_report Cast.rehearsal fresh stumbling (f := f) rfl member judging used
  exact ⟨⟨m, member, used, by rw [judging]; rfl⟩, before, after, split, holds⟩

open Script in
/-- The first execution fails because the launch of the second one did, although everything it
did itself has gone well and nobody has destroyed a process. -/
theorem foreign_launch_judged :
    let f := play Cast.rehearsal { world := stumblingCast.world } stumbling
    let g := f.play Cast.rehearsal (List.replicate 4 (.advance 0))
    (f.members[0]?.map fun m => m.run.stage) = some (.judging stumblingCustody 0 none) ∧
      (g.members[0]?.bind fun m => m.run.outcome?) =
        some (.fault (.system .inputOutput (utf8 "no launch"))) ∧
      g.world.outside.destroyCalls = [0, 0] := by
  decide

end Fleet

end Overseer
