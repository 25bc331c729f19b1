import Overseer.Proofs.Execution.Cleanup
import Overseer.Proofs.Execution.Watch
import Overseer.Proofs.Fleet.Disturbance

/-!
# The mark of a launch

A kill waits until its watchdog carries the mark that a launch was tried.  Two steps of
an execution set it: the start of the watch, and a launch that fails with a standard
fault.  An execution that gives up between these two steps ends without a mark, and who
asked for a kill meanwhile waits on.
-/

namespace Overseer

/-- A watchdog has the mark it had before, and holds nothing if it held nothing. -/
structure Watchdog.KeepsMark (dog later : Watchdog) : Prop where
  started : later.started = dog.started
  free : dog.process = none → later.process = none

theorem Watchdog.started_launchFailed (dog : Watchdog) (fault : Option Fault) :
    (dog.launchFailed fault).started = true := by
  unfold launchFailed
  split <;> rfl

namespace World

variable {σ : Type} {s : Surroundings σ} {u v w : World σ} {i : WatchdogId}

/-- Whether a kill by the watchdog can go on, or has to wait for a launch. -/
def canKill (w : World σ) (i : WatchdogId) : Bool :=
  w.watchdogs[i]?.any Watchdog.canKill

/-- The watchdog is found in a later world with its mark. -/
def KeepsMark (i : WatchdogId) (w v : World σ) : Prop :=
  ∀ dog, w.watchdogs[i]? = some dog → ∃ later, v.watchdogs[i]? = some later ∧ dog.KeepsMark later

/-- Since another world only timers and kills have changed the watchdog, whatever else
has happened. -/
def Drifts (s : Surroundings σ) (i : WatchdogId) (w v : World σ) : Prop :=
  ∃ ds : List (Disturbance σ),
    v.watchdogs[i]? = (ds.foldl (fun w d => d.apply s w) w).watchdogs[i]?

theorem canKill_of_watchdog {dog : Watchdog} (found : w.watchdogs[i]? = some dog) :
    w.canKill i = dog.started := by
  simp [canKill, found, Watchdog.canKill]

namespace KeepsMark

theorem of_same (same : v.watchdogs[i]? = w.watchdogs[i]?) : w.KeepsMark i v := by
  intro dog found
  exact ⟨dog, same.trans found, rfl, id⟩

theorem trans (first : w.KeepsMark i v) (second : v.KeepsMark i u) : w.KeepsMark i u := by
  intro dog found
  obtain ⟨later, found', started, free⟩ := first dog found
  obtain ⟨last, found'', started', free'⟩ := second later found'
  exact ⟨last, found'', started'.trans started, fun none => free' (free none)⟩

theorem updateWatchdog (w : World σ) (i k : WatchdogId) {f : Watchdog → Watchdog}
    (keeps : ∀ dog : Watchdog, dog.KeepsMark (f dog)) : w.KeepsMark i (w.updateWatchdog k f) := by
  by_cases here : k = i
  · intro dog found
    refine ⟨f dog, ?_, keeps dog⟩
    rw [here, watchdogs_updateWatchdog found]
  · exact of_same (List.getElem?_modify_ne f w.watchdogs here)

theorem clear (w : World σ) (i k : WatchdogId) :
    w.KeepsMark i (w.updateWatchdog k Watchdog.clear) :=
  updateWatchdog w i k fun _ => ⟨rfl, fun _ => rfl⟩

theorem kill (s : Surroundings σ) (w : World σ) (i : WatchdogId) :
    w.KeepsMark i (w.kill s i).2 := by
  intro dog found
  cases target : dog.target? with
  | none =>
      rw [kill_of_idle found target]
      exact clear w i i dog found
  | some p =>
      have started : dog.beginKill.started = dog.started := by
        unfold Watchdog.beginKill
        split <;> rfl
      refine ⟨_, (kill_of_target found target).2, ?_⟩
      cases done : dog.beginKill.settle (s.destroy p w.outside).1 with
      | error fault => exact ⟨started, (Watchdog.process_beginKill dog).trans⟩
      | ok settled =>
          obtain ⟨fault, rfl⟩ := Watchdog.settle_eq_ok done
          exact ⟨started, fun _ => rfl⟩

theorem disturb (s : Surroundings σ) (w : World σ) (d : Disturbance σ) :
    w.KeepsMark i (d.apply s w) := by
  by_cases aside : d.endsWatch i = false
  · exact of_same (watchdogs_disturb s w aside)
  · cases d with
    | timer k =>
        have here : k = i := by simpa [Disturbance.endsWatch] using aside
        rw [here]
        exact (kill s w i).trans (updateWatchdog _ i i fun _ => ⟨rfl, id⟩)
    | kill k =>
        have here : k = i := by simpa [Disturbance.endsWatch] using aside
        rw [here]
        exact kill s w i
    | _ => exact absurd rfl aside

theorem of_drifts (drifts : w.Drifts s i v) : w.KeepsMark i v := by
  obtain ⟨ds, same⟩ := drifts
  have disturbed : w.KeepsMark i (ds.foldl (fun w d => d.apply s w) w) := by
    clear same
    induction ds generalizing w with
    | nil => exact of_same rfl
    | cons d ds inductionHypothesis => exact (disturb s w d).trans inductionHypothesis
  exact disturbed.trans (of_same same)

end KeepsMark

end World

/-! ## Single steps -/

namespace Moment

variable {σ : Type} {s : Surroundings σ} {m : Moment σ} {i : WatchdogId}

/-- A step that neither launches the process nor starts the watch sets no mark. -/
theorem keepsMark_next (launched : m.run.stage ≠ .launching)
    (notWatching : ∀ c, m.run.stage ≠ .watching c) : m.world.KeepsMark i (m.next s).2 := by
  cases handles : m.run.stage.handlesWatch with
  | false => exact .of_same (by rw [watchdogs_next handles launched])
  | true =>
      have stopped : ∀ k, m.world.KeepsMark i (m.world.stopWatch k) :=
        fun k => .updateWatchdog m.world i k fun _ => ⟨rfl, fun _ => rfl⟩
      have made : m.world.KeepsMark i (m.called s) := by
        cases atStage : m.run.stage with
        | watching c => exact absurd atStage (notWatching c)
        | unwatching c fault | ending c exitValue | leaving c outcome =>
            simp only [called, atStage]
            split
            · exact stopped _
            · exact .of_same rfl
        | _ =>
            rw [atStage] at handles
            contradiction
      rw [next_eq]
      exact made.trans (.of_same (by rw [World.watchdogs_noteAll]))

theorem watchdogs_next_of_launched {p : ProcessRef} (launching : m.run.stage = .launching)
    (replied : m.reply s = .launched p) : (m.next s).2.watchdogs = m.world.watchdogs := by
  rw [next_eq, World.watchdogs_noteAll]
  simp only [called, launching, replied]
  rfl

/-- A launch that fails with a standard fault sets the mark. -/
theorem watchdogs_next_of_failed {fault : Fault} (launching : m.run.stage = .launching)
    (replied : m.reply s = .raised fault) (used : m.run.plan.watchdog = some i) :
    (m.next s).2.watchdogs[i]? =
      m.world.watchdogs[i]?.map
        (fun dog => if fault.isStandard then dog.launchFailed (some fault) else dog) := by
  rw [next_eq, World.watchdogs_noteAll]
  simp only [called, launching, replied, used]
  cases fault.isStandard with
  | true => exact List.getElem?_modify_eq ..
  | false => exact Option.map_id_apply.symm

/-- A watchdog that holds nothing takes the process and sets the mark. -/
theorem watchdog_next_of_watching {c : Custody} (watching : m.run.stage = .watching c)
    (used : m.run.plan.watchdog = some i) {dog : Watchdog}
    (found : m.world.watchdogs[i]? = some dog) (free : dog.process = none) :
    (m.next s).1.stage = .waiting { c with watched := true } false false ∧
      ∃ later, (m.next s).2.watchdogs[i]? = some later ∧ later.started = true := by
  have started : dog.start m.world.clock c.process =
      .ok ({ dog with timer := none }.commit m.world.clock c.process) := by
    simp [Watchdog.start, Watchdog.clearance, free, Except.map]
  simp only [next, Run.step, watching, used, World.startWatch, found, started, Run.orAbandon]
  exact ⟨trivial, _, World.watchdogs_updateWatchdog found _, rfl⟩

theorem notMem_waitFor_calls (p : ProcessRef)
    (notWaiting : ∀ c interrupted entered, m.run.stage ≠ .waiting c interrupted entered) :
    .waitFor p ∉ m.calls := by
  intro called
  have made := makes_of_mem_calls called
  cases atStage : m.run.stage with
  | waiting c interrupted entered => exact notWaiting c interrupted entered atStage
  | _ => simp [Stage.makes, atStage] at made

end Moment

namespace Stage

variable {plan : Plan} {convention : Int → Bool} {stage : Stage} {reply : Reply}

theorem precedesWatch_of_not_isForward (given : stage.isForward = false) :
    stage.precedesWatch = false := by
  cases stage <;> first | rfl | contradiction

/-- From a stage before the watch the next one is such a stage, or the execution gives
up. -/
theorem precedesWatch_or_not_isForward (precedes : stage.precedesWatch = true)
    (notWatching : ∀ c, stage ≠ .watching c) :
    (stage.after plan convention reply).precedesWatch = true ∨
      (stage.after plan convention reply).isForward = false := by
  have either : ∀ (c : Custody) (next : Stage), next.precedesWatch = true →
      (reply.orAbandon c next).precedesWatch = true ∨
        (reply.orAbandon c next).isForward = false := by
    intro c next goesOn
    rcases Reply.orAbandon_eq c next reply with eq | ⟨fault, eq⟩ | ⟨_, fault, eq⟩ <;> rw [eq]
    · exact .inl goesOn
    · exact .inr rfl
    · exact .inr rfl
  cases stage with
  | launching | opening p =>
      cases reply with
      | raised fault => exact .inr rfl
      | _ => exact .inl rfl
  | attaching c stream =>
      apply either
      cases stream <;> rfl
  | starting c => exact either c _ rfl
  | enlisting c =>
      simp only [after]
      split
      · exact .inl rfl
      · exact either _ _ rfl
  | watching c => exact absurd rfl (notWatching c)
  | _ => contradiction

end Stage

/-! ## Courses -/

namespace Run

variable {σ : Type} {s : Surroundings σ} {r : Run} {left later : World σ}
  {worlds : List (World σ)} {i : WatchdogId} {dog : Watchdog}

/-- Between the steps of the execution only timers and kills change the watchdog; the
world that the execution has left last is given. -/
def HasToItself (s : Surroundings σ) (i : WatchdogId) : Run → World σ → List (World σ) → Prop
  | _, _, [] => True
  | r, left, w :: worlds =>
      left.Drifts s i w ∧ HasToItself s i (r.step s w).1 (r.step s w).2 worlds

/-- The world that an execution leaves. -/
def leaves (s : Surroundings σ) : Run → World σ → List (World σ) → World σ
  | _, left, [] => left
  | r, _, w :: worlds => leaves s (r.step s w).1 (r.step s w).2 worlds

/-- After its watch, or without one, an execution sets no mark. -/
theorem canKill_of_past (past : r.stage.precedesWatch = false)
    (alone : r.HasToItself s i left worlds) (found : left.watchdogs[i]? = some dog)
    (since : (r.leaves s left worlds).Drifts s i later) :
    later.canKill i = dog.started := by
  induction worlds generalizing r left dog with
  | nil =>
      obtain ⟨last, foundLast, keeps⟩ := World.KeepsMark.of_drifts since dog found
      exact (World.canKill_of_watchdog foundLast).trans keeps.started
  | cons w worlds inductionHypothesis =>
      obtain ⟨drifts, alone⟩ := alone
      have stillPast : (r.step s w).1.stage.precedesWatch = false := by
        rw [stage_step]
        exact Stage.precedesWatch_after past
      have kept : w.KeepsMark i (r.step s w).2 := by
        apply Moment.keepsMark_next (m := { run := r, world := w })
        · intro launching
          rw [launching] at past
          contradiction
        · intro c watching
          rw [watching] at past
          contradiction
      obtain ⟨next, foundNext, keeps⟩ := ((World.KeepsMark.of_drifts drifts).trans kept) dog found
      exact (inductionHypothesis stillPast alone foundNext since).trans keeps.started

/-- Who has given up waits for nothing. -/
theorem notMem_waitFor_events (given : r.stage.isForward = false) (p : ProcessRef) :
    .waitFor p ∉ r.events s worlds := by
  induction worlds generalizing r with
  | nil => exact List.not_mem_nil
  | cons w worlds inductionHypothesis =>
      rw [events_cons, List.mem_append]
      rintro (now | later)
      · apply Moment.notMem_waitFor_calls p _ now
        intro c interrupted entered waiting
        change r.stage = _ at waiting
        rw [waiting] at given
        contradiction
      · apply inductionHypothesis _ later
        rw [stage_step]
        exact Stage.not_isForward_after given

/-- Who has started his watch waits for the process. -/
theorem mem_waitFor_events {c : Custody} {interrupted : Bool}
    (waiting : r.stage = .waiting c interrupted false)
    (finished : (r.follow s worlds).outcome?.isSome) : .waitFor c.process ∈ r.events s worlds := by
  cases worlds with
  | nil => simp [follow, outcome?, waiting] at finished
  | cons w worlds =>
      rw [events_cons]
      apply List.mem_append_left
      simp [Moment.calls, waiting]

/-- An execution that has its watchdog to itself sets the mark after the launch if and
only if it comes to wait for its process. -/
theorem canKill_iff_of_precedes (precedes : r.stage.precedesWatch = true)
    (launched : r.stage ≠ .launching) (used : r.plan.watchdog = some i)
    (alone : r.HasToItself s i left worlds) (found : left.watchdogs[i]? = some dog)
    (free : dog.process = none) (finished : (r.follow s worlds).outcome?.isSome)
    (since : (r.leaves s left worlds).Drifts s i later) :
    later.canKill i = true ↔
      dog.started = true ∨ ∃ p, .waitFor p ∈ r.events s worlds := by
  induction worlds generalizing r left dog with
  | nil =>
      obtain ⟨outcome, ended⟩ := stage_of_isSome_outcome? finished
      simp only [follow] at ended
      rw [ended] at precedes
      contradiction
  | cons w worlds inductionHypothesis =>
      obtain ⟨drifts, alone⟩ := alone
      obtain ⟨here, foundHere, keeps⟩ := (World.KeepsMark.of_drifts drifts) dog found
      by_cases watching : ∃ c, r.stage = .watching c
      · obtain ⟨c, watching⟩ := watching
        obtain ⟨waiting, next, foundNext, marked⟩ := Moment.watchdog_next_of_watching
          (s := s) (m := { run := r, world := w }) watching used foundHere (keeps.free free)
        have past : (r.step s w).1.stage.precedesWatch = false := by
          simp only [Moment.next] at waiting
          rw [waiting]
          rfl
        have waits := mem_waitFor_events waiting finished
        constructor
        · intro _
          right
          exact ⟨_, by rw [events_cons]; exact List.mem_append_right _ waits⟩
        · intro _
          exact (canKill_of_past past alone foundNext since).trans marked
      · have notWatching : ∀ c, r.stage ≠ .watching c := fun c atStage => watching ⟨c, atStage⟩
        have quiet : ∀ p, .waitFor p ∉ Moment.calls { run := r, world := w } := by
          intro p
          apply Moment.notMem_waitFor_calls
          intro c interrupted entered waiting
          change r.stage = _ at waiting
          rw [waiting] at precedes
          contradiction
        have sameWaits : (∃ p, .waitFor p ∈ r.events s (w :: worlds)) ↔
            ∃ p, .waitFor p ∈ (r.step s w).1.events s worlds := by
          simp [events_cons, quiet]
        obtain ⟨next, foundNext, keepsNext⟩ := Moment.keepsMark_next (s := s)
          (m := { run := r, world := w }) launched notWatching here foundHere
        rw [sameWaits, ← keeps.started, ← keepsNext.started]
        have onward : (r.step s w).1.stage.precedesWatch = true ∨
            (r.step s w).1.stage.isForward = false := by
          rw [stage_step]
          exact Stage.precedesWatch_or_not_isForward precedes notWatching
        rcases onward with goesOn | givenUp
        · apply inductionHypothesis goesOn _ _ alone foundNext
          · exact keepsNext.free (keeps.free free)
          · exact finished
          · exact since
          · rw [stage_step]
            exact Stage.after_ne_launching launched
          · rwa [plan_step]
        · have past := Stage.precedesWatch_of_not_isForward givenUp
          rw [canKill_of_past past alone foundNext since]
          constructor
          · exact .inl
          · rintro (marked | ⟨p, waits⟩)
            · exact marked
            · exact absurd waits (notMem_waitFor_events givenUp p)

theorem outcome?_of_ended {outcome : Outcome} (isOver : r.stage = .ended outcome) :
    (r.follow s worlds).outcome? = some outcome := by
  induction worlds generalizing r with
  | nil => simp [follow, outcome?, isOver]
  | cons w worlds inductionHypothesis =>
      apply inductionHypothesis
      rw [stage_step, isOver]
      rfl

theorem events_ne_nil_of_opening {p : ProcessRef} (opening : r.stage = .opening p)
    (finished : (r.follow s worlds).outcome?.isSome) : r.events s worlds ≠ [] := by
  have owed : p ∈ r.stage.owedRelease.toList ++ r.launched s worlds := by
    simp [opening, Stage.owedRelease]
  have letGo := getLast?_events owed finished
  intro nothing
  rw [nothing] at letGo
  contradiction

theorem hasToItself_unattended (s : Surroundings σ) (i : WatchdogId) (n : Nat) (r : Run)
    (w : World σ) : r.HasToItself s i w (unattended s n r w) := by
  induction n generalizing r w with
  | zero => trivial
  | succ n inductionHypothesis => exact ⟨⟨[], rfl⟩, inductionHypothesis _ _⟩

/-- Whether a kill has to wait for an execution that has ended.  Let an execution, waited
for or in the background, have a watchdog to itself that watches nothing when it is asked
for; so between its steps only the timer and kills change that watchdog, and anything may
happen elsewhere.  Whatever its steps raise: once it has ended, kills can go on if and only
if the mark was there before and is not forgotten, or the launch, the only call there was,
raised a standard fault, or the execution has come to wait for its process.

So a process that was launched but never waited for leaves kills waiting. -/
theorem canKill_of_ended_iff (s : Surroundings σ) (plan : Plan) (worlds : List (World σ))
    (background : Bool) (used : plan.watchdog = some i) {world start : World σ}
    (known : world.watchdogs[i]? = some dog) (free : dog.process = none)
    (idle : dog.watching = false)
    (asked : start =
      if background then world.updateWatchdog i Watchdog.forgetLaunch else world)
    (alone : HasToItself s i { plan } start worlds) {outcome : Outcome}
    (ended : (follow s { plan } worlds).outcome? = some outcome)
    (since : (leaves s { plan } start worlds).Drifts s i later) :
    later.canKill i = true ↔
      (background = false ∧ dog.started = true) ∨
      (∃ n fault, events s { plan } worlds = [.launch n] ∧ outcome = .fault fault ∧
        fault.isStandard = true) ∨
      ∃ p, .waitFor p ∈ events s { plan } worlds := by
  obtain ⟨first, foundFirst, marked, freeFirst⟩ : ∃ first, start.watchdogs[i]? = some first ∧
      (first.started = true ↔ background = false ∧ dog.started = true) ∧
      first.process = none := by
    rw [asked]
    cases background with
    | false => exact ⟨dog, known, by simp, free⟩
    | true =>
        refine ⟨dog.forgetLaunch, ?_, ?_, ?_⟩
        · exact (List.getElem?_modify_eq ..).trans (by rw [known]; rfl)
        · simp [Watchdog.forgetLaunch, idle]
        · simp [Watchdog.forgetLaunch, idle, free]
  cases worlds with
  | nil => simp [follow, outcome?] at ended
  | cons w worlds =>
      obtain ⟨drifts, alone⟩ := alone
      obtain ⟨here, foundHere, keeps⟩ := (World.KeepsMark.of_drifts drifts) first foundFirst
      rw [← marked, ← keeps.started]
      have split : events s { plan } (w :: worlds) =
          .launch w.launches.length :: (step s { plan } w).1.events s worlds := events_cons ..
      have finished : (follow s (step s { plan } w).1 worlds).outcome?.isSome :=
        Option.isSome_of_eq_some ended
      have planned : (step s { plan } w).1.plan.watchdog = some i := by rwa [plan_step]
      rw [split]
      cases answer : (w.launch s plan.order).1 with
      | ok p =>
          have replied : Moment.reply s { run := { plan }, world := w } = .launched p := by
            simp [Moment.reply, answer, Reply.ofCall]
          have opening : (step s { plan } w).1.stage = .opening p := by
            rw [stage_step, replied]
            rfl
          have foundNext : (step s { plan } w).2.watchdogs[i]? = some here := by
            have same := Moment.watchdogs_next_of_launched (m := { run := { plan }, world := w })
              rfl replied
            exact (congrArg (·[i]?) same).trans foundHere
          have waits := canKill_iff_of_precedes (by rw [opening]; rfl) (by simp [opening])
            planned alone foundNext (keeps.free freeFirst) finished since
          have notAlone := events_ne_nil_of_opening opening finished
          simp [waits, notAlone]
      | error fault =>
          have replied : Moment.reply s { run := { plan }, world := w } = .raised fault := by
            simp [Moment.reply, answer, Reply.ofCall]
          have isOver : (step s { plan } w).1.stage = .ended (.fault fault) := by
            rw [stage_step, replied]
            rfl
          have foundNext : (step s { plan } w).2.watchdogs[i]? =
              some (if fault.isStandard then here.launchFailed (some fault) else here) := by
            have changed := Moment.watchdogs_next_of_failed
              (m := { run := { plan }, world := w }) rfl replied used
            rw [foundHere] at changed
            exact changed
          have settled : (follow s { plan } (w :: worlds)).outcome? = some (.fault fault) :=
            outcome?_of_ended (r := (step s { plan } w).1) isOver
          have same : outcome = .fault fault := Option.some.inj (ended.symm.trans settled)
          have past : (step s { plan } w).1.stage.precedesWatch = false := by
            rw [isOver]
            rfl
          rw [canKill_of_past past alone foundNext since, events_of_ended isOver, same]
          cases standard : fault.isStandard with
          | true => simp [standard, Watchdog.started_launchFailed]
          | false => simp [standard]

open Script in
/-- A cast whose first launch fails. -/
def groundedCast : Cast where
  queue := [{ launchFault := some (.runtime []) }]

open Script in
/-- A failed launch in the background does not leave kills waiting. -/
theorem canKill_of_ended_iff_groundedCast :
    let start := groundedCast.world.updateWatchdog 0 Watchdog.forgetLaunch
    let worlds := unattended Cast.rehearsal 1 { plan := rehearsalPlan } start
    (follow Cast.rehearsal { plan := rehearsalPlan } worlds).outcome? =
        some (.fault (.runtime [])) ∧
      (leaves Cast.rehearsal { plan := rehearsalPlan } start worlds).canKill 0 = true := by
  intro start worlds
  have ended : (follow Cast.rehearsal { plan := rehearsalPlan } worlds).outcome? =
      some (.fault (.runtime [])) := by decide
  have alone := hasToItself_unattended Cast.rehearsal 0 1 { plan := rehearsalPlan } start
  have known : groundedCast.world.watchdogs[0]? = some _ := rfl
  apply And.intro ended
  apply (canKill_of_ended_iff Cast.rehearsal rehearsalPlan worlds true rfl known rfl rfl rfl alone
    ended ⟨[], rfl⟩).mpr
  exact .inr (.inl ⟨0, .runtime [], by decide, rfl, rfl⟩)

open Script in
/-- A cast whose handler gives no session. -/
def sessionlessCast : Cast where
  handlers := [{ script := { fault := fun
    | .session => some (.runtime [])
    | _ => none } }]

open Script in
/-- An execution that gets no session ends without a mark, and kills wait on. -/
theorem kill_waits_after_end :
    let start := sessionlessCast.world.updateWatchdog 0 Watchdog.forgetLaunch
    let worlds := unattended Cast.rehearsal 3 { plan := rehearsalPlan } start
    (follow Cast.rehearsal { plan := rehearsalPlan } worlds).outcome? =
        some (.fault (.runtime [])) ∧
      events Cast.rehearsal { plan := rehearsalPlan } worlds =
        [.launch 0, .openSession 0, .release (.launched 0)] ∧
      (leaves Cast.rehearsal { plan := rehearsalPlan } start worlds).canKill 0 = false := by
  decide

end Run

end Overseer
