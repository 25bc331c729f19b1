import Overseer.Proofs.Execution.Cleanup
import Overseer.Proofs.Execution.Mark

/-!
# Destroying what was launched

A process whose execution gives it up is destroyed before it is let go of.  This holds for
every stage at which the execution has a session: whatever fails there leads to a call that
destroys the process, and so does an interrupted wait.  Before there is a session nothing
leads to that call.
-/

namespace Overseer

/-! ## Sessions -/

/-- The session that the step opens. -/
def Moment.opened? {σ : Type} (s : Surroundings σ) (m : Moment σ) : Option SessionId :=
  match m.run.stage, m.reply s with
  | .opening _, .opened session => some session
  | _, _ => none

/-- The sessions that an execution opens. -/
def Run.opened {σ : Type} (s : Surroundings σ) (r : Run) (worlds : List (World σ)) :
    List SessionId :=
  (r.moments s worlds).filterMap (·.opened? s)

namespace Moment

variable {σ : Type} {s : Surroundings σ} {m : Moment σ} {c : Custody} {fault : Fault}

theorem rank_of_opened {session : SessionId} (opened : m.opened? s = some session) :
    m.run.stage.rank < 2 ∧ 2 ≤ (m.next s).1.stage.rank := by
  rw [stage_next]
  unfold opened? at opened
  split at opened
  · next atStage replied =>
      rw [atStage, replied]
      exact ⟨Nat.lt_succ_self 1, Nat.le_refl 2⟩
  · contradiction

/-- What fails while there is a session makes the execution give up its process. -/
theorem abandoning_of_setback (held : m.run.stage.custody? = some c)
    (setback : m.setback? s = some fault) (standard : (m.reply s).isStandard = true) :
    ∃ c', (m.next s).1.stage = .abandoning c' fault ∧ c'.process = c.process := by
  obtain ⟨raised, forward⟩ := reply_of_setback setback
  rw [raised] at standard
  have isStandard : fault.isStandard = true := standard
  rw [stage_next, raised]
  rcases m with ⟨⟨plan, stage, announced⟩, w⟩
  cases stage with
  | attaching c' stream | starting c' | killing c' =>
      cases held
      exact ⟨c, if_pos isStandard, rfl⟩
  | enlisting c' =>
      cases held
      cases destroyer : plan.destroyer with
      | none => simp [reply, destroyer] at raised
      | some i =>
          refine ⟨{ c with enlisted := true }, ?_, rfl⟩
          simp [Stage.after, Reply.orAbandon, isStandard, destroyer]
  | watching c' =>
      cases held
      cases watchdog : plan.watchdog with
      | none => simp [reply, watchdog] at raised
      | some i => exact ⟨c, by simp [Stage.after, Reply.orAbandon, isStandard, watchdog], rfl⟩
  | waiting c' interrupted entered =>
      cases held
      cases fault with
      | interrupted => simp [setback?, raised] at setback
      | _ => exact ⟨c, by simp [Stage.after, Reply.orAbandon, isStandard], rfl⟩
  | launching | opening p => simp [Stage.custody?] at held
  | _ => simp [Stage.isForward] at forward

/-- Without such a fault the process is kept. -/
theorem custody_next (held : m.run.stage.custody? = some c)
    (forward : (m.next s).1.stage.isForward = true) :
    ∃ c', (m.next s).1.stage.custody? = some c' ∧ c'.process = c.process := by
  rw [stage_next] at forward ⊢
  rcases Stage.keepsHold_after m.run.plan s.isFailure (m.reply s) held with
    ⟨c', stillHeld, same, _⟩ | ⟨outcome, _, next⟩
  · exact ⟨c', stillHeld, same⟩
  · simp [next, Stage.isForward] at forward

end Moment

namespace Run

variable {σ : Type} {s : Surroundings σ} {worlds : List (World σ)} {r : Run} {p : ProcessRef}

theorem opened_cons (r : Run) (w : World σ) :
    r.opened s (w :: worlds) =
      (Moment.opened? s { run := r, world := w }).toList ++ (r.step s w).1.opened s worlds :=
  filterMap_moments_cons _ r w

/-- Who has come past the opening of a session opens none any more. -/
theorem opened_of_rank (late : 2 ≤ r.stage.rank) : r.opened s worlds = [] :=
  (filterMap_length_le_one (fun _ _ => Moment.rank_of_opened) r).2 late

/-! ## Giving up -/

theorem destroy_mem_events_of_abandoning {c : Custody} {fault : Fault}
    (abandoning : r.stage = .abandoning c fault) (finished : (r.follow s worlds).outcome?.isSome) :
    .destroy .execution c.process ∈ r.events s worlds := by
  cases worlds with
  | nil => simp [follow, outcome?, abandoning] at finished
  | cons w worlds =>
      rw [events_cons]
      apply List.mem_append_left
      simp [Moment.calls, abandoning]

/-- Who has a session and no exit value destroys his process before the end. -/
theorem destroy_mem_events {c : Custody} (held : r.stage.custody? = some c)
    (forward : r.stage.isForward = true)
    (noExit : (r.moments s worlds).findSome? (·.exit? s) = none)
    (standard : r.IsStandard s worlds) (finished : (r.follow s worlds).outcome?.isSome) :
    .destroy .execution c.process ∈ r.events s worlds := by
  induction worlds generalizing r c with
  | nil =>
      obtain ⟨outcome, ended⟩ := stage_of_isSome_outcome? finished
      change r.stage = .ended outcome at ended
      simp [ended, Stage.isForward] at forward
  | cons w worlds inductionHypothesis =>
      simp only [moments, List.findSome?_cons] at noExit
      rw [events_cons]
      apply List.mem_append_right
      cases setback : Moment.setback? s { run := r, world := w } with
      | some fault =>
          obtain ⟨c', abandoning, same⟩ :=
            Moment.abandoning_of_setback (m := { run := r, world := w }) held setback standard.head
          rw [← same]
          exact destroy_mem_events_of_abandoning abandoning finished
      | none =>
          rcases Moment.isForward_next (m := { run := r, world := w }) forward setback with
            ⟨quiet, stillForward⟩ | ⟨_, exitValue, exited, _⟩
          · rw [quiet] at noExit
            obtain ⟨c', stillHeld, same⟩ :=
              Moment.custody_next (m := { run := r, world := w }) held stillForward
            rw [← same]
            exact inductionHypothesis stillHeld stillForward noExit standard.tail finished
          · rw [exited] at noExit
            contradiction

/-- Whoever has launched a process destroys it just when he gets a session for it. -/
theorem destroy_mem_iff_of_opening (opening : r.stage = .opening p)
    (noExit : (r.moments s worlds).findSome? (·.exit? s) = none)
    (standard : r.IsStandard s worlds) (finished : (r.follow s worlds).outcome?.isSome) :
    (.destroy .execution p ∈ r.events s worlds ↔ r.opened s worlds ≠ []) ∧
      (r.opened s worlds = [] → r.events s worlds = [.openSession r.plan.handler, .release p]) := by
  cases worlds with
  | nil => simp [follow, outcome?, opening] at finished
  | cons w worlds =>
      have calls : Moment.calls { run := r, world := w } = [.openSession r.plan.handler] := by
        simp [Moment.calls, opening]
      have next := stage_step s r w
      have noExit' : ((r.step s w).1.moments s worlds).findSome? (·.exit? s) = none := by
        simp only [moments, List.findSome?_cons] at noExit
        simpa [Moment.exit?, opening] using noExit
      rw [events_cons, opened_cons, calls]
      rw [opening] at next
      cases opened : w.openSession s r.plan.handler with
      | mk result v =>
          have replied : Moment.reply s { run := r, world := w } = .ofCall .opened result := by
            simp [Moment.reply, opening, opened]
          rw [replied] at next
          cases result with
          | ok session =>
              have session? : Moment.opened? s { run := r, world := w } = some session := by
                simp [Moment.opened?, opening, replied, Reply.ofCall]
              have destroyed := destroy_mem_events (congrArg Stage.custody? next)
                (congrArg Stage.isForward next) noExit' standard.tail finished
              rw [session?]
              constructor
              · exact iff_of_true (List.mem_append_right _ destroyed) (by simp)
              · intro none
                simp at none
          | error fault =>
              have session? : Moment.opened? s { run := r, world := w } = none := by
                simp [Moment.opened?, opening, replied, Reply.ofCall]
              have late : 2 ≤ (r.step s w).1.stage.rank := by
                rw [next]
                exact Nat.le_add_left 2 3
              rw [session?, opened_of_rank late, events_of_releasing next finished]
              simp

/-- A launch is the first step. -/
theorem opening_of_launched {plan : Plan} {w : World σ}
    (launched : p ∈ launched s { plan } (w :: worlds)) :
    (step s { plan } w).1.stage = .opening p := by
  have next := stage_step s { plan } w
  rw [launched_cons] at launched
  cases launch : w.launch s plan.order with
  | mk result v =>
      have replied : Moment.reply s { run := { plan }, world := w } = .ofCall .launched result := by
        simp [Moment.reply, launch]
      have onlyOne : (step s { plan } w).1.launched s worlds = [] := by
        apply (filterMap_length_le_one (fun _ _ => Moment.rank_of_launched) _).2
        rw [next, replied]
        cases result <;> simp [Reply.ofCall, Stage.after, Stage.rank]
      rw [onlyOne, List.append_nil, Option.mem_toList, Moment.launched?, replied] at launched
      rw [next, replied]
      cases result with
      | error fault => contradiction
      | ok q =>
          obtain rfl : q = p := Option.some.inj launched
          rfl

/-- A launched process whose wait comes to no exit value is destroyed by its execution if,
and only if, the execution had a session for it.  In whatever worlds the execution takes its
steps, if all that is raised is of a standard kind and the execution has ended, letting go of
the process is the last call.  Before that the process was destroyed, whatever failed once
there was a session, and however often destroying it failed itself.  If there was none,
nothing was called after the launch but the handler that gave none. -/
theorem destroyed_iff_opened (s : Surroundings σ) (plan : Plan) (worlds : List (World σ))
    (finished : (follow s { plan } worlds).outcome?.isSome)
    (standard : IsStandard s { plan } worlds) {p : ProcessRef}
    (launched : p ∈ launched s { plan } worlds)
    (noExit : (moments s { plan } worlds).findSome? (·.exit? s) = none) :
    ∃ before, events s { plan } worlds = before ++ [.release p] ∧
      (.destroy .execution p ∈ before ↔ opened s { plan } worlds ≠ []) ∧
      (opened s { plan } worlds = [] → ∃ n, before = [.launch n, .openSession plan.handler]) := by
  cases worlds with
  | nil => simp [Run.launched, moments] at launched
  | cons w worlds =>
      have opening := opening_of_launched launched
      have noExit' : ((step s { plan } w).1.moments s worlds).findSome? (·.exit? s) = none := by
        simpa [moments, Moment.exit?] using noExit
      obtain ⟨destroyed, abandoned⟩ :=
        destroy_mem_iff_of_opening opening noExit' standard.tail finished
      have sessions : opened s { plan } (w :: worlds) = (step s { plan } w).1.opened s worlds := by
        rw [opened_cons]
        rfl
      have last : (events s { plan } (w :: worlds)).getLast? = some (.release p) :=
        getLast?_events (List.mem_append_right _ launched) finished
      obtain ⟨before, split⟩ := List.getLast?_eq_some_iff.mp last
      have calls : before ++ [.release p] =
          .launch w.launches.length :: (step s { plan } w).1.events s worlds := by
        rw [← split, events_cons]
        rfl
      refine ⟨before, split, ?_, ?_⟩
      · rw [sessions, ← destroyed]
        have mem := congrArg (.destroy .execution p ∈ ·) calls
        simpa using mem
      · intro none
        rw [sessions] at none
        rw [abandoned none] at calls
        refine ⟨w.launches.length, ?_⟩
        rw [plan_step] at calls
        exact List.append_cancel_right calls

open Script in
/-- A cast whose process raises an interruption when it is waited for, and a fault whenever it
is destroyed. -/
def stubbornCast : Cast where
  queue := [{ waits := [.interrupted], destroyFault := some (.runtime []) }]

open Script in
/-- Even so it is destroyed before it is let go of. -/
theorem destroyed_iff_opened_stubbornCast :
    let worlds := unattended Cast.rehearsal 18 { plan := rehearsalPlan } stubbornCast.world
    (follow Cast.rehearsal { plan := rehearsalPlan } worlds).outcome? =
        some (.fault (.runtime [])) ∧
      ∃ before, events Cast.rehearsal { plan := rehearsalPlan } worlds =
          before ++ [.release (.launched 0)] ∧
        .destroy .execution (.launched 0) ∈ before := by
  intro worlds
  have ended : (follow Cast.rehearsal { plan := rehearsalPlan } worlds).outcome? =
      some (.fault (.runtime [])) := by decide
  have finished : (follow Cast.rehearsal { plan := rehearsalPlan } worlds).outcome?.isSome := by
    rw [ended]
    rfl
  have standard : IsStandard Cast.rehearsal { plan := rehearsalPlan } worlds := by decide
  have session : opened Cast.rehearsal { plan := rehearsalPlan } worlds ≠ [] := by decide
  obtain ⟨before, split, destroyed, _⟩ := destroyed_iff_opened Cast.rehearsal rehearsalPlan worlds
    finished standard (p := .launched 0) (by decide) (by decide)
  exact ⟨ended, before, split, destroyed.mpr session⟩

open Script in
/-- A process whose execution gets no session is let go of alive. -/
theorem release_without_destroy :
    let worlds := unattended Cast.rehearsal 4 { plan := rehearsalPlan } sessionlessCast.world
    (follow Cast.rehearsal { plan := rehearsalPlan } worlds).outcome? =
        some (.fault (.runtime [])) ∧
      IsStandard Cast.rehearsal { plan := rehearsalPlan } worlds ∧
      .launched 0 ∈ launched Cast.rehearsal { plan := rehearsalPlan } worlds ∧
      (moments Cast.rehearsal { plan := rehearsalPlan } worlds).findSome?
        (·.exit? Cast.rehearsal) = none ∧
      .release (.launched 0) ∈ events Cast.rehearsal { plan := rehearsalPlan } worlds ∧
      ∀ caller, .destroy caller (.launched 0) ∉
        events Cast.rehearsal { plan := rehearsalPlan } worlds := by
  intro worlds
  have calls : events Cast.rehearsal { plan := rehearsalPlan } worlds =
      [.launch 0, .openSession 0, .release (.launched 0)] := by decide
  refine ⟨by decide, by decide, by decide, by decide, ?_, ?_⟩
  · rw [calls]
    decide
  · rw [calls]
    simp

end Run

end Overseer
