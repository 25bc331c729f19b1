import Overseer.Proofs.Execution.Debts

/-!
# Cleaning up after an execution

The balance of single steps adds up: an execution that has ended has given back all
it took on, on whatever way it came to its end.  What is left to show is the order of
the calls, which the stages after the end of the process go through one by one.
-/

namespace Overseer

namespace Event

/-- Whether a call stops a session or closes a stream. -/
def isWindingUp : Event → Bool
  | .stopStreams _ | .close _ _ => true
  | _ => false

end Event

namespace Run

variable {σ : Type}

/-- The calls of an execution, in order. -/
def events (s : Surroundings σ) (r : Run) (worlds : List (World σ)) : List Event :=
  (r.moments s worlds).flatMap (·.events s)

/-- The processes that an execution launches. -/
def launched (s : Surroundings σ) (r : Run) (worlds : List (World σ)) : List ProcessRef :=
  (r.moments s worlds).filterMap (·.launched? s)

/-- The sessions that an execution starts. -/
def started (s : Surroundings σ) (r : Run) (worlds : List (World σ)) : List SessionId :=
  (r.moments s worlds).filterMap (·.started? s)

end Run

/-! ## Winding up -/

namespace Stage

/-- Whether the process has ended and the execution is on its way to its own end. -/
def isWinding : Stage → Bool
  | .ending _ _ | .stopping _ _ | .closing _ _ _ _ | .judging _ _ _ | .leaving _ _
  | .delisting _ _ | .releasing _ _ | .ended _ => true
  | _ => false

/-- The calls that close the streams, from one stream on. -/
def closings (c : Custody) : StandardStream → List Event
  | .output => [.close c.process .output, .close c.process .input, .close c.process .error]
  | .input => [.close c.process .input, .close c.process .error]
  | .error => [.close c.process .error]

/-- What is left of stopping the session and closing the streams. -/
def windup : Stage → List Event
  | .ending c _ | .stopping c _ => .stopStreams c.session :: closings c .output
  | .closing c _ _ stream => closings c stream
  | _ => []

end Stage

namespace Moment

variable {σ : Type} {s : Surroundings σ} {m : Moment σ}

theorem windup_next (winding : m.run.stage.isWinding = true)
    (standard : (m.reply s).isStandard = true) :
    (m.next s).1.stage.isWinding = true ∧
      m.run.stage.windup =
        m.calls.filter Event.isWindingUp ++ (m.next s).1.stage.windup := by
  rw [stage_next]
  rcases m with ⟨⟨plan, stage, announced⟩, w⟩
  cases stage with
  | ending c exitValue => simp [Stage.after, Stage.isWinding, Stage.windup, calls, Stage.closings]
  | stopping c exitValue =>
      simp only [Stage.after]
      rw [Reply.orLeave_of_isStandard standard]
      exact ⟨rfl, rfl⟩
  | closing c exitValue first stream =>
      simp only [Stage.after]
      rw [Reply.orLeave_of_isStandard standard]
      cases stream <;> exact ⟨rfl, rfl⟩
  | judging c exitValue first =>
      simp only [Stage.after]
      generalize reply s _ = reply
      cases reply <;> exact ⟨rfl, rfl⟩
  | delisting c outcome =>
      refine ⟨rfl, ?_⟩
      simp only [calls]
      split <;> rfl
  | leaving c outcome | releasing p outcome | ended outcome => exact ⟨rfl, rfl⟩
  | _ => simp [Stage.isWinding] at winding

/-- Before the process has ended no stream is closed, and no session is stopped on the
way there. -/
theorem filter_isWindingUp_of_isForward (forward : m.run.stage.isForward = true) :
    m.calls.filter Event.isWindingUp = [] := by
  rcases m with ⟨⟨plan, stage, announced⟩, w⟩
  cases stage with
  | enlisting c =>
      simp only [calls]
      split
      · rfl
      · apply List.filter_eq_nil_iff.mpr
        intro event called
        rcases List.mem_cons.mp called with rfl | condemned
        · simp [Event.isWindingUp]
        · simp [World.eq_destroy_of_mem_condemnation condemned, Event.isWindingUp]
  | waiting c interrupted entered => cases entered <;> rfl
  | launching | opening p | attaching c stream | starting c | watching c | killing c => rfl
  | _ => simp [Stage.isForward] at forward

end Moment

/-! ## Courses balance -/

namespace Run

variable {σ : Type} {s : Surroundings σ} {worlds : List (World σ)}

theorem events_cons (r : Run) (w : World σ) :
    r.events s (w :: worlds) =
      Moment.calls { run := r, world := w } ++ (r.step s w).1.events s worlds := by
  simp [events, moments, Moment.events_eq_calls]

theorem launched_cons (r : Run) (w : World σ) :
    r.launched s (w :: worlds) =
      (Moment.launched? s { run := r, world := w }).toList ++
        (r.step s w).1.launched s worlds :=
  filterMap_moments_cons _ r w

theorem started_cons (r : Run) (w : World σ) :
    r.started s (w :: worlds) =
      (Moment.started? s { run := r, world := w }).toList ++ (r.step s w).1.started s worlds :=
  filterMap_moments_cons _ r w

theorem isSound_step {r : Run} (sound : r.stage.isSound = true) (w : World σ) :
    (r.step s w).1.stage.isSound = true := by
  rw [stage_step]
  exact Stage.isSound_after sound

theorem stops_balance {r : Run} (sound : r.stage.isSound = true)
    (standard : r.IsStandard s worlds) :
    r.stage.owedStop.toList ++ r.started s worlds =
      (r.events s worlds).filterMap Event.stopped? ++
        (r.follow s worlds).stage.owedStop.toList := by
  induction worlds generalizing r with
  | nil => simp [started, events, moments, follow]
  | cons w worlds inductionHypothesis =>
      have step := Moment.stop_balanced (m := { run := r, world := w }) sound standard.head
      have later := inductionHypothesis (isSound_step sound w) standard.tail
      simp only [Moment.next] at step
      rw [started_cons, ← List.append_assoc, step, List.append_assoc, later, events_cons,
        List.filterMap_append, List.append_assoc, follow]

theorem releases_balance (s : Surroundings σ) (worlds : List (World σ)) (r : Run) :
    r.stage.owedRelease.toList ++ r.launched s worlds =
      (r.events s worlds).filterMap Event.released? ++
        (r.follow s worlds).stage.owedRelease.toList := by
  induction worlds generalizing r with
  | nil => simp [launched, events, moments, follow]
  | cons w worlds inductionHypothesis =>
      have step := Moment.release_balanced (s := s) (m := { run := r, world := w })
      have later := inductionHypothesis (r.step s w).1
      simp only [Moment.next] at step
      rw [launched_cons, ← List.append_assoc, step, List.append_assoc, later, events_cons,
        List.filterMap_append, List.append_assoc, follow]

theorem delists_balance (s : Surroundings σ) (worlds : List (World σ)) {r : Run}
    (sound : r.stage.isSound = true) :
    (r.stage.owedDelist r.plan).toList ++ (r.events s worlds).filterMap Event.enlisted? =
      (r.events s worlds).filterMap Event.delisted? ++
        ((r.follow s worlds).stage.owedDelist r.plan).toList := by
  induction worlds generalizing r with
  | nil => simp [events, moments, follow]
  | cons w worlds inductionHypothesis =>
      have step := Moment.delist_balanced (s := s) (m := { run := r, world := w }) sound
      have later := inductionHypothesis (isSound_step (s := s) sound w)
      simp only [Moment.next] at step
      rw [plan_step] at later
      rw [events_cons, List.filterMap_append, ← List.append_assoc, step, List.append_assoc, later,
        List.filterMap_append, List.append_assoc, follow]

/-! ## Each thing is taken on at most once -/

theorem length_launched_le (r : Run) : (r.launched s worlds).length ≤ 1 :=
  (filterMap_length_le_one (fun _ _ => Moment.rank_of_launched) r).1

theorem length_started_le (r : Run) : (r.started s worlds).length ≤ 1 :=
  (filterMap_length_le_one (fun _ _ => Moment.rank_of_started) r).1

theorem filterMap_enlisted (r : Run) :
    (r.events s worlds).filterMap Event.enlisted? =
      (r.moments s worlds).filterMap Moment.enlisted? := by
  induction worlds generalizing r with
  | nil => rfl
  | cons w worlds inductionHypothesis =>
      rw [events_cons, List.filterMap_append, Moment.enlisted_calls, inductionHypothesis,
        filterMap_moments_cons]

theorem length_enlisted_le (r : Run) :
    ((r.events s worlds).filterMap Event.enlisted?).length ≤ 1 := by
  rw [filterMap_enlisted]
  exact (filterMap_length_le_one (fun _ _ => Moment.rank_of_enlisted (s := s)) r).1

/-! ## The last calls -/

theorem stage_of_isSome_outcome? {r : Run} (finished : r.outcome?.isSome) :
    ∃ outcome, r.stage = .ended outcome := by
  rcases r with ⟨plan, stage, announced⟩
  cases stage with
  | ended outcome => exact ⟨outcome, rfl⟩
  | _ => simp [outcome?] at finished

theorem events_of_ended {r : Run} {outcome : Outcome} (finished : r.stage = .ended outcome) :
    r.events s worlds = [] := by
  induction worlds generalizing r with
  | nil => rfl
  | cons w worlds inductionHypothesis =>
      have stillOver : (r.step s w).1.stage = .ended outcome := by
        rw [stage_step, finished]
        rfl
      rw [events_cons, inductionHypothesis stillOver]
      simp [Moment.calls, finished]

theorem events_of_releasing {r : Run} {p : ProcessRef} {outcome : Outcome}
    (releasing : r.stage = .releasing p outcome) (finished : (r.follow s worlds).outcome?.isSome) :
    r.events s worlds = [.release p] := by
  cases worlds with
  | nil => simp [follow, outcome?, releasing] at finished
  | cons w worlds =>
      have next : (r.step s w).1.stage = .ended outcome := by
        rw [stage_step, releasing]
        rfl
      rw [events_cons, events_of_ended next]
      simp [Moment.calls, releasing]

/-- The process that is held, or is yet to be launched, is let go of last. -/
theorem getLast?_events {r : Run} {p : ProcessRef}
    (owed : p ∈ r.stage.owedRelease.toList ++ r.launched s worlds)
    (finished : (r.follow s worlds).outcome?.isSome) :
    (r.events s worlds).getLast? = some (.release p) := by
  induction worlds generalizing r with
  | nil =>
      rcases r with ⟨plan, stage, announced⟩
      cases stage <;>
        simp_all [follow, outcome?, launched, moments, Stage.owedRelease, Stage.custody?]
  | cons w worlds inductionHypothesis =>
      have step := Moment.release_balanced (s := s) (m := { run := r, world := w })
      simp only [Moment.next] at step
      rw [launched_cons, ← List.append_assoc, step, List.append_assoc, List.mem_append] at owed
      rw [events_cons, List.getLast?_append]
      rcases owed with now | later
      · obtain ⟨event, called, released⟩ := List.mem_filterMap.mp now
        cases event with
        | release q =>
            cases released
            obtain ⟨outcome, atStage⟩ := Moment.releasing_of_mem_calls called
            change r.stage = _ at atStage
            have whole : r.events s (w :: worlds) = [.release p] :=
              events_of_releasing atStage finished
            rw [events_cons] at whole
            rw [← List.getLast?_append, whole]
            rfl
        | _ => simp [Event.released?] at released
      · rw [inductionHypothesis later finished, Option.some_or]

/-- Nothing but letting go of the process comes after undoing its registration. -/
theorem events_after_delist {r : Run} {before after : List Event} {i : DestroyerId}
    {p : ProcessRef} (split : r.events s worlds = before ++ .delist i p :: after)
    (finished : (r.follow s worlds).outcome?.isSome) : after = [.release p] := by
  induction worlds generalizing r before with
  | nil => simp [events, moments] at split
  | cons w worlds inductionHypothesis =>
      rw [events_cons] at split
      rcases List.append_eq_append_iff.mp split with ⟨more, _, rest⟩ | ⟨more, calls, rest⟩
      · exact inductionHypothesis rest finished
      · cases more with
        | nil =>
            have here : (r.step s w).1.events s worlds = [] ++ .delist i p :: after := rest.symm
            exact inductionHypothesis here finished
        | cons event more =>
            obtain ⟨rfl, rfl⟩ := List.cons.inj rest
            have called : .delist i p ∈ Moment.calls { run := r, world := w } := by
              rw [calls]
              simp
            obtain ⟨c, outcome, atStage, rfl, single⟩ := Moment.delisting_of_mem_calls called
            change r.stage = _ at atStage
            have next : (r.step s w).1.stage = .releasing c.process outcome := by
              rw [stage_step, atStage]
              rfl
            have nothing : more = [] := by
              have length := congrArg List.length (calls.symm.trans single)
              simp only [List.length_append, List.length_cons, List.length_nil] at length
              exact List.eq_nil_of_length_eq_zero (by omega)
            rw [nothing, events_of_releasing next finished]
            rfl

/-! ## Every way to the end -/

theorem filter_isWindingUp_of_isWinding {r : Run} (winding : r.stage.isWinding = true)
    (standard : r.IsStandard s worlds) (finished : (r.follow s worlds).outcome?.isSome) :
    (r.events s worlds).filter Event.isWindingUp = r.stage.windup := by
  induction worlds generalizing r with
  | nil =>
      rcases r with ⟨plan, stage, announced⟩
      cases stage <;> simp_all [follow, outcome?, events, moments, Stage.windup]
  | cons w worlds inductionHypothesis =>
      obtain ⟨stillWinding, step⟩ :=
        Moment.windup_next (m := { run := r, world := w }) winding standard.head
      simp only [Moment.next] at stillWinding step
      rw [events_cons, List.filter_append, inductionHypothesis stillWinding standard.tail finished,
        ← step]

/-- Once the process has ended, its execution stops the session and closes the three
streams, and then lets go of the process. -/
theorem windup_of_exit {r : Run} {exitValue : Int} (forward : r.stage.isForward = true)
    (exit : (r.moments s worlds).findSome? (·.exit? s) = some exitValue)
    (standard : r.IsStandard s worlds) (finished : (r.follow s worlds).outcome?.isSome) :
    ∃ c : Custody,
      (r.events s worlds).filter Event.isWindingUp =
        .stopStreams c.session :: Stage.closings c .output ∧
      .release c.process ∈ r.events s worlds := by
  induction worlds generalizing r with
  | nil => simp [moments] at exit
  | cons w worlds inductionHypothesis =>
      have quiet := Moment.filter_isWindingUp_of_isForward (m := { run := r, world := w }) forward
      rw [events_cons, List.filter_append, quiet, List.nil_append]
      simp only [moments, List.findSome?_cons] at exit
      cases here : Moment.setback? s { run := r, world := w } with
      | some fault =>
          obtain ⟨settled, _⟩ := Moment.settled?_of_setback here standard.head
          simp only [Moment.next] at settled
          rw [Moment.exit?_of_setback here,
            (findSome?_of_not_isForward (not_isForward_of_settled settled)).2] at exit
          contradiction
      | none =>
          rcases Moment.isForward_next forward here with
            ⟨noExit, stillForward⟩ | ⟨c, v, _, ended⟩
          · rw [noExit] at exit
            obtain ⟨c, windup, released⟩ :=
              inductionHypothesis stillForward exit standard.tail finished
            exact ⟨c, windup, List.mem_append_right _ released⟩
          · simp only [Moment.next] at ended
            have winding : (r.step s w).1.stage.isWinding = true := by
              rw [ended]
              rfl
            have owed : c.process ∈ (r.step s w).1.stage.owedRelease.toList ++
                (r.step s w).1.launched s worlds := by
              simp [ended, Stage.owedRelease, Stage.custody?]
            have released := List.mem_of_getLast? (getLast?_events owed finished)
            refine ⟨c, ?_, List.mem_append_right _ released⟩
            rw [filter_isWindingUp_of_isWinding winding standard.tail finished, ended]
            rfl

theorem eq_singleton_of_mem {α : Type} {a : α} {l : List α} (short : l.length ≤ 1)
    (member : a ∈ l) : l = [a] := by
  match l, short with
  | [b], _ => rw [List.mem_singleton.mp member]

/-- Cleaning up is complete and in order.  In whatever worlds an execution takes its
steps, if all that is raised is of a standard kind and the execution has ended:

* The session that was started was stopped once, and no session otherwise.
* The process that was given to a destroyer was taken off it once, and none otherwise;
  after that nothing happened but letting go of it.
* If the wait came to an exit value, the session was stopped and then the three streams
  were closed, each once, whatever was raised meanwhile.
* The process that was launched was let go of once, by the last call, and none
  otherwise. -/
theorem cleanup_complete (s : Surroundings σ) (plan : Plan) (worlds : List (World σ))
    (finished : (follow s { plan } worlds).outcome?.isSome)
    (standard : IsStandard s { plan } worlds) :
    let events := events s { plan } worlds
    let started := started s { plan } worlds
    let launched := launched s { plan } worlds
    (events.filterMap Event.stopped? = started ∧ started.length ≤ 1) ∧
    (events.filterMap Event.delisted? = events.filterMap Event.enlisted? ∧
      (events.filterMap Event.enlisted?).length ≤ 1) ∧
    (∀ before i p after, events = before ++ .delist i p :: after → after = [.release p]) ∧
    (∀ exitValue, (moments s { plan } worlds).findSome? (·.exit? s) = some exitValue →
      ∃ session p, started = [session] ∧ launched = [p] ∧
        events.filter Event.isWindingUp =
          [.stopStreams session, .close p .output, .close p .input, .close p .error]) ∧
    (events.filterMap Event.released? = launched ∧ launched.length ≤ 1) ∧
    (∀ p ∈ launched, events.getLast? = some (.release p)) := by
  intro events started launched
  obtain ⟨outcome, ended⟩ := stage_of_isSome_outcome? finished
  have stops := stops_balance (s := s) (r := { plan }) rfl standard
  have delists := delists_balance s worlds (r := { plan }) rfl
  have releases := releases_balance s worlds { plan }
  rw [ended] at stops delists releases
  replace stops : started = events.filterMap Event.stopped? := by
    simpa [Stage.owedStop] using stops
  replace delists : events.filterMap Event.enlisted? = events.filterMap Event.delisted? := by
    simpa [Stage.owedDelist, Stage.custody?] using delists
  replace releases : launched = events.filterMap Event.released? := by
    simpa [Stage.owedRelease, Stage.custody?] using releases
  refine ⟨⟨stops.symm, length_started_le _⟩, ⟨delists.symm, length_enlisted_le _⟩, ?_, ?_,
    ⟨releases.symm, length_launched_le _⟩, ?_⟩
  · intro before i p after split
    exact events_after_delist split finished
  · intro exitValue exit
    obtain ⟨c, windup, released⟩ := windup_of_exit (r := { plan }) rfl exit standard finished
    refine ⟨c.session, c.process, ?_, ?_, windup⟩
    · refine eq_singleton_of_mem (length_started_le _) ?_
      have stopped : .stopStreams c.session ∈ events := by
        refine (List.mem_filter (p := Event.isWindingUp)).mp ?_ |>.1
        rw [windup]
        exact List.mem_cons_self
      rw [stops]
      exact List.mem_filterMap.mpr ⟨_, stopped, rfl⟩
    · refine eq_singleton_of_mem (length_launched_le _) ?_
      rw [releases]
      exact List.mem_filterMap.mpr ⟨_, released, rfl⟩
  · intro p member
    exact getLast?_events (List.mem_append_right _ member) finished

open Script in
/-- A cast that fails in every part of the cleanup is cleaned up after all the same. -/
theorem cleanup_complete_untidyCast :
    let worlds := unattended Cast.rehearsal 18 { plan := rehearsalPlan } untidyCast.world
    let events := events Cast.rehearsal { plan := rehearsalPlan } worlds
    (follow Cast.rehearsal { plan := rehearsalPlan } worlds).outcome?.isSome ∧
      IsStandard Cast.rehearsal { plan := rehearsalPlan } worlds ∧
      events.filter Event.isWindingUp =
        [.stopStreams { handler := 0 }, .close (.launched 0) .output, .close (.launched 0) .input,
          .close (.launched 0) .error] ∧
      events.filterMap Event.delisted? = [(0, .launched 0)] ∧
      events.getLast? = some (.release (.launched 0)) := by
  intro worlds events
  have finished : (follow Cast.rehearsal { plan := rehearsalPlan } worlds).outcome?.isSome := by
    decide
  have standard : IsStandard Cast.rehearsal { plan := rehearsalPlan } worlds := by decide
  obtain ⟨_, ⟨delisted, _⟩, _, exits, _, last⟩ :=
    cleanup_complete Cast.rehearsal rehearsalPlan worlds finished standard
  obtain ⟨session, p, started, launched, windup⟩ := exits 3 (by decide)
  obtain ⟨rfl⟩ : [({ handler := 0 } : SessionId)] = [session] := started
  obtain ⟨rfl⟩ : [ProcessRef.launched 0] = [p] := launched
  exact ⟨finished, standard, windup, delisted, last _ (by decide)⟩

end Run

end Overseer
