import Overseer.Proofs.Supervisor.Callback
import Overseer.Script.Rehearsal
import Overseer.Supervisor.Call

/-!
# Executions in the background and executions waited for

A background execution does what it would do if its caller waited for it, and what its
receiver is told is what the caller would have got.  The two are compared along any
moves of the supervisor: the execution that is waited for runs in a world of its own,
takes a step whenever the worker's turn comes, and every other move happens in its world
as it happens in the supervisor's.
-/

namespace Overseer

namespace Supervisor

variable {σ : Type}

/-- An execution that is waited for, after a move of the supervisor that has it done by
a worker.  An unanswered wait is no step. -/
def attendMove (s : Surroundings σ) (i : WorkerId) (sup : Supervisor σ) (m : Move σ)
    (a : Run × World σ) : Run × World σ :=
  if m.isStepOf i then
    if a.1.isBlocked && (a.1.step s a.2).1.isBlocked then a else a.1.step s a.2
  else (a.1, ((sup.moveTo a.2).move s m).world)

/-- An execution that is waited for, after one move after the other. -/
def attend (s : Surroundings σ) (i : WorkerId) :
    Supervisor σ → List (Move σ) → Run × World σ → Run × World σ
  | _, [], a => a
  | sup, m :: moves, a => attend s i (sup.move s m) moves (attendMove s i sup m a)

/-- In the supervisor's world and in another one the launcher got the same orders and
the collaborators the same calls. -/
def IsInStep (sup : Supervisor σ) (w : World σ) : Prop :=
  sup.world.launches = w.launches ∧ sup.world.trace = w.trace

/-- After these moves the worker has made no callback, and is in step with a world; its
next step is a callback and nothing else. -/
structure CallsAfter (s : Surroundings σ) (i : WorkerId) (sup : Supervisor σ)
    (moves : List (Move σ)) (w : World σ) (told : Event) : Prop where
  /-- There was no callback before. -/
  silent : callbacks s i sup moves = []
  /-- All that went before is the same as in the other world. -/
  inStep : (sup.play s moves).IsInStep w
  /-- The next step of the worker is the callback. -/
  trace : (sup.play s (moves ++ [.worker i])).world.trace =
    (sup.play s moves).world.trace ++ [told]

theorem attend_append (s : Surroundings σ) (i : WorkerId) (sup : Supervisor σ)
    (moves more : List (Move σ)) (a : Run × World σ) :
    attend s i sup (moves ++ more) a =
      attend s i (sup.play s moves) more (attend s i sup moves a) := by
  induction moves generalizing sup a with
  | nil => rfl
  | cons m moves inductionHypothesis => exact inductionHypothesis _ _

/-- An execution that has ended does nothing any more. -/
theorem outcome_attendMove (s : Surroundings σ) (i : WorkerId) (sup : Supervisor σ) (m : Move σ)
    {a : Run × World σ} {outcome : Outcome} (ended : a.1.outcome? = some outcome) :
    (attendMove s i sup m a).1.outcome? = some outcome := by
  have stage := Run.stage_of_outcome ended
  unfold attendMove
  split
  · split
    · exact ended
    · rw [Run.step_ended s a.1 a.2 outcome stage]
      exact ended
  · exact ended

theorem outcome_attend (s : Surroundings σ) (i : WorkerId) (sup : Supervisor σ)
    (moves : List (Move σ)) {a : Run × World σ} {outcome : Outcome}
    (ended : a.1.outcome? = some outcome) :
    (attend s i sup moves a).1.outcome? = some outcome := by
  induction moves generalizing sup a with
  | nil => exact ended
  | cons m moves inductionHypothesis =>
      exact inductionHypothesis _ (outcome_attendMove s i sup m ended)

/-- The worker's turn changes nothing about an execution that has ended. -/
theorem attendMove_of_ended (s : Surroundings σ) (i : WorkerId) (sup : Supervisor σ)
    {a : Run × World σ} {outcome : Outcome} (ended : a.1.outcome? = some outcome) :
    attendMove s i sup (.worker i) a = a := by
  have stage := Run.stage_of_outcome ended
  simp [attendMove, Move.isStepOf, Run.isBlocked, stage]

/-! ## Before the callback -/

/-- A worker still has to call its receiver. -/
def IsPending (w : Worker) : Prop :=
  match w.phase with
  | .executing => True
  | .announcing outcome | .delivering outcome => w.run.outcome? = some outcome
  | .holding outcome => w.run.outcome? = some outcome ∧ w.signal.notified = true
  | .reacting _ | .joining _ _ | .starting _ _ | .finished => False

/-- A worker that still has to call its receiver has come as far as the execution that
is waited for. -/
structure Pursues (sup : Supervisor σ) (i : WorkerId) (receiver : Receiver)
    (a : Run × World σ) (w : Worker) : Prop where
  /-- There is the worker. -/
  found : sup.workers[i]? = some w
  /-- Its execution is at the same stage. -/
  run_eq : w.run = a.1
  /-- It is going to call this receiver. -/
  receiver_eq : w.receiver = receiver
  /-- It has not called it yet. -/
  pending : IsPending w
  /-- The worlds differ in marks of watchdogs at most. -/
  alike : a.2.Alike sup.world

/-- The moves that a worker whose execution has ended needs to call its receiver: its
steps, and its caller's going on. -/
def remaining (i : WorkerId) (w : Worker) : List (Move σ) :=
  match w.phase with
  | .executing => [.worker i, .worker i, .pass i, .worker i, .worker i]
  | .announcing _ => [.worker i, .pass i, .worker i, .worker i]
  | .holding _ =>
      if w.signal.observed then [.worker i, .worker i] else [.pass i, .worker i, .worker i]
  | .delivering _ => [.worker i]
  | .reacting _ | .joining _ _ | .starting _ _ | .finished => []

theorem remaining_ne_nil {w : Worker} (pending : IsPending w) (i : WorkerId) :
    (remaining i w : List (Move σ)) ≠ [] := by
  unfold IsPending at pending
  unfold remaining
  cases phase : w.phase with
  | holding outcome =>
      dsimp only
      split <;> exact List.cons_ne_nil _ _
  | executing | announcing outcome | delivering outcome => exact List.cons_ne_nil _ _
  | _ =>
      rw [phase] at pending
      contradiction

/-- No worker needs more moves than one whose execution has just ended. -/
theorem remaining_sublist (i : WorkerId) (w : Worker) :
    (remaining i w).Sublist
      ([.worker i, .worker i, .pass i, .worker i, .worker i] : List (Move σ)) := by
  unfold remaining
  cases w.phase with
  | holding outcome =>
      dsimp only
      split <;> simp
  | _ => simp

/-- What is left to do becomes less when the next of it is done, and never more. -/
def Shortens (i : WorkerId) (m : Move σ) (w next : Worker) : Prop :=
  (remaining i next : List (Move σ)).Sublist (remaining i w) ∧
    ∀ rest, remaining i w = m :: rest → (remaining i next).Sublist rest

theorem Shortens.sublist {i : WorkerId} {m : Move σ} {w next : Worker}
    (shortens : Shortens i m w next) {rest : List (Move σ)}
    (planned : (remaining i w).Sublist (m :: rest)) : (remaining i next).Sublist rest := by
  rcases List.sublist_cons_iff.mp planned with later | ⟨tail, first, later⟩
  · exact shortens.1.trans later
  · exact (shortens.2 tail first).trans later

/-! ## Moves of others -/

/-- What others leave of a worker still has to call its receiver. -/
theorem IsLeft.pending {w left : Worker} (isLeft : IsLeft w left) (pending : IsPending w) :
    IsPending left := by
  rcases isLeft with rfl | ⟨signal, passed, rfl⟩
  · exact pending
  · obtain ⟨_, rfl⟩ := eq_of_pass passed
    exact pending

theorem IsLeft.remaining_sublist {w left : Worker} (isLeft : IsLeft w left) (i : WorkerId) :
    (remaining i left : List (Move σ)).Sublist (remaining i w) := by
  rcases isLeft with rfl | ⟨signal, passed, rfl⟩
  · exact .refl _
  · obtain ⟨_, rfl⟩ := eq_of_pass passed
    unfold remaining
    dsimp only
    cases w.phase with
    | holding outcome =>
        simp only [if_true]
        split
        · exact .refl _
        · exact List.sublist_cons_self ..
    | _ => exact .refl _

/-- Of the moves a worker needs, only the going on of its caller is not its own. -/
theorem remaining_eq_cons {i : WorkerId} {w : Worker} {m : Move σ} {rest : List (Move σ)}
    (first : remaining i w = m :: rest) (foreign : m.isStepOf i = false) :
    m = .pass i ∧ (∃ outcome, w.phase = .holding outcome) ∧ w.signal.observed = false ∧
      rest = [.worker i, .worker i] := by
  have own : m ≠ .worker i := by
    rintro rfl
    simp [Move.isStepOf] at foreign
  unfold remaining at first
  cases phase : w.phase with
  | holding outcome =>
      rw [phase] at first
      dsimp only at first
      split at first
      · cases first
        exact absurd rfl own
      · next unobserved =>
          cases first
          exact ⟨rfl, ⟨outcome, rfl⟩, by simpa using unobserved, rfl⟩
  | executing | announcing outcome | delivering outcome =>
      rw [phase] at first
      cases first
      exact absurd rfl own
  | _ =>
      rw [phase] at first
      contradiction

/-- The caller goes on when he was told that the launch was tried. -/
theorem getElem?_move_pass {s : Surroundings σ} {sup : Supervisor σ} {i : WorkerId} {w : Worker}
    (found : sup.workers[i]? = some w) (notified : w.signal.notified = true) :
    (sup.move s (.pass i)).workers[i]? =
      some { w with signal := { w.signal with observed := true } } := by
  have passed : sup.move s (.pass i) =
      sup.updateWorker i ({ · with signal := { w.signal with observed := true } }) := by
    simp [move, passStart?, found, StartSignal.pass?, notified]
  rw [passed, getElem?_updateWorker, found]
  rfl

namespace Pursues

variable {s : Surroundings σ} {sup : Supervisor σ} {i : WorkerId} {receiver : Receiver}
  {a : Run × World σ} {w : Worker}

/-- Others' moves keep the two together. -/
theorem move_of_foreign (pursues : Pursues sup i receiver a w) {m : Move σ}
    (foreign : m.isStepOf i = false) :
    ∃ left, Pursues (sup.move s m) i receiver (attendMove s i sup m a) left ∧
      Shortens i m w left := by
  obtain ⟨left, found, isLeft⟩ := Leaves.move s sup foreign w pursues.found
  have worlds : Alike (sup.moveTo a.2) sup := ⟨a.2, pursues.alike, rfl⟩
  have sameRun : left.run = w.run ∧ left.receiver = w.receiver := by
    rcases isLeft with rfl | ⟨signal, _, rfl⟩ <;> exact ⟨rfl, rfl⟩
  refine ⟨left, ?_, isLeft.remaining_sublist i, ?_⟩
  · constructor
    · exact found
    · rw [sameRun.1, pursues.run_eq, attendMove, foreign]
      rfl
    · rw [sameRun.2, pursues.receiver_eq]
    · exact isLeft.pending pursues.pending
    · rw [attendMove, foreign]
      exact (worlds.move s m).world
  · intro rest first
    obtain ⟨rfl, ⟨outcome, phase⟩, _, rfl⟩ := remaining_eq_cons first foreign
    have notified : w.signal.notified = true := by
      have pending := pursues.pending
      simp only [IsPending, phase] at pending
      exact pending.2
    rw [getElem?_move_pass pursues.found notified] at found
    cases found
    simp [remaining, phase]

end Pursues

/-! ## Moves of the worker -/

theorem phase_of_running {w : Worker} (pending : IsPending w) (running : w.run.outcome? = none) :
    w.phase = .executing := by
  unfold IsPending at pending
  cases phase : w.phase with
  | executing => rfl
  | holding outcome =>
      rw [phase] at pending
      rw [pending.1] at running
      contradiction
  | announcing outcome | delivering outcome =>
      rw [phase] at pending
      rw [pending] at running
      contradiction
  | _ =>
      rw [phase] at pending
      contradiction

/-- A step of an execution calls no receiver. -/
theorem trace_step (s : Surroundings σ) (r : Run) (w : World σ) :
    ∃ news, (r.step s w).2.trace = w.trace ++ news ∧ news.filter Event.isCallback = [] := by
  refine ⟨Moment.calls { run := r, world := w }, ?_, ?_⟩
  · exact Moment.trace_next s { run := r, world := w }
  · rw [List.filter_eq_nil_iff]
    intro event called
    rw [Moment.isCallback_of_mem_calls called]
    exact Bool.false_ne_true

namespace Pursues

variable {s : Surroundings σ} {sup : Supervisor σ} {i : WorkerId} {receiver : Receiver}
  {a : Run × World σ} {w : Worker}

/-- While its execution has not ended, the worker takes the steps of the execution that is
waited for. -/
theorem step_of_running (pursues : Pursues sup i receiver a w) (running : a.1.outcome? = none) :
    (∃ next, Pursues (sup.move s (.worker i)) i receiver (attendMove s i sup (.worker i) a) next) ∧
      ∀ moves, callbacks s i sup (.worker i :: moves) =
        callbacks s i (sup.move s (.worker i)) moves := by
  obtain ⟨r, v⟩ := a
  have runEq : w.run = r := pursues.run_eq
  have workerRuns : w.run.outcome? = none := by
    rw [runEq]
    exact running
  have phase := phase_of_running pursues.pending workerRuns
  obtain ⟨sameRun, sameWorld⟩ := pursues.alike.step s r
  have moved := move_of_executing (s := s) pursues.found phase workerRuns
  have attended : attendMove s i sup (.worker i) (r, v) =
      if r.isBlocked && (r.step s v).1.isBlocked then (r, v) else r.step s v := by
    simp [attendMove, Move.isStepOf]
  change (r.step s v).1 = (r.step s sup.world).1 at sameRun
  rw [runEq] at moved
  rw [sameRun] at attended
  cases blocked : r.isBlocked && (r.step s sup.world).1.isBlocked with
  | true =>
      rw [blocked] at moved attended
      simp only [if_true] at moved attended
      constructor
      · rw [moved, attended]
        exact ⟨w, pursues⟩
      · intro moves
        apply callbacks_cons_of_quiet
        rw [moved]
  | false =>
      rw [blocked] at moved attended
      simp only [Bool.false_eq_true, if_false] at moved attended
      constructor
      · rw [moved, attended]
        have nextFound := getElem?_updateWorker (sup.moveTo (r.step s sup.world).2) i (fun w' =>
          { w' with
            run := (r.step s sup.world).1
            signal := if (r.step s sup.world).1.announced then w.signal.notify else w.signal })
        rw [workers_moveTo, pursues.found] at nextFound
        refine ⟨_, nextFound, sameRun.symm, pursues.receiver_eq, ?_, sameWorld⟩
        simp only [IsPending, phase]
      · intro moves
        obtain ⟨news, trace, silent⟩ := trace_step s r sup.world
        have added : (sup.move s (.worker i)).world.trace = sup.world.trace ++ news := by
          rw [moved]
          exact trace
        rw [callbacks_cons_of_trace added, silent]
        rfl

/-- A worker whose execution has ended does the next of what is left to do. -/
theorem goes_on (pursues : Pursues sup i receiver a w) {f : Worker → Worker}
    {later : List (Move σ)} (moved : sup.move s (.worker i) = sup.updateWorker i f)
    (same : (f w).run = w.run ∧ (f w).receiver = w.receiver) (pending : IsPending (f w))
    (first : remaining i w = .worker i :: later) (shorter : (remaining i (f w)).Sublist later) :
    (∃ next, Pursues (sup.move s (.worker i)) i receiver a next ∧
        Shortens i (.worker i : Move σ) w next) ∧
      (sup.move s (.worker i)).world.trace = sup.world.trace := by
  have found := getElem?_updateWorker sup i f
  rw [pursues.found] at found
  rw [moved]
  refine ⟨⟨f w, ⟨found, ?_, ?_, pending, pursues.alike⟩, ?_, ?_⟩, rfl⟩
  · rw [same.1, pursues.run_eq]
  · rw [same.2, pursues.receiver_eq]
  · rw [first]
    exact shorter.trans (List.sublist_cons_self ..)
  · intro rest planned
    rw [first, List.cons.injEq] at planned
    rw [← planned.2]
    exact shorter

/-- After its execution has ended, the worker's steps lead to the call of its receiver. -/
theorem step_of_ended {outcome : Outcome} (pursues : Pursues sup i receiver a w)
    (ended : a.1.outcome? = some outcome) :
    ((∃ next, Pursues (sup.move s (.worker i)) i receiver a next ∧
          Shortens i (.worker i : Move σ) w next) ∧
        (sup.move s (.worker i)).world.trace = sup.world.trace) ∨
      (sup.move s (.worker i)).HasDelivered i ∧
        (sup.move s (.worker i)).world.trace =
          sup.world.trace ++ [report receiver.id outcome] := by
  have workerEnded : w.run.outcome? = some outcome := by
    rw [pursues.run_eq]
    exact ended
  have pending := pursues.pending
  unfold IsPending at pending
  cases phase : w.phase with
  | executing =>
      have first : (remaining i w : List (Move σ)) =
          [.worker i, .worker i, .pass i, .worker i, .worker i] := by
        simp [remaining, phase]
      exact .inl (pursues.goes_on (move_of_ended pursues.found phase workerEnded) ⟨rfl, rfl⟩
        workerEnded first (.refl _))
  | announcing held =>
      rw [phase] at pending
      have first : (remaining i w : List (Move σ)) =
          [.worker i, .pass i, .worker i, .worker i] := by
        simp [remaining, phase]
      refine .inl (pursues.goes_on (move_of_announcing pursues.found phase) ⟨rfl, rfl⟩
        ⟨pending, rfl⟩ first ?_)
      -- The caller may have gone on already, as the launch itself lets him.
      simp only [remaining]
      split
      · exact List.sublist_cons_self ..
      · exact .refl _
  | holding held =>
      rw [phase] at pending
      have moved := move_of_holding (s := s) pursues.found phase
      cases observed : w.signal.observed with
      | true =>
          simp only [StartSignal.mayDeliver, observed, if_true] at moved
          have first : (remaining i w : List (Move σ)) = [.worker i, .worker i] := by
            simp [remaining, phase, observed]
          exact .inl (pursues.goes_on moved ⟨rfl, rfl⟩ pending.1 first (.refl _))
      | false =>
          simp only [StartSignal.mayDeliver, observed, Bool.false_eq_true, if_false] at moved
          rw [moved]
          refine .inl ⟨⟨w, pursues, .refl _, ?_⟩, rfl⟩
          intro rest first
          simp [remaining, phase, observed] at first
  | delivering held =>
      rw [phase] at pending
      have moved := move_of_delivering (s := s) pursues.found phase
      have same : held = outcome := Option.some.inj (pending.symm.trans workerEnded)
      rw [moved, same, pursues.receiver_eq]
      refine .inr ⟨?_, trace_deliver sup w.run receiver outcome⟩
      have found := getElem?_updateWorker (sup.deliver w.run receiver outcome) i
        ({ · with phase := .reacting receiver.reactions })
      rw [workers_deliver, pursues.found] at found
      exact ⟨_, found, rfl⟩
  | _ =>
      rw [phase] at pending
      contradiction

/-- A move either keeps the two together, or is the worker's callback. -/
theorem move (pursues : Pursues sup i receiver a w) (s : Surroundings σ) (m : Move σ) :
    (∃ next, Pursues (sup.move s m) i receiver (attendMove s i sup m a) next ∧
        (∀ outcome, a.1.outcome? = some outcome → Shortens i m w next) ∧
        ∀ moves, callbacks s i sup (m :: moves) = callbacks s i (sup.move s m) moves) ∨
      m = .worker i ∧ ∃ outcome, a.1.outcome? = some outcome ∧
        (sup.move s m).HasDelivered i ∧
        (sup.move s m).world.trace = sup.world.trace ++ [report receiver.id outcome] := by
  cases own : m.isStepOf i with
  | false =>
      obtain ⟨left, still, shortens⟩ := pursues.move_of_foreign (s := s) own
      refine .inl ⟨left, still, ?_, ?_⟩
      · intro _ _
        exact shortens
      · exact callbacks_cons_of_foreign s sup own
  | true =>
      obtain rfl := isStepOf_eq_true own
      cases ended : a.1.outcome? with
      | none =>
          obtain ⟨⟨next, still⟩, silent⟩ := pursues.step_of_running (s := s) ended
          exact .inl ⟨next, still, nofun, silent⟩
      | some outcome =>
          rw [attendMove_of_ended s i sup ended]
          rcases pursues.step_of_ended (s := s) ended with
            ⟨⟨next, still, shortens⟩, trace⟩ | ⟨delivered, trace⟩
          · refine .inl ⟨next, still, ?_, ?_⟩
            · intro _ _
              exact shortens
            · exact callbacks_cons_of_quiet trace
          · exact .inr ⟨rfl, outcome, rfl, delivered, trace⟩

theorem isInStep (pursues : Pursues sup i receiver a w) : sup.IsInStep a.2 :=
  ⟨pursues.alike.launches.symm, pursues.alike.trace.symm⟩

/-- However a supervisor goes on, its worker either keeps up with the execution that is
waited for, or has made one callback, after that execution had ended. -/
theorem play (pursues : Pursues sup i receiver a w) (s : Surroundings σ)
    (moves : List (Move σ)) :
    (∃ next, Pursues (sup.play s moves) i receiver (attend s i sup moves a) next ∧
        callbacks s i sup moves = []) ∨
      ∃ before after outcome, moves = before ++ .worker i :: after ∧
        (attend s i sup before a).1.outcome? = some outcome ∧
        CallsAfter s i sup before (attend s i sup before a).2 (report receiver.id outcome) ∧
        (sup.play s (before ++ [.worker i])).HasDelivered i ∧
        callbacks s i sup moves = [report receiver.id outcome] := by
  -- The worlds are alike up to the callback only, so the run is cut in two there.
  induction moves generalizing sup a w with
  | nil => exact .inl ⟨w, pursues, rfl⟩
  | cons m moves inductionHypothesis =>
      rcases pursues.move s m with
        ⟨next, still, _, silent⟩ | ⟨rfl, outcome, ended, delivered, trace⟩
      · rcases inductionHypothesis still with
          ⟨last, stillLast, silentLater⟩ |
            ⟨before, after, outcome, rfl, ended, callsAfter, delivered, called⟩
        · exact .inl ⟨last, stillLast, (silent moves).trans silentLater⟩
        · refine .inr ⟨m :: before, after, outcome, rfl, ended, ?_, delivered, ?_⟩
          · exact ⟨(silent before).trans callsAfter.silent, callsAfter.inStep, callsAfter.trace⟩
          · exact (silent _).trans called
      · refine .inr ⟨[], moves, outcome, rfl, ended, ⟨rfl, pursues.isInStep, trace⟩, delivered, ?_⟩
        rw [callbacks_cons_of_trace trace, delivered.callbacks_eq_nil]
        simp

/-- Once its execution has ended, a worker makes its callback when it has had its turns
and its caller has gone on. -/
theorem callbacks_of_remaining (pursues : Pursues sup i receiver a w) {outcome : Outcome}
    (ended : a.1.outcome? = some outcome) {moves : List (Move σ)}
    (planned : (remaining i w).Sublist moves) :
    callbacks s i sup moves = [report receiver.id outcome] := by
  induction moves generalizing sup a w with
  | nil =>
      have nothing := List.sublist_nil.mp planned
      exact absurd nothing (remaining_ne_nil pursues.pending i)
  | cons m moves inductionHypothesis =>
      rcases pursues.move s m with
        ⟨next, still, shortens, silent⟩ | ⟨rfl, told, endedWith, delivered, trace⟩
      · rw [silent]
        apply inductionHypothesis still
        · exact outcome_attendMove s i sup m ended
        · exact (shortens outcome ended).sublist planned
      · rw [callbacks_cons_of_trace trace, delivered.callbacks_eq_nil,
          Option.some.inj (ended.symm.trans endedWith)]
        simp

end Pursues

/-! ## Executions that are carried to their ends -/

/-- Along these moves an execution that is waited for comes from one state to another, and
the worker keeps up with it. -/
structure Leads (s : Surroundings σ) (i : WorkerId) (receiver : Receiver) (sup : Supervisor σ)
    (a : Run × World σ) (moves : List (Move σ)) (b : Run × World σ) : Prop where
  /-- It comes from one state to the other. -/
  attended : attend s i sup moves a = b
  /-- There is no callback. -/
  silent : callbacks s i sup moves = []
  /-- The worker has kept up. -/
  pursues : ∃ w, Pursues (sup.play s moves) i receiver b w

namespace Leads

variable {s : Surroundings σ} {sup : Supervisor σ} {i : WorkerId} {receiver : Receiver}
  {a b c : Run × World σ} {w : Worker}

theorem nil (pursues : Pursues sup i receiver a w) : Leads s i receiver sup a [] a :=
  ⟨rfl, rfl, w, pursues⟩

theorem append {moves more : List (Move σ)} (first : Leads s i receiver sup a moves b)
    (second : Leads s i receiver (sup.play s moves) b more c) :
    Leads s i receiver sup a (moves ++ more) c := by
  constructor
  · rw [attend_append, first.attended, second.attended]
  · rw [callbacks_append, first.silent, second.silent]
    rfl
  · rw [play_append]
    exact second.pursues

theorem foreign (pursues : Pursues sup i receiver a w) {m : Move σ}
    (others : m.isStepOf i = false) :
    Leads s i receiver sup a [m] (a.1, ((sup.moveTo a.2).move s m).world) := by
  obtain ⟨left, still, _⟩ := pursues.move_of_foreign (s := s) others
  have attended : attendMove s i sup m a = (a.1, ((sup.moveTo a.2).move s m).world) := by
    rw [attendMove, others]
    rfl
  rw [attended] at still
  exact ⟨attended, callbacks_cons_of_foreign s sup others [], left, still⟩

theorem disturb (pursues : Pursues sup i receiver a w) (d : Disturbance σ) :
    Leads s i receiver sup a [.disturb d] (a.1, d.apply s a.2) :=
  foreign pursues rfl

end Leads

/-- A wait that is not answered changes nothing but the collaborators. -/
theorem exists_eq_of_unanswered (s : Surroundings σ) {r : Run} {w : World σ}
    (before : r.isBlocked = true) (after : (r.step s w).1.isBlocked = true) :
    ∃ change : σ → σ, r.step s w = (r, { w with outside := change w.outside }) := by
  rcases r with ⟨plan, stage, announced⟩
  cases stage with
  | waiting c interrupted entered =>
      obtain rfl : entered = true := before
      refine ⟨fun outside => (s.resumeWait c.process outside).2, ?_⟩
      simp only [Run.step, World.resumeWait, if_true] at after ⊢
      cases answer : (s.resumeWait c.process w.outside).1 with
      | pending => rfl
      | exited exitValue =>
          rw [answer] at after
          contradiction
      | failed fault =>
          rw [answer] at after
          cases fault <;> cases interrupted <;> contradiction
  | _ => contradiction

/-- The moves that lead an execution as far as it gets by itself. -/
theorem exists_leads_advance (s : Surroundings σ) (fuel : Nat) {sup : Supervisor σ}
    {i : WorkerId} {receiver : Receiver} {a : Run × World σ} {w : Worker}
    (pursues : Pursues sup i receiver a w) :
    ∃ moves, Leads s i receiver sup a moves (a.1.advance s fuel a.2) := by
  induction fuel generalizing sup a w with
  | zero => exact ⟨[], .nil pursues⟩
  | succ fuel inductionHypothesis =>
      unfold Run.advance
      cases running : a.1.outcome? with
      | some outcome => exact ⟨[], .nil pursues⟩
      | none =>
          dsimp only
          -- Nobody asks a worker's process again while its wait is unanswered, but the asking
          -- may tell on the collaborators, so it stands among the moves as a disturbance.
          have oneStep : ∃ moves, Leads s i receiver sup a moves (a.1.step s a.2) := by
            cases blocked : a.1.isBlocked && (a.1.step s a.2).1.isBlocked with
            | false =>
                obtain ⟨still, silent⟩ := pursues.step_of_running (s := s) running
                have attended : attendMove s i sup (.worker i) a = a.1.step s a.2 := by
                  simp [attendMove, Move.isStepOf, blocked]
                rw [attended] at still
                exact ⟨[.worker i], attended, silent [], still⟩
            | true =>
                rw [Bool.and_eq_true] at blocked
                obtain ⟨change, same⟩ := exists_eq_of_unanswered s blocked.1 blocked.2
                rw [same]
                exact ⟨[.disturb (.outside change)], .disturb pursues (.outside change)⟩
          obtain ⟨moves, leads⟩ := oneStep
          split
          · exact ⟨moves, leads⟩
          · obtain ⟨next, still⟩ := leads.pursues
            obtain ⟨more, later⟩ := inductionHypothesis still
            exact ⟨moves ++ more, leads.append later⟩

/-- Workers that have all finished take no steps. -/
theorem firstStep_of_allFinished (s : Surroundings σ) {sup : Supervisor σ}
    (finished : sup.allFinished = true) : sup.firstStep? s = none := by
  unfold firstStep?
  apply List.findSome?_eq_none_iff.mpr
  intro j _
  unfold stepWorker?
  cases found : sup.workers[j]? with
  | none => rfl
  | some w =>
      have phase : w.phase = .finished := by
        have all := List.all_eq_true.mp finished
        exact Worker.isFinished_iff.mp (all w (List.mem_of_getElem? found))
      simp [phase]

/-- Where all workers have finished, nothing but timers is settled. -/
theorem exists_leads_settle (s : Surroundings σ) (fuel : Nat) {sup caller : Supervisor σ}
    {i : WorkerId} {receiver : Receiver} {a : Run × World σ} {w : Worker}
    (pursues : Pursues sup i receiver a w) (finished : caller.allFinished = true)
    (here : caller.world = a.2) :
    ∃ moves v, caller.settle s fuel = caller.moveTo v ∧
      Leads s i receiver sup a moves (a.1, v) := by
  induction fuel generalizing sup caller a w with
  | zero =>
      refine ⟨[], a.2, ?_, .nil pursues⟩
      rw [← here]
      rfl
  | succ fuel inductionHypothesis =>
      unfold settle
      rw [firstStep_of_allFinished s finished]
      dsimp only
      cases caller.world.dueWatchdog? with
      | none =>
          refine ⟨[], a.2, ?_, .nil pursues⟩
          rw [← here]
          rfl
      | some k =>
          have expired := Leads.disturb (s := s) pursues (.timer k)
          obtain ⟨next, still⟩ := expired.pursues
          have finishedToo : (caller.expire s k).allFinished = true := finished
          have hereToo : (caller.expire s k).world = a.2.expire s k := by
            rw [expire, here]
          obtain ⟨more, v, settled, leads⟩ := inductionHypothesis still finishedToo hereToo
          exact ⟨_, v, settled, expired.append leads⟩

/-- The moves that lead an execution to its end as its caller does who waits for it. -/
theorem exists_leads_complete (s : Surroundings σ) (fuel : Nat) {sup caller done : Supervisor σ}
    {i : WorkerId} {receiver : Receiver} {a : Run × World σ} {w : Worker} {outcome : Outcome}
    (pursues : Pursues sup i receiver a w)
    (completed : caller.complete s fuel a.1 = (some outcome, done))
    (finished : caller.allFinished = true) (here : caller.world = a.2) :
    ∃ moves b, Leads s i receiver sup a moves b ∧ b.1.outcome? = some outcome ∧
      b.2 = done.world := by
  induction fuel generalizing sup caller a w with
  | zero => simp [complete] at completed
  | succ fuel inductionHypothesis =>
      obtain ⟨moves, advanced⟩ := exists_leads_advance s fuel pursues
      unfold complete at completed
      rw [here] at completed
      generalize a.1.advance s fuel a.2 = b at advanced completed
      obtain ⟨next, still⟩ := advanced.pursues
      dsimp only at completed
      cases ended : b.1.outcome? with
      | some known =>
          rw [ended] at completed
          cases completed
          exact ⟨moves, b, advanced, ended, rfl⟩
      | none =>
          rw [ended] at completed
          dsimp only at completed
          cases due : b.2.dueWatchdog? with
          | some k =>
              simp only [due] at completed
              have expired := Leads.disturb (s := s) still (.timer k)
              obtain ⟨_, later⟩ := expired.pursues
              have finishedToo : (expire s (caller.moveTo b.2) k).allFinished = true := finished
              obtain ⟨more, v, settled, leads⟩ :=
                exists_leads_settle s fuel later finishedToo rfl
              change complete s fuel b.1 (settle s fuel (expire s (caller.moveTo b.2) k)) = _
                at completed
              rw [settled] at completed
              obtain ⟨_, last⟩ := leads.pursues
              obtain ⟨rest, c, onward, endedAt, world⟩ :=
                inductionHypothesis last completed finished rfl
              exact ⟨_, c, advanced.append (expired.append (leads.append onward)), endedAt, world⟩
          | none =>
              cases following : b.2.nextInstant? s with
              | none =>
                  simp [due, following] at completed
              | some t =>
                  simp only [due, following] at completed
                  have elapsed := Leads.disturb (s := s) still (.time t)
                  obtain ⟨_, later⟩ := elapsed.pursues
                  obtain ⟨rest, c, leads, endedAt, world⟩ :=
                    inductionHypothesis later completed finished rfl
                  exact ⟨_, c, advanced.append (elapsed.append leads), endedAt, world⟩

/-- Asking for a background execution begins one. -/
theorem pursues_of_submit {s : Surroundings σ} {sup begun : Supervisor σ} {caller : Caller}
    {command : CommandLine} {environment : Option Environment} {receiver : Receiver}
    {i : WorkerId}
    (asked : sup.submit s caller command environment (some receiver) = .ok (i, begun)) :
    ∃ w, Pursues begun i receiver
      ({ plan := sup.settings.plan command environment }, sup.world) w := by
  obtain ⟨_, rfl, given, same, workers, world⟩ := submit_eq_ok asked
  cases same
  refine ⟨{ run := { plan := sup.settings.plan command environment }, receiver }, ?_, rfl, rfl,
    trivial, ?_⟩
  · rw [workers]
    exact List.getElem?_concat_length
  · rw [world]
    cases sup.settings.watchdog with
    | none => exact World.Alike.refl sup.world
    | some k => exact World.Alike.forgetLaunch sup.world k

/-- Nothing happens to an execution that has ended while its worker has its turns and its
caller goes on. -/
theorem attend_of_ended (s : Surroundings σ) (i : WorkerId) (sup : Supervisor σ)
    {a : Run × World σ} {outcome : Outcome} (ended : a.1.outcome? = some outcome)
    {moves : List (Move σ)} (turns : ∀ m ∈ moves, m = .worker i ∨ m = .pass i) :
    attend s i sup moves a = a := by
  induction moves generalizing sup with
  | nil => rfl
  | cons m moves inductionHypothesis =>
      have still : attendMove s i sup m a = a := by
        rcases turns m List.mem_cons_self with rfl | rfl
        · exact attendMove_of_ended s i sup ended
        · simp [attendMove, Move.isStepOf, world_move_pass]
      rw [attend, still]
      exact inductionHypothesis _ fun m later => turns m (List.mem_cons_of_mem _ later)

/-- A callback that comes when its execution has been led to its end. -/
theorem Leads.exists_callsAfter {s : Surroundings σ} {i : WorkerId} {receiver : Receiver}
    {sup : Supervisor σ} {a b : Run × World σ} {moves : List (Move σ)} {outcome : Outcome}
    (leads : Leads s i receiver sup a moves b) (ended : b.1.outcome? = some outcome) :
    ∃ before, CallsAfter s i sup before b.2 (report receiver.id outcome) := by
  obtain ⟨w, pursues⟩ := leads.pursues
  have turns : ∀ m ∈ remaining i w, m = (.worker i : Move σ) ∨ m = .pass i := by
    unfold remaining
    split
    case h_3 => split <;> simp
    all_goals simp
  have called := pursues.callbacks_of_remaining (s := s) ended (.refl (remaining i w))
  rcases pursues.play s (remaining i w) with
    ⟨_, _, silent⟩ | ⟨before, after, told, planned, endedWith, callsAfter, _, _⟩
  · rw [silent] at called
    contradiction
  · have still : attend s i (sup.play s moves) before b = b := by
      apply attend_of_ended s i _ ended
      intro m early
      apply turns m
      rw [planned]
      exact List.mem_append_left _ early
    rw [still] at endedWith callsAfter
    obtain rfl : told = outcome := Option.some.inj (endedWith.symm.trans ended)
    refine ⟨moves ++ before, ?_, ?_, ?_⟩
    · rw [callbacks_append, leads.silent, callsAfter.silent]
      rfl
    · rw [play_append]
      exact callsAfter.inStep
    · rw [List.append_assoc, play_append, play_append s sup moves before]
      exact callsAfter.trace

/-- A background execution agrees with the same execution that its caller waits for, and
its receiver is told once.

Along any moves, either the receiver has not been told, and the launcher and the other
collaborators have got the same orders and calls as by the execution that is waited for; or
it was told once, in one step of the worker, when that execution had ended, and up to
that step the orders and calls were the same.  What it was told is the outcome.  Once the
execution has ended, the receiver is told as soon as the worker has had four turns and
the caller has gone on in between.  If no worker is left from before, what `execute`
comes to is among what the receiver may be told, after the same orders and calls. -/
theorem background_agrees {s : Surroundings σ} {sup begun : Supervisor σ} {caller : Caller}
    {command : CommandLine} {environment : Option Environment} {receiver : Receiver}
    {i : WorkerId}
    (asked : sup.submit s caller command environment (some receiver) = .ok (i, begun)) :
    let awaited := fun moves =>
      attend s i begun moves ({ plan := sup.settings.plan command environment }, sup.world)
    (∀ moves,
      callbacks s i begun moves = [] ∧ (begun.play s moves).IsInStep (awaited moves).2 ∨
        ∃ before after outcome told, moves = before ++ .worker i :: after ∧
          callbacks s i begun moves = [told] ∧
          CallsAfter s i begun before (awaited before).2 told ∧
          (awaited before).1.outcome? = some outcome ∧ Reports receiver.id outcome told) ∧
    (∀ moves rest outcome, (awaited moves).1.outcome? = some outcome →
      [.worker i, .worker i, .pass i, .worker i, .worker i].Sublist rest →
        ∃ told, callbacks s i begun (moves ++ rest) = [told] ∧
          Reports receiver.id outcome told) ∧
    (∀ fuel outcome done, sup.allFinished = true →
      sup.execute s fuel command environment = (some outcome, done) →
        ∃ before told, CallsAfter s i begun before done.world told ∧
          Reports receiver.id outcome told) := by
  intro awaited
  obtain ⟨w, pursues⟩ := pursues_of_submit asked
  refine ⟨?_, ?_, ?_⟩
  · intro moves
    rcases pursues.play s moves with
      ⟨_, still, silent⟩ | ⟨before, after, outcome, split, ended, callsAfter, _, called⟩
    · exact .inl ⟨silent, still.isInStep⟩
    · exact .inr ⟨before, after, outcome, _, split, called, callsAfter, ended,
        reports_report receiver.id outcome⟩
  · intro moves rest outcome ended turns
    refine ⟨_, ?_, reports_report receiver.id outcome⟩
    rw [callbacks_append]
    rcases pursues.play s moves with
      ⟨next, still, silent⟩ | ⟨before, after, told, rfl, endedWith, _, delivered, called⟩
    · rw [silent, List.nil_append]
      exact still.callbacks_of_remaining ended ((remaining_sublist i next).trans turns)
    · have same : told = outcome := by
        have lasting := outcome_attend s i (begun.play s before) (.worker i :: after) endedWith
        rw [← attend_append] at lasting
        exact Option.some.inj (lasting.symm.trans ended)
      have later := delivered.callbacks_eq_nil (s := s) (after ++ rest)
      rw [callbacks_append, ← play_append, List.append_assoc, List.append_eq_nil_iff] at later
      rw [called, same]
      exact congrArg ([report receiver.id outcome] ++ ·) later.2
  · intro fuel outcome done finished executed
    have checked := (submit_eq_ok asked).1
    simp only [execute, checked] at executed
    obtain ⟨moves, b, leads, ended, world⟩ :=
      exists_leads_complete s fuel pursues executed finished rfl
    obtain ⟨before, callsAfter⟩ := leads.exists_callsAfter ended
    rw [world] at callsAfter
    exact ⟨before, _, callsAfter, reports_report receiver.id outcome⟩

open Script in
/-- A supervisor whose sessions cannot be stopped: what they raise then is of no known
kind. -/
def jammed : Supervisor Cast where
  world := Cast.world { handlers := [{ script := { fault := fun
    | .stop => some .alien
    | _ => none } }] }
  settings :=
    { handler := 0, watchdog := some 0, destroyer := some 0, journal := 0, directory := [] }

open Script in
/-- What the caller would have got there, the receiver is told as the cause of an execution
failure; it is told once, though it raises a fault itself. -/
theorem background_agrees_jammed :
    let receiver : Receiver := { id := { index := 0 }, reactions := [.raise .alien] }
    let turns : List (Move Cast) := List.replicate 14 (.worker 0)
    let more : List (Move Cast) :=
      [.worker 0, .worker 0, .pass 0, .worker 0, .worker 0] ++ List.replicate 7 (.worker 0)
    ∃ begun, jammed.submit Cast.rehearsal (.outside 0) rehearsed none (some receiver) =
        .ok (0, begun) ∧
      (jammed.execute Cast.rehearsal 40 rehearsed none).1 = some (.fault .alien) ∧
      ∃ told, callbacks Cast.rehearsal 0 begun (turns ++ more) = [.failed receiver.id told] ∧
        told.cause? = some .alien ∧ told.message = utf8 "Execution failed (unknown error)" := by
  intro receiver turns more
  obtain ⟨_, delivers, _⟩ := background_agrees
    (rfl : jammed.submit Cast.rehearsal (.outside 0) rehearsed none (some receiver) = .ok (0, _))
  obtain ⟨event, called, reports⟩ := delivers turns more (.fault .alien) (by decide)
    (List.sublist_append_left ..)
  obtain ⟨told, rfl, conveys⟩ := reports.failed_of_fault .alien rfl
  refine ⟨_, rfl, by decide, told, called, conveys.cause?_told rfl, ?_⟩
  exact (conveys.message_told rfl).trans (by decide)

end Supervisor

end Overseer
