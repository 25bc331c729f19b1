import Overseer.Proofs.Execution.Frame

/-!
# Courses of executions

An execution finds the world in some state at each of its steps.  That need not
be the state in which it left the world: timers end, others take their steps.
So a course is given by the worlds an execution finds, one for each step, and
nothing is assumed about them.

What an execution does next depends on its stage and on what the call of the
step came to, and on nothing else.  `Stage.after` is that dependence, and
`stage_step` says that `Run.step` follows it.
-/

namespace Overseer

/-- What the call of a step came to. -/
inductive Reply
  /-- The step made no call, or one that has nothing to tell. -/
  | done
  /-- A process was launched. -/
  | launched (p : ProcessRef)
  /-- A session was opened. -/
  | opened (session : SessionId)
  /-- The process has ended with an exit value. -/
  | exited (exitValue : Int)
  /-- The process has not ended. -/
  | pending
  /-- The watchdog holds this fault, or none. -/
  | held (fault : Option Fault)
  /-- The call raised a fault. -/
  | raised (fault : Fault)
deriving DecidableEq

namespace Reply

/-- The reply of a call that returns or raises. -/
def ofCall {α : Type} (returned : α → Reply) : Except Fault α → Reply
  | .ok a => returned a
  | .error fault => .raised fault

/-- The reply of a wait. -/
def ofWait : WaitReply Fault → Reply
  | .exited exitValue => .exited exitValue
  | .failed fault => .raised fault
  | .pending => .pending

/-- The fault that was raised. -/
def fault? : Reply → Option Fault
  | .raised fault => some fault
  | _ => none

/-- Whether the call raised no fault of an unknown kind. -/
def isStandard : Reply → Bool
  | .raised fault => fault.isStandard
  | _ => true

/-- The next stage if a standard fault makes the execution give up its process. -/
def orAbandon (c : Custody) (next : Stage) : Reply → Stage
  | .raised fault => if fault.isStandard then .abandoning c fault else .leaving c (.fault fault)
  | _ => next

/-- The next stage if a standard fault changes nothing about it. -/
def orLeave (c : Custody) (next : Stage) : Reply → Stage
  | .raised fault => if fault.isStandard then next else .leaving c (.fault fault)
  | _ => next

end Reply

theorem Reply.orAbandon_eq (c : Custody) (next : Stage) (reply : Reply) :
    reply.orAbandon c next = next ∨ (∃ fault, reply.orAbandon c next = .abandoning c fault) ∨
      reply.isStandard = false ∧ ∃ fault, reply.orAbandon c next = .leaving c (.fault fault) := by
  cases reply with
  | raised fault =>
      cases standard : fault.isStandard with
      | true => exact .inr (.inl ⟨fault, by simp [orAbandon, standard]⟩)
      | false => exact .inr (.inr ⟨standard, fault, by simp [orAbandon, standard]⟩)
  | _ => exact .inl rfl

theorem Reply.orLeave_eq (c : Custody) (next : Stage) (reply : Reply) :
    reply.orLeave c next = next ∨
      reply.isStandard = false ∧ ∃ fault, reply.orLeave c next = .leaving c (.fault fault) := by
  cases reply with
  | raised fault =>
      cases standard : fault.isStandard with
      | true => exact .inl (by simp [orLeave, standard])
      | false => exact .inr ⟨standard, fault, by simp [orLeave, standard]⟩
  | _ => exact .inl rfl

/-- What an execution holds once it has ended its watch, if there is one. -/
def Custody.unwatched (plan : Plan) (c : Custody) : Custody :=
  match c.watched, plan.watchdog with
  | true, some _ => { c with watched := false }
  | _, _ => c

theorem Reply.orLeave_of_isStandard {c : Custody} {next : Stage} {reply : Reply}
    (standard : reply.isStandard = true) : reply.orLeave c next = next := by
  rcases reply.orLeave_eq c next with eq | ⟨alien, _⟩
  · exact eq
  · simp [standard] at alien

@[simp]
theorem Custody.process_unwatched (plan : Plan) (c : Custody) :
    (c.unwatched plan).process = c.process := by
  unfold unwatched
  split <;> rfl

@[simp]
theorem Custody.session_unwatched (plan : Plan) (c : Custody) :
    (c.unwatched plan).session = c.session := by
  unfold unwatched
  split <;> rfl

@[simp]
theorem Custody.flowing_unwatched (plan : Plan) (c : Custody) :
    (c.unwatched plan).flowing = c.flowing := by
  unfold unwatched
  split <;> rfl

@[simp]
theorem Custody.enlisted_unwatched (plan : Plan) (c : Custody) :
    (c.unwatched plan).enlisted = c.enlisted := by
  unfold unwatched
  split <;> rfl

/-- The stage after a step, given what the call of the step came to. -/
def Stage.after (plan : Plan) (convention : Int → Bool) : Stage → Reply → Stage
  | .launching, .launched p => .opening p
  | .launching, .raised fault => .ended (.fault fault)
  | .opening p, .opened session => .attaching { process := p, session } .input
  | .opening p, .raised fault => .releasing p (.fault fault)
  | .attaching c stream, reply => reply.orAbandon c (Run.afterAttaching c stream)
  | .starting c, reply => reply.orAbandon c (.enlisting { c with flowing := true })
  | .enlisting c, reply =>
      match plan.destroyer with
      | none => .watching c
      | some _ =>
          reply.orAbandon { c with enlisted := true } (.watching { c with enlisted := true })
  | .watching c, reply =>
      match plan.watchdog with
      | none => .waiting c false false
      | some _ => reply.orAbandon c (.waiting { c with watched := true } false false)
  | .waiting c interrupted _, .pending => .waiting c interrupted true
  | .waiting c _ _, .exited exitValue => .ending c exitValue
  | .waiting c interrupted _, .raised .interrupted =>
      if interrupted then .waiting c true false else .killing c
  | .waiting c interrupted entered, reply =>
      reply.orAbandon c (.waiting c interrupted entered)
  | .killing c, reply => reply.orAbandon c (.waiting c true false)
  | .abandoning c fault, reply => reply.orLeave c (.unwatching c fault)
  | .unwatching c fault, _ => .halting (c.unwatched plan) fault
  | .halting c fault, reply => reply.orLeave c (.leaving c (.fault fault))
  | .ending c exitValue, _ => .stopping (c.unwatched plan) exitValue
  | .stopping c exitValue, reply =>
      reply.orLeave c (.closing c exitValue reply.fault? .output)
  | .closing c exitValue first stream, reply =>
      reply.orLeave c (Run.afterClosing c exitValue (first.or reply.fault?) stream)
  | .judging c exitValue first, .held fault =>
      .leaving c (Run.judge plan convention first fault exitValue)
  | .leaving c outcome, _ => .delisting (c.unwatched plan) outcome
  | .delisting c outcome, _ => .releasing c.process outcome
  | .releasing _ outcome, _ => .ended outcome
  | stage, _ => stage

/-- Whether a step at a stage can make a call. -/
def Stage.makes : Stage → Event → Bool
  | .launching, .launch _ | .opening _, .openSession _ | .attaching _ _, .attach _ _ _
  | .starting _, .startStreams _ | .enlisting _, .enlist _ _
  | .enlisting _, .destroy (.destroyer _) _ | .waiting _ _ _, .waitFor _
  | .killing _, .destroy .execution _ | .abandoning _ _, .destroy .execution _
  | .halting _ _, .stopStreams _ | .stopping _ _, .stopStreams _ | .closing _ _ _ _, .close _ _
  | .delisting _ _, .delist _ _ | .releasing _ _, .release _ => true
  | _, _ => false

/-- An execution that is about to take a step, and the world it finds. -/
structure Moment (σ : Type) where
  /-- The execution. -/
  run : Run
  /-- The world it finds. -/
  world : World σ

namespace Moment

variable {σ : Type}

/-- What the call of the step comes to. -/
def reply (s : Surroundings σ) (m : Moment σ) : Reply :=
  let w := m.world
  let plan := m.run.plan
  match m.run.stage with
  | .launching => .ofCall .launched (w.launch s plan.order).1
  | .opening _ => .ofCall .opened (w.openSession s plan.handler).1
  | .attaching c stream => .ofCall (fun _ => .done) (w.attach s c.session stream c.process).1
  | .starting c => .ofCall (fun _ => .done) (w.startStreams s c.session).1
  | .enlisting c =>
      match plan.destroyer with
      | none => .done
      | some i => .ofCall (fun _ => .done) (w.enlist s i c.process).1
  | .watching c =>
      match plan.watchdog with
      | none => .done
      | some i => .ofCall (fun _ => .done) (w.startWatch i c.process).1
  | .waiting c _ entered =>
      .ofWait (if entered then w.resumeWait s c.process else w.enterWait s c.process).1
  | .killing c | .abandoning c _ =>
      .ofCall (fun _ => .done) (w.destroy s .execution c.process).1
  | .halting c _ =>
      if c.flowing then .ofCall (fun _ => .done) (w.stopStreams s c.session).1 else .done
  | .stopping c _ => .ofCall (fun _ => .done) (w.stopStreams s c.session).1
  | .closing c _ _ stream => .ofCall (fun _ => .done) (w.close s c.process stream).1
  | .judging _ _ _ => .held (w.watchdogFault plan.watchdog)
  | .delisting c _ =>
      match c.enlisted, plan.destroyer with
      | true, some i => .ofCall (fun _ => .done) (w.delist i c.process).1
      | _, _ => .done
  | .unwatching _ _ | .ending _ _ | .leaving _ _ | .releasing _ _ | .ended _ => .done

/-- The execution and the world after the step. -/
def next (s : Surroundings σ) (m : Moment σ) : Run × World σ :=
  m.run.step s m.world

/-- The calls that the step adds to the trace. -/
def events (s : Surroundings σ) (m : Moment σ) : List Event :=
  (m.next s).2.trace.drop m.world.trace.length

/-- The notices that the step adds to the journal of its execution. -/
def notices (s : Surroundings σ) (m : Moment σ) : List Notice :=
  ((m.next s).2.notices m.run.plan.journal).drop (m.world.notices m.run.plan.journal).length

/-! ## The parts of a step -/

/-- The world after the call of the step, before anything is noted. -/
def called (s : Surroundings σ) (m : Moment σ) : World σ :=
  let w := m.world
  let plan := m.run.plan
  match m.run.stage with
  | .launching =>
      let launched := (w.launch s plan.order).2
      match m.reply s, plan.watchdog with
      | .raised fault, some i =>
          if fault.isStandard then launched.updateWatchdog i (·.launchFailed (some fault))
          else launched
      | _, _ => launched
  | .opening _ => (w.openSession s plan.handler).2
  | .attaching c stream => (w.attach s c.session stream c.process).2
  | .starting c => (w.startStreams s c.session).2
  | .enlisting c =>
      match plan.destroyer with
      | none => w
      | some i => (w.enlist s i c.process).2
  | .watching c =>
      match plan.watchdog with
      | none => w
      | some i => (w.startWatch i c.process).2
  | .waiting c _ entered =>
      (if entered then w.resumeWait s c.process else w.enterWait s c.process).2
  | .killing c | .abandoning c _ => (w.destroy s .execution c.process).2
  | .halting c _ => if c.flowing then (w.stopStreams s c.session).2 else w
  | .stopping c _ => (w.stopStreams s c.session).2
  | .closing c _ _ stream => (w.close s c.process stream).2
  | .unwatching c _ | .ending c _ | .leaving c _ =>
      match c.watched, plan.watchdog with
      | true, some i => w.stopWatch i
      | _, _ => w
  | .delisting c _ =>
      match c.enlisted, plan.destroyer with
      | true, some i => (w.delist i c.process).2
      | _, _ => w
  | .releasing p _ => w.release s p
  | .judging _ _ _ | .ended _ => w

/-- The calls that the step makes on collaborators. -/
def calls (m : Moment σ) : List Event :=
  let plan := m.run.plan
  match m.run.stage with
  | .launching => [.launch m.world.launches.length]
  | .opening _ => [.openSession plan.handler]
  | .attaching c stream => [.attach c.session stream c.process]
  | .starting c => [.startStreams c.session]
  | .enlisting c =>
      match plan.destroyer with
      | none => []
      | some i => .enlist i c.process :: m.world.condemnation i c.process
  | .waiting c _ entered => if entered then [] else [.waitFor c.process]
  | .killing c | .abandoning c _ => [.destroy .execution c.process]
  | .halting c _ => if c.flowing then [.stopStreams c.session] else []
  | .stopping c _ => [.stopStreams c.session]
  | .closing c _ _ stream => [.close c.process stream]
  | .delisting c _ =>
      match c.enlisted, plan.destroyer with
      | true, some i => [.delist i c.process]
      | _, _ => []
  | .releasing p _ => [.release p]
  | .watching _ | .unwatching _ _ | .ending _ _ | .judging _ _ _ | .leaving _ _ | .ended _ => []

/-- What the step has to tell the journal of its execution. -/
def remarks (s : Surroundings σ) (m : Moment σ) : List Notice :=
  let plan := m.run.plan
  let pid := (m.called s).pid s
  match m.run.stage, m.reply s with
  | .launching, .launched p =>
      [.launching plan.command.render plan.directory, .started (pid p)]
  | .launching, _ => [.launching plan.command.render plan.directory]
  | .waiting c _ _, .exited exitValue => [.exited (pid c.process) exitValue]
  | .waiting c false _, .raised .interrupted => [.waitInterrupted (pid c.process)]
  | .abandoning c _, .raised fault =>
      if fault.isStandard then [.notDestroyed (pid c.process) fault] else []
  | .halting _ _, .raised fault => if fault.isStandard then [.streamsFailed fault] else []
  | .closing _ _ (some _) _, .raised fault => if fault.isStandard then [.dropped fault] else []
  | .delisting c _, .raised fault => [.notDelisted (pid c.process) fault]
  | _, _ => []

/-- Whether the step tells the caller that the launch was tried. -/
def announces (s : Surroundings σ) (m : Moment σ) : Bool :=
  match m.run.stage, m.reply s with
  | .launching, .launched _ => true
  | .launching, .raised fault => fault.isStandard
  | _, _ => false

end Moment

namespace Run

variable {σ : Type}

/-- The execution after it has found these worlds, one at each step. -/
def follow (s : Surroundings σ) : Run → List (World σ) → Run
  | r, [] => r
  | r, w :: worlds => follow s (r.step s w).1 worlds

/-- The moments of an execution that finds these worlds, one at each step. -/
def moments (s : Surroundings σ) : Run → List (World σ) → List (Moment σ)
  | _, [] => []
  | r, w :: worlds => { run := r, world := w } :: moments s (r.step s w).1 worlds

/-- The worlds an execution finds if nothing happens between its steps. -/
def unattended (s : Surroundings σ) : Nat → Run → World σ → List (World σ)
  | 0, _, _ => []
  | n + 1, r, w => w :: unattended s n (r.step s w).1 (r.step s w).2

end Run

/-! ## Steps -/

namespace Moment

variable {σ : Type}

/-- A step goes on to the stage that its reply leads to, makes its call and notes
its remarks. -/
theorem next_eq (s : Surroundings σ) (m : Moment σ) :
    m.next s =
      ({ m.run with
          stage := m.run.stage.after m.run.plan s.isFailure (m.reply s)
          announced := m.run.announced || m.announces s },
        (m.called s).noteAll m.run.plan.journal (m.remarks s)) := by
  rcases m with ⟨⟨plan, stage, announced⟩, w⟩
  cases stage with
  | launching =>
      simp only [next, Run.step, Run.stepLaunch, announces, remarks, called, reply]
      have noted : (w.note plan.journal
          (.launching plan.command.render plan.directory)).launch s plan.order =
            ((w.launch s plan.order).1, (w.launch s plan.order).2.note plan.journal
              (.launching plan.command.render plan.directory)) := rfl
      rw [noted]
      rcases w.launch s plan.order with ⟨fault | p, v⟩
      · cases standard : fault.isStandard <;> cases watchdog : plan.watchdog <;>
          simp [Stage.after, Reply.ofCall, World.noteAll, standard]
        rfl
      · simp [Stage.after, Reply.ofCall, World.noteAll]
        rfl
  | opening p =>
      simp only [next, Run.step, remarks, called, reply]
      rcases w.openSession s plan.handler with ⟨fault | session, v⟩ <;>
        simp only [announces, Bool.or_false] <;> rfl
  | attaching c stream =>
      simp only [next, Run.step, remarks, called, reply]
      rcases w.attach s c.session stream c.process with ⟨fault | _, v⟩ <;>
        simp only [announces, Bool.or_false] <;> rfl
  | starting c =>
      simp only [next, Run.step, remarks, called, reply]
      rcases w.startStreams s c.session with ⟨fault | _, v⟩ <;>
        simp only [announces, Bool.or_false] <;> rfl
  | enlisting c =>
      rcases destroyer : plan.destroyer with _ | i
      · simp [next, Run.step, remarks, called, announces, Stage.after, World.noteAll, destroyer]
      · simp only [next, Run.step, remarks, called, reply, Stage.after, destroyer]
        rcases w.enlist s i c.process with ⟨fault | _, v⟩ <;>
          simp only [announces, Bool.or_false] <;> rfl
  | watching c =>
      rcases watchdog : plan.watchdog with _ | i
      · simp [next, Run.step, remarks, called, announces, Stage.after, World.noteAll, watchdog]
      · simp only [next, Run.step, remarks, called, reply, Stage.after, watchdog]
        rcases w.startWatch i c.process with ⟨fault | _, v⟩ <;>
          simp only [announces, Bool.or_false] <;> rfl
  | waiting c interrupted entered =>
      simp only [next, Run.step, remarks, called, reply]
      rcases (if entered = true then w.resumeWait s c.process else w.enterWait s c.process) with
        ⟨exitValue | fault | _, v⟩
      · simp only [announces, Bool.or_false]; rfl
      · cases fault <;> cases interrupted <;> simp only [announces, Bool.or_false] <;> rfl
      · simp only [announces, Bool.or_false]; rfl
  | killing c =>
      simp only [next, Run.step, remarks, called, reply]
      rcases w.destroy s .execution c.process with ⟨fault | _, v⟩ <;>
        simp only [announces, Bool.or_false] <;> rfl
  | abandoning c fault =>
      simp only [next, Run.step, remarks, called, reply]
      rcases w.destroy s .execution c.process with ⟨later | _, v⟩
      · cases standard : later.isStandard <;>
          simp [announces, Stage.after, Reply.ofCall, Reply.orLeave, World.noteAll, standard]
      · simp only [announces, Bool.or_false]; rfl
  | unwatching c fault | ending c exitValue | leaving c outcome =>
      simp only [next, Run.step, remarks, called, Stage.after, Custody.unwatched]
      cases c.watched <;> cases plan.watchdog <;> simp [announces, World.noteAll]
  | halting c fault =>
      simp only [next, Run.step, remarks, called, reply]
      cases flowing : c.flowing
      · simp only [announces, Bool.or_false]; rfl
      · rcases w.stopStreams s c.session with ⟨later | _, v⟩
        · cases standard : later.isStandard <;>
            simp [announces, Stage.after, Reply.ofCall, Reply.orLeave, World.noteAll, standard]
        · simp only [announces, Bool.or_false]; rfl
  | stopping c exitValue =>
      simp only [next, Run.step, remarks, called, reply]
      rcases w.stopStreams s c.session with ⟨fault | _, v⟩
      · cases standard : fault.isStandard <;>
          simp [announces, Stage.after, Reply.ofCall, Reply.orLeave, Reply.fault?, World.noteAll,
            standard]
      · simp only [announces, Bool.or_false]; rfl
  | closing c exitValue first stream =>
      simp only [next, Run.step, remarks, called, reply]
      rcases w.close s c.process stream with ⟨fault | _, v⟩
      · cases standard : fault.isStandard <;> cases first <;>
          simp [announces, Stage.after, Reply.ofCall, Reply.orLeave, Reply.fault?, Run.keepFirst,
            World.noteAll, standard]
      · cases first <;> simp only [announces, Bool.or_false] <;> rfl
  | judging c exitValue first =>
      simp only [announces, Bool.or_false]
      rfl
  | delisting c outcome =>
      simp only [next, Run.step, remarks, called, reply, Stage.after]
      cases c.enlisted with
      | false => simp [announces, World.noteAll]
      | true =>
          cases plan.destroyer with
          | none => simp [announces, World.noteAll]
          | some i =>
              dsimp only
              rcases w.delist i c.process with ⟨fault | _, v⟩ <;>
                simp only [announces, Bool.or_false] <;> rfl
  | releasing p outcome =>
      simp only [announces, Bool.or_false]
      rfl
  | ended outcome =>
      simp only [announces, Bool.or_false]
      rfl

@[simp]
theorem stage_next (s : Surroundings σ) (m : Moment σ) :
    (m.next s).1.stage = m.run.stage.after m.run.plan s.isFailure (m.reply s) := by
  rw [next_eq]

@[simp]
theorem plan_next (s : Surroundings σ) (m : Moment σ) : (m.next s).1.plan = m.run.plan := by
  rw [next_eq]

theorem trace_called (s : Surroundings σ) (m : Moment σ) :
    (m.called s).trace = m.world.trace ++ m.calls := by
  rcases m with ⟨⟨plan, stage, announced⟩, w⟩
  cases stage with
  | launching =>
      have launched := World.trace_launch s w plan.order
      simp only [called, calls]
      split
      · split <;> exact launched
      · exact launched
  | enlisting c =>
      simp only [called, calls]
      cases plan.destroyer with
      | none => exact (List.append_nil _).symm
      | some i => exact World.trace_enlist s w i c.process
  | watching c =>
      simp only [called, calls]
      cases plan.watchdog <;> simp
  | waiting c interrupted entered =>
      simp only [called, calls]
      cases entered <;> simp [World.resumeWait, World.enterWait]
  | halting c fault =>
      simp only [called, calls]
      cases c.flowing <;> simp [World.stopStreams]
  | unwatching c fault | ending c exitValue | leaving c outcome =>
      simp only [called, calls]
      cases c.watched <;> cases plan.watchdog <;> simp
  | delisting c outcome =>
      simp only [called, calls]
      cases c.enlisted <;> cases plan.destroyer <;> simp
  | judging c exitValue first | ended outcome => exact (List.append_nil _).symm
  | _ => rfl

theorem makes_of_mem_calls {m : Moment σ} {event : Event} (called : event ∈ m.calls) :
    m.run.stage.makes event = true := by
  rcases m with ⟨⟨plan, stage, announced⟩, w⟩
  cases stage with
  | enlisting c =>
      simp only [calls] at called
      split at called
      · contradiction
      · rcases List.mem_cons.mp called with rfl | condemned
        · rfl
        · rw [World.eq_destroy_of_mem_condemnation condemned]
          rfl
  | waiting c interrupted entered =>
      cases entered with
      | false =>
          rw [List.mem_singleton.mp called]
          rfl
      | true => contradiction
  | halting c fault =>
      simp only [calls] at called
      split at called
      · rw [List.mem_singleton.mp called]
        rfl
      · contradiction
  | delisting c outcome =>
      simp only [calls] at called
      split at called
      · rw [List.mem_singleton.mp called]
        rfl
      · contradiction
  | watching c | unwatching c fault | ending c exitValue | judging c exitValue first
  | leaving c outcome | ended outcome => contradiction
  | _ =>
      rw [List.mem_singleton.mp called]
      rfl

theorem trace_next (s : Surroundings σ) (m : Moment σ) :
    (m.next s).2.trace = m.world.trace ++ m.calls := by
  rw [next_eq, World.trace_noteAll]
  exact trace_called s m

theorem journals_called (s : Surroundings σ) (m : Moment σ) :
    (m.called s).journals = m.world.journals := by
  rcases m with ⟨⟨plan, stage, announced⟩, w⟩
  cases stage with
  | launching =>
      simp only [called]
      split
      · split <;> rfl
      · rfl
  | enlisting c =>
      simp only [called]
      cases plan.destroyer <;> simp
  | watching c =>
      simp only [called]
      cases plan.watchdog <;> simp
  | waiting c interrupted entered =>
      simp only [called]
      cases entered <;> rfl
  | halting c fault =>
      simp only [called]
      cases c.flowing <;> rfl
  | unwatching c fault | ending c exitValue | leaving c outcome =>
      simp only [called]
      cases c.watched <;> cases plan.watchdog <;> rfl
  | delisting c outcome =>
      simp only [called]
      cases c.enlisted <;> cases plan.destroyer <;> simp
  | _ => rfl

/-- The calls of a step are what it adds to the trace. -/
theorem events_eq_calls (s : Surroundings σ) (m : Moment σ) : m.events s = m.calls := by
  simp [events, trace_next]

/-- The remarks of a step are what it adds to the journal of its execution, as
far as that writes at their levels. -/
theorem notices_eq_remarks (s : Surroundings σ) (m : Moment σ) :
    m.notices s =
      (m.remarks s).filter (fun notice => m.world.hears m.run.plan.journal notice.level) := by
  simp [notices, next_eq, World.notices_noteAll, World.notices_eq_of_journals (journals_called s m),
    World.hears_eq_of_journals (journals_called s m)]

end Moment

namespace Run

variable {σ : Type}

theorem stage_of_outcome {r : Run} {outcome : Outcome} (ended : r.outcome? = some outcome) :
    r.stage = .ended outcome := by
  unfold outcome? at ended
  split at ended
  · next stage =>
      rw [stage, Option.some.inj ended]
  · contradiction

theorem stage_step (s : Surroundings σ) (r : Run) (w : World σ) :
    (r.step s w).1.stage =
      r.stage.after r.plan s.isFailure (Moment.reply s { run := r, world := w }) :=
  Moment.stage_next s { run := r, world := w }

@[simp]
theorem plan_step (s : Surroundings σ) (r : Run) (w : World σ) : (r.step s w).1.plan = r.plan :=
  Moment.plan_next s { run := r, world := w }

/-- What can be told of single moments can be told of the first one and the later ones. -/
theorem filterMap_moments_cons {α : Type} {s : Surroundings σ} {worlds : List (World σ)}
    (f : Moment σ → Option α) (r : Run) (w : World σ) :
    (r.moments s (w :: worlds)).filterMap f =
      (f { run := r, world := w }).toList ++ ((r.step s w).1.moments s worlds).filterMap f := by
  rw [moments, List.filterMap_cons]
  split <;> simp_all

end Run

end Overseer
