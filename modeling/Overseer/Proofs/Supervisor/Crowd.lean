import Overseer.Proofs.Supervisor.Ledger
import Overseer.Proofs.Supervisor.Step

/-!
# Crowds around a supervisor

Any number of callers from outside, and the receivers of workers, use one supervisor at the
same time: they ask for background executions and wait for workers.  A crowd does one
section of one of them after the other, in any order.  Whoever asks for an execution does
so in two sections, because others may go on between the joining of finished workers and
the listing of the new one.

Whoever waits takes the list as it is, and waits for nobody else.
-/

namespace Overseer

/-- What a caller from outside is about to do. -/
inductive Errand
  /-- Nothing; he may make a call. -/
  | idle
  /-- To put a new worker on the list. -/
  | asking (command : CommandLine) (environment : Option Environment) (receiver : Receiver)
  /-- To go on when a worker has tried its launch. -/
  | starting (other : WorkerId)
  /-- To part with workers one after the other, and to return. -/
  | joining (others : List WorkerId)
deriving DecidableEq

/-- The workers somebody has taken from the list and still has to part with. -/
def Errand.awaited : Errand → List WorkerId
  | joining others => others
  | _ => []

/-- The workers that a receiver has taken from the list and still has to part with. -/
def Phase.awaited : Phase → List WorkerId
  | joining others _ => others
  | _ => []

namespace Supervisor

variable {σ : Type}

/-- The phase of a worker. -/
def phase? (sup : Supervisor σ) (i : WorkerId) : Option Phase :=
  (sup.workers[i]?).map (·.phase)

/-- The first section of asking for a background execution: finished workers are joined. -/
def prepare (s : Surroundings σ) (sup : Supervisor σ) (caller : Caller) :
    Except Fault (Supervisor σ) := do
  sup.checkDirectory s
  let world :=
    match sup.settings.watchdog with
    | some i => sup.world.updateWatchdog i Watchdog.forgetLaunch
    | none => sup.world
  return reap s { sup with world } caller

/-- The second section: a new worker is put on the list. -/
def enroll (sup : Supervisor σ) (command : CommandLine) (environment : Option Environment)
    (receiver : Receiver) : WorkerId × Supervisor σ :=
  sup.spawn (sup.settings.plan command environment) receiver

/-- Both sections in a row ask for a background execution. -/
theorem submit_eq (s : Surroundings σ) (sup : Supervisor σ) (caller : Caller)
    (command : CommandLine) (environment : Option Environment) (receiver : Receiver) :
    sup.submit s caller command environment (some receiver) =
      (sup.prepare s caller).map (·.enroll command environment receiver) := by
  simp only [submit, prepare]
  cases sup.checkDirectory s <;> rfl

end Supervisor

/-- A supervisor with everybody who uses it. -/
structure Crowd (σ : Type) where
  /-- The supervisor with its workers. -/
  sup : Supervisor σ
  /-- What the callers from outside are about to do. -/
  errands : Nat → Errand := fun _ => .idle
  /-- Which workers are about to put a new worker on the list. -/
  asking : WorkerId → Bool := fun _ => false

namespace Crowd

variable {σ : Type}

/-- Let a caller from outside be about to do something. -/
def setErrand (c : Crowd σ) (k : Nat) (errand : Errand) : Crowd σ :=
  { c with errands := fun j => if j = k then errand else c.errands j }

/-- The next section of a worker, unless it has to wait. -/
def stepWorker (s : Surroundings σ) (c : Crowd σ) (i : WorkerId) : Crowd σ :=
  match c.sup.workers[i]? with
  | none => c
  | some w =>
      match w.phase with
      | .reacting (.follow command receiver :: rest) =>
          if c.asking i then
            let (other, sup) := c.sup.enroll command none { id := receiver }
            { c with
              sup := sup.enter i (.starting other rest)
              asking := fun j => c.asking j && j != i }
          else
            match c.sup.prepare s (.worker i) with
            | .error fault => { c with sup := c.sup.receiverRaised i w.run fault }
            | .ok sup => { c with sup, asking := fun j => c.asking j || j == i }
      | _ => { c with sup := (c.sup.stepWorker? s i).getD c.sup }

/-- A caller from outside asks for a background execution. -/
def ask (s : Surroundings σ) (c : Crowd σ) (k : Nat) (command : CommandLine)
    (environment : Option Environment) (receiver : Option Receiver) : Crowd σ :=
  match c.errands k, receiver, c.sup.prepare s (.outside k) with
  | .idle, some receiver, .ok sup =>
      { c with sup }.setErrand k (.asking command environment receiver)
  | _, _, _ => c

/-- A caller from outside begins to wait for the workers. -/
def await (c : Crowd σ) (k : Nat) : Crowd σ :=
  match c.errands k with
  | .idle => { c with sup := c.sup.takeWorkers.2 }.setErrand k (.joining c.sup.listed)
  | _ => c

/-- The next section of a caller from outside, unless he has to wait. -/
def proceed (c : Crowd σ) (k : Nat) : Crowd σ :=
  match c.errands k with
  | .idle => c
  | .asking command environment receiver =>
      let (other, sup) := c.sup.enroll command environment receiver
      { c with sup }.setErrand k (.starting other)
  | .starting other =>
      match c.sup.passStart? other with
      | some sup => { c with sup }.setErrand k .idle
      | none => c
  | .joining [] => c.setErrand k .idle
  | .joining (other :: others) =>
      match c.sup.part? (.outside k) other with
      | some sup => { c with sup }.setErrand k (.joining others)
      | none => c

/-- Whether a move has to do with neither workers nor callers. -/
def isAside : Supervisor.Move σ → Bool
  | .configure _ | .useWatchdog _ | .useDestroyer _ | .foreign _ | .disturb _ => true
  | _ => false

/-- What happens next in a crowd. -/
inductive Act (σ : Type)
  /-- A worker does its next section. -/
  | worker (i : WorkerId)
  /-- A caller from outside asks for a background execution, if he is idle. -/
  | ask (k : Nat) (command : CommandLine) (environment : Option Environment)
      (receiver : Option Receiver)
  /-- A caller from outside begins to wait for the workers, if he is idle. -/
  | await (k : Nat)
  /-- A caller from outside does his next section. -/
  | proceed (k : Nat)
  /-- Something happens that has to do with neither. -/
  | aside (m : Supervisor.Move σ)

/-- A crowd after an act. -/
def act (s : Surroundings σ) (c : Crowd σ) : Act σ → Crowd σ
  | .worker i => c.stepWorker s i
  | .ask k command environment receiver => c.ask s k command environment receiver
  | .await k => c.await k
  | .proceed k => c.proceed k
  | .aside m => if isAside m then { c with sup := c.sup.move s m } else c

/-- A crowd after one act after the other. -/
def play (s : Surroundings σ) (c : Crowd σ) (acts : List (Act σ)) : Crowd σ :=
  acts.foldl (act s) c

/-- The workers somebody has taken from the list and still has to part with. -/
def awaits (c : Crowd σ) : Caller → List WorkerId
  | .outside k => (c.errands k).awaited
  | .worker i => ((c.sup.phase? i).map Phase.awaited).getD []

/-- What there is to say of the workers in a crowd. -/
def ledger (c : Crowd σ) : Ledger where
  size := c.sup.workers.length
  listed := c.sup.listed
  partings := c.sup.partings
  awaits := c.awaits
  finished := c.sup.hasFinished

/-- A crowd in which nobody has asked for anything. -/
structure IsFresh (c : Crowd σ) : Prop where
  workers : c.sup.workers = []
  listed : c.sup.listed = []
  partings : c.sup.partings = []
  errands : ∀ k, c.errands k = .idle

end Crowd

/-! ## Phases -/

namespace Supervisor

variable {σ : Type} {s : Surroundings σ} {sup next : Supervisor σ} {i j : WorkerId} {w : Worker}

theorem phase?_of_worker (found : sup.workers[i]? = some w) : sup.phase? i = some w.phase := by
  simp [phase?, found]

theorem hasFinished_eq (sup : Supervisor σ) (i : WorkerId) :
    sup.hasFinished i = ((sup.phase? i).map (fun p => decide (p = .finished))).getD true := by
  unfold hasFinished phase?
  cases sup.workers[i]? <;> rfl

theorem phase?_updateWorker (same : ∀ w, (f w).phase = w.phase) (j : WorkerId) :
    (sup.updateWorker i f).phase? j = sup.phase? j := by
  simp only [phase?, updateWorker, List.getElem?_modify]
  cases sup.workers[j]? with
  | none => rfl
  | some w =>
      by_cases here : i = j
      · simp [here, same]
      · simp [here]

theorem phase?_enter (found : sup.phase? i = some p) (phase : Phase) (j : WorkerId) :
    (sup.enter i phase).phase? j = if j = i then some phase else sup.phase? j := by
  by_cases here : j = i
  · subst here
    obtain ⟨w, found, _⟩ := Option.map_eq_some_iff.mp found
    simp [phase?, enter, getElem?_updateWorker, found]
  · simp [phase?, getElem?_enter_ne _ (Ne.symm here), here]

theorem updateWorker_eq_enter (sup : Supervisor σ) (i : WorkerId) (f : Worker → Worker)
    (phase : Phase) :
    sup.updateWorker i (fun w => { f w with phase }) = (sup.updateWorker i f).enter i phase := by
  simp [enter, updateWorker, List.modify_modify_eq, Function.comp_def]

theorem hasFinished_of_phase (same : next.phase? i = sup.phase? i) :
    next.hasFinished i = sup.hasFinished i := by
  rw [hasFinished_eq, hasFinished_eq, same]

theorem hasFinished_enter (found : sup.phase? i = some p) (phase : Phase) (j : WorkerId) :
    (sup.enter i phase).hasFinished j =
      if j = i then decide (phase = .finished) else sup.hasFinished j := by
  rw [hasFinished_eq, phase?_enter found, hasFinished_eq]
  by_cases here : j = i <;> simp [here]

/-- A supervisor with the same workers in the same phases, and the same of them on the list
and parted with. -/
structure KeepsRoll (sup next : Supervisor σ) : Prop where
  size : next.workers.length = sup.workers.length
  listed : next.listed = sup.listed
  partings : next.partings = sup.partings
  phases : ∀ j, next.phase? j = sup.phase? j

theorem KeepsRoll.refl (sup : Supervisor σ) : sup.KeepsRoll sup :=
  ⟨rfl, rfl, rfl, fun _ => rfl⟩

theorem KeepsRoll.trans {last : Supervisor σ} (first : sup.KeepsRoll next)
    (second : next.KeepsRoll last) : sup.KeepsRoll last :=
  ⟨second.size.trans first.size, second.listed.trans first.listed,
    second.partings.trans first.partings, fun j => (second.phases j).trans (first.phases j)⟩

theorem KeepsRoll.moveTo (sup : Supervisor σ) (v : World σ) : sup.KeepsRoll (sup.moveTo v) :=
  ⟨rfl, rfl, rfl, fun _ => rfl⟩

theorem KeepsRoll.updateWorker (sup : Supervisor σ) (i : WorkerId) {f : Worker → Worker}
    (same : ∀ w, (f w).phase = w.phase) : sup.KeepsRoll (sup.updateWorker i f) :=
  ⟨List.length_modify .., rfl, rfl, phase?_updateWorker same⟩

theorem KeepsRoll.deliver (sup : Supervisor σ) (run : Run) (receiver : Receiver)
    (outcome : Outcome) : sup.KeepsRoll (sup.deliver run receiver outcome) := by
  unfold Supervisor.deliver
  split <;> exact ⟨rfl, rfl, rfl, fun _ => rfl⟩

theorem KeepsRoll.pass (passed : sup.passStart? i = some next) : sup.KeepsRoll next := by
  rcases eq_of_passStart passed with ⟨_, rfl⟩ | ⟨w, signal, _, _, rfl⟩
  · exact .refl next
  · exact .updateWorker sup i fun _ => rfl

theorem part?_eq_some_iff {caller : Caller} :
    sup.part? caller i = some next ↔
      (caller ≠ .worker i → sup.hasFinished i = true) ∧
        next = { sup with partings := sup.partings ++ [(i, caller.partsWith i)] } := by
  unfold part? Caller.partsWith
  by_cases own : caller = .worker i
  · rw [if_pos own, if_pos own, Option.some.injEq]
    constructor
    · rintro rfl
      exact ⟨fun foreign => absurd own foreign, rfl⟩
    · rintro ⟨_, rfl⟩
      rfl
  · rw [if_neg own, if_neg own]
    cases finished : sup.hasFinished i with
    | true =>
        rw [if_pos rfl, Option.some.injEq]
        constructor
        · rintro rfl
          exact ⟨fun _ => rfl, rfl⟩
        · rintro ⟨_, rfl⟩
          rfl
    | false =>
        constructor
        · nofun
        · rintro ⟨isOver, _⟩
          exact absurd (isOver own) nofun

theorem prepare_eq_ok {caller : Caller} (prepared : sup.prepare s caller = .ok next) :
    ∃ v, next = (sup.moveTo v).reap s caller := by
  unfold prepare at prepared
  cases checked : sup.checkDirectory s with
  | error fault =>
      rw [checked] at prepared
      contradiction
  | ok _ =>
      rw [checked] at prepared
      cases prepared
      exact ⟨_, rfl⟩

end Supervisor

/-! ## Entries -/

namespace Crowd

variable {σ : Type} {s : Surroundings σ} {c : Crowd σ} {next : Supervisor σ} {i : WorkerId}
  {w : Worker} {k : Nat}

/-- Both sections of a worker that asks for an execution make up its step. -/
theorem stepWorker?_eq_of_follow {command : CommandLine} {receiver : ReceiverId}
    {rest : List Reaction} (found : c.sup.workers[i]? = some w)
    (phase : w.phase = .reacting (.follow command receiver :: rest)) (fresh : c.asking i = false)
    (prepared : c.sup.prepare s (.worker i) = .ok next) :
    c.sup.stepWorker? s i = some ((c.stepWorker s i).stepWorker s i).sup := by
  have first : c.stepWorker s i =
      { c with sup := next, asking := fun j => c.asking j || j == i } := by
    simp [stepWorker, found, phase, fresh, prepared]
  have still : next.workers[i]? = some w := by
    obtain ⟨v, rfl⟩ := Supervisor.prepare_eq_ok prepared
    exact found
  obtain ⟨result, enrolled⟩ : ∃ result, next.enroll command none { id := receiver } = result :=
    ⟨_, rfl⟩
  have asked : c.sup.submit s (.worker i) command none (some { id := receiver }) = .ok result := by
    rw [Supervisor.submit_eq, prepared, ← enrolled]
    rfl
  have steps : Supervisor.Steps s c.sup i w (result.2.enter i (.starting result.1 rest)) :=
    .ask phase asked
  rw [(Supervisor.stepWorker?_eq_some_iff found).mpr steps, first]
  simp [stepWorker, still, phase, enrolled]

theorem awaits_setErrand (c : Crowd σ) (k : Nat) (errand : Errand) (x : Caller) :
    (c.setErrand k errand).awaits x = if x = .outside k then errand.awaited else c.awaits x := by
  cases x with
  | outside j => by_cases same : j = k <;> simp [awaits, setErrand, same]
  | worker j => simp [awaits, setErrand]

theorem awaits_of_phases (phases : ∀ j, next.phase? j = c.sup.phase? j) (x : Caller) :
    { c with sup := next }.awaits x = c.awaits x := by
  cases x with
  | outside j => rfl
  | worker j => simp [awaits, phases]

/-- Nothing is entered when all workers keep their phases and the callers what they wait
for. -/
theorem next_of_keepsRoll {c' : Crowd σ} (keeps : c.sup.KeepsRoll c'.sup)
    (awaits : ∀ x, c'.awaits x = c.awaits x) : c.ledger.Next c'.ledger := by
  apply Ledger.Next.rest keeps.size keeps.listed keeps.partings awaits
  intro i finished
  exact (Supervisor.hasFinished_of_phase (keeps.phases i)).trans finished

theorem next_refl (c : Crowd σ) : c.ledger.Next c.ledger :=
  next_of_keepsRoll (.refl c.sup) fun _ => rfl

theorem next_of_roll (keeps : c.sup.KeepsRoll next) :
    c.ledger.Next { c with sup := next }.ledger :=
  next_of_keepsRoll keeps (awaits_of_phases keeps.phases)

theorem awaits_enter {mid : Supervisor σ} {before : Phase} (here : mid.phase? i = some before)
    (after : Phase) (x : Caller) :
    { c with sup := mid.enter i after }.awaits x =
      if x = .worker i then after.awaited else { c with sup := mid }.awaits x := by
  cases x with
  | outside j => simp [awaits]
  | worker j =>
      simp only [awaits, Supervisor.phase?_enter here]
      by_cases same : j = i <;> simp [same]

theorem awaits_of_phase {phase : Phase} (here : c.sup.phase? i = some phase) :
    c.awaits (.worker i) = phase.awaited := by
  simp [awaits, here]

theorem finished_of_phase {phase : Phase} (here : c.sup.phase? i = some phase)
    (unfinished : phase ≠ .finished) : c.sup.hasFinished i = false := by
  simp [Supervisor.hasFinished_eq, here, unfinished]

/-- Nothing is entered when a worker goes on that does not part with others. -/
theorem next_of_enter {mid : Supervisor σ} (keeps : c.sup.KeepsRoll mid) {before after : Phase}
    (here : c.sup.phase? i = some before) (quiet : before.awaited = [])
    (unfinished : before ≠ .finished) (quietNext : after.awaited = []) :
    c.ledger.Next { c with sup := mid.enter i after }.ledger := by
  have hereNext : mid.phase? i = some before := (keeps.phases i).trans here
  apply Ledger.Next.rest
  · exact (List.length_modify ..).trans keeps.size
  · exact keeps.listed
  · exact keeps.partings
  · intro x
    apply (awaits_enter hereNext after x).trans
    split
    · next same =>
        subst same
        rw [quietNext]
        exact ((awaits_of_phase here).trans quiet).symm
    · exact awaits_of_phases keeps.phases x
  · intro j finished
    apply (Supervisor.hasFinished_enter hereNext after j).trans
    split
    · next same =>
        subst same
        exact absurd finished (by simp [ledger, finished_of_phase here unfinished])
    · exact (Supervisor.hasFinished_of_phase (keeps.phases j)).trans finished

/-- Every step of a worker is entered at once, unless it asks for an execution. -/
theorem next_of_steps (found : c.sup.workers[i]? = some w)
    (steps : Supervisor.Steps s c.sup i w next)
    (notAsking : ∀ command receiver rest, w.phase ≠ .reacting (.follow command receiver :: rest)) :
    c.ledger.Next { c with sup := next }.ledger := by
  have here := Supervisor.phase?_of_worker found
  have same := Supervisor.KeepsRoll.refl c.sup
  cases steps with
  | advance phase _ _ =>
      apply next_of_roll
      apply (Supervisor.KeepsRoll.moveTo c.sup (w.run.step s c.sup.world).2).trans
      exact .updateWorker _ i fun _ => rfl
  | conclude phase _ =>
      rw [phase] at here
      exact next_of_enter same here rfl nofun rfl
  | @announce outcome phase =>
      rw [phase] at here
      have keeps : c.sup.KeepsRoll (c.sup.updateWorker i fun w =>
          { w with signal := w.signal.notify }) := .updateWorker c.sup i fun _ => rfl
      have entered : c.ledger.Next { c with sup := _ }.ledger :=
        next_of_enter keeps here rfl nofun (rfl : Phase.awaited (.holding outcome) = [])
      rwa [← Supervisor.updateWorker_eq_enter] at entered
  | observe phase _ | finish phase | joined phase =>
      rw [phase] at here
      exact next_of_enter same here rfl nofun rfl
  | deliver phase =>
      rw [phase] at here
      exact next_of_enter (.deliver c.sup w.run w.receiver _) here rfl nofun rfl
  | raise phase =>
      rw [phase] at here
      exact next_of_enter (.moveTo c.sup _) here rfl nofun rfl
  | take phase =>
      rw [phase] at here
      have hereNext : c.sup.takeWorkers.2.phase? i = some _ := here
      apply Ledger.Next.take (.worker i)
      · exact List.length_modify ..
      · rfl
      · rfl
      · exact awaits_of_phase here
      · exact awaits_enter hereNext _
      · intro j
        apply (Supervisor.hasFinished_enter hereNext _ j).trans
        split
        · next same =>
            subst same
            exact (finished_of_phase here nofun).symm
        · rfl
  | refuse phase _ | ask phase _ => exact absurd phase (notAsking _ _ _)
  | @part other others rest mid phase parted =>
      rw [phase] at here
      obtain ⟨isOver, rfl⟩ := Supervisor.part?_eq_some_iff.mp parted
      have hereNext : Supervisor.phase? { c.sup with partings := _ } i = some _ := here
      have awaitsNext := awaits_enter (c := c) hereNext (.joining others rest)
      apply Ledger.Next.part (.worker i) other
      · exact List.length_modify ..
      · rfl
      · rfl
      · apply (awaits_of_phase here).trans
        exact congrArg (other :: ·) ((awaitsNext (.worker i)).trans (if_pos rfl)).symm
      · intro y foreign
        exact (awaitsNext y).trans (if_neg foreign)
      · exact isOver
      · intro j
        apply (Supervisor.hasFinished_enter hereNext _ j).trans
        split
        · next same =>
            subst same
            exact (finished_of_phase here nofun).symm
        · rfl
  | pass phase passed =>
      rw [phase] at here
      exact next_of_enter (.pass passed) here rfl nofun rfl

/-- The joining of finished workers is entered. -/
theorem next_of_prepare {x : Caller} (prepared : c.sup.prepare s x = .ok next)
    (unfinished : ∀ i, x = .worker i → c.sup.hasFinished i = false) {c' : Crowd σ}
    (sup : c'.sup = next) (awaits : ∀ y, c'.awaits y = { c with sup := next }.awaits y) :
    c.ledger.Next c'.ledger := by
  obtain ⟨v, rfl⟩ := Supervisor.prepare_eq_ok prepared
  obtain ⟨ended, others⟩ := s.perm_divide c.sup.hasFinished c.sup.listed v.outside
  apply Ledger.Next.reap x (s.divide c.sup.hasFinished c.sup.listed v.outside).1
  · exact congrArg (·.workers.length) sup
  · change c'.sup.listed.Perm _
    rw [sup]
    exact others
  · exact ended
  · exact congrArg (·.partings) sup
  · intro y
    exact (awaits y).trans (awaits_of_phases (fun _ => rfl) y)
  · exact unfinished
  · intro i
    exact congrArg (·.hasFinished i) sup

theorem phase?_enroll (sup : Supervisor σ) (command : CommandLine)
    (environment : Option Environment) (receiver : Receiver) (j : WorkerId) :
    (sup.enroll command environment receiver).2.phase? j =
      if j = sup.workers.length then some .executing else sup.phase? j := by
  simp only [Supervisor.phase?, Supervisor.enroll, Supervisor.spawn]
  by_cases new : j = sup.workers.length
  · simp [new]
  · rw [if_neg new]
    congr 1
    rcases Nat.lt_or_gt_of_ne new with old | beyond
    · exact List.getElem?_append_left old
    · rw [List.getElem?_eq_none (Nat.le_of_lt beyond)]
      apply List.getElem?_eq_none
      rw [List.length_append]
      exact beyond

theorem phase?_size (sup : Supervisor σ) : sup.phase? sup.workers.length = none := by
  simp [Supervisor.phase?]

theorem awaits_enroll (command : CommandLine) (environment : Option Environment)
    (receiver : Receiver) (x : Caller) :
    { c with sup := (c.sup.enroll command environment receiver).2 }.awaits x = c.awaits x := by
  cases x with
  | outside j => rfl
  | worker j =>
      simp only [awaits, phase?_enroll]
      split
      · next new =>
          rw [new, phase?_size]
          rfl
      · rfl

theorem hasFinished_enroll (sup : Supervisor σ) (command : CommandLine)
    (environment : Option Environment) (receiver : Receiver) {j : WorkerId}
    (old : j ≠ sup.workers.length) :
    (sup.enroll command environment receiver).2.hasFinished j = sup.hasFinished j := by
  apply Supervisor.hasFinished_of_phase
  rw [phase?_enroll, if_neg old]

theorem next_stepWorker (s : Surroundings σ) (c : Crowd σ) (i : WorkerId) :
    c.ledger.Next (c.stepWorker s i).ledger := by
  have idle := next_refl c
  unfold stepWorker
  cases found : c.sup.workers[i]? with
  | none => exact idle
  | some w =>
      have here := Supervisor.phase?_of_worker found
      dsimp only
      split
      · next command receiver rest phase =>
          rw [phase] at here
          split
          · -- The second section, which puts the new worker on the list.
            have other : i ≠ c.sup.workers.length :=
              Nat.ne_of_lt (List.getElem?_eq_some_iff.mp found).1
            have hereNext := phase?_enroll c.sup command none { id := receiver } i
            rw [if_neg other, here] at hereNext
            apply Ledger.Next.spawn
            · exact (List.length_modify ..).trans List.length_append
            · rfl
            · rfl
            · intro x
              apply (awaits_enter (c := c) hereNext _ x).trans
              split
              · next same =>
                  subst same
                  exact (awaits_of_phase here).symm
              · exact awaits_enroll command none _ x
            · intro j old
              apply (Supervisor.hasFinished_enter hereNext _ j).trans
              split
              · next same =>
                  subst same
                  exact (finished_of_phase here nofun).symm
              · exact hasFinished_enroll c.sup command none _ old
          · cases prepared : c.sup.prepare s (.worker i) with
            | error fault => exact next_of_enter (.moveTo c.sup _) here rfl nofun rfl
            | ok next =>
                apply next_of_prepare prepared _ rfl fun _ => rfl
                rintro _ ⟨⟩
                exact finished_of_phase here nofun
      · next notAsking =>
          cases stepped : c.sup.stepWorker? s i with
          | none => exact idle
          | some next =>
              obtain ⟨v, known, steps⟩ := Supervisor.steps_of_stepWorker stepped
              obtain rfl : v = w := Option.some.inj (known.symm.trans found)
              exact next_of_steps found steps notAsking

theorem awaits_of_errand {errand : Errand} (about : c.errands k = errand) :
    c.awaits (.outside k) = errand.awaited := by
  simp [awaits, about]

/-- A caller from outside goes on who does not part with workers. -/
theorem awaits_setErrand_of_awaited {errand : Errand}
    (same : (c.errands k).awaited = errand.awaited) (next : Supervisor σ) (x : Caller) :
    ({ c with sup := next }.setErrand k errand).awaits x = { c with sup := next }.awaits x := by
  rw [awaits_setErrand]
  split
  · next own =>
      subst own
      exact same.symm
  · rfl

theorem next_ask (s : Surroundings σ) (c : Crowd σ) (k : Nat) (command : CommandLine)
    (environment : Option Environment) (receiver : Option Receiver) :
    c.ledger.Next (c.ask s k command environment receiver).ledger := by
  unfold ask
  split
  · next _ _ _ given next about prepared =>
      apply next_of_prepare prepared nofun rfl
      exact awaits_setErrand_of_awaited (by rw [about]; rfl) next
  · exact next_refl c

theorem next_await (c : Crowd σ) (k : Nat) : c.ledger.Next (c.await k).ledger := by
  unfold await
  split
  · next about =>
      apply Ledger.Next.take (.outside k)
      · rfl
      · rfl
      · rfl
      · exact awaits_of_errand about
      · exact awaits_setErrand _ k _
      · exact fun _ => rfl
  · exact next_refl c

theorem next_proceed (c : Crowd σ) (k : Nat) : c.ledger.Next (c.proceed k).ledger := by
  have still := next_refl c
  unfold proceed
  cases about : c.errands k with
  | idle => exact still
  | asking command environment receiver =>
      dsimp only
      apply Ledger.Next.spawn
      · exact List.length_append
      · rfl
      · rfl
      · intro x
        apply (awaits_setErrand_of_awaited (by rw [about]; rfl) _ x).trans
        exact awaits_enroll command environment receiver x
      · intro j old
        exact hasFinished_enroll c.sup command environment receiver old
  | starting other =>
      dsimp only
      split
      · next next passed =>
          have keeps : c.sup.KeepsRoll next := .pass passed
          apply next_of_keepsRoll keeps
          intro x
          apply (awaits_setErrand_of_awaited (by rw [about]; rfl) next x).trans
          exact awaits_of_phases keeps.phases x
      · exact still
  | joining others =>
      cases others with
      | nil =>
          have same : c.sup.KeepsRoll (c.setErrand k .idle).sup := .refl c.sup
          apply next_of_keepsRoll same
          exact awaits_setErrand_of_awaited (by rw [about]; rfl) c.sup
      | cons other others =>
          dsimp only
          split
          · next next parted =>
              obtain ⟨isOver, rfl⟩ := Supervisor.part?_eq_some_iff.mp parted
              have awaitsNext := awaits_setErrand
                { c with sup := { c.sup with partings :=
                  c.sup.partings ++ [(other, (Caller.outside k).partsWith other)] } }
                k (.joining others)
              apply Ledger.Next.part (.outside k) other
              · rfl
              · rfl
              · rfl
              · apply (awaits_of_errand about).trans
                exact congrArg (other :: ·) ((awaitsNext (.outside k)).trans (if_pos rfl)).symm
              · intro y foreign
                exact (awaitsNext y).trans (if_neg foreign)
              · exact isOver
              · exact fun _ => rfl
          · exact still

/-- What happens next in a crowd is entered into its ledger. -/
theorem next_act (s : Surroundings σ) (c : Crowd σ) (a : Act σ) :
    c.ledger.Next (c.act s a).ledger := by
  cases a with
  | worker i => exact next_stepWorker s c i
  | ask k command environment receiver => exact next_ask s c k command environment receiver
  | await k => exact next_await c k
  | proceed k => exact next_proceed c k
  | aside m =>
      simp only [act]
      split
      · next aside =>
          apply next_of_roll
          cases m with
          | configure _ | useWatchdog _ | useDestroyer _ | foreign _ | disturb _ =>
              exact ⟨rfl, rfl, rfl, fun _ => rfl⟩
          | _ => contradiction
      · exact next_refl c

/-! ## Runs -/

theorem awaits_of_isFresh (fresh : c.IsFresh) (x : Caller) : c.awaits x = [] := by
  cases x with
  | outside k => simp [awaits, fresh.errands, Errand.awaited]
  | worker i => simp [awaits, Supervisor.phase?, fresh.workers]

theorem finds_of_isFresh (fresh : c.IsFresh) : c.ledger.Finds fun _ => .unborn := by
  apply Ledger.finds_of_empty
  · exact congrArg List.length fresh.workers
  · exact fresh.listed
  · exact fresh.partings
  · exact awaits_of_isFresh fresh

/-- At all times every worker is found in its place, and none goes back. -/
theorem exists_finds_play (s : Surroundings σ) {place : WorkerId → Place}
    (finds : c.ledger.Finds place) (acts : List (Act σ)) :
    ∃ place', (c.play s acts).ledger.Finds place' ∧ ∀ i, (place i).LeadsTo (place' i) :=
  finds.foldl ledger (act s) (next_act s) acts

end Crowd

end Overseer
