import Overseer.Proofs.Supervisor.Step
import Overseer.Script.Rehearsal

/-!
# What an execution takes down

Whoever asks for a background execution has the settings of the supervisor and his own command
line taken down in a plan, and may change both as soon as he has asked.  A desk is a supervisor
together with the command lines of its callers.

Changes reach the executions that are asked for later, all of them and as a whole, and nothing
else: two desks that differ in settings and command lines go the same way as long as the same is
taken down at both.
-/

namespace Overseer

/-- A change of one of the settings. -/
inductive Setting
  /-- Who handles streams, which must be given. -/
  | handler (i : Option HandlerId)
  /-- Who watches processes. -/
  | watchdog (i : Option WatchdogId)
  /-- Who destroys processes at shutdown. -/
  | destroyer (i : Option DestroyerId)
  /-- The directory processes start in. -/
  | directory (path : Bytes)
  /-- Where notices go, which must be given. -/
  | journal (i : Option JournalId)
  /-- The one exit value that counts as success. -/
  | exitValue (value : Int)
  /-- The exit values that count as success. -/
  | exitValues (values : SuccessValues)

/-- The settings after a change; one that is refused changes nothing. -/
def Settings.change (settings : Settings) : Setting → Settings
  | .handler i => (settings.withHandler i).toOption.getD settings
  | .watchdog i => { settings with watchdog := i }
  | .destroyer i => { settings with destroyer := i }
  | .directory path => { settings with directory := path }
  | .journal i => (settings.withJournal i).toOption.getD settings
  | .exitValue value => settings.withSuccessValue value
  | .exitValues values => { settings with success := values }

/-- The settings a plan was taken down with. -/
def Plan.settings (plan : Plan) : Settings where
  handler := plan.handler
  watchdog := plan.watchdog
  destroyer := plan.destroyer
  journal := plan.journal
  directory := plan.directory
  success := plan.success

/-- What is taken down for a background execution. -/
structure Commission where
  /-- What is to be done. -/
  plan : Plan
  /-- Who gets the outcome. -/
  receiver : Receiver
deriving DecidableEq

/-- What was taken down for the execution of a worker. -/
def Worker.commission (w : Worker) : Commission where
  plan := w.run.plan
  receiver := w.receiver

namespace Supervisor

variable {σ : Type}

/-- The same supervisor with other settings. -/
def under (sup : Supervisor σ) (settings : Settings) : Supervisor σ :=
  { sup with settings }

/-- What was taken down for the workers, in the order of their creation. -/
def commissions (sup : Supervisor σ) : List Commission :=
  sup.workers.map Worker.commission

/-- Whether a move changes the settings. -/
def Move.configures : Move σ → Bool
  | configure _ | useWatchdog _ | useDestroyer _ => true
  | worker _ | pass _ | submit _ _ _ _ | take | part _ _ | foreign _ | disturb _ => false

/-- What is taken down at a move that asks for an execution, be it that of a caller or that of
the receiver of another execution. -/
def commission? (sup : Supervisor σ) : Move σ → Option Commission
  | .submit _ command environment (some receiver) =>
      some { plan := sup.settings.plan command environment, receiver }
  | .worker i =>
      match sup.workers[i]?.map Worker.phase with
      | some (.reacting (.follow command receiver :: _)) =>
          some { plan := sup.settings.plan command none, receiver := { id := receiver } }
      | _ => none
  | _ => none

/-- Let new collaborators come into being. -/
def supply (sup : Supervisor σ) (dog : Option Watchdog) (destroyer : Option Destroyer)
    (journal : Option Journal) : Supervisor σ :=
  sup.moveTo { sup.world with
    watchdogs := sup.world.watchdogs ++ dog.toList
    destroyers := sup.world.destroyers ++ destroyer.toList
    journals := sup.world.journals ++ journal.toList }

end Supervisor

/-- A supervisor and its callers. -/
structure Desk (σ : Type) where
  /-- The supervisor. -/
  supervisor : Supervisor σ
  /-- The command lines that callers have written, and go on writing. -/
  drafts : Nat → CommandLine

namespace Desk

variable {σ : Type}

/-- What happens next at a desk. -/
inductive Act (σ : Type)
  /-- Somebody changes a setting. -/
  | set (change : Setting)
  /-- Somebody changes his command line. -/
  | edit (k : Nat) (change : CommandLine → CommandLine)
  /-- Somebody asks for the background execution of what his command line is now. -/
  | ask (caller : Caller) (k : Nat) (environment : Option Environment)
      (receiver : Option Receiver)
  /-- New collaborators come into being. -/
  | supply (dog : Option Watchdog) (destroyer : Option Destroyer) (journal : Option Journal)
  /-- Something else happens. -/
  | go (m : Supervisor.Move σ) (plain : m.configures = false)

namespace Act

/-- Whether others than the callers can see the act itself. -/
def isShared : Act σ → Bool
  | set _ | edit _ _ => false
  | ask _ _ _ _ | supply _ _ _ | go _ _ => true

end Act

/-- A desk after an act. -/
def act (s : Surroundings σ) (d : Desk σ) : Act σ → Desk σ
  | .set change =>
      { d with supervisor := d.supervisor.under (d.supervisor.settings.change change) }
  | .edit k change =>
      { d with drafts := fun l => if l = k then change (d.drafts l) else d.drafts l }
  | .ask caller k environment receiver =>
      { d with
        supervisor := d.supervisor.move s (.submit caller (d.drafts k) environment receiver) }
  | .supply dog destroyer journal =>
      { d with supervisor := d.supervisor.supply dog destroyer journal }
  | .go m _ => { d with supervisor := d.supervisor.move s m }

/-- A desk after one act after the other. -/
def play (s : Surroundings σ) (d : Desk σ) (acts : List (Act σ)) : Desk σ :=
  acts.foldl (act s) d

/-- What is taken down at an act that asks for an execution. -/
def capture? (d : Desk σ) : Act σ → Option Commission
  | .ask caller k environment receiver =>
      d.supervisor.commission? (.submit caller (d.drafts k) environment receiver)
  | .go m _ => d.supervisor.commission? m
  | .set _ | .edit _ _ | .supply _ _ _ => none

/-- What is taken down as one act follows the other. -/
def captures (s : Surroundings σ) (d : Desk σ) : List (Act σ) → List Commission
  | [] => []
  | a :: acts => (d.capture? a).toList ++ (d.act s a).captures s acts

/-- Desks that differ in settings and command lines at most.  A world has the orders given to
the launcher, all calls on collaborators and all journals; workers have their executions and
receivers, and boxes what these were called with. -/
structure Matches (d e : Desk σ) : Prop where
  /-- The worlds are the same. -/
  world : d.supervisor.world = e.supervisor.world
  /-- The workers are the same. -/
  workers : d.supervisor.workers = e.supervisor.workers
  /-- The same workers are listed. -/
  listed : d.supervisor.listed = e.supervisor.listed
  /-- The same workers were parted with. -/
  partings : d.supervisor.partings = e.supervisor.partings
  /-- The receivers have got the same. -/
  boxes : d.supervisor.boxes = e.supervisor.boxes

theorem matches_iff {d e : Desk σ} :
    d.Matches e ↔ d.supervisor = e.supervisor.under d.supervisor.settings := by
  rcases d with ⟨⟨_, _, _, _, _, _⟩, _⟩
  rcases e with ⟨⟨_, _, _, _, _, _⟩, _⟩
  constructor
  · rintro ⟨world, workers, listed, partings, boxes⟩
    simp_all [Supervisor.under]
  · intro same
    simp only [Supervisor.under, Supervisor.mk.injEq] at same
    obtain ⟨world, _, workers, listed, partings, boxes⟩ := same
    exact ⟨world, workers, listed, partings, boxes⟩

end Desk

/-! ## Moves do not look at settings -/

namespace Supervisor

variable {σ : Type} {s : Surroundings σ} {sup next : Supervisor σ} {i : WorkerId} {w : Worker}

theorem passStart?_under (sup : Supervisor σ) (settings : Settings) (other : WorkerId) :
    (sup.under settings).passStart? other = (sup.passStart? other).map (·.under settings) := by
  simp only [passStart?, under]
  split
  · rfl
  · rw [Option.map_map]
    rfl

theorem part?_under (sup : Supervisor σ) (settings : Settings) (caller : Caller)
    (other : WorkerId) :
    (sup.under settings).part? caller other =
      (sup.part? caller other).map (·.under settings) := by
  have same : (sup.under settings).hasFinished other = sup.hasFinished other := rfl
  unfold part?
  rw [same]
  split
  · rfl
  · split <;> rfl

theorem deliver_under (sup : Supervisor σ) (settings : Settings) (run : Run)
    (receiver : Receiver) (outcome : Outcome) :
    (sup.under settings).deliver run receiver outcome =
      (sup.deliver run receiver outcome).under settings := by
  unfold deliver
  split <;> rfl

/-- A worker whose receiver asks for nothing takes the same step under other settings. -/
theorem Steps.under (steps : Steps s sup i w next)
    (quiet : ∀ command receiver rest, w.phase ≠ .reacting (.follow command receiver :: rest))
    (settings : Settings) : Steps s (sup.under settings) i w (next.under settings) := by
  cases steps with
  | advance phase running answered => exact .advance phase running answered
  | conclude phase ended => exact .conclude phase ended
  | announce phase => exact .announce phase
  | observe phase observed => exact .observe phase observed
  | deliver phase =>
      have delivered : Steps s (sup.under settings) i w _ := .deliver phase
      rw [deliver_under] at delivered
      exact delivered
  | finish phase => exact .finish phase
  | raise phase => exact .raise phase
  | take phase => exact .take phase
  | refuse phase refused => exact absurd phase (quiet _ _ _)
  | ask phase asked => exact absurd phase (quiet _ _ _)
  | part phase parted =>
      have partedUnder := congrArg (Option.map (·.under settings)) parted
      exact .part phase ((part?_under sup settings _ _).trans partedUnder)
  | joined phase => exact .joined phase
  | pass phase passed =>
      have passedUnder := congrArg (Option.map (·.under settings)) passed
      exact .pass phase ((passStart?_under sup settings _).trans passedUnder)

theorem stepWorker?_under (quiet : sup.commission? (.worker i) = none) (settings : Settings) :
    (sup.under settings).stepWorker? s i = (sup.stepWorker? s i).map (·.under settings) := by
  cases found : sup.workers[i]? with
  | none => simp [stepWorker?, under, found]
  | some w =>
      have silent : ∀ command receiver rest,
          w.phase ≠ .reacting (.follow command receiver :: rest) := by
        intro command receiver rest phase
        simp [commission?, found, phase] at quiet
      have foundUnder : (sup.under settings).workers[i]? = some w := found
      cases stepped : sup.stepWorker? s i with
      | some next =>
          have steps := (stepWorker?_eq_some_iff found).mp stepped
          exact (stepWorker?_eq_some_iff foundUnder).mpr (steps.under silent settings)
      | none =>
          -- A step under other settings would be one under the own ones.
          cases other : (sup.under settings).stepWorker? s i with
          | none => rfl
          | some next =>
              have steps := (stepWorker?_eq_some_iff foundUnder).mp other
              have back := (stepWorker?_eq_some_iff found).mpr (steps.under silent sup.settings)
              rw [stepped] at back
              contradiction

/-- A move that neither changes the settings nor has anything taken down comes to the same under
other settings. -/
theorem move_under {m : Move σ} (plain : m.configures = false) (quiet : sup.commission? m = none)
    (settings : Settings) : (sup.under settings).move s m = (sup.move s m).under settings := by
  cases m with
  | worker i =>
      simp only [move, stepWorker?_under quiet settings]
      cases sup.stepWorker? s i <;> rfl
  | pass i =>
      simp only [move, passStart?_under]
      cases sup.passStart? i <;> rfl
  | part caller i =>
      simp only [move, part?_under]
      cases sup.part? caller i <;> rfl
  | submit caller command environment receiver =>
      cases receiver with
      | none => rfl
      | some given => contradiction
  | take | foreign r | disturb d => rfl
  | configure _ | useWatchdog _ | useDestroyer _ => contradiction

/-- Whether something is taken down does not depend on the settings. -/
theorem isSome_commission?_under (sup : Supervisor σ) (settings : Settings) (m : Move σ) :
    ((sup.under settings).commission? m).isSome = (sup.commission? m).isSome := by
  cases m with
  | worker i =>
      simp only [commission?, under]
      split <;> rfl
  | submit caller command environment receiver => cases receiver <;> rfl
  | _ => rfl

/-- What is taken down has all the settings. -/
theorem settings_of_commission {m : Move σ} {taken : Commission}
    (captured : sup.commission? m = some taken) : sup.settings = taken.plan.settings := by
  cases m with
  | worker i =>
      simp only [commission?] at captured
      split at captured
      · cases captured
        rfl
      · contradiction
  | submit caller command environment receiver =>
      cases receiver with
      | none => contradiction
      | some given =>
          cases captured
          rfl
  | _ => contradiction

/-! ## Moves leave settings alone -/

theorem settings_submit {caller : Caller} {command : CommandLine}
    {environment : Option Environment} {receiver : Option Receiver} {other : WorkerId}
    (asked : sup.submit s caller command environment receiver = .ok (other, next)) :
    next.settings = sup.settings := by
  cases receiver with
  | none => contradiction
  | some given =>
      simp only [submit] at asked
      cases checked : sup.checkDirectory s with
      | error fault =>
          rw [checked] at asked
          contradiction
      | ok _ =>
          rw [checked] at asked
          cases asked
          rfl

theorem settings_deliver (sup : Supervisor σ) (run : Run) (receiver : Receiver)
    (outcome : Outcome) : (sup.deliver run receiver outcome).settings = sup.settings := by
  unfold deliver
  split <;> rfl

theorem settings_part {caller : Caller} {other : WorkerId}
    (parted : sup.part? caller other = some next) : next.settings = sup.settings := by
  obtain ⟨_, rfl⟩ := exists_of_part parted
  rfl

theorem settings_pass {other : WorkerId} (passed : sup.passStart? other = some next) :
    next.settings = sup.settings := by
  rcases eq_of_passStart passed with ⟨_, rfl⟩ | ⟨_, _, _, _, rfl⟩ <;> rfl

theorem Steps.settings_eq (steps : Steps s sup i w next) : next.settings = sup.settings := by
  cases steps with
  | deliver _ => exact settings_deliver sup w.run w.receiver _
  | ask _ asked =>
      have same := settings_submit asked
      exact same
  | part _ parted =>
      have same := settings_part parted
      exact same
  | pass _ passed =>
      have same := settings_pass passed
      exact same
  | _ => rfl

/-- A move that is not possible changes nothing. -/
theorem of_getD {motive : Supervisor σ → Prop} {possible : Option (Supervisor σ)}
    (stays : motive sup) (moves : ∀ next, possible = some next → motive next) :
    motive (possible.getD sup) := by
  cases possible with
  | none => exact stays
  | some next => exact moves next rfl

theorem settings_move {m : Move σ} (plain : m.configures = false) :
    (sup.move s m).settings = sup.settings := by
  cases m with
  | worker i =>
      refine of_getD (motive := (·.settings = sup.settings)) rfl ?_
      intro next stepped
      obtain ⟨w, _, steps⟩ := steps_of_stepWorker stepped
      exact steps.settings_eq
  | pass i =>
      refine of_getD (motive := (·.settings = sup.settings)) rfl ?_
      intro next passed
      exact settings_pass passed
  | part caller i =>
      refine of_getD (motive := (·.settings = sup.settings)) rfl ?_
      intro next parted
      exact settings_part parted
  | submit caller command environment receiver =>
      simp only [move]
      cases asked : sup.submit s caller command environment receiver with
      | error fault => rfl
      | ok result => exact settings_submit asked
  | take | foreign r | disturb d => rfl
  | configure _ | useWatchdog _ | useDestroyer _ => contradiction

/-! ## Workers keep what was taken down -/

theorem commissions_updateWorker (sup : Supervisor σ) {i : WorkerId} {f : Worker → Worker}
    (kept : ∀ w, sup.workers[i]? = some w → (f w).commission = w.commission) :
    (sup.updateWorker i f).commissions = sup.commissions := by
  refine List.ext_getElem? fun j => ?_
  simp only [commissions, updateWorker, List.getElem?_map, List.getElem?_modify]
  by_cases own : i = j
  · subst own
    cases found : sup.workers[i]? with
    | none => rfl
    | some w => simp [kept w found]
  · simp [own]

@[simp]
theorem commissions_enter (sup : Supervisor σ) (i : WorkerId) (phase : Phase) :
    (sup.enter i phase).commissions = sup.commissions :=
  commissions_updateWorker sup fun _ _ => rfl

theorem commissions_deliver (sup : Supervisor σ) (run : Run) (receiver : Receiver)
    (outcome : Outcome) : (sup.deliver run receiver outcome).commissions = sup.commissions := by
  unfold deliver
  split <;> rfl

theorem commissions_submit {caller : Caller} {command : CommandLine}
    {environment : Option Environment} {receiver : Receiver} {other : WorkerId}
    (asked : sup.submit s caller command environment (some receiver) = .ok (other, next)) :
    next.commissions = sup.commissions ++
      [{ plan := sup.settings.plan command environment, receiver }] := by
  obtain ⟨_, _, given, same, workers, _⟩ := submit_eq_ok asked
  cases same
  simp [commissions, workers, Worker.commission]

theorem commissions_part {caller : Caller} {other : WorkerId}
    (parted : sup.part? caller other = some next) : next.commissions = sup.commissions := by
  simp only [commissions, workers_part parted]

theorem commissions_pass {other : WorkerId} (passed : sup.passStart? other = some next) :
    next.commissions = sup.commissions := by
  rcases eq_of_passStart passed with ⟨_, rfl⟩ | ⟨_, signal, _, _, rfl⟩
  · rfl
  · exact commissions_updateWorker _ fun _ _ => rfl

/-- Of what was taken down from one state to a later one, workers have come to carry out what
was not refused, and no other worker carries out anything new. -/
def Accepts (sup next : Supervisor σ) (taken : List Commission) : Prop :=
  ∃ accepted, accepted.Sublist taken ∧ next.commissions = sup.commissions ++ accepted

namespace Accepts

variable {taken : List Commission}

theorem of_eq (same : next.commissions = sup.commissions) : Accepts sup next taken :=
  ⟨[], List.nil_sublist _, by simpa using same⟩

theorem trans {last : Supervisor σ} {more : List Commission} (first : Accepts sup next taken)
    (second : Accepts next last more) : Accepts sup last (taken ++ more) := by
  obtain ⟨accepted, among, begun⟩ := first
  obtain ⟨acceptedLater, amongLater, ended⟩ := second
  refine ⟨accepted ++ acceptedLater, among.append amongLater, ?_⟩
  rw [ended, begun, List.append_assoc]

theorem submit {caller : Caller} {command : CommandLine} {environment : Option Environment}
    {receiver : Receiver} {other : WorkerId}
    (asked : sup.submit s caller command environment (some receiver) = .ok (other, next)) :
    Accepts sup next [{ plan := sup.settings.plan command environment, receiver }] :=
  ⟨_, List.Sublist.refl _, commissions_submit asked⟩

theorem enter (accepts : Accepts sup next taken) (phase : Phase) :
    Accepts sup (next.enter i phase) taken := by
  obtain ⟨accepted, among, same⟩ := accepts
  exact ⟨accepted, among, by rw [commissions_enter, same]⟩

/-- A worker's step. -/
theorem steps (steps : Steps s sup i w next) (found : sup.workers[i]? = some w) :
    Accepts sup next (sup.commission? (.worker i)).toList := by
  cases steps with
  | advance _ _ _ =>
      refine of_eq (commissions_updateWorker (sup.moveTo _) ?_)
      intro w' found'
      obtain rfl : w' = w := Option.some.inj (found'.symm.trans found)
      exact congrArg (Commission.mk · w'.receiver) (Run.plan_step s w'.run sup.world)
  | announce _ => exact of_eq (commissions_updateWorker _ fun _ _ => rfl)
  | conclude _ _ | observe _ _ | finish _ | take _ | raise _ | refuse _ _ | joined _ =>
      exact of_eq (commissions_enter _ i _)
  | deliver _ => exact (of_eq (commissions_deliver sup w.run w.receiver _)).enter _
  | ask phase asked => simpa [commission?, found, phase] using (submit asked).enter _
  | part _ parted => exact (of_eq (commissions_part parted)).enter _
  | pass _ passed => exact (of_eq (commissions_pass passed)).enter _

theorem move (s : Surroundings σ) (sup : Supervisor σ) (m : Move σ) :
    Accepts sup (sup.move s m) (sup.commission? m).toList := by
  cases m with
  | worker i =>
      refine of_getD (motive := fun next => Accepts sup next _) (of_eq rfl) ?_
      intro next stepped
      obtain ⟨w, found, taken⟩ := steps_of_stepWorker stepped
      exact steps taken found
  | pass i =>
      refine of_getD (motive := fun next => Accepts sup next _) (of_eq rfl) ?_
      intro next passed
      exact of_eq (commissions_pass passed)
  | part caller i =>
      refine of_getD (motive := fun next => Accepts sup next _) (of_eq rfl) ?_
      intro next parted
      exact of_eq (commissions_part parted)
  | submit caller command environment receiver =>
      simp only [Supervisor.move]
      cases asked : sup.submit s caller command environment receiver with
      | error fault => exact of_eq rfl
      | ok result =>
          cases receiver with
          | none => contradiction
          | some given => exact submit asked
  | _ => exact of_eq rfl

end Accepts

end Supervisor

namespace Desk

open Supervisor

variable {σ : Type} {s : Surroundings σ} {d e : Desk σ}

/-! ## Two desks at which the same is taken down -/

theorem play_append (s : Surroundings σ) (d : Desk σ) (acts more : List (Act σ)) :
    d.play s (acts ++ more) = (d.play s acts).play s more :=
  List.foldl_append

theorem captures_append (s : Surroundings σ) (d : Desk σ) (acts more : List (Act σ)) :
    d.captures s (acts ++ more) = d.captures s acts ++ (d.play s acts).captures s more := by
  induction acts generalizing d with
  | nil => rfl
  | cons a acts ih =>
      rw [List.cons_append, captures, ih, captures, List.append_assoc]
      rfl

namespace Matches

theorem refl (d : Desk σ) : d.Matches d :=
  ⟨rfl, rfl, rfl, rfl, rfl⟩

theorem symm (same : d.Matches e) : e.Matches d :=
  ⟨same.world.symm, same.workers.symm, same.listed.symm, same.partings.symm, same.boxes.symm⟩

theorem trans {f : Desk σ} (first : d.Matches e) (second : e.Matches f) : d.Matches f :=
  ⟨first.world.trans second.world, first.workers.trans second.workers,
    first.listed.trans second.listed, first.partings.trans second.partings,
    first.boxes.trans second.boxes⟩

theorem of_supervisor_eq (same : d.supervisor = e.supervisor) : d.Matches e := by
  rw [matches_iff, same]
  rfl

/-- Whether something is taken down does not depend on what would be. -/
theorem isSome_capture? (same : d.Matches e) (a : Act σ) :
    (d.capture? a).isSome = (e.capture? a).isSome := by
  rw [matches_iff] at same
  cases a with
  | ask _ _ _ receiver => cases receiver <;> rfl
  | go m _ =>
      simp only [capture?]
      rw [same, isSome_commission?_under]
  | set _ | edit _ _ | supply _ _ _ => rfl

/-- If the same is taken down, the supervisors are the same. -/
theorem supervisor_eq {a : Act σ} {taken : Commission} (same : d.Matches e)
    (left : d.capture? a = some taken) (right : e.capture? a = some taken) :
    d.supervisor = e.supervisor := by
  have settings : ∀ f : Desk σ, f.capture? a = some taken →
      f.supervisor.settings = taken.plan.settings := by
    intro f captured
    cases a with
    | ask _ _ _ _ | go _ _ => exact settings_of_commission captured
    | set _ | edit _ _ | supply _ _ _ => contradiction
  rw [matches_iff.mp same, settings d left, ← settings e right]
  rfl

/-- An act that callers keep to themselves. -/
theorem act_private (s : Surroundings σ) (d : Desk σ) {a : Act σ} (hidden : a.isShared = false) :
    (d.act s a).Matches d ∧ d.capture? a = none := by
  cases a with
  | set _ | edit _ _ => exact ⟨⟨rfl, rfl, rfl, rfl, rfl⟩, rfl⟩
  | ask _ _ _ _ | supply _ _ _ | go _ _ => contradiction

/-- Any other act, if the same is taken down at it. -/
theorem act_shared (same : d.Matches e) {a : Act σ} (shared : a.isShared = true)
    (captured : d.capture? a = e.capture? a) : (d.act s a).Matches (e.act s a) := by
  cases taken : d.capture? a with
  | some commission =>
      have takenToo : e.capture? a = some commission := captured.symm.trans taken
      cases a with
      | ask caller k environment receiver =>
          cases receiver with
          | none => contradiction
          | some given =>
              have commands : d.drafts k = e.drafts k :=
                congrArg (·.plan.command) (Option.some.inj captured)
              refine of_supervisor_eq ?_
              simp only [act, same.supervisor_eq taken takenToo, commands]
      | go m plain =>
          refine of_supervisor_eq ?_
          simp only [act, same.supervisor_eq taken takenToo]
      | set _ | edit _ _ | supply _ _ _ => contradiction
  | none =>
      have quiet : e.capture? a = none := captured.symm.trans taken
      have supervisors := matches_iff.mp same
      refine matches_iff.mpr ?_
      cases a with
      | ask caller k environment receiver =>
          cases receiver with
          | none => exact supervisors
          | some given => contradiction
      | supply dog destroyer journal =>
          simp only [act]
          rw [supervisors]
          rfl
      | go m plain =>
          simp only [act, settings_move plain]
          rw [supervisors]
          exact move_under plain quiet _
      | set _ | edit _ _ => contradiction

/-- Acts that callers keep to themselves. -/
theorem play_private (s : Surroundings σ) (d : Desk σ) {acts : List (Act σ)}
    (hidden : ∀ a ∈ acts, ¬ a.isShared = true) :
    (d.play s acts).Matches d ∧ d.captures s acts = [] := by
  induction acts generalizing d with
  | nil => exact ⟨refl d, rfl⟩
  | cons a acts ih =>
      have hiddenHead : a.isShared = false := by simpa using hidden a (by simp)
      obtain ⟨first, quiet⟩ := act_private s d hiddenHead
      obtain ⟨rest, quietRest⟩ := ih (d.act s a) (fun b among => hidden b (by simp [among]))
      refine ⟨rest.trans first, ?_⟩
      rw [captures, quiet, quietRest]
      rfl

/-- Desks that differ in settings and command lines at most do so after all acts, if the same
is taken down at both. -/
theorem play (same : d.Matches e) {acts others : List (Act σ)}
    (shared : acts.filter Act.isShared = others.filter Act.isShared)
    (captured : d.captures s acts = e.captures s others) :
    (d.play s acts).Matches (e.play s others) := by
  induction acts generalizing d e others with
  | nil =>
      have hidden : ∀ a ∈ others, ¬ a.isShared = true := List.filter_eq_nil_iff.mp shared.symm
      exact same.trans (play_private s e hidden).1.symm
  | cons a acts ih =>
      cases visible : a.isShared with
      | false =>
          obtain ⟨first, quiet⟩ := act_private s d visible
          rw [List.filter_cons_of_neg (by simp [visible])] at shared
          rw [captures, quiet] at captured
          exact ih (first.trans same) shared captured
      | true =>
          rw [List.filter_cons_of_pos visible] at shared
          -- The other desk comes to the same act after some that are kept private.
          obtain ⟨before, after, rfl, hidden, _, later⟩ :=
            List.filter_eq_cons_iff.mp shared.symm
          obtain ⟨unmoved, quiet⟩ := play_private s e hidden
          have reached := same.trans unmoved.symm
          rw [captures_append, quiet, captures, captures, List.nil_append] at captured
          have sameLength : (d.capture? a).toList.length =
              ((e.play s before).capture? a).toList.length := by
            simp only [Option.length_toList, reached.isSome_capture? a]
          obtain ⟨head, tail⟩ := List.append_inj captured sameLength
          have sameHere : d.capture? a = (e.play s before).capture? a := by
            simpa only [Option.head?_toList] using congrArg List.head? head
          rw [play_append]
          exact ih (reached.act_shared visible sameHere) later.symm tail

end Matches

/-! ## What is taken down -/

end Desk

end Overseer
