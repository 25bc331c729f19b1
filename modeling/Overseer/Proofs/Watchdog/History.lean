import Overseer.Proofs.Execution.Mark

/-!
# Histories of a watchdog

Somebody uses a watchdog in one way after the other: he has processes watched and stops the
watch, has the watched process destroyed, lets the timer end, and tells of launches.  Most of
that leaves something to remember.  What was remembered since the last watch began decides the
whole state of the watchdog, and a history can be told without looking at that state.
-/

namespace Overseer

namespace Watchdog

/-- What somebody does with a watchdog, each in one step. -/
inductive Operation (σ : Type)
  /-- Have a process watched. -/
  | start (p : ProcessRef)
  /-- Stop watching. -/
  | stop
  /-- Have the watched process destroyed, if a launch was tried. -/
  | kill
  /-- Let the timer end, whether or not it was due. -/
  | expire
  /-- Forget earlier launches. -/
  | forgetLaunch
  /-- Tell of a failed launch. -/
  | launchFailed (fault : Option Fault)
  /-- Ask for the fault the watchdog holds. -/
  | check
  /-- Something happens that has to do with other watchdogs, or with none. -/
  | aside (d : Disturbance σ)

/-- What is remembered of an operation. -/
inductive Incident
  /-- A watch has begun. -/
  | watched (p : ProcessRef)
  /-- The watch was stopped. -/
  | stopped
  /-- The watchdog destroyed a process, which raised a fault or none. -/
  | destroyed (p : ProcessRef) (fault : Option Fault)
  /-- A launch failed while nothing was watched. -/
  | failed (fault : Option Fault)
deriving DecidableEq

namespace Incident

/-- Whether a watch has begun. -/
def isWatched : Incident → Bool
  | watched _ => true
  | _ => false

/-- The process that the watchdog destroyed. -/
def destroyed? : Incident → Option ProcessRef
  | destroyed p _ => some p
  | _ => none

/-- What there is to hold from then on. -/
def holds? : Incident → Option (Option Fault)
  | destroyed _ (some fault) => some (some fault)
  | failed fault => some fault
  | _ => none

/-- Whether nothing but a fault of a known kind was raised. -/
def isStandard : Incident → Bool
  | destroyed _ (some fault) => fault.isStandard
  | _ => true

end Incident

/-- What a call raised. -/
def raised? : Except Fault Unit → Option Fault
  | .ok () => none
  | .error fault => some fault

/-- What was remembered since the last watch began, or from the beginning if none has. -/
def sinceWatch : List Incident → List Incident
  | [] => []
  | incident :: later => if later.any Incident.isWatched then sinceWatch later else incident :: later

/-- The last fault there was to hold. -/
def lastHeld (recent : List Incident) : Option Fault :=
  (recent.filterMap Incident.holds?).getLast?.join

theorem sinceWatch_append (history : List Incident) (incident : Incident) :
    sinceWatch (history ++ [incident]) =
      if incident.isWatched then [incident] else sinceWatch history ++ [incident] := by
  induction history with
  | nil => simp [sinceWatch]
  | cons first later inductionHypothesis =>
      rw [List.cons_append, sinceWatch, inductionHypothesis, List.any_append]
      cases watched : incident.isWatched <;> cases some : later.any Incident.isWatched <;>
        simp [sinceWatch, watched, some]

/-- A watchdog is as the incidents since its last watch began have left it. -/
structure Agrees (dog : Watchdog) (recent : List Incident) : Prop where
  watching : dog.watching = dog.process.isSome
  held : ∀ p, dog.process = some p → dog.started = true ∧ recent = [.watched p]
  destroyed : ∀ p ∈ recent.filterMap Incident.destroyed?, recent.head? = some (.watched p)
  once : (recent.filterMap Incident.destroyed?).length ≤ 1
  ordered : recent.Pairwise fun earlier later => earlier = .stopped → later.destroyed? = none
  killed : dog.killed = true ↔ recent.filterMap Incident.destroyed? ≠ []
  fault : dog.fault = lastHeld recent

/-- How one operation changes a watchdog, and what is remembered of it. -/
inductive Changes (dog dog' : Watchdog) : Option Incident → Prop
  /-- Nothing changes but the timer and marks of launches. -/
  | rest (process : dog'.process = dog.process) (watching : dog'.watching = dog.watching)
      (killed : dog'.killed = dog.killed) (fault : dog'.fault = dog.fault)
      (started : dog.watching = true → dog.started = true → dog'.started = true) :
      Changes dog dog' none
  /-- There is nothing to destroy. -/
  | idle (free : dog.target? = none) (process : dog'.process = none)
      (watching : dog'.watching = false) (killed : dog'.killed = dog.killed)
      (fault : dog'.fault = dog.fault) : Changes dog dog' none
  /-- A watch begins. -/
  | watched (p : ProcessRef) (process : dog'.process = some p) (watching : dog'.watching = true)
      (killed : dog'.killed = false) (started : dog'.started = true) (fault : dog'.fault = none) :
      Changes dog dog' (some (.watched p))
  /-- The watch is stopped. -/
  | stopped (process : dog'.process = none) (watching : dog'.watching = false)
      (killed : dog'.killed = dog.killed) (fault : dog'.fault = dog.fault) :
      Changes dog dog' (some .stopped)
  /-- The watched process is destroyed. -/
  | destroyed (p : ProcessRef) (raised : Option Fault) (target : dog.target? = some p)
      (process : dog'.process = none) (watching : dog'.watching = false)
      (killed : dog'.killed = true) (fault : dog'.fault = raised.or dog.fault) :
      Changes dog dog' (some (.destroyed p raised))
  /-- A launch has failed. -/
  | failed (fault : Option Fault) (free : dog.watching = false)
      (process : dog'.process = dog.process) (watching : dog'.watching = dog.watching)
      (killed : dog'.killed = dog.killed) (holds : dog'.fault = fault) :
      Changes dog dog' (some (.failed fault))

/-- What is remembered after one more operation. -/
def remember (recent : List Incident) : Option Incident → List Incident
  | none => recent
  | some incident => if incident.isWatched then [incident] else recent ++ [incident]

variable {dog dog' : Watchdog} {recent : List Incident} {p : ProcessRef} {fault : Option Fault}

/-- Whether a timer runs makes no difference. -/
theorem Changes.retireTimer {incident : Option Incident} (changes : dog.Changes dog' incident) :
    dog.Changes dog'.retireTimer incident := by
  cases changes with
  | rest process watching killed fault started =>
      exact .rest process watching killed fault started
  | idle free process watching killed fault => exact .idle free process watching killed fault
  | watched p process watching killed started fault =>
      exact .watched p process watching killed started fault
  | stopped process watching killed fault => exact .stopped process watching killed fault
  | destroyed p raised target process watching killed fault =>
      exact .destroyed p raised target process watching killed fault
  | failed fault free process watching killed holds =>
      exact .failed fault free process watching killed holds

/-! ## The state and the history agree -/

theorem lastHeld_append (recent : List Incident) (incident : Incident) :
    lastHeld (recent ++ [incident]) = incident.holds?.getD (lastHeld recent) := by
  unfold lastHeld
  rw [List.filterMap_append]
  cases holds : incident.holds? <;> simp [holds]

namespace Agrees

theorem process_of_idle (agrees : dog.Agrees recent) (free : dog.target? = none) :
    dog.process = none := by
  unfold target? at free
  split at free
  · exact free
  · next idle =>
      rw [agrees.watching] at idle
      simpa using idle

theorem rest (agrees : dog.Agrees recent) (process : dog'.process = dog.process)
    (watching : dog'.watching = dog.watching) (killed : dog'.killed = dog.killed)
    (fault : dog'.fault = dog.fault)
    (started : dog.watching = true → dog.started = true → dog'.started = true) :
    dog'.Agrees recent where
  watching := by rw [watching, process, agrees.watching]
  held := by
    intro p holds
    rw [process] at holds
    obtain ⟨mark, only⟩ := agrees.held p holds
    refine ⟨started ?_ mark, only⟩
    rw [agrees.watching, holds]
    rfl
  destroyed := agrees.destroyed
  once := agrees.once
  ordered := agrees.ordered
  killed := by rw [killed, agrees.killed]
  fault := by rw [fault, agrees.fault]

theorem watched (process : dog'.process = some p) (watching : dog'.watching = true)
    (killed : dog'.killed = false) (started : dog'.started = true) (fault : dog'.fault = none) :
    dog'.Agrees [.watched p] where
  watching := by rw [watching, process]; rfl
  held := by
    intro q holds
    obtain rfl : p = q := Option.some.inj (process.symm.trans holds)
    exact ⟨started, rfl⟩
  destroyed := nofun
  once := Nat.zero_le 1
  ordered := List.pairwise_singleton ..
  killed := by simp [killed, Incident.destroyed?]
  fault := by simp [fault, lastHeld, Incident.holds?]

/-- Whoever watches nothing any more may be told of things that destroy nothing. -/
theorem append (agrees : dog.Agrees recent) {incident : Incident}
    (process : dog'.process = none) (watching : dog'.watching = false)
    (killed : dog'.killed = dog.killed)
    (fault : dog'.fault = incident.holds?.getD dog.fault)
    (harmless : incident.destroyed? = none) : dog'.Agrees (recent ++ [incident]) where
  watching := by rw [watching, process]; rfl
  held := by simp [process]
  destroyed := by
    intro p destroyed
    rw [List.filterMap_append] at destroyed
    simp only [List.filterMap_cons, harmless, List.filterMap_nil, List.append_nil] at destroyed
    rw [List.head?_append, agrees.destroyed p destroyed]
    rfl
  once := by
    rw [List.filterMap_append]
    simpa [harmless] using agrees.once
  ordered := by
    apply List.pairwise_append.mpr
    refine ⟨agrees.ordered, List.pairwise_singleton .., ?_⟩
    intro earlier _ later last _
    rw [List.mem_singleton.mp last]
    exact harmless
  killed := by
    rw [killed, agrees.killed, List.filterMap_append]
    simp [harmless]
  fault := by rw [fault, agrees.fault, lastHeld_append]

theorem destroyed_watched {raised : Option Fault} (process : dog'.process = none)
    (watching : dog'.watching = false) (killed : dog'.killed = true) (fault : dog'.fault = raised) :
    dog'.Agrees [.watched p, .destroyed p raised] where
  watching := by rw [watching, process]; rfl
  held := by simp [process]
  destroyed := by
    intro q destroyed
    obtain rfl : q = p := List.mem_singleton.mp destroyed
    rfl
  once := Nat.le_refl 1
  ordered := by simp
  killed := by simp [killed, Incident.destroyed?]
  fault := by
    rw [fault]
    cases raised <;> rfl

/-- What is done with a watchdog leaves it in agreement with what is remembered. -/
theorem changes (agrees : dog.Agrees recent) {incident : Option Incident}
    (changes : dog.Changes dog' incident) : dog'.Agrees (remember recent incident) := by
  cases changes with
  | rest process watching killed fault started =>
      exact agrees.rest process watching killed fault started
  | idle free process watching killed fault =>
      have nobody := agrees.process_of_idle free
      have idle : dog.watching = false := by rw [agrees.watching, nobody]; rfl
      apply agrees.rest (process.trans nobody.symm) (watching.trans idle.symm) killed fault
      rw [idle]
      nofun
  | watched p process watching killed started fault =>
      exact .watched process watching killed started fault
  | stopped process watching killed fault =>
      exact agrees.append process watching killed fault rfl
  | destroyed p raised target process watching killed fault =>
      obtain ⟨_, holds⟩ := process_of_target target
      obtain ⟨_, rfl⟩ := agrees.held p holds
      -- Nothing is held while a process is watched.
      have nothing : dog.fault = none := agrees.fault
      rw [nothing, Option.or_none] at fault
      exact .destroyed_watched process watching killed fault
  | failed fault free process watching killed holds =>
      have nobody : dog.process = none := by simpa [free] using agrees.watching
      exact agrees.append (process.trans nobody) (watching.trans free) killed holds rfl

end Agrees

end Watchdog

/-! ## Using a watchdog -/

/-- The process that a watchdog destroys by a call. -/
def Event.slainBy? (i : WatchdogId) : Event → Option ProcessRef
  | .destroy (.watchdog k) p => if k = i then some p else none
  | _ => none

namespace World

open Watchdog

variable {σ : Type}

/-- The world after somebody has done something with a watchdog. -/
def operate (s : Surroundings σ) (i : WatchdogId) (w : World σ) : Operation σ → World σ
  | .start p => (w.startWatch i p).2
  | .stop => w.stopWatch i
  | .kill => if w.canKill i then (w.kill s i).2 else w
  | .expire => w.expire s i
  | .forgetLaunch => w.updateWatchdog i Watchdog.forgetLaunch
  | .launchFailed fault => w.updateWatchdog i (·.launchFailed fault)
  | .check => w
  | .aside d => if d.endsWatch i then w else d.apply s w

/-- What is remembered when the watched process, if any, is destroyed. -/
def slaying? (s : Surroundings σ) (i : WatchdogId) (w : World σ) : Option Incident :=
  (w.watchdogs[i]?.bind Watchdog.target?).map fun p =>
    .destroyed p (raised? (s.destroy p w.outside).1)

/-- What is remembered of what somebody does with a watchdog. -/
def incident? (s : Surroundings σ) (i : WatchdogId) (w : World σ) : Operation σ → Option Incident
  | .start p =>
      match (w.startWatch i p).1 with
      | .ok () => some (.watched p)
      | .error _ => none
  | .stop => some .stopped
  | .kill => if w.canKill i then w.slaying? s i else none
  | .expire => w.slaying? s i
  | .launchFailed fault =>
      if w.watchdogs[i]?.any (·.watching) then none else some (.failed fault)
  | .forgetLaunch | .check | .aside _ => none

/-- The world after somebody has done one thing after the other. -/
def operateAll (s : Surroundings σ) (i : WatchdogId) (w : World σ) (ops : List (Operation σ)) :
    World σ :=
  ops.foldl (operate s i) w

/-- What is remembered of what somebody does, in order. -/
def history (s : Surroundings σ) (i : WatchdogId) : World σ → List (Operation σ) → List Incident
  | _, [] => []
  | w, op :: ops => (w.incident? s i op).toList ++ history s i (w.operate s i op) ops

variable {s : Surroundings σ} {w : World σ} {i : WatchdogId} {dog : Watchdog} {p : ProcessRef}

/-! ## Kills -/

/-- What becomes of a watchdog that has destroyed its process. -/
theorem exists_settle (target : dog.target? = some p) {reply : Except Fault Unit}
    (standard : (Incident.destroyed p (raised? reply)).isStandard = true) :
    ∃ settled, dog.beginKill.settle reply = .ok settled ∧
      dog.Changes settled (some (.destroyed p (raised? reply))) := by
  have begun : dog.beginKill = { dog with killed := true } := by simp [beginKill, target]
  rw [begun]
  cases reply with
  | ok _ => exact ⟨_, rfl, .destroyed p none target rfl rfl rfl rfl⟩
  | error fault =>
      have isStandard : fault.isStandard = true := standard
      exact ⟨_, if_pos isStandard, .destroyed p (some fault) target rfl rfl rfl rfl⟩

/-- A kill changes its watchdog. -/
theorem changes_kill (known : w.watchdogs[i]? = some dog)
    (standard : ∀ incident ∈ w.slaying? s i, incident.isStandard = true) :
    ∃ dog', (w.kill s i).2.watchdogs[i]? = some dog' ∧ dog.Changes dog' (w.slaying? s i) := by
  cases target : dog.target? with
  | none =>
      refine ⟨dog.clear, ?_, ?_⟩
      · rw [kill_of_idle known target]
        exact watchdogs_updateWatchdog known _
      · rw [slaying?, known, Option.bind_some, target]
        exact .idle target rfl rfl rfl rfl
  | some p =>
      rw [slaying?, known, Option.bind_some, target] at standard ⊢
      obtain ⟨settled, done, changes⟩ := exists_settle target (standard _ rfl)
      have struck := (kill_of_target (s := s) known target).2
      rw [done] at struck
      exact ⟨settled, struck, changes⟩

/-- Whoever is slain is slain by a call. -/
theorem slain_kill (s : Surroundings σ) (w : World σ) (i : WatchdogId) :
    (w.kill s i).2.trace.filterMap (Event.slainBy? i) =
      w.trace.filterMap (Event.slainBy? i) ++
        (w.slaying? s i).toList.filterMap Incident.destroyed? := by
  cases known : w.watchdogs[i]? with
  | none => simp [kill, slaying?, known]
  | some dog =>
      rw [slaying?, known, Option.bind_some]
      cases target : dog.target? with
      | none =>
          rw [kill_of_idle known target]
          simp
      | some p =>
          rw [(kill_of_target known target).1, List.filterMap_append]
          simp [Event.slainBy?, Incident.destroyed?]

/-! ## Single operations -/

theorem slain_kill_of_ne (s : Surroundings σ) (w : World σ) {k : WatchdogId} (other : k ≠ i) :
    (w.kill s k).2.trace.filterMap (Event.slainBy? i) = w.trace.filterMap (Event.slainBy? i) := by
  cases known : w.watchdogs[k]? with
  | none => simp [kill, known]
  | some dog =>
      cases target : dog.target? with
      | none =>
          rw [kill_of_idle known target]
          rfl
      | some p =>
          rw [(kill_of_target known target).1, List.filterMap_append]
          simp [Event.slainBy?, other]

theorem slain_destroyAll (s : Surroundings σ) (k : DestroyerId) (journal : Option JournalId)
    (processes : List ProcessRef) (w : World σ) :
    (w.destroyAll s k journal processes).2.trace.filterMap (Event.slainBy? i) =
      w.trace.filterMap (Event.slainBy? i) := by
  induction processes generalizing w with
  | nil => rfl
  | cons p rest inductionHypothesis =>
      have destroyed : (w.destroy s (.destroyer k) p).2.trace.filterMap (Event.slainBy? i) =
          w.trace.filterMap (Event.slainBy? i) := by
        simp [destroy, Event.slainBy?]
      rw [destroyAll]
      split
      · next v replied =>
          rw [replied] at destroyed
          rw [inductionHypothesis, destroyed]
      · next fault v replied =>
          rw [replied] at destroyed
          split
          · rw [inductionHypothesis, trace_noteIf, destroyed]
          · exact destroyed

/-- What does not end its watch lets the watchdog slay nobody. -/
theorem slain_disturb (s : Surroundings σ) (w : World σ) {d : Disturbance σ}
    (aside : d.endsWatch i = false) :
    (d.apply s w).trace.filterMap (Event.slainBy? i) = w.trace.filterMap (Event.slainBy? i) := by
  cases d with
  | timer k | kill k =>
      have other : k ≠ i := by simpa [Disturbance.endsWatch] using aside
      exact slain_kill_of_ne s w other
  | shutdown k =>
      simp only [Disturbance.apply, runRegistry]
      split
      · exact slain_destroyAll ..
      · rfl
  | time t | outside change => rfl

/-- The processes that a watchdog has destroyed are those that are remembered. -/
theorem slain_operate (s : Surroundings σ) (w : World σ) (i : WatchdogId) (op : Operation σ) :
    (w.operate s i op).trace.filterMap (Event.slainBy? i) =
      w.trace.filterMap (Event.slainBy? i) ++
        (w.incident? s i op).toList.filterMap Incident.destroyed? := by
  have nothing : ∀ incident? : Option Incident, incident?.bind Incident.destroyed? = none →
      incident?.toList.filterMap Incident.destroyed? = [] := by
    intro incident? harmless
    cases incident? with
    | none => rfl
    | some incident => simpa using harmless
  cases op with
  | kill =>
      simp only [operate, incident?]
      split
      · exact slain_kill s w i
      · simp
  | expire => exact slain_kill s w i
  | start p =>
      rw [nothing _ (by simp only [incident?]; split <;> rfl), List.append_nil]
      exact congrArg _ (trace_startWatch w i p)
  | launchFailed fault =>
      rw [nothing _ (by simp only [incident?]; split <;> rfl), List.append_nil]
      rfl
  | aside d =>
      rw [nothing _ rfl, List.append_nil]
      simp only [operate]
      split
      · rfl
      · next other => exact slain_disturb s w (by simpa using other)
  | stop | forgetLaunch | check =>
      rw [nothing _ rfl, List.append_nil]
      rfl

/-! ## One operation after the other -/

theorem changes_start {now : Instant} {next : Watchdog} (started : dog.start now p = .ok next) :
    dog.Changes next (some (.watched p)) := by
  unfold Watchdog.start clearance at started
  split at started
  · contradiction
  · cases started
    exact .watched p rfl rfl rfl rfl rfl

/-- An operation changes the watchdog as it is remembered. -/
theorem changes_operate (known : w.watchdogs[i]? = some dog) (op : Operation σ)
    (standard : ∀ incident ∈ w.incident? s i op, incident.isStandard = true) :
    ∃ dog', (w.operate s i op).watchdogs[i]? = some dog' ∧
      dog.Changes dog' (w.incident? s i op) := by
  have same : dog.Changes dog none := .rest rfl rfl rfl rfl fun _ mark => mark
  cases op with
  | start p =>
      simp only [operate, incident?, startWatch, known]
      cases started : dog.start w.clock p with
      | error fault => exact ⟨dog, known, same⟩
      | ok next => exact ⟨next, watchdogs_updateWatchdog known _, changes_start started⟩
  | stop => exact ⟨dog.stop, watchdogs_updateWatchdog known _, .stopped rfl rfl rfl rfl⟩
  | kill =>
      simp only [operate, incident?] at standard ⊢
      cases able : w.canKill i with
      | true =>
          simp only [able, if_true] at standard ⊢
          exact changes_kill known standard
      | false => exact ⟨dog, known, same⟩
  | expire =>
      obtain ⟨dog', known', changes⟩ := changes_kill known standard
      exact ⟨dog'.retireTimer, watchdogs_updateWatchdog known' _, changes.retireTimer⟩
  | forgetLaunch =>
      refine ⟨dog.forgetLaunch, watchdogs_updateWatchdog known _, ?_⟩
      unfold Watchdog.forgetLaunch
      split
      · exact same
      · next free => exact .rest rfl rfl rfl rfl fun watching => absurd watching free
  | launchFailed fault =>
      refine ⟨dog.launchFailed fault, watchdogs_updateWatchdog known _, ?_⟩
      simp only [incident?, known, Option.any_some, Watchdog.launchFailed]
      split
      · exact .rest rfl rfl rfl rfl fun _ _ => rfl
      · next free => exact .failed fault (by simpa using free) rfl rfl rfl rfl
  | check => exact ⟨dog, known, same⟩
  | aside d =>
      refine ⟨dog, ?_, same⟩
      simp only [operate]
      split
      · exact known
      · next other => rw [watchdogs_disturb s w (by simpa using other), known]

theorem sinceWatch_append_toList (past : List Incident) (incident : Option Incident) :
    sinceWatch (past ++ incident.toList) = remember (sinceWatch past) incident := by
  cases incident with
  | none => simp [remember]
  | some incident => exact sinceWatch_append past incident

/-- Whatever is done with a watchdog, it goes on to agree with what is remembered. -/
theorem agrees_operateAll (known : w.watchdogs[i]? = some dog) (past : List Incident)
    (agrees : dog.Agrees (sinceWatch past)) (ops : List (Operation σ))
    (standard : ∀ incident ∈ w.history s i ops, incident.isStandard = true) :
    ∃ dog', (w.operateAll s i ops).watchdogs[i]? = some dog' ∧
      dog'.Agrees (sinceWatch (past ++ w.history s i ops)) := by
  induction ops generalizing w dog past with
  | nil => exact ⟨dog, known, by simpa [history] using agrees⟩
  | cons op ops inductionHypothesis =>
      rw [history] at standard ⊢
      obtain ⟨dog', known', changes⟩ := changes_operate (s := s) known op fun incident remembered =>
        standard incident (List.mem_append_left _ (Option.mem_toList.mpr remembered))
      have agrees' := agrees.changes changes
      rw [← sinceWatch_append_toList] at agrees'
      obtain ⟨last, knownLast, agreesLast⟩ := inductionHypothesis known' _ agrees'
        fun incident remembered => standard incident (List.mem_append_right _ remembered)
      rw [List.append_assoc] at agreesLast
      exact ⟨last, knownLast, agreesLast⟩

theorem slain_operateAll (s : Surroundings σ) (w : World σ) (i : WatchdogId)
    (ops : List (Operation σ)) :
    (w.operateAll s i ops).trace.filterMap (Event.slainBy? i) =
      w.trace.filterMap (Event.slainBy? i) ++
        (w.history s i ops).filterMap Incident.destroyed? := by
  induction ops generalizing w with
  | nil => simp [operateAll, history]
  | cons op ops inductionHypothesis =>
      have later := inductionHypothesis (w.operate s i op)
      rw [slain_operate, List.append_assoc, ← List.filterMap_append] at later
      exact later

theorem agrees_of_create {timeout : Timeout} {journal : Option JournalId}
    (created : Watchdog.create timeout journal = .ok dog) : dog.Agrees [] := by
  unfold create at created
  split at created
  · cases created
    constructor <;> simp [lastHeld]
  · contradiction

/-- A start is refused just while something is watched, and changes nothing then. -/
theorem startWatch_of_agrees {recent : List Incident} (known : w.watchdogs[i]? = some dog)
    (agrees : dog.Agrees recent) (p : ProcessRef) :
    if dog.watching then w.startWatch i p = (.error .alreadyWatching, w)
    else (w.startWatch i p).1 = .ok () := by
  rw [agrees.watching]
  cases held : dog.process <;>
    simp [startWatch, known, Watchdog.start, clearance, held, Except.map]

/-- What state a watchdog is in, after whatever was done with it since it was created, as long
as nothing of an unknown kind was raised when it destroyed a process.

* It watches if, and only if, it holds a process; then a launch was tried, nothing is killed,
  and no fault is held.
* To have a process watched is refused if, and only if, it watches, and changes nothing then.
* Since the last watch began it has destroyed at most one process, the one this watch was for,
  and none after the watch was stopped; and it has killed if, and only if, there is one.
* The fault it holds is the last that was raised by destroying that process or told of a
  launch while nothing was watched, since the last watch began or from the beginning.

The processes that it has destroyed by calls are those that are remembered. -/
theorem state_follows_history (s : Surroundings σ) {timeout : Timeout}
    {journal : Option JournalId} (created : Watchdog.create timeout journal = .ok dog)
    (known : w.watchdogs[i]? = some dog) (ops : List (Operation σ))
    (standard : ∀ incident ∈ w.history s i ops, incident.isStandard = true) :
    let later := w.operateAll s i ops
    let recent := sinceWatch (w.history s i ops)
    ∃ dog', later.watchdogs[i]? = some dog' ∧
      dog'.watching = dog'.process.isSome ∧
      (dog'.watching = true → dog'.started = true ∧ dog'.killed = false ∧ dog'.fault = none) ∧
      (∀ p, if dog'.watching then later.startWatch i p = (.error .alreadyWatching, later)
        else (later.startWatch i p).1 = .ok ()) ∧
      (recent.filterMap Incident.destroyed?).length ≤ 1 ∧
      (∀ p ∈ recent.filterMap Incident.destroyed?, recent.head? = some (.watched p)) ∧
      (recent.Pairwise fun earlier later => earlier = .stopped → later.destroyed? = none) ∧
      (dog'.killed = true ↔ recent.filterMap Incident.destroyed? ≠ []) ∧
      later.watchdogFault (some i) = lastHeld recent ∧
      later.trace.filterMap (Event.slainBy? i) = w.trace.filterMap (Event.slainBy? i) ++
        (w.history s i ops).filterMap Incident.destroyed? := by
  intro later recent
  obtain ⟨dog', known', agrees⟩ :=
    agrees_operateAll known [] (agrees_of_create created) ops standard
  change dog'.Agrees recent at agrees
  refine ⟨dog', known', agrees.watching, ?_, ?_, agrees.once, agrees.destroyed, agrees.ordered,
    agrees.killed, ?_, slain_operateAll s w i ops⟩
  · intro watching
    rw [agrees.watching] at watching
    obtain ⟨p, holds⟩ := Option.isSome_iff_exists.mp watching
    obtain ⟨started, only⟩ := agrees.held p holds
    have killed := agrees.killed
    have fault := agrees.fault
    rw [only] at killed fault
    exact ⟨started, by simpa [Incident.destroyed?] using killed, fault⟩
  · exact startWatch_of_agrees known' agrees
  · rw [watchdogFault, Option.bind_some, known', Option.bind_some, agrees.fault]

open Script in
/-- Two processes, of which the first raises a fault when it is destroyed. -/
def unruly : World Cast :=
  Cast.world { launched := [{ script := { destroyFault := some (.runtime []) } }, {}] }

open Script in
/-- The first process is watched, which keeps the second one out, until the timer ends. -/
def watchAndExpire : List (Operation Cast) :=
  [.launchFailed (some (.logic [])), .start (.launched 0), .start (.launched 1), .expire, .kill,
    .forgetLaunch]

open Script in
/-- The watchdog has killed the first process only, and holds what that raised. -/
theorem state_follows_history_watchAndExpire :
    ∃ dog', (unruly.operateAll Cast.rehearsal 0 watchAndExpire).watchdogs[0]? = some dog' ∧
      dog'.killed = true ∧
      (unruly.operateAll Cast.rehearsal 0 watchAndExpire).watchdogFault (some 0) =
        some (.runtime []) ∧
      (unruly.operateAll Cast.rehearsal 0 watchAndExpire).trace.filterMap (Event.slainBy? 0) =
        [.launched 0] := by
  have created : Watchdog.create .infinite (some 0) = .ok _ := rfl
  have remembered : unruly.history Cast.rehearsal 0 watchAndExpire =
      [.failed (some (.logic [])), .watched (.launched 0),
        .destroyed (.launched 0) (some (.runtime []))] := by decide
  have standard : ∀ incident ∈ unruly.history Cast.rehearsal 0 watchAndExpire,
      incident.isStandard = true := by
    rw [remembered]
    decide
  obtain ⟨dog', known, _, _, _, _, _, _, killed, fault, slain⟩ :=
    state_follows_history Cast.rehearsal created rfl watchAndExpire standard
  rw [remembered] at killed fault slain
  exact ⟨dog', known, killed.mpr (by decide), fault, slain⟩

end World

end Overseer
