import Overseer.Proofs.Watchdog.History

/-!
# Timers that end in time

A deadline is computed in the 64 bits of the clock.  A timeout that is so long that they cannot
hold its end wraps around to an earlier deadline, and its timer ends before its time, maybe at
once.  Every other timer ends on time, whatever operations follow on its watchdog.  An operation
takes place as a whole here: nothing comes between the sections of one.
-/

namespace Overseer

/-- The reading of a clock that was started a century of 36525 days ago. -/
def Instant.century : Instant :=
  36525 * 24 * 3600 * 1000000000

namespace Timeout

/-- When a timeout that begins now is over, in nanoseconds, however many there are. -/
def exactDeadline (now : Instant) (timeout : Timeout) : Int :=
  now.toInt + timeout.toInt * 1000000

/-- Whether the clock can show when a timeout that begins now is over. -/
def InReach (now : Instant) (timeout : Timeout) : Prop :=
  timeout.exactDeadline now ≤ Int64.maxValue.toInt

instance (now : Instant) (timeout : Timeout) : Decidable (timeout.InReach now) :=
  inferInstanceAs (Decidable (_ ≤ _))

/-- The longest timeout that is in reach whenever it begins within a century. -/
def longest : Timeout :=
  6067612036854

section

variable {now : Instant} {timeout : Timeout}

theorem toInt_pos (accepted : timeout.isAccepted = true) (finite : timeout ≠ infinite) :
    0 < timeout.toInt := by
  have positive : 0 < timeout := by simpa [isAccepted, finite] using accepted
  exact Int64.lt_iff_toInt_lt.mp positive

theorem inReach_iff : timeout.InReach now ↔ timeout.exactDeadline now < 9223372036854775808 :=
  Int.lt_add_one_iff.symm

/-- What 64 bits keep of a deadline. -/
theorem toInt_deadline (now : Instant) (timeout : Timeout) :
    (timeout.deadline now).toInt = (timeout.exactDeadline now).bmod Int64.size := by
  rw [deadline, Int64.toInt_add, Int64.toInt_mul, Int.add_bmod_bmod]
  rfl

theorem toInt_deadline_eq_iff (positive : 0 < timeout.toInt) :
    (timeout.deadline now).toInt = timeout.exactDeadline now ↔ timeout.InReach now := by
  constructor
  · intro exact
    rw [InReach, ← exact]
    exact Int64.toInt_le _
  · intro reach
    have least := Int64.le_toInt now
    have size : Int64.size = 18446744073709551616 := rfl
    rw [inReach_iff] at reach
    rw [toInt_deadline]
    unfold exactDeadline at reach ⊢
    apply Int.bmod_eq_of_le
    · omega
    · omega

/-- Neither turning a timeout into nanoseconds nor adding it to the time overflows if, and only
if, it is in reach. -/
theorem exact_iff_inReach (positive : 0 < timeout.toInt) (up : 0 ≤ now) :
    (timeout * 1000000).toInt = timeout.toInt * 1000000 ∧
        (timeout.deadline now).toInt = timeout.exactDeadline now ↔ timeout.InReach now := by
  rw [toInt_deadline_eq_iff positive, and_iff_right_iff_imp]
  intro reach
  have started : 0 ≤ now.toInt := Int64.le_iff_toInt_le.mp up
  rw [inReach_iff, exactDeadline] at reach
  have factor : (1000000 : Int64).toInt = 1000000 := rfl
  rw [Int64.toInt_mul, factor]
  apply Int.bmod_eq_of_le
  · omega
  · omega

/-- The instants from a deadline on are those by which the timeout is over if, and only if, it is
in reach. -/
theorem forall_deadline_le_iff (positive : 0 < timeout.toInt) :
    (∀ t : Instant, timeout.deadline now ≤ t ↔ timeout.exactDeadline now ≤ t.toInt) ↔
      timeout.InReach now := by
  constructor
  · intro agree
    have reached := (agree (timeout.deadline now)).mp (Int64.le_refl _)
    exact Int.le_trans reached (Int64.toInt_le _)
  · intro reach t
    rw [Int64.le_iff_toInt_le, (toInt_deadline_eq_iff positive).mpr reach]

/-- The timeouts that are in reach for a century are those up to the longest. -/
theorem forall_inReach_iff :
    (∀ now : Instant, 0 ≤ now → now < Instant.century → timeout.InReach now) ↔
      timeout ≤ longest := by
  have century : Instant.century.toInt = 3155760000000000000 := by decide
  have bound : longest.toInt = 6067612036854 := by decide
  rw [Int64.le_iff_toInt_le, bound]
  constructor
  · intro reach
    have last := reach (Instant.century - 1) (by decide) (by decide)
    have reading : (Instant.century - 1).toInt = 3155759999999999999 := by decide
    rw [inReach_iff, exactDeadline] at last
    omega
  · intro short now _ early
    rw [Int64.lt_iff_toInt_lt, century] at early
    rw [inReach_iff, exactDeadline]
    omega

end

end Timeout

/-! ## Timers -/

namespace Watchdog

/-- Whatever timer is in place ends at an instant. -/
def EndsAt (deadline : Instant) (dog : Watchdog) : Prop :=
  ∀ timer ∈ dog.timer, timer.deadline = deadline

variable {dog : Watchdog}

theorem EndsAt.of_timer {deadline : Instant} {later : Watchdog} (endsAt : dog.EndsAt deadline)
    (same : later.timer = dog.timer) : later.EndsAt deadline := by
  intro timer found
  rw [same] at found
  exact endsAt timer found

theorem EndsAt.retireTimer {deadline : Instant} (endsAt : dog.EndsAt deadline) :
    dog.retireTimer.EndsAt deadline := by
  intro timer retired
  obtain ⟨before, found, rfl⟩ := Option.map_eq_some_iff.mp retired
  exact endsAt before found

theorem endsAt_stop (deadline : Instant) (dog : Watchdog) : dog.stop.EndsAt deadline := by
  intro timer found
  exact absurd found (Option.not_mem_none timer)

/-- A timer that is due has reached its end. -/
theorem EndsAt.le_of_isDue {deadline now : Instant} (endsAt : dog.EndsAt deadline)
    (due : dog.isDue now = true) : deadline ≤ now := by
  unfold isDue at due
  split at due
  · next timer found =>
      rw [← endsAt timer found]
      simp only [Bool.and_eq_true, decide_eq_true_eq] at due
      exact due.2
  · contradiction

theorem timer_beginKill (dog : Watchdog) : dog.beginKill.timer = dog.timer := by
  unfold beginKill
  split <;> rfl

theorem timer_of_settle {settled : Watchdog} {reply : Except Fault Unit}
    (done : dog.settle reply = .ok settled) : settled.timer = dog.timer := by
  obtain ⟨fault, rfl⟩ := settle_eq_ok done
  rfl

theorem timer_forgetLaunch (dog : Watchdog) : dog.forgetLaunch.timer = dog.timer := by
  unfold forgetLaunch
  split <;> rfl

theorem timer_launchFailed (dog : Watchdog) (fault : Option Fault) :
    (dog.launchFailed fault).timer = dog.timer := by
  unfold launchFailed
  split <;> rfl

/-- Starting puts a timer in place that is due from the deadline on. -/
theorem start_of_free (now : Instant) (p : ProcessRef) (free : dog.process = none)
    (finite : dog.timeout ≠ .infinite) :
    ∃ started, dog.start now p = .ok started ∧ started.process = some p ∧
      started.timer = some { process := p, deadline := dog.timeout.deadline now } ∧
      ∀ t, started.isDue t = true ↔ dog.timeout.deadline now ≤ t := by
  refine ⟨_, by simp only [start, clearance, free]; rfl, rfl, if_neg finite, ?_⟩
  intro t
  simp [isDue, commit, finite]

end Watchdog

namespace World

open Watchdog

variable {σ : Type} {s : Surroundings σ} {w : World σ} {i : WatchdogId} {dog : Watchdog}
  {p : ProcessRef} {deadline : Instant}

/-- A kill leaves the timer in place. -/
theorem timer_kill (s : Surroundings σ) (known : w.watchdogs[i]? = some dog) :
    ∃ later, (w.kill s i).2.watchdogs[i]? = some later ∧ later.timer = dog.timer := by
  cases target : dog.target? with
  | none =>
      refine ⟨dog.clear, ?_, rfl⟩
      rw [kill_of_idle known target]
      exact watchdogs_updateWatchdog known _
  | some p =>
      refine ⟨_, (kill_of_target known target).2, ?_⟩
      cases done : dog.beginKill.settle (s.destroy p w.outside).1 with
      | error fault => exact timer_beginKill dog
      | ok settled => exact (timer_of_settle done).trans (timer_beginKill dog)

/-- A timer keeps its deadline until another watch begins. -/
theorem endsAt_operate (known : w.watchdogs[i]? = some dog) (endsAt : dog.EndsAt deadline)
    (op : Operation σ) (same : ∀ incident ∈ w.incident? s i op, incident.isWatched = false) :
    ∃ later, (w.operate s i op).watchdogs[i]? = some later ∧ later.EndsAt deadline := by
  cases op with
  | start p =>
      cases started : dog.start w.clock p with
      | error fault =>
          have refused : w.operate s i (.start p) = w := by simp [operate, startWatch, known, started]
          rw [refused]
          exact ⟨dog, known, endsAt⟩
      | ok watching =>
          have begun : w.incident? s i (.start p) = some (.watched p) := by
            simp [incident?, startWatch, known, started]
          exact Bool.noConfusion (same _ begun)
  | stop => exact ⟨dog.stop, watchdogs_updateWatchdog known _, endsAt_stop deadline dog⟩
  | kill =>
      simp only [operate]
      split
      · obtain ⟨later, known', timer⟩ := timer_kill s known
        exact ⟨later, known', endsAt.of_timer timer⟩
      · exact ⟨dog, known, endsAt⟩
  | expire =>
      obtain ⟨later, known', timer⟩ := timer_kill s known
      exact ⟨later.retireTimer, watchdogs_updateWatchdog known' _,
        (endsAt.of_timer timer).retireTimer⟩
  | forgetLaunch =>
      exact ⟨dog.forgetLaunch, watchdogs_updateWatchdog known _,
        endsAt.of_timer (timer_forgetLaunch dog)⟩
  | launchFailed fault =>
      exact ⟨dog.launchFailed fault, watchdogs_updateWatchdog known _,
        endsAt.of_timer (timer_launchFailed dog fault)⟩
  | check => exact ⟨dog, known, endsAt⟩
  | aside d =>
      refine ⟨dog, ?_, endsAt⟩
      simp only [operate]
      split
      · exact known
      · next other => rw [watchdogs_disturb s w (by simpa using other), known]

theorem endsAt_operateAll (known : w.watchdogs[i]? = some dog) (endsAt : dog.EndsAt deadline)
    (ops : List (Operation σ))
    (same : ∀ incident ∈ w.history s i ops, incident.isWatched = false) :
    ∃ later, (w.operateAll s i ops).watchdogs[i]? = some later ∧ later.EndsAt deadline := by
  induction ops generalizing w dog with
  | nil => exact ⟨dog, known, endsAt⟩
  | cons op ops inductionHypothesis =>
      rw [history] at same
      obtain ⟨next, known', endsAt'⟩ := endsAt_operate (s := s) known endsAt op
        fun incident remembered =>
          same incident (List.mem_append_left _ (Option.mem_toList.mpr remembered))
      exact inductionHypothesis known' endsAt' fun incident remembered =>
        same incident (List.mem_append_right _ remembered)

/-- Until another watch begins, the timer of a watchdog is not due before a time, whatever
operations follow one another on the watchdog and in the rest of the world. -/
def NotDueBefore (s : Surroundings σ) (i : WatchdogId) (time : Int) (w : World σ) : Prop :=
  ∀ ops : List (Operation σ), (∀ incident ∈ w.history s i ops, incident.isWatched = false) →
    let later := w.operateAll s i ops
    ∀ dog, later.watchdogs[i]? = some dog → dog.isDue later.clock = true → time ≤ later.clock.toInt

/-- The clock reaches an instant that is waited for. -/
theorem le_clock_elapse (s : Surroundings σ) (w : World σ) (t : Instant) :
    t ≤ (w.elapse s t).clock := by
  change t ≤ if w.clock ≤ t then t else w.clock
  split
  · exact Int64.le_refl t
  · next passed => exact (Int64.le_total w.clock t).resolve_left passed

/-- A timer that is due from a deadline on is not due before the timeout is over if, and only if,
the timeout was in reach. -/
theorem notDueBefore_iff {started : Watchdog} {timeout : Timeout} {now : Instant}
    (positive : 0 < timeout.toInt) (known : w.watchdogs[i]? = some started)
    (endsAt : started.EndsAt (timeout.deadline now))
    (due : ∀ t, started.isDue t = true ↔ timeout.deadline now ≤ t) :
    w.NotDueBefore s i (timeout.exactDeadline now) ↔ timeout.InReach now := by
  constructor
  · intro notDue
    -- Let nothing happen but that the clock reaches the deadline.
    let wait : Operation σ := .aside (.time (timeout.deadline now))
    have reached := notDue [wait] (by simp [wait, history, incident?]) started known
      ((due _).mpr (le_clock_elapse s w _))
    exact Int.le_trans reached (Int64.toInt_le _)
  · intro reach ops same later dog known' due'
    obtain ⟨last, knownLast, endsLast⟩ := endsAt_operateAll known endsAt ops same
    obtain rfl : last = dog := Option.some.inj (knownLast.symm.trans known')
    rw [← (Timeout.toInt_deadline_eq_iff positive).mpr reach]
    exact Int64.le_iff_toInt_le.mp (endsLast.le_of_isDue due')

/-- When the timer of a watch ends, for whatever watchdog that could be made with its timeout and
watches nothing yet, and whatever process it is given.

* The watch begins, with a timer for that process that is due from its deadline on.
* The deadline is as far off as the timeout says, with nothing overflowing, if, and only if, the
  clock can show that.
* So it is for the instants at which the timer is due being those by which the timeout is over.
* So it is for the timer never being due before the timeout is over, whatever operations follow one
  another on the watchdog and in the rest of the world, each as a whole, until another watch begins.
* So it is at every reading within a century, if, and only if, the timeout is no longer than the
  longest. -/
theorem ends_in_time_iff (s : Surroundings σ) (p : ProcessRef)
    (known : w.watchdogs[i]? = some dog) (free : dog.process = none)
    (accepted : dog.timeout.isAccepted = true) (finite : dog.timeout ≠ .infinite)
    (up : 0 ≤ w.clock) :
    let later := (w.startWatch i p).2
    let ends := dog.timeout.exactDeadline w.clock
    (w.startWatch i p).1 = .ok () ∧
    ∃ started timer, later.watchdogs[i]? = some started ∧ started.process = some p ∧
      started.timer = some timer ∧ timer.process = p ∧
      (∀ t, started.isDue t = true ↔ timer.deadline ≤ t) ∧
      ((dog.timeout * 1000000).toInt = dog.timeout.toInt * 1000000 ∧
        timer.deadline.toInt = ends ↔ dog.timeout.InReach w.clock) ∧
      ((∀ t, started.isDue t = true ↔ ends ≤ t.toInt) ↔ dog.timeout.InReach w.clock) ∧
      (later.NotDueBefore s i ends ↔ dog.timeout.InReach w.clock) ∧
      ((∀ now, 0 ≤ now → now < Instant.century → dog.timeout.InReach now) ↔
        dog.timeout ≤ .longest) := by
  intro later ends
  have positive := Timeout.toInt_pos accepted finite
  obtain ⟨started, start, watched, timer, due⟩ := start_of_free w.clock p free finite
  have begun : w.startWatch i p = (.ok (), w.updateWatchdog i fun _ => started) := by
    simp only [startWatch, known, start]
  have known' : later.watchdogs[i]? = some started := by
    simp only [later, begun]
    exact watchdogs_updateWatchdog known _
  have endsAt : started.EndsAt (dog.timeout.deadline w.clock) := by
    intro found inPlace
    rw [timer] at inPlace
    rw [← Option.some.inj inPlace]
  refine ⟨by rw [begun], started, _, known', watched, timer, rfl, due,
    Timeout.exact_iff_inReach positive up, ?_, notDueBefore_iff positive known' endsAt due,
    Timeout.forall_inReach_iff⟩
  simp only [due]
  exact Timeout.forall_deadline_le_iff positive

open Script in
/-- A watchdog with the longest timeout, at the last instant of a century. -/
def patient : World Cast :=
  { Cast.world {} with
    watchdogs := [{ timeout := .longest, journal := none }], clock := Instant.century - 1 }

open Script in
/-- It does not end before the timeout is over. -/
theorem ends_in_time_iff_patient :
    ((patient.startWatch 0 .outsider).2).NotDueBefore Cast.rehearsal 0
      (3155759999999999999 + 6067612036854 * 1000000) := by
  obtain ⟨_, _, _, _, _, _, _, _, _, _, notDue, _⟩ :=
    ends_in_time_iff (w := patient) (i := 0) Cast.rehearsal .outsider rfl rfl (by decide)
      (by decide) (by decide)
  exact notDue.mpr (by decide)

/-- The longest timeout that 64 bits can hold is accepted, but its deadline lies a millisecond
before the watch began, so that the timer is due at once. -/
theorem overdue_from_the_start :
    Int64.maxValue ≠ Timeout.infinite ∧ 0 ≤ Instant.first ∧ Instant.first < Instant.century ∧
      ∃ dog started, Watchdog.create Int64.maxValue none = .ok dog ∧
        dog.start Instant.first .outsider = .ok started ∧
        dog.timeout.deadline Instant.first = Instant.first - 1000000 ∧
        (dog.timeout.deadline Instant.first).toInt ≠ dog.timeout.exactDeadline Instant.first ∧
        started.isDue Instant.first = true := by
  refine ⟨by decide, by decide, by decide, _, _, rfl, rfl, by decide, by decide, by decide⟩

end World

end Overseer
