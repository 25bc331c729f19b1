import Overseer.Proofs.Supervisor.Crowd
import Overseer.Script.Rehearsal

/-!
# Waiting for workers

Whoever waits for the workers of a supervisor takes the list as it is and parts with those
on it, one after the other.  Whom others have taken, and who is put on the list meanwhile,
he does not wait for.
-/

namespace Overseer

namespace Crowd

variable {σ : Type} {c : Crowd σ} {i : WorkerId} {k : Nat} {place : WorkerId → Place}

/-! ## Taking the list -/

theorem await_of_idle (idle : c.errands k = .idle) :
    c.await k = { c with sup := c.sup.takeWorkers.2 }.setErrand k (.joining c.sup.listed) := by
  simp [await, idle]

theorem awaits_of_idle (idle : c.errands k = .idle) : c.awaits (.outside k) = [] :=
  awaits_of_errand idle

theorem awaits_await (idle : c.errands k = .idle) (x : Caller) :
    (c.await k).awaits x = if x = .outside k then c.sup.listed else c.awaits x := by
  rw [await_of_idle idle]
  exact awaits_setErrand _ k (.joining c.sup.listed) x

theorem place_await_ne_listed (finds : (c.await k).ledger.Finds place)
    (idle : c.errands k = .idle) (i : WorkerId) : place i ≠ .listed := by
  intro here
  have listed := (finds.listed i).mp here
  rw [await_of_idle idle] at listed
  contradiction

theorem place_await_ne_unborn (finds : (c.await k).ledger.Finds place)
    (idle : c.errands k = .idle) (old : i < c.sup.workers.length) : place i ≠ .unborn := by
  intro here
  have beyond := (finds.unborn i).mp here
  rw [await_of_idle idle] at beyond
  exact Nat.not_lt.mpr beyond old

theorem place_await_of_listed (finds : (c.await k).ledger.Finds place)
    (idle : c.errands k = .idle) (listed : i ∈ c.sup.listed) :
    place i = .awaited (.outside k) := by
  apply (finds.awaited i _).mpr
  change i ∈ (c.await k).awaits (.outside k)
  rw [awaits_await idle, if_pos rfl]
  exact listed

/-! ## Parting with the workers -/

/-- What somebody from outside had taken from the list he has joined when he is idle. -/
theorem joined_of_leadsTo (finds : c.ledger.Finds place) (idle : c.errands k = .idle)
    (leads : (Place.awaited (.outside k)).LeadsTo (place i)) :
    place i = .parted (.joined (.outside k)) := by
  rcases leads with still | ⟨p, here, own⟩
  · have awaited : i ∈ c.awaits (.outside k) := (finds.awaited i _).mp still
    rw [awaits_of_idle idle] at awaited
    contradiction
  · cases p with
    | joined x =>
        obtain rfl : x = .outside k := own
        exact here
    | detached x =>
        have itself := finds.detached i x here
        exact absurd (itself.symm.trans own) nofun

theorem joined_or_detached (finds : c.ledger.Finds place) {p : Parting}
    (here : place i = .parted p) :
    (∃ x, (i, .joined x) ∈ c.sup.partings ∧ c.sup.hasFinished i = true) ∨
      (i, .detached (.worker i)) ∈ c.sup.partings := by
  have member := (finds.parted i p).mp here
  cases p with
  | joined x => exact .inl ⟨x, member, (finds.joined i x here).2⟩
  | detached x =>
      obtain rfl := finds.detached i x here
      exact .inr member

/-- Who waits for the workers has parted with all that were on the list, once he is idle
again.

Each of them has finished and was joined by him.  No worker that was there when he began is
on the list any more: it was joined and has finished, or has detached itself, or somebody
else had taken it from the list before and still waits for it.  So the list is empty if no
worker was created meanwhile.  Nothing is said of one that was: it may still be on the list,
finished or not. -/
theorem parted_of_await (s : Surroundings σ) {start c c' : Crowd σ} (fresh : start.IsFresh)
    (before during : List (Act σ)) {k : Nat} (reached : start.play s before = c)
    (idle : c.errands k = .idle) (waited : c.play s (.await k :: during) = c')
    (returned : c'.errands k = .idle) :
    (∀ i ∈ c.sup.listed, (i, .joined (.outside k)) ∈ c'.sup.partings ∧
      c'.sup.hasFinished i = true) ∧
    (∀ i < c.sup.workers.length, i ∉ c'.sup.listed ∧
      ((∃ x, (i, .joined x) ∈ c'.sup.partings ∧ c'.sup.hasFinished i = true) ∨
        (i, .detached (.worker i)) ∈ c'.sup.partings ∨
        ∃ x, x ≠ .outside k ∧ i ∈ c.awaits x ∧ i ∈ c'.awaits x)) ∧
    (c'.sup.workers.length = c.sup.workers.length → c'.sup.listed = []) := by
  obtain ⟨place, finds, _⟩ := exists_finds_play s (finds_of_isFresh fresh) before
  rw [reached] at finds
  obtain ⟨taken, findsTaken, _⟩ := finds.next (next_await c k)
  obtain ⟨place', finds', later⟩ := exists_finds_play s findsTaken during
  change (c.play s (.await k :: during)).ledger.Finds place' at finds'
  rw [waited] at finds'
  have unlisted : ∀ i < c.sup.workers.length, place' i ≠ .listed := by
    intro i old here
    rcases (here ▸ later i).eq_of_listed with unborn | listed
    · exact place_await_ne_unborn findsTaken idle old unborn
    · exact place_await_ne_listed findsTaken idle i listed
  refine ⟨?_, ?_, ?_⟩
  · intro i listed
    have here := place_await_of_listed findsTaken idle listed
    have joined := joined_of_leadsTo finds' returned (here ▸ later i)
    exact ⟨(finds'.parted i _).mp joined, (finds'.joined i _ joined).2⟩
  · intro i old
    constructor
    · intro listed
      exact unlisted i old ((finds'.listed i).mpr listed)
    · cases here : place' i with
      | unborn =>
          have unborn := (here ▸ later i).eq_unborn
          exact absurd unborn (place_await_ne_unborn findsTaken idle old)
      | listed => exact absurd here (unlisted i old)
      | awaited x =>
          right; right
          have waits : i ∈ c'.awaits x := (finds'.awaited i x).mp here
          have foreign : x ≠ .outside k := by
            rintro rfl
            rw [awaits_of_idle returned] at waits
            contradiction
          have same : taken i = .awaited x := by
            rcases (here ▸ later i).eq_of_awaited with unborn | listed | same
            · exact absurd unborn (place_await_ne_unborn findsTaken idle old)
            · exact absurd listed (place_await_ne_listed findsTaken idle i)
            · exact same
          have awaited : i ∈ (c.await k).awaits x := (findsTaken.awaited i x).mp same
          rw [awaits_await idle, if_neg foreign] at awaited
          exact ⟨x, foreign, awaited, waits⟩
      | parted p =>
          rcases joined_or_detached finds' here with joined | detached
          · exact .inl joined
          · exact .inr (.inl detached)
  · intro none
    apply List.eq_nil_iff_forall_not_mem.mpr
    intro i listed
    have here := (finds'.listed i).mpr listed
    apply unlisted i _ here
    rw [← none]
    apply Nat.lt_of_not_le
    intro beyond
    simp [(finds'.unborn i).mpr beyond] at here

open Script in
/-- A supervisor that has no watchdog and no shutdown registry. -/
def plain : Crowd Cast where
  sup := {
    world := Cast.world {}
    settings := { handler := 0, journal := 0, directory := [] } }

open Script in
/-- Somebody asks for an execution whose receiver asks for another one. -/
def askingTwice : List (Act Cast) :=
  [.ask 0 rehearsed none
      (some { id := { index := 0 }, reactions := [.follow rehearsed { index := 1 }] }),
    .proceed 0, .worker 0, .proceed 0]

open Script in
/-- The worker goes on until its receiver is called, which asks and returns. -/
def goingOn : List (Act Cast) :=
  List.replicate 23 (.worker 0) ++ [.worker 1] ++ List.replicate 2 (.worker 0) ++
    [.proceed 0, .proceed 0]

open Script in
/-- The first worker is joined then. -/
theorem parted_of_await_plain :
    let c := plain.play Cast.rehearsal askingTwice
    let c' := c.play Cast.rehearsal (.await 0 :: goingOn)
    (0, .joined (.outside 0)) ∈ c'.sup.partings ∧ c'.sup.hasFinished 0 = true := by
  have fresh : plain.IsFresh := ⟨rfl, rfl, rfl, fun _ => rfl⟩
  have idle : (plain.play Cast.rehearsal askingTwice).errands 0 = .idle := by decide
  have listed : 0 ∈ (plain.play Cast.rehearsal askingTwice).sup.listed := by decide
  have returned : ((plain.play Cast.rehearsal askingTwice).play Cast.rehearsal
      (.await 0 :: goingOn)).errands 0 = .idle := by decide
  exact (parted_of_await Cast.rehearsal fresh askingTwice goingOn rfl idle rfl returned).1 0 listed

open Script in
/-- The second worker, which the receiver of the first one has started, stays on the list
though it has not finished. -/
theorem await_misses_worker :
    let c := plain.play Cast.rehearsal askingTwice
    let c' := c.play Cast.rehearsal (.await 0 :: goingOn)
    c.errands 0 = .idle ∧ c.sup.listed = [0] ∧ c'.errands 0 = .idle ∧
      c'.sup.partings = [(0, .joined (.outside 0))] ∧ c'.sup.listed = [1] ∧
      c'.sup.hasFinished 1 = false := by
  decide

end Crowd

end Overseer
