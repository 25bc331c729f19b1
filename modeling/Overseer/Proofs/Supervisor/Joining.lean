import Mathlib.Data.List.Nodup
import Overseer.Proofs.Supervisor.Await
import Overseer.Proofs.Supervisor.Turns

/-!
# Joining workers

Callers from outside and receivers of workers ask for executions, join finished workers,
and wait for workers, all at the same time.  What a receiver does is not settled in advance:
it may make up its mind whenever it is about to do something.

Whatever they do, every worker is taken from the list once and parted with once, nobody
joins himself, and nobody ever waits for himself by way of others.
-/

namespace Overseer

open Relation

namespace Crowd

variable {σ : Type} {s : Surroundings σ} {c : Crowd σ} {i : WorkerId} {x y : Caller}
  {place : WorkerId → Place} {turn : Caller → Nat} {now : Nat}

/-! ## Receivers that make up their minds -/

/-- A receiver that is not in the middle of a call makes up its mind what to do. -/
def resolve (c : Crowd σ) (i : WorkerId) (reactions : List Reaction) : Crowd σ :=
  match c.sup.phase? i with
  | some (.reacting _) =>
      if c.asking i then c else { c with sup := c.sup.enter i (.reacting reactions) }
  | _ => c

/-- What happens in a crowd with receivers that make up their minds. -/
inductive Happening (σ : Type)
  /-- Somebody does his next section. -/
  | act (a : Act σ)
  /-- A receiver makes up its mind. -/
  | resolve (i : WorkerId) (reactions : List Reaction)

/-- A crowd after something has happened. -/
def happen (s : Surroundings σ) (c : Crowd σ) : Happening σ → Crowd σ
  | .act a => c.act s a
  | .resolve i reactions => c.resolve i reactions

/-- A crowd after one thing has happened after the other. -/
def undergo (s : Surroundings σ) (c : Crowd σ) (happenings : List (Happening σ)) : Crowd σ :=
  happenings.foldl (happen s) c

/-- How often a worker is taken from the list. -/
def removals (s : Surroundings σ) (i : WorkerId) (c : Crowd σ) : List (Happening σ) → Nat
  | [] => 0
  | h :: happenings =>
      (if i ∈ c.sup.listed ∧ i ∉ (c.happen s h).sup.listed then 1 else 0) +
        (c.happen s h).removals s i happenings

/-- How often a worker was parted with. -/
def partingsWith (c : Crowd σ) (i : WorkerId) : Nat :=
  (c.sup.partings.map Prod.fst).count i

/-- Where a worker is, with how often it was taken from the list and parted with. -/
inductive Standing (c : Crowd σ) (i : WorkerId) : Nat → Nat → Prop
  /-- It is on the list. -/
  | listed (here : i ∈ c.sup.listed) (free : ∀ x, i ∉ c.awaits x) : Standing c i 0 0
  /-- One caller has taken it and has yet to part with it. -/
  | awaited (x : Caller) (unlisted : i ∉ c.sup.listed) (here : i ∈ c.awaits x)
      (only : ∀ y, i ∈ c.awaits y → y = x) : Standing c i 1 0
  /-- Somebody has taken it and parted with it. -/
  | parted (unlisted : i ∉ c.sup.listed) (free : ∀ x, i ∉ c.awaits x) : Standing c i 1 1

/-- The next section of a caller who is busy. -/
def Act.goOn : Caller → Act σ
  | .outside k => .proceed k
  | .worker i => .worker i

/-- Nothing is entered when a receiver makes up its mind. -/
theorem next_resolve (c : Crowd σ) (i : WorkerId) (reactions : List Reaction) :
    c.ledger.Next (c.resolve i reactions).ledger := by
  unfold resolve
  split
  · next here =>
      split
      · exact next_refl c
      · exact next_of_enter (.refl c.sup) here rfl nofun rfl
  · exact next_refl c

/-- Whatever happens in a crowd is entered into its ledger. -/
theorem next_happen (s : Surroundings σ) (c : Crowd σ) (h : Happening σ) :
    c.ledger.Next (c.happen s h).ledger := by
  cases h with
  | act a => exact next_act s c a
  | resolve i reactions => exact next_resolve c i reactions

theorem onlyBornTake (c : Crowd σ) : c.ledger.OnlyBornTake := by
  intro i beyond
  have unborn : c.sup.workers[i]? = none := List.getElem?_eq_none beyond
  simp [ledger, awaits, Supervisor.phase?, unborn]

/-! ## Whatever happens -/

/-- At all times every worker is found in its place. -/
theorem exists_finds_undergo (s : Surroundings σ) (finds : c.ledger.Finds place)
    (happenings : List (Happening σ)) :
    ∃ place', (c.undergo s happenings).ledger.Finds place' := by
  obtain ⟨place', finds', _⟩ := finds.foldl ledger (happen s) (next_happen s) happenings
  exact ⟨place', finds'⟩

/-- At all times the callers have taken the list one after the other. -/
theorem exists_inTurn_undergo (s : Surroundings σ) (inTurn : c.ledger.InTurn turn now)
    (happenings : List (Happening σ)) :
    ∃ turn' now', (c.undergo s happenings).ledger.InTurn turn' now' := by
  induction happenings generalizing c turn now with
  | nil => exact ⟨turn, now, inTurn⟩
  | cons h happenings inductionHypothesis =>
      obtain ⟨mid, inTurnMid⟩ := inTurn.next (onlyBornTake c) (next_happen s c h)
      exact inductionHypothesis inTurnMid

/-- A worker has left the list if it had done so before, or is taken from it meanwhile. -/
theorem removals_add (s : Surroundings σ) (finds : c.ledger.Finds place) (i : WorkerId)
    (happenings : List (Happening σ)) :
    c.removals s i happenings + (if c.ledger.HasLeft i then 1 else 0) =
      if (c.undergo s happenings).ledger.HasLeft i then 1 else 0 := by
  induction happenings generalizing c place with
  | nil => exact Nat.zero_add _
  | cons h happenings inductionHypothesis =>
      obtain ⟨mid, findsMid, _⟩ := finds.next (next_happen s c h)
      have left : (c.happen s h).ledger.HasLeft i ↔
          c.ledger.HasLeft i ∨ i ∈ c.sup.listed ∧ i ∉ (c.happen s h).sup.listed :=
        (next_happen s c h).hasLeft_iff finds
      calc c.removals s i (h :: happenings) + (if c.ledger.HasLeft i then 1 else 0)
          = (c.happen s h).removals s i happenings +
              ((if i ∈ c.sup.listed ∧ i ∉ (c.happen s h).sup.listed then 1 else 0) +
                if c.ledger.HasLeft i then 1 else 0) := by
            rw [removals, Nat.add_comm (ite _ _ _), Nat.add_assoc]
        _ = (c.happen s h).removals s i happenings +
              if (c.happen s h).ledger.HasLeft i then 1 else 0 := by
            congr 1
            by_cases before : c.ledger.HasLeft i
            · have unlisted : i ∉ c.sup.listed := before.2
              simp [left, before, unlisted]
            · simp [left, before]
        _ = if (c.undergo s (h :: happenings)).ledger.HasLeft i then 1 else 0 :=
            inductionHypothesis findsMid

theorem not_hasLeft_of_isFresh (fresh : c.IsFresh) (i : WorkerId) : ¬ c.ledger.HasLeft i := by
  rintro ⟨born, _⟩
  simp [ledger, fresh.workers] at born

/-! ## Where workers are -/

theorem partingsWith_eq_zero (finds : c.ledger.Finds place) (elsewhere : ∀ p, place i ≠ .parted p) :
    c.partingsWith i = 0 :=
  List.count_eq_zero.mpr (finds.notMem_partings elsewhere)

theorem partingsWith_eq_one (finds : c.ledger.Finds place) {p : Parting}
    (here : place i = .parted p) : c.partingsWith i = 1 :=
  List.count_eq_one_of_mem finds.nodup_partings
    (List.mem_map_of_mem ((finds.parted i p).mp here))

theorem notMem_awaits (finds : c.ledger.Finds place) (elsewhere : ∀ x, place i ≠ .awaited x)
    (x : Caller) : i ∉ c.awaits x := by
  intro awaited
  exact elsewhere x ((finds.awaited i x).mpr awaited)

/-! ## The next section of somebody who waits -/

theorem errand_of_awaits {k : Nat} {others : List WorkerId}
    (first : c.awaits (.outside k) = i :: others) : c.errands k = .joining (i :: others) := by
  cases about : c.errands k with
  | joining awaited =>
      rw [awaits_of_errand about] at first
      exact congrArg _ first
  | idle | asking | starting =>
      rw [awaits_of_errand about] at first
      contradiction

theorem worker_of_awaits {j : WorkerId} {others : List WorkerId}
    (first : c.awaits (.worker j) = i :: others) :
    ∃ w rest, c.sup.workers[j]? = some w ∧ w.phase = .joining (i :: others) rest := by
  cases found : c.sup.workers[j]? with
  | none => simp [awaits, Supervisor.phase?, found] at first
  | some w =>
      rw [awaits_of_phase (Supervisor.phase?_of_worker found)] at first
      cases phase : w.phase with
      | joining awaited rest =>
          rw [phase] at first
          obtain rfl : awaited = i :: others := first
          exact ⟨w, rest, rfl, phase⟩
      | executing | announcing | holding | delivering | reacting | starting | finished =>
          rw [phase] at first
          contradiction

/-- Somebody has to wait for the first worker he has taken just when he cannot part with
it. -/
theorem waitsOn_iff {others : List WorkerId} (first : c.awaits x = i :: others) :
    c.ledger.WaitsOn x (.worker i) ↔ c.sup.part? x i = none := by
  have isFirst : (c.awaits x).head? = some i := by rw [first]; rfl
  rw [Option.eq_none_iff_forall_not_mem]
  constructor
  · rintro ⟨_, ⟨⟩, foreign, _, unfinished⟩ next parted
    have isOver := (Supervisor.part?_eq_some_iff.mp parted).1 foreign
    exact absurd (unfinished.symm.trans isOver) nofun
  · intro stuck
    have noParting := fun isOver =>
      stuck _ (Supervisor.part?_eq_some_iff.mpr ⟨isOver, rfl⟩)
    refine ⟨i, rfl, ?_, isFirst, ?_⟩
    · intro own
      exact noParting fun foreign => absurd own foreign
    · cases finished : c.sup.hasFinished i with
      | false => exact finished
      | true => exact absurd (fun _ => finished) noParting

/-- Who waits for a worker can do nothing else. -/
theorem act_goOn_of_waitsOn (s : Surroundings σ) (waits : c.ledger.WaitsOn x y) :
    c.act s (.goOn x) = c := by
  obtain ⟨i, rfl, _, isFirst, _⟩ := id waits
  obtain ⟨others, first⟩ := List.head?_eq_some_iff.mp isFirst
  have stuck := (waitsOn_iff first).mp waits
  cases x with
  | outside k => simp [act, Act.goOn, proceed, errand_of_awaits first, stuck]
  | worker j =>
      obtain ⟨w, rest, found, phase⟩ := worker_of_awaits first
      simp [act, Act.goOn, stepWorker, Supervisor.stepWorker?, found, phase, stuck]

/-- Who does not have to wait for the first worker he has taken parts with it. -/
theorem act_goOn_of_not_waitsOn (s : Surroundings σ) {others : List WorkerId}
    (first : c.awaits x = i :: others) (free : ¬ c.ledger.WaitsOn x (.worker i)) :
    (c.act s (.goOn x)).sup.partings = c.sup.partings ++ [(i, x.partsWith i)] ∧
      (c.act s (.goOn x)).awaits x = others := by
  obtain ⟨next, parted⟩ := Option.ne_none_iff_exists'.mp (mt (waitsOn_iff first).mpr free)
  obtain ⟨_, rfl⟩ := Supervisor.part?_eq_some_iff.mp parted
  cases x with
  | outside k => simp [act, Act.goOn, proceed, errand_of_awaits first, parted, setErrand, awaits,
      Errand.awaited]
  | worker j =>
      obtain ⟨w, rest, found, phase⟩ := worker_of_awaits first
      simp [act, Act.goOn, stepWorker, Supervisor.stepWorker?, found, phase, parted, awaits,
        Supervisor.phase?, Supervisor.enter, Supervisor.updateWorker, Phase.awaited]

/-! ## Joining safely -/

/-- Where a worker is agrees with how often it was taken from the list and parted with. -/
theorem standing_of_finds (s : Surroundings σ) {start c : Crowd σ} (fresh : start.IsFresh)
    (happenings : List (Happening σ)) (reached : start.undergo s happenings = c)
    (finds : c.ledger.Finds place) (born : i < c.sup.workers.length) :
    c.Standing i (start.removals s i happenings) (c.partingsWith i) := by
  have taken := removals_add s (finds_of_isFresh fresh) i happenings
  rw [if_neg (not_hasLeft_of_isFresh fresh i), reached, Nat.add_zero] at taken
  rw [taken]
  by_cases listed : i ∈ c.sup.listed
  · have here : place i = .listed := (finds.listed i).mpr listed
    rw [if_neg fun left => left.2 listed, partingsWith_eq_zero finds (by simp [here])]
    exact .listed listed (notMem_awaits finds (by simp [here]))
  · rw [if_pos ⟨born, listed⟩]
    cases here : place i with
    | unborn => exact absurd ((finds.unborn i).mp here) (Nat.not_le.mpr born)
    | listed => exact absurd ((finds.listed i).mp here) listed
    | awaited x =>
        rw [partingsWith_eq_zero finds (by simp [here])]
        apply Standing.awaited x listed ((finds.awaited i x).mp here)
        intro y awaited
        have there := (finds.awaited i y).mpr awaited
        rw [here] at there
        exact (Place.awaited.inj there).symm
    | parted p =>
        rw [partingsWith_eq_one finds here]
        exact .parted listed (notMem_awaits finds (by simp [here]))

/-- Workers are joined safely, whatever their receivers make up their minds to do, in whatever
order everybody does his sections, and in whatever order the workers are left that stay on the
list when others are joined.

Every worker is on the list; or it was taken from it once, and one caller has yet to part
with it; or it was taken from it once, and parted with once.  Nobody but a worker itself
detaches it, and whoever joins it is somebody else and does so when it has finished.  A
worker that somebody joins without waiting had finished before.

Whoever waits for a worker cannot go on, and whoever does not parts with the next one.
Nobody waits for himself by way of others, so there is always a worker at the end of the
chain that has not finished and waits for nobody. -/
theorem joins_safely (s : Surroundings σ) {start c : Crowd σ} (fresh : start.IsFresh)
    (happenings : List (Happening σ)) (reached : start.undergo s happenings = c) :
    (∀ i < c.sup.workers.length,
      c.Standing i (start.removals s i happenings) (c.partingsWith i)) ∧
    (∀ i x, (i, .joined x) ∈ c.sup.partings → x ≠ .worker i ∧ c.sup.hasFinished i = true) ∧
    (∀ i x, (i, .detached x) ∈ c.sup.partings → x = .worker i) ∧
    (∀ h i p, i ∈ c.sup.listed → (i, p) ∈ (c.happen s h).sup.partings →
      c.sup.hasFinished i = true ∧ ∃ x, p = .joined x) ∧
    (∀ x y, c.ledger.WaitsOn x y → c.act s (.goOn x) = c) ∧
    (∀ x i others, c.awaits x = i :: others → ¬ c.ledger.WaitsOn x (.worker i) →
      (c.act s (.goOn x)).sup.partings = c.sup.partings ++ [(i, x.partsWith i)] ∧
        (c.act s (.goOn x)).awaits x = others) ∧
    (∀ x, ¬ TransGen c.ledger.WaitsOn x x) ∧
    (∀ x y, c.ledger.WaitsOn x y → ∃ i, TransGen c.ledger.WaitsOn x (.worker i) ∧
      c.sup.hasFinished i = false ∧ ∀ z, ¬ c.ledger.WaitsOn (.worker i) z) := by
  obtain ⟨place, finds⟩ := exists_finds_undergo s (finds_of_isFresh fresh) happenings
  obtain ⟨turn, now, inTurn⟩ := exists_inTurn_undergo s
    (Ledger.inTurn_of_awaits 0 (awaits_of_isFresh fresh)) happenings
  rw [reached] at finds inTurn
  refine ⟨?_, ?_, ?_, ?_, ?_, ?_, ?_, ?_⟩
  · exact fun i => standing_of_finds s fresh happenings reached finds
  · exact fun i x joined => finds.joined i x ((finds.parted i _).mpr joined)
  · exact fun i x detached => finds.detached i x ((finds.parted i _).mpr detached)
  · exact fun h i p listed => (next_happen s c h).joined_of_listed finds listed
  · exact fun x y => act_goOn_of_waitsOn s
  · exact fun x i others => act_goOn_of_not_waitsOn s
  · exact inTurn.not_transGen_self
  · exact fun x y => inTurn.exists_transGen_of_waitsOn

open Script in
/-- The surroundings of rehearsals, except that workers who stay on the list are turned round. -/
def reversing : Surroundings Cast :=
  { Cast.rehearsal with
    divide := fun test l _ => (l.filter test, (l.filter fun i => !test i).reverse)
    perm_divide := fun _ _ _ => ⟨.refl _, List.reverse_perm _⟩ }

open Script in
/-- Two workers are on the list when somebody else asks for a third one, which turns them round, and
the first caller takes them.  The receiver of the second worker makes up its mind to wait for the
third one. -/
def waitingTwice : List (Happening Cast) :=
  askingTwice.map .act ++ List.replicate 23 (.act (.worker 0)) ++
    [.act (.worker 1), .act (.worker 0),
      .act (.ask 1 rehearsed none (some { id := { index := 2 } })), .act (.await 0),
      .act (.proceed 1)] ++
    List.replicate 21 (.act (.worker 1)) ++ [.resolve 1 [.awaitWorkers], .act (.worker 1)]

open Script in
/-- Both wait then, but neither for himself. -/
theorem joins_safely_waitingTwice :
    let c := plain.undergo reversing waitingTwice
    c.awaits (.outside 0) = [1, 0] ∧
      c.ledger.WaitsOn (.outside 0) (.worker 1) ∧ c.ledger.WaitsOn (.worker 1) (.worker 2) ∧
      ∀ x, ¬ TransGen c.ledger.WaitsOn x x := by
  have fresh : plain.IsFresh := ⟨rfl, rfl, rfl, fun _ => rfl⟩
  obtain ⟨_, _, _, _, _, _, noCircle, _⟩ := joins_safely reversing fresh waitingTwice rfl
  refine ⟨?_, ⟨1, rfl, nofun, ?_, ?_⟩, ⟨2, rfl, nofun, ?_, ?_⟩, noCircle⟩
  · decide +kernel
  · decide +kernel
  · decide +kernel
  · decide +kernel
  · decide +kernel

end Crowd

end Overseer
