import Overseer.Supervisor.Basic

/-!
# Ledgers of workers

Several callers may wait for workers at once, and others may ask for new ones meanwhile.
What becomes of the workers then does not depend on what they do.  A ledger says who is on
the list, who was taken from it by whom, and who was parted with; there are five kinds of
entries in it, and every worker goes through it in one direction: from the list, to the
caller who took it, to those that were parted with.
-/

namespace Overseer

/-- Who has parted with a worker. -/
def Parting.caller : Parting → Caller
  | joined caller | detached caller => caller

/-- How somebody parts with a worker. -/
def Caller.partsWith (caller : Caller) (i : WorkerId) : Parting :=
  if caller = .worker i then .detached caller else .joined caller

/-- Where a worker is to be found. -/
inductive Place
  /-- Nowhere, because it was not created yet. -/
  | unborn
  /-- On the list. -/
  | listed
  /-- Among those that somebody has taken from the list, to wait for them. -/
  | awaited (caller : Caller)
  /-- Among those that were parted with. -/
  | parted (parting : Parting)
deriving DecidableEq

/-- Where a worker may be found later. -/
def Place.LeadsTo : Place → Place → Prop
  | unborn, _ => True
  | listed, later => later ≠ unborn
  | awaited caller, later => later = awaited caller ∨ ∃ p, later = parted p ∧ p.caller = caller
  | parted p, later => later = parted p

/-- What there is to say of the workers of a supervisor. -/
structure Ledger where
  /-- How many there are. -/
  size : Nat
  /-- Which of them are on the list. -/
  listed : List WorkerId
  /-- Which of them were parted with, and how. -/
  partings : List (WorkerId × Parting)
  /-- Which of them somebody has taken and not parted with. -/
  awaits : Caller → List WorkerId
  /-- Whether one has finished. -/
  finished : WorkerId → Bool

/-- What comes next in a ledger. -/
inductive Ledger.Next (l l' : Ledger) : Prop
  /-- Some workers may have finished. -/
  | rest (size : l'.size = l.size) (listed : l'.listed = l.listed)
      (partings : l'.partings = l.partings) (awaits : ∀ x, l'.awaits x = l.awaits x)
      (finished : ∀ i, l.finished i = true → l'.finished i = true)
  /-- Somebody takes all workers from the list. -/
  | take (x : Caller) (size : l'.size = l.size) (listed : l'.listed = [])
      (partings : l'.partings = l.partings) (free : l.awaits x = [])
      (awaits : ∀ y, l'.awaits y = if y = x then l.listed else l.awaits y)
      (finished : ∀ i, l'.finished i = l.finished i)
  /-- He parts with the first of them. -/
  | part (x : Caller) (other : WorkerId) (size : l'.size = l.size)
      (listed : l'.listed = l.listed)
      (partings : l'.partings = l.partings ++ [(other, x.partsWith other)])
      (first : l.awaits x = other :: l'.awaits x)
      (awaits : ∀ y, y ≠ x → l'.awaits y = l.awaits y)
      (isOver : x ≠ .worker other → l.finished other = true)
      (finished : ∀ i, l'.finished i = l.finished i)
  /-- Somebody who has not finished himself joins the listed workers that have, in any order,
  and the others stay on the list, in any order. -/
  | reap (x : Caller) (reaped : List WorkerId) (size : l'.size = l.size)
      (listed : l'.listed.Perm (l.listed.filter fun i => !l.finished i))
      (ended : reaped.Perm (l.listed.filter l.finished))
      (partings : l'.partings = l.partings ++ reaped.map fun i => (i, .joined x))
      (awaits : ∀ y, l'.awaits y = l.awaits y)
      (unfinished : ∀ i, x = .worker i → l.finished i = false)
      (finished : ∀ i, l'.finished i = l.finished i)
  /-- A new worker is put on the list. -/
  | spawn (size : l'.size = l.size + 1) (listed : l'.listed = l.listed ++ [l.size])
      (partings : l'.partings = l.partings) (awaits : ∀ y, l'.awaits y = l.awaits y)
      (finished : ∀ i, i ≠ l.size → l'.finished i = l.finished i)

/-- A ledger finds every worker in its place and nowhere else. -/
structure Ledger.Finds (l : Ledger) (place : WorkerId → Place) : Prop where
  unborn : ∀ i, place i = .unborn ↔ l.size ≤ i
  listed : ∀ i, place i = .listed ↔ i ∈ l.listed
  awaited : ∀ i x, place i = .awaited x ↔ i ∈ l.awaits x
  parted : ∀ i p, place i = .parted p ↔ (i, p) ∈ l.partings
  nodup_listed : l.listed.Nodup
  nodup_awaits : ∀ x, (l.awaits x).Nodup
  nodup_partings : (l.partings.map Prod.fst).Nodup
  joined : ∀ i x, place i = .parted (.joined x) → x ≠ .worker i ∧ l.finished i = true
  detached : ∀ i x, place i = .parted (.detached x) → x = .worker i

namespace Place

variable {a b c : Place}

theorem LeadsTo.refl (a : Place) : a.LeadsTo a := by
  cases a with
  | unborn => trivial
  | listed => nofun
  | awaited caller => exact .inl rfl
  | parted p => rfl

theorem LeadsTo.trans (first : a.LeadsTo b) (second : b.LeadsTo c) : a.LeadsTo c := by
  cases a with
  | unborn => trivial
  | listed =>
      cases b with
      | unborn => exact absurd rfl first
      | listed => exact second
      | awaited caller =>
          rcases second with rfl | ⟨p, rfl, _⟩
          · nofun
          · nofun
      | parted p =>
          subst second
          nofun
  | awaited caller =>
      rcases first with rfl | ⟨p, rfl, own⟩
      · exact second
      · exact .inr ⟨p, second, own⟩
  | parted p =>
      subst first
      exact second

theorem LeadsTo.eq_unborn (leads : a.LeadsTo unborn) : a = unborn := by
  cases a with
  | unborn => rfl
  | listed => exact absurd rfl leads
  | awaited x => rcases leads with same | ⟨p, same, _⟩ <;> contradiction
  | parted p => contradiction

theorem LeadsTo.eq_of_listed (leads : a.LeadsTo listed) : a = unborn ∨ a = listed := by
  cases a with
  | unborn => exact .inl rfl
  | listed => exact .inr rfl
  | awaited x => rcases leads with same | ⟨p, same, _⟩ <;> contradiction
  | parted p => contradiction

theorem LeadsTo.eq_of_awaited {x : Caller} (leads : a.LeadsTo (awaited x)) :
    a = unborn ∨ a = listed ∨ a = awaited x := by
  cases a with
  | unborn => exact .inl rfl
  | listed => exact .inr (.inl rfl)
  | awaited y =>
      rcases leads with same | ⟨p, same, _⟩
      · exact .inr (.inr same.symm)
      · contradiction
  | parted p => contradiction

end Place

theorem Caller.caller_partsWith (caller : Caller) (i : WorkerId) :
    (caller.partsWith i).caller = caller := by
  unfold Caller.partsWith
  split <;> rfl

namespace Ledger

variable {l l' : Ledger} {place : WorkerId → Place}

theorem finds_of_empty (size : l.size = 0) (listed : l.listed = []) (partings : l.partings = [])
    (awaits : ∀ x, l.awaits x = []) : l.Finds fun _ => .unborn := by
  constructor <;> simp [size, listed, partings, awaits]

namespace Finds

theorem notMem_partings (finds : l.Finds place) {i : WorkerId}
    (elsewhere : ∀ p, place i ≠ .parted p) : i ∉ l.partings.map Prod.fst := by
  intro member
  obtain ⟨⟨j, p⟩, parted, rfl⟩ := List.mem_map.mp member
  exact elsewhere p ((finds.parted j p).mpr parted)

/-- Time only lets workers finish. -/
theorem rest (finds : l.Finds place) (size : l'.size = l.size) (listed : l'.listed = l.listed)
    (partings : l'.partings = l.partings) (awaits : ∀ x, l'.awaits x = l.awaits x)
    (finished : ∀ i, l.finished i = true → l'.finished i = true) : l'.Finds place := by
  constructor
  case unborn => simpa [size] using finds.unborn
  case listed => simpa [listed] using finds.listed
  case awaited => simpa [awaits] using finds.awaited
  case parted => simpa [partings] using finds.parted
  case nodup_listed => simpa [listed] using finds.nodup_listed
  case nodup_awaits => simpa [awaits] using finds.nodup_awaits
  case nodup_partings => simpa [partings] using finds.nodup_partings
  case joined =>
    intro i x joined
    obtain ⟨other, isOver⟩ := finds.joined i x joined
    exact ⟨other, finished i isOver⟩
  case detached => exact finds.detached

theorem take (finds : l.Finds place) {x : Caller} (size : l'.size = l.size)
    (listed : l'.listed = []) (partings : l'.partings = l.partings) (free : l.awaits x = [])
    (awaits : ∀ y, l'.awaits y = if y = x then l.listed else l.awaits y)
    (finished : ∀ i, l'.finished i = l.finished i) :
    l'.Finds fun i => if place i = .listed then .awaited x else place i := by
  constructor
  case unborn =>
    intro i
    rw [size, ← finds.unborn]
    split <;> simp_all
  case listed =>
    intro i
    rw [listed]
    split <;> simp_all
  case awaited =>
    intro i y
    rw [awaits]
    by_cases same : y = x
    · subst same
      have none := finds.awaited i y
      rw [free] at none
      rw [if_pos rfl, ← finds.listed]
      split <;> simp_all
    · rw [if_neg same, ← finds.awaited]
      split <;> simp_all [Ne.symm same]
  case parted =>
    intro i p
    rw [partings, ← finds.parted]
    split <;> simp_all
  case nodup_listed => simp [listed]
  case nodup_awaits =>
    intro y
    rw [awaits]
    split
    · exact finds.nodup_listed
    · exact finds.nodup_awaits y
  case nodup_partings =>
    rw [partings]
    exact finds.nodup_partings
  case joined =>
    intro i y
    rw [finished]
    split
    · nofun
    · exact finds.joined i y
  case detached =>
    intro i y
    split
    · nofun
    · exact finds.detached i y

theorem part (finds : l.Finds place) {x : Caller} {other : WorkerId} (size : l'.size = l.size)
    (listed : l'.listed = l.listed)
    (partings : l'.partings = l.partings ++ [(other, x.partsWith other)])
    (first : l.awaits x = other :: l'.awaits x)
    (awaits : ∀ y, y ≠ x → l'.awaits y = l.awaits y)
    (isOver : x ≠ .worker other → l.finished other = true)
    (finished : ∀ i, l'.finished i = l.finished i) :
    l'.Finds fun i => if i = other then .parted (x.partsWith other) else place i := by
  have here : place other = .awaited x := (finds.awaited other x).mpr (by simp [first])
  have once := finds.nodup_awaits x
  rw [first, List.nodup_cons] at once
  constructor
  case unborn =>
    intro i
    rw [size, ← finds.unborn]
    split <;> simp_all
  case listed =>
    intro i
    rw [listed, ← finds.listed]
    split <;> simp_all
  case awaited =>
    intro i y
    by_cases same : y = x
    · subst same
      have still := finds.awaited i y
      rw [first, List.mem_cons] at still
      split <;> simp_all
    · rw [awaits y same, ← finds.awaited]
      split <;> simp_all [Ne.symm same]
  case parted =>
    intro i p
    rw [partings, List.mem_append, ← finds.parted, List.mem_singleton, Prod.mk.injEq]
    split
    · next same =>
        subst same
        simp [here, eq_comm]
    · next other => simp [other]
  case nodup_listed =>
    rw [listed]
    exact finds.nodup_listed
  case nodup_awaits =>
    intro y
    by_cases same : y = x
    · subst same
      exact once.2
    · rw [awaits y same]
      exact finds.nodup_awaits y
  case nodup_partings =>
    rw [partings, List.map_append, List.nodup_append]
    refine ⟨finds.nodup_partings, by simp, ?_⟩
    have missing := finds.notMem_partings (i := other) (by simp [here])
    intro i member j single
    obtain rfl : j = other := by simpa using single
    rintro rfl
    exact missing member
  case joined =>
    intro i y
    rw [finished]
    split
    · next same =>
        subst same
        unfold Caller.partsWith
        split
        · nofun
        · next foreign =>
            rintro ⟨⟩
            exact ⟨foreign, isOver foreign⟩
    · exact finds.joined i y
  case detached =>
    intro i y
    split
    · next same =>
        subst same
        unfold Caller.partsWith
        split
        · next own =>
            rintro ⟨⟩
            exact own
        · nofun
    · exact finds.detached i y

theorem reap (finds : l.Finds place) {x : Caller} {reaped : List WorkerId}
    (size : l'.size = l.size) (listed : l'.listed.Perm (l.listed.filter fun i => !l.finished i))
    (ended : reaped.Perm (l.listed.filter l.finished))
    (partings : l'.partings = l.partings ++ reaped.map fun i => (i, .joined x))
    (awaits : ∀ y, l'.awaits y = l.awaits y)
    (unfinished : ∀ i, x = .worker i → l.finished i = false)
    (finished : ∀ i, l'.finished i = l.finished i) :
    l'.Finds fun i =>
      if place i = .listed ∧ l.finished i = true then .parted (.joined x) else place i := by
  constructor
  case unborn =>
    intro i
    rw [size, ← finds.unborn]
    split <;> simp_all
  case listed =>
    intro i
    rw [listed.mem_iff, List.mem_filter, ← finds.listed]
    split <;> simp_all
  case awaited =>
    intro i y
    rw [awaits, ← finds.awaited]
    split <;> simp_all
  case parted =>
    intro i p
    rw [partings, List.mem_append, ← finds.parted]
    simp only [List.mem_map, ended.mem_iff, List.mem_filter, ← finds.listed, Prod.mk.injEq]
    split
    · next reaped =>
        rw [reaped.1]
        constructor
        · intro same
          exact .inr ⟨i, reaped, rfl, Place.parted.inj same⟩
        · rintro (elsewhere | ⟨j, _, rfl, rfl⟩)
          · contradiction
          · rfl
    · next other =>
        constructor
        · exact .inl
        · rintro (still | ⟨j, reaped, rfl, _⟩)
          · exact still
          · exact absurd reaped other
  case nodup_listed =>
    rw [listed.nodup_iff]
    exact finds.nodup_listed.filter _
  case nodup_awaits =>
    intro y
    rw [awaits]
    exact finds.nodup_awaits y
  case nodup_partings =>
    have names : (reaped.map fun i => (i, Parting.joined x)).map Prod.fst = reaped := by
      rw [List.map_map]
      exact List.map_id reaped
    rw [partings, List.map_append, names, List.nodup_append]
    refine ⟨finds.nodup_partings, ?_, ?_⟩
    · rw [ended.nodup_iff]
      exact finds.nodup_listed.filter _
    · intro i member j isReaped
      rintro rfl
      have isListed : i ∈ l.listed := (List.mem_filter.mp (ended.mem_iff.mp isReaped)).1
      have here : place i = .listed := (finds.listed i).mpr isListed
      exact finds.notMem_partings (by simp [here]) member
  case joined =>
    intro i y
    rw [finished]
    split
    · next reaped =>
        rintro ⟨⟩
        constructor
        · intro own
          simp [unfinished i own] at reaped
        · exact reaped.2
    · exact finds.joined i y
  case detached =>
    intro i y
    split
    · nofun
    · exact finds.detached i y

theorem spawn (finds : l.Finds place) (size : l'.size = l.size + 1)
    (listed : l'.listed = l.listed ++ [l.size]) (partings : l'.partings = l.partings)
    (awaits : ∀ y, l'.awaits y = l.awaits y)
    (finished : ∀ i, i ≠ l.size → l'.finished i = l.finished i) :
    l'.Finds fun i => if i = l.size then .listed else place i := by
  have fresh : place l.size = .unborn := (finds.unborn l.size).mpr (Nat.le_refl _)
  constructor
  case unborn =>
    intro i
    rw [size]
    split
    · next same => simp [same]
    · next other =>
        rw [finds.unborn]
        exact ⟨fun later => Nat.lt_of_le_of_ne later (Ne.symm other), Nat.le_of_succ_le⟩
  case listed =>
    intro i
    rw [listed, List.mem_append, ← finds.listed]
    split <;> simp_all
  case awaited =>
    intro i y
    rw [awaits, ← finds.awaited]
    split <;> simp_all
  case parted =>
    intro i p
    rw [partings, ← finds.parted]
    split <;> simp_all
  case nodup_listed =>
    rw [listed, List.nodup_append]
    refine ⟨finds.nodup_listed, by simp, ?_⟩
    intro i member j single
    obtain rfl : j = l.size := by simpa using single
    rintro rfl
    simp [(finds.listed _).mpr member] at fresh
  case nodup_awaits =>
    intro y
    rw [awaits]
    exact finds.nodup_awaits y
  case nodup_partings =>
    rw [partings]
    exact finds.nodup_partings
  case joined =>
    intro i y
    split
    · nofun
    · next other =>
        rw [finished i other]
        exact finds.joined i y
  case detached =>
    intro i y
    split
    · nofun
    · exact finds.detached i y

/-- Whatever comes next, every worker is found in its place, and no worker goes back. -/
theorem next (finds : l.Finds place) (next : l.Next l') :
    ∃ place', l'.Finds place' ∧ ∀ i, (place i).LeadsTo (place' i) := by
  cases next with
  | rest size listed partings awaits finished =>
      exact ⟨place, finds.rest size listed partings awaits finished, fun i => .refl _⟩
  | take x size listed partings free awaits finished =>
      refine ⟨_, finds.take size listed partings free awaits finished, ?_⟩
      intro i
      split
      · next here =>
          rw [here]
          nofun
      · exact .refl _
  | part x other size listed partings first awaits isOver finished =>
      refine ⟨_, finds.part size listed partings first awaits isOver finished, ?_⟩
      intro i
      split
      · next same =>
          subst same
          rw [(finds.awaited i x).mpr (by simp [first])]
          exact .inr ⟨_, rfl, x.caller_partsWith i⟩
      · exact .refl _
  | reap x reaped size listed ended partings awaits unfinished finished =>
      refine ⟨_, finds.reap size listed ended partings awaits unfinished finished, ?_⟩
      intro i
      split
      · next leaves =>
          rw [leaves.1]
          nofun
      · exact .refl _
  | spawn size listed partings awaits finished =>
      refine ⟨_, finds.spawn size listed partings awaits finished, ?_⟩
      intro i
      split
      · next same =>
          subst same
          rw [(finds.unborn l.size).mpr (Nat.le_refl _)]
          trivial
      · exact .refl _

/-- The same holds after whatever comes next one after the other. -/
theorem foldl {α β : Type} (ledger : β → Ledger) (step : β → α → β)
    (nextOf : ∀ b a, (ledger b).Next (ledger (step b a))) {b : β}
    (finds : (ledger b).Finds place) (as : List α) :
    ∃ place', (ledger (as.foldl step b)).Finds place' ∧ ∀ i, (place i).LeadsTo (place' i) := by
  induction as generalizing b place with
  | nil => exact ⟨place, finds, fun i => .refl _⟩
  | cons a as inductionHypothesis =>
      obtain ⟨mid, findsMid, first⟩ := finds.next (nextOf b a)
      obtain ⟨place', findsNext, second⟩ := inductionHypothesis findsMid
      exact ⟨place', findsNext, fun i => (first i).trans (second i)⟩

end Finds

end Ledger

end Overseer
