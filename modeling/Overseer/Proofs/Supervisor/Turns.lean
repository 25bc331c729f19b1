import Mathlib.Logic.Relation
import Overseer.Proofs.Supervisor.Ledger

/-!
# Turns of a ledger

Whoever has taken workers from the list may have to wait until the first of them has
finished, and that one may itself have taken others and wait for them.  Who waits for whom
is a matter of when they have taken the list: a worker that has taken it is not put on it
again, so nobody finds it there later.  Those who wait for one another have had their turns
one after the other, and never wait in a circle.
-/

namespace Overseer

open Relation

namespace Ledger

/-- Somebody has to wait for a worker: it is the first that he has yet to part with, it is
not himself, and it has not finished. -/
def WaitsOn (l : Ledger) (x y : Caller) : Prop :=
  ∃ i, y = .worker i ∧ x ≠ y ∧ (l.awaits x).head? = some i ∧ l.finished i = false

/-- A worker is not on the list any more. -/
def HasLeft (l : Ledger) (i : WorkerId) : Prop :=
  i < l.size ∧ i ∉ l.listed

instance (l : Ledger) (i : WorkerId) : Decidable (l.HasLeft i) :=
  inferInstanceAs (Decidable (i < l.size ∧ i ∉ l.listed))

/-- Nobody has taken workers who was not created. -/
def OnlyBornTake (l : Ledger) : Prop :=
  ∀ i, l.size ≤ i → l.awaits (.worker i) = []

/-- The callers have taken the list one after the other, at the times given by `turn`. -/
structure InTurn (l : Ledger) (turn : Caller → Nat) (now : Nat) : Prop where
  past : ∀ x, turn x ≤ now
  unlisted : ∀ i, l.awaits (.worker i) ≠ [] → i ∉ l.listed
  ordered : ∀ x i, i ∈ l.awaits x → l.awaits (.worker i) ≠ [] →
    x = .worker i ∨ turn x < turn (.worker i)

variable {l l' : Ledger} {place : WorkerId → Place} {turn : Caller → Nat} {now : Nat}
  {i : WorkerId} {x y : Caller}

/-! ## Leaving the list -/

theorem Finds.lt_size_of_listed (finds : l.Finds place) (listed : i ∈ l.listed) : i < l.size := by
  apply Nat.lt_of_not_le
  intro beyond
  have here := (finds.listed i).mpr listed
  rw [(finds.unborn i).mpr beyond] at here
  contradiction

theorem Next.size_le (next : l.Next l') : l.size ≤ l'.size := by
  cases next with
  | spawn size _ _ _ _ => exact size ▸ Nat.le_succ _
  | rest size | take _ size | part _ _ size | reap _ _ size => exact Nat.le_of_eq size.symm

/-- New workers are put on the list. -/
theorem Next.lt_size_of_hasLeft (next : l.Next l') (left : l'.HasLeft i) : i < l.size := by
  obtain ⟨born, unlisted⟩ := left
  cases next with
  | spawn size listed _ _ _ =>
      rw [size] at born
      rw [listed, List.mem_append, List.mem_singleton] at unlisted
      apply Nat.lt_of_le_of_ne (Nat.le_of_lt_succ born)
      intro new
      exact unlisted (.inr new)
  | rest size | take _ size | part _ _ size | reap _ _ size => exact size ▸ born

/-- Only new workers are put on the list. -/
theorem Next.mem_listed (next : l.Next l') (listed' : i ∈ l'.listed) :
    i ∈ l.listed ∨ l.size ≤ i := by
  cases next with
  | rest _ listed | part _ _ _ listed => exact .inl (listed ▸ listed')
  | take _ _ listed =>
      rw [listed] at listed'
      contradiction
  | reap _ _ _ listed =>
      exact .inl (List.mem_filter.mp (listed.mem_iff.mp listed')).1
  | spawn _ listed =>
      rw [listed, List.mem_append, List.mem_singleton] at listed'
      rcases listed' with still | new
      · exact .inl still
      · exact .inr (Nat.le_of_eq new.symm)

/-- Who is not on the list had left it before, or leaves it now. -/
theorem Next.hasLeft_iff (next : l.Next l') (finds : l.Finds place) :
    l'.HasLeft i ↔ l.HasLeft i ∨ i ∈ l.listed ∧ i ∉ l'.listed := by
  constructor
  · intro left
    by_cases listed : i ∈ l.listed
    · exact .inr ⟨listed, left.2⟩
    · exact .inl ⟨next.lt_size_of_hasLeft left, listed⟩
  · rintro (⟨born, unlisted⟩ | ⟨listed, leaves⟩)
    · constructor
      · exact Nat.lt_of_lt_of_le born next.size_le
      · intro listed'
        rcases next.mem_listed listed' with still | new
        · exact unlisted still
        · exact Nat.not_lt.mpr new born
    · exact ⟨Nat.lt_of_lt_of_le (finds.lt_size_of_listed listed) next.size_le, leaves⟩

/-- Who is parted with without having been taken before has finished, and is joined. -/
theorem Next.joined_of_listed (next : l.Next l') (finds : l.Finds place) (listed : i ∈ l.listed)
    {p : Parting} (parted : (i, p) ∈ l'.partings) :
    l.finished i = true ∧ ∃ x, p = .joined x := by
  have here := (finds.listed i).mpr listed
  have unparted : (i, p) ∉ l.partings := by
    intro before
    have there := (finds.parted i p).mpr before
    rw [here] at there
    contradiction
  cases next with
  | rest _ _ partings | take _ _ _ partings | spawn _ _ partings =>
      exact absurd (partings ▸ parted) unparted
  | part x other _ _ partings first =>
      rw [partings, List.mem_append, List.mem_singleton] at parted
      rcases parted with before | now
      · exact absurd before unparted
      · obtain rfl : i = other := congrArg Prod.fst now
        have there := (finds.awaited i x).mpr (by simp [first])
        rw [here] at there
        contradiction
  | reap x _ _ _ ended partings =>
      rw [partings, List.mem_append, List.mem_map] at parted
      rcases parted with before | ⟨j, reaped, same⟩
      · exact absurd before unparted
      · cases same
        exact ⟨(List.mem_filter.mp (ended.mem_iff.mp reaped)).2, x, rfl⟩

/-! ## Turns -/

theorem inTurn_of_awaits (now : Nat) (awaits : ∀ x, l.awaits x = []) :
    l.InTurn (fun _ => 0) now := by
  constructor
  case past => exact fun _ => Nat.zero_le _
  case unlisted => simp [awaits]
  case ordered => simp [awaits]

namespace InTurn

/-- Turns stay as they are while nobody takes the list. -/
theorem of_shorter (inTurn : l.InTurn turn now) (later : now ≤ now')
    (awaits : ∀ x, ∀ i ∈ l'.awaits x, i ∈ l.awaits x)
    (unlisted : ∀ i ∈ l'.listed, i ∈ l.listed ∨ l.awaits (.worker i) = []) :
    l'.InTurn turn now' := by
  have before : ∀ x, l'.awaits x ≠ [] → l.awaits x ≠ [] := by
    intro x takes
    obtain ⟨i, awaited⟩ := List.exists_mem_of_ne_nil _ takes
    exact List.ne_nil_of_mem (awaits x i awaited)
  constructor
  case past => exact fun x => Nat.le_trans (inTurn.past x) later
  case unlisted =>
    intro i takes listed
    rcases unlisted i listed with still | free
    · exact inTurn.unlisted i (before _ takes) still
    · exact before _ takes free
  case ordered =>
    intro x i awaited takes
    exact inTurn.ordered x i (awaits x i awaited) (before _ takes)

/-- Who takes the list has the latest turn. -/
theorem take (inTurn : l.InTurn turn now) (listed : l'.listed = [])
    (awaits : ∀ y, l'.awaits y = if y = x then l.listed else l.awaits y) :
    l'.InTurn (fun y => if y = x then now + 1 else turn y) (now + 1) := by
  constructor
  case past =>
    intro y
    split
    · exact Nat.le_refl _
    · exact Nat.le_succ_of_le (inTurn.past y)
  case unlisted => simp [listed]
  case ordered =>
    intro y i awaited takes
    rw [awaits] at awaited takes
    by_cases own : y = x
    · rw [if_pos own] at awaited
      by_cases itself : .worker i = x
      · exact .inl (own.trans itself.symm)
      · -- A listed worker has taken nothing yet.
        rw [if_neg itself] at takes
        exact absurd awaited (inTurn.unlisted i takes)
    · rw [if_neg own] at awaited
      rw [if_neg own]
      by_cases itself : .worker i = x
      · rw [if_pos itself]
        exact .inr (Nat.lt_succ_of_le (inTurn.past y))
      · rw [if_neg itself] at takes
        rw [if_neg itself]
        exact inTurn.ordered y i awaited takes

/-- Whatever comes next, the callers still have their turns. -/
theorem next (inTurn : l.InTurn turn now) (born : l.OnlyBornTake) (next : l.Next l') :
    ∃ turn', l'.InTurn turn' (now + 1) := by
  have later : now ≤ now + 1 := Nat.le_succ now
  cases next with
  | rest _ listed _ awaits _ =>
      refine ⟨turn, inTurn.of_shorter later ?_ ?_⟩
      · exact fun x i awaited => awaits x ▸ awaited
      · exact fun i listed' => .inl (listed ▸ listed')
  | take x _ listed _ _ awaits _ => exact ⟨_, inTurn.take listed awaits⟩
  | part x other _ listed _ first awaits _ _ =>
      refine ⟨turn, inTurn.of_shorter later ?_ ?_⟩
      · intro y
        by_cases own : y = x
        · rw [own, first]
          exact fun i => List.mem_cons_of_mem other
        · exact fun i awaited => awaits y own ▸ awaited
      · exact fun i listed' => .inl (listed ▸ listed')
  | reap _ _ _ listed _ _ awaits _ _ =>
      refine ⟨turn, inTurn.of_shorter later ?_ ?_⟩
      · exact fun x i awaited => awaits x ▸ awaited
      · exact fun i listed' => .inl (List.mem_filter.mp (listed.mem_iff.mp listed')).1
  | spawn _ listed _ awaits _ =>
      refine ⟨turn, inTurn.of_shorter later ?_ ?_⟩
      · exact fun x i awaited => awaits x ▸ awaited
      · intro i listed'
        rw [listed, List.mem_append, List.mem_singleton] at listed'
        rcases listed' with still | rfl
        · exact .inl still
        · exact .inr (born _ (Nat.le_refl _))

/-! ## Waiting for one another -/

theorem lt_of_waitsOn (inTurn : l.InTurn turn now) (waits : l.WaitsOn x y)
    (takes : l.awaits y ≠ []) : turn x < turn y := by
  obtain ⟨i, rfl, other, first, _⟩ := waits
  rcases inTurn.ordered x i (List.mem_of_head? first) takes with own | earlier
  · exact absurd own other
  · exact earlier

end InTurn

theorem WaitsOn.awaits_ne_nil (waits : l.WaitsOn x y) : l.awaits x ≠ [] := by
  obtain ⟨i, _, _, first, _⟩ := waits
  intro none
  rw [none] at first
  contradiction

namespace InTurn

theorem lt_of_transGen (inTurn : l.InTurn turn now) (chain : TransGen l.WaitsOn x y)
    (takes : l.awaits y ≠ []) : turn x < turn y := by
  induction chain with
  | single waits => exact inTurn.lt_of_waitsOn waits takes
  | tail _ waits inductionHypothesis =>
      exact Nat.lt_trans (inductionHypothesis waits.awaits_ne_nil) (inTurn.lt_of_waitsOn waits takes)

/-- Nobody waits for himself, not even by way of others. -/
theorem not_transGen_self (inTurn : l.InTurn turn now) (x : Caller) :
    ¬ TransGen l.WaitsOn x x := by
  intro circle
  obtain ⟨y, waits, _⟩ := TransGen.head'_iff.mp circle
  exact Nat.lt_irrefl _ (inTurn.lt_of_transGen circle waits.awaits_ne_nil)

/-- Whoever waits does so, by way of others, for a worker that has not finished and waits
for nobody. -/
theorem exists_transGen_of_waitsOn (inTurn : l.InTurn turn now) (waits : l.WaitsOn x y) :
    ∃ i, TransGen l.WaitsOn x (.worker i) ∧ l.finished i = false ∧
      ∀ z, ¬ l.WaitsOn (.worker i) z := by
  -- Along the chain the turns come closer to the present.
  induction remaining : now - turn x using Nat.strongRecOn generalizing x y with
  | ind remaining inductionHypothesis =>
      have waits' := waits
      obtain ⟨i, rfl, _, _, unfinished⟩ := waits'
      by_cases blocked : ∃ z, l.WaitsOn (.worker i) z
      · obtain ⟨z, further⟩ := blocked
        have earlier := inTurn.lt_of_waitsOn waits further.awaits_ne_nil
        have past := inTurn.past (.worker i)
        obtain ⟨j, chain, last⟩ := inductionHypothesis _ (by omega) further rfl
        exact ⟨j, .head waits chain, last⟩
      · exact ⟨i, .single waits, unfinished, not_exists.mp blocked⟩

end InTurn

end Ledger

end Overseer
