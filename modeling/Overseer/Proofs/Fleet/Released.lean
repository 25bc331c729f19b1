import Overseer.Proofs.Fleet.Claims
import Overseer.Proofs.Fleet.Disturbance
import Overseer.Script.Rehearsal

/-!
# No reference outlives its process

In a fleet every process is held by one execution at most, and whatever a watchdog or
a registry refers to is claimed by an execution that holds it.  An execution that lets
go of its process has no claims left, so nothing refers to the process any more, and
nothing will: who destroys a process on the account of a watchdog or of a registry has
found it there.
-/

namespace Overseer

/-- Whether after letting go of a process only executions may have destroyed it. -/
def Spares (trace : List Event) : Prop :=
  ∀ before p after, trace = before ++ .release p :: after →
    ∀ agent, agent ≠ .execution → .destroy agent p ∉ after

/-- A trace goes on to spare what was let go of. -/
theorem Spares.append {trace calls : List Event} (spares : Spares trace)
    (apart : ∀ p, .release p ∈ calls → calls = [.release p])
    (known : ∀ agent p, agent ≠ .execution → .destroy agent p ∈ calls → .release p ∉ trace) :
    Spares (trace ++ calls) := by
  intro before p after split agent foreign destroyed
  rcases List.append_eq_append_iff.mp split with ⟨more, _, rest⟩ | ⟨more, early, rest⟩
  · have single := apart p (by simp [rest])
    rw [single] at rest
    have length := congrArg List.length rest
    simp only [List.length_append, List.length_cons, List.length_nil] at length
    have nothing : after = [] := List.eq_nil_of_length_eq_zero (by omega)
    simp [nothing] at destroyed
  · cases more with
    | nil =>
        rw [List.nil_append] at rest
        have single := apart p (by simp [← rest])
        rw [single] at rest
        simp [(List.cons.inj rest).2] at destroyed
    | cons event more =>
        obtain ⟨rfl, rfl⟩ := List.cons.inj rest
        rcases List.mem_append.mp destroyed with earlier | later
        · exact spares before p more early agent foreign earlier
        · exact known agent p foreign later (by simp [early])

namespace Member

theorem held_of_watch {m : Member} {i : WatchdogId} {p : ProcessRef}
    (claimed : m.watch = some (i, p)) : m.held = some p := by
  simp only [watch] at claimed
  unfold Stage.owedUnwatch at claimed
  split at claimed
  · contradiction
  · cases custody : m.run.stage.custody? with
    | none => simp [custody] at claimed
    | some c =>
        simp only [custody, Option.bind_some] at claimed
        split at claimed
        · rw [held, Stage.owedRelease_of_custody custody]
          cases watchdog : m.run.plan.watchdog <;> simp_all
        · contradiction

theorem held_of_entry {m : Member} {i : DestroyerId} {p : ProcessRef}
    (claimed : m.entry = some (i, p)) : m.held = some p := by
  simp only [entry, Stage.owedDelist] at claimed
  cases custody : m.run.stage.custody? with
  | none => simp [custody] at claimed
  | some c =>
      simp only [custody, Option.bind_some] at claimed
      split at claimed
      · rw [held, Stage.owedRelease_of_custody custody]
        cases destroyer : m.run.plan.destroyer <;> simp_all
      · contradiction

end Member

namespace World

variable {σ : Type}

/-- A world in which nothing has been launched and nothing is referred to. -/
structure IsFresh (w : World σ) : Prop where
  /-- No watchdog holds a process. -/
  slot : ∀ dog ∈ w.watchdogs, dog.process = none
  /-- No registry lists a process. -/
  registered : ∀ r, .registry r ∈ w.destroyers → r.members = []
  /-- Nothing was called. -/
  trace : w.trace = []

end World

namespace Fleet

variable {σ : Type}

/-- Who holds what in a fleet. -/
structure IsOrderly (f : Fleet σ) : Prop where
  /-- What members hold fits their stages. -/
  sound : ∀ (j : Nat) (m : Member), f.members[j]? = some m → m.run.stage.isSound = true
  /-- No registry lists a process twice. -/
  distinct : ∀ i, (f.world.registered i).Nodup
  /-- What is held was launched. -/
  launched : ∀ (j : Nat) (m : Member) p, f.members[j]? = some m → m.held = some p →
    ∃ n < f.world.launches.length, p = ProcessRef.launched n
  /-- No process is held by two members. -/
  alone : ∀ (j k : Nat) (m m' : Member) p, f.members[j]? = some m → f.members[k]? = some m' →
    m.held = some p → m'.held = some p → j = k
  /-- What a watchdog holds is claimed. -/
  watched : ∀ i p, f.world.slot i = some p →
    ∃ (j : Nat) (m : Member), f.members[j]? = some m ∧ m.watch = some (i, p)
  /-- What a registry lists is claimed. -/
  listed : ∀ i p, p ∈ f.world.registered i →
    ∃ (j : Nat) (m : Member), f.members[j]? = some m ∧ m.entry = some (i, p)
  /-- What was let go of is not held again. -/
  gone : ∀ p, .release p ∈ f.world.trace →
    (∃ n < f.world.launches.length, p = ProcessRef.launched n) ∧
      ∀ (j : Nat) (m : Member), f.members[j]? = some m → m.held ≠ some p
  /-- What was let go of is not destroyed on anybody else's account. -/
  spared : Spares f.world.trace

namespace IsOrderly

variable {f : Fleet σ} {s : Surroundings σ}

/-- Whatever is referred to is held by somebody. -/
theorem held_of_refersTo (orderly : f.IsOrderly) {p : ProcessRef}
    (referred : f.world.RefersTo p) :
    ∃ (j : Nat) (m : Member), f.members[j]? = some m ∧ m.held = some p := by
  rcases referred with ⟨i, inSlot⟩ | ⟨i, inList⟩
  · obtain ⟨j, m, found, claimed⟩ := orderly.watched i p inSlot
    exact ⟨j, m, found, Member.held_of_watch claimed⟩
  · obtain ⟨j, m, found, claimed⟩ := orderly.listed i p inList
    exact ⟨j, m, found, Member.held_of_entry claimed⟩

theorem of_isFresh {world : World σ} (fresh : world.IsFresh) :
    IsOrderly { world : Fleet σ } where
  sound j m found := by simp at found
  distinct i := by
    unfold World.registered
    split
    · next r known =>
        rw [fresh.registered r (List.mem_of_getElem? known)]
        exact List.nodup_nil
    · exact List.nodup_nil
  launched j m p found := by simp at found
  alone j k m m' p found := by simp at found
  watched i p inSlot := by
    simp only [World.slot] at inSlot
    cases known : world.watchdogs[i]? with
    | none => simp [known] at inSlot
    | some dog => simp [known, fresh.slot dog (List.mem_of_getElem? known)] at inSlot
  listed i p inList := by
    simp only [World.registered] at inList
    split at inList
    · next r known => simp [fresh.registered r (List.mem_of_getElem? known)] at inList
    · simp at inList
  gone p released := by simp [fresh.trace] at released
  spared before p after split := by simp [fresh.trace] at split

/-- A disturbance keeps order. -/
theorem of_decays (orderly : f.IsOrderly) {world : World σ} (decays : f.world.Decays world) :
    IsOrderly { f with world } where
  sound := orderly.sound
  distinct i := by
    simp only [decays.registered]
    exact orderly.distinct i
  launched j m p found holds := by
    simp only [decays.launches]
    exact orderly.launched j m p found holds
  alone := orderly.alone
  watched i p inSlot := orderly.watched i p (decays.slot i p inSlot)
  listed i p inList := by
    simp only [decays.registered] at inList
    exact orderly.listed i p inList
  gone p released := by
    obtain ⟨calls, trace, destroys⟩ := decays.trace
    simp only [trace, List.mem_append] at released
    simp only [decays.launches]
    rcases released with before | now
    · exact orderly.gone p before
    · obtain ⟨agent, q, same, _⟩ := destroys _ now
      contradiction
  spared := by
    obtain ⟨calls, trace, destroys⟩ := decays.trace
    simp only [trace]
    refine orderly.spared.append ?_ ?_
    · intro p released
      obtain ⟨agent, q, same, _⟩ := destroys _ released
      contradiction
    · intro agent p _ destroyed released
      obtain ⟨agent', q, same, referred⟩ := destroys _ destroyed
      simp only [Event.destroy.injEq] at same
      rw [← same.2] at referred
      obtain ⟨j, m, found, holds⟩ := orderly.held_of_refersTo referred
      exact (orderly.gone p released).2 j m found holds

theorem getElem?_set_eq_some {α : Type} {l : List α} {j k : Nat} {a b : α}
    (found : (l.set j a)[k]? = some b) : k = j ∧ b = a ∨ k ≠ j ∧ l[k]? = some b := by
  rw [List.getElem?_set] at found
  split at found
  · next same =>
      split at found
      · exact .inl ⟨same.symm, (Option.some.inj found).symm⟩
      · contradiction
  · next other => exact .inr ⟨fun same => other same.symm, found⟩

/-- A claim that no member has given up is still there. -/
theorem claimed_set {β : Type} {claim : Member → Option β} {a : β} {j k : Nat}
    {m m' m'' : Member} (here : f.members[j]? = some m) (there : f.members[k]? = some m'')
    (claimed : claim m'' = some a) (kept : claim m ≠ some a) :
    ∃ (l : Nat) (m : Member), (f.members.set j m')[l]? = some m ∧ claim m = some a := by
  by_cases same : k = j
  · rw [same, here] at there
    cases there
    exact absurd claimed kept
  · refine ⟨k, m'', ?_, claimed⟩
    rw [List.getElem?_set_ne (Ne.symm same)]
    exact there

/-- A member that goes on keeps order. -/
theorem of_advances (orderly : f.IsOrderly) {world : World σ} {j : Nat} {m m' : Member}
    (here : f.members[j]? = some m) (advances : m.Advances m' f.world world) :
    IsOrderly { world, members := f.members.set j m' } where
  sound k a found := by
    rcases getElem?_set_eq_some found with ⟨_, rfl⟩ | ⟨_, before⟩
    · exact advances.sound
    · exact orderly.sound k a before
  distinct := advances.distinct
  launched k a p found holds := by
    have older : ∀ n < f.world.launches.length, n < world.launches.length :=
      fun n known => Nat.lt_of_lt_of_le known advances.launches
    rcases getElem?_set_eq_some found with ⟨_, rfl⟩ | ⟨_, before⟩
    · rcases advances.held p holds with held | ⟨rfl, counted⟩
      · obtain ⟨n, known, rfl⟩ := orderly.launched j m p here held
        exact ⟨n, older n known, rfl⟩
      · exact ⟨_, counted, rfl⟩
    · obtain ⟨n, known, rfl⟩ := orderly.launched k a p before holds
      exact ⟨n, older n known, rfl⟩
  alone k l a b p foundA foundB holdsA holdsB := by
    -- A process that was launched just now is none of those that were held before.
    have fresh : ∀ (k : Nat) (a : Member), f.members[k]? = some a → k ≠ j →
        a.held = some p → m'.held ≠ some p := by
      intro k a before other holds holds'
      rcases advances.held p holds' with held | ⟨rfl, _⟩
      · exact other (orderly.alone k j a m p before here holds held)
      · obtain ⟨n, known, same⟩ := orderly.launched k a _ before holds
        cases same
        exact absurd known (Nat.lt_irrefl _)
    rcases getElem?_set_eq_some foundA with ⟨rfl, rfl⟩ | ⟨otherA, beforeA⟩
    · rcases getElem?_set_eq_some foundB with ⟨rfl, rfl⟩ | ⟨otherB, beforeB⟩
      · rfl
      · exact absurd holdsA (fresh l b beforeB otherB holdsB)
    · rcases getElem?_set_eq_some foundB with ⟨rfl, rfl⟩ | ⟨otherB, beforeB⟩
      · exact absurd holdsB (fresh k a beforeA otherA holdsA)
      · exact orderly.alone k l a b p beforeA beforeB holdsA holdsB
  watched i p inSlot := by
    rcases advances.slot i p inSlot with claimed | ⟨before, kept⟩
    · exact ⟨j, m', List.getElem?_set_self (List.getElem?_eq_some_iff.mp here).1, claimed⟩
    · obtain ⟨k, a, there, claimed⟩ := orderly.watched i p before
      exact claimed_set here there claimed kept
  listed i p inList := by
    rcases advances.registered i p inList with claimed | ⟨before, kept⟩
    · exact ⟨j, m', List.getElem?_set_self (List.getElem?_eq_some_iff.mp here).1, claimed⟩
    · obtain ⟨k, a, there, claimed⟩ := orderly.listed i p before
      exact claimed_set here there claimed kept
  gone p released := by
    obtain ⟨calls, trace, releases, _⟩ := advances.trace
    rw [trace, List.mem_append] at released
    have known : (∃ n < f.world.launches.length, p = ProcessRef.launched n) ∧
        m'.held ≠ some p ∧
        ∀ (k : Nat) (a : Member), f.members[k]? = some a → k ≠ j → a.held ≠ some p := by
      rcases released with before | now
      · obtain ⟨⟨n, known, rfl⟩, notHeld⟩ := orderly.gone p before
        refine ⟨⟨n, known, rfl⟩, ?_, fun k a found _ => notHeld k a found⟩
        intro holds
        rcases advances.held _ holds with held | ⟨same, _⟩
        · exact notHeld j m here held
        · cases same
          exact absurd known (Nat.lt_irrefl _)
      · obtain ⟨held, letGo, _⟩ := releases p now
        refine ⟨orderly.launched j m p here held, by simp [letGo], ?_⟩
        intro k a found other holds
        exact other (orderly.alone k j a m p found here holds held)
    obtain ⟨⟨n, early, rfl⟩, notHere, notThere⟩ := known
    refine ⟨⟨n, Nat.lt_of_lt_of_le early advances.launches, rfl⟩, ?_⟩
    intro k a found
    rcases getElem?_set_eq_some found with ⟨_, rfl⟩ | ⟨other, before⟩
    · exact notHere
    · exact notThere k a before other
  spared := by
    obtain ⟨calls, trace, releases, destroys⟩ := advances.trace
    rw [trace]
    apply orderly.spared.append (fun p released => (releases p released).2.2)
    intro agent p foreign destroyed released
    exact (orderly.gone p released).2 j m here (destroys agent p foreign destroyed)

/-- An execution that was asked for holds nothing yet. -/
theorem of_enroll (orderly : f.IsOrderly) (plan : Plan) :
    IsOrderly { f with members := f.members ++ [{ run := { plan } }] } := by
  have fresh : ∀ (j : Nat) (m : Member), (f.members ++ [{ run := { plan } }])[j]? = some m →
      f.members[j]? = some m ∨ m = { run := { plan } } := by
    intro j m found
    rw [List.getElem?_append] at found
    split at found
    · exact .inl found
    · refine .inr (List.mem_singleton.mp (List.mem_of_getElem? found))
  have grows : ∀ (j : Nat) (m : Member), f.members[j]? = some m →
      (f.members ++ [{ run := { plan } }])[j]? = some m := by
    intro j m found
    rw [List.getElem?_append_left (List.getElem?_eq_some_iff.mp found).1]
    exact found
  have heldBefore : ∀ (j : Nat) (m : Member) p,
      (f.members ++ [{ run := { plan } }])[j]? = some m → m.held = some p →
      f.members[j]? = some m := by
    intro j m p found holds
    rcases fresh j m found with before | rfl
    · exact before
    · simp [Member.held, Stage.owedRelease, Stage.custody?] at holds
  constructor
  case sound =>
    intro j m found
    rcases fresh j m found with before | rfl
    · exact orderly.sound j m before
    · rfl
  case distinct => exact orderly.distinct
  case launched =>
    intro j m p found holds
    exact orderly.launched j m p (heldBefore j m p found holds) holds
  case alone =>
    intro j k a b p foundA foundB holdsA holdsB
    exact orderly.alone j k a b p (heldBefore j a p foundA holdsA) (heldBefore k b p foundB holdsB)
      holdsA holdsB
  case watched =>
    intro i p inSlot
    obtain ⟨j, m, found, claimed⟩ := orderly.watched i p inSlot
    exact ⟨j, m, grows j m found, claimed⟩
  case listed =>
    intro i p inList
    obtain ⟨j, m, found, claimed⟩ := orderly.listed i p inList
    exact ⟨j, m, grows j m found, claimed⟩
  case gone =>
    intro p released
    refine ⟨(orderly.gone p released).1, fun j m found holds => ?_⟩
    exact (orderly.gone p released).2 j m (heldBefore j m p found holds) holds
  case spared => exact orderly.spared

/-- Whatever happens keeps order. -/
theorem act (orderly : f.IsOrderly) (a : Act σ) : (f.act s a).IsOrderly := by
  cases a with
  | enroll plan background =>
      refine of_enroll (of_decays orderly ?_) plan
      split
      · exact World.Decays.updateWatchdog _ _ (fun dog p held => by
          unfold Watchdog.forgetLaunch at held
          split at held <;> exact held)
      · exact World.Decays.of_same rfl rfl rfl rfl
  | advance j =>
      simp only [Fleet.act]
      cases found : f.members[j]? with
      | none => exact orderly
      | some m =>
          exact orderly.of_advances found
            (Member.advances_advance (orderly.sound j m found) orderly.distinct s)
  | disturb d => exact of_decays orderly (d.decays s f.world)

theorem play (orderly : f.IsOrderly) (s : Surroundings σ) (acts : List (Act σ)) :
    (f.play s acts).IsOrderly := by
  induction acts generalizing f with
  | nil => exact orderly
  | cons a acts inductionHypothesis => exact inductionHypothesis (orderly.act a)

/-- Who is about to let go of its process has no claims left. -/
theorem unreferenced_of_releasing (orderly : f.IsOrderly) {m : Member} {p : ProcessRef}
    {outcome : Outcome} (member : m ∈ f.members) (releasing : m.run.stage = .releasing p outcome) :
    ¬ f.world.RefersTo p := by
  obtain ⟨j, here⟩ := List.getElem?_of_mem member
  have holds : m.held = some p := by simp [Member.held, releasing, Stage.owedRelease]
  rintro (⟨i, inSlot⟩ | ⟨i, inList⟩)
  · obtain ⟨k, a, there, claimed⟩ := orderly.watched i p inSlot
    obtain rfl := orderly.alone j k m a p here there holds (Member.held_of_watch claimed)
    rw [here] at there
    cases there
    simp [Member.watch, releasing, Stage.owedUnwatch, Stage.custody?] at claimed
  · obtain ⟨k, a, there, claimed⟩ := orderly.listed i p inList
    obtain rfl := orderly.alone j k m a p here there holds (Member.held_of_entry claimed)
    rw [here] at there
    cases there
    simp [Member.entry, releasing, Stage.owedDelist, Stage.custody?] at claimed

/-- What was let go of is not referred to again. -/
theorem unreferenced_of_released (orderly : f.IsOrderly) {p : ProcessRef}
    (released : .release p ∈ f.world.trace) : ¬ f.world.RefersTo p := by
  intro referred
  obtain ⟨j, m, found, holds⟩ := orderly.held_of_refersTo referred
  exact (orderly.gone p released).2 j m found holds

end IsOrderly

/-- No reference outlives its process.  However many executions share watchdogs and
registries, waited for or in the background, in whatever order they take the sections of
their steps, and whatever happens in between (timers, kills, shutdowns, faults of all
kinds):

* When an execution is about to let go of its process, no watchdog holds that process and
  no registry lists it, and it stays so.
* Once a process was let go of, no watchdog and no destroyer has it destroyed. -/
theorem no_reference_outlives_process (s : Surroundings σ) {world : World σ}
    (fresh : world.IsFresh) (acts : List (Act σ)) :
    let f := play s { world } acts
    (∀ m ∈ f.members, ∀ p outcome, m.run.stage = .releasing p outcome →
      (∀ i, f.world.slot i ≠ some p) ∧ ∀ i, p ∉ f.world.registered i) ∧
    (∀ p, .release p ∈ f.world.trace →
      (∀ i, f.world.slot i ≠ some p) ∧ ∀ i, p ∉ f.world.registered i) ∧
    ∀ before p after, f.world.trace = before ++ .release p :: after →
      (∀ i, .destroy (.watchdog i) p ∉ after) ∧ ∀ i, .destroy (.destroyer i) p ∉ after := by
  intro f
  have orderly : f.IsOrderly := (IsOrderly.of_isFresh fresh).play s acts
  have apart : ∀ p, ¬ f.world.RefersTo p →
      (∀ i, f.world.slot i ≠ some p) ∧ ∀ i, p ∉ f.world.registered i := by
    intro p unreferenced
    exact ⟨fun i inSlot => unreferenced (.inl ⟨i, inSlot⟩),
      fun i inList => unreferenced (.inr ⟨i, inList⟩)⟩
  refine ⟨?_, ?_, ?_⟩
  · intro m member p outcome releasing
    exact apart p (orderly.unreferenced_of_releasing member releasing)
  · intro p released
    exact apart p (orderly.unreferenced_of_released released)
  · intro before p after split
    exact ⟨fun i => orderly.spared before p after split _ (by simp),
      fun i => orderly.spared before p after split _ (by simp)⟩

open Script in
/-- A cast whose first process goes on until somebody destroys it. -/
def lingeringCast : Cast where
  queue := [{ lingers := true }]

open Script in
/-- An execution waits for its process, and another one, carried out in the background,
is refused the watchdog they share and gives up. -/
def sharing : List (Act Cast) :=
  [.enroll rehearsalPlan false, .enroll rehearsalPlan true] ++ List.replicate 10 (.advance 0) ++
    List.replicate 20 (.advance 1)

open Script in
/-- While the first process is watched nothing refers to the second one any more. -/
theorem no_reference_outlives_process_sharing :
    let f := play Cast.rehearsal { world := lingeringCast.world } sharing
    lingeringCast.world.IsFresh ∧ f.world.slot 0 = some (.launched 0) ∧
      .release (.launched 1) ∈ f.world.trace ∧
      (∀ i, f.world.slot i ≠ some (.launched 1)) ∧ ∀ i, .launched 1 ∉ f.world.registered i := by
  intro f
  have fresh : lingeringCast.world.IsFresh := by
    refine ⟨?_, ?_, rfl⟩
    · simp [Cast.world]
    · simp [Cast.world]
  have released : .release (.launched 1) ∈ f.world.trace := by decide
  obtain ⟨_, apart, _⟩ := no_reference_outlives_process Cast.rehearsal fresh sharing
  exact ⟨fresh, by decide, released, apart _ released⟩

end Fleet

end Overseer
