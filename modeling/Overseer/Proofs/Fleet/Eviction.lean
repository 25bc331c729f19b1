import Overseer.Proofs.Fleet.Released
import Overseer.Proofs.Fleet.Tenure

/-!
# Whom a watchdog guards

A watchdog that has destroyed its process is free at once, although the execution of that
process has yet to end its watch.  Another execution may take the watchdog meanwhile, and
then the first one, which does not know, ends the watch of the other.

So a watch that nobody means to end is safe from those who come after it, but not from
those who came before it.  `guarded_iff_none_struck` says exactly whom it depends on.
-/

namespace Overseer

namespace World

variable {σ : Type}

/-- The process that the end of the timeout or a kill would destroy. -/
def guarded (w : World σ) (i : WatchdogId) : Option ProcessRef :=
  w.watchdogs[i]?.bind Watchdog.target?

end World

namespace Fleet

variable {σ : Type} {s : Surroundings σ} {f g : Fleet σ} {i : WatchdogId} {j k : Nat}
  {p : ProcessRef}

/-- How far a member has got with its watch, if it uses the watchdog at all. -/
def tenure (f : Fleet σ) (i : WatchdogId) (k : Nat) : Tenure :=
  match f.members[k]? with
  | some m => if m.run.plan.watchdog = some i then m.tenure else .before
  | none => .before

/-- A member has yet to end its watch on a process. -/
def Holds (f : Fleet σ) (j : Nat) (i : WatchdogId) (p : ProcessRef) : Prop :=
  ∃ m, f.members[j]? = some m ∧ m.watch = some (i, p)

theorem tenure_of_member {m : Member} (here : f.members[k]? = some m) :
    f.tenure i k = if m.run.plan.watchdog = some i then m.tenure else .before := by
  simp [tenure, here]

theorem Holds.tenure (holds : f.Holds j i p) (orderly : f.IsOrderly) :
    f.tenure i j = .holding ∨ f.tenure i j = .ending := by
  obtain ⟨m, here, watched⟩ := holds
  have past := Member.precedesWatch_of_watch (orderly.sound j m here) watched
  have used : m.run.plan.watchdog = some i := Member.watchdog_of_watch watched
  rw [tenure_of_member here, if_pos used]
  cases busy : m.midway && m.run.stage.handlesWatch <;>
    simp [Member.tenure, past, watched, busy]

/-! ## One act -/

/-- What an act means for a watchdog: the section of one member at most. -/
structure Turns (i : WatchdogId) (f g : Fleet σ) (k : Nat) (change : Watchdog → Watchdog) :
    Prop where
  others : ∀ l, l ≠ k → g.tenure i l = f.tenure i l
  deed : Deed f.world.watchdogs[i]? (f.members[k]?.bind Member.held) (f.tenure i k)
    (g.tenure i k) change
  watchdog : g.world.watchdogs[i]? = f.world.watchdogs[i]?.map change

theorem turns_of_aside (k : Nat) {change : Watchdog → Watchdog} (same : g.tenure i = f.tenure i)
    (marks : Watchdog.IsMarking change)
    (watchdog : g.world.watchdogs[i]? = f.world.watchdogs[i]?.map change) :
    Turns i f g k change where
  others l _ := by rw [same]
  deed := by
    rw [same]
    exact .idle _ marks
  watchdog := watchdog

theorem tenure_set_of_ne {w : World σ} {m : Member} {l : Nat} (other : l ≠ k) :
    Fleet.tenure { world := w, members := f.members.set k m } i l = f.tenure i l := by
  simp only [tenure]
  rw [List.getElem?_set_ne other.symm]

theorem tenure_enroll (w : World σ) (plan : Plan) :
    Fleet.tenure { world := w, members := f.members ++ [{ run := { plan } }] } i = f.tenure i := by
  funext l
  by_cases known : l < f.members.length
  · simp only [tenure]
    rw [List.getElem?_append_left known]
  · have missing : f.members[l]? = none := List.getElem?_eq_none (Nat.not_lt.mp known)
    simp only [tenure]
    rw [List.getElem?_append_right (Nat.not_lt.mp known), missing]
    cases found : ([{ run := { plan } }] : List Member)[l - f.members.length]? with
    | none => rfl
    | some m =>
        obtain rfl := List.mem_singleton.mp (List.mem_of_getElem? found)
        simp [Member.tenure, Stage.precedesWatch]

/-- Every act but a kill or the end of the timer is somebody's turn, or nobody's. -/
theorem exists_turns (orderly : f.IsOrderly) (s : Surroundings σ) {a : Act σ}
    (spared : ∀ d, a = .disturb d → d.endsWatch i = false) :
    ∃ k change, Turns i f (f.act s a) k change := by
  cases a with
  | enroll plan background =>
      have forgets : ∃ change, Watchdog.IsMarking change ∧
          (f.act s (.enroll plan background)).world.watchdogs[i]? =
            f.world.watchdogs[i]?.map change := by
        simp only [act]
        split
        · next k _ =>
            by_cases here : k = i
            · rw [here]
              exact ⟨_, Watchdog.isMarking_forgetLaunch, List.getElem?_modify_eq ..⟩
            · exact ⟨id, Watchdog.isMarking_id,
                (List.getElem?_modify_ne _ _ here).trans Option.map_id_apply.symm⟩
        · exact ⟨id, Watchdog.isMarking_id, Option.map_id_apply.symm⟩
      obtain ⟨change, marks, effect⟩ := forgets
      exact ⟨0, change, turns_of_aside 0 (tenure_enroll _ plan) marks effect⟩
  | advance k =>
      simp only [act]
      cases here : f.members[k]? with
      | none => exact ⟨k, id, turns_of_aside k rfl Watchdog.isMarking_id Option.map_id_apply.symm⟩
      | some m =>
          have within : k < f.members.length := (List.getElem?_eq_some_iff.mp here).1
          have planned := Member.plan_advance m s f.world
          by_cases used : m.run.plan.watchdog = some i
          · obtain ⟨change, deed, effect⟩ :=
              Member.deed_advance (orderly.sound k m here) s f.world used
            refine ⟨k, change, fun l other => tenure_set_of_ne other, ?_, effect⟩
            have before : f.tenure i k = m.tenure := by rw [tenure_of_member here, if_pos used]
            rw [before, here]
            rw [tenure_of_member (List.getElem?_set_self within), planned, if_pos used]
            exact deed
          · refine ⟨k, id, turns_of_aside k ?_ Watchdog.isMarking_id ?_⟩
            · funext l
              by_cases same : l = k
              · rw [same, tenure_of_member (List.getElem?_set_self within), planned, if_neg used,
                  tenure_of_member here, if_neg used]
              · exact tenure_set_of_ne same
            · rw [Option.map_id_apply]
              exact Member.watchdogs_advance_of_ne m s f.world used
  | disturb d =>
      refine ⟨0, id, turns_of_aside 0 rfl Watchdog.isMarking_id ?_⟩
      rw [Option.map_id_apply]
      exact World.watchdogs_disturb s f.world (spared d rfl)

namespace Turns

variable {change : Watchdog → Watchdog}

theorem rank_le (turns : Turns i f g k change) (l : Nat) :
    (f.tenure i l).rank ≤ (g.tenure i l).rank := by
  by_cases here : l = k
  · rw [here]
    exact turns.deed.rank_le
  · exact Nat.le_of_eq (by rw [turns.others l here])

/-- Who is about to take the watchdog holds another process than the member that has it. -/
theorem foreign (orderly : f.IsOrderly) (holds : f.Holds j i p) (k : Nat)
    (taking : f.tenure i k = .taking) : f.members[k]?.bind Member.held ≠ some p := by
  intro held
  have notTaking := holds.tenure orderly
  obtain ⟨m, here, watched⟩ := holds
  obtain ⟨m', there, held'⟩ := Option.bind_eq_some_iff.mp held
  obtain rfl := orderly.alone j k m m' p here there (Member.held_of_watch watched) held'
  rw [taking] at notTaking
  rcases notTaking with _ | _ <;> contradiction

/-- Nobody else puts a process under guard again. -/
theorem guarded_before (turns : Turns i f g k change) (orderly : f.IsOrderly)
    (holds : f.Holds j i p) (guarded : g.world.guarded i = some p) :
    f.world.guarded i = some p := by
  have deed := turns.deed
  simp only [World.guarded, turns.watchdog] at guarded ⊢
  cases found : f.world.watchdogs[i]? with
  | none => simp [found] at guarded
  | some dog =>
      rw [found] at deed guarded
      exact deed.target_before (foreign orderly holds k) guarded

/-- A process stays under guard until somebody else strikes. -/
theorem guarded_iff (turns : Turns i f g k change) (orderly : f.IsOrderly)
    (holds : f.Holds j i p) (still : g.tenure i j ≠ .after) (guarded : f.world.guarded i = some p) :
    g.world.guarded i = some p ↔ ∀ l, l ≠ j → (f.tenure i l).hasStruck (g.tenure i l) = false := by
  have deed := turns.deed
  obtain ⟨dog, found, target⟩ := Option.bind_eq_some_iff.mp guarded
  rw [found] at deed
  have onlyTurn : (f.tenure i k).hasStruck (g.tenure i k) = false ↔
      ∀ l, l ≠ j → (f.tenure i l).hasStruck (g.tenure i l) = false := by
    constructor
    · intro calm l _
      by_cases here : l = k
      · rwa [here]
      · rw [turns.others l here]
        exact Tenure.hasStruck_self _
    · intro calm
      by_cases own : k = j
      · rcases holds.tenure orderly with atStart | atStart <;>
          simp [own, atStart, Tenure.hasStruck, still]
      · exact calm k own
  rw [← onlyTurn, ← deed.target_iff (foreign orderly holds k) target]
  simp [World.guarded, turns.watchdog, found]

/-- While a process is under guard nobody begins a watch. -/
theorem begun (turns : Turns i f g k change) (guarded : f.world.guarded i = some p) (l : Nat)
    (unbegun : f.tenure i l = .before) : g.tenure i l = .before ∨ g.tenure i l = .after := by
  have deed := turns.deed
  obtain ⟨dog, found, target⟩ := Option.bind_eq_some_iff.mp guarded
  rw [found] at deed
  by_cases here : l = k
  · rw [here] at unbegun ⊢
    exact deed.begun target unbegun
  · rw [turns.others l here]
    exact .inl unbegun

theorem watchdog_of_still (turns : Turns i f g k change) {dog : Watchdog}
    (found : f.world.watchdogs[i]? = some dog) (target : dog.target? = some p)
    (still : ∀ l, (f.tenure i l).isUnderWay = true → g.tenure i l = f.tenure i l) :
    ∃ started, g.world.watchdogs[i]? = some { dog with started } := by
  have deed := turns.deed
  rw [found] at deed
  obtain ⟨started, same⟩ := deed.eq_of_still target (still k)
  exact ⟨started, by rw [turns.watchdog, found, Option.map_some, same]⟩

end Turns

/-! ## Many acts -/

theorem play_cons (s : Surroundings σ) (f : Fleet σ) (a : Act σ) (acts : List (Act σ)) :
    f.play s (a :: acts) = (f.act s a).play s acts :=
  rfl

/-- A member keeps its watch until it lets the watchdog go. -/
theorem Holds.act (holds : f.Holds j i p) (orderly : f.IsOrderly) (s : Surroundings σ)
    (a : Act σ) : (f.act s a).Holds j i p ∨ (f.act s a).tenure i j = .after := by
  obtain ⟨m, here, watched⟩ := holds
  have within := (List.getElem?_eq_some_iff.mp here).1
  cases a with
  | enroll plan background =>
      left
      refine ⟨m, ?_, watched⟩
      simp only [Fleet.act]
      rw [List.getElem?_append_left within]
      exact here
  | advance k =>
      simp only [Fleet.act]
      by_cases own : k = j
      · rw [own, here]
        have used := Member.watchdog_of_watch watched
        rcases Member.watch_advance (orderly.sound j m here) s f.world watched with still | gone
        · exact .inl ⟨_, List.getElem?_set_self within, still⟩
        · right
          rw [tenure_of_member (List.getElem?_set_self within), Member.plan_advance, if_pos used]
          exact gone
      · left
        cases f.members[k]? with
        | none => exact ⟨m, here, watched⟩
        | some m' => exact ⟨m, (List.getElem?_set_ne own).trans here, watched⟩
  | disturb d => exact .inl ⟨m, here, watched⟩

section

variable {a : Act σ} {more : List (Act σ)}

theorem rank_le_play (orderly : f.IsOrderly) (s : Surroundings σ)
    (spared : ∀ d, .disturb d ∈ more → d.endsWatch i = false) (l : Nat) :
    (f.tenure i l).rank ≤ ((f.play s more).tenure i l).rank := by
  induction more generalizing f with
  | nil => exact Nat.le_refl _
  | cons a more inductionHypothesis =>
      obtain ⟨k, change, turns⟩ := exists_turns orderly s
        fun d same => spared d (same ▸ List.mem_cons_self)
      exact Nat.le_trans (turns.rank_le l) (inductionHypothesis (orderly.act a)
        fun d later => spared d (List.mem_cons_of_mem a later))

/-- Who has not let the watchdog go in the end has it all the time. -/
theorem Holds.head (holds : f.Holds j i p) (orderly : f.IsOrderly)
    (spared : ∀ d, .disturb d ∈ a :: more → d.endsWatch i = false)
    (still : (f.play s (a :: more)).tenure i j ≠ .after) : (f.act s a).Holds j i p := by
  rcases holds.act orderly s a with yet | gone
  · exact yet
  · have onward := rank_le_play (orderly.act (s := s) a) s
      (fun d later => spared d (List.mem_cons_of_mem a later)) j
    rw [gone] at onward
    rw [play_cons] at still
    cases later : ((f.act s a).play s more).tenure i j <;> simp_all [Tenure.rank]

theorem guarded_before_play (orderly : f.IsOrderly) (holds : f.Holds j i p)
    (spared : ∀ d, .disturb d ∈ more → d.endsWatch i = false)
    (still : (f.play s more).tenure i j ≠ .after)
    (guarded : (f.play s more).world.guarded i = some p) : f.world.guarded i = some p := by
  induction more generalizing f with
  | nil => exact guarded
  | cons a more inductionHypothesis =>
      obtain ⟨k, change, turns⟩ := exists_turns orderly s
        fun d same => spared d (same ▸ List.mem_cons_self)
      apply turns.guarded_before orderly holds
      exact inductionHypothesis (orderly.act a) (holds.head orderly spared still)
        (fun d later => spared d (List.mem_cons_of_mem a later)) still guarded

/-- A process stays under guard until one of the members that were about to take its
watchdog, or had yet to end a watch of their own, has done so. -/
theorem guarded_play_iff (orderly : f.IsOrderly) (holds : f.Holds j i p)
    (spared : ∀ d, .disturb d ∈ more → d.endsWatch i = false)
    (still : (f.play s more).tenure i j ≠ .after) (guarded : f.world.guarded i = some p) :
    (f.play s more).world.guarded i = some p ↔
      ∀ l, l ≠ j → (f.tenure i l).hasStruck ((f.play s more).tenure i l) = false := by
  induction more generalizing f with
  | nil => exact ⟨fun _ l _ => Tenure.hasStruck_self _, fun _ => guarded⟩
  | cons a more inductionHypothesis =>
      obtain ⟨k, change, turns⟩ := exists_turns orderly s
        fun d same => spared d (same ▸ List.mem_cons_self)
      have orderly' := orderly.act (s := s) a
      have holds' := holds.head orderly spared still
      have spared' : ∀ d, .disturb d ∈ more → d.endsWatch i = false :=
        fun d later => spared d (List.mem_cons_of_mem a later)
      have still' : (f.act s a).tenure i j ≠ .after := by
        rcases holds'.tenure orderly' with same | same <;> simp [same]
      have first := turns.guarded_iff orderly holds still' guarded
      rw [play_cons] at still ⊢
      constructor
      · intro guardedLast l other
        have guardedNext := guarded_before_play orderly' holds' spared' still guardedLast
        have later := (inductionHypothesis orderly' holds' spared' still guardedNext).mp
          guardedLast l other
        have early := first.mp guardedNext l other
        cases struck : (f.tenure i l).hasStruck (((f.act s a).play s more).tenure i l) with
        | false => rfl
        | true =>
            rcases Tenure.hasStruck_or struck (turns.rank_le l) with struckNow | struckLater
            · simp [early] at struckNow
            · simp [later] at struckLater
      · intro calm
        have guardedNext : (f.act s a).world.guarded i = some p := by
          rw [first]
          intro l other
          cases struck : (f.tenure i l).hasStruck ((f.act s a).tenure i l) with
          | false => rfl
          | true =>
              have onward := rank_le_play orderly' s spared' l
              simpa [calm l other] using Tenure.hasStruck_mono struck (turns.rank_le l) onward
        rw [inductionHypothesis orderly' holds' spared' still guardedNext]
        intro l other
        cases struck : ((f.act s a).tenure i l).hasStruck
            (((f.act s a).play s more).tenure i l) with
        | false => rfl
        | true =>
            simpa [calm l other] using Tenure.hasStruck_of_later struck (turns.rank_le l)
              (turns.begun guarded l)

/-- If nobody goes on with a watch, the watchdog stays as it is but for a mark. -/
theorem watchdog_play_of_still (orderly : f.IsOrderly)
    (spared : ∀ d, .disturb d ∈ more → d.endsWatch i = false) {dog : Watchdog}
    (found : f.world.watchdogs[i]? = some dog) (target : dog.target? = some p)
    (still : ∀ l, (f.tenure i l).isUnderWay = true →
      (f.play s more).tenure i l = f.tenure i l) :
    ∃ started, (f.play s more).world.watchdogs[i]? = some { dog with started } := by
  induction more generalizing f dog with
  | nil => exact ⟨dog.started, found⟩
  | cons a more inductionHypothesis =>
      obtain ⟨k, change, turns⟩ := exists_turns orderly s
        fun d same => spared d (same ▸ List.mem_cons_self)
      have orderly' := orderly.act (s := s) a
      have spared' : ∀ d, .disturb d ∈ more → d.endsWatch i = false :=
        fun d later => spared d (List.mem_cons_of_mem a later)
      have guarded : f.world.guarded i = some p := by simp [World.guarded, found, target]
      have between : ∀ l, (f.tenure i l).isUnderWay = true →
          (f.act s a).tenure i l = f.tenure i l := by
        intro l underWay
        have same := still l underWay
        have onward := rank_le_play orderly' s spared' l
        rw [play_cons] at same
        rw [same] at onward
        exact Tenure.eq_of_rank_le (turns.rank_le l) onward
      obtain ⟨started, next⟩ := turns.watchdog_of_still found target between
      obtain ⟨last, same⟩ := inductionHypothesis orderly' spared' next target (by
        intro l underWay
        have begun : (f.tenure i l).isUnderWay = true := by
          cases atStart : f.tenure i l with
          | before =>
              rcases turns.begun guarded l atStart with same | same <;>
                simp [same, Tenure.isUnderWay] at underWay
          | after =>
              have onward := turns.rank_le l
              cases atEnd : (f.act s a).tenure i l <;>
                simp_all [Tenure.rank, Tenure.isUnderWay]
          | taking | holding | ending => rfl
        rw [between l begun]
        exact still l begun)
      exact ⟨last, same⟩

end

/-- Whom a watch depends on.  However many executions share a watchdog, in whatever order
they take the sections of their steps: suppose an execution has its process guarded by the
watchdog, and since then the timer has not ended, nobody has asked for a kill, and the
execution has not ended its watch.

* The process is still guarded if and only if no other execution has changed that since:
  neither one that had found the watchdog free before and was about to take it, nor one
  that had a watch of its own to end, which the timer or a kill had ended already.  Those
  that were asked for or came to their watch later leave it alone.
* If moreover none of those, nor the execution itself, has so much as begun, then the
  watchdog is as it was, its timer included; it may only have been told once more that the
  launch was tried. -/
theorem guarded_iff_none_struck (s : Surroundings σ) {world : World σ} (fresh : world.IsFresh)
    (acts more : List (Act σ)) {f g : Fleet σ} (reached : f = play s { world } acts)
    (later : g = f.play s more) {m : Member} (member : f.members[j]? = some m)
    (watched : m.watch = some (i, p)) (guarded : f.world.guarded i = some p)
    (spared : ∀ d, .disturb d ∈ more → d.endsWatch i = false)
    (still : g.tenure i j ≠ .after) :
    (g.world.guarded i = some p ↔
      ∀ k, k ≠ j → (f.tenure i k).hasStruck (g.tenure i k) = false) ∧
    ((∀ k, (f.tenure i k).isUnderWay = true → g.tenure i k = f.tenure i k) →
      ∃ dog started, f.world.watchdogs[i]? = some dog ∧
        g.world.watchdogs[i]? = some { dog with started }) := by
  have orderly : f.IsOrderly := by
    rw [reached]
    exact (IsOrderly.of_isFresh fresh).play s acts
  have holds : f.Holds j i p := ⟨m, member, watched⟩
  subst later
  constructor
  · exact guarded_play_iff orderly holds spared still guarded
  · intro rest
    obtain ⟨dog, found, target⟩ := Option.bind_eq_some_iff.mp guarded
    obtain ⟨started, same⟩ := watchdog_play_of_still orderly spared found target rest
    exact ⟨dog, started, found, same⟩

open Script in
/-- The first process is watched when a second execution is asked for, which is refused
the watchdog and gives up: that changes nothing for the first one. -/
theorem guarded_iff_none_struck_sharing :
    let f := play Cast.rehearsal { world := lingeringCast.world }
      ([.enroll rehearsalPlan false, .enroll rehearsalPlan true] ++
        List.replicate 9 (.advance 0))
    let g := f.play Cast.rehearsal (List.replicate 20 (.advance 1))
    f.world.guarded 0 = some (.launched 0) ∧ g.tenure 0 1 = .after ∧
      g.world.guarded 0 = some (.launched 0) := by
  intro f g
  have fresh : lingeringCast.world.IsFresh := by
    refine ⟨?_, ?_, rfl⟩
    · simp [Cast.world]
    · simp [Cast.world]
  have guarded : f.world.guarded 0 = some (.launched 0) := by decide
  obtain ⟨m, member, watched⟩ : f.Holds 0 0 (.launched 0) := ⟨_, rfl, by decide⟩
  have kept := (guarded_iff_none_struck Cast.rehearsal fresh _ (List.replicate 20 (.advance 1))
    (f := f) (g := g) rfl rfl member watched guarded (by simp) (by decide)).1
  refine ⟨guarded, by decide, kept.mpr ?_⟩
  intro k other
  -- There are two executions, and the second one gives up before its watch.
  rcases k with _ | _ | k
  · exact absurd rfl other
  · decide
  · rfl

open Script in
/-- A cast whose processes go on until somebody destroys them. -/
def patientCast : Cast where
  queue := [{ lingers := true }, { lingers := true }]

open Script in
/-- A kill ends the watch of a first process, and the watchdog takes a second one before
the first execution goes on. -/
def overtaking : List (Act Cast) :=
  [.enroll rehearsalPlan true, .enroll rehearsalPlan true] ++ List.replicate 9 (.advance 0) ++
    [.disturb (.kill 0)] ++ List.replicate 9 (.advance 1)

open Script in
/-- The first execution ends the watch of the second one, which nobody has killed, whose
timer has not ended, and which has not ended its watch. -/
theorem late_stop_ends_watch :
    let f := play Cast.rehearsal { world := patientCast.world } overtaking
    let g := f.play Cast.rehearsal (List.replicate 3 (.advance 0))
    f.tenure 0 0 = .holding ∧ f.tenure 0 1 = .holding ∧
      f.world.guarded 0 = some (.launched 1) ∧
      g.tenure 0 0 = .after ∧ g.tenure 0 1 = .holding ∧ g.world.guarded 0 = none := by
  decide

end Fleet

end Overseer
