import Mathlib.Data.List.Count
import Mathlib.Data.List.Induction
import Overseer.Proofs.Fleet.Disturbance
import Overseer.Script.Rehearsal

/-!
# Histories of a shutdown registry

Somebody adds processes to a registry, removes them and runs it, in any order.  Which processes
are listed, and how often each of them was destroyed, can be told from what was asked for; how
the destructions went makes no difference.
-/

namespace Overseer

namespace Registry

/-- What is asked of a registry. -/
inductive Use
  /-- A process is added. -/
  | add (p : ProcessRef)
  /-- A process is removed. -/
  | remove (p : ProcessRef)
  /-- The registry is run; letting go of it runs it, too. -/
  | run
deriving DecidableEq

/-- Whether a process was added before the first run and not removed since. -/
def Remains (uses : List Use) (p : ProcessRef) : Prop :=
  ∃ k < uses.length, uses[k]? = some (.add p) ∧ .run ∉ uses.take k ∧ .remove p ∉ uses.drop (k + 1)

instance (uses : List Use) (p : ProcessRef) : Decidable (Remains uses p) :=
  inferInstanceAs (Decidable (∃ k < uses.length, _))

/-- Whether a process came to be listed at a point and was not removed since. -/
def Enters (uses : List Use) (p : ProcessRef) (k : Nat) : Prop :=
  uses[k]? = some (.add p) ∧ .run ∉ uses.take k ∧ ¬Remains (uses.take k) p ∧
    .remove p ∉ uses.drop (k + 1)

/-- How many uses there are that count, given those before them. -/
def tally (counts : List Use → Use → Bool) (uses : List Use) : Nat :=
  (List.range uses.length).countP fun k => uses[k]?.any (counts (uses.take k))

/-- How many runs there were while a process was listed. -/
def fatalRuns (p : ProcessRef) : List Use → Nat :=
  tally fun before use => use = .run ∧ Remains before p

/-- How often a process was added after the first run. -/
def lateAdds (p : ProcessRef) : List Use → Nat :=
  tally fun before use => use = .add p ∧ .run ∈ before

section

variable {uses : List Use} {use : Use} {p : ProcessRef} {k : Nat}

/-! ## One more use -/

theorem tally_append (counts : List Use → Use → Bool) (uses : List Use) (use : Use) :
    tally counts (uses ++ [use]) = tally counts uses + if counts uses use then 1 else 0 := by
  have before : ((List.range uses.length).countP fun k =>
      (uses ++ [use])[k]?.any (counts ((uses ++ [use]).take k))) = tally counts uses := by
    apply List.countP_congr
    intro k inside
    have less : k < uses.length := List.mem_range.mp inside
    rw [List.getElem?_append_left less, List.take_append_of_le_length (Nat.le_of_lt less)]
  rw [tally, List.length_append, List.length_singleton, List.range_succ, List.countP_append, before]
  simp [List.countP_cons]

theorem remains_append :
    Remains (uses ++ [use]) p ↔
      Remains uses p ∧ use ≠ .remove p ∨ use = .add p ∧ .run ∉ uses := by
  constructor
  · rintro ⟨k, inside, added, unrun, kept⟩
    rw [List.length_append, List.length_singleton] at inside
    rcases Nat.lt_or_eq_of_le (Nat.le_of_lt_succ inside) with before | rfl
    · rw [List.getElem?_append_left before] at added
      rw [List.take_append_of_le_length (Nat.le_of_lt before)] at unrun
      rw [List.drop_append_of_le_length before, List.mem_append, not_or] at kept
      refine .inl ⟨⟨k, before, added, unrun, kept.1⟩, ?_⟩
      rintro rfl
      exact kept.2 List.mem_cons_self
    · rw [List.getElem?_concat_length] at added
      rw [List.take_left' rfl] at unrun
      exact .inr ⟨Option.some.inj added, unrun⟩
  · rintro (⟨⟨k, before, added, unrun, kept⟩, other⟩ | ⟨rfl, unrun⟩)
    · refine ⟨k, ?_, ?_, ?_, ?_⟩
      · rw [List.length_append]
        exact Nat.lt_add_right _ before
      · rwa [List.getElem?_append_left before]
      · rwa [List.take_append_of_le_length (Nat.le_of_lt before)]
      · rw [List.drop_append_of_le_length before, List.mem_append, not_or]
        exact ⟨kept, fun last => other (List.mem_singleton.mp last).symm⟩
    · refine ⟨uses.length, ?_, ?_, ?_, ?_⟩
      · simp
      · exact List.getElem?_concat_length
      · rwa [List.take_left' rfl]
      · simp

theorem Enters.append (enters : Enters uses p k) (other : use ≠ .remove p) :
    Enters (uses ++ [use]) p k := by
  obtain ⟨added, unrun, unlisted, kept⟩ := enters
  have before : k < uses.length := (List.getElem?_eq_some_iff.mp added).1
  unfold Enters
  rw [List.getElem?_append_left before, List.take_append_of_le_length (Nat.le_of_lt before),
    List.drop_append_of_le_length before, List.mem_append, not_or]
  exact ⟨added, unrun, unlisted, kept, fun last => other (List.mem_singleton.mp last).symm⟩

theorem Enters.lt_length (enters : Enters uses p k) : k < uses.length :=
  (List.getElem?_eq_some_iff.mp enters.1).1

theorem enters_last (unrun : .run ∉ uses) (unlisted : ¬Remains uses p) :
    Enters (uses ++ [.add p]) p uses.length := by
  unfold Enters
  rw [List.getElem?_concat_length, List.take_left' rfl]
  exact ⟨rfl, unrun, unlisted, by simp⟩

/-! ## The registry and its history agree -/

/-- A registry is as what was asked of it has left it. -/
structure Agrees (r : Registry) (uses : List Use) : Prop where
  running : r.running = true ↔ .run ∈ uses
  distinct : r.members.Nodup
  listed : ∀ p, p ∈ r.members ↔ Remains uses p
  entered : ∀ p ∈ r.members, ∃ k, Enters uses p k
  ordered : r.members.Pairwise fun p q => ∃ j k, j < k ∧ Enters uses p j ∧ Enters uses q k

namespace Agrees

variable {r : Registry}

/-- A use after which the same processes are listed. -/
theorem keep (agrees : r.Agrees uses) (unlike : ∀ p ∈ r.members, use ≠ .remove p)
    (idle : ∀ p, use = .add p → .run ∉ uses → p ∈ r.members) (r' : Registry)
    (running : r'.running = true ↔ r.running = true ∨ use = .run)
    (members : r'.members = r.members) : r'.Agrees (uses ++ [use]) where
  running := by
    rw [running, agrees.running, List.mem_append, List.mem_singleton, eq_comm (b := use)]
  distinct := members ▸ agrees.distinct
  listed := by
    intro p
    rw [members, remains_append, ← agrees.listed p]
    constructor
    · exact fun member => .inl ⟨member, unlike p member⟩
    · rintro (⟨member, _⟩ | ⟨added, unrun⟩)
      · exact member
      · exact idle p added unrun
  entered := by
    intro p member
    rw [members] at member
    obtain ⟨k, enters⟩ := agrees.entered p member
    exact ⟨k, enters.append (unlike p member)⟩
  ordered := by
    rw [members]
    apply agrees.ordered.imp_of_mem
    rintro p q first second ⟨j, k, less, enters, enters'⟩
    exact ⟨j, k, less, enters.append (unlike p first), enters'.append (unlike q second)⟩

theorem run (agrees : r.Agrees uses) : r.run.Agrees (uses ++ [.run]) :=
  agrees.keep (by simp) (by simp) r.run (by simp [Registry.run]) rfl

theorem remove (agrees : r.Agrees uses) (p : ProcessRef) :
    (r.remove p).Agrees (uses ++ [.remove p]) where
  running := by
    rw [List.mem_append, List.mem_singleton]
    simpa [Registry.remove] using agrees.running
  distinct := agrees.distinct.erase p
  listed := by
    intro q
    rw [remains_append, ← agrees.listed q]
    simp [Registry.remove, agrees.distinct.mem_erase_iff, and_comm, eq_comm]
  entered := by
    intro q member
    obtain ⟨other, member⟩ := agrees.distinct.mem_erase_iff.mp member
    obtain ⟨k, enters⟩ := agrees.entered q member
    exact ⟨k, enters.append fun same => other (Use.remove.inj same).symm⟩
  ordered := by
    have kept : ∀ q ∈ r.members.erase p, Use.remove p ≠ .remove q := by
      intro q member same
      exact (agrees.distinct.mem_erase_iff.mp member).1 (Use.remove.inj same).symm
    apply (agrees.ordered.sublist List.erase_sublist).imp_of_mem
    rintro q s first second ⟨j, k, less, enters, enters'⟩
    exact ⟨j, k, less, enters.append (kept q first), enters'.append (kept s second)⟩

/-- A process that is taken in is the last one to have come. -/
theorem takeIn (agrees : r.Agrees uses) (idle : r.running = false) (new : p ∉ r.members) :
    (r.add p).Agrees (uses ++ [.add p]) := by
  have added : r.add p = { r with members := r.members ++ [p] } := by
    simp [Registry.add, admission, idle, new]
  have unrun : .run ∉ uses := by simp [← agrees.running, idle]
  have last : Enters (uses ++ [.add p]) p uses.length :=
    enters_last unrun fun remains => new ((agrees.listed p).mpr remains)
  have distinct := nodup_add agrees.distinct p
  rw [added] at distinct ⊢
  constructor
  · rw [List.mem_append, List.mem_singleton]
    simpa using agrees.running
  · exact distinct
  · intro q
    rw [remains_append, ← agrees.listed q]
    simp [unrun, eq_comm]
  · intro q member
    rcases List.mem_append.mp member with before | single
    · obtain ⟨k, enters⟩ := agrees.entered q before
      exact ⟨k, enters.append (by simp)⟩
    · rw [List.mem_singleton.mp single]
      exact ⟨uses.length, last⟩
  · apply List.pairwise_append.mpr
    refine ⟨?_, List.pairwise_singleton _ p, ?_⟩
    · apply agrees.ordered.imp
      rintro q s ⟨j, k, less, enters, enters'⟩
      exact ⟨j, k, less, enters.append (by simp), enters'.append (by simp)⟩
    · intro q before s single
      rw [List.mem_singleton.mp single]
      obtain ⟨k, enters⟩ := agrees.entered q before
      exact ⟨k, uses.length, enters.lt_length, enters.append (by simp), last⟩

/-- A process that is not taken in changes nothing. -/
theorem turnAway (agrees : r.Agrees uses) (known : r.running = true ∨ p ∈ r.members) :
    r.Agrees (uses ++ [.add p]) := by
  apply agrees.keep (by simp) _ r (by simp) rfl
  intro q same unrun
  cases same
  exact known.resolve_left fun running => unrun (agrees.running.mp running)

theorem add (agrees : r.Agrees uses) (p : ProcessRef) : (r.add p).Agrees (uses ++ [.add p]) := by
  cases running : r.running with
  | true =>
      rw [add_of_running running]
      exact agrees.turnAway (.inl running)
  | false =>
      by_cases member : p ∈ r.members
      · have same : r.add p = r := by simp [Registry.add, admission, running, member]
        rw [same]
        exact agrees.turnAway (.inr member)
      · exact agrees.takeIn running member

end Agrees

end

end Registry

/-! ## Destroying processes -/

/-- Whether no fault of an unknown kind is raised, whichever processes are destroyed one after the
other. -/
def Surroundings.IsTame {σ : Type} (s : Surroundings σ) (outside : σ) : Prop :=
  ∀ (earlier : List ProcessRef) (p : ProcessRef) (fault : Fault),
    (s.destroy p (earlier.foldl (fun outside q => (s.destroy q outside).2) outside)).1 =
      .error fault → fault.isStandard = true

namespace World

open Registry

variable {σ : Type} {s : Surroundings σ} {w : World σ} {i : DestroyerId} {r : Registry}
  {p : ProcessRef}

theorem isTame_destroy {outside : σ} (tame : s.IsTame outside) (p : ProcessRef) :
    s.IsTame (s.destroy p outside).2 :=
  fun earlier q fault raised => tame (p :: earlier) q fault raised

theorem destroyers_noteIf (w : World σ) (journal : Option JournalId) (notice : Notice) :
    (w.noteIf journal notice).destroyers = w.destroyers := by
  cases journal <;> rfl

/-- The calls that a registry makes to destroy processes. -/
def destroys (i : DestroyerId) (processes : List ProcessRef) : List Event :=
  processes.map (.destroy (.destroyer i))

/-- Whatever faults of known kinds are raised, all processes are destroyed. -/
theorem destroyAll_of_isTame (tame : s.IsTame w.outside) (i : DestroyerId)
    (journal : Option JournalId) (processes : List ProcessRef) :
    (w.destroyAll s i journal processes).1 = .ok () ∧
      (w.destroyAll s i journal processes).2.trace = w.trace ++ destroys i processes ∧
      (w.destroyAll s i journal processes).2.destroyers = w.destroyers ∧
      s.IsTame (w.destroyAll s i journal processes).2.outside := by
  induction processes generalizing w with
  | nil => exact ⟨rfl, (List.append_nil _).symm, rfl, tame⟩
  | cons p rest inductionHypothesis =>
      have tame' : s.IsTame (w.destroy s (.destroyer i) p).2.outside := isTame_destroy tame p
      have trace : (w.destroy s (.destroyer i) p).2.trace =
          w.trace ++ [.destroy (.destroyer i) p] := rfl
      have destroyers : (w.destroy s (.destroyer i) p).2.destroyers = w.destroyers := rfl
      have standard : ∀ fault, (w.destroy s (.destroyer i) p).1 = .error fault →
          fault.isStandard = true := fun fault raised => tame [] p fault raised
      rw [destroyAll]
      split
      · next v replied =>
          rw [replied] at tame' trace destroyers
          obtain ⟨done, calls, kept, later⟩ := inductionHypothesis tame'
          exact ⟨done, by rw [calls, trace, List.append_assoc]; rfl, kept.trans destroyers, later⟩
      · next fault v replied =>
          rw [replied] at tame' trace destroyers standard
          rw [if_pos (standard fault rfl)]
          generalize noted : v.noteIf journal (.notTerminated (v.pid s p) fault) = u
          have trace' : u.trace = v.trace := by rw [← noted, trace_noteIf]
          have destroyers' : u.destroyers = v.destroyers := by rw [← noted, destroyers_noteIf]
          have outside : u.outside = v.outside := by rw [← noted, outside_noteIf]
          rw [← outside] at tame'
          obtain ⟨done, calls, kept, later⟩ := inductionHypothesis tame'
          refine ⟨done, ?_, kept.trans (destroyers'.trans destroyers), later⟩
          rw [calls, trace', trace, List.append_assoc]
          rfl

/-! ## What each use does -/

/-- A run destroys the processes that are listed, one after the other. -/
theorem runRegistry_of_isTame (tame : s.IsTame w.outside)
    (known : w.destroyers[i]? = some (.registry r)) :
    (w.runRegistry s i).1 = .ok () ∧
      (w.runRegistry s i).2.trace = w.trace ++ destroys i r.members ∧
      (w.runRegistry s i).2.destroyers[i]? = some (.registry r.run) ∧
      s.IsTame (w.runRegistry s i).2.outside := by
  simp only [runRegistry, known]
  have marked : (w.updateDestroyer i fun _ => .registry r.run).destroyers[i]? =
      some (.registry r.run) := by
    rw [updateDestroyer, List.getElem?_modify_eq, known]
    rfl
  generalize updated : w.updateDestroyer i (fun _ => .registry r.run) = v at marked ⊢
  have outside : v.outside = w.outside := by rw [← updated]; rfl
  have trace : v.trace = w.trace := by rw [← updated]; rfl
  rw [← outside] at tame
  obtain ⟨done, calls, kept, later⟩ := destroyAll_of_isTame tame i r.journal r.members
  exact ⟨done, by rw [calls, trace], by rw [kept, marked], later⟩

/-- A process that is added before the first run is taken in unless it is listed. -/
theorem register_of_idle (known : w.destroyers[i]? = some (.registry r))
    (idle : r.running = false) (p : ProcessRef) :
    (w.register s i p).1 = .ok (decide (p ∉ r.members)) ∧
      (w.register s i p).2.trace = w.trace ++ [.enlist i p] ∧
      (w.register s i p).2.destroyers[i]? = some (.registry (r.add p)) ∧
      (w.register s i p).2.outside = w.outside := by
  have admission_eq : r.admission p = if p ∈ r.members then .known else .listed := by
    simp [admission, idle]
  have recorded : (w.record (.enlist i p)).destroyers[i]? = some (.registry r) := known
  simp only [register, enlist, recorded, known, admission_eq]
  by_cases member : p ∈ r.members <;>
    simp [member, admission_eq, Destroyer.admits, Except.map, updateDestroyer, record, known]

/-- A process that is added later is destroyed at once, and what that raises is passed on. -/
theorem register_of_running (known : w.destroyers[i]? = some (.registry r))
    (running : r.running = true) (p : ProcessRef) :
    (w.register s i p).1 = (s.destroy p w.outside).1.map (fun _ => false) ∧
      (w.register s i p).2.trace = w.trace ++ [.enlist i p, .destroy (.destroyer i) p] ∧
      (w.register s i p).2.destroyers = w.destroyers ∧
      (w.register s i p).2.outside = (s.destroy p w.outside).2 := by
  have condemned : r.admission p = .condemned := by simp [admission, running]
  have recorded : (w.record (.enlist i p)).destroyers[i]? = some (.registry r) := known
  simp only [register, enlist, recorded, condemned, known]
  simp [Destroyer.admits, condemned, destroy, call, record]

theorem deregister_of_known (known : w.destroyers[i]? = some (.registry r)) (p : ProcessRef) :
    (w.deregister i p).1 = .ok (decide (p ∈ r.members)) ∧
      (w.deregister i p).2.trace = w.trace ++ [.delist i p] ∧
      (w.deregister i p).2.destroyers[i]? = some (.registry (r.remove p)) ∧
      (w.deregister i p).2.outside = w.outside := by
  have recorded : (w.record (.delist i p)).destroyers[i]? = some (.registry r) := known
  simp only [deregister, delist, recorded, known]
  simp [Destroyer.lists, Registry.contains, Except.map, updateDestroyer, record, known]

/-! ## One use after the other -/

/-- The world after something was asked of a registry. -/
def use (s : Surroundings σ) (i : DestroyerId) (w : World σ) : Use → World σ
  | .add p => (w.register s i p).2
  | .remove p => (w.deregister i p).2
  | .run => (w.runRegistry s i).2

/-- The world after one thing was asked of a registry and then another. -/
def useAll (s : Surroundings σ) (i : DestroyerId) (w : World σ) (uses : List Use) : World σ :=
  uses.foldl (use s i) w

/-- How often a registry has destroyed a process. -/
def slain (w : World σ) (i : DestroyerId) (p : ProcessRef) : Nat :=
  w.trace.count (.destroy (.destroyer i) p)

theorem count_destroys (i : DestroyerId) (distinct : r.members.Nodup) (p : ProcessRef) :
    (destroys i r.members).count (.destroy (.destroyer i) p) =
      if p ∈ r.members then 1 else 0 := by
  have injective : Function.Injective (Event.destroy (.destroyer i)) :=
    fun _ _ same => (Event.destroy.inj same).2
  rw [destroys, List.count_map_of_injective _ _ injective, distinct.count]

/-- The world goes on as its history tells. -/
theorem exists_agrees_use {uses : List Use} (tame : s.IsTame w.outside)
    (known : w.destroyers[i]? = some (.registry r)) (agrees : r.Agrees uses) (use : Use) :
    (∃ r', (w.use s i use).destroyers[i]? = some (.registry r') ∧ r'.Agrees (uses ++ [use])) ∧
      s.IsTame (w.use s i use).outside ∧
      ∀ p, (w.use s i use).slain i p = w.slain i p +
        (if use = .run ∧ Remains uses p then 1 else 0) +
        (if use = .add p ∧ .run ∈ uses then 1 else 0) := by
  cases use with
  | add q =>
      cases running : r.running with
      | true =>
          obtain ⟨_, trace, destroyers, outside⟩ := register_of_running (s := s) known running q
          refine ⟨⟨r, ?_, ?_⟩, ?_, ?_⟩
          · exact (congrArg (·[i]?) destroyers).trans known
          · exact agrees.turnAway (.inl running)
          · rw [World.use, outside]
            exact isTame_destroy tame q
          · intro p
            have late : Use.run ∈ uses := agrees.running.mp running
            rw [World.use, slain, trace, List.count_append, ← slain]
            by_cases same : q = p <;> simp [late, same]
      | false =>
          obtain ⟨_, trace, destroyers, outside⟩ := register_of_idle (s := s) known running q
          refine ⟨⟨r.add q, destroyers, agrees.add q⟩, ?_, ?_⟩
          · rwa [World.use, outside]
          · intro p
            have early : Use.run ∉ uses := by simp [← agrees.running, running]
            rw [World.use, slain, trace, List.count_append, ← slain]
            simp [early]
  | remove q =>
      obtain ⟨_, trace, destroyers, outside⟩ := deregister_of_known known q
      refine ⟨⟨r.remove q, destroyers, agrees.remove q⟩, ?_, ?_⟩
      · rwa [World.use, outside]
      · intro p
        rw [World.use, slain, trace, List.count_append, ← slain]
        simp
  | run =>
      obtain ⟨_, trace, destroyers, later⟩ := runRegistry_of_isTame tame known
      refine ⟨⟨r.run, destroyers, agrees.run⟩, later, ?_⟩
      intro p
      rw [World.use, slain, trace, List.count_append, ← slain, count_destroys i agrees.distinct p]
      simp [agrees.listed p]

/-- Whatever is asked of a registry, it goes on to agree with that. -/
theorem exists_agrees_useAll (tame : s.IsTame w.outside)
    (known : w.destroyers[i]? = some (.registry r)) (agrees : r.Agrees []) (uses : List Use) :
    (∃ r', (w.useAll s i uses).destroyers[i]? = some (.registry r') ∧ r'.Agrees uses) ∧
      s.IsTame (w.useAll s i uses).outside ∧
      ∀ p, (w.useAll s i uses).slain i p = w.slain i p + fatalRuns p uses + lateAdds p uses := by
  induction uses using List.reverseRecOn with
  | nil => exact ⟨⟨r, known, agrees⟩, tame, fun p => rfl⟩
  | append_singleton uses use inductionHypothesis =>
      obtain ⟨⟨r', known', agrees'⟩, tame', slain⟩ := inductionHypothesis
      have step := exists_agrees_use tame' known' agrees' use
      have whole : w.useAll s i (uses ++ [use]) = (w.useAll s i uses).use s i use := by
        simp [useAll]
      rw [whole]
      refine ⟨step.1, step.2.1, fun p => ?_⟩
      rw [step.2.2 p, slain p, fatalRuns, lateAdds, tally_append, tally_append]
      simp only [decide_eq_true_eq]
      omega

theorem agrees_fresh (journal : Option JournalId) : ({ journal } : Registry).Agrees [] := by
  constructor <;> simp [Remains]

/-! ## What a use comes back with -/

theorem registered_of_known (known : w.destroyers[i]? = some (.registry r)) :
    w.registered i = r.members := by
  simp [registered, known]

/-- Adding a process says whether it was taken in, which happens before the first run to whoever
is not listed.  Otherwise the registry stays as it is, also if something is raised, which only
comes from destroying the process. -/
theorem answer_register {uses : List Use} (known : w.destroyers[i]? = some (.registry r))
    (agrees : r.Agrees uses) (p : ProcessRef) :
    ((w.register s i p).1 = .ok true ↔ .run ∉ uses ∧ ¬Remains uses p) ∧
      ((w.register s i p).1 = .ok true →
        (w.register s i p).2.registered i = w.registered i ++ [p]) ∧
      ((w.register s i p).1 ≠ .ok true →
        (w.register s i p).2.destroyers[i]? = w.destroyers[i]?) ∧
      ∀ fault, (w.register s i p).1 = .error fault →
        .run ∈ uses ∧ (s.destroy p w.outside).1 = .error fault := by
  cases running : r.running with
  | true =>
      obtain ⟨reply, _, destroyers, _⟩ := register_of_running (s := s) known running p
      have late : Use.run ∈ uses := agrees.running.mp running
      have refused : (w.register s i p).1 ≠ .ok true := by
        rw [reply]
        cases (s.destroy p w.outside).1 <;> simp [Except.map]
      refine ⟨?_, fun taken => absurd taken refused, fun _ => congrArg (·[i]?) destroyers, ?_⟩
      · exact ⟨fun taken => absurd taken refused, fun early => absurd late early.1⟩
      · intro fault raised
        rw [reply] at raised
        refine ⟨late, ?_⟩
        cases destroyed : (s.destroy p w.outside).1 with
        | ok _ => simp [destroyed, Except.map] at raised
        | error cause => simpa [destroyed, Except.map] using raised
  | false =>
      obtain ⟨reply, _, destroyers, _⟩ := register_of_idle (s := s) known running p
      have early : Use.run ∉ uses := by simp [← agrees.running, running]
      rw [reply, registered_of_known destroyers, registered_of_known known, destroyers, known,
        ← agrees.listed p]
      by_cases member : p ∈ r.members <;>
        simp [early, member, Registry.add, admission, running]

/-- What is listed and who was destroyed, after whatever was asked of a registry since it was
made, as long as nothing of an unknown kind is raised when processes are destroyed.

* Those processes are listed, each once, that were added before the first run and not removed
  since, in the order in which they came.
* Adding a process says that it was taken in if, and only if, it is listed from then on and was
  not before; that is never so after a run.  Otherwise the registry stays as it is, also when
  the process is destroyed instead and that raises something.
* Removing a process says whether it was listed, and then it is not any more.
* A run raises nothing, destroys all that are listed, one after the other, and lists them
  still.
* A process was destroyed once for each run while it was listed and once each time it was added
  after the first run. -/
theorem listing_follows_history (s : Surroundings σ) {journal : Option JournalId}
    (fresh : w.destroyers[i]? = some (.registry { journal })) (tame : s.IsTame w.outside)
    (uses : List Use) :
    let v := w.useAll s i uses
    let listed := v.registered i
    listed.Nodup ∧
      (∀ p, p ∈ listed ↔ Remains uses p) ∧
      (listed.Pairwise fun p q => ∃ j k, j < k ∧ Enters uses p j ∧ Enters uses q k) ∧
      (∀ p, ((v.register s i p).1 = .ok true ↔ .run ∉ uses ∧ ¬Remains uses p) ∧
        ((v.register s i p).1 = .ok true → (v.register s i p).2.registered i = listed ++ [p]) ∧
        ((v.register s i p).1 ≠ .ok true →
          (v.register s i p).2.destroyers[i]? = v.destroyers[i]?) ∧
        ∀ fault, (v.register s i p).1 = .error fault →
          .run ∈ uses ∧ (s.destroy p v.outside).1 = .error fault) ∧
      (∀ p, (v.deregister i p).1 = .ok (decide (p ∈ listed)) ∧
        (v.deregister i p).2.registered i = listed.erase p) ∧
      ((v.runRegistry s i).1 = .ok () ∧
        (v.runRegistry s i).2.trace = v.trace ++ destroys i listed ∧
        (v.runRegistry s i).2.registered i = listed) ∧
      ∀ p, v.slain i p = w.slain i p + fatalRuns p uses + lateAdds p uses := by
  intro v listed
  obtain ⟨⟨r, known, agrees⟩, tame', slain⟩ :=
    exists_agrees_useAll tame fresh (agrees_fresh journal) uses
  have listed_eq : listed = r.members := registered_of_known known
  rw [listed_eq]
  refine ⟨agrees.distinct, agrees.listed, agrees.ordered, ?_, ?_, ?_, slain⟩
  · intro p
    rw [← registered_of_known known]
    exact answer_register known agrees p
  · intro p
    obtain ⟨reply, _, removed, _⟩ := deregister_of_known known p
    exact ⟨reply, registered_of_known removed⟩
  · obtain ⟨done, trace, kept, _⟩ := runRegistry_of_isTame tame' known
    have still : (v.runRegistry s i).2.registered i = r.run.members := registered_of_known kept
    exact ⟨done, trace, still⟩

open Script in
theorem process_setProcess (c : Cast) (q : ProcessRef) (later : ScriptedProcess) (p : ProcessRef) :
    (c.setProcess q later).process p = c.process p ∨
      p = q ∧ (c.setProcess q later).process p = later := by
  cases q with
  | outsider =>
      cases p with
      | outsider => exact .inr ⟨rfl, rfl⟩
      | launched k => exact .inl rfl
  | launched j =>
      cases p with
      | outsider => exact .inl rfl
      | launched k =>
          simp only [Cast.process, Cast.setProcess, List.getD_eq_getElem?_getD]
          by_cases same : k = j
          · subst same
            by_cases inside : k < c.launched.length
            · exact .inr ⟨rfl, by simp [inside]⟩
            · rw [List.set_eq_of_length_le (Nat.le_of_not_lt inside)]
              exact .inl rfl
          · rw [List.getElem?_set_ne (Ne.symm same)]
            exact .inl rfl

open Script in
/-- Destroying a process changes no script. -/
theorem script_destroy (c : Cast) (q p : ProcessRef) :
    ((c.destroy q).2.process p).script = (c.process p).script := by
  have cases := process_setProcess c q (c.process q).destroy.2 p
  change ((c.setProcess q (c.process q).destroy.2).process p).script = _
  rcases cases with same | ⟨rfl, changed⟩
  · rw [same]
  · rw [changed]
    rfl

open Script in
/-- Processes raise nothing of an unknown kind when they are destroyed, if their scripts hold
nothing of that kind. -/
theorem isTame_rehearsal {c : Cast}
    (standard : ∀ p fault, (c.process p).script.destroyFault = some fault →
      fault.isStandard = true) : Cast.rehearsal.IsTame c := by
  intro earlier
  induction earlier generalizing c with
  | nil =>
      intro p fault raised
      apply standard p fault
      change (c.process p).destroy.1 = .error fault at raised
      simp only [ScriptedProcess.destroy] at raised
      split at raised
      · next cause scripted =>
          split at raised
          · rw [scripted, Except.error.inj raised]
          · contradiction
      · contradiction
  | cons q earlier inductionHypothesis =>
      apply inductionHypothesis
      intro p fault scripted
      have before := script_destroy c q p
      change ((c.destroy q).2.process p).script.destroyFault = some fault at scripted
      rw [before] at scripted
      exact standard p fault scripted

open Script in
/-- Three processes, of which the first raises a fault whenever it is destroyed. -/
def unwilling : World Cast :=
  Cast.world { launched := [{ script := { destroyFault := some (.runtime []) } }, {}, {}] }

/-- The second process leaves and comes back before the first run, and the third one is added once
more after it. -/
def comingsAndGoings : List Use :=
  [.add (.launched 0), .add (.launched 1), .remove (.launched 1), .add (.launched 2),
    .add (.launched 1), .run, .add (.launched 2), .remove (.launched 0), .run]

open Script in
/-- The first process was destroyed once, although that raised a fault, and the third one for both
runs and when it was added late. -/
theorem listing_follows_history_comingsAndGoings :
    let v := unwilling.useAll Cast.rehearsal 0 comingsAndGoings
    v.slain 0 (.launched 0) = 1 ∧ v.slain 0 (.launched 2) = 3 ∧
      .launched 1 ∈ v.registered 0 ∧ .launched 0 ∉ v.registered 0 := by
  intro v
  have tame : Cast.rehearsal.IsTame unwilling.outside := by
    apply isTame_rehearsal
    intro p fault scripted
    cases p with
    | outsider => contradiction
    | launched k =>
        match k with
        | 0 => exact Option.some.inj scripted ▸ rfl
        | 1 | 2 | k + 3 => contradiction
  obtain ⟨_, remains, _, _, _, _, slain⟩ :=
    listing_follows_history Cast.rehearsal (i := 0) rfl tame comingsAndGoings
  refine ⟨slain _, slain _, (remains _).mpr (by decide), ?_⟩
  rw [remains]
  decide

end World

end Overseer
