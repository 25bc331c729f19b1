import Overseer.Execution.Run

/-!
# What operations leave alone

Every operation on a world changes few of its parts.  These lemmas say what each
adds to the trace and which of the other parts it leaves as they were.
-/

namespace Overseer

namespace World

variable {σ : Type}

/-- The calls that a destroyer makes itself while a process is added to it. -/
def condemnation (w : World σ) (i : DestroyerId) (p : ProcessRef) : List Event :=
  match w.destroyers[i]? with
  | some (.registry r) => if r.admission p = .condemned then [.destroy (.destroyer i) p] else []
  | _ => []

/-- The notices a journal has. -/
def notices (w : World σ) (journal : JournalId) : List Notice :=
  match w.journals[journal]? with
  | some j => j.notices
  | none => []

/-- Whether there is a journal with this index that writes at a level. -/
def hears (w : World σ) (journal : JournalId) (level : Level) : Bool :=
  match w.journals[journal]? with
  | some j => j.minimum.isWritten level
  | none => false

/-- Write notices to a journal, one after the other. -/
def noteAll (w : World σ) (journal : JournalId) (notices : List Notice) : World σ :=
  notices.foldl (fun w notice => w.note journal notice) w

theorem eq_destroy_of_mem_condemnation {w : World σ} {i : DestroyerId} {p : ProcessRef}
    {event : Event} (found : event ∈ w.condemnation i p) : event = .destroy (.destroyer i) p := by
  unfold condemnation at found
  split at found
  · split at found
    · exact List.mem_singleton.mp found
    · simp at found
  · simp at found

/-- What a destroyer does by itself can be left out of account. -/
theorem filterMap_condemnation {α : Type} {f : Event → Option α} (w : World σ) (i : DestroyerId)
    (p : ProcessRef) (blind : f (.destroy (.destroyer i) p) = none) :
    (w.condemnation i p).filterMap f = [] :=
  List.filterMap_eq_nil_iff.mpr fun event found => by
    rw [eq_destroy_of_mem_condemnation found, blind]

/-! ## Notices -/

/-- A notice is written if the journal writes at its level. -/
theorem notices_note (w : World σ) (journal : JournalId) (notice : Notice) :
    (w.note journal notice).notices journal =
      w.notices journal ++ if w.hears journal notice.level then [notice] else [] := by
  unfold notices hears note
  simp only [List.getElem?_modify_eq]
  cases w.journals[journal]? with
  | none => simp
  | some j =>
      simp only [Option.map_eq_map, Option.map_some, Journal.add]
      split <;> simp

theorem hears_note (w : World σ) (journal : JournalId) (notice : Notice) :
    (w.note journal notice).hears journal = w.hears journal := by
  funext level
  unfold hears note
  simp only [List.getElem?_modify_eq]
  cases w.journals[journal]? <;> simp

@[simp]
theorem trace_noteAll (w : World σ) (journal : JournalId) (notices : List Notice) :
    (w.noteAll journal notices).trace = w.trace := by
  induction notices generalizing w with
  | nil => rfl
  | cons notice rest inductionHypothesis => exact inductionHypothesis _

/-- Of several notices those are written whose level the journal writes at. -/
theorem notices_noteAll (w : World σ) (journal : JournalId) (notices : List Notice) :
    (w.noteAll journal notices).notices journal =
      w.notices journal ++ notices.filter (fun notice => w.hears journal notice.level) := by
  induction notices generalizing w with
  | nil => simp [noteAll]
  | cons notice rest inductionHypothesis =>
      have later := inductionHypothesis (w.note journal notice)
      rw [hears_note, notices_note] at later
      rw [noteAll, List.foldl_cons, ← noteAll, later, List.filter_cons]
      split <;> simp

theorem notices_eq_of_journals {v w : World σ} (same : v.journals = w.journals) :
    v.notices = w.notices := by
  funext journal
  unfold notices
  rw [same]

theorem hears_eq_of_journals {v w : World σ} (same : v.journals = w.journals) :
    v.hears = w.hears := by
  funext journal level
  unfold hears
  rw [same]

/-! ## Journals -/

@[simp]
theorem journals_startWatch (w : World σ) (i : WatchdogId) (p : ProcessRef) :
    (w.startWatch i p).2.journals = w.journals := by
  unfold startWatch
  split
  · rfl
  · split <;> rfl

@[simp]
theorem journals_enlist (s : Surroundings σ) (w : World σ) (i : DestroyerId) (p : ProcessRef) :
    (w.enlist s i p).2.journals = w.journals := by
  unfold enlist
  simp only [record]
  rcases w.destroyers[i]? with _ | ⟨r⟩ | ⟨_ | fault, _, _⟩
  · rfl
  · dsimp only
    cases r.admission p <;> rfl
  · rfl
  · rfl

@[simp]
theorem journals_delist (w : World σ) (i : DestroyerId) (p : ProcessRef) :
    (w.delist i p).2.journals = w.journals := by
  unfold delist
  simp only [record]
  split <;> rfl

/-! ## The trace -/

@[simp]
theorem trace_updateWatchdog (w : World σ) (i : WatchdogId) (f : Watchdog → Watchdog) :
    (w.updateWatchdog i f).trace = w.trace :=
  rfl

@[simp]
theorem trace_updateDestroyer (w : World σ) (i : DestroyerId) (f : Destroyer → Destroyer) :
    (w.updateDestroyer i f).trace = w.trace :=
  rfl

theorem trace_launch (s : Surroundings σ) (w : World σ) (order : LaunchOrder) :
    (w.launch s order).2.trace = w.trace ++ [.launch w.launches.length] :=
  rfl

/-- Adding a process to a destroyer is one call, and one more if the destroyer
destroys the process at once. -/
theorem trace_enlist (s : Surroundings σ) (w : World σ) (i : DestroyerId) (p : ProcessRef) :
    (w.enlist s i p).2.trace = w.trace ++ .enlist i p :: w.condemnation i p := by
  unfold enlist condemnation
  simp only [record]
  rcases w.destroyers[i]? with _ | ⟨r⟩ | ⟨_ | fault, _, _⟩
  · simp
  · dsimp only
    cases decided : r.admission p <;> simp [destroy, call, record]
  · simp
  · simp

@[simp]
theorem trace_delist (w : World σ) (i : DestroyerId) (p : ProcessRef) :
    (w.delist i p).2.trace = w.trace ++ [.delist i p] := by
  unfold delist
  simp only [record]
  split <;> rfl

@[simp]
theorem trace_stopWatch (w : World σ) (i : WatchdogId) : (w.stopWatch i).trace = w.trace :=
  rfl

@[simp]
theorem trace_startWatch (w : World σ) (i : WatchdogId) (p : ProcessRef) :
    (w.startWatch i p).2.trace = w.trace := by
  unfold startWatch
  split
  · rfl
  · split <;> rfl

end World

end Overseer
