import Overseer.Fault
import Overseer.Process
import Overseer.Watchdog.Basic

/-!
# Shutdown registries

A registry lists the processes that must not outlive the program.  Running it
destroys them all; from then on it takes no process in but has it destroyed at
once.
-/

namespace Overseer

/-- The processes to destroy when the program shuts down. -/
structure Registry where
  /-- Where faults of destroying are noted. -/
  journal : Option JournalId
  /-- Whether the registry has been run. -/
  running : Bool := false
  /-- The listed processes, in the order they were added. -/
  members : List ProcessRef := []
deriving DecidableEq

namespace Registry

/-- What adding a process comes to. -/
inductive Admission
  /-- The process is listed now. -/
  | listed
  /-- The process was listed before. -/
  | known
  /-- The program is shutting down: the process has to be destroyed now. -/
  | condemned
deriving DecidableEq

/-- What adding a process to the registry comes to. -/
def admission (r : Registry) (p : ProcessRef) : Admission :=
  if r.running then .condemned else if p ∈ r.members then .known else .listed

/-- The registry after a process was added. -/
def add (r : Registry) (p : ProcessRef) : Registry :=
  match r.admission p with
  | .listed => { r with members := r.members ++ [p] }
  | _ => r

/-- Whether removing a process takes anything out. -/
def contains (r : Registry) (p : ProcessRef) : Bool :=
  decide (p ∈ r.members)

/-- The registry without a process. -/
def remove (r : Registry) (p : ProcessRef) : Registry :=
  { r with members := r.members.erase p }

/-- The registry once it is being run. -/
def run (r : Registry) : Registry :=
  { r with running := true }

/-- The number of listed processes. -/
def size (r : Registry) : Nat :=
  r.members.length

/-- A running registry lists nothing new. -/
theorem add_of_running {r : Registry} (hrunning : r.running = true) (p : ProcessRef) :
    r.add p = r := by
  simp [add, admission, hrunning]

/-- Adding keeps the listed processes distinct. -/
theorem nodup_add {r : Registry} (hnodup : r.members.Nodup) (p : ProcessRef) :
    (r.add p).members.Nodup := by
  unfold add admission
  split
  · next hlisted =>
      split at hlisted
      · contradiction
      · split at hlisted
        · contradiction
        · next hnew =>
            refine List.nodup_append.mpr ⟨hnodup, by simp, ?_⟩
            intro q hq s hs heq
            simp only [List.mem_singleton] at hs
            exact hnew (hs ▸ heq ▸ hq)
  · exact hnodup

end Registry

end Overseer
