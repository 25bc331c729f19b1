import Overseer.Execution.Run
import Overseer.Script.Cast

/-!
# Rehearsals

A rehearsal is the execution of one command by a cast, with everything an execution
can be given: a watchdog that never runs out of patience, a shutdown registry and a
journal that writes all notices.
-/

namespace Overseer.Script

namespace Cast

/-- The surroundings of rehearsals: zero is success and every path leads to
something. -/
def rehearsal : Surroundings Cast :=
  surroundings (· != 0) (fun _ => .ok true)

/-- The world of a rehearsal. -/
def world (c : Cast) : World Cast where
  outside := c
  watchdogs := [{ timeout := .infinite, journal := some 0 }]
  destroyers := [.registry { journal := some 0 }]
  journals := [{ minimum := .debug }]

end Cast

/-- The command of rehearsals. -/
def rehearsed : CommandLine where
  program := [0x70]
  arguments := []
  bindings := .empty
  program_ne_nil := by simp

/-- The plan of rehearsals, which uses everything there is. -/
def rehearsalPlan : Plan where
  command := rehearsed
  environment := none
  directory := []
  handler := 0
  watchdog := some 0
  destroyer := some 0
  journal := 0
  success := some []

end Overseer.Script
