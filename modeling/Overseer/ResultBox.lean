import Overseer.Fault

/-!
# Result boxes

A result box keeps the latest outcome delivered to it.  Until the first one
arrives there is nothing to read.
-/

namespace Overseer

/-- A place where the outcome of a background execution is put. -/
inductive ResultBox
  /-- Nothing has arrived. -/
  | waiting
  /-- The execution ended with an exit value that is no failure. -/
  | completed (exitValue : Int)
  /-- The execution failed. -/
  | failed (fault : Fault)
deriving DecidableEq, Inhabited

namespace ResultBox

/-- Whether an outcome has arrived. -/
def hasResult : ResultBox → Bool
  | waiting => false
  | _ => true

/-- The exit value of the outcome. -/
def exitValue : ResultBox → Except Fault Int
  | waiting => .error .noResult
  | completed value => .ok value
  | failed fault => .ok fault.exitValue

/-- The failure of the outcome, if it is one. -/
def failure : ResultBox → Except Fault (Option Fault)
  | waiting => .error .noResult
  | completed _ => .ok none
  | failed fault => .ok (some fault)

end ResultBox

end Overseer
