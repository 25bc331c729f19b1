import Overseer.ExitStatus
import Overseer.Machine.Signal
import Overseer.Text.Numeral

/-!
# Jobs

Processes that a shell has started together and does not wait for at once.  A job
keeps its number until it was listed after its end, or until the number is needed
after somebody has waited for the job.
-/

namespace Overseer.Shell

open Overseer.Machine

/-- Commands that were started together. -/
structure Job where
  /-- Its number. -/
  number : Nat
  /-- The numbers of the processes; the last one decides about success. -/
  pids : List Nat
  /-- How they ended, once all of them were collected. -/
  endings : Option (List Ending) := none
  /-- Whether somebody has waited for its end. -/
  awaited : Bool := false

/-- The code of a program that ended in some way. -/
def codeOf : Ending → Nat
  | .exited code => code
  | .signalled signal => signalCode + signal
  | .unfinished => 0

/-- The code of processes that ended in some ways, which is that of the last. -/
def codeOfAll (endings : List Ending) : Nat :=
  (endings.getLast?.map codeOf).getD 0

namespace Job

/-- The code of a job, once it has ended. -/
def code? (j : Job) : Option Nat :=
  j.endings.map codeOfAll

/-- Whether the number of a job may be given to another one. -/
def isReplaceable (j : Job) : Bool :=
  j.endings.isSome && j.awaited

/-- The numbers that may be given to a new job, in increasing order; the first
argument bounds how many are looked at. -/
def freeNumber (jobs : List Job) : Nat → Nat → Nat
  | 0, number => number
  | fuel + 1, number =>
      if jobs.any (fun j => j.number = number && !j.isReplaceable) then
        freeNumber jobs fuel (number + 1)
      else number

/-- The least number that may be given to a new job, and the jobs without the one
that has it. -/
def claim (jobs : List Job) : Nat × List Job :=
  let number := freeNumber jobs jobs.length 1
  (number, jobs.filter (fun j => j.number ≠ number))

/-- Why there is no job of a specification. -/
inductive Problem
  /-- There is none at all. -/
  | noCurrent
  /-- There is only one. -/
  | noPrevious
  /-- None is called so. -/
  | noSuch (text : Bytes)
  /-- Several are called so. -/
  | ambiguous (text : Bytes)

/-- The wording of a problem. -/
def Problem.message : Problem → Bytes
  | noCurrent => utf8 "No current job"
  | noPrevious => utf8 "No previous job"
  | noSuch text => utf8 "No such job: " ++ text
  | ambiguous text => text ++ utf8 ": ambiguous"

/-- The job of a specification among jobs, the latest of which come first.  No job has
a name, so that only an empty one fits. -/
def find (jobs : List Job) (text : Bytes) : Except Problem Job :=
  match text with
  | [0x25] | [0x25, 0x25] | [0x25, 0x2b] =>
      match jobs with
      | [] => .error .noCurrent
      | j :: _ => .ok j
  | [0x25, 0x2d] =>
      match jobs with
      | _ :: j :: _ => .ok j
      | _ => .error .noPrevious
  | 0x25 :: name =>
      match (readNumber? name).bind (fun n => jobs.find? (fun j => j.number = n)) with
      | some j => .ok j
      | none =>
          match if name = utf8 "?" then jobs else [] with
          | [] => .error (.noSuch text)
          | [j] => .ok j
          | _ => .error (.ambiguous text)
  | _ => .error (.noSuch text)

/-! ## Lists of jobs -/

/-- What is shown of jobs. -/
inductive Detail
  /-- What they do. -/
  | brief
  /-- What they do, and the numbers of their processes. -/
  | long
  /-- The numbers of their first processes alone. -/
  | pids
deriving DecidableEq

/-- What a job does, in words. -/
def state (j : Job) : String :=
  match j.endings.bind List.getLast? with
  | none => "Running"
  | some (.signalled signal) => signalDescription signal
  | some ending => if codeOf ending = 0 then "Done" else s!"Done({codeOf ending})"

/-- The column from which on the command of a job would stand. -/
def commandColumn : Nat :=
  33

/-- A text with spaces up to the column of the commands, at least one. -/
def padded (text : String) : String :=
  text ++ String.ofList (List.replicate (max 1 (commandColumn - text.length)) ' ')

/-- A job as it is listed; a mark stands for the latest one and the one before. -/
def lines (detail : Detail) (mark : Char) (j : Job) : String :=
  let start := s!"[{j.number}] {mark} "
  match detail, j.pids with
  | .pids, pids => s!"{pids.headD 0}\n"
  | .brief, pids =>
      padded (start ++ j.state) ++ String.join (pids.tail.map (fun _ => " | ")) ++ "\n"
  | .long, [] => padded (start ++ j.state) ++ "\n"
  | .long, pid :: pids =>
      let indent := String.ofList (List.replicate start.length ' ')
      padded (start ++ s!"{pid} " ++ j.state) ++
        String.join (pids.map (fun pid => " |\n" ++ padded (indent ++ s!"{pid}"))) ++ "\n"

/-- List some of the jobs: the text, and the jobs that are left then, which are those
that have not ended. -/
def list (detail : Detail) : List Job → List Nat → String × List Job
  | jobs, [] => ("", jobs)
  | jobs, number :: numbers =>
      match jobs.find? (fun j => j.number = number) with
      | none => list detail jobs numbers
      | some j =>
          let mark := if (jobs.head?.map Job.number) = some number then '+'
            else if (jobs[1]?.map Job.number) = some number then '-' else ' '
          let left := if j.endings.isSome && detail ≠ .pids then
            jobs.filter (fun other => other.number ≠ number) else jobs
          let (text, left) := list detail left numbers
          (j.lines detail mark ++ text, left)

end Job

end Overseer.Shell
