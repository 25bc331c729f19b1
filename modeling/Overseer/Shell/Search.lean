import Overseer.Shell.State

/-!
# The search for programs

Which file a command stands for.  A command without a slash is looked for in the
directories of the search path, in order, and a shell keeps in mind what it has found.
-/

namespace Overseer.Shell

open Overseer.Machine Overseer.File

/-- The paths that a command without a slash may stand for under a search path. -/
def candidatesIn (path name : Bytes) : List Bytes :=
  (Bytes.splitOn Byte.colon path).map (fun directory =>
    if directory.isEmpty then name else directory ++ Byte.slash :: name)

/-- The paths that a command without a slash may stand for. -/
def State.candidates (s : State) (name : Bytes) : List Bytes :=
  candidatesIn ((s.values.find? searchName).getD []) name

/-- Whether a path leads to a regular file. -/
def isFileAt (o : Outlook) (path : Bytes) : Bool :=
  ((o.tree.stat o.place path).toOption).any Node.isRegular

/-- The paths at which a command may be executed, from the first that leads to a
program on, if there are any. -/
def pathsIn? (o : Outlook) (name : Bytes) (candidates : List Bytes) : Option (List Bytes) :=
  if Byte.slash ∈ name then some [name]
  else
    match candidates.dropWhile (fun path => !o.tree.isProgram o.place path) with
    | [] => none
    | paths => some paths

/-- The paths at which a command may be executed, from the first that leads to a
program on, if there are any. -/
def State.paths? (s : State) (o : Outlook) (name : Bytes) : Option (List Bytes) :=
  pathsIn? o name (s.candidates name)

/-- Whether an error means that there is no file. -/
def isAbsence (errno : Errno) : Bool :=
  errno = .noEntry || errno = .notDirectory

/-- Why there is no program to execute for a command: the last of its paths at
which something else stands in the way decides. -/
def State.absence (s : State) (o : Outlook) (name : Bytes) : Errno :=
  (s.candidates name).foldl (fun errno path =>
    match o.tree.stat o.place path with
    | .ok _ => .accessDenied
    | .error later => if isAbsence later then errno else later) .noEntry

/-- What is said of a command that cannot be executed. -/
def executionProblem (name : Bytes) (errno : Errno) : Bytes :=
  name ++ utf8 ": " ++ if isAbsence errno then utf8 "not found" else errno.description

/-! ## Programs that were found -/

/-- The number of buckets that the names of programs are put into. -/
def trackedBuckets : Nat :=
  31

/-- Take note that a program was found. -/
def track (name path : Bytes) : Work Unit :=
  modify (fun s =>
    let found : Tracked := { name, path }
    { s with
      tracked :=
        if Byte.slash ∈ name then s.tracked
        else if s.tracked.any (fun t => t.name = name) then
          s.tracked.map (fun t => if t.name = name then found else t)
        else s.tracked ++ [found] })

/-- Take note that the directory was changed, so that programs may be elsewhere. -/
def State.doubt (s : State) : State :=
  { s with tracked := s.tracked.map (fun t => { t with isDoubtful := true }) }

/-- A program that was found, as it is listed. -/
def Tracked.line (t : Tracked) : Bytes :=
  t.path ++ utf8 (if t.isDoubtful then "*" else "") ++ [Byte.newline]

/-- The list of the programs that were found. -/
def State.trackedLines (s : State) : Bytes :=
  (inBuckets trackedBuckets Tracked.name s.tracked).flatMap Tracked.line

end Overseer.Shell
