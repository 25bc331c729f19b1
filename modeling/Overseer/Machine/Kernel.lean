import Overseer.File.System
import Overseer.Machine.Activity
import Overseer.Machine.Pipe
import Overseer.Machine.Signal

/-!
# Kernels

A kernel holds processes with their activities, the files, and the pipes that
processes have between each other and with the supervisor.  One step answers the
request that a process makes, unless the process has to wait for the answer.
-/

namespace Overseer.Machine

open Overseer.File

/-- A process. -/
structure Task where
  /-- Its number. -/
  pid : Nat
  /-- The number of the process that may wait for it, if that has not ended. -/
  parent : Option Nat
  /-- What it will do. -/
  activity : Activity
  /-- How it has ended, if it has. -/
  ending : Option Ending := none
  /-- Its open streams. -/
  table : DescriptorTable
  /-- Its current directory. -/
  place : Place
  /-- The permissions that new files do not get. -/
  mask : Nat := standardMask
  /-- Its limits. -/
  limits : List Limit := standardLimits
  /-- What it has arranged for signals. -/
  arrangements : List (Nat × Arrangement) := []
  /-- The caught signals it has not asked for. -/
  pending : List Nat := []
  /-- When it goes on, if it lets time pass. -/
  wake : Option Nat := none
  /-- Whether it was stopped and not told to go on. -/
  stopped : Bool := false

namespace Task

/-- What the process has arranged for a signal. -/
def arrangement (t : Task) (number : Nat) : Arrangement :=
  ((t.arrangements.find? (fun entry => entry.1 = number)).map Prod.snd).getD .standard

/-- Arrange something for a signal. -/
def arrange (t : Task) (number : Nat) (arrangement : Arrangement) : Task :=
  { t with
    arrangements := (number, arrangement) :: t.arrangements.filter (fun entry => entry.1 ≠ number) }

/-- The arrangements that are left when another program takes over. -/
def lastingArrangements (t : Task) : List (Nat × Arrangement) :=
  t.arrangements.filter (fun entry => entry.2 = .ignored)

/-- Why the process waits no longer, if it does not. -/
def givesUp (t : Task) : Patience → Option Errno
  | .endless => none
  | .untilSignal => if t.pending.isEmpty then none else some .interrupted
  | .none => some .tryAgain

/-- The process after a signal that it keeps if it has arranged that. -/
def learn (t : Task) (number : Nat) : Task :=
  if t.arrangement number = .caught then
    { t with pending := t.pending.filter (· ≠ number) ++ [number] }
  else t

/-- The process after its end. -/
def finish (t : Task) (ending : Ending) : Task :=
  { t with
    activity := .spin, ending := some ending, table := { openings := [] }, wake := none,
    pending := [] }

end Task

/-- The processes of a system, and what they share. -/
structure Kernel where
  /-- The files. -/
  tree : Tree
  /-- The time, in nanoseconds. -/
  clock : Nat
  /-- The pipes. -/
  pipes : Array Pipe := #[]
  /-- The files that were opened. -/
  opened : Array OpenedFile := #[]
  /-- The processes that can be waited for, in the order they were started. -/
  tasks : List Task := []
  /-- The number of the next process. -/
  nextPid : Nat
  /-- The supervisor's open streams. -/
  outer : DescriptorTable := .initial

namespace Kernel

/-- The number of the first process of all, which stands in for parents that have
ended. -/
def firstPid : Nat :=
  1

/-- The number of the supervisor. -/
def supervisorPid : Nat :=
  100

/-- The process of a number. -/
def task? (k : Kernel) (pid : Nat) : Option Task :=
  k.tasks.find? (fun t => t.pid = pid)

/-- Replace the process of the same number. -/
def setTask (k : Kernel) (t : Task) : Kernel :=
  { k with tasks := k.tasks.map (fun u => if u.pid = t.pid then t else u) }

/-- Whether a pipe can still be written to. -/
def hasWriter (k : Kernel) (pipe : Nat) : Bool :=
  k.outer.holds (.writing pipe) || k.tasks.any (·.table.holds (.writing pipe))

/-- Whether a pipe can still be read from. -/
def hasReader (k : Kernel) (pipe : Nat) : Bool :=
  k.outer.holds (.reading pipe) || k.tasks.any (·.table.holds (.reading pipe))

/-- End a process, of which its parent is told.  Nobody waits any more for its
children, and for itself nobody does if its parent has ended. -/
def finish (k : Kernel) (t : Task) (ending : Ending) : Kernel :=
  let tasks := k.tasks.map (fun u =>
    if u.pid = t.pid then u.finish ending
    else if u.parent = some t.pid then { u with parent := none }
    else if t.parent = some u.pid then u.learn childSignal
    else u)
  { k with tasks := tasks.filter (fun u => u.ending.isNone || u.parent.isSome) }

/-- Forget a process that has ended. -/
def forget (k : Kernel) (pid : Nat) : Kernel :=
  { k with tasks := k.tasks.filter (fun t => t.pid ≠ pid) }

/-! ## Signals -/

/-- Let a signal come to a process. -/
def deliver (k : Kernel) (t : Task) (number : Nat) : Kernel :=
  if t.ending.isSome then k
  else
    let t := if number = continueSignal then { t with stopped := false } else t
    let k := k.setTask t
    if isTrappable number && t.arrangement number = .ignored then k
    else if isTrappable number && t.arrangement number = .caught then
      k.setTask (t.learn number)
    else
      match signalEffect number with
      | .none => k
      | .ends => k.finish t (.signalled number)
      | .stops => k.setTask { t with stopped := true }

/-- Send a signal to the process of a number. -/
def signal (k : Kernel) (pid : Int) (number : Nat) : Except Errno Unit × Kernel :=
  match k.tasks.find? (fun t => Int.ofNat t.pid = pid) with
  | none => (.error .noProcess, k)
  | some t => (.ok (), k.deliver t number)

/-! ## Files -/

/-- The place of a new file that a path leads to, following a link there.  With a slash
at its end the path stands for a directory, which cannot be a new file. -/
def newPlace (tree : Tree) (origin : Place) (path : Bytes) : Nat → Except Errno Place
  | 0 => .error .linkLoop
  | links + 1 =>
      let path := Bytes.untilNul path
      let named := path.reverse.dropWhile (· = Byte.slash)
      let name := (named.takeWhile (· ≠ Byte.slash)).reverse
      let directory := (named.drop name.length).reverse
      if name.isEmpty then .error .isDirectory
      else
        match tree.resolve origin (if directory.isEmpty then here else directory) with
        | .error errno => .error errno
        | .ok place =>
            if !(tree.node? place).any Node.isDirectory then .error .notDirectory
            else if named.length < path.length then .error .isDirectory
            else
              match tree.node? (place ++ [name]) with
              | some (.link target) => newPlace tree place target links
              | _ => if isOwnPlace place then .ok (place ++ [name]) else .error .accessDenied

/-- The permission bits of a new file under a mask. -/
def newFileMode (mask : Nat) : Nat :=
  0o666 &&& (0o777 ^^^ mask)

/-- Open what stands at a place: the files then. -/
def openPlace (tree : Tree) (place : Place) (use : FileUse) : Except Errno Tree :=
  let node := (tree.node? place).getD .directory
  let isAllowed := match use with
    | .read => node.isReadable
    | .write | .append => node.isWritable
    | .update => node.isReadable && node.isWritable
  if node.isDirectory && use ≠ .read then .error .isDirectory
  else if !isAllowed then .error .accessDenied
  else
    match use, node with
    | .write, .file mode _ => .ok (tree.put place (.file mode []))
    | _, _ => .ok tree

/-- Open a file: where it is, and the files then.  A new one gets permission bits. -/
def openPath (tree : Tree) (origin : Place) (path : Bytes) (use : FileUse) (mode : Nat) :
    Except Errno (Place × Tree) :=
  match tree.resolve origin path with
  | .error errno =>
      let path := Bytes.untilNul path
      let isMissing := errno = .noEntry || path.getLast? = some Byte.slash
      if isMissing && use ≠ .read && !path.isEmpty then
        match newPlace tree origin path linkLimit with
        | .error errno => .error errno
        | .ok place => .ok (place, tree.put place (.file mode []))
      else .error errno
  | .ok place => (openPlace tree place use).map (fun tree => (place, tree))

/-- The files after one was opened at some time. -/
def noteOpening (before after : Tree) (place : Place) (use : FileUse) (time : Nat) : Tree :=
  if (before.node? place).isNone then (after.touch place time).touch place.dropLast time
  else if use = .write then after.touch place time
  else after

/-- At most `count` bytes of what stands at a place, from an offset on. -/
def contentAt (tree : Tree) (place : Place) (offset count : Nat) : Except Errno Bytes :=
  match tree.node? place with
  | some (.file _ content) => .ok ((content.drop offset).take count)
  | some (.program name) => .ok ((name.drop offset).take count)
  | some .directory => .error .isDirectory
  | some (.device .zero) | some (.device .full) => .ok (List.replicate count 0)
  | _ => .ok []

/-- Bytes with others written over them from an offset on. -/
def overwrite (content : Bytes) (offset : Nat) (data : Bytes) : Bytes :=
  content.take offset ++ List.replicate (offset - content.length) 0 ++ data ++
    content.drop (offset + data.length)

/-- Let an opened file go on from an offset. -/
def moveTo (k : Kernel) (index offset : Nat) : Kernel :=
  { k with opened := k.opened.modify index (fun f => { f with offset }) }

/-- Read from an opened file. -/
def readFile (k : Kernel) (index count : Nat) : Except Errno Bytes × Kernel :=
  match k.opened[index]? with
  | none => (.error .badDescriptor, k)
  | some file =>
      if file.use = .write || file.use = .append then (.error .badDescriptor, k)
      else
        match contentAt k.tree file.place file.offset count with
        | .error errno => (.error errno, k)
        | .ok data => (.ok data, k.moveTo index (file.offset + data.length))

/-- How many bytes of a device are read before that counts as endless. -/
def deviceBound : Nat :=
  8388608

/-- Whether more was read from a device than counts as endless. -/
def isEndless (k : Kernel) (index : Nat) : Bool :=
  (k.opened[index]?).any (fun file =>
    deviceBound ≤ file.offset && (k.tree.node? file.place).any Node.isDevice)

/-- How many bytes can be written to an opened file under a limit of its size. -/
def roomInFile (k : Kernel) (index limit : Nat) : Nat :=
  match k.opened[index]? with
  | none => limit
  | some file =>
      match k.tree.node? file.place with
      | some (.file _ content) =>
          limit - (if file.use = .append then content.length else file.offset)
      | _ => limit

/-- Write to an opened file. -/
def writeFile (k : Kernel) (index : Nat) (data : Bytes) : Except Errno Unit × Kernel :=
  match k.opened[index]? with
  | none => (.error .badDescriptor, k)
  | some file =>
      if file.use = .read then (.error .badDescriptor, k)
      else
        match k.tree.node? file.place with
        | some (.file mode content) =>
            let offset := if file.use = .append then content.length else file.offset
            let content := overwrite content offset data
            (.ok (), { k.moveTo index (offset + data.length) with
              tree := (k.tree.put file.place (.file mode content)).touch file.place k.clock })
        | some (.device .full) => (.error .noSpace, k)
        | _ => (.ok (), k)

/-- What an open stream is, and if it is a file, how that was opened. -/
def stream? (k : Kernel) (t : Task) (d : Descriptor) : Option (Node × Option OpenedFile) :=
  match t.table.find? d with
  | some { resource := .file index, .. } =>
      (k.opened[index]?).map (fun f => ((k.tree.node? f.place).getD .directory, some f))
  | some _ => some (.pipe, none)
  | none => none

/-! ## Steps -/

/-- Let a process go on. -/
def goOn (k : Kernel) (t : Task) (activity : Activity) : Kernel :=
  k.setTask { t with activity, wake := none }

/-- Read for a process, unless it has to wait. -/
def read? (k : Kernel) (t : Task) (source : Descriptor) (count : Nat) (patience : Patience)
    (next : Except Errno Bytes → Activity) : Option Kernel :=
  match t.table.find? source with
  | some { resource := .reading pipe, .. } =>
      let content := k.pipes.getD pipe .empty
      if !content.isEmpty then
        let (data, content) := content.read count
        some ({ k with pipes := k.pipes.setIfInBounds pipe content }.goOn t (next (.ok data)))
      else if !k.hasWriter pipe then some (k.goOn t (next (.ok [])))
      else (t.givesUp patience).map (fun errno => k.goOn t (next (.error errno)))
  | some { resource := .file index, .. } =>
      if k.isEndless index then some (k.goOn t .spin)
      else
        let (reply, k) := k.readFile index count
        some (k.goOn t (next reply))
  | _ => some (k.goOn t (next (.error .badDescriptor)))

/-- Write for a process, unless it has to wait for room in a pipe; what fits of a
long text is written before that.  A write to a pipe that nobody reads brings a
signal, and so does one that lets a file grow beyond a limit. -/
def write? (k : Kernel) (t : Task) (target : Descriptor) (data : Bytes)
    (next : Except Errno Unit → Activity) : Option Kernel :=
  match t.table.find? target with
  | some { resource := .writing pipe, .. } =>
      if k.hasReader pipe then
        let count := (k.pipes.getD pipe .empty).accepts data
        let put (data : Bytes) : Kernel := { k with pipes := k.pipes.modify pipe (·.write data) }
        if count = data.length then some ((put data).goOn t (next (.ok ())))
        else if count = 0 then none
        else some ((put (data.take count)).goOn t (.write target (data.drop count) next))
      else
        let t := { t with activity := next (.error .brokenPipe) }
        some ((k.setTask t).deliver t pipeSignal)
  | some { resource := .file index, .. } =>
      let room := k.roomInFile index (fileSizeLimit t.limits)
      if room = 0 then
        let t := { t with activity := next (.error .fileTooLarge) }
        some ((k.setTask t).deliver t fileSizeSignal)
      else
        match k.writeFile index (data.take room) with
        | (.ok (), k) =>
            if room < data.length then some (k.goOn t (.write target (data.drop room) next))
            else some (k.goOn t (next (.ok ())))
        | (reply, k) => some (k.goOn t (next reply))
  | _ => some (k.goOn t (next (.error .badDescriptor)))

/-- Let a process go on with a new descriptor that stands for something. -/
def grant (k : Kernel) (t : Task) (resource : Resource)
    (next : Except Errno Descriptor → Activity) : Kernel :=
  let (d, table) := t.table.add { resource, closeOnExec := false }
  k.goOn { t with table } (next (.ok d))

/-- Let a process open what stands at a place, given the files then. -/
def openAt (k : Kernel) (t : Task) (place : Place) (use : FileUse) (tree : Tree)
    (next : Except Errno Descriptor → Activity) : Kernel :=
  let tree := noteOpening k.tree tree place use k.clock
  { k with tree, opened := k.opened.push { place, use } }.grant t (.file k.opened.size) next

/-- Let a process open anew what one of its open streams stands for. -/
def reopen (k : Kernel) (t : Task) (d : Descriptor) (use : FileUse)
    (next : Except Errno Descriptor → Activity) : Kernel :=
  match t.table.find? d with
  | some { resource := .reading pipe, .. } | some { resource := .writing pipe, .. } =>
      k.grant t (if use = .read then .reading pipe else .writing pipe) next
  | some { resource := .file index, .. } =>
      match k.opened[index]? with
      | none => k.goOn t (next (.error .noEntry))
      | some file =>
          match openPlace k.tree file.place use with
          | .error errno => k.goOn t (next (.error errno))
          | .ok tree => k.openAt t file.place use tree next
  | _ => k.goOn t (next (.error .noEntry))

/-- Open a file for a process. -/
def openFile (k : Kernel) (t : Task) (path : Bytes) (use : FileUse)
    (next : Except Errno Descriptor → Activity) : Kernel :=
  match openPath k.tree t.place path use (newFileMode t.mask) with
  | .error errno => k.goOn t (next (.error errno))
  | .ok (place, tree) =>
      match k.tree.node? place with
      | some (.device (.stream d)) => k.reopen t d use next
      | _ => k.openAt t place use tree next

/-- Give back bytes that were read. -/
def unread (k : Kernel) (t : Task) (source : Descriptor) (count : Nat) : Kernel :=
  match t.table.find? source with
  | some { resource := .file index, .. } =>
      { k with opened := k.opened.modify index (fun f => { f with offset := f.offset - count }) }
  | _ => k

/-- Wait for a child of a process, unless it runs. -/
def await? (k : Kernel) (t : Task) (pid : Nat) (patience : Patience)
    (next : Except Errno Departure → Activity) : Option Kernel :=
  match k.tasks.find? (fun u => u.pid = pid && u.parent = some t.pid) with
  | none => some (k.goOn t (next (.error .noChild)))
  | some child =>
      match child.ending with
      | some ending => some ((k.goOn t (next (.ok { pid, ending }))).forget pid)
      | none => (t.givesUp patience).map (fun errno => k.goOn t (next (.error errno)))

/-- Answer the request of a process, unless it has to wait. -/
def step? (k : Kernel) (t : Task) : Option Kernel :=
  match t.activity with
  | .exit code => some (k.finish t (.exited (code % 256)))
  | .spin => none
  | .look next =>
      some (k.goOn t (next {
        tree := k.tree, place := t.place, pid := t.pid, parent := t.parent.getD firstPid
        mask := t.mask, limits := t.limits
        ignored := t.lastingArrangements.map Prod.fst, stream? := k.stream? t }))
  | .read source count patience next => k.read? t source count patience next
  | .unread source count next => some ((k.unread t source count).goOn t next)
  | .write target data next => k.write? t target data next
  | .openFile path use next => some (k.openFile t path use next)
  | .openPipe next =>
      let pipe := k.pipes.size
      let (reading, table) := t.table.add { resource := .reading pipe, closeOnExec := false }
      let (writing, table) := table.add { resource := .writing pipe, closeOnExec := false }
      some ({ k with pipes := k.pipes.push .empty }.goOn { t with table } (next (reading, writing)))
  | .close d next => some (k.goOn { t with table := t.table.unset d } next)
  | .duplicate source target next =>
      match t.table.duplicate source target with
      | .ok table => some (k.goOn { t with table } (next (.ok ())))
      | .error errno => some (k.goOn t (next (.error errno)))
  | .keep source bound next =>
      match t.table.duplicateFrom source bound with
      | .ok (d, table) => some (k.goOn { t with table } (next (.ok d)))
      | .error errno => some (k.goOn t (next (.error errno)))
  | .enter place next => some (k.goOn { t with place } next)
  | .setMask mask next => some (k.goOn { t with mask } next)
  | .setLimit limit next => some (k.goOn { t with limits := setLimit t.limits limit } next)
  | .sleep duration next =>
      match t.wake with
      | none => some (k.setTask { t with wake := some (k.clock + duration) })
      | some time => if time ≤ k.clock then some (k.goOn t next) else none
  | .fork child next =>
      let started : Task := {
        pid := k.nextPid, parent := some t.pid, activity := child, table := t.table,
        place := t.place, mask := t.mask, limits := t.limits
        arrangements := t.lastingArrangements }
      let k := k.goOn t (next k.nextPid)
      some { k with tasks := k.tasks ++ [started], nextPid := k.nextPid + 1 }
  | .await pid patience next => k.await? t pid patience next
  | .signal pid number next =>
      let (reply, _) := k.signal pid number
      let t := { t with activity := next reply, wake := none }
      some ((k.setTask t).signal pid number).2
  | .arrange number arrangement next => some (k.goOn (t.arrange number arrangement) next)
  | .signals next => some (k.goOn { t with pending := [] } (next t.pending))
  | .execute next =>
      some (k.goOn { t with
        table := t.table.execute, arrangements := t.lastingArrangements, pending := [] } next)

end Kernel

end Overseer.Machine
