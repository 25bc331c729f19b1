import Overseer.File.Search
import Overseer.Machine.Host.Pumping
import Overseer.Shell.Evaluation

/-!
# Launching

A host launches a program by making the pipes of its streams, finding what its
path leads to, and starting a child that executes it.
-/

namespace Overseer.Machine.Host

open Overseer.File

/-- The directory a child starts in. -/
def startPlace (h : Host) (directory : Bytes) : Except Errno Place :=
  if directory.isEmpty then .ok h.place
  else
    match h.kernel.tree.resolve h.place directory with
    | .error errno => .error errno
    | .ok place =>
        if (h.kernel.tree.node? place).any Node.isDirectory then .ok place
        else .error .notDirectory

/-- The pipes of a launch: the supervisor's ends of the child's input, output
and errors, what the child's own descriptors stand for, and the supervisor's
descriptors. -/
structure Pipes where
  /-- The supervisor's ends. -/
  streams : Ownership
  /-- The child's descriptors. -/
  child : DescriptorTable
  /-- The supervisor's descriptors. -/
  table : DescriptorTable

/-- Make the pipes of a launch.  A fourth pipe lets the child report why it
could not execute its program; it ends when the program is executed. -/
def makePipes (table : DescriptorTable) : Except Errno Pipes := do
  let (childInput, input, table) := table.openPipe
  let (output, childOutput, table) := table.openPipe
  let (error, childError, table) := table.openPipe
  let (report, childReport, table) := table.openPipe
  let wired ← table.wireStandard childInput childOutput childError
  let table := [childInput, childOutput, childError, childReport, report].foldl
    (fun t d => (t.close d).2) table
  return {
    streams := { streams := [input, output, error].map OwnedStream.ofDescriptor }
    child := wired
    table }

/-- A child that is about to execute an image with raw environment entries. -/
def addChild (h : Host) (index : Nat) (pipes : Pipes) (place : Place) (image : Image)
    (entries : List Bytes) : Host :=
  let k := h.kernel
  let task : Task := {
    pid := k.nextPid, parent := some Kernel.supervisorPid
    activity := Shell.activityOf image entries, table := pipes.child, place }
  let made := pipes.table.pipes - k.pipes.size
  let k := { k with
    pipes := k.pipes ++ Array.replicate made (default : Pipe)
    outer := pipes.table
    tasks := k.tasks ++ [task]
    nextPid := k.nextPid + 1 }
  let child : Child := { pid := task.pid, streams := pipes.streams }
  { h with kernel := k, children := h.children ++ [(index, child)] }

/-- Start a child that executes an image with raw environment entries. -/
def startChild (h : Host) (index : Nat) (pipes : Pipes) (place : Place) (image : Image)
    (entries : List Bytes) : Host :=
  (h.addChild index pipes place image entries).settle

/-- Whether the directory that an order asks for is there.  If that cannot be told it is not. -/
def hasDirectory (h : Host) (order : LaunchOrder) : Bool :=
  order.directory.isEmpty ||
    decide ((h.kernel.tree.pathExists h.place order.directory).toOption = some true)

/-- The path of the program that an order asks for, if there is one. -/
def programFor (h : Host) (order : LaunchOrder) : Option Bytes :=
  let t := h.kernel.tree
  findProgram (t.isProgramFor (h.mayExecute t h.place) h.place)
    (searchPath order.environment h.inherited) (order.words.headD [])

/-- The raw environment entries of the child of an order. -/
def entriesFor (h : Host) (order : LaunchOrder) : List Bytes :=
  match order.environment with
  | some env => env.encode.map Bytes.untilNul
  | none => h.inherited

/-- What a child needs that executes the program found for an order: its pipes, the directory it
starts in, and what runs. -/
def equip (h : Host) (order : LaunchOrder) (found : Bytes) :
    Except Errno (Pipes × Place × Image) := do
  let pipes ← makePipes { h.kernel.outer with pipes := h.kernel.pipes.size }
  let place ← h.startPlace order.directory
  let t := h.kernel.tree
  let image ← Image.load t (h.mayExecute t place) place (Bytes.untilNul found)
    (order.words.map Bytes.untilNul) (h.entriesFor order)
  return (pipes, place, image)

/-- Launch a program. -/
def launch (h : Host) (index : Nat) (order : LaunchOrder) : Except Fault Unit × Host :=
  if !h.hasDirectory order then (.error (.missingDirectory order.directory), h)
  else
    let program := order.words.headD []
    match h.programFor order with
    | none => (.error (.commandNotFound program), h)
    | some found =>
        match h.equip order found with
        | .error errno => (.error (.notStarted errno program), h)
        | .ok (pipes, place, image) =>
            (.ok (), h.startChild index pipes place image (h.entriesFor order))

end Overseer.Machine.Host
