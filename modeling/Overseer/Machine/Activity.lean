import Overseer.ExitStatus
import Overseer.File.Path
import Overseer.Machine.Limit
import Overseer.Stream.Descriptor

/-!
# Activities

An activity is what a process will do: a request to the system, and for every
answer what it does then.  Programs are written as acts, which say how to go on
once they have a value.
-/

namespace Overseer.Machine

open Overseer.File

/-- What a process has arranged for a signal. -/
inductive Arrangement
  /-- Nothing, so that the signal does what it does to any program. -/
  | standard
  /-- The signal is ignored. -/
  | ignored
  /-- The signal is kept until the process asks for it. -/
  | caught
deriving DecidableEq, Repr

/-- What a file is opened for. -/
inductive FileUse
  /-- To read it. -/
  | read
  /-- To write it anew. -/
  | write
  /-- To write at its end. -/
  | append
  /-- To read it and to write it. -/
  | update
deriving DecidableEq, Repr

/-- How long a process waits. -/
inductive Patience
  /-- As long as it takes. -/
  | endless
  /-- Until a signal comes that was caught. -/
  | untilSignal
  /-- Not at all. -/
  | none
deriving DecidableEq, Repr

/-- A file that was opened. -/
structure OpenedFile where
  /-- Where the file is. -/
  place : Place
  /-- What it was opened for. -/
  use : FileUse
  /-- How many bytes of the file come before the next one. -/
  offset : Nat := 0

/-- The permissions that new files do not get unless others are chosen. -/
def standardMask : Nat :=
  0o022

/-- What a process sees of the system. -/
structure Outlook where
  /-- The files. -/
  tree : Tree
  /-- The current directory. -/
  place : Place
  /-- The number of the process. -/
  pid : Nat
  /-- The number of the process that started it. -/
  parent : Nat
  /-- The permissions that new files do not get. -/
  mask : Nat
  /-- The limits. -/
  limits : List Limit
  /-- The signals that it ignores. -/
  ignored : List Nat
  /-- What its open streams are, and if they are files, how those were opened. -/
  stream? : Descriptor → Option (Node × Option OpenedFile)

/-- What stands at a place; a device that stands for an open stream counts as that. -/
def Outlook.node? (o : Outlook) (place : Place) : Option Node :=
  match o.tree.node? place with
  | some (.device (.stream d)) => (o.stream? d).map Prod.fst
  | other => other

/-- What a path leads to. -/
def Outlook.stat? (o : Outlook) (path : Bytes) : Option Node :=
  (o.tree.resolve o.place path).toOption.bind o.node?

/-- How a child ended, with its number. -/
structure Departure where
  /-- The number of the child. -/
  pid : Nat
  /-- How it ended. -/
  ending : Ending
deriving DecidableEq, Repr

/-- What a process does. -/
inductive Activity
  /-- End with a code. -/
  | exit (code : Nat)
  /-- Go on for ever without asking for anything. -/
  | spin
  /-- Look at the system. -/
  | look (next : Outlook → Activity)
  /-- Read at most `count` bytes, of which there are none at the end. -/
  | read (source : Descriptor) (count : Nat) (patience : Patience)
      (next : Except Errno Bytes → Activity)
  /-- Give back the last bytes read, if they come from a file. -/
  | unread (source : Descriptor) (count : Nat) (next : Activity)
  /-- Write bytes. -/
  | write (target : Descriptor) (data : Bytes) (next : Except Errno Unit → Activity)
  /-- Open a file. -/
  | openFile (path : Bytes) (use : FileUse) (next : Except Errno Descriptor → Activity)
  /-- Make a pipe: its reading and its writing end. -/
  | openPipe (next : Descriptor × Descriptor → Activity)
  /-- Close a descriptor. -/
  | close (d : Descriptor) (next : Activity)
  /-- Let a descriptor stand for what another one does. -/
  | duplicate (source target : Descriptor) (next : Except Errno Unit → Activity)
  /-- Let a free descriptor from a bound on stand for what another one does. -/
  | keep (source : Descriptor) (bound : Nat) (next : Except Errno Descriptor → Activity)
  /-- Work in another directory. -/
  | enter (place : Place) (next : Activity)
  /-- Change which permissions new files do not get. -/
  | setMask (mask : Nat) (next : Activity)
  /-- Change a limit. -/
  | setLimit (limit : Limit) (next : Activity)
  /-- Let time pass, in nanoseconds. -/
  | sleep (duration : Nat) (next : Activity)
  /-- Start a child that does something else with the same streams. -/
  | fork (child : Activity) (next : Nat → Activity)
  /-- Wait for a child to end, and forget it. -/
  | await (pid : Nat) (patience : Patience) (next : Except Errno Departure → Activity)
  /-- Send a signal. -/
  | signal (pid : Int) (number : Nat) (next : Except Errno Unit → Activity)
  /-- Arrange something for a signal. -/
  | arrange (number : Nat) (arrangement : Arrangement) (next : Activity)
  /-- Ask for the signals that were caught. -/
  | signals (next : List Nat → Activity)
  /-- Become another program. -/
  | execute (next : Activity)

/-- What programs are written as: how to go on with a value gives an activity. -/
def Act (α : Type) : Type :=
  (α → Activity) → Activity

namespace Act

instance : Monad Act where
  pure a := fun next => next a
  bind act f := fun next => act (fun a => f a next)

/-- The activity of an act whose value is an exit code. -/
def activity (act : Act Nat) : Activity :=
  act Activity.exit

/-- Do nothing more but this. -/
def leave {α : Type} (activity : Activity) : Act α :=
  fun _ => activity

end Act

/-! ## Requests as acts -/

/-- Look at the system. -/
def look : Act Outlook :=
  Activity.look

/-- Read at most some number of bytes. -/
def readFrom (source : Descriptor) (count : Nat) : Act (Except Errno Bytes) :=
  Activity.read source count .endless

/-- Give back the last bytes read, if they come from a file. -/
def giveBack (source : Descriptor) (count : Nat) : Act Unit :=
  fun next => .unread source count (next ())

/-- Write bytes. -/
def writeTo (target : Descriptor) (data : Bytes) : Act (Except Errno Unit) :=
  if data.isEmpty then pure (.ok ()) else Activity.write target data

/-- Open a file. -/
def openFile (path : Bytes) (use : FileUse) : Act (Except Errno Descriptor) :=
  Activity.openFile path use

/-- Close a descriptor. -/
def closeDescriptor (d : Descriptor) : Act Unit :=
  fun next => .close d (next ())

/-- Let time pass. -/
def rest (duration : Nat) : Act Unit :=
  fun next => .sleep duration (next ())

/-- Arrange something for a signal. -/
def arrange (number : Nat) (arrangement : Arrangement) : Act Unit :=
  fun next => .arrange number arrangement (next ())

/-- The descriptor that is read. -/
def standardInput : Descriptor :=
  0

/-- The descriptor of the output. -/
def standardOutput : Descriptor :=
  1

/-- The descriptor for errors. -/
def standardError : Descriptor :=
  2

/-- Write to the stream for errors, if it takes anything. -/
def complain (text : Bytes) : Act Unit := do
  let _ ← writeTo standardError text

/-- How many bytes are read at a time. -/
def blockSize : Nat :=
  131072

/-- All bytes up to the end; the first argument bounds the number of reads. -/
def readAll (source : Descriptor) : Nat → Bytes → Act (Except Errno Bytes)
  | 0, _ => Act.leave .spin
  | fuel + 1, before => do
      match ← readFrom source blockSize with
      | .error errno => pure (.error errno)
      | .ok [] => pure (.ok before)
      | .ok data => readAll source fuel (before ++ data)

end Overseer.Machine
