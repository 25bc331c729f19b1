import Overseer.Errno

/-!
# Descriptors

A program refers to its open streams by small numbers.  The table says what each
number stands for and whether it is closed when another program is executed.
New numbers are always the least that are free.
-/

namespace Overseer

/-- A number that stands for an open stream; numbers that stand for none are
allowed too. -/
abbrev Descriptor := Int

/-- What a descriptor stands for. -/
inductive Resource
  /-- The end of a pipe that is read from. -/
  | reading (pipe : Nat)
  /-- The end of a pipe that is written to. -/
  | writing (pipe : Nat)
  /-- A file, by the index of the occasion it was opened on. -/
  | file (index : Nat)
  /-- A stream the program was started with. -/
  | ambient
deriving DecidableEq, Repr

/-- An open stream under a descriptor. -/
structure Opening where
  /-- What is open. -/
  resource : Resource
  /-- Whether executing a program closes it. -/
  closeOnExec : Bool
deriving DecidableEq, Repr

/-- What each descriptor of a program stands for. -/
structure DescriptorTable where
  /-- The open descriptors. -/
  openings : List (Descriptor × Opening)
  /-- How many pipes were made. -/
  pipes : Nat := 0
deriving DecidableEq

namespace DescriptorTable

/-- The table of a program that was started with the three standard streams. -/
def initial : DescriptorTable :=
  { openings := [0, 1, 2].map (fun d => (d, { resource := .ambient, closeOnExec := false })) }

/-- What a descriptor stands for. -/
def find? (t : DescriptorTable) (d : Descriptor) : Option Opening :=
  (t.openings.find? (fun entry => entry.1 = d)).map Prod.snd

/-- Whether a descriptor stands for something. -/
def isOpen (t : DescriptorTable) (d : Descriptor) : Bool :=
  (t.find? d).isSome

/-- Let a descriptor stand for something, whatever it stood for before. -/
def set (t : DescriptorTable) (d : Descriptor) (opening : Opening) : DescriptorTable :=
  { t with openings := t.openings.filter (fun entry => entry.1 ≠ d) ++ [(d, opening)] }

/-- Let a descriptor stand for nothing. -/
def unset (t : DescriptorTable) (d : Descriptor) : DescriptorTable :=
  { t with openings := t.openings.filter (fun entry => entry.1 ≠ d) }

/-- The least descriptor from a bound on that stands for nothing. -/
def leastFreeFrom (t : DescriptorTable) (bound : Nat) : Descriptor :=
  let candidates := (List.range (t.openings.length + 1)).map (fun n => Int.ofNat (bound + n))
  (candidates.find? (fun d => !t.isOpen d)).getD (Int.ofNat (bound + t.openings.length))

/-- The least descriptor that stands for nothing. -/
def leastFree (t : DescriptorTable) : Descriptor :=
  t.leastFreeFrom 0

/-- Let the least free descriptor stand for something. -/
def add (t : DescriptorTable) (opening : Opening) : Descriptor × DescriptorTable :=
  (t.leastFree, t.set t.leastFree opening)

/-- Make a pipe whose ends are closed by executing a program: the reading end
and the writing end. -/
def openPipe (t : DescriptorTable) : Descriptor × Descriptor × DescriptorTable :=
  let (reading, t') := t.add { resource := .reading t.pipes, closeOnExec := true }
  let (writing, t') := t'.add { resource := .writing t.pipes, closeOnExec := true }
  (reading, writing, { t' with pipes := t.pipes + 1 })

/-- Close a descriptor. -/
def close (t : DescriptorTable) (d : Descriptor) : Except Errno Unit × DescriptorTable :=
  if t.isOpen d then (.ok (), t.unset d) else (.error .badDescriptor, t)

/-- Let descriptor `target` stand for what `source` stands for, and stay open
when a program is executed.  Doing so with a single descriptor changes nothing. -/
def duplicate (t : DescriptorTable) (source target : Descriptor) :
    Except Errno DescriptorTable :=
  match t.find? source with
  | none => .error .badDescriptor
  | some opening =>
      if source = target then .ok t
      else .ok (t.set target { resource := opening.resource, closeOnExec := false })

/-- Let a free descriptor from a bound on stand for what `source` stands for,
until a program is executed. -/
def duplicateFrom (t : DescriptorTable) (source : Descriptor) (bound : Nat) :
    Except Errno (Descriptor × DescriptorTable) :=
  match t.find? source with
  | none => .error .badDescriptor
  | some opening =>
      let copy := t.leastFreeFrom bound
      .ok (copy, t.set copy { resource := opening.resource, closeOnExec := true })

/-- Whether any descriptor stands for something. -/
def holds (t : DescriptorTable) (resource : Resource) : Bool :=
  t.openings.any (fun entry => entry.2.resource = resource)

/-- What is left open when a program is executed. -/
def execute (t : DescriptorTable) : DescriptorTable :=
  { t with openings := t.openings.filter (fun entry => !entry.2.closeOnExec) }

/-- Let the three standard descriptors of a new process stand for the given
ends of pipes. -/
def wireStandard (t : DescriptorTable) (input output error : Descriptor) :
    Except Errno DescriptorTable := do
  let t ← t.duplicate input 0
  let t ← t.duplicate output 1
  t.duplicate error 2

@[simp]
theorem find?_set_self (t : DescriptorTable) (d : Descriptor) (opening : Opening) :
    (t.set d opening).find? d = some opening := by
  have hothers : (t.openings.filter (fun entry => entry.1 ≠ d)).find?
      (fun entry => entry.1 = d) = none := by
    simp [List.find?_eq_none]
  simp only [find?, set, List.find?_append, hothers]
  simp

end DescriptorTable

end Overseer
