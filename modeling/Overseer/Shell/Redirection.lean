import Overseer.Shell.Parameter
import Overseer.Shell.State

/-!
# Redirections

A redirection lets a descriptor stand for something else.  What it stood for
before is kept under another descriptor, so that it can be restored.
-/

namespace Overseer.Shell

open Overseer.Machine Overseer.File

/-- A redirection whose target has been expanded, or will be if it is a text. -/
structure Redirected where
  /-- The descriptor. -/
  descriptor : Nat
  /-- What is done with it. -/
  kind : RedirectionKind
  /-- The file, the other descriptor, or the text. -/
  target : Work Bytes

/-- A descriptor with another one that stands for what it stood for before, if it
stood for anything. -/
structure Kept where
  /-- The descriptor. -/
  descriptor : Descriptor
  /-- The other one. -/
  copy : Option Descriptor

/-- The least descriptor under which another one is kept. -/
def leastKept : Nat :=
  10

/-- Let one descriptor stand for what another one does, which is closed. -/
def moveDescriptor (source target : Descriptor) : Act Unit := do
  if source ≠ target then
    let _ ← Activity.duplicate source target
    closeDescriptor source

/-- Keep what a descriptor stands for, and close it. -/
def keepDescriptor (d : Descriptor) : Act Kept := do
  match ← Activity.keep d leastKept with
  | .ok copy =>
      closeDescriptor d
      pure { descriptor := d, copy := some copy }
  | .error _ => pure { descriptor := d, copy := none }

/-- Let a descriptor stand for what it stood for before. -/
def Kept.restore (k : Kept) : Act Unit :=
  match k.copy with
  | some copy => moveDescriptor copy k.descriptor
  | none => closeDescriptor k.descriptor

/-- The descriptor that stands for what a given one stood for before. -/
def keptFor (kept : List Kept) (d : Descriptor) : Descriptor :=
  ((kept.reverse.find? (fun k => k.descriptor = d)).bind Kept.copy).getD d

/-- Why a file cannot be opened. -/
def openingProblem (path : Bytes) (errno : Errno) : Bytes :=
  utf8 "cannot open " ++ path ++ utf8 ": " ++
    if errno = .noEntry || errno = .notDirectory then utf8 "No such file" else errno.description

/-- Why a file cannot be made. -/
def creatingProblem (path : Bytes) (errno : Errno) : Bytes :=
  utf8 "cannot create " ++ path ++ utf8 ": " ++
    if errno = .noEntry || errno = .notDirectory then utf8 "Directory nonexistent"
    else errno.description

/-- The option to keep files as they are. -/
def keepsFiles : UInt8 := 0x43

/-- A descriptor from which a text can be read. -/
def openDocument (text : Bytes) : Act Descriptor := do
  let (reading, writing) ← Activity.openPipe
  let _ ← writeTo writing text
  closeDescriptor writing
  pure reading

/-- Open the target of a redirection, or say why that cannot be. -/
def openTarget (s : State) (kind : RedirectionKind) (target : Bytes) :
    Act (Except Bytes Descriptor) := do
  match kind with
  | .read => pure ((← openFile target .read).mapError (openingProblem target))
  | .append => pure ((← openFile target .append).mapError (creatingProblem target))
  | .update => pure ((← openFile target .update).mapError (creatingProblem target))
  | .overwrite => pure ((← openFile target .write).mapError (creatingProblem target))
  | .text _ => pure (.ok (← openDocument target))
  | .write | .copy =>
      let o ← look
      let isKept := s.has keepsFiles && match o.tree.stat o.place target with
        | .ok node => node.isRegular
        | .error _ => (o.tree.resolveLink o.place target).toOption.isSome
      let isThere := s.has keepsFiles && (o.tree.stat o.place target).toOption.isSome
      if isKept then pure (.error (utf8 "cannot create " ++ target ++ utf8 ": File exists"))
      else
        let problem := if isThere then openingProblem target else creatingProblem target
        pure ((← openFile target .write).mapError problem)

/-- Keep a descriptor, if that is asked for. -/
def keepIf (keeps : Bool) (d : Descriptor) (kept : List Kept) : Act (List Kept) := do
  if keeps then pure ((← keepDescriptor d) :: kept) else pure kept

/-- Let a descriptor stand for what another one does: what is kept then, and what is
wrong if that one stands for nothing. -/
def copyDescriptor (keeps : Bool) (source : Option Nat) (target : Descriptor) (kept : List Kept) :
    Act (List Kept × Option Bytes) := do
  match source with
  | none =>
      let kept ← keepIf keeps target kept
      closeDescriptor target
      pure (kept, none)
  | some n =>
      if Int.ofNat n = target then pure (kept, none)
      else
        let kept ← keepIf keeps target kept
        match ← Activity.duplicate (Int.ofNat n) target with
        | .ok () => pure (kept, none)
        | .error errno =>
            pure (kept, some (decimal (Int.ofNat n) ++ utf8 ": " ++ errno.description))

/-- Let a descriptor stand for a target: what is kept then, and what is wrong, if
anything. -/
def redirect (s : State) (keeps : Bool) (kept : List Kept) (descriptor : Nat)
    (kind : RedirectionKind) (target : Bytes) : Act (List Kept × Option Bytes) := do
  let d : Descriptor := Int.ofNat descriptor
  match kind with
  | .copy => copyDescriptor keeps (readNumber? target) d kept
  | _ =>
      match ← openTarget s kind target with
      | .error problem => pure (kept, some problem)
      | .ok opened =>
          if opened = d then pure ({ descriptor := d, copy := none } :: kept, none)
          else
            let kept ← keepIf keeps d kept
            moveDescriptor opened d
            pure (kept, none)

/-- Do something that may fail: its value, unless it has failed. -/
def unlessFailed {α : Type} (work : Work α) : Work (Option α) := do
  try some <$> work
  catch jump =>
    match jump with
    | .failure => pure none
    | other => throw other

/-- Carry out redirections in order, up to the first that is wrong, which is
complained of: what is kept then, and whether all were carried out. -/
def redirectAll (keeps : Bool) (kept : List Kept) : List Redirected → Work (List Kept × Bool)
  | [] => pure (kept, true)
  | r :: rest => do
      match ← unlessFailed r.target with
      | none => pure (kept, false)
      | some target =>
          match ← onSystem (redirect (← get) keeps kept r.descriptor r.kind target) with
          | (kept, none) => redirectAll keeps kept rest
          | (kept, some problem) =>
              grumble problem
              pure (kept, false)

/-- Restore descriptors, the latest first. -/
def restoreAll : List Kept → Act Unit
  | [] => pure ()
  | k :: kept => do
      k.restore
      restoreAll kept

/-- Do something with redirections, or something else if they cannot be carried
out.  What is done is given the descriptor of the errors from before. -/
def withRedirections (rs : List Redirected) (otherwise : Work Unit)
    (work : Descriptor → Work Unit) : Work Unit := do
  if rs.isEmpty then work standardError
  else
    let (kept, carriedOut) ← redirectAll true [] rs
    if carriedOut then
      try
        work (keptFor kept standardError)
        onSystem (restoreAll kept)
      catch jump =>
        onSystem (restoreAll kept)
        throw jump
    else
      onSystem (restoreAll kept)
      otherwise

/-- Whether the target of a redirection that copies a descriptor is one. -/
def isDescriptorText (text : Bytes) : Bool :=
  text = hyphen || (text.length = 1 && text.all Byte.isDigit)

end Overseer.Shell
