import Overseer.Errno
import Overseer.Text.Numeral

/-!
# Limits

What processes may use of some things.  A process may change its own limit up to a
bound, and lower that bound.
-/

namespace Overseer.Machine

/-- A limit of a process.  Where there is none, the greatest number stands. -/
structure Limit where
  /-- The letter of what is limited. -/
  letter : UInt8
  /-- What is limited. -/
  title : String
  /-- How much makes one unit. -/
  unit : Nat
  /-- The limit. -/
  current : Nat
  /-- The bound up to which the limit may be raised. -/
  bound : Nat
deriving DecidableEq, Repr

namespace Limit

/-- That there is no limit. -/
def none : Nat :=
  greatestUnsigned

/-- The limit of something, by default none. -/
def of (letter : Char) (title : String) (unit : Nat) (current bound : Nat) : Limit :=
  { letter := letter.toNat.toUInt8, title, unit, current, bound }

end Limit

/-- The limits of a process unless others are chosen. -/
def standardLimits : List Limit :=
  [.of 't' "time(seconds)" 1 Limit.none Limit.none,
    .of 'f' "file(blocks)" 512 Limit.none Limit.none,
    .of 'd' "data(kbytes)" 1024 Limit.none Limit.none,
    .of 's' "stack(kbytes)" 1024 8388608 Limit.none,
    .of 'c' "coredump(blocks)" 512 0 Limit.none,
    .of 'm' "memory(kbytes)" 1024 Limit.none Limit.none,
    .of 'l' "locked memory(kbytes)" 1024 8388608 8388608,
    .of 'p' "process" 1 Limit.none Limit.none,
    .of 'n' "nofiles" 1 1048576 1048576,
    .of 'v' "vmemory(kbytes)" 1024 Limit.none Limit.none,
    .of 'w' "locks" 1 Limit.none Limit.none,
    .of 'r' "rtprio" 1 0 0]

/-- The limit of a letter. -/
def limit? (limits : List Limit) (letter : UInt8) : Option Limit :=
  limits.find? (fun l => l.letter = letter)

/-- The letter of the limit of the sizes of files, in bytes. -/
def fileSizeLetter : UInt8 :=
  0x66

/-- How many bytes a file may have. -/
def fileSizeLimit (limits : List Limit) : Nat :=
  ((limit? limits fileSizeLetter).map Limit.current).getD Limit.none

namespace Limit

/-- A limit that is changed, unless it is greater than its bound or the bound is
raised. -/
def change (l : Limit) (current bound : Option Nat) : Except Errno Limit :=
  let changed := { l with current := current.getD l.current, bound := bound.getD l.bound }
  if changed.bound < changed.current then .error .invalidArgument
  else if l.bound < changed.bound then .error .notPermitted
  else .ok changed

end Limit

/-- The limits with one of them in place of that of its letter. -/
def setLimit (limits : List Limit) (limit : Limit) : List Limit :=
  limits.map (fun l => if l.letter = limit.letter then limit else l)

end Overseer.Machine
