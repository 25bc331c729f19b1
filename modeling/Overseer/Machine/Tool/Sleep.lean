import Overseer.Machine.Options
import Overseer.Text.Floating

/-!
# Letting time pass
-/

namespace Overseer.Machine

/-- How long to wait. -/
inductive Duration
  /-- So many nanoseconds. -/
  | span (nanoseconds : Nat)
  /-- For ever. -/
  | endless
deriving DecidableEq, Repr

namespace Duration

/-- One wait after the other. -/
def add : Duration → Duration → Duration
  | span m, span n => span (m + n)
  | _, _ => endless

/-- The seconds that a letter stands for. -/
def unit? : Bytes → Option Nat
  | [] | [0x73] => some 1
  | [0x6d] => some 60
  | [0x68] => some 3600
  | [0x64] => some 86400
  | _ => none

/-- A time given as a number with an optional unit letter. -/
def read? (text : Bytes) : Option Duration :=
  (Floating.read? .binary64 text).bind (fun r =>
    (unit? r.rest).bind (fun unit =>
      match r.value with
      | .finite negative significand exponent =>
          if negative && significand ≠ 0 then none
          else
            let (n, d) := Floating.scaled (significand * unit * 1000000000) 1 (-exponent)
            some (span ((n + d - 1) / d))
      | .infinite negative => if negative then none else some endless
      | .nan _ => none))

end Duration

/-- Let time pass. -/
def sleep (name : Bytes) (args : List Bytes) : Printing Nat :=
  withOptions name [] 1 args () (fun _ _ => .ok ()) (fun _ words => do
    let bad := words.filter (fun word => (Duration.read? word).isNone)
    if args.isEmpty then
      adviseAs name (utf8 "missing operand")
      return 1
    if !bad.isEmpty then
      let complaints := bad.map (fun word => utf8 "invalid time interval " ++ Quoting.single word)
      adviseAs name (Bytes.joinWith ([Byte.newline] ++ name ++ utf8 ": ") complaints)
      return 1
    match (words.filterMap Duration.read?).foldl Duration.add (.span 0) with
    | .span nanoseconds =>
        rest nanoseconds
        return 0
    | .endless => Act.leave .spin)

end Overseer.Machine
