import Overseer.Execution.World

/-!
# Narration

The trace of a world in words, one short sentence for each call.  Processes are
called `p0`, `p1` and so on, stream handlers `h0`, `h1`, their own sessions
`h0/0`, `h0/1`, and receivers `r0`, `r1`, where a prime marks the receiver of a
follow-up.
-/

namespace Overseer.Script

/-- The name of a process. -/
def processName : ProcessRef → Bytes
  | .launched i => utf8 "p" ++ decimal (Int.ofNat i)
  | .outsider => utf8 "foreign"

/-- The name of a stream. -/
def streamName : StandardStream → Bytes
  | .input => utf8 "stdin"
  | .output => utf8 "stdout"
  | .error => utf8 "stderr"

/-- The name of a session. -/
def sessionName (session : SessionId) : Bytes :=
  utf8 "h" ++ decimal (Int.ofNat session.handler) ++
    (match session.own with
      | some i => utf8 "/" ++ decimal (Int.ofNat i)
      | none => [])

/-- The name of the call that hands over a stream. -/
def attachName : StandardStream → Bytes
  | .input => utf8 "setInput"
  | .output => utf8 "setOutput"
  | .error => utf8 "setError"

/-- The name of a receiver. -/
def receiverName (receiver : ReceiverId) : Bytes :=
  utf8 "r" ++ decimal (Int.ofNat receiver.index) ++ (if receiver.follower then utf8 "'" else [])

/-- The sentence for a call.  Calls on a shutdown registry go untold; `isScripted`
says which destroyers are of the other kind. -/
def narrate (isScripted : DestroyerId → Bool) : Event → Option Bytes
  | .launch i => some (processName (.launched i) ++ utf8 ".launch")
  | .openSession i => some (sessionName { handler := i } ++ utf8 ".newSession")
  | .attach session stream p =>
      some (sessionName session ++ utf8 "." ++ attachName stream ++ utf8 "(" ++ processName p ++
        utf8 "." ++ streamName stream ++ utf8 ")")
  | .startStreams session => some (sessionName session ++ utf8 ".start")
  | .stopStreams session => some (sessionName session ++ utf8 ".stop")
  | .enlist i _ => if isScripted i then some (utf8 "destroyer.add") else none
  | .delist i _ => if isScripted i then some (utf8 "destroyer.remove") else none
  | .waitFor p => some (processName p ++ utf8 ".waitFor")
  | .destroy _ p => some (processName p ++ utf8 ".destroy")
  | .close p stream => some (utf8 "close " ++ processName p ++ utf8 "." ++ streamName stream)
  | .release p => some (processName p ++ utf8 ".released")
  | .completed receiver exitValue =>
      some (receiverName receiver ++ utf8 ".complete(" ++ decimal exitValue ++ utf8 ")")
  | .failed receiver fault =>
      some (receiverName receiver ++ utf8 ".failed(" ++ decimal fault.exitValue ++ utf8 ")")
  | .waited receiver => some (receiverName receiver ++ utf8 ".waited")

/-- The sentences for a world's trace. -/
def narration {σ : Type} (w : World σ) : List Bytes :=
  let isScripted (i : DestroyerId) : Bool :=
    match w.destroyers[i]? with
    | some (.scripted _ _ _) => true
    | _ => false
  w.trace.filterMap (narrate isScripted)

end Overseer.Script
