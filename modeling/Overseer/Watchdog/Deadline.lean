/-!
# Deadlines

Times are counts of nanoseconds and timeouts counts of milliseconds, both held
in 64 bits.  A deadline is computed in the same 64 bits, where a long timeout
wraps around.
-/

namespace Overseer

/-- A reading of the clock, in nanoseconds. -/
abbrev Instant := Int64

/-- The reading at which a world begins: the machine has been up for an hour. -/
def Instant.first : Instant :=
  3600000000000

/-- How long a watchdog lets a process run, in milliseconds. -/
abbrev Timeout := Int64

namespace Timeout

/-- The timeout that never ends. -/
def infinite : Timeout :=
  -1

/-- Whether a watchdog can be made with the timeout. -/
def isAccepted (timeout : Timeout) : Bool :=
  timeout = infinite || 0 < timeout

/-- The deadline of a timeout that begins now. -/
def deadline (now : Instant) (timeout : Timeout) : Instant :=
  now + timeout * 1000000

end Timeout

end Overseer
