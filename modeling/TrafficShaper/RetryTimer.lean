/-
The retry timer remembers when a packet that had to wait should be tried again.
-/

import TrafficShaper.Ticks

namespace TrafficShaper

/-- A retry timer has at most one deadline, and counts how often it was set. -/
structure RetryTimer where
  deadline : Option Ticks := none
  armed : UInt64 := 0
deriving DecidableEq, Repr

namespace RetryTimer

/-- A new deadline replaces the old one. -/
def schedule (timer : RetryTimer) (time : Ticks) : RetryTimer :=
  { deadline := some time, armed := timer.armed + 1 }

/-- The deadline is taken away. -/
def cancel (timer : RetryTimer) : RetryTimer := { timer with deadline := none }

end RetryTimer

end TrafficShaper
