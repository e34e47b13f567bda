/-
A time line carries a system whose parts wait for times. A script acts on the system; while the
script waits, the parts run, each at its time. Time stands still as long as a part can run.
-/

import TrafficShaper.Fault
import TrafficShaper.Ticks

namespace TrafficShaper

/-- A timed system tells when one of its parts runs next, and can let all parts run that are due. -/
class Timed (S : Type) where
  wakeTime? : S → Nat → Option Nat
  settle : S → Nat → Except Fault S

/-- A system at a point of its time line. -/
structure Timeline (S : Type) where
  now : Nat := 0
  system : S
deriving Repr

/-- Waits end on a whole millisecond. -/
def wholeMillisecond (time : Nat) : Nat :=
  (time + (ticksPerMillisecond - 1)) / ticksPerMillisecond * ticksPerMillisecond

namespace Timeline

variable {S : Type} [Timed S]

/-- The parts that are due at a time run then. -/
def settleAt (line : Timeline S) (time : Nat) : Except Fault (Timeline S) :=
  let now := max line.now time
  match Timed.settle line.system now with
  | .error fault => .error fault
  | .ok system => .ok { now, system }

/-- The parts run at their times, as long as these come before the limit, where the script goes
on. The count bounds how often parts are due. -/
def runBefore (line : Timeline S) (limit : Nat) : Nat → Except Fault (Timeline S)
  | 0 => .ok { line with now := max line.now limit }
  | count + 1 =>
      match Timed.wakeTime? line.system line.now with
      | none => .ok { line with now := max line.now limit }
      | some time =>
          if time < limit then do
            let line ← line.settleAt time
            line.runBefore limit count
          else .ok { line with now := max line.now limit }

/-- The script waits until a time, at which it goes on before the parts do. At least one tick
passes between two times at which parts are due. -/
def waitUntil (line : Timeline S) (limit : Nat) : Except Fault (Timeline S) :=
  line.runBefore limit (limit - line.now + 1)

/-- The time at which a wait of some ticks ends. -/
def after (line : Timeline S) (ticks : Nat) : Nat := wholeMillisecond (line.now + ticks)

/-- The script waits for some time. -/
def sleep (line : Timeline S) (ticks : Nat) : Except Fault (Timeline S) :=
  line.waitUntil (line.after ticks)

/-- The script waits until the system is as it should be, while parts are due at most `count`
times. -/
def await (line : Timeline S) (reached : S → Bool) : Nat → Except Fault (Timeline S)
  | 0 => .ok line
  | count + 1 =>
      if reached line.system then .ok line
      else
        match Timed.wakeTime? line.system line.now with
        | none => .ok line
        | some time => do
            let line ← line.settleAt time
            line.await reached count

end Timeline

end TrafficShaper
