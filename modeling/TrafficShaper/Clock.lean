/-
Two clocks: one that is moved by hand, and one that counts from an epoch on a running time line.
-/

import TrafficShaper.Ticks

namespace TrafficShaper

/-- A length of time in whole seconds and a rest in nanoseconds. -/
structure Duration where
  seconds : UInt64 := 0
  nanoseconds : UInt32 := 0
deriving DecidableEq, Repr

namespace Duration

/-- The exact number of nanoseconds. -/
def ticks (duration : Duration) : Nat :=
  duration.seconds.toNat * ticksPerSecond + duration.nanoseconds.toNat

/-- Whole milliseconds are kept to the width of a word. -/
def milliseconds (duration : Duration) : UInt64 :=
  UInt64.ofNat (duration.ticks / ticksPerMillisecond)

end Duration

/-- A stepped clock shows the tick to which it was last moved. -/
structure SteppedClock where
  now : Ticks := 0
deriving DecidableEq, Repr

namespace SteppedClock

/-- A step adds to the reading, which wraps at the end of the word. -/
def step (clock : SteppedClock) (ticks : Ticks) : SteppedClock :=
  ⟨clock.now + ticks⟩

/-- A step by a duration keeps the low word of its nanoseconds. -/
def advance (clock : SteppedClock) (duration : Duration) : SteppedClock :=
  clock.step (Int64.ofNat duration.ticks)

/-- The clock never goes back: it moves to a tick only when that is later. -/
def moveTo (clock : SteppedClock) (ticks : Ticks) : SteppedClock :=
  if clock.now < ticks then ⟨ticks⟩ else clock

end SteppedClock

/-- An epoch clock reads a time line, on which its epoch is tick zero. -/
structure EpochClock where
  epoch : Nat := 0
deriving DecidableEq, Repr

namespace EpochClock

/-- The reading is the time since the epoch. -/
def now (clock : EpochClock) (time : Nat) : Ticks :=
  Int64.ofNat (time - clock.epoch)

/-- The place of a tick on the time line; a tick before the epoch counts as the epoch. -/
def instant (clock : EpochClock) (ticks : Ticks) : Nat :=
  clock.epoch + ticks.toInt.toNat

end EpochClock

end TrafficShaper
