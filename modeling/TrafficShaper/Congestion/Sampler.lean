/-
The sampler follows the occupancy of a backlog. Each packet that is let in may complete a sample;
a sample that finds congestion latches a notice, which stays latched until it is delivered.
-/

import TrafficShaper.Congestion.Settings
import TrafficShaper.Notice
import TrafficShaper.Packet

namespace TrafficShaper.Congestion

/-- The state of a congestion point. -/
structure Sampler where
  settings : Settings
  shift : UInt8
  topLevel : UInt8
  /-- The bytes in the backlog. -/
  occupancy : UInt64 := 0
  /-- The occupancy at the last sample. -/
  lastSample : UInt64 := 0
  /-- The bytes that may still come before the next sample. -/
  countdown : Int64
  /-- A notice waits for its delivery. -/
  pending : Bool := false
  /-- The feedback of the last packet, at most zero. -/
  feedback : Int64 := 0
  /-- The level of the last packet. -/
  level : UInt8 := 0
deriving DecidableEq, Repr

namespace Sampler

/-- A sampler starts with an empty backlog and the first interval. -/
def create (settings : Settings) : Except Fault Sampler := do
  let shift ← settings.resolvedShift
  let countdown ← settings.firstInterval
  pure { settings, shift, topLevel := settings.topLevel, countdown }

/-- The equilibrium less the occupancy. -/
def offset (sampler : Sampler) : Int64 :=
  Int64.ofNat sampler.settings.equilibrium.toNat - signedWord sampler.occupancy

/-- The occupancy less that of the last sample. -/
def growth (sampler : Sampler) : Int64 :=
  signedWord sampler.occupancy - signedWord sampler.lastSample

/-- The feedback before it is clamped: the offset less the weighted growth. -/
def rawFeedback (sampler : Sampler) : Int64 :=
  saturatingSub sampler.offset
    (saturatingMul (Int64.ofNat sampler.settings.weight.toNat) sampler.growth)

/-- The level of a feedback is its shifted magnitude, at most the top level. -/
def quantize (sampler : Sampler) (feedback : Int64) : UInt8 :=
  UInt8.ofInt (min (shiftDown (-feedback) sampler.shift).toInt sampler.topLevel.toNat)

/-- The occupancy grows by a packet, and the feedback and its level follow. -/
def count (sampler : Sampler) (length : UInt32) : Except Fault Sampler :=
  let counted := { sampler with occupancy := sampler.occupancy + length.toUInt64 }
  match clampWithin counted.rawFeedback (-sampler.settings.feedbackBound) 0 with
  | .error fault => .error fault
  | .ok feedback =>
      .ok { counted with
        feedback := feedback
        level := sampler.quantize feedback
        countdown := sampler.countdown - Int64.ofNat length.toNat }

/-- A sample latches a notice when there is congestion, and sets the next interval. -/
def sample (sampler : Sampler) (draw : UInt64) : Except Fault Sampler :=
  match sampler.settings.intervalAfter sampler.topLevel sampler.level draw with
  | .error fault => .error fault
  | .ok interval =>
      .ok { sampler with
        pending := sampler.pending || decide (0 < sampler.level)
        lastSample := sampler.occupancy
        countdown := interval }

/-- A packet that is let in is counted, and completes a sample once the interval is used up. -/
def observe (sampler : Sampler) (length : UInt32) (draw : UInt64) : Except Fault Sampler :=
  match sampler.count length with
  | .error fault => .error fault
  | .ok counted => if counted.countdown < 0 then counted.sample draw else .ok counted

/-- A word is brought into the range of a half word. -/
def saturateHalf (value : Int64) : Int32 := Int32.ofIntClamp value.toInt

/-- The notice that waits, addressed by a packet's headers. -/
def dispatch? (sampler : Sampler) (headers : Headers) : Option Dispatch :=
  match sampler.pending, headers.network with
  | true, some network =>
      some
        { notice :=
            { destination := network.destination
              source := network.source
              level := sampler.level
              offset := saturateHalf sampler.offset
              delta := saturateHalf sampler.growth }
          link := headers.link }
  | _, _ => none

/-- A delivered notice no longer waits. -/
def delivered (sampler : Sampler) : Sampler := { sampler with pending := false }

/-- A packet that leaves is taken off the occupancy, which does not go below zero. -/
def remove (sampler : Sampler) (length : UInt32) : Sampler :=
  { sampler with
    occupancy :=
      if length.toUInt64 ≤ sampler.occupancy then sampler.occupancy - length.toUInt64 else 0 }

/-- A reset forgets all but the settings. -/
def reset (sampler : Sampler) : Except Fault Sampler :=
  match sampler.settings.firstInterval with
  | .error fault => .error fault
  | .ok countdown =>
      .ok { sampler with
        occupancy := 0, lastSample := 0, countdown, pending := false, feedback := 0, level := 0 }

/-- New settings start a new interval and keep the occupancy and the latch. -/
def reconfigure (sampler : Sampler) (settings : Settings) : Except Fault Sampler := do
  let shift ← settings.resolvedShift
  let countdown ← settings.firstInterval
  pure { sampler with settings, shift, topLevel := settings.topLevel, countdown }

end Sampler

end TrafficShaper.Congestion
