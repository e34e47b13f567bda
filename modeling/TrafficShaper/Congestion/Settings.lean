/-
The settings of a congestion point: where the occupancy should be, how strongly its growth
counts, how severity is cut into levels, and how often the occupancy is sampled.
-/

import TrafficShaper.Fault
import TrafficShaper.Ticks

namespace TrafficShaper.Congestion

/-- The number of bits by which feedback is shifted down to a level. -/
inductive ShiftPolicy where
  | fixed (amount : UInt8)
  /-- The largest amount that still brings the strongest feedback to the top level. -/
  | auto
deriving DecidableEq, Repr

/-- The settings of a congestion point. -/
structure Settings where
  /-- The occupancy in bytes that is neither too much nor too little. -/
  equilibrium : UInt32 := 33792
  /-- The weight of the growth since the last sample. -/
  weight : UInt32 := 2
  /-- The number of bits of a level. -/
  bits : UInt8 := 6
  shift : ShiftPolicy := .auto
  /-- The bytes between samples, from no congestion to the worst. -/
  intervals : List UInt32 := [153600, 76800, 51200, 38400, 30720, 25600, 22016, 18944]
  /-- Each interval is drawn from around its value in the table. -/
  randomized : Bool := false
deriving DecidableEq, Repr

/-- Settings are refused for one of four reasons. -/
inductive SettingsError where
  | zeroEquilibrium
  | levelWidth
  | shiftTooLarge
  | intervalNotPositive
deriving DecidableEq, Repr

/-- The text of a refusal. -/
def SettingsError.message : SettingsError → String
  | .zeroEquilibrium => "Q_EQ must be greater than zero"
  | .levelWidth => "quantization width must be 1 to 8 bits"
  | .shiftTooLarge => "quantization shift too large"
  | .intervalNotPositive => "sample table entries must be positive"

namespace Settings

/-- A fixed shift leaves no bit of a feedback when it is 63 or more. -/
def shiftTooLarge (settings : Settings) : Bool :=
  match settings.shift with
  | .fixed amount => 63 ≤ amount
  | .auto => false

/-- The first reason to refuse the settings, if there is one. -/
def refusal? (settings : Settings) : Option SettingsError :=
  if settings.equilibrium = 0 then some .zeroEquilibrium
  else if settings.bits < 1 ∨ 8 < settings.bits then some .levelWidth
  else if settings.shiftTooLarge then some .shiftTooLarge
  else if settings.intervals = [] ∨ 0 ∈ settings.intervals then some .intervalNotPositive
  else none

/-- The strongest feedback, in magnitude, as a signed word. -/
def feedbackBound (settings : Settings) : Int64 :=
  Int64.ofNat settings.equilibrium.toNat * (2 * Int64.ofNat settings.weight.toNat + 1)

/-- The top level; the width counts modulo sixteen, and only the low eight bits are kept. -/
def topLevel (settings : Settings) : UInt8 :=
  UInt8.ofNat ((1 <<< (settings.bits.toNat % 16)) - 1)

/-- The shift that is meant by the policy, which has no answer for a bound below zero. -/
def resolvedShift (settings : Settings) : Except Fault UInt8 :=
  match settings.shift with
  | .fixed amount => .ok amount
  | .auto =>
      if settings.topLevel = 0 then .error .noLevels
      else
        let ratio := settings.feedbackBound.toInt.tdiv settings.topLevel.toNat
        if ratio < 0 then .error .negativeLogarithm
        else .ok (UInt8.ofNat (Nat.log2 ratio.toNat))

/-- The interval at the start, and after a change of the settings. -/
def firstInterval (settings : Settings) : Except Fault Int64 :=
  match settings.intervals with
  | [] => .error .noIntervals
  | first :: _ => .ok (Int64.ofNat first.toNat)

/-- The place of a level's interval in the table. -/
def intervalIndex (settings : Settings) (topLevel level : UInt8) : Nat :=
  level.toNat * settings.intervals.length / (topLevel.toNat + 1)

/-- A drawn interval lies between half the value and half as much again. -/
def drawnInterval (value : UInt32) (draw : UInt64) : Nat :=
  value.toNat / 2 + draw.toNat % (value.toNat + 1)

/-- The interval after a sample with the given level. -/
def intervalAfter (settings : Settings) (topLevel level : UInt8) (draw : UInt64) :
    Except Fault Int64 :=
  let index := settings.intervalIndex topLevel level
  match settings.intervals[min index (settings.intervals.length - 1)]? with
  | none => .error .noIntervals
  | some value =>
      .ok (Int64.ofNat (if settings.randomized then drawnInterval value draw else value.toNat))

end Settings

end TrafficShaper.Congestion
