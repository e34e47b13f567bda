/-
The configuration of a shaper, the limits that follow from it, and the plan by which its buckets
and its backlog work.
-/

import TrafficShaper.Backlog
import TrafficShaper.Clock
import TrafficShaper.Congestion.Settings
import TrafficShaper.RateTable

namespace TrafficShaper

/-- A configuration; rates are in bytes per second and sizes in bytes. -/
structure Configuration where
  /-- The committed rate. -/
  rate : UInt64
  /-- The peak rate is above the committed one. -/
  peakRate : Option UInt64 := none
  /-- The depth of the committed bucket. -/
  burst : Option UInt32 := none
  /-- The largest packet for which the rate tables are laid out, and the depth of the peak
  bucket. -/
  mtu : UInt32 := 1500
  /-- The limit of the backlog, in the unit of its discipline. -/
  limit : Option UInt32 := none
  /-- The time from which a limit is derived. -/
  latency : Duration := { seconds := 0, nanoseconds := 200000000 }
  discipline : Discipline := .bytes
  congestion : Congestion.Settings := {}
deriving DecidableEq, Repr

/-- A configuration is refused for one of these reasons. -/
inductive ConfigurationError where
  | zeroRate
  | peakNotAboveRate (rate peak : UInt64)
  | zeroBurst
  | zeroLimit
  | unserviceable (largest : Int64)
  | congestion (reason : Congestion.SettingsError)
deriving DecidableEq, Repr

/-- The text of a refusal. -/
def ConfigurationError.message : ConfigurationError → String
  | .zeroRate => "Rate must be greater than zero"
  | .peakNotAboveRate rate peak =>
      s!"Peak rate {peak} must exceed the committed rate {rate}"
  | .zeroBurst => "Burst must be greater than zero"
  | .zeroLimit => "Backlog limit must be greater than zero"
  | .unserviceable largest => s!"No packet fits in the bucket (max size {largest})"
  | .congestion reason => "Invalid QCN parameters: " ++ reason.message

/-- The plan of a shaper is what its buckets and its backlog need to know. -/
structure Plan where
  /-- The table of the committed rate. -/
  committed : RateTable
  /-- The table of the peak rate, if there is one. -/
  peak : Option RateTable := none
  /-- The depth of the committed bucket in ticks. -/
  depth : Ticks
  /-- The depth of the peak bucket in ticks. -/
  peakDepth : Ticks := 0
  /-- The largest packet that can ever be released. -/
  largest : UInt32
  /-- The limit of the backlog. -/
  limit : UInt32
  discipline : Discipline
deriving DecidableEq, Repr

namespace Configuration

/-- The derived burst is an eighth of a second, but ten full packets at least. -/
def derivedBurst (configuration : Configuration) : UInt32 :=
  max (min (configuration.rate / 8) halfWordMax).toUInt32 (cappedMulHalf configuration.mtu 10)

/-- The depth of the committed bucket in bytes. -/
def effectiveBurst (configuration : Configuration) : UInt32 :=
  configuration.burst.getD configuration.derivedBurst

/-- The bytes that the rate sends within the latency, and the burst on top. -/
def derivedBytes (configuration : Configuration) : UInt32 :=
  (min
    (cappedAdd (cappedMul (configuration.rate / 1000) configuration.latency.milliseconds)
      configuration.effectiveBurst.toUInt64)
    halfWordMax).toUInt32

/-- The derived limit in the unit of the discipline, one packet at least. -/
def derivedLimit (configuration : Configuration) : UInt32 :=
  match configuration.discipline with
  | .bytes => configuration.derivedBytes
  | .packets | .headDrop => max (configuration.derivedBytes / max configuration.mtu 1) 1

/-- The limit of the backlog. -/
def effectiveLimit (configuration : Configuration) : UInt32 :=
  configuration.limit.getD configuration.derivedLimit

/-- The refusal of a peak rate that is not above the committed one. -/
def peakRefusal? (configuration : Configuration) : Option ConfigurationError :=
  match configuration.peakRate with
  | none => none
  | some peak =>
      if peak ≤ configuration.rate then some (.peakNotAboveRate configuration.rate peak) else none

/-- The first reason to refuse the configuration before its tables are laid out. -/
def refusal? (configuration : Configuration) : Option ConfigurationError :=
  if configuration.rate = 0 then some .zeroRate
  else if configuration.peakRefusal?.isSome then configuration.peakRefusal?
  else if configuration.effectiveBurst = 0 then some .zeroBurst
  else if configuration.effectiveLimit = 0 then some .zeroLimit
  else configuration.congestion.refusal?.map .congestion

/-- The table of the committed rate. -/
def committedTable (configuration : Configuration) : RateTable :=
  RateTable.forMtu configuration.rate configuration.mtu

/-- The table of the peak rate. -/
def peakTable (configuration : Configuration) : Option RateTable :=
  configuration.peakRate.map fun peak => RateTable.forMtu peak configuration.mtu

/-- The ticks that the burst takes at the committed rate. -/
def depth (configuration : Configuration) : Ticks :=
  transmitTime configuration.rate configuration.effectiveBurst.toUInt64

/-- The charge of one full packet at the peak rate. -/
def peakDepth (configuration : Configuration) : Ticks :=
  match configuration.peakTable with
  | none => 0
  | some table => table.charge configuration.mtu

/-- The largest packet for which both buckets are deep enough. -/
def largest (configuration : Configuration) : Int64 :=
  let committed := configuration.committedTable.largestWithin configuration.depth
  match configuration.peakTable with
  | none => committed
  | some table => min committed (table.largestWithin configuration.peakDepth)

/-- A configuration that is not refused has a plan. -/
def plan (configuration : Configuration) : Except ConfigurationError Plan :=
  match configuration.refusal? with
  | some error => .error error
  | none =>
      if configuration.largest < 0 then .error (.unserviceable configuration.largest)
      else
        .ok
          { committed := configuration.committedTable
            peak := configuration.peakTable
            depth := configuration.depth
            peakDepth := configuration.peakDepth
            largest := UInt32.ofNat (min configuration.largest.toInt.toNat (UInt32.size - 1))
            limit := configuration.effectiveLimit
            discipline := configuration.discipline }

end Configuration

end TrafficShaper
