/-
What follows for the plan of a configuration that is not refused: both buckets have a depth of at
least zero, the peak table never charges more than the committed one, and both buckets can pay
for every packet up to the largest.
-/

import TrafficShaper.Configuration
import TrafficShaper.Proofs.Charge

namespace TrafficShaper

namespace Configuration

variable {configuration : Configuration} {plan : Plan}

/-- A configuration without a reason to refuse it meets each demand. -/
theorem demands_of_refusal_none (unrefused : configuration.refusal? = none) :
    configuration.rate ≠ 0 ∧ configuration.peakRefusal? = none ∧
      configuration.effectiveBurst ≠ 0 ∧ configuration.effectiveLimit ≠ 0 ∧
      configuration.congestion.refusal? = none := by
  unfold refusal? at unrefused
  split at unrefused
  · contradiction
  rename_i rate
  split at unrefused
  · rename_i refused
    rw [unrefused] at refused
    contradiction
  rename_i peak
  split at unrefused
  · contradiction
  rename_i burst
  split at unrefused
  · contradiction
  rename_i limit
  exact ⟨rate, by simpa using peak, burst, limit, by simpa using unrefused⟩

/-- A plan is laid out from a configuration that is not refused. -/
theorem plan_ok (accepted : configuration.plan = .ok plan) :
    configuration.refusal? = none ∧ 0 ≤ configuration.largest.toInt ∧
      plan =
        { committed := configuration.committedTable
          peak := configuration.peakTable
          depth := configuration.depth
          peakDepth := configuration.peakDepth
          largest := UInt32.ofNat (min configuration.largest.toInt.toNat (UInt32.size - 1))
          limit := configuration.effectiveLimit
          discipline := configuration.discipline } := by
  unfold Configuration.plan at accepted
  split at accepted
  · contradiction
  rename_i unrefused
  split at accepted
  · contradiction
  rename_i serviceable
  simp only [Int64.lt_iff_toInt_lt, Int64.toInt_zero, Int.not_lt] at serviceable
  exact ⟨unrefused, serviceable, (Except.ok.inj accepted).symm⟩

/-- The settings of an accepted configuration are accepted on their own. -/
theorem congestion_accepted (accepted : configuration.plan = .ok plan) :
    configuration.congestion.refusal? = none :=
  (demands_of_refusal_none (plan_ok accepted).1).2.2.2.2

/-- An accepted peak rate is above the committed one. -/
theorem rate_lt_peak {peak : UInt64} (accepted : configuration.plan = .ok plan)
    (given : configuration.peakRate = some peak) : configuration.rate < peak := by
  have unrefused := (demands_of_refusal_none (plan_ok accepted).1).2.1
  simp only [peakRefusal?, given] at unrefused
  split at unrefused
  · contradiction
  · rename_i above
    exact UInt64.not_le.mp above

/-- The largest packet is the lesser of those that the tables name. -/
theorem le_largest_iff (configuration : Configuration) (size : Int) :
    size ≤ configuration.largest.toInt ↔
      size ≤ (configuration.committedTable.largestWithin configuration.depth).toInt ∧
        ∀ table, configuration.peakTable = some table →
          size ≤ (table.largestWithin configuration.peakDepth).toInt := by
  unfold largest
  cases configuration.peakTable with
  | none => simp
  | some table =>
      dsimp only
      rw [min_toInt, Int.le_min]
      simp

end Configuration

namespace Plan

/-- The ticks that a packet costs in the committed bucket. -/
def charge (plan : Plan) (length : UInt32) : Int := (plan.committed.charge length).toInt

/-- The ticks that a packet costs in the peak bucket, if there is one. -/
def peakCharge (plan : Plan) (length : UInt32) : Int :=
  match plan.peak with
  | none => 0
  | some table => (table.charge length).toInt

/-- A sound plan never asks for more than its buckets hold. -/
structure Sound (plan : Plan) : Prop where
  depth : 0 ≤ plan.depth.toInt
  peakDepth : 0 ≤ plan.peakDepth.toInt
  noPeak : plan.peak = none → plan.peakDepth = 0
  peakCharge_le : ∀ length, plan.peakCharge length ≤ plan.charge length
  payable : ∀ length, length ≤ plan.largest →
    plan.charge length ≤ plan.depth.toInt ∧ plan.peakCharge length ≤ plan.peakDepth.toInt

theorem charge_nonneg (plan : Plan) (length : UInt32) : 0 ≤ plan.charge length :=
  plan.committed.charge_nonneg length

theorem peakCharge_of_none {plan : Plan} (absent : plan.peak = none) (length : UInt32) :
    plan.peakCharge length = 0 := by
  rw [peakCharge, absent]

theorem peakCharge_of_some {plan : Plan} {table : RateTable} (given : plan.peak = some table)
    (length : UInt32) : plan.peakCharge length = (table.charge length).toInt := by
  rw [peakCharge, given]

theorem peakCharge_nonneg (plan : Plan) (length : UInt32) : 0 ≤ plan.peakCharge length := by
  unfold peakCharge
  split
  · exact Int.le_refl 0
  · exact RateTable.charge_nonneg _ _

theorem charge_lt (plan : Plan) (length : UInt32) : plan.charge length < 2 ^ 63 :=
  Int64.toInt_lt _

theorem peakCharge_lt (plan : Plan) (length : UInt32) : plan.peakCharge length < 2 ^ 63 := by
  unfold peakCharge
  split
  · decide
  · exact Int64.toInt_lt _

end Plan

namespace Configuration

variable {configuration : Configuration} {plan : Plan}

theorem peakDepth_of_none (absent : configuration.peakTable = none) :
    configuration.peakDepth = 0 := by
  rw [peakDepth, absent]

theorem peakDepth_nonneg (configuration : Configuration) :
    0 ≤ configuration.peakDepth.toInt := by
  unfold peakDepth
  split
  · decide
  · exact RateTable.charge_nonneg _ _

/-- The peak table is the committed one at a higher rate. -/
theorem peakTable_eq (accepted : configuration.plan = .ok plan) {table : RateTable}
    (given : configuration.peakTable = some table) :
    ∃ peak, configuration.rate < peak ∧ table = configuration.committedTable.atRate peak := by
  simp only [peakTable, Option.map_eq_some_iff] at given
  obtain ⟨peak, present, rfl⟩ := given
  exact ⟨peak, rate_lt_peak accepted present, rfl⟩

/-- The plan can release the packets that are within what each table names. -/
theorem le_planned_largest_iff (accepted : configuration.plan = .ok plan) (length : UInt32) :
    length ≤ plan.largest ↔
      (length.toNat : Int) ≤
          (configuration.committedTable.largestWithin configuration.depth).toInt ∧
        ∀ table, configuration.peakTable = some table →
          (length.toNat : Int) ≤ (table.largestWithin configuration.peakDepth).toInt := by
  have bound := length.toNat_lt
  obtain ⟨-, serviceable, rfl⟩ := plan_ok accepted
  rw [← le_largest_iff, UInt32.le_iff_toNat_le,
    UInt32.toNat_ofNat_of_lt' (by simp only [UInt32.size]; omega)]
  simp only [UInt32.size]
  omega

/-- The plan of an accepted configuration is sound. -/
theorem plan_sound (accepted : configuration.plan = .ok plan) : plan.Sound := by
  have planned := le_planned_largest_iff accepted
  obtain ⟨unrefused, serviceable, rfl⟩ := plan_ok accepted
  have positive := (demands_of_refusal_none unrefused).1
  constructor
  case depth => exact transmitTime_nonneg _ _
  case peakDepth => exact peakDepth_nonneg configuration
  case noPeak => exact peakDepth_of_none
  case peakCharge_le =>
    intro length
    unfold Plan.peakCharge Plan.charge
    split
    · exact RateTable.charge_nonneg _ _
    · rename_i table given
      obtain ⟨peak, above, rfl⟩ := peakTable_eq accepted given
      exact RateTable.charge_atRate_le _ positive (UInt64.le_of_lt above) length
  case payable =>
    intro length fits
    obtain ⟨committed, peak⟩ := (planned length).mp fits
    refine ⟨RateTable.forMtu_charge_le committed, ?_⟩
    unfold Plan.peakCharge
    split
    · exact peakDepth_nonneg configuration
    · rename_i table given
      obtain ⟨rate, -, rfl⟩ := peakTable_eq accepted given
      exact RateTable.forMtu_charge_le (peak _ given)

/-- The burst pays for the depth of the committed bucket. -/
theorem rate_mul_depth_le (accepted : configuration.plan = .ok plan) :
    (configuration.rate.toNat : Int) * plan.depth.toInt ≤
      ticksPerSecond * configuration.effectiveBurst.toNat := by
  obtain ⟨unrefused, -, rfl⟩ := plan_ok accepted
  have bound := rate_mul_transmitTime_le (demands_of_refusal_none unrefused).1
    configuration.effectiveBurst.toUInt64
  rwa [UInt32.toNat_toUInt64] at bound

/-- A packet that the plan can release is charged for all its bytes, less than one tick short. -/
theorem lt_rate_mul_charge (accepted : configuration.plan = .ok plan) {length : UInt32}
    (fits : length ≤ plan.largest) :
    (ticksPerSecond * length.toNat : Int) <
      configuration.rate.toNat * (plan.charge length + 1) := by
  have bound := ((le_planned_largest_iff accepted length).mp fits).1
  obtain ⟨unrefused, -, rfl⟩ := plan_ok accepted
  exact RateTable.lt_rate_mul_forMtu_charge (demands_of_refusal_none unrefused).1 bound

/-- The same holds of a peak rate. -/
theorem lt_peak_mul_peakCharge (accepted : configuration.plan = .ok plan) {peak : UInt64}
    (given : configuration.peakRate = some peak) {length : UInt32}
    (fits : length ≤ plan.largest) :
    (ticksPerSecond * length.toNat : Int) < peak.toNat * (plan.peakCharge length + 1) := by
  have table : configuration.peakTable = some (.forMtu peak configuration.mtu) := by
    rw [peakTable, given, Option.map_some]
  have positive : peak ≠ 0 := by
    rintro rfl
    exact UInt64.not_lt_zero (rate_lt_peak accepted given)
  have bound := ((le_planned_largest_iff accepted length).mp fits).2 _ table
  have planned : plan.peak = some (.forMtu peak configuration.mtu) := by
    obtain ⟨-, -, rfl⟩ := plan_ok accepted
    exact table
  rw [Plan.peakCharge_of_some planned]
  exact RateTable.lt_rate_mul_forMtu_charge positive bound

/-- A configuration whose peak bucket is deeper than the committed one. -/
def deepPeak : Configuration :=
  { rate := 1000000, peakRate := some 2000000, burst := some 3000, mtu := 9000 }

end Configuration

/-- The plan of a configuration with a deep peak bucket. -/
def Plan.deepPeak : Plan where
  committed := .forMtu 1000000 9000
  peak := some (.forMtu 2000000 9000)
  depth := 3000000
  peakDepth := 4512000
  largest := 2943
  limit := 203000
  discipline := .bytes

theorem Configuration.deepPeak_plan :
    Configuration.deepPeak.plan = .ok Plan.deepPeak := by
  decide +kernel

end TrafficShaper
