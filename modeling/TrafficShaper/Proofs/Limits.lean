/-
The burst and the limit that follow from a rate. Sums and products stop at the end of their word,
so a derived limit is the exact number of bytes, cut to a half word. Only the milliseconds of the
latency are not cut but wrap, and a limit is exact when they do not.
-/

import TrafficShaper.Configuration
import Mathlib

namespace TrafficShaper

theorem cappedAdd_toNat (left right : UInt64) :
    (cappedAdd left right).toNat = min (2 ^ 64 - 1) (left.toNat + right.toNat) := by
  unfold cappedAdd
  split
  · rename_i fits
    rw [UInt64.size] at fits
    rw [UInt64.toNat_add]
    omega
  · rename_i large
    rw [UInt64.size] at large
    have last : (UInt64.ofNat (UInt64.size - 1)).toNat = 2 ^ 64 - 1 := by decide
    omega

theorem cappedMul_toNat (left right : UInt64) :
    (cappedMul left right).toNat = min (2 ^ 64 - 1) (left.toNat * right.toNat) := by
  unfold cappedMul
  split
  · rename_i fits
    rw [UInt64.size] at fits
    rw [UInt64.toNat_mul, Nat.mod_eq_of_lt fits]
    omega
  · rename_i large
    rw [UInt64.size] at large
    have last : (UInt64.ofNat (UInt64.size - 1)).toNat = 2 ^ 64 - 1 := by decide
    omega

theorem cappedMulHalf_toNat (left right : UInt32) :
    (cappedMulHalf left right).toNat = min (2 ^ 32 - 1) (left.toNat * right.toNat) := by
  unfold cappedMulHalf
  split
  · rename_i fits
    rw [UInt32.size] at fits
    rw [UInt32.toNat_mul, Nat.mod_eq_of_lt fits]
    omega
  · rename_i large
    rw [UInt32.size] at large
    have last : (UInt32.ofNat (UInt32.size - 1)).toNat = 2 ^ 32 - 1 := by decide
    omega

/-- A word that is cut to a half word first keeps its value when it becomes one. -/
theorem cut_toNat (value : UInt64) :
    (min value halfWordMax).toUInt32.toNat = min (2 ^ 32 - 1) value.toNat := by
  have largest : halfWordMax.toNat = 2 ^ 32 - 1 := by decide
  rw [UInt64.toNat_toUInt32, UInt64.toNat_min, largest]
  omega

/-- The exact number of whole milliseconds. -/
def Duration.wholeMilliseconds (duration : Duration) : Nat :=
  duration.ticks / ticksPerMillisecond

theorem Duration.milliseconds_toNat (duration : Duration) :
    duration.milliseconds.toNat = duration.wholeMilliseconds % 2 ^ 64 :=
  UInt64.toNat_ofNat'

namespace Configuration

variable (configuration : Configuration)

/-- The exact burst that follows from the rate: an eighth of a second, but ten full packets at
least, each cut to a half word. -/
def exactBurst : Nat :=
  max (min (2 ^ 32 - 1) (configuration.rate.toNat / 8))
    (min (2 ^ 32 - 1) (10 * configuration.mtu.toNat))

/-- The exact number of bytes that the rate sends in some milliseconds, and the burst on top, cut
to a half word. -/
def bytesWithin (milliseconds : Nat) : Nat :=
  min (2 ^ 32 - 1)
    (configuration.rate.toNat / 1000 * milliseconds + configuration.effectiveBurst.toNat)

/-- Bytes in the unit of the discipline, one packet at least. -/
def inUnits (bytes : Nat) : Nat :=
  match configuration.discipline with
  | .bytes => bytes
  | .packets | .headDrop => max (bytes / max configuration.mtu.toNat 1) 1

/-- The exact limit that follows from the rate and the latency. -/
def exactLimit : Nat :=
  configuration.inUnits (configuration.bytesWithin configuration.latency.wholeMilliseconds)

theorem derivedBurst_toNat : configuration.derivedBurst.toNat = configuration.exactBurst := by
  rw [derivedBurst, UInt32.toNat_max, cut_toNat, cappedMulHalf_toNat, UInt64.toNat_div, exactBurst,
    Nat.mul_comm 10]
  rfl

theorem derivedBytes_toNat :
    configuration.derivedBytes.toNat =
      configuration.bytesWithin (configuration.latency.wholeMilliseconds % 2 ^ 64) := by
  rw [derivedBytes, cut_toNat, cappedAdd_toNat, cappedMul_toNat, UInt64.toNat_div,
    Duration.milliseconds_toNat, UInt32.toNat_toUInt64, bytesWithin]
  have thousand : (1000 : UInt64).toNat = 1000 := rfl
  rw [thousand]
  omega

theorem derivedLimit_toNat :
    configuration.derivedLimit.toNat = configuration.inUnits configuration.derivedBytes.toNat := by
  unfold derivedLimit inUnits
  cases configuration.discipline with
  | bytes => rfl
  | packets | headDrop =>
      dsimp only
      rw [UInt32.toNat_max, UInt32.toNat_div, UInt32.toNat_max]
      rfl

variable {configuration}

theorem inUnits_mono {fewer more : Nat} (order : fewer ≤ more) :
    configuration.inUnits fewer ≤ configuration.inUnits more := by
  unfold inUnits
  cases configuration.discipline with
  | bytes => exact order
  | packets | headDrop => exact max_le_max_right 1 (Nat.div_le_div_right order)

theorem bytesWithin_mono {shorter longer : Nat}
    (order : configuration.rate.toNat / 1000 * shorter ≤
      configuration.rate.toNat / 1000 * longer) :
    configuration.bytesWithin shorter ≤ configuration.bytesWithin longer := by
  unfold bytesWithin
  omega

/-- A latency past the end of a word stands for the largest half word, at every rate that sends a
byte in a millisecond. -/
theorem bytesWithin_of_long (fast : 1000 ≤ configuration.rate.toNat) {milliseconds : Nat}
    (long : 2 ^ 64 ≤ milliseconds) : configuration.bytesWithin milliseconds = 2 ^ 32 - 1 := by
  have sends : 1 ≤ configuration.rate.toNat / 1000 := by omega
  have sent : milliseconds ≤ configuration.rate.toNat / 1000 * milliseconds :=
    Nat.le_mul_of_pos_left milliseconds sends
  unfold bytesWithin
  omega

/-- Milliseconds that wrap make no difference at a rate that sends nothing in one of them, nor when
what is left of them is still worth the largest limit. -/
theorem exactLimit_iff :
    configuration.inUnits
        (configuration.bytesWithin (configuration.latency.wholeMilliseconds % 2 ^ 64)) =
          configuration.exactLimit ↔
      configuration.rate < 1000 ∨ configuration.latency.wholeMilliseconds < 2 ^ 64 ∨
        configuration.inUnits
            (configuration.bytesWithin (configuration.latency.wholeMilliseconds % 2 ^ 64)) =
          configuration.inUnits (2 ^ 32 - 1) := by
  have thousand : (1000 : UInt64).toNat = 1000 := rfl
  rw [UInt64.lt_iff_toNat_lt, thousand, exactLimit]
  by_cases slow : configuration.rate.toNat < 1000
  · have nothing : configuration.rate.toNat / 1000 = 0 := Nat.div_eq_of_lt slow
    refine iff_of_true ?_ (.inl slow)
    simp only [bytesWithin, nothing, Nat.zero_mul]
  · by_cases short : configuration.latency.wholeMilliseconds < 2 ^ 64
    · refine iff_of_true ?_ (.inr (.inl short))
      rw [Nat.mod_eq_of_lt short]
    · have all : configuration.bytesWithin configuration.latency.wholeMilliseconds = 2 ^ 32 - 1 :=
        bytesWithin_of_long (Nat.le_of_not_lt slow) (Nat.le_of_not_lt short)
      rw [all]
      simp only [slow, short, false_or]

theorem effectiveBurst_mono {rate : UInt64} (order : configuration.rate ≤ rate) :
    configuration.effectiveBurst ≤ { configuration with rate }.effectiveBurst := by
  unfold effectiveBurst
  cases configuration.burst with
  | some burst => exact UInt32.le_refl burst
  | none =>
      simp only [Option.getD_none]
      rw [UInt32.le_iff_toNat_le, derivedBurst_toNat, derivedBurst_toNat]
      have eighth := Nat.div_le_div_right (c := 8) (UInt64.le_iff_toNat_le.mp order)
      simp only [exactBurst]
      omega

/-- A derived limit grows with the bytes from which it is derived. -/
theorem effectiveLimit_le {other : Configuration} (limit : other.limit = configuration.limit)
    (discipline : other.discipline = configuration.discipline)
    (mtu : other.mtu = configuration.mtu)
    (order : configuration.derivedBytes.toNat ≤ other.derivedBytes.toNat) :
    configuration.effectiveLimit ≤ other.effectiveLimit := by
  unfold effectiveLimit
  rw [limit]
  cases configuration.limit with
  | some limit => exact UInt32.le_refl limit
  | none =>
      simp only [Option.getD_none]
      rw [UInt32.le_iff_toNat_le, derivedLimit_toNat, derivedLimit_toNat]
      have units : other.inUnits = configuration.inUnits := by
        funext bytes
        rw [inUnits, inUnits, discipline, mtu]
      rw [units]
      exact inUnits_mono order

theorem effectiveLimit_mono_rate {rate : UInt64} (order : configuration.rate ≤ rate) :
    configuration.effectiveLimit ≤ { configuration with rate }.effectiveLimit := by
  refine effectiveLimit_le rfl rfl rfl ?_
  rw [derivedBytes_toNat, derivedBytes_toNat]
  have burst := UInt32.le_iff_toNat_le.mp (effectiveBurst_mono order)
  have thousandth := Nat.div_le_div_right (c := 1000) (UInt64.le_iff_toNat_le.mp order)
  have sent := Nat.mul_le_mul_right (configuration.latency.wholeMilliseconds % 2 ^ 64) thousandth
  simp only [bytesWithin]
  omega

theorem effectiveLimit_mono_latency {latency : Duration}
    (order : configuration.latency.ticks ≤ latency.ticks)
    (exact : configuration.rate < 1000 ∨ latency.wholeMilliseconds < 2 ^ 64) :
    configuration.effectiveLimit ≤ { configuration with latency }.effectiveLimit := by
  have longer : configuration.latency.wholeMilliseconds ≤ latency.wholeMilliseconds :=
    Nat.div_le_div_right order
  refine effectiveLimit_le rfl rfl rfl ?_
  rw [derivedBytes_toNat, derivedBytes_toNat]
  change _ ≤ configuration.bytesWithin (latency.wholeMilliseconds % 2 ^ 64)
  refine bytesWithin_mono ?_
  rcases exact with slow | short
  · have nothing : configuration.rate.toNat / 1000 = 0 :=
      Nat.div_eq_of_lt (UInt64.lt_iff_toNat_lt.mp slow)
    rw [nothing, Nat.zero_mul, Nat.zero_mul]
  · rw [Nat.mod_eq_of_lt short, Nat.mod_eq_of_lt (Nat.lt_of_le_of_lt longer short)]
    exact Nat.mul_le_mul_left _ longer

/-- What is derived is cut and does not wrap, but for the milliseconds. A derived burst is exact. A
derived limit is exact precisely when the milliseconds of the latency fit in a word, or the rate
sends nothing in one of them, or what is left of them is worth the largest limit. Both grow with the
rate, and the limit grows with the latency as long as its milliseconds fit. -/
theorem derived_limits_iff (configuration : Configuration) :
    (configuration.burst = none →
      configuration.effectiveBurst.toNat = configuration.exactBurst) ∧
    (configuration.limit = none →
      (configuration.effectiveLimit.toNat = configuration.exactLimit ↔
        configuration.rate < 1000 ∨ configuration.latency.wholeMilliseconds < 2 ^ 64 ∨
          configuration.inUnits
              (configuration.bytesWithin (configuration.latency.wholeMilliseconds % 2 ^ 64)) =
            configuration.inUnits (2 ^ 32 - 1))) ∧
    (∀ rate, configuration.rate ≤ rate →
      configuration.effectiveBurst ≤ { configuration with rate }.effectiveBurst ∧
        configuration.effectiveLimit ≤ { configuration with rate }.effectiveLimit) ∧
    (∀ latency : Duration, configuration.latency.ticks ≤ latency.ticks →
      configuration.rate < 1000 ∨ latency.wholeMilliseconds < 2 ^ 64 →
        configuration.effectiveLimit ≤ { configuration with latency }.effectiveLimit) := by
  refine ⟨?_, ?_, ?_, ?_⟩
  · intro derived
    rw [effectiveBurst, derived, Option.getD_none, derivedBurst_toNat]
  · intro derived
    rw [effectiveLimit, derived, Option.getD_none, derivedLimit_toNat, derivedBytes_toNat]
    exact exactLimit_iff
  · intro rate order
    exact ⟨effectiveBurst_mono order, effectiveLimit_mono_rate order⟩
  · intro latency order exact
    exact effectiveLimit_mono_latency order exact

/-- A rate of a hundred million bits per second, all else as usual. -/
def broad : Configuration := { rate := 12500000 }

/-- A backlog for the longest latency whose milliseconds fit in a word. -/
def patient : Configuration :=
  { rate := 1000000, latency := { seconds := 18446744073709551, nanoseconds := 615000000 } }

/-- A latency of a millisecond more. -/
def overdue : Configuration :=
  { patient with latency := { seconds := 18446744073709551, nanoseconds := 616000000 } }

/-- The burst and the limit at that rate, and at twice the rate or with a second of latency. -/
theorem broad_derived_limits :
    broad.burst = none ∧ broad.limit = none ∧ broad.rate ≤ 25000000 ∧
      broad.latency.ticks ≤ Duration.ticks { seconds := 1 } ∧
      (broad.rate < 1000 ∨ Duration.wholeMilliseconds { seconds := 1 } < 2 ^ 64) ∧
      broad.effectiveBurst.toNat = broad.exactBurst ∧
      (broad.effectiveLimit.toNat = broad.exactLimit ↔
        broad.rate < 1000 ∨ broad.latency.wholeMilliseconds < 2 ^ 64 ∨
          broad.inUnits (broad.bytesWithin (broad.latency.wholeMilliseconds % 2 ^ 64)) =
            broad.inUnits (2 ^ 32 - 1)) ∧
      (broad.effectiveBurst ≤ { broad with rate := 25000000 }.effectiveBurst ∧
        broad.effectiveLimit ≤ { broad with rate := 25000000 }.effectiveLimit) ∧
      broad.effectiveLimit ≤ { broad with latency := { seconds := 1 } }.effectiveLimit := by
  obtain ⟨burst, limit, rate, latency⟩ := derived_limits_iff broad
  have faster : broad.rate ≤ 25000000 := by decide
  have longer : broad.latency.ticks ≤ Duration.ticks { seconds := 1 } := by decide
  have fits : broad.rate < 1000 ∨ Duration.wholeMilliseconds { seconds := 1 } < 2 ^ 64 := by
    decide
  exact ⟨rfl, rfl, faster, longer, fits, burst rfl, limit rfl, rate _ faster,
    latency _ longer fits⟩

/-- One millisecond more, and a backlog of four thousand million bytes shrinks to that of no latency
at all. -/
theorem overdue_limit_wraps :
    overdue.limit = none ∧ overdue.plan.isOk ∧ patient.latency.ticks ≤ overdue.latency.ticks ∧
      patient.effectiveLimit.toNat = 2 ^ 32 - 1 ∧ overdue.exactLimit = 2 ^ 32 - 1 ∧
      overdue.effectiveLimit = overdue.effectiveBurst := by
  decide +kernel

end Configuration

end TrafficShaper
