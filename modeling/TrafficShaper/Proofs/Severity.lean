/-
How severe congestion is, as an exact number, and what a sampler makes of it. The words on the way
may saturate, but only where the feedback is cut off anyway, so that the feedback is the exact
severity between zero and the bound. The level follows it in order.
-/

import TrafficShaper.Proofs.Feedback

namespace TrafficShaper.Congestion

namespace Settings

variable {settings : Settings}

/-- The severity of congestion as an exact number: the bytes above the equilibrium, and the weighted
growth since the last sample. -/
def severity (settings : Settings) (occupancy lastSample : UInt64) : Int :=
  ((occupancy.toNat : Int) - settings.equilibrium.toNat) +
    settings.weight.toNat * ((occupancy.toNat : Int) - lastSample.toNat)

/-- More bytes that wait, and fewer at the last sample, are no less severe. -/
theorem severity_mono (settings : Settings) {occupancy lastSample other earlier : UInt64}
    (fuller : occupancy ≤ other) (grown : earlier ≤ lastSample) :
    settings.severity occupancy lastSample ≤ settings.severity other earlier := by
  rw [UInt64.le_iff_toNat_le] at fuller grown
  have growth : (settings.weight.toNat : Int) * ((occupancy.toNat : Int) - lastSample.toNat) ≤
      settings.weight.toNat * ((other.toNat : Int) - earlier.toNat) := by
    apply Int.mul_le_mul_of_nonneg_left
    · omega
    · omega
  unfold severity
  omega

/-- At the equilibrium or below, without growth, there is no congestion. -/
theorem severity_nonpos {occupancy lastSample : UInt64}
    (below : occupancy.toNat ≤ settings.equilibrium.toNat) (still : occupancy ≤ lastSample) :
    settings.severity occupancy lastSample ≤ 0 := by
  rw [UInt64.le_iff_toNat_le] at still
  have growth :
      (settings.weight.toNat : Int) * ((occupancy.toNat : Int) - lastSample.toNat) ≤ 0 := by
    apply Int.mul_nonpos_of_nonneg_of_nonpos
    · omega
    · omega
  unfold severity
  omega

/-- The level of a magnitude: what a shift leaves of it, at most the top level. -/
def levelOf (settings : Settings) (shift magnitude : Nat) : Nat :=
  min (magnitude >>> shift) (2 ^ settings.bits.toNat - 1)

theorem levelOf_le (settings : Settings) (shift magnitude : Nat) :
    settings.levelOf shift magnitude ≤ 2 ^ settings.bits.toNat - 1 :=
  Nat.min_le_right _ _

theorem levelOf_mono (settings : Settings) (shift : Nat) {magnitude other : Nat}
    (weaker : magnitude ≤ other) :
    settings.levelOf shift magnitude ≤ settings.levelOf shift other := by
  have shifted : magnitude >>> shift ≤ other >>> shift := by
    rw [Nat.shiftRight_eq_div_pow, Nat.shiftRight_eq_div_pow]
    exact Nat.div_le_div_right weaker
  unfold levelOf
  omega

end Settings

namespace Sampler

variable {sampler after other : Sampler} {settings : Settings} {length : UInt32} {draw : UInt64}

/-- Below the equilibrium the weighted growth is within the bound. -/
theorem weightedGrowth_le_exactBound (fits : sampler.occupancy.toNat < 2 ^ 63)
    (fitted : sampler.lastSample.toNat < 2 ^ 63) (below : 0 < sampler.offset.toInt) :
    (sampler.settings.weight.toNat : Int) * sampler.growth.toInt ≤ sampler.settings.exactBound := by
  rw [offset_exact fits] at below
  rw [growth_exact fits fitted, Settings.exactBound]
  have growth : (sampler.settings.weight.toNat : Int) *
        ((sampler.occupancy.toNat : Int) - sampler.lastSample.toNat) ≤
      sampler.settings.weight.toNat * sampler.settings.equilibrium.toNat := by
    apply Int.mul_le_mul_of_nonneg_left
    · omega
    · omega
  push_cast
  nlinarith

/-- Where a word saturates, the feedback is cut off: it is the exact severity between zero and the
bound. -/
theorem rawFeedback_clamped (sampler : Sampler) (bounded : sampler.settings.exactBound < 2 ^ 63)
    (fits : sampler.occupancy.toNat < 2 ^ 63) (fitted : sampler.lastSample.toNat < 2 ^ 63) :
    max (-(sampler.settings.exactBound : Int)) (min 0 sampler.rawFeedback.toInt) =
      -max 0 (min (sampler.settings.exactBound : Int)
        (sampler.settings.severity sampler.occupancy sampler.lastSample)) := by
  have equilibrium := sampler.settings.equilibrium.toNat_lt
  have offset := offset_exact fits
  have below := weightedGrowth_le_exactBound fits fitted
  have severity : sampler.settings.severity sampler.occupancy sampler.lastSample =
      sampler.settings.weight.toNat * sampler.growth.toInt - sampler.offset.toInt := by
    rw [Settings.severity, growth_exact fits fitted, offset]
    omega
  have raw : sampler.rawFeedback.toInt = max (-2 ^ 63) (min (2 ^ 63 - 1)
      (sampler.offset.toInt - max (-2 ^ 63) (min (2 ^ 63 - 1)
        (sampler.settings.weight.toNat * sampler.growth.toInt)))) := by
    rw [rawFeedback, saturatingSub_toInt, saturatingMul_toInt, halfWord_toInt]
  rw [severity, raw]
  -- A product that saturates at the top is cut off at the bound, unless the offset is positive:
  -- then `below` rules it out. One that saturates at the bottom leaves no congestion.
  generalize (sampler.settings.weight.toNat : Int) * sampler.growth.toInt = product at below ⊢
  omega

/-- A packet that is observed has the feedback and the level of its count. -/
theorem observe_counted (observed : sampler.observe length draw = .ok after) :
    ∃ counted, sampler.count length = .ok counted ∧ after.occupancy = counted.occupancy ∧
      after.feedback = counted.feedback ∧ after.level = counted.level := by
  obtain ⟨counted, found, ⟨-, rfl⟩ | ⟨-, sampled⟩⟩ := observe_cases observed
  · exact ⟨after, found, rfl, rfl, rfl⟩
  · obtain ⟨interval, -, rfl⟩ := sample_eq sampled
    exact ⟨counted, found, rfl, rfl, rfl⟩

namespace Configured

/-- The feedback after a packet is the exact severity between zero and the bound. -/
theorem feedback_eq (configured : sampler.Configured settings)
    (bounded : settings.exactBound < 2 ^ 63)
    (observed : sampler.observe length draw = .ok after) (fits : after.occupancy.toNat < 2 ^ 63)
    (fitted : sampler.lastSample.toNat < 2 ^ 63) :
    after.feedback.toInt =
      -max 0 (min (settings.exactBound : Int)
        (settings.severity after.occupancy sampler.lastSample)) := by
  obtain ⟨rfl, -, -⟩ := configured
  obtain ⟨counted, found, occupancy, feedback, -⟩ := observe_counted observed
  obtain ⟨clamped, clamping, rfl⟩ := count_eq found
  obtain ⟨nearest, sameClamping, exact⟩ := clampWithin_feedbackBound bounded
    ({ sampler with occupancy := sampler.occupancy + length.toUInt64 }.rawFeedback)
  obtain rfl := Except.ok.inj (clamping.symm.trans sameClamping)
  rw [occupancy] at fits ⊢
  rw [feedback, exact]
  exact rawFeedback_clamped { sampler with occupancy := sampler.occupancy + length.toUInt64 }
    bounded fits fitted

/-- The level after a packet is that of the magnitude of its feedback. -/
theorem level_eq (configured : sampler.Configured settings) (unrefused : settings.refusal? = none)
    (bounded : settings.exactBound < 2 ^ 63) (observed : sampler.observe length draw = .ok after) :
    after.level.toNat =
      settings.levelOf sampler.shift.toNat (-after.feedback.toInt).toNat := by
  obtain ⟨again, sameObserved, inRange⟩ :=
    observe_inRange configured unrefused bounded length draw
  obtain rfl := Except.ok.inj (observed.symm.trans sameObserved)
  obtain ⟨shift, resolved, short⟩ := Settings.resolvedShift_ok unrefused bounded
  obtain rfl := Except.ok.inj (configured.shift.symm.trans resolved)
  obtain ⟨counted, found, -, feedback, level⟩ := observe_counted observed
  obtain ⟨clamped, -, rfl⟩ := count_eq found
  have least := inRange.bounded
  have most := inRange.nonpositive
  rw [feedback] at least most ⊢
  dsimp only at least most level ⊢
  rw [level, quantize_toNat sampler (by omega) most, configured.topLevel,
    Settings.topLevel_toNat unrefused, Nat.mod_eq_of_lt short, Settings.levelOf]

end Configured

/-- What the feedback and the level after a packet say of the congestion that it met. -/
structure Rates (settings : Settings) (before : Sampler) (length : UInt32) (after : Sampler) :
    Prop where
  occupancy : after.occupancy = before.occupancy + length.toUInt64
  level : after.level.toNat ≤ 2 ^ settings.bits.toNat - 1
  /-- At the equilibrium or below, without growth, the level is zero. -/
  calm : after.occupancy.toNat ≤ settings.equilibrium.toNat →
    after.occupancy ≤ before.lastSample → after.level = 0
  /-- A severity of the bound or more brings the feedback down to the bound. -/
  floor : (settings.exactBound : Int) ≤ settings.severity after.occupancy before.lastSample →
    after.feedback.toInt = -settings.exactBound

theorem Configured.rates (configured : sampler.Configured settings)
    (unrefused : settings.refusal? = none) (bounded : settings.exactBound < 2 ^ 63)
    (observed : sampler.observe length draw = .ok after) (fits : after.occupancy.toNat < 2 ^ 63)
    (fitted : sampler.lastSample.toNat < 2 ^ 63) : sampler.Rates settings length after := by
  have feedback := configured.feedback_eq bounded observed fits fitted
  have level := configured.level_eq unrefused bounded observed
  constructor
  case occupancy => exact (observe_frame observed).2.2.2
  case level =>
    rw [level]
    exact settings.levelOf_le _ _
  case calm =>
    intro below still
    have none := settings.severity_nonpos below still
    have magnitude : (-after.feedback.toInt).toNat = 0 := by omega
    apply UInt8.toNat_inj.mp
    rw [level, magnitude, Settings.levelOf, Nat.zero_shiftRight, Nat.zero_min]
    rfl
  case floor =>
    intro severe
    rw [feedback]
    omega

/-- Of two packets under the same settings, the one that finds no fewer bytes waiting, and no more
of them at the last sample, gets no lower a level. Each level fits in its width, is zero where there
is no congestion, and the feedback is at the bound where the severity is. -/
theorem Configured.levels_ordered (configured : sampler.Configured settings)
    (otherConfigured : other.Configured settings) (unrefused : settings.refusal? = none)
    (bounded : settings.exactBound < 2 ^ 63) {length otherLength : UInt32}
    (fits : (sampler.occupancy + length.toUInt64).toNat < 2 ^ 63)
    (fitted : sampler.lastSample.toNat < 2 ^ 63)
    (otherFits : (other.occupancy + otherLength.toUInt64).toNat < 2 ^ 63)
    (otherFitted : other.lastSample.toNat < 2 ^ 63) (draw otherDraw : UInt64) :
    ∃ after otherAfter, sampler.observe length draw = .ok after ∧
      other.observe otherLength otherDraw = .ok otherAfter ∧
      sampler.Rates settings length after ∧ other.Rates settings otherLength otherAfter ∧
      (after.occupancy ≤ otherAfter.occupancy → other.lastSample ≤ sampler.lastSample →
        after.level ≤ otherAfter.level) := by
  obtain ⟨after, observed, -⟩ := observe_inRange configured unrefused bounded length draw
  obtain ⟨otherAfter, otherObserved, -⟩ :=
    observe_inRange otherConfigured unrefused bounded otherLength otherDraw
  rw [← (observe_frame observed).2.2.2] at fits
  rw [← (observe_frame otherObserved).2.2.2] at otherFits
  refine ⟨after, otherAfter, observed, otherObserved,
    configured.rates unrefused bounded observed fits fitted,
    otherConfigured.rates unrefused bounded otherObserved otherFits otherFitted, ?_⟩
  intro fuller grown
  have severity := settings.severity_mono fuller grown
  have feedback := configured.feedback_eq bounded observed fits fitted
  have otherFeedback := otherConfigured.feedback_eq bounded otherObserved otherFits otherFitted
  have shift : other.shift = sampler.shift :=
    Except.ok.inj (otherConfigured.shift.symm.trans configured.shift)
  rw [UInt8.le_iff_toNat_le, configured.level_eq unrefused bounded observed,
    otherConfigured.level_eq unrefused bounded otherObserved, shift]
  apply settings.levelOf_mono
  omega

/-- A sampler with the settings that are given by default, some bytes that wait, and some that did
at the last sample. -/
def watching (occupancy lastSample : UInt64) : Sampler where
  settings := {}
  shift := 11
  topLevel := 63
  occupancy := occupancy
  lastSample := lastSample
  countdown := 100

theorem watching_configured (occupancy lastSample : UInt64) :
    (watching occupancy lastSample).Configured {} := by
  have shift : ({} : Settings).resolvedShift = .ok 11 := by decide
  have topLevel : ({} : Settings).topLevel = 63 := by decide
  exact ⟨rfl, shift, topLevel.symm⟩

/-- A second sampler that holds more, and held less at its last sample. -/
theorem watching_levels_ordered :
    (watching 40000 39000).Configured {} ∧ (watching 90000 30000).Configured {} ∧
      ({} : Settings).refusal? = none ∧ ({} : Settings).exactBound < 2 ^ 63 ∧
      ((watching 40000 39000).occupancy + (1500 : UInt32).toUInt64).toNat < 2 ^ 63 ∧
      (watching 40000 39000).lastSample.toNat < 2 ^ 63 ∧
      ((watching 90000 30000).occupancy + (600 : UInt32).toUInt64).toNat < 2 ^ 63 ∧
      (watching 90000 30000).lastSample.toNat < 2 ^ 63 ∧
      (∃ after otherAfter, (watching 40000 39000).observe 1500 0 = .ok after ∧
        (watching 90000 30000).observe 600 0 = .ok otherAfter ∧
        (watching 40000 39000).Rates {} 1500 after ∧
        (watching 90000 30000).Rates {} 600 otherAfter ∧
        (after.occupancy ≤ otherAfter.occupancy →
          (watching 90000 30000).lastSample ≤ (watching 40000 39000).lastSample →
            after.level ≤ otherAfter.level)) ∧
      ((watching 40000 39000).observe 1500 0).map Sampler.level = .ok 6 ∧
      ((watching 90000 30000).observe 600 0).map Sampler.level = .ok 63 :=
  ⟨watching_configured _ _, watching_configured _ _, by decide, by decide, by decide, by decide,
    by decide, by decide,
    (watching_configured 40000 39000).levels_ordered (watching_configured 90000 30000) (by decide)
      (by decide) (by decide) (by decide) (by decide) (by decide) 0 0, by decide, by decide⟩

end Sampler

end TrafficShaper.Congestion
