/-
What a sampler answers under settings that are accepted and whose feedback bound is exact. It
always answers, the feedback stays within the bound, and the level within its width.
-/

import TrafficShaper.Proofs.SetUp
import TrafficShaper.Proofs.Settings

namespace TrafficShaper.Congestion.Sampler

variable {sampler after : Sampler} {settings : Settings}

/-- The feedback is between the bound and zero, and the level fits in its width. -/
structure InRange (sampler : Sampler) (settings : Settings) : Prop where
  bounded : -(settings.exactBound : Int) ≤ sampler.feedback.toInt
  nonpositive : sampler.feedback.toInt ≤ 0
  level : sampler.level.toNat ≤ 2 ^ settings.bits.toNat - 1

/-- The offset is the difference as a signed word. -/
theorem offset_toInt (sampler : Sampler) :
    sampler.offset.toInt =
      ((sampler.settings.equilibrium.toNat : Int) - sampler.occupancy.toNat).bmod (2 ^ 64) := by
  rw [offset, Int64.toInt_sub, halfWord_toInt, signedWord_toInt, Int.sub_bmod_bmod]

/-- The growth is the difference as a signed word. -/
theorem growth_toInt (sampler : Sampler) :
    sampler.growth.toInt =
      ((sampler.occupancy.toNat : Int) - sampler.lastSample.toNat).bmod (2 ^ 64) := by
  rw [growth, Int64.toInt_sub, signedWord_toInt, signedWord_toInt, Int.sub_bmod_bmod,
    Int.bmod_sub_bmod]

theorem offset_exact (fits : sampler.occupancy.toNat < 2 ^ 63) :
    sampler.offset.toInt =
      (sampler.settings.equilibrium.toNat : Int) - sampler.occupancy.toNat := by
  have bound := sampler.settings.equilibrium.toNat_lt
  rw [offset_toInt]
  exact Int.bmod_eq_of_le (by omega) (by omega)

theorem growth_exact (fits : sampler.occupancy.toNat < 2 ^ 63)
    (fitted : sampler.lastSample.toNat < 2 ^ 63) :
    sampler.growth.toInt = (sampler.occupancy.toNat : Int) - sampler.lastSample.toNat := by
  rw [growth_toInt]
  exact Int.bmod_eq_of_le (by omega) (by omega)

/-- The level of a feedback is its shifted magnitude, cut off at the top level. Only the least word
has no magnitude. -/
theorem quantize_toNat (sampler : Sampler) {feedback : Int64} (notLeast : -2 ^ 63 < feedback.toInt)
    (nonpositive : feedback.toInt ≤ 0) :
    (sampler.quantize feedback).toNat =
      min ((-feedback.toInt).toNat >>> (sampler.shift.toNat % 64)) sampler.topLevel.toNat := by
  have magnitude := neg_toInt notLeast
  have top := sampler.topLevel.toNat_lt
  have least := Nat.min_le_right ((-feedback.toInt).toNat >>> (sampler.shift.toNat % 64))
    sampler.topLevel.toNat
  have shifted : (shiftDown (-feedback) sampler.shift).toInt =
      ((-feedback.toInt).toNat >>> (sampler.shift.toNat % 64) : Nat) := by
    rw [shiftDown_toInt (by omega), magnitude, Nat.shiftRight_eq_div_pow, Int.natCast_ediv,
      Int.toNat_of_nonneg (by omega)]
    norm_cast
  rw [quantize, shifted, ← Nat.cast_min]
  generalize min ((-feedback.toInt).toNat >>> (sampler.shift.toNat % 64))
    sampler.topLevel.toNat = level at least ⊢
  rw [UInt8.ofInt, UInt8.toNat_ofNat_of_lt']
  · omega
  · simp only [UInt8.size]
    omega

/-- Any value can be clamped to an exact bound. -/
theorem clampWithin_feedbackBound (fits : settings.exactBound < 2 ^ 63) (value : Int64) :
    ∃ feedback, clampWithin value (-settings.feedbackBound) 0 = .ok feedback ∧
      feedback.toInt = max (-(settings.exactBound : Int)) (min 0 value.toInt) := by
  have exact := settings.feedbackBound_exact_iff.mpr fits
  have floor : (-settings.feedbackBound).toInt = -(settings.exactBound : Int) := by
    rw [neg_toInt (by omega), exact]
  have ordered : -settings.feedbackBound ≤ 0 := by
    rw [Int64.le_iff_toInt_le, floor, Int64.toInt_zero]
    omega
  have clamped : ∃ feedback, clampWithin value (-settings.feedbackBound) 0 = .ok feedback ∧
      feedback.toInt = max (-settings.feedbackBound).toInt (min (0 : Int64).toInt value.toInt) :=
    clampWithin_ok ordered
  rwa [floor, Int64.toInt_zero] at clamped

/-- Each packet is counted, and then the feedback and its level are in range. -/
theorem count_inRange (configured : sampler.Configured settings)
    (unrefused : settings.refusal? = none) (fits : settings.exactBound < 2 ^ 63)
    (length : UInt32) :
    ∃ after, sampler.count length = .ok after ∧ after.InRange settings := by
  obtain ⟨rfl, -, top⟩ := configured
  obtain ⟨feedback, clamped, exact⟩ := clampWithin_feedbackBound fits
    ({ sampler with occupancy := sampler.occupancy + length.toUInt64 }.rawFeedback)
  have notLeast : -2 ^ 63 < feedback.toInt := by omega
  have level := sampler.quantize_toNat notLeast (by omega)
  rw [top, Settings.topLevel_toNat unrefused] at level
  unfold count
  dsimp only
  rw [clamped]
  exact ⟨_, rfl, by dsimp only; omega, by dsimp only; omega, by dsimp only; omega⟩

/-- Each packet is observed, and then the feedback and its level are in range. -/
theorem observe_inRange (configured : sampler.Configured settings)
    (unrefused : settings.refusal? = none) (fits : settings.exactBound < 2 ^ 63)
    (length : UInt32) (draw : UInt64) :
    ∃ after, sampler.observe length draw = .ok after ∧ after.InRange settings := by
  obtain ⟨counted, found, inRange⟩ := count_inRange configured unrefused fits length
  have same := (count_frame found).1.trans configured.same
  unfold observe
  rw [found]
  dsimp only
  split
  · obtain ⟨interval, answered⟩ :=
      Settings.intervalAfter_ok unrefused counted.topLevel counted.level draw
    unfold sample
    rw [same, answered]
    exact ⟨_, rfl, inRange.bounded, inRange.nonpositive, inRange.level⟩
  · exact ⟨counted, rfl, inRange⟩

theorem reset_answers (configured : sampler.Configured settings)
    (unrefused : settings.refusal? = none) : ∃ after, sampler.reset = .ok after := by
  obtain ⟨interval, found⟩ := Settings.firstInterval_ok unrefused
  unfold reset
  rw [configured.same, found]
  exact ⟨_, rfl⟩

theorem create_answers (unrefused : settings.refusal? = none)
    (fits : settings.exactBound < 2 ^ 63) : ∃ sampler, create settings = .ok sampler := by
  obtain ⟨shift, resolved, -⟩ := Settings.resolvedShift_ok unrefused fits
  refine bind_answers ⟨shift, resolved⟩ ?_
  intro shift
  exact bind_answers (Settings.firstInterval_ok unrefused) fun _ => ⟨_, rfl⟩

theorem reconfigure_answers (sampler : Sampler) (unrefused : settings.refusal? = none)
    (fits : settings.exactBound < 2 ^ 63) :
    ∃ after, sampler.reconfigure settings = .ok after := by
  obtain ⟨shift, resolved, -⟩ := Settings.resolvedShift_ok unrefused fits
  refine bind_answers ⟨shift, resolved⟩ ?_
  intro shift
  exact bind_answers (Settings.firstInterval_ok unrefused) fun _ => ⟨_, rfl⟩

end TrafficShaper.Congestion.Sampler
