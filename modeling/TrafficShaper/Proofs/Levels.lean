/-
How the levels lie on the feedback. The automatic shift is the largest one that still brings the
strongest feedback to the top level, and it leaves no level out.
-/

import TrafficShaper.Proofs.Severity

namespace TrafficShaper.Congestion

/-- A level up to the top and the bound is within the bound when it is shifted up by the logarithm
of the quotient. -/
theorem mul_two_pow_log2_le {bound top level : Nat} (positive : 0 < top)
    (within : level ≤ min bound top) : level * 2 ^ Nat.log2 (bound / top) ≤ bound := by
  by_cases enough : top ≤ bound
  · have power := Nat.log2_self_le (Nat.div_pos enough positive).ne'
    rw [Nat.le_div_iff_mul_le positive] at power
    calc level * 2 ^ Nat.log2 (bound / top) ≤ top * 2 ^ Nat.log2 (bound / top) :=
          Nat.mul_le_mul_right _ (by omega)
      _ ≤ bound := by rwa [Nat.mul_comm]
  · rw [Nat.div_eq_of_lt (Nat.not_le.mp enough), Nat.log2_zero, Nat.pow_zero]
    omega

/-- A bound is below the top after any larger shift. -/
theorem shiftRight_lt_of_log2_lt {bound top shift : Nat} (positive : 0 < top)
    (larger : Nat.log2 (bound / top) < shift) : bound >>> shift < top := by
  have quotient : bound / top < 2 ^ shift := by
    calc bound / top < 2 ^ (Nat.log2 (bound / top) + 1) := Nat.lt_log2_self
      _ ≤ 2 ^ shift := Nat.pow_le_pow_right (by decide) larger
  rw [Nat.div_lt_iff_lt_mul positive] at quotient
  rw [Nat.shiftRight_eq_div_pow, Nat.div_lt_iff_lt_mul (Nat.two_pow_pos shift)]
  rwa [Nat.mul_comm]

namespace Settings

variable {settings : Settings} {shift : UInt8}

/-- Each number up to the bound is made up of bytes above the equilibrium and weighted growth, and
the growth is no more than the equilibrium. -/
theorem exists_parts {magnitude : Nat} (within : magnitude ≤ settings.exactBound)
    (bounded : settings.exactBound < 2 ^ 63) :
    ∃ above growth, above + settings.weight.toNat * growth = magnitude ∧
      growth ≤ settings.equilibrium.toNat ∧ settings.equilibrium.toNat + above < 2 ^ 63 := by
  have equilibrium := settings.equilibrium.toNat_lt
  have weight := settings.weight.toNat_lt
  by_cases weightless : settings.weight.toNat = 0
  · rw [exactBound, weightless] at within
    exact ⟨magnitude, 0, by omega, by omega, by omega⟩
  · by_cases small : magnitude / settings.weight.toNat ≤ settings.equilibrium.toNat
    · have rest := Nat.mod_lt magnitude (Nat.pos_of_ne_zero weightless)
      exact ⟨magnitude % settings.weight.toNat, magnitude / settings.weight.toNat,
        Nat.mod_add_div _ _, small, by omega⟩
    · have grown : settings.weight.toNat * settings.equilibrium.toNat ≤ magnitude := by
        rw [Nat.mul_comm]
        exact Nat.mul_le_of_le_div _ _ _ (Nat.le_of_not_le small)
      have more : settings.equilibrium.toNat ≤
          settings.weight.toNat * settings.equilibrium.toNat := by
        apply Nat.le_mul_of_pos_left
        omega
      exact ⟨magnitude - settings.weight.toNat * settings.equilibrium.toNat,
        settings.equilibrium.toNat, by omega, Nat.le_refl _, by omega⟩

/-- Each number up to the bound is a severity. -/
theorem exists_severity {magnitude : Nat} (within : magnitude ≤ settings.exactBound)
    (bounded : settings.exactBound < 2 ^ 63) :
    ∃ occupancy lastSample, settings.severity occupancy lastSample = magnitude ∧
      occupancy.toNat < 2 ^ 63 ∧ lastSample.toNat < 2 ^ 63 := by
  obtain ⟨above, growth, parts, grown, fits⟩ := exists_parts within bounded
  have occupancy : (UInt64.ofNat (settings.equilibrium.toNat + above)).toNat =
      settings.equilibrium.toNat + above := by
    apply UInt64.toNat_ofNat_of_lt'
    simp only [UInt64.size]
    omega
  have lastSample : (UInt64.ofNat (settings.equilibrium.toNat + above - growth)).toNat =
      settings.equilibrium.toNat + above - growth := by
    apply UInt64.toNat_ofNat_of_lt'
    simp only [UInt64.size]
    omega
  refine ⟨UInt64.ofNat (settings.equilibrium.toNat + above),
    UInt64.ofNat (settings.equilibrium.toNat + above - growth), ?_, by omega, by omega⟩
  have difference : ((settings.equilibrium.toNat + above : Nat) : Int) -
      (settings.equilibrium.toNat + above - growth : Nat) = growth := by
    omega
  rw [severity, occupancy, lastSample, difference, ← parts]
  push_cast
  omega

/-- A feedback is reported as a level: there are packets that meet with the feedback, and each of
them is given the level. -/
structure Reports (settings : Settings) (feedback : Int) (level : Nat) : Prop where
  met : ∃ sampler length draw after, Sampler.Configured sampler settings ∧
    sampler.observe length draw = .ok after ∧ after.feedback.toInt = feedback
  given : ∀ sampler length draw after, Sampler.Configured sampler settings →
    sampler.observe length draw = .ok after → after.feedback.toInt = feedback →
      after.level.toNat = level

/-- Each feedback down to the bound is reported as the level of its magnitude. -/
theorem reports_levelOf (unrefused : settings.refusal? = none)
    (bounded : settings.exactBound < 2 ^ 63) (resolved : settings.resolvedShift = .ok shift)
    {magnitude : Nat} (within : magnitude ≤ settings.exactBound) :
    settings.Reports (-magnitude) (settings.levelOf shift.toNat magnitude) := by
  constructor
  case met =>
    obtain ⟨occupancy, lastSample, severity, fits, fitted⟩ := exists_severity within bounded
    let sampler : Sampler :=
      { settings, shift, topLevel := settings.topLevel, occupancy, lastSample, countdown := 0 }
    have configured : sampler.Configured settings := ⟨rfl, resolved, rfl⟩
    obtain ⟨after, observed, -⟩ := Sampler.observe_inRange configured unrefused bounded 0 0
    have same : after.occupancy = occupancy :=
      (Sampler.observe_frame observed).2.2.2.trans (UInt64.add_zero occupancy)
    have feedback := configured.feedback_eq bounded observed (by rwa [same]) fitted
    refine ⟨sampler, 0, 0, after, configured, observed, ?_⟩
    rw [feedback, same, severity]
    omega
  case given =>
    intro sampler length draw after configured observed met
    have same : sampler.shift = shift := Except.ok.inj (configured.shift.symm.trans resolved)
    rw [configured.level_eq unrefused bounded observed, same, met, Int.neg_neg, Int.toNat_natCast]

/-- How a shift spreads the levels over the feedback. -/
structure SpreadBy (settings : Settings) (shift : UInt8) : Prop where
  /-- A bound of the top level or more is reported as just the top level, and with any larger shift
  it would not be. -/
  large : 2 ^ settings.bits.toNat - 1 ≤ settings.exactBound →
    2 ^ settings.bits.toNat - 1 ≤ settings.exactBound >>> shift.toNat ∧
      settings.Reports (-settings.exactBound) (2 ^ settings.bits.toNat - 1) ∧
      (∀ larger, shift.toNat < larger →
        settings.exactBound >>> larger < 2 ^ settings.bits.toNat - 1) ∧
      ∀ larger, shift < larger → refusal? { settings with shift := .fixed larger } = none →
        ∃ level < 2 ^ settings.bits.toNat - 1,
          Reports { settings with shift := .fixed larger } (-settings.exactBound) level
  /-- A bound below the top level is reported as it is. -/
  small : settings.exactBound < 2 ^ settings.bits.toNat - 1 →
    shift = 0 ∧ settings.Reports (-settings.exactBound) settings.exactBound
  /-- No level up to the top level and the bound is left out. -/
  complete : ∀ level, level ≤ min settings.exactBound (2 ^ settings.bits.toNat - 1) →
    ∃ feedback : Int, -settings.exactBound ≤ feedback ∧ feedback ≤ 0 ∧
      settings.Reports feedback level

/-- The automatic shift is found. It is the largest at which the bound has the top level, or zero if
the bound is smaller than that, and with it no level is left out. -/
theorem spreadBy_auto (unrefused : settings.refusal? = none)
    (bounded : settings.exactBound < 2 ^ 63) (policy : settings.shift = .auto) :
    ∃ shift, settings.resolvedShift = .ok shift ∧ settings.SpreadBy shift := by
  obtain ⟨shift, resolved, -, logarithm⟩ := resolvedShift_auto unrefused bounded policy
  have positive : 0 < 2 ^ settings.bits.toNat - 1 := by
    rw [← topLevel_toNat unrefused]
    exact topLevel_pos unrefused
  refine ⟨shift, resolved, ?_⟩
  constructor
  case large =>
    intro enough
    have whole := mul_two_pow_log2_le positive
      (Nat.le_min.mpr ⟨enough, Nat.le_refl (2 ^ settings.bits.toNat - 1)⟩)
    rw [← logarithm, ← Nat.le_div_iff_mul_le (Nat.two_pow_pos _),
      ← Nat.shiftRight_eq_div_pow] at whole
    have beyond (larger : Nat) (above : shift.toNat < larger) :
        settings.exactBound >>> larger < 2 ^ settings.bits.toNat - 1 := by
      apply shiftRight_lt_of_log2_lt positive
      rwa [← logarithm]
    have reported := reports_levelOf unrefused bounded resolved (Nat.le_refl settings.exactBound)
    rw [levelOf, Nat.min_eq_right whole] at reported
    refine ⟨whole, reported, beyond, ?_⟩
    intro larger above accepted
    rw [UInt8.lt_iff_toNat_lt] at above
    refine ⟨settings.levelOf larger.toNat settings.exactBound, ?_,
      reports_levelOf accepted bounded rfl (Nat.le_refl settings.exactBound)⟩
    have lower := beyond larger.toNat above
    unfold levelOf
    omega
  case small =>
    intro little
    have none : shift = 0 := by
      apply UInt8.toNat_inj.mp
      rw [logarithm, Nat.div_eq_of_lt little]
      rfl
    have reported := reports_levelOf unrefused bounded resolved (Nat.le_refl settings.exactBound)
    rw [none, levelOf, UInt8.toNat_zero, Nat.shiftRight_zero,
      Nat.min_eq_left (Nat.le_of_lt little)] at reported
    exact ⟨none, reported⟩
  case complete =>
    intro level within
    have shifted := mul_two_pow_log2_le positive within
    rw [← logarithm] at shifted
    have reported := reports_levelOf unrefused bounded resolved shifted
    rw [levelOf, Nat.shiftRight_eq_div_pow, Nat.mul_div_cancel level (Nat.two_pow_pos _),
      Nat.min_eq_left (by omega)] at reported
    exact ⟨_, by omega, by omega, reported⟩

/-- The settings that are given by default shift by eleven bits. -/
theorem default_spreadBy :
    ({} : Settings).refusal? = none ∧ ({} : Settings).exactBound < 2 ^ 63 ∧
      ({} : Settings).shift = .auto ∧ ({} : Settings).resolvedShift = .ok 11 ∧
      ({} : Settings).SpreadBy 11 := by
  have unrefused : ({} : Settings).refusal? = none := by decide
  have bounded : ({} : Settings).exactBound < 2 ^ 63 := by decide
  have eleven : ({} : Settings).resolvedShift = .ok 11 := by decide
  obtain ⟨shift, resolved, spread⟩ := spreadBy_auto unrefused bounded rfl
  obtain rfl := Except.ok.inj (eleven.symm.trans resolved)
  exact ⟨unrefused, bounded, rfl, eleven, spread⟩

example :
    exactBound { equilibrium := 7, weight := 1 } = 21 ∧
      resolvedShift { equilibrium := 7, weight := 1 } = .ok 0 := by
  decide

end Settings

end TrafficShaper.Congestion
