/-
The settings of a congestion point that are accepted on their own. They always have a table of
intervals and a top level. Their feedback bound is the exact product as long as the product fits
in a signed word; nothing in the settings makes sure that it does.
-/

import TrafficShaper.Congestion.Settings
import TrafficShaper.Proofs.Words

namespace TrafficShaper.Congestion.Settings

variable {settings : Settings}

/-- The strongest feedback, in magnitude, as an exact number. -/
def exactBound (settings : Settings) : Nat :=
  settings.equilibrium.toNat * (2 * settings.weight.toNat + 1)

/-- Settings without a reason to refuse them meet each demand. -/
theorem demands_of_refusal_none (unrefused : settings.refusal? = none) :
    settings.equilibrium ≠ 0 ∧ (1 ≤ settings.bits.toNat ∧ settings.bits.toNat ≤ 8) ∧
      settings.shiftTooLarge = false ∧ settings.intervals ≠ [] := by
  unfold refusal? at unrefused
  split at unrefused
  · contradiction
  rename_i equilibrium
  split at unrefused
  · contradiction
  rename_i width
  split at unrefused
  · contradiction
  rename_i shift
  split at unrefused
  · contradiction
  rename_i intervals
  simp only [UInt8.lt_iff_toNat_lt, UInt8.toNat_ofNat] at width
  exact ⟨equilibrium, by omega, by simpa using shift, fun none => intervals (.inl none)⟩

/-- The factor of the weight never wraps. -/
theorem weightFactor_toInt (weight : UInt32) :
    (2 * Int64.ofNat weight.toNat + 1).toInt = 2 * weight.toNat + 1 := by
  have bound := weight.toNat_lt
  have two : (2 : Int64).toInt = 2 := rfl
  have one : (1 : Int64).toInt = 1 := rfl
  have word := halfWord_toInt weight
  have double : (2 * Int64.ofNat weight.toNat).toInt = 2 * weight.toNat := by
    rw [mul_toInt] <;> rw [two, word] <;> omega
  rw [add_toInt] <;> rw [double, one]
  all_goals omega

/-- The bound is the exact product when the product fits in a signed word, and only then. -/
theorem feedbackBound_exact_iff (settings : Settings) :
    settings.feedbackBound.toInt = settings.exactBound ↔ settings.exactBound < 2 ^ 63 := by
  have product : (Int64.ofNat settings.equilibrium.toNat).toInt *
      (2 * Int64.ofNat settings.weight.toNat + 1).toInt = settings.exactBound := by
    rw [halfWord_toInt, weightFactor_toInt, exactBound]
    norm_cast
  constructor
  · intro exact
    have bound := settings.feedbackBound.toInt_lt
    omega
  · intro fits
    rw [feedbackBound, mul_toInt] <;> rw [product]
    all_goals omega

theorem topLevel_toNat (unrefused : settings.refusal? = none) :
    settings.topLevel.toNat = 2 ^ settings.bits.toNat - 1 := by
  have width := (demands_of_refusal_none unrefused).2.1
  have bound : 2 ^ settings.bits.toNat ≤ 2 ^ 8 := Nat.pow_le_pow_right (by decide) width.2
  rw [topLevel, Nat.mod_eq_of_lt (by omega), Nat.one_shiftLeft]
  exact UInt8.toNat_ofNat_of_lt' (by simp only [UInt8.size]; omega)

/-- There is at least one level above none. -/
theorem topLevel_pos (unrefused : settings.refusal? = none) : 0 < settings.topLevel.toNat := by
  have width := (demands_of_refusal_none unrefused).2.1
  have bound : 2 ^ 1 ≤ 2 ^ settings.bits.toNat := Nat.pow_le_pow_right (by decide) width.1
  rw [topLevel_toNat unrefused]
  omega

/-- The automatic shift is the logarithm of the number of times that the top level goes into an
exact bound. -/
theorem resolvedShift_auto (unrefused : settings.refusal? = none)
    (fits : settings.exactBound < 2 ^ 63) (policy : settings.shift = .auto) :
    ∃ shift, settings.resolvedShift = .ok shift ∧ shift.toNat < 64 ∧
      shift.toNat = Nat.log2 (settings.exactBound / (2 ^ settings.bits.toNat - 1)) := by
  have levels := topLevel_pos unrefused
  have exact := (feedbackBound_exact_iff settings).mpr fits
  have some : settings.topLevel ≠ 0 := by
    rintro none
    rw [none] at levels
    contradiction
  have ratio : settings.feedbackBound.toInt.tdiv settings.topLevel.toNat =
      (settings.exactBound / (2 ^ settings.bits.toNat - 1) : Nat) := by
    rw [exact, topLevel_toNat unrefused, Int.ofNat_tdiv]
  have less := Nat.div_le_self settings.exactBound (2 ^ settings.bits.toNat - 1)
  have logarithm : Nat.log2 (settings.exactBound / (2 ^ settings.bits.toNat - 1)) < 64 := by
    by_cases zero : settings.exactBound / (2 ^ settings.bits.toNat - 1) = 0
    · rw [zero]
      decide
    · rw [Nat.log2_lt zero]
      omega
  have word := UInt8.toNat_ofNat_of_lt'
    (show Nat.log2 (settings.exactBound / (2 ^ settings.bits.toNat - 1)) < UInt8.size by
      simp only [UInt8.size]; omega)
  refine ⟨_, ?_, by rw [word]; exact logarithm, word⟩
  unfold resolvedShift
  rw [policy]
  dsimp only
  rw [if_neg some, ratio, if_neg (Int.not_lt.mpr (Int.natCast_nonneg _)), Int.toNat_natCast]

/-- A shift is found when the bound is exact, and it leaves some bits of a word. -/
theorem resolvedShift_ok (unrefused : settings.refusal? = none)
    (fits : settings.exactBound < 2 ^ 63) :
    ∃ shift, settings.resolvedShift = .ok shift ∧ shift.toNat < 64 := by
  have small := (demands_of_refusal_none unrefused).2.2.1
  cases policy : settings.shift with
  | fixed amount =>
      simp only [shiftTooLarge, policy, decide_eq_false_iff_not, UInt8.le_iff_toNat_le,
        UInt8.toNat_ofNat] at small
      have resolved : settings.resolvedShift = .ok amount := by
        rw [resolvedShift, policy]
      exact ⟨amount, resolved, by omega⟩
  | auto =>
      obtain ⟨shift, resolved, short, -⟩ := resolvedShift_auto unrefused fits policy
      exact ⟨shift, resolved, short⟩

theorem firstInterval_ok (unrefused : settings.refusal? = none) :
    ∃ interval, settings.firstInterval = .ok interval := by
  have table := (demands_of_refusal_none unrefused).2.2.2
  unfold firstInterval
  cases entries : settings.intervals with
  | nil => contradiction
  | cons first rest => exact ⟨_, rfl⟩

/-- The first interval is the first entry of the table. -/
theorem firstInterval_head {interval : Int64} (found : settings.firstInterval = .ok interval) :
    ∃ first, settings.intervals.head? = some first ∧ interval.toInt = first.toNat := by
  unfold firstInterval at found
  split at found
  · contradiction
  · rename_i first rest entries
    obtain rfl := Except.ok.inj found
    rw [entries]
    exact ⟨first, rfl, halfWord_toInt first⟩

/-- Each level has an interval. -/
theorem intervalAfter_ok (unrefused : settings.refusal? = none) (topLevel level : UInt8)
    (draw : UInt64) : ∃ interval, settings.intervalAfter topLevel level draw = .ok interval := by
  have table := List.length_pos_iff.mpr (demands_of_refusal_none unrefused).2.2.2
  have inRange : min (settings.intervalIndex topLevel level) (settings.intervals.length - 1) <
      settings.intervals.length := by
    omega
  unfold intervalAfter
  dsimp only
  rw [List.getElem?_eq_getElem inRange]
  exact ⟨_, rfl⟩

end TrafficShaper.Congestion.Settings
