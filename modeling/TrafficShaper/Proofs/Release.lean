/-
The buckets read as exact integers. A packet is released when both buckets can pay for it, and a
refused one is told the first tick at which they can; no word wraps on the way.
-/

import TrafficShaper.Bucket
import TrafficShaper.Proofs.Plan

namespace TrafficShaper.Bucket

/-- The buckets are within their depths, and were last counted at some tick from zero up to now. -/
structure Sound (bucket : Bucket) (now : Ticks) : Prop where
  plan : bucket.plan.Sound
  tokens_nonneg : 0 ≤ bucket.tokens.toInt
  tokens_le : bucket.tokens.toInt ≤ bucket.plan.depth.toInt
  peakTokens_nonneg : 0 ≤ bucket.peakTokens.toInt
  peakTokens_le : bucket.peakTokens.toInt ≤ bucket.plan.peakDepth.toInt
  checkpoint_nonneg : 0 ≤ bucket.checkpoint.toInt
  checkpoint_le : bucket.checkpoint.toInt ≤ now.toInt

/-- The buckets are within their depths, whatever the clock shows. -/
structure Filled (bucket : Bucket) : Prop where
  plan : bucket.plan.Sound
  tokens_nonneg : 0 ≤ bucket.tokens.toInt
  tokens_le : bucket.tokens.toInt ≤ bucket.plan.depth.toInt
  peakTokens_nonneg : 0 ≤ bucket.peakTokens.toInt
  peakTokens_le : bucket.peakTokens.toInt ≤ bucket.plan.peakDepth.toInt

/-- The committed tokens at a tick: those of the checkpoint and one for each tick since. -/
def available (bucket : Bucket) (now : Ticks) : Int :=
  min bucket.plan.depth.toInt
    (bucket.tokens.toInt + (now.toInt - bucket.checkpoint.toInt))

/-- The peak tokens at a tick; the time since the checkpoint counts up to the committed depth. -/
def peakAvailable (bucket : Bucket) (now : Ticks) : Int :=
  min bucket.plan.peakDepth.toInt
    (bucket.peakTokens.toInt +
      min bucket.plan.depth.toInt (now.toInt - bucket.checkpoint.toInt))

/-- Both buckets can pay for a packet. -/
def Covers (bucket : Bucket) (length : UInt32) (now : Ticks) : Prop :=
  bucket.plan.charge length ≤ bucket.available now ∧
    bucket.plan.peakCharge length ≤ bucket.peakAvailable now

instance (bucket : Bucket) (length : UInt32) (now : Ticks) :
    Decidable (bucket.Covers length now) := inferInstanceAs (Decidable (_ ∧ _))

/-- The greater of the two deficits. -/
def deficit (bucket : Bucket) (length : UInt32) (now : Ticks) : Int :=
  max (bucket.plan.charge length - bucket.available now)
    (bucket.plan.peakCharge length - bucket.peakAvailable now)

/-- The bucket after a packet was paid for. -/
structure Paid (bucket : Bucket) (length : UInt32) (now : Ticks) (after : Bucket) : Prop where
  plan : after.plan = bucket.plan
  tokens : after.tokens.toInt = bucket.available now - bucket.plan.charge length
  peakTokens : after.peakTokens.toInt = bucket.peakAvailable now - bucket.plan.peakCharge length
  checkpoint : after.checkpoint = now

variable {bucket : Bucket} {now : Ticks}

theorem covers_iff (bucket : Bucket) (length : UInt32) (now : Ticks) :
    bucket.Covers length now ↔ bucket.deficit length now ≤ 0 := by
  unfold Covers deficit
  omega

/-- The clock is not behind zero where buckets are sound. -/
theorem Sound.nonneg (sound : bucket.Sound now) : 0 ≤ now.toInt :=
  Int.le_trans sound.checkpoint_nonneg sound.checkpoint_le

theorem Sound.later (sound : bucket.Sound now) {later : Ticks} (order : now ≤ later) :
    bucket.Sound later :=
  { sound with
    checkpoint_le := Int.le_trans sound.checkpoint_le (Int64.le_iff_toInt_le.mp order) }

theorem Sound.filled (sound : bucket.Sound now) : bucket.Filled :=
  { sound with }

theorem full_filled {plan : Plan} (sound : plan.Sound) (now : Ticks) : (full plan now).Filled where
  plan := sound
  tokens_nonneg := sound.depth
  tokens_le := Int.le_refl _
  peakTokens_nonneg := sound.peakDepth
  peakTokens_le := Int.le_refl _

theorem full_sound {plan : Plan} (sound : plan.Sound) (nonneg : 0 ≤ now.toInt) :
    (full plan now).Sound now :=
  { full_filled sound now with
    checkpoint_nonneg := nonneg
    checkpoint_le := Int.le_refl _ }

theorem available_nonneg (sound : bucket.Sound now) : 0 ≤ bucket.available now := by
  have depth := sound.plan.depth
  have tokens := sound.tokens_nonneg
  have order := sound.checkpoint_le
  unfold available
  omega

theorem available_le (bucket : Bucket) (now : Ticks) :
    bucket.available now ≤ bucket.plan.depth.toInt := Int.min_le_left _ _

theorem peakAvailable_nonneg (sound : bucket.Sound now) : 0 ≤ bucket.peakAvailable now := by
  have depth := sound.plan.depth
  have peakDepth := sound.plan.peakDepth
  have tokens := sound.peakTokens_nonneg
  have order := sound.checkpoint_le
  unfold peakAvailable
  omega

theorem peakAvailable_le (bucket : Bucket) (now : Ticks) :
    bucket.peakAvailable now ≤ bucket.plan.peakDepth.toInt := Int.min_le_left _ _

/-- Nothing costs more time than its committed charge. -/
theorem deficit_le (sound : bucket.Sound now) (length : UInt32) :
    bucket.deficit length now ≤ bucket.plan.charge length := by
  have cheaper := sound.plan.peakCharge_le length
  have nonneg := available_nonneg sound
  have peakNonneg := peakAvailable_nonneg sound
  unfold deficit
  omega

/-- Without a peak rate there are no peak tokens. -/
theorem peakAvailable_of_noPeak (sound : bucket.Sound now) (absent : bucket.plan.peak = none) :
    bucket.peakAvailable now = 0 := by
  have nonneg := peakAvailable_nonneg sound
  have bound := bucket.peakAvailable_le now
  rw [sound.plan.noPeak absent, Int64.toInt_zero] at bound
  exact Int.le_antisymm bound nonneg

/-- A depth that is not negative is all that the elapsed time asks for. -/
theorem elapsed_ok {bucket : Bucket} (depth : 0 ≤ bucket.plan.depth.toInt) (now : Ticks) :
    ∃ elapsed, bucket.elapsed now = .ok elapsed ∧
      elapsed.toInt = max 0 (min bucket.plan.depth.toInt (now - bucket.checkpoint).toInt) :=
  clampWithin_ok (by rw [Int64.le_iff_toInt_le, Int64.toInt_zero]; exact depth)

theorem elapsed_toInt (sound : bucket.Sound now) :
    ∃ elapsed, bucket.elapsed now = .ok elapsed ∧
      elapsed.toInt = min bucket.plan.depth.toInt (now.toInt - bucket.checkpoint.toInt) := by
  obtain ⟨elapsed, counted, value⟩ := elapsed_ok sound.plan.depth now
  have depth := sound.plan.depth
  have nonneg := sound.checkpoint_nonneg
  have order := sound.checkpoint_le
  have bound := now.toInt_lt
  rw [sub_toInt (by omega) (by omega)] at value
  exact ⟨elapsed, counted, by omega⟩

/-- What is left of the committed tokens is exact, since they are capped before the charge. -/
theorem tokensAfter_eq (filled : bucket.Filled) {elapsed : Ticks} (nonneg : 0 ≤ elapsed.toInt)
    (length : UInt32) :
    (bucket.tokensAfter elapsed length).toInt =
      min bucket.plan.depth.toInt (bucket.tokens.toInt + elapsed.toInt) -
        bucket.plan.charge length := by
  have depth := filled.plan.depth
  have depthBound := bucket.plan.depth.toInt_lt
  have tokens := filled.tokens_nonneg
  have chargeNonneg := bucket.plan.charge_nonneg length
  have chargeBound := bucket.plan.charge_lt length
  have capped : (min (saturatingAdd elapsed bucket.tokens) bucket.plan.depth).toInt =
      min bucket.plan.depth.toInt (bucket.tokens.toInt + elapsed.toInt) := by
    rw [min_toInt, saturatingAdd_toInt]
    omega
  rw [tokensAfter, sub_toInt] <;> rw [capped] <;> unfold Plan.charge at *
  all_goals omega

/-- What is left of the peak tokens is exact too; without a peak rate nothing is charged. -/
theorem peakTokensAfter_eq (filled : bucket.Filled) {elapsed : Ticks}
    (nonneg : 0 ≤ elapsed.toInt) (length : UInt32) :
    (bucket.peakTokensAfter elapsed length).toInt =
      min bucket.plan.peakDepth.toInt (bucket.peakTokens.toInt + elapsed.toInt) -
        bucket.plan.peakCharge length := by
  have tokens := filled.peakTokens_nonneg
  unfold peakTokensAfter
  split
  · rename_i absent
    rw [Plan.peakCharge_of_none absent, filled.plan.noPeak absent, Int64.toInt_zero]
    omega
  · rename_i table given
    rw [Plan.peakCharge_of_some given]
    have depth := filled.plan.peakDepth
    have depthBound := bucket.plan.peakDepth.toInt_lt
    have chargeNonneg := table.charge_nonneg length
    have chargeBound := (table.charge length).toInt_lt
    have capped : (min (saturatingAdd elapsed bucket.peakTokens) bucket.plan.peakDepth).toInt =
        min bucket.plan.peakDepth.toInt (bucket.peakTokens.toInt + elapsed.toInt) := by
      rw [min_toInt, saturatingAdd_toInt]
      omega
    rw [sub_toInt] <;> rw [capped]
    all_goals omega

theorem tokensAfter_toInt (sound : bucket.Sound now) {elapsed : Ticks}
    (value : elapsed.toInt = min bucket.plan.depth.toInt
      (now.toInt - bucket.checkpoint.toInt)) (length : UInt32) :
    (bucket.tokensAfter elapsed length).toInt =
      bucket.available now - bucket.plan.charge length := by
  have depth := sound.plan.depth
  have tokens := sound.tokens_nonneg
  have order := sound.checkpoint_le
  rw [tokensAfter_eq sound.filled (by omega), value, available]
  omega

theorem peakTokensAfter_toInt (sound : bucket.Sound now) {elapsed : Ticks}
    (value : elapsed.toInt = min bucket.plan.depth.toInt
      (now.toInt - bucket.checkpoint.toInt)) (length : UInt32) :
    (bucket.peakTokensAfter elapsed length).toInt =
      bucket.peakAvailable now - bucket.plan.peakCharge length := by
  have depth := sound.plan.depth
  have order := sound.checkpoint_le
  rw [peakTokensAfter_eq sound.filled (by omega), value, peakAvailable]

/-- A bucket of a sound plan answers every packet at every tick. -/
theorem release_answers (sound : bucket.plan.Sound) (length : UInt32) (now : Ticks) :
    ∃ answer, bucket.release length now = .ok answer := by
  obtain ⟨elapsed, counted, -⟩ := elapsed_ok sound.depth now
  unfold release
  rw [counted]
  dsimp only
  split
  · exact ⟨_, rfl⟩
  · exact ⟨_, rfl⟩

/-- A packet that both buckets can pay for is released and paid for. -/
theorem release_of_covers (sound : bucket.Sound now) {length : UInt32}
    (covers : bucket.Covers length now) :
    ∃ after, bucket.release length now = .ok (after, .ready) ∧
      bucket.Paid length now after := by
  obtain ⟨elapsed, counted, value⟩ := elapsed_toInt sound
  have tokens := tokensAfter_toInt sound value length
  have peakTokens := peakTokensAfter_toInt sound value length
  have paid : 0 ≤ bucket.tokensAfter elapsed length ∧
      0 ≤ bucket.peakTokensAfter elapsed length := by
    simp only [Int64.le_iff_toInt_le, tokens, peakTokens, Int64.toInt_zero]
    exact ⟨Int.sub_nonneg.mpr covers.1, Int.sub_nonneg.mpr covers.2⟩
  refine ⟨_, by rw [release, counted]; exact if_pos paid, ?_⟩
  exact ⟨rfl, tokens, peakTokens, rfl⟩

/-- The time to wait is the greater deficit; no word wraps when it is worked out. -/
theorem wait_toInt (sound : bucket.Sound now) {elapsed : Ticks}
    (value : elapsed.toInt = min bucket.plan.depth.toInt
      (now.toInt - bucket.checkpoint.toInt)) (length : UInt32) :
    (max (-bucket.tokensAfter elapsed length) (-bucket.peakTokensAfter elapsed length)).toInt =
      bucket.deficit length now := by
  have tokens := tokensAfter_toInt sound value length
  have peakTokens := peakTokensAfter_toInt sound value length
  have tokensNonneg := available_nonneg sound
  have peakNonneg := peakAvailable_nonneg sound
  have chargeBound := bucket.plan.charge_lt length
  have peakChargeBound := bucket.plan.peakCharge_lt length
  rw [max_toInt, neg_toInt (by omega), neg_toInt (by omega), tokens, peakTokens]
  unfold deficit
  omega

/-- Any other packet changes nothing, and is told when the greater deficit is made up. -/
theorem release_of_not_covers (sound : bucket.Sound now) {length : UInt32}
    (lacks : ¬ bucket.Covers length now) :
    ∃ time, bucket.release length now = .ok (bucket, .waitUntil time) ∧
      time.toInt = min (2 ^ 63 - 1) (now.toInt + bucket.deficit length now) := by
  obtain ⟨elapsed, counted, value⟩ := elapsed_toInt sound
  have tokens := tokensAfter_toInt sound value length
  have peakTokens := peakTokensAfter_toInt sound value length
  have unpaid : ¬ (0 ≤ bucket.tokensAfter elapsed length ∧
      0 ≤ bucket.peakTokensAfter elapsed length) := by
    simp only [Int64.le_iff_toInt_le, tokens, peakTokens, Int64.toInt_zero]
    rintro ⟨committed, peak⟩
    exact lacks ⟨Int.sub_nonneg.mp committed, Int.sub_nonneg.mp peak⟩
  refine ⟨_, by rw [release, counted]; exact if_neg unpaid, ?_⟩
  rw [covers_iff] at lacks
  have nonneg := sound.nonneg
  rw [saturatingAdd_toInt, wait_toInt sound value]
  omega

/-- A packet that is released was covered, and is paid for. -/
theorem release_ready (sound : bucket.Sound now) {after : Bucket} {length : UInt32}
    (released : bucket.release length now = .ok (after, .ready)) :
    bucket.Covers length now ∧ bucket.Paid length now after := by
  by_cases covers : bucket.Covers length now
  · obtain ⟨paid, answered, payment⟩ := release_of_covers sound covers
    rw [answered] at released
    obtain ⟨rfl, -⟩ := Prod.mk.inj (Except.ok.inj released)
    exact ⟨covers, payment⟩
  · obtain ⟨time, answered, -⟩ := release_of_not_covers sound covers
    simp [answered] at released

/-- The tick from which both buckets can pay for a packet, if no other leaves before. -/
def due (bucket : Bucket) (length : UInt32) : Int :=
  bucket.checkpoint.toInt +
    max 0 (max (bucket.plan.charge length - bucket.tokens.toInt)
      (bucket.plan.peakCharge length - bucket.peakTokens.toInt))

theorem checkpoint_le_due (bucket : Bucket) (length : UInt32) :
    bucket.checkpoint.toInt ≤ bucket.due length := by
  unfold due
  omega

/-- Buckets that are sound at one tick are sound at each tick since they were last counted. -/
theorem Sound.since (sound : bucket.Sound now) {time : Ticks} (order : bucket.checkpoint ≤ time) :
    bucket.Sound time :=
  { sound with checkpoint_le := Int64.le_iff_toInt_le.mp order }

/-- Both buckets can pay for a packet from its due tick on. The time that counts for the peak
bucket is cut off at the committed depth, but no packet needs more of it. -/
theorem covers_iff_due_le (sound : bucket.Sound now) {length : UInt32}
    (fits : length ≤ bucket.plan.largest) :
    bucket.Covers length now ↔ bucket.due length ≤ now.toInt := by
  have cheaper := sound.plan.peakCharge_le length
  obtain ⟨deep, peakDeep⟩ := sound.plan.payable length fits
  have tokens := sound.tokens_nonneg
  have peakTokens := sound.peakTokens_nonneg
  have order := sound.checkpoint_le
  unfold Covers available peakAvailable due
  omega

/-- What a packet lacks is made up when it is due. -/
theorem add_deficit_eq_due (sound : bucket.Sound now) {length : UInt32}
    (fits : length ≤ bucket.plan.largest) (lacks : ¬ bucket.Covers length now) :
    now.toInt + bucket.deficit length now = bucket.due length := by
  have cheaper := sound.plan.peakCharge_le length
  obtain ⟨deep, peakDeep⟩ := sound.plan.payable length fits
  have tokens := sound.tokens_nonneg
  have peakTokens := sound.peakTokens_nonneg
  have order := sound.checkpoint_le
  rw [covers_iff] at lacks
  unfold deficit available peakAvailable at *
  unfold due
  omega

/-- A packet that has to wait is told when it is due, as far as that tick fits in the word. -/
theorem release_waitUntil (sound : bucket.Sound now) {after : Bucket} {length : UInt32}
    {time : Ticks} (fits : length ≤ bucket.plan.largest)
    (waits : bucket.release length now = .ok (after, .waitUntil time)) :
    time.toInt = min (2 ^ 63 - 1) (bucket.due length) := by
  by_cases covers : bucket.Covers length now
  · obtain ⟨paid, answered, -⟩ := release_of_covers sound covers
    simp [answered] at waits
  · obtain ⟨told, answered, value⟩ := release_of_not_covers sound covers
    rw [answered] at waits
    obtain ⟨-, same⟩ := Prod.mk.inj (Except.ok.inj waits)
    obtain rfl := Release.waitUntil.inj same
    rw [value, add_deficit_eq_due sound fits covers]

/-- A packet that was paid for leaves the buckets within their depths. -/
theorem Paid.sound {after : Bucket} {length : UInt32} (paid : bucket.Paid length now after)
    (sound : bucket.Sound now) (covers : bucket.Covers length now) : after.Sound now := by
  have charge := bucket.plan.charge_nonneg length
  have peakCharge := bucket.plan.peakCharge_nonneg length
  have bound := bucket.available_le now
  have peakBound := bucket.peakAvailable_le now
  have nonneg := sound.nonneg
  obtain ⟨plan, tokens, peakTokens, checkpoint⟩ := paid
  obtain ⟨committed, peak⟩ := covers
  constructor
  case plan => exact plan ▸ sound.plan
  case tokens_nonneg => omega
  case tokens_le => rw [plan]; omega
  case peakTokens_nonneg => omega
  case peakTokens_le => rw [plan]; omega
  case checkpoint_nonneg => rw [checkpoint]; exact nonneg
  case checkpoint_le => exact Int.le_of_eq (by rw [checkpoint])

end TrafficShaper.Bucket
