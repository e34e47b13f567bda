/-
The time that a packet is told to wait for is exact. In every state that a bucket can reach, a packet
that the bucket can ever release is refused before that time, with the same answer each time, and
released from it on.
-/

import TrafficShaper.Proofs.Release

namespace TrafficShaper.Bucket

/-- A bucket is reached from a full one by attempts, resets and new plans at clock readings from
zero up that do not decrease. The tick is the last clock reading. -/
inductive Reached : Bucket → Ticks → Prop where
  | full {configuration : Configuration} {plan : Plan} {now : Ticks}
      (accepted : configuration.plan = .ok plan) (nonneg : 0 ≤ now) : Reached (full plan now) now
  | attempted {bucket after : Bucket} {last now : Ticks} {length : UInt32} {answer : Release}
      (reached : Reached bucket last) (order : last ≤ now)
      (attempt : bucket.release length now = .ok (after, answer)) : Reached after now
  | reset {bucket : Bucket} {last now : Ticks} (reached : Reached bucket last)
      (order : last ≤ now) : Reached (bucket.reset now) now
  | replanned {bucket : Bucket} {last now : Ticks} {configuration : Configuration} {plan : Plan}
      (reached : Reached bucket last) (order : last ≤ now)
      (accepted : configuration.plan = .ok plan) : Reached (Bucket.full plan now) now

variable {bucket after : Bucket} {last now retry : Ticks} {length : UInt32} {answer : Release}

/-- An attempt leaves the buckets within their depths, whatever its answer. -/
theorem Sound.attempt (sound : bucket.Sound now)
    (attempt : bucket.release length now = .ok (after, answer)) : after.Sound now := by
  cases answer with
  | ready =>
      obtain ⟨covers, paid⟩ := release_ready sound attempt
      exact paid.sound sound covers
  | waitUntil time => rwa [release_waitUntil_unchanged attempt]

theorem Reached.sound (reached : bucket.Reached now) : bucket.Sound now := by
  induction reached with
  | full accepted nonneg =>
      exact full_sound (Configuration.plan_sound accepted)
        (by simpa [Int64.le_iff_toInt_le] using nonneg)
  | attempted _ order attempt ih => exact (ih.later order).attempt attempt
  | reset _ order ih => exact full_sound ih.plan (ih.later order).nonneg
  | replanned _ order accepted ih =>
      exact full_sound (Configuration.plan_sound accepted) (ih.later order).nonneg

/-- A packet is due no later than after the time that it costs. -/
theorem due_le (sound : bucket.Sound now) (fits : length ≤ bucket.plan.largest)
    (lacks : ¬ bucket.Covers length now) :
    bucket.due length ≤ now.toInt + bucket.plan.charge length := by
  have due := add_deficit_eq_due sound fits lacks
  have bound := deficit_le sound length
  omega

/-- Before its due tick a packet is refused and told this tick, as long as the tick fits in the
word. -/
theorem release_of_lt_due (sound : bucket.Sound now) (fits : length ≤ bucket.plan.largest)
    (exact : retry.toInt = bucket.due length) (early : now < retry) :
    bucket.release length now = .ok (bucket, .waitUntil retry) := by
  rw [Int64.lt_iff_toInt_lt] at early
  have lacks : ¬ bucket.Covers length now := by
    rw [covers_iff_due_le sound fits]
    omega
  obtain ⟨time, waits, value⟩ := release_of_not_covers sound lacks
  have bound := retry.toInt_lt
  rw [add_deficit_eq_due sound fits lacks] at value
  have same : time = retry := Int64.toInt_inj.mp (by omega)
  rw [waits, same]

/-- From its due tick on a packet is released. -/
theorem release_of_due_le (sound : bucket.Sound now) (fits : length ≤ bucket.plan.largest)
    (due : bucket.due length ≤ now.toInt) :
    ∃ paid, bucket.release length now = .ok (paid, .ready) := by
  obtain ⟨paid, ready, -⟩ :=
    release_of_covers sound ((covers_iff_due_le sound fits).mpr due)
  exact ⟨paid, ready⟩

/-- Every attempt is answered. A packet that is told to wait is told a later time; until then it is
refused and told the same time, and from then on it is released. -/
theorem Reached.retry_exact (reached : bucket.Reached last)
    (fits : length ≤ bucket.plan.largest) (since : bucket.checkpoint ≤ now)
    (inTime : now.toInt + (bucket.plan.committed.charge length).toInt ≤ Int64.maxValue.toInt) :
    ∃ after answer, bucket.release length now = .ok (after, answer) ∧
      ∀ retry, answer = .waitUntil retry →
        now < retry ∧
        (∀ time, now ≤ time → time < retry →
          bucket.release length time = .ok (bucket, .waitUntil retry)) ∧
        ∀ time, retry ≤ time → ∃ paid, bucket.release length time = .ok (paid, .ready) := by
  have sound := reached.sound.since since
  by_cases covers : bucket.Covers length now
  · obtain ⟨paid, ready, -⟩ := release_of_covers sound covers
    exact ⟨paid, .ready, ready, by simp⟩
  · obtain ⟨deadline, waits, -⟩ := release_of_not_covers sound covers
    refine ⟨bucket, .waitUntil deadline, waits, ?_⟩
    intro retry same
    obtain rfl := Release.waitUntil.inj same
    have bound := due_le sound fits covers
    have told := release_waitUntil sound fits waits
    have exact : deadline.toInt = bucket.due length := by
      rw [Int64.toInt_maxValue] at inTime
      unfold Plan.charge at bound
      omega
    have lacks := (covers_iff_due_le sound fits).not.mp covers
    have later : now < deadline := by
      rw [Int64.lt_iff_toInt_lt]
      omega
    refine ⟨later, ?_, ?_⟩
    · intro time order early
      exact release_of_lt_due (sound.later order) fits exact early
    · intro time order
      have notBefore : now ≤ time := Int64.le_trans (Int64.le_of_lt later) order
      rw [Int64.le_iff_toInt_le] at order
      exact release_of_due_le (sound.later notBefore) fits (by omega)

/-- A bucket with a peak rate that paid for one packet. -/
def spentAt (time : Ticks) : Bucket where
  plan := .deepPeak
  tokens := 952000
  peakTokens := 3488000
  checkpoint := time

theorem spentAt_reached : (spentAt 20).Reached 20 := by
  have start : (full .deepPeak 0).Reached 0 := .full Configuration.deepPeak_plan (by decide)
  have first : (full .deepPeak 0).release 2000 5 = .ok (spentAt 5, .ready) := by decide +kernel
  have spent : (spentAt 5).Reached 5 := .attempted start (by decide) first
  have refilled : (full .deepPeak 10).Reached 10 := .reset spent (by decide)
  have changed : (full .deepPeak 15).Reached 15 :=
    .replanned refilled (by decide) Configuration.deepPeak_plan
  have second : (full .deepPeak 15).release 2000 20 = .ok (spentAt 20, .ready) := by
    decide +kernel
  exact .attempted changed (by decide) second

/-- Another such packet has to wait until 1096020. -/
theorem spentAt_retry_exact :
    (spentAt 20).Reached 20 ∧ (2000 : UInt32) ≤ (spentAt 20).plan.largest ∧
      (spentAt 20).checkpoint ≤ 25 ∧
      (25 : Ticks).toInt + ((spentAt 20).plan.committed.charge 2000).toInt ≤
        Int64.maxValue.toInt ∧
      (∃ after answer, (spentAt 20).release 2000 25 = .ok (after, answer) ∧
        ∀ retry, answer = .waitUntil retry →
          25 < retry ∧
          (∀ time, 25 ≤ time → time < retry →
            (spentAt 20).release 2000 time = .ok (spentAt 20, .waitUntil retry)) ∧
          ∀ time, retry ≤ time →
            ∃ paid, (spentAt 20).release 2000 time = .ok (paid, .ready)) ∧
      ((spentAt 20).release 2000 25).map Prod.snd = .ok (.waitUntil 1096020) := by
  have fits : (2000 : UInt32) ≤ (spentAt 20).plan.largest := by decide
  have since : (spentAt 20).checkpoint ≤ 25 := by decide
  have inTime : (25 : Ticks).toInt + ((spentAt 20).plan.committed.charge 2000).toInt ≤
      Int64.maxValue.toInt := by
    decide +kernel
  have refused : ((spentAt 20).release 2000 25).map Prod.snd = .ok (.waitUntil 1096020) := by
    decide +kernel
  exact ⟨spentAt_reached, fits, since, inTime, spentAt_reached.retry_exact fits since inTime,
    refused⟩

end TrafficShaper.Bucket
