/-
The committed and the peak token bucket. Tokens are ticks: as many tokens as a bucket holds, so
many ticks of traffic it lets through at once.
-/

import TrafficShaper.Configuration

namespace TrafficShaper

/-- The answer to a packet that wants to leave. -/
inductive Release where
  /-- The packet leaves now, and its tokens are spent. -/
  | ready
  /-- The packet has to wait until this tick. -/
  | waitUntil (time : Ticks)
deriving DecidableEq, Repr

/-- The buckets of a plan. -/
structure Bucket where
  plan : Plan
  /-- The committed tokens. -/
  tokens : Ticks
  /-- The peak tokens. -/
  peakTokens : Ticks
  /-- The tick at which the tokens were last counted. -/
  checkpoint : Ticks
deriving DecidableEq, Repr

namespace Bucket

/-- Both buckets are full at the start. -/
def full (plan : Plan) (now : Ticks) : Bucket :=
  { plan, tokens := plan.depth, peakTokens := plan.peakDepth, checkpoint := now }

/-- A packet can be released at some time. -/
def admits (bucket : Bucket) (length : UInt32) : Bool := length ≤ bucket.plan.largest

/-- The time since the checkpoint, no longer than it takes to fill the committed bucket. -/
def elapsed (bucket : Bucket) (now : Ticks) : Except Fault Ticks :=
  clampWithin (now - bucket.checkpoint) 0 bucket.plan.depth

/-- The committed tokens that are left after a packet, below zero when they are too few. -/
def tokensAfter (bucket : Bucket) (elapsed : Ticks) (length : UInt32) : Ticks :=
  min (saturatingAdd elapsed bucket.tokens) bucket.plan.depth - bucket.plan.committed.charge length

/-- The peak tokens that are left after a packet; without a peak rate there are none to spend. -/
def peakTokensAfter (bucket : Bucket) (elapsed : Ticks) (length : UInt32) : Ticks :=
  match bucket.plan.peak with
  | none => 0
  | some table =>
      min (saturatingAdd elapsed bucket.peakTokens) bucket.plan.peakDepth - table.charge length

/-- A packet is released when both buckets can pay for it. Otherwise nothing changes, and the
packet waits until the greater deficit is made up. -/
def release (bucket : Bucket) (length : UInt32) (now : Ticks) : Except Fault (Bucket × Release) :=
  match bucket.elapsed now with
  | .error fault => .error fault
  | .ok elapsed =>
      let tokens := bucket.tokensAfter elapsed length
      let peakTokens := bucket.peakTokensAfter elapsed length
      if 0 ≤ tokens ∧ 0 ≤ peakTokens then
        .ok ({ bucket with tokens, peakTokens, checkpoint := now }, .ready)
      else .ok (bucket, .waitUntil (saturatingAdd now (max (-tokens) (-peakTokens))))

/-- A reset fills both buckets. -/
def reset (bucket : Bucket) (now : Ticks) : Bucket := full bucket.plan now

theorem release_waitUntil_unchanged {bucket after : Bucket} {length : UInt32} {now time : Ticks}
    (refused : bucket.release length now = .ok (after, .waitUntil time)) : after = bucket := by
  unfold release at refused
  split at refused
  · contradiction
  · dsimp only at refused
    split at refused <;> simp_all

theorem release_plan {bucket after : Bucket} {length : UInt32} {now : Ticks} {answer : Release}
    (released : bucket.release length now = .ok (after, answer)) : after.plan = bucket.plan := by
  unfold release at released
  split at released
  · contradiction
  · dsimp only at released
    split at released <;>
    · simp only [Except.ok.injEq, Prod.mk.injEq] at released
      rw [← released.1]

end Bucket

end TrafficShaper
