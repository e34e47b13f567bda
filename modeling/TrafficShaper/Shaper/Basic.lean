/-
A shaper holds packets back so that they leave at the configured rates, and tells their sources
when too many of them wait.
-/

import TrafficShaper.Bucket
import TrafficShaper.Congestion.Sampler
import TrafficShaper.Delivery.Channel
import TrafficShaper.RetryTimer
import TrafficShaper.Statistics

namespace TrafficShaper

/-- A packet is refused for one of these reasons. -/
inductive RefusalReason where
  /-- The packet is larger than any that can be released. -/
  | oversized (length largest : UInt32)
  | backlogFull
  | destroyed
deriving DecidableEq, Repr

/-- The text of a reason. -/
def RefusalReason.message : RefusalReason → String
  | .oversized length largest =>
      s!"Packet of {length} bytes can never be sent (max size {largest})"
  | .backlogFull => "Backlog full"
  | .destroyed => "Shaper destroyed"

/-- A refused packet is handed back with the reason. -/
structure Refusal (P : Type) where
  packet : P
  reason : RefusalReason
deriving DecidableEq, Repr

/-- A new configuration is invalid, or it comes too late. -/
inductive ReconfigureError where
  | invalid (error : ConfigurationError)
  | destroyed
deriving DecidableEq, Repr

/-- The text of a failed change of the configuration. -/
def ReconfigureError.message : ReconfigureError → String
  | .invalid error => "Invalid configuration: " ++ error.message
  | .destroyed => RefusalReason.destroyed.message

/-- A shaper is active, or its head waits for a deadline, or it is destroyed for good. -/
inductive ShaperState where
  | active
  | throttled (deadline : Ticks)
  | destroyed
deriving DecidableEq, Repr

/-- A shaper for packets of type `P`. Its channel stands beside it; a shaper that is no longer
attached to one is destroyed. -/
structure Shaper (P : Type) where
  configuration : Configuration
  bucket : Bucket
  sampler : Congestion.Sampler
  backlog : Backlog P
  timer : RetryTimer := {}
  statistics : Statistics := {}
  attached : Bool := true
deriving DecidableEq, Repr

/-- The configuration in effect with the counters and the occupancy. -/
structure Summary where
  rate : UInt64
  peakRate : Option UInt64
  burst : UInt32
  mtu : UInt32
  limit : UInt32
  discipline : Discipline
  depth : Ticks
  largest : UInt32
  statistics : Statistics
  count : Nat
  bytes : UInt64
deriving DecidableEq, Repr

namespace Shaper

variable {P : Type} [Packet P]

/-- A shaper starts with full buckets and an empty backlog. -/
def create (configuration : Configuration) (now : Ticks) :
    Except Fault (Except ConfigurationError (Shaper P)) :=
  match configuration.plan with
  | .error error => .ok (.error error)
  | .ok plan =>
      match Congestion.Sampler.create configuration.congestion with
      | .error fault => .error fault
      | .ok sampler =>
          .ok (.ok
            { configuration, sampler
              bucket := Bucket.full plan now
              backlog := Backlog.empty plan.discipline plan.limit })

/-- The sampler counts a packet that was let in, and may have a dispatch for it. -/
def observe (shaper : Shaper P) (length : UInt32) (headers : Headers) (draw : UInt64) :
    Except Fault (Shaper P × Option Dispatch) :=
  match shaper.sampler.observe length draw with
  | .error fault => .error fault
  | .ok sampler => .ok ({ shaper with sampler }, sampler.dispatch? headers)

/-- A packet is let into the backlog and sampled, or handed back. -/
def accept (shaper : Shaper P) (packet : P) (draw : UInt64) :
    Except Fault (Shaper P × Except (Refusal P) (Option Dispatch)) :=
  let length := Packet.length packet
  if !shaper.attached then .ok (shaper, .error ⟨packet, .destroyed⟩)
  else if !shaper.bucket.admits length then
    .ok ({ shaper with statistics := shaper.statistics.countOversized },
      .error ⟨packet, .oversized length shaper.bucket.plan.largest⟩)
  else
    let observed (shaper : Shaper P) :=
      match shaper.observe length (Packet.headers packet) draw with
      | .error fault => .error fault
      | .ok (shaper, dispatch) => .ok (shaper, .ok dispatch)
    match shaper.backlog.offer packet with
    | (_, .rejected packet) =>
        .ok ({ shaper with statistics := shaper.statistics.countDrop },
          .error ⟨packet, .backlogFull⟩)
    | (backlog, .queued) => observed { shaper with backlog }
    | (backlog, .displaced head) =>
        observed
          { shaper with
            backlog
            sampler := shaper.sampler.remove (Packet.length head)
            statistics := shaper.statistics.countDrop }

/-- A delivered notice is no longer latched; one that failed stays. -/
def settle (shaper : Shaper P) : Delivery.Outcome → Shaper P
  | .ok _ =>
      { shaper with
        sampler := shaper.sampler.delivered
        statistics := shaper.statistics.countSent }
  | .error _ => { shaper with statistics := shaper.statistics.countFailed }

/-- A packet is offered, and a dispatch that it brings about is delivered on the way. -/
def enqueue {C : Type} [Delivery.Channel C] (shaper : Shaper P) (channel : C) (packet : P)
    (draw : UInt64) : Except Fault (Shaper P × C × Except (Refusal P) Unit) :=
  match shaper.accept packet draw with
  | .error fault => .error fault
  | .ok (shaper, .error refusal) => .ok (shaper, channel, .error refusal)
  | .ok (shaper, .ok none) => .ok (shaper, channel, .ok ())
  | .ok (shaper, .ok (some dispatch)) =>
      let (channel, outcome) := Delivery.Channel.deliver channel dispatch
      .ok (shaper.settle outcome, channel, .ok ())

/-- The head leaves if the buckets can pay for it; otherwise the timer is set. No packet passes
the head. -/
def dequeue (shaper : Shaper P) (now : Ticks) : Except Fault (Shaper P × Option P) :=
  match shaper.backlog.takeHead with
  | none => .ok ({ shaper with timer := shaper.timer.cancel }, none)
  | some (head, backlog) =>
      let length := Packet.length head
      match shaper.bucket.release length now with
      | .error fault => .error fault
      | .ok (bucket, .ready) =>
          .ok
            ({ shaper with
                bucket
                backlog
                sampler := shaper.sampler.remove length
                timer := shaper.timer.cancel
                statistics := shaper.statistics.countReleased length },
              some head)
      | .ok (_, .waitUntil time) =>
          .ok
            ({ shaper with
                timer := shaper.timer.schedule time
                statistics := shaper.statistics.countOverlimit },
              none)

/-- The head, which stays. -/
def peek (shaper : Shaper P) : Option P := shaper.backlog.head?

/-- The newest packet is dropped, and its length is told. -/
def dropOne (shaper : Shaper P) : Shaper P × Option UInt32 :=
  match shaper.backlog.dropTail with
  | none => (shaper, none)
  | some (tail, backlog) =>
      ({ shaper with
          backlog
          sampler := shaper.sampler.remove (Packet.length tail)
          statistics := shaper.statistics.countDrop },
        some (Packet.length tail))

/-- The backlog is let go, and all but the counters is as at the start. -/
def reset (shaper : Shaper P) (now : Ticks) : Except Fault (Shaper P) :=
  match shaper.sampler.reset with
  | .error fault => .error fault
  | .ok sampler =>
      .ok
        { shaper with
          sampler
          backlog := shaper.backlog.clear.1
          bucket := shaper.bucket.reset now
          timer := shaper.timer.cancel }

/-- A waiting packet that the new plan could never release is dropped. -/
def dropOversized (shaper : Shaper P) (largest : UInt32) : Shaper P :=
  let (oversized, backlog) := shaper.backlog.dropOversized largest
  oversized.foldl
    (fun shaper packet =>
      { shaper with
        sampler := shaper.sampler.remove (Packet.length packet)
        statistics := shaper.statistics.countOversized })
    { shaper with backlog }

/-- At most `count` packets are dropped from the tail, as long as the backlog is over its limit. -/
def trimUpTo (shaper : Shaper P) : Nat → Shaper P
  | 0 => shaper
  | count + 1 =>
      if shaper.backlog.overLimit then shaper.dropOne.1.trimUpTo count else shaper

/-- Packets are dropped from the tail until the backlog keeps its limit. -/
def trim (shaper : Shaper P) : Shaper P := shaper.trimUpTo shaper.backlog.count

/-- A valid configuration takes effect as a whole, and an invalid one not at all. -/
def reconfigure (shaper : Shaper P) (configuration : Configuration) (now : Ticks) :
    Except Fault (Shaper P × Except ReconfigureError Unit) :=
  if !shaper.attached then .ok (shaper, .error .destroyed)
  else
    match configuration.plan with
    | .error error => .ok (shaper, .error (.invalid error))
    | .ok plan =>
        let kept := shaper.dropOversized plan.largest
        let trimmed :=
          { kept with backlog := kept.backlog.relimit plan.discipline plan.limit }.trim
        match trimmed.sampler.reconfigure configuration.congestion with
        | .error fault => .error fault
        | .ok sampler =>
            .ok
              ({ trimmed with
                  configuration
                  sampler
                  bucket := Bucket.full plan now
                  timer := trimmed.timer.cancel },
                .ok ())

/-- The backlog is let go and the channel is given up; the answer is whether there was one. -/
def teardown (shaper : Shaper P) : Except Fault (Shaper P × Bool) :=
  if shaper.attached then
    match shaper.sampler.reset with
    | .error fault => .error fault
    | .ok sampler =>
        .ok
          ({ shaper with
              sampler
              backlog := shaper.backlog.clear.1
              timer := shaper.timer.cancel
              attached := false },
            true)
  else .ok (shaper, false)

/-- A shaper whose head waits tells the deadline. -/
def state (shaper : Shaper P) : ShaperState :=
  if !shaper.attached then .destroyed
  else
    match shaper.timer.deadline with
    | some deadline => .throttled deadline
    | none => .active

/-- The configuration in effect with the counters and the occupancy. -/
def summary (shaper : Shaper P) : Summary where
  rate := shaper.configuration.rate
  peakRate := shaper.configuration.peakRate
  burst := shaper.configuration.effectiveBurst
  mtu := shaper.configuration.mtu
  limit := shaper.bucket.plan.limit
  discipline := shaper.bucket.plan.discipline
  depth := shaper.bucket.plan.depth
  largest := shaper.bucket.plan.largest
  statistics := shaper.statistics
  count := shaper.backlog.count
  bytes := shaper.backlog.bytes

end Shaper

end TrafficShaper
