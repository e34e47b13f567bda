/-
What a new configuration makes of the packets that wait. Those that the new buckets could never
release are dropped, and of the others as many are kept from the head on as the new limit allows, in
whatever unit it is. Each drop is counted, and the sampler keeps what it knows of the backlog.
-/

import TrafficShaper.Proofs.Conservation
import TrafficShaper.Proofs.Dependable

namespace TrafficShaper

variable {P C : Type} [Packet P] [Delivery.Channel C]

theorem Backlog.oversized_length (backlog : Backlog P) (largest : UInt32) :
    (backlog.oversized largest).length = backlog.count - (backlog.upTo largest).length := by
  have parts := backlog.dropOversized_count largest
  unfold count at parts ⊢
  rw [dropOversized_packets] at parts
  omega

namespace Shaper

variable {shaper after : Shaper P} {configuration : Configuration} {plan : Plan} {now : Ticks}

omit [Packet P] in
/-- Where packets were only dropped, the drops are as many as the packets that are missing. -/
theorem Thinned.drops (thinned : shaper.Thinned after)
    (released : after.statistics.packets = shaper.statistics.packets) :
    after.statistics.drops =
      shaper.statistics.drops + UInt64.ofNat (shaper.backlog.count - after.backlog.count) := by
  have tally := thinned.tally
  have fewer : after.backlog.count ≤ shaper.backlog.count := thinned.order.length_le
  have parts : UInt64.ofNat shaper.backlog.count = UInt64.ofNat after.backlog.count +
      UInt64.ofNat (shaper.backlog.count - after.backlog.count) := by
    rw [← UInt64.ofNat_add, Nat.add_sub_cancel' fewer]
  rw [Shaper.tally, Shaper.tally, released, parts] at tally
  grind

/-- A packet that is dropped from the tail is not counted as oversized. -/
theorem dropOne_oversized (shaper : Shaper P) :
    shaper.dropOne.1.statistics.oversized = shaper.statistics.oversized := by
  rcases shaper.dropOne_cases with ⟨-, same⟩ | ⟨tail, backlog, -, same⟩
  · rw [same]
  · rw [same]
    rfl

/-- Only the packets that the plan could never release are counted as oversized. -/
theorem fitted_oversized (shaper : Shaper P) (plan : Plan) :
    (shaper.fitted plan).statistics.oversized = shaper.statistics.oversized +
      UInt64.ofNat (shaper.backlog.count - (shaper.backlog.upTo plan.largest).length) := by
  have relimited : (shaper.relimited plan).statistics.oversized = shaper.statistics.oversized +
      UInt64.ofNat (shaper.backlog.count - (shaper.backlog.upTo plan.largest).length) := by
    rw [← Backlog.oversized_length, relimited, dropOversized_eq, foldl_forget_eq,
      Statistics.foldl_countOversized]
  exact trimUpTo_keeps (fun trimmed counted => trimmed.dropOne_oversized.trans counted) _ relimited

/-- What a configuration that takes effect leaves of a shaper. -/
structure Refitted (shaper : Shaper P) (configuration : Configuration) (plan : Plan) (now : Ticks)
    (after : Shaper P) : Prop where
  inEffect : after.InEffect configuration plan now
  /-- Of the packets that can be released the longest initial segment within the limit is kept. -/
  kept : plan.discipline.LongestWithin plan.limit after.backlog.packets
    (shaper.backlog.upTo plan.largest)
  counted : after.backlog.Counted
  occupancy : after.sampler.occupancy.toNat = totalLength after.backlog.packets
  lastSample : after.sampler.lastSample = shaper.sampler.lastSample
  pending : after.sampler.pending = shaper.sampler.pending
  countdown : ∃ first, configuration.congestion.intervals.head? = some first ∧
    after.sampler.countdown.toInt = first.toNat
  drops : after.statistics.drops = shaper.statistics.drops +
    UInt64.ofNat (shaper.backlog.count - after.backlog.count)
  oversized : after.statistics.oversized = shaper.statistics.oversized +
    UInt64.ofNat (shaper.backlog.count - (shaper.backlog.upTo plan.largest).length)
  others : after.statistics = { shaper.statistics with
    drops := after.statistics.drops
    oversized := after.statistics.oversized }

theorem reconfigure_refitted (tallied : shaper.Tallied) (accepted : configuration.plan = .ok plan)
    (done : shaper.reconfigure configuration now = .ok (after, .ok ())) :
    shaper.Refitted configuration plan now after := by
  have inEffect : after.InEffect configuration plan now := by
    rcases (reconfigure_cases done).inEffect accepted with ⟨destroyed, -⟩ | ⟨-, effective⟩
    · contradiction
    · exact effective
  cases reconfigure_cases done with
  | @applied found sampler attached laidOut changed =>
      obtain rfl := Except.ok.inj (accepted.symm.trans laidOut)
      obtain ⟨shift, countdown, -, first, rfl⟩ := Congestion.Sampler.reconfigure_eq changed
      have pruned := shaper.fitted_pruned plan
      have fitted := (fitted_fits tallied plan).1
      constructor
      case inEffect => exact inEffect
      case kept => exact fitted_longest tallied plan
      case counted => exact fitted.counted
      case occupancy => exact (congrArg UInt64.toNat fitted.occupancy).trans fitted.counted
      case lastSample => exact congrArg (fun fitted => fitted.sampler.lastSample) pruned
      case pending => exact congrArg (fun fitted => fitted.sampler.pending) pruned
      case countdown => exact Congestion.Settings.firstInterval_head first
      case drops =>
        exact (shaper.fitted_thinned plan).drops
          (congrArg (fun fitted => fitted.statistics.packets) pruned)
      case oversized => exact shaper.fitted_oversized plan
      case others => exact congrArg Shaper.statistics pruned

end Shaper

namespace Station

variable {station : Station P C} {past : List (Transition P C)} {configuration : Configuration}
  {plan : Plan}

/-- Wherever a run leads, as long as the shaper is attached, a configuration that is accepted with a
bound that fits takes effect, and of the packets that wait just those are dropped that it has no
place for. -/
theorem Past.refitted (led : station.Past past) (attached : station.shaper.attached = true)
    (accepted : configuration.plan = .ok plan) (bounded : configuration.Bounded) (now : Ticks) :
    ∃ after, station.shaper.reconfigure configuration now = .ok (after, .ok ()) ∧
      station.shaper.Refitted configuration plan now after := by
  have stocked := led.keeps Shaper.stocked_invariant Shaper.create_stocked
  obtain ⟨⟨after, answer⟩, done⟩ :=
    Shaper.reconfigure_answers station.shaper now fun _ _ => bounded
  have applied : answer = .ok () := by
    cases Shaper.reconfigure_cases done with
    | destroyed detached =>
        rw [attached] at detached
        contradiction
    | invalid attached refused =>
        rw [accepted] at refused
        contradiction
    | applied attached laidOut changed => rfl
  rw [applied] at done
  exact ⟨after, done, Shaper.reconfigure_refitted stocked.tallied accepted done⟩

/-- A run that leaves five packets waiting under a limit in bytes, one of them without a byte. -/
def crowdedRun : List (Event Sketch) :=
  [⟨.enqueue ⟨2900, {}⟩, 0, 0⟩, ⟨.enqueue ⟨1000, {}⟩, 0, 0⟩, ⟨.enqueue ⟨0, {}⟩, 0, 0⟩,
    ⟨.enqueue ⟨1200, {}⟩, 0, 0⟩, ⟨.enqueue ⟨900, {}⟩, 0, 0⟩]

/-- The station after that run. -/
def crowded : Station Sketch Delivery.Ledger := (fresh.follow crowdedRun).1

/-- The transitions of that run. -/
def crowdedPast : List (Transition Sketch Delivery.Ledger) := (fresh.follow crowdedRun).2

theorem crowded_past : crowded.Past crowdedPast := by
  have led := (Past.created fresh_created).follow crowdedRun (by decide +kernel)
  rwa [List.nil_append] at led

/-- A configuration that limits the packets to two. -/
def narrow : Configuration := { Configuration.steady with limit := some 2, discipline := .packets }

/-- The plan of that configuration. -/
def narrowPlan : Plan := { Plan.steady with limit := 2, discipline := .packets }

/-- The discipline changes from bytes to packets. -/
theorem crowded_refitted :
    crowded.Past crowdedPast ∧ crowded.shaper.attached = true ∧ narrow.plan = .ok narrowPlan ∧
      narrow.Bounded ∧ crowded.shaper.backlog.discipline = .bytes ∧
      ∃ after, crowded.shaper.reconfigure narrow 10 = .ok (after, .ok ()) ∧
        crowded.shaper.Refitted narrow narrowPlan 10 after :=
  have accepted : narrow.plan = .ok narrowPlan := by decide +kernel
  ⟨crowded_past, by decide +kernel, accepted, by decide, by decide +kernel,
    crowded_past.refitted (by decide +kernel) accepted (by decide) 10⟩

example :
    (crowded.shaper.reconfigure narrow 10).map
        (fun result => (result.1.backlog.packets, result.1.statistics.drops,
          result.1.statistics.oversized)) =
      .ok ([⟨1000, {}⟩, ⟨0, {}⟩], 3, 1) := by
  decide +kernel

end Station

end TrafficShaper
