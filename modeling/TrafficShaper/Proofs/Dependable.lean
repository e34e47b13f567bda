/-
An accepted configuration can be depended on exactly when its feedback bound fits in a signed
word. Then no operation ends in a fault while it is in effect, a change to it is all or nothing,
and every feedback and level is in range. Nothing refuses a configuration with a greater bound.
-/

import TrafficShaper.Proofs.Consistent
import TrafficShaper.Proofs.Feedback

namespace TrafficShaper

variable {P C : Type} [Packet P] [Delivery.Channel C]

/-- The feedback bound of a configuration fits in a signed word. -/
def Configuration.Bounded (configuration : Configuration) : Prop :=
  configuration.congestion.exactBound < 2 ^ 63

instance (configuration : Configuration) : Decidable configuration.Bounded :=
  inferInstanceAs (Decidable (_ < _))

namespace Shaper

variable {shaper : Shaper P} {now : Ticks}

/-- A packet that is let in is observed, and so every packet is answered. -/
theorem accept_answers (setUp : shaper.SetUp Configuration.Bounded) (packet : P)
    (draw : UInt64) : ∃ answer, shaper.accept packet draw = .ok answer := by
  have unrefused := Configuration.congestion_accepted setUp.planned
  unfold accept observe
  dsimp only
  split
  · exact ⟨_, rfl⟩
  split
  · exact ⟨_, rfl⟩
  split
  · exact ⟨_, rfl⟩
  · obtain ⟨sampler, observed, -⟩ := Congestion.Sampler.observe_inRange setUp.configured
      unrefused setUp.allowed (Packet.length packet) draw
    rw [observed]
    exact ⟨_, rfl⟩
  · rename_i head _
    obtain ⟨sampler, observed, -⟩ := Congestion.Sampler.observe_inRange
      (setUp.configured.remove (Packet.length head)) unrefused setUp.allowed
      (Packet.length packet) draw
    rw [observed]
    exact ⟨_, rfl⟩

theorem enqueue_answers (setUp : shaper.SetUp Configuration.Bounded) (channel : C) (packet : P)
    (draw : UInt64) : ∃ answer, shaper.enqueue channel packet draw = .ok answer := by
  obtain ⟨⟨accepted, answer⟩, accepting⟩ := accept_answers setUp packet draw
  unfold enqueue
  rw [accepting]
  rcases answer with refusal | _ | dispatch
  · exact ⟨_, rfl⟩
  · exact ⟨_, rfl⟩
  · exact ⟨_, rfl⟩

theorem dequeue_answers {Allowed : Configuration → Prop} (setUp : shaper.SetUp Allowed)
    (now : Ticks) : ∃ answer, shaper.dequeue now = .ok answer := by
  have sound := Configuration.plan_sound setUp.planned
  unfold dequeue
  split
  · exact ⟨_, rfl⟩
  · rename_i head rest _
    obtain ⟨⟨bucket, answer⟩, released⟩ :=
      Bucket.release_answers sound (Packet.length head) now
    dsimp only
    rw [released]
    cases answer with
    | ready => exact ⟨_, rfl⟩
    | waitUntil time => exact ⟨_, rfl⟩

omit [Packet P] in
theorem reset_answers {Allowed : Configuration → Prop} (setUp : shaper.SetUp Allowed)
    (now : Ticks) : ∃ answer, shaper.reset now = .ok answer := by
  obtain ⟨sampler, emptied⟩ := Congestion.Sampler.reset_answers setUp.configured
    (Configuration.congestion_accepted setUp.planned)
  unfold reset
  rw [emptied]
  exact ⟨_, rfl⟩

omit [Packet P] in
theorem teardown_answers {Allowed : Configuration → Prop} (setUp : shaper.SetUp Allowed) :
    ∃ answer, shaper.teardown = .ok answer := by
  obtain ⟨sampler, emptied⟩ := Congestion.Sampler.reset_answers setUp.configured
    (Configuration.congestion_accepted setUp.planned)
  unfold teardown
  rw [emptied]
  split
  · exact ⟨_, rfl⟩
  · exact ⟨_, rfl⟩

/-- All parts of a shaper work by a configuration and its plan from now on. -/
structure InEffect (configuration : Configuration) (plan : Plan) (now : Ticks)
    (shaper : Shaper P) : Prop where
  current : shaper.configuration = configuration
  bucket : shaper.bucket = Bucket.full plan now
  configured : shaper.sampler.Configured configuration.congestion
  interval : configuration.congestion.firstInterval = .ok shaper.sampler.countdown
  discipline : shaper.backlog.discipline = plan.discipline
  limit : shaper.backlog.limit = plan.limit
  timer : shaper.timer.deadline = none
  attached : shaper.attached = true

variable {configuration : Configuration} {plan : Plan}

omit [Packet P] in
/-- A shaper can be created from an accepted configuration whose bound fits. -/
theorem create_inEffect (accepted : configuration.plan = .ok plan)
    (bounded : configuration.Bounded) (now : Ticks) :
    ∃ shaper : Shaper P, Shaper.create configuration now = .ok (.ok shaper) ∧
      shaper.InEffect configuration plan now := by
  obtain ⟨sampler, made⟩ := Congestion.Sampler.create_answers
    (Configuration.congestion_accepted accepted) bounded
  obtain ⟨shift, countdown, resolved, found, same⟩ := Congestion.Sampler.create_eq made
  unfold create
  rw [accepted, made]
  refine ⟨_, rfl, ?_⟩
  subst same
  exact ⟨rfl, rfl, ⟨rfl, resolved, rfl⟩, found, rfl, rfl, rfl, rfl⟩

/-- A new configuration is answered unless it is accepted with a bound that does not fit. -/
theorem reconfigure_answers (shaper : Shaper P) (now : Ticks)
    (bounded : ∀ plan, configuration.plan = .ok plan → configuration.Bounded) :
    ∃ answer, shaper.reconfigure configuration now = .ok answer := by
  unfold reconfigure
  split
  · exact ⟨_, rfl⟩
  split
  · exact ⟨_, rfl⟩
  · rename_i plan accepted
    obtain ⟨sampler, changed⟩ := Congestion.Sampler.reconfigure_answers
      (shaper.fitted plan).sampler (Configuration.congestion_accepted accepted)
      (bounded plan accepted)
    simp only [fitted, relimited] at changed
    dsimp only
    rw [changed]
    exact ⟨_, rfl⟩

/-- A configuration that is accepted takes effect as a whole, or the shaper is destroyed and stays
as it is. -/
theorem ReconfigureCase.inEffect {after : Shaper P} {answer : Except ReconfigureError Unit}
    (done : shaper.ReconfigureCase configuration now after answer)
    (accepted : configuration.plan = .ok plan) :
    (answer = .error .destroyed ∧ after = shaper) ∨
      (answer = .ok () ∧ after.InEffect configuration plan now) := by
  cases done with
  | destroyed detached => exact .inl ⟨rfl, rfl⟩
  | invalid attached refused =>
      rw [accepted] at refused
      contradiction
  | @applied found sampler attached laidOut changed =>
      rw [accepted] at laidOut
      obtain rfl := Except.ok.inj laidOut
      obtain ⟨shift, countdown, resolved, first, rfl⟩ :=
        Congestion.Sampler.reconfigure_eq changed
      have trimmed : (shaper.relimited plan).TrimmedTo (shaper.fitted plan) :=
        trimUpTo_trimmedTo _ _
      refine .inr ⟨rfl, ?_⟩
      constructor
      case current => rfl
      case bucket => rfl
      case configured => exact ⟨rfl, resolved, rfl⟩
      case interval => exact first
      case discipline => exact trimmed.discipline
      case limit => exact trimmed.limit
      case timer => rfl
      case attached =>
        exact (congrArg Shaper.attached (shaper.fitted_pruned plan)).trans attached

end Shaper

namespace Station

variable {station : Station P C}

/-- Under a bound that fits each event is answered, and a new configuration's bound fits too. -/
theorem step_answers (setUp : station.shaper.SetUp Configuration.Bounded) (event : Event P)
    (bounded : event.AsksOnlyFor fun configuration =>
      ∀ plan, configuration.plan = .ok plan → configuration.Bounded) :
    ∃ after reply, station.step event = .ok (after, reply) ∧
      after.shaper.SetUp Configuration.Bounded := by
  have answered : ∃ answer, station.step event = .ok answer := by
    obtain ⟨operation, now, draw⟩ := event
    cases operation with
    | enqueue packet =>
        exact bind_answers (Shaper.enqueue_answers setUp station.channel packet draw)
          fun _ => ⟨_, rfl⟩
    | dequeue => exact bind_answers (Shaper.dequeue_answers setUp now) fun _ => ⟨_, rfl⟩
    | peek => exact ⟨_, rfl⟩
    | dropOne => exact ⟨_, rfl⟩
    | reset => exact bind_answers (Shaper.reset_answers setUp now) fun _ => ⟨_, rfl⟩
    | reconfigure configuration =>
        exact bind_answers
          (Shaper.reconfigure_answers station.shaper now (bounded configuration rfl))
          fun _ => ⟨_, rfl⟩
    | teardown => exact bind_answers (Shaper.teardown_answers setUp) fun _ => ⟨_, rfl⟩
  obtain ⟨⟨after, reply⟩, done⟩ := answered
  exact ⟨after, reply, done,
    (Shaper.setUp_invariant Configuration.Bounded).step bounded setUp done⟩

/-- Under a bound that fits each run is answered to its end. -/
theorem run_answers (setUp : station.shaper.SetUp Configuration.Bounded) {events : List (Event P)}
    (bounded : ∀ event ∈ events, event.AsksOnlyFor fun configuration =>
      ∀ plan, configuration.plan = .ok plan → configuration.Bounded) :
    ∃ answer, station.run events = .ok answer := by
  induction events generalizing station with
  | nil => exact ⟨_, rfl⟩
  | cons event rest ih =>
      obtain ⟨after, reply, done, kept⟩ :=
        step_answers setUp event (bounded event List.mem_cons_self)
      have finished := ih kept fun event member => bounded event (List.mem_cons_of_mem _ member)
      obtain ⟨answer, continued⟩ := bind_answers finished fun _ => ⟨_, rfl⟩
      exact ⟨answer, bind_eq_ok.mpr ⟨(after, reply), done, continued⟩⟩

/-- A station is visited when some run leads to it, whatever the clock shows on the way. -/
def Visited (station : Station P C) : Prop :=
  ∃ configuration channel now fresh events replies,
    Station.create configuration channel now = .ok (.ok fresh) ∧
      fresh.run events = .ok (station, replies)

/-- Wherever a run leads, the sampler works by the settings of the configuration in effect. -/
theorem Visited.setUp (visited : station.Visited) : station.shaper.SetUp fun _ => True := by
  obtain ⟨configuration, channel, now, fresh, events, replies, created, run⟩ := visited
  have start : fresh.shaper.SetUp fun _ => True :=
    Shaper.create_setUp trivial (Station.create_eq created)
  clear created
  induction events generalizing fresh replies with
  | nil =>
      simp only [Station.run, Except.ok.injEq, Prod.mk.injEq] at run
      obtain ⟨rfl, -⟩ := run
      exact start
  | cons event rest ih =>
      obtain ⟨middle, reply, others, stepped, finished, -⟩ := run_cons run
      exact ih middle others finished
        ((Shaper.setUp_invariant fun _ => True).step (fun _ _ _ _ => trivial) start stepped)

end Station

namespace Configuration

variable {configuration : Configuration} {plan : Plan}

/-- What is expected of an accepted configuration. -/
structure Dependable (P C : Type) [Packet P] [Delivery.Channel C] (configuration : Configuration)
    (plan : Plan) : Prop where
  /-- The feedback bound is exact. -/
  bound : configuration.congestion.feedbackBound.toInt = configuration.congestion.exactBound
  /-- A shift is found, and it leaves some bits of a word. -/
  shift : ∃ shift, configuration.congestion.resolvedShift = .ok shift ∧ shift.toNat < 64
  /-- A shaper can be created. -/
  creates : ∀ now, ∃ shaper : Shaper P,
    Shaper.create configuration now = .ok (.ok shaper) ∧
      shaper.InEffect configuration plan now
  /-- Every shaper answers a change to it, which takes effect as a whole or not at all. -/
  reconfigures : ∀ (shaper : Shaper P) (now : Ticks), ∃ after answer,
    shaper.reconfigure configuration now = .ok (after, answer) ∧
      ((answer = .error .destroyed ∧ after = shaper) ∨
        (answer = .ok () ∧ after.InEffect configuration plan now))
  /-- Wherever it is in effect, no run ends in a fault, as long as the run brings no other
  configuration into effect whose bound does not fit. -/
  runs : ∀ (station : Station P C) (events : List (Event P)), station.Visited →
    station.shaper.configuration = configuration →
    (∀ event ∈ events, event.AsksOnlyFor fun other =>
      ∀ plan, other.plan = .ok plan → other.Bounded) →
    ∃ answer, station.run events = .ok answer
  /-- Wherever it is in effect, the sampler works by its settings. -/
  configured : ∀ station : Station P C, station.Visited →
    station.shaper.configuration = configuration →
      station.shaper.sampler.Configured configuration.congestion
  /-- A sampler that works by its settings observes every packet, and then the feedback and its
  level are in range. -/
  observes : ∀ (sampler : Congestion.Sampler), sampler.Configured configuration.congestion →
    ∀ length draw, ∃ after, sampler.observe length draw = .ok after ∧
      after.InRange configuration.congestion

/-- An accepted configuration can be depended on exactly when its feedback bound fits in a signed
word. -/
theorem dependable_iff (accepted : configuration.plan = .ok plan) :
    configuration.Dependable P C plan ↔ configuration.Bounded := by
  have unrefused := congestion_accepted accepted
  constructor
  · intro dependable
    exact configuration.congestion.feedbackBound_exact_iff.mp dependable.bound
  · intro bounded
    constructor
    case bound => exact configuration.congestion.feedbackBound_exact_iff.mpr bounded
    case shift => exact Congestion.Settings.resolvedShift_ok unrefused bounded
    case creates => exact Shaper.create_inEffect accepted bounded
    case reconfigures =>
      intro shaper now
      obtain ⟨⟨after, answer⟩, done⟩ :=
        Shaper.reconfigure_answers shaper now fun _ _ => bounded
      exact ⟨after, answer, done, (Shaper.reconfigure_cases done).inEffect accepted⟩
    case runs =>
      rintro station events visited rfl allowed
      have setUp := visited.setUp
      exact Station.run_answers ⟨bounded, setUp.planned, setUp.configured⟩ allowed
    case configured =>
      rintro station visited rfl
      exact visited.setUp.configured
    case observes =>
      intro sampler configured length draw
      exact Congestion.Sampler.observe_inRange configured unrefused bounded length draw

/-- A configuration with a deep peak bucket can be depended on. -/
theorem deepPeak_dependable :
    Configuration.deepPeak.plan = .ok Plan.deepPeak ∧
      Configuration.deepPeak.Dependable Sketch Delivery.Ledger Plan.deepPeak :=
  ⟨deepPeak_plan, (dependable_iff deepPeak_plan).mpr (by decide)⟩

/-- A configuration whose feedback bound does not fit in a signed word. -/
def unbounded : Configuration :=
  { rate := 1000000, congestion := { equilibrium := 4294967295, weight := 4294967295 } }

end Configuration

/-- The plan of a configuration whose feedback bound does not fit. -/
def Plan.unbounded : Plan where
  committed := .forMtu 1000000 1500
  depth := 125000000
  largest := 2047
  limit := 325000
  discipline := .bytes

/-- The bound that does not fit comes out below zero: the configuration is accepted, but no shaper
can be created from it, and none can change to it. -/
theorem Configuration.unbounded_not_dependable :
    unbounded.plan = .ok Plan.unbounded ∧
      unbounded.congestion.exactBound = 36893488134534201345 ∧
      unbounded.congestion.feedbackBound = -12884901887 ∧
      (Shaper.create unbounded 0 : Except Fault (Except ConfigurationError (Shaper Sketch))) =
        .error .negativeLogarithm ∧
      Station.fresh.shaper.reconfigure unbounded 0 = .error .negativeLogarithm ∧
      ¬ unbounded.Dependable Sketch Delivery.Ledger Plan.unbounded := by
  refine ⟨by decide +kernel, by decide, by decide, by decide +kernel, by decide +kernel, ?_⟩
  intro dependable
  exact absurd dependable.bound (by decide)

end TrafficShaper
