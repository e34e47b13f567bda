/-
The buckets always work by the plan of the configuration in effect, and the sampler by its
settings. No operation but a change of the configuration touches either.
-/

import TrafficShaper.Proofs.Reached

namespace TrafficShaper

namespace Congestion.Sampler

/-- A sampler works by settings when it was set up from them. -/
structure Configured (sampler : Sampler) (settings : Settings) : Prop where
  same : sampler.settings = settings
  shift : settings.resolvedShift = .ok sampler.shift
  topLevel : sampler.topLevel = settings.topLevel

variable {sampler after : Sampler} {settings : Settings}

theorem create_configured (created : create settings = .ok sampler) :
    sampler.Configured settings := by
  obtain ⟨shift, countdown, resolved, -, rfl⟩ := create_eq created
  exact ⟨rfl, resolved, rfl⟩

theorem reconfigure_configured (changed : sampler.reconfigure settings = .ok after) :
    after.Configured settings := by
  obtain ⟨shift, countdown, resolved, -, rfl⟩ := reconfigure_eq changed
  exact ⟨rfl, resolved, rfl⟩

namespace Configured

theorem observe (configured : sampler.Configured settings) {length : UInt32} {draw : UInt64}
    (observed : sampler.observe length draw = .ok after) : after.Configured settings := by
  obtain ⟨same, shift, topLevel, -⟩ := observe_frame observed
  exact ⟨same.trans configured.same, shift ▸ configured.shift,
    topLevel.trans configured.topLevel⟩

theorem remove (configured : sampler.Configured settings) (length : UInt32) :
    (sampler.remove length).Configured settings :=
  ⟨configured.same, configured.shift, configured.topLevel⟩

theorem delivered (configured : sampler.Configured settings) :
    sampler.delivered.Configured settings :=
  ⟨configured.same, configured.shift, configured.topLevel⟩

theorem reset (configured : sampler.Configured settings) (done : sampler.reset = .ok after) :
    after.Configured settings := by
  obtain ⟨countdown, -, rfl⟩ := reset_eq done
  exact ⟨configured.same, configured.shift, configured.topLevel⟩

end Configured

end Congestion.Sampler

namespace Shaper

variable {P : Type} [Packet P] {shaper after : Shaper P} {now : Ticks}
  {Allowed : Configuration → Prop}

/-- The parts of a shaper were set up from its configuration, which is among those allowed. -/
structure SetUp (Allowed : Configuration → Prop) (shaper : Shaper P) : Prop where
  allowed : Allowed shaper.configuration
  planned : shaper.configuration.plan = .ok shaper.bucket.plan
  configured : shaper.sampler.Configured shaper.configuration.congestion

omit [Packet P] in
theorem create_setUp {configuration : Configuration} (allowed : Allowed configuration)
    (created : Shaper.create configuration now = .ok (.ok shaper)) : shaper.SetUp Allowed := by
  obtain ⟨plan, sampler, accepted, made, rfl⟩ := create_eq created
  exact ⟨allowed, accepted, Congestion.Sampler.create_configured made⟩

namespace SetUp

theorem accept (setUp : shaper.SetUp Allowed) {packet : P} {draw : UInt64}
    {answer : Except (Refusal P) (Option Dispatch)}
    (accepted : shaper.accept packet draw = .ok (after, answer)) : after.SetUp Allowed := by
  cases accept_cases accepted with
  | destroyed detached => exact setUp
  | oversized attached large => exact ⟨setUp.allowed, setUp.planned, setUp.configured⟩
  | full attached fits offered => exact ⟨setUp.allowed, setUp.planned, setUp.configured⟩
  | queued attached fits offered observed =>
      exact ⟨setUp.allowed, setUp.planned, setUp.configured.observe observed⟩
  | displaced attached fits offered observed =>
      exact ⟨setUp.allowed, setUp.planned, (setUp.configured.remove _).observe observed⟩

omit [Packet P] in
theorem settle (outcome : Delivery.Outcome) (setUp : shaper.SetUp Allowed) :
    (shaper.settle outcome).SetUp Allowed := by
  cases outcome with
  | ok _ => exact ⟨setUp.allowed, setUp.planned, setUp.configured.delivered⟩
  | error _ => exact ⟨setUp.allowed, setUp.planned, setUp.configured⟩

theorem dequeue {answer : Option P} (setUp : shaper.SetUp Allowed)
    (dequeued : shaper.dequeue now = .ok (after, answer)) : after.SetUp Allowed := by
  cases dequeue_cases dequeued with
  | empty nothing => exact ⟨setUp.allowed, setUp.planned, setUp.configured⟩
  | refused taken waits => exact ⟨setUp.allowed, setUp.planned, setUp.configured⟩
  | released taken ready =>
      have plan := Bucket.release_plan ready
      exact ⟨setUp.allowed, setUp.planned.trans (congrArg Except.ok plan.symm),
        setUp.configured.remove _⟩

theorem dropOne (setUp : shaper.SetUp Allowed) : shaper.dropOne.1.SetUp Allowed := by
  rcases shaper.dropOne_cases with ⟨-, same⟩ | ⟨tail, backlog, dropped, same⟩
  · rw [same]
    exact setUp
  · rw [same]
    exact ⟨setUp.allowed, setUp.planned, setUp.configured.remove _⟩

omit [Packet P] in
theorem reset (setUp : shaper.SetUp Allowed) (done : shaper.reset now = .ok after) :
    after.SetUp Allowed := by
  obtain ⟨sampler, emptied, rfl⟩ := reset_eq done
  exact ⟨setUp.allowed, setUp.planned, setUp.configured.reset emptied⟩

theorem reconfigure {configuration : Configuration} {answer : Except ReconfigureError Unit}
    (allowed : ∀ plan, configuration.plan = .ok plan → Allowed configuration)
    (setUp : shaper.SetUp Allowed)
    (done : shaper.reconfigure configuration now = .ok (after, answer)) :
    after.SetUp Allowed := by
  cases reconfigure_cases done with
  | destroyed detached => exact setUp
  | invalid attached refused => exact setUp
  | applied attached accepted changed =>
      exact ⟨allowed _ accepted, accepted, Congestion.Sampler.reconfigure_configured changed⟩

omit [Packet P] in
theorem teardown {answer : Bool} (setUp : shaper.SetUp Allowed)
    (done : shaper.teardown = .ok (after, answer)) : after.SetUp Allowed := by
  rcases teardown_cases done with ⟨-, rfl, -⟩ | ⟨sampler, -, emptied, -, rfl⟩
  · exact setUp
  · exact ⟨setUp.allowed, setUp.planned, setUp.configured.reset emptied⟩

end SetUp

/-- No operation takes the parts of a shaper out of step with its configuration. -/
theorem setUp_invariant (Allowed : Configuration → Prop) :
    Invariant (P := P) (fun configuration => ∀ plan, configuration.plan = .ok plan →
      Allowed configuration) (fun shaper _ => shaper.SetUp Allowed) where
  later setUp _ := setUp
  accepted setUp := setUp.accept
  settled := SetUp.settle
  dequeued setUp := setUp.dequeue
  dropped setUp := setUp.dropOne
  reset setUp := setUp.reset
  reconfigured allowed setUp := setUp.reconfigure allowed
  tornDown setUp := setUp.teardown

end Shaper

end TrafficShaper
