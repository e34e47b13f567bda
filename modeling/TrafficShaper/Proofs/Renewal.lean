/-
A shaper that gets a new configuration and is then reset is as good as a new one. It differs from a
fresh shaper in its counters alone, and no later operation can tell the two apart.
-/

import TrafficShaper.Proofs.Dependable
import TrafficShaper.Proofs.Latch
import TrafficShaper.Proofs.Likeness

namespace TrafficShaper

variable {P C : Type}

/-- A regular configuration takes the intervals between samples from its table as they are. -/
def Configuration.Regular (configuration : Configuration) : Prop :=
  configuration.congestion.randomized = false

namespace Shaper

/-- The shaper without its counters: the statistics, and how often its timer was set. -/
def uncounted (shaper : Shaper P) : Shaper P :=
  { shaper with statistics := {}, timer := { shaper.timer with armed := 0 } }

/-- A shaper is like itself without its counters, where they do not count. -/
theorem alike_uncounted (shaper : Shaper P) : shaper.Alike (· = ·) False shaper.uncounted where
  configuration := rfl
  bucket := ⟨rfl, rfl, rfl, rfl⟩
  sampler := rfl
  backlog := rfl
  deadline := by
    rw [uncounted]
    cases shaper.timer.deadline with
    | none => exact .none
    | some time => exact .some rfl
  armed := False.elim
  statistics := False.elim
  attached := rfl

theorem Alike.uncounted_eq {shaper other : Shaper P} (alike : shaper.Alike (· = ·) False other) :
    shaper.uncounted = other.uncounted := by
  obtain ⟨_, bucket, _, _, ⟨deadline, armed⟩, statistics, _⟩ := shaper
  obtain ⟨configuration, otherBucket, sampler, backlog, ⟨otherDeadline, otherArmed⟩, counters,
    attached⟩ := other
  obtain ⟨rfl, buckets, rfl, rfl, deadlines, -, -, rfl⟩ := alike
  obtain rfl : otherBucket = bucket := buckets.eq
  cases deadlines with
  | none => rfl
  | some same =>
      obtain rfl := same
      rfl

end Shaper

namespace Congestion.Sampler

variable {sampler : Sampler}

/-- Without random intervals the random words do not matter. -/
theorem observe_redrawn (steady : sampler.settings.randomized = false) (length : UInt32)
    (draw other : UInt64) : sampler.observe length draw = sampler.observe length other := by
  unfold observe
  cases counting : sampler.count length with
  | error fault => rfl
  | ok counted =>
      have same := (count_frame counting).1
      simp only [sample, Settings.intervalAfter, same, steady, Bool.false_eq_true, if_false]

/-- A sampler that works by its settings is a new one once it is reset. -/
theorem reset_created {settings : Settings} {fresh : Sampler}
    (configured : sampler.Configured settings) (created : create settings = .ok fresh) :
    sampler.reset = .ok fresh := by
  obtain ⟨shift, countdown, resolved, found, rfl⟩ := create_eq created
  have shifted : sampler.shift = shift := Except.ok.inj (configured.shift.symm.trans resolved)
  rw [reset, configured.same, found]
  simp only [shifted, configured.topLevel]

end Congestion.Sampler

section Redrawn

variable [Packet P]

theorem Shaper.accept_redrawn {shaper : Shaper P}
    (steady : shaper.sampler.settings.randomized = false) (packet : P) (draw other : UInt64) :
    shaper.accept packet draw = shaper.accept packet other := by
  have queued := Congestion.Sampler.observe_redrawn steady (Packet.length packet) draw other
  have still (head : P) :
      (shaper.sampler.remove (Packet.length head)).settings.randomized = false := steady
  have displaced (head : P) :=
    Congestion.Sampler.observe_redrawn (still head) (Packet.length packet) draw other
  simp only [accept, observe, queued, displaced]

/-- Two events differ at most in their random words. -/
structure Event.SameButDraw (event other : Event P) : Prop where
  operation : event.operation = other.operation
  now : event.now = other.now

/-- A step of a station whose intervals are not random is the same for every random word. -/
theorem Station.step_redrawn [Delivery.Channel C] {station : Station P C}
    (steady : station.shaper.sampler.settings.randomized = false) {event other : Event P}
    (same : event.SameButDraw other) : station.step event = station.step other := by
  obtain ⟨operation, now, draw⟩ := event
  obtain ⟨otherOperation, otherNow, otherDraw⟩ := other
  obtain ⟨operations, readings⟩ := same
  dsimp only at operations readings
  subst operations readings
  cases operation with
  | enqueue packet =>
      simp only [step, Shaper.enqueue, Shaper.accept_redrawn steady packet draw otherDraw]
  | dequeue | peek | dropOne | reset | reconfigure | teardown => rfl

end Redrawn

namespace Station

/-- The station without the counters of its shaper. -/
def uncounted (station : Station P C) : Station P C :=
  { station with shaper := station.shaper.uncounted }

variable {station other : Station P C}

theorem Alike.uncounted_eq (alike : station.Alike (· = ·) False other) :
    station.uncounted = other.uncounted := by
  rw [uncounted, uncounted, alike.shaper.uncounted_eq, alike.channel]

variable [Packet P] [Delivery.Channel C]

/-- The counters have no part in any step. -/
theorem step_alike (alike : station.Alike (· = ·) False other) (event : Event P) :
    Matches (RepliesAlike (· = ·) False) (station.step event) (other.step event) := by
  refine alike.step event.draw rfl ?_
  intro _ head _
  rw [alike.shaper.bucket.eq]
  exact Bucket.releasesAlike_refl _ _ _

/-- What a run tells of each transition: the reply, and the station after it, of which the counters
are left out. -/
def told (result : Station P C × List (Transition P C)) : List (Reply P × Station P C) :=
  result.2.map fun transition => (transition.reply, transition.after.uncounted)

theorem trace_of_fault {event : Event P} {fault : Fault} (step : station.step event = .error fault)
    (rest : List (Event P)) : station.trace (event :: rest) = .error fault := by
  simp only [trace, step, bind, Except.bind]

/-- A run tells its first reply, and then what the rest of it tells. -/
theorem told_of_step {event : Event P} {middle : Station P C} {reply : Reply P}
    (step : station.step event = .ok (middle, reply)) (rest : List (Event P)) :
    (station.trace (event :: rest)).map told =
      ((middle.trace rest).map told).map ((reply, middle.uncounted) :: ·) := by
  simp only [trace, step, bind, Except.bind]
  cases middle.trace rest <;> rfl

/-- No random intervals are in effect, and none are asked for. -/
structure Undrawn (station : Station P C) (events : List (Event P)) : Prop where
  setUp : station.shaper.SetUp Configuration.Regular
  asked : ∀ event ∈ events, event.AsksOnlyFor fun configuration =>
    ∀ plan, configuration.plan = .ok plan → configuration.Regular

omit [Packet P] [Delivery.Channel C] in
theorem Undrawn.steady {events : List (Event P)} (undrawn : station.Undrawn events) :
    station.shaper.sampler.settings.randomized = false := by
  rw [undrawn.setUp.configured.same]
  exact undrawn.setUp.allowed

theorem Undrawn.step {event : Event P} {rest : List (Event P)}
    (undrawn : station.Undrawn (event :: rest)) {middle : Station P C} {reply : Reply P}
    (stepped : station.step event = .ok (middle, reply)) : middle.Undrawn rest := by
  obtain ⟨setUp, asked⟩ := undrawn
  rw [List.forall_mem_cons] at asked
  exact ⟨(Shaper.setUp_invariant Configuration.Regular).step asked.1 setUp stepped, asked.2⟩

/-- Runs that agree at the start tell the same. Their random words may differ as long as there are
no random intervals. -/
theorem trace_alike {events others : List (Event P)} (alike : station.Alike (· = ·) False other)
    (same : List.Forall₂ Event.SameButDraw events others)
    (drawn : events = others ∨ other.Undrawn others) :
    (station.trace events).map told = (other.trace others).map told := by
  -- The shapers agree before each event but for their counters, and so they do after it.
  induction same generalizing station other with
  | nil => rfl
  | @cons event otherEvent rest otherRest first _ ih =>
      have agreed : other.step event = other.step otherEvent := by
        rcases drawn with same | undrawn
        · rw [(List.cons.inj same).1]
        · exact step_redrawn undrawn.steady first
      have answered := step_alike alike event
      rw [agreed] at answered
      generalize stepped : station.step event = result at answered
      generalize otherStepped : other.step otherEvent = otherResult at answered
      cases answered with
      | fault fault => rw [trace_of_fault stepped, trace_of_fault otherStepped]
      | @value result otherResult agree =>
          obtain ⟨middle, reply⟩ := result
          obtain ⟨otherMiddle, otherReply⟩ := otherResult
          obtain ⟨kept, same⟩ := agree
          obtain rfl : reply = otherReply := same.symm
          have remaining := drawn.imp (fun same => (List.cons.inj same).2)
            fun undrawn => undrawn.step otherStepped
          rw [told_of_step stepped, told_of_step otherStepped, ih kept remaining, kept.uncounted_eq]

end Station

namespace Shaper

variable {configuration : Configuration} {plan : Plan} {earlier now : Ticks}

/-- A shaper in which a configuration is in effect is the one that is created from it once it is
reset, but for the counters. -/
theorem InEffect.reset {changed fresh : Shaper P}
    (inEffect : changed.InEffect configuration plan earlier)
    (created : Shaper.create configuration now = .ok (.ok fresh))
    (accepted : configuration.plan = .ok plan) :
    ∃ renewed, changed.reset now = .ok renewed ∧ renewed.uncounted = fresh := by
  obtain ⟨found, initial, laidOut, made, rfl⟩ := create_eq created
  rw [accepted] at laidOut
  obtain rfl := Except.ok.inj laidOut
  have emptied := Congestion.Sampler.reset_created inEffect.configured made
  have cleared : changed.backlog.clear.1 = Backlog.empty plan.discipline plan.limit := by
    rw [← inEffect.discipline, ← inEffect.limit]
    rfl
  rw [Shaper.reset, emptied, cleared]
  refine ⟨_, rfl, ?_⟩
  simp only [uncounted, Bucket.reset, inEffect.current, inEffect.bucket, inEffect.attached]
  rfl

variable [Packet P]

/-- A shaper that gets an accepted configuration and is then reset is the one that is created from
it at the clock reading of the reset, but for the counters. Whatever is asked of the two from then
on, at the same clock readings and with channels that answer alike, they reply the same, deliver the
same notices, and remain the same but for the counters. -/
theorem renewed {shaper : Shaper P} (attached : shaper.attached = true)
    (accepted : configuration.plan = .ok plan) (bounded : configuration.Bounded)
    (regular : configuration.Regular) (earlier now : Ticks) :
    ∃ changed renewed fresh : Shaper P,
      shaper.reconfigure configuration earlier = .ok (changed, .ok ()) ∧
        changed.reset now = .ok renewed ∧
        Shaper.create configuration now = .ok (.ok fresh) ∧
        renewed.uncounted = fresh ∧
        ∀ {C : Type} [Delivery.Channel C] (channel : Delivery.Logged C)
          {events others : List (Event P)},
          List.Forall₂ Event.SameButDraw events others →
          (events = others ∨ ∀ event ∈ others, event.AsksOnlyFor fun configuration =>
            ∀ plan, configuration.plan = .ok plan → configuration.Regular) →
          ((⟨renewed, channel⟩ : Station P _).trace events).map Station.told =
            ((⟨fresh, channel⟩ : Station P _).trace others).map Station.told := by
  obtain ⟨fresh, created, -⟩ := create_inEffect (P := P) accepted bounded now
  obtain ⟨⟨changed, answer⟩, done⟩ :
      ∃ answer, shaper.reconfigure configuration earlier = .ok answer :=
    shaper.reconfigure_answers earlier fun _ _ => bounded
  obtain ⟨rfl, -⟩ | ⟨rfl, inEffect⟩ := (reconfigure_cases done).inEffect accepted
  · cases reconfigure_cases done with
    | destroyed detached =>
        rw [attached] at detached
        contradiction
  · obtain ⟨renewed, emptied, rfl⟩ := inEffect.reset created accepted
    refine ⟨changed, renewed, _, done, emptied, created, rfl, ?_⟩
    intro C channelled channel events others agreeing drawn
    exact Station.trace_alike ⟨renewed.alike_uncounted, rfl⟩ agreeing
      (drawn.imp_right fun asked => ⟨create_setUp regular created, asked⟩)

/-- A run of three packets, the first two of them samples, and of a change of the configuration. -/
def renewedRun : List (Event Sketch) :=
  [⟨.enqueue ⟨1500, Station.addressed⟩, 20, 1⟩, ⟨.enqueue ⟨600, {}⟩, 20, 2⟩, ⟨.dequeue, 30, 3⟩,
    ⟨.reconfigure .steady, 40, 4⟩, ⟨.enqueue ⟨500, Station.addressed⟩, 40, 5⟩, ⟨.dequeue, 40, 6⟩]

/-- Two packets wait in a shaper that gets another configuration and is then reset. -/
theorem backlogged_renewed :
    Station.backlogged.shaper.attached = true ∧
      Station.eagerConfiguration.plan = .ok Plan.steady ∧
      Station.eagerConfiguration.Bounded ∧ Station.eagerConfiguration.Regular ∧
      ∃ changed renewed fresh : Shaper Sketch,
        Station.backlogged.shaper.reconfigure Station.eagerConfiguration 15 =
            .ok (changed, .ok ()) ∧
          changed.reset 20 = .ok renewed ∧
          Shaper.create Station.eagerConfiguration 20 = .ok (.ok fresh) ∧
          renewed.uncounted = fresh ∧
          ((⟨renewed, ⟨{}, []⟩⟩ : Station Sketch (Delivery.Logged Delivery.Ledger)).trace
              renewedRun).map Station.told =
            ((⟨fresh, ⟨{}, []⟩⟩ : Station Sketch (Delivery.Logged Delivery.Ledger)).trace
              (renewedRun.map fun event => { event with draw := 0 })).map Station.told := by
  have attached : Station.backlogged.shaper.attached = true := rfl
  have accepted : Station.eagerConfiguration.plan = .ok Plan.steady := by decide +kernel
  have bounded : Station.eagerConfiguration.Bounded := by decide
  obtain ⟨changed, renewed, fresh, done, emptied, created, same, alike⟩ :=
    Shaper.renewed attached accepted bounded rfl 15 20
  refine ⟨attached, accepted, bounded, rfl, changed, renewed, fresh, done, emptied, created, same,
    ?_⟩
  apply alike (⟨{}, []⟩ : Delivery.Logged Delivery.Ledger)
  · rw [List.forall₂_map_right_iff, List.forall₂_same]
    intro event _
    exact ⟨rfl, rfl⟩
  · right
    intro event member configuration asked plan _
    simp only [renewedRun, List.map_cons, List.map_nil, List.mem_cons, List.not_mem_nil,
      or_false] at member
    rcases member with rfl | rfl | rfl | rfl | rfl | rfl <;> cases asked
    rfl

end Shaper

end TrafficShaper
