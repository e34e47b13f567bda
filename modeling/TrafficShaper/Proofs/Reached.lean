/-
The states that a shaper can reach on a clock that starts at zero or later and never goes back,
under any configurations and with any channel, and how properties are shown of all of them.
-/

import TrafficShaper.Proofs.Operations
import TrafficShaper.Proofs.Plan
import TrafficShaper.Shaper.Run

namespace TrafficShaper

variable {P C : Type} [Packet P] [Delivery.Channel C]

/-- A station is reached from a fresh one by events at clock readings that do not decrease. The
tick is the last clock reading. -/
inductive Station.Reached : Station P C → Ticks → Prop where
  | created {configuration : Configuration} {channel : C} {now : Ticks} {station : Station P C}
      (nonneg : 0 ≤ now)
      (created : Station.create configuration channel now = .ok (.ok station)) :
      Reached station now
  | stepped {station after : Station P C} {last : Ticks} {event : Event P} {reply : Reply P}
      (reached : Reached station last) (order : last ≤ event.now)
      (step : station.step event = .ok (after, reply)) : Reached after event.now

/-- A property of shapers at a clock reading that no operation breaks, as long as a new
configuration is among those that are allowed. -/
structure Shaper.Invariant (Allowed : Configuration → Prop) (Holds : Shaper P → Ticks → Prop) :
    Prop where
  later : ∀ {shaper now later}, Holds shaper now → now ≤ later → Holds shaper later
  accepted : ∀ {shaper after now packet draw answer}, Holds shaper now →
    shaper.accept packet draw = .ok (after, answer) → Holds after now
  settled : ∀ {shaper now} outcome, Holds shaper now → Holds (shaper.settle outcome) now
  dequeued : ∀ {shaper after now answer}, Holds shaper now →
    shaper.dequeue now = .ok (after, answer) → Holds after now
  dropped : ∀ {shaper now}, Holds shaper now → Holds shaper.dropOne.1 now
  reset : ∀ {shaper after now}, Holds shaper now → shaper.reset now = .ok after →
    Holds after now
  reconfigured : ∀ {shaper after now configuration answer}, Allowed configuration →
    Holds shaper now → shaper.reconfigure configuration now = .ok (after, answer) →
      Holds after now
  tornDown : ∀ {shaper after now answer}, Holds shaper now →
    shaper.teardown = .ok (after, answer) → Holds after now

omit [Packet P] [Delivery.Channel C] in
/-- A fresh station holds a fresh shaper. -/
theorem Station.create_eq {configuration : Configuration} {channel : C} {now : Ticks}
    {station : Station P C}
    (created : Station.create configuration channel now = .ok (.ok station)) :
    Shaper.create configuration now = .ok (.ok station.shaper) := by
  unfold Station.create at created
  split at created
  · contradiction
  · simp at created
  · rename_i shaper made
    simp only [Except.ok.injEq] at created
    rw [made, ← created]

omit [Packet P] [Delivery.Channel C] in
theorem Station.create_channel {configuration : Configuration} {channel : C} {now : Ticks}
    {station : Station P C}
    (created : Station.create configuration channel now = .ok (.ok station)) :
    station.channel = channel := by
  unfold Station.create at created
  split at created
  · contradiction
  · simp at created
  · simp only [Except.ok.injEq] at created
    rw [← created]

/-- An event asks for no configuration that is not allowed. -/
def Event.AsksOnlyFor (event : Event P) (Allowed : Configuration → Prop) : Prop :=
  ∀ configuration, event.operation = .reconfigure configuration → Allowed configuration

/-- What can become of a station by an event. -/
inductive Station.StepCase (station : Station P C) :
    Event P → Station P C → Reply P → Prop where
  | enqueue {packet : P} {now : Ticks} {draw : UInt64} {shaper : Shaper P} {channel : C}
      {result : Except (Refusal P) Unit}
      (enqueued : station.shaper.enqueue station.channel packet draw =
        .ok (shaper, channel, result)) :
      StepCase station ⟨.enqueue packet, now, draw⟩ { shaper, channel } (.enqueued result)
  | dequeue {now : Ticks} {draw : UInt64} {shaper : Shaper P} {packet : Option P}
      (dequeued : station.shaper.dequeue now = .ok (shaper, packet)) :
      StepCase station ⟨.dequeue, now, draw⟩ { station with shaper } (.dequeued packet)
  | peek {now : Ticks} {draw : UInt64} :
      StepCase station ⟨.peek, now, draw⟩ station (.peeked station.shaper.peek)
  | dropOne {now : Ticks} {draw : UInt64} :
      StepCase station ⟨.dropOne, now, draw⟩
        { station with shaper := station.shaper.dropOne.1 }
        (.dropped station.shaper.dropOne.2)
  | reset {now : Ticks} {draw : UInt64} {shaper : Shaper P}
      (done : station.shaper.reset now = .ok shaper) :
      StepCase station ⟨.reset, now, draw⟩ { station with shaper } .wasReset
  | reconfigure {configuration : Configuration} {now : Ticks} {draw : UInt64}
      {shaper : Shaper P} {result : Except ReconfigureError Unit}
      (done : station.shaper.reconfigure configuration now = .ok (shaper, result)) :
      StepCase station ⟨.reconfigure configuration, now, draw⟩ { station with shaper }
        (.reconfigured result)
  | teardown {now : Ticks} {draw : UInt64} {shaper : Shaper P} {attached : Bool}
      (done : station.shaper.teardown = .ok (shaper, attached)) :
      StepCase station ⟨.teardown, now, draw⟩ { station with shaper } (.tornDown attached)

theorem Station.step_cases {station after : Station P C} {event : Event P} {reply : Reply P}
    (step : station.step event = .ok (after, reply)) : station.StepCase event after reply := by
  obtain ⟨operation, now, draw⟩ := event
  cases operation with
  | enqueue packet =>
      obtain ⟨⟨shaper, channel, result⟩, enqueued, same⟩ := bind_eq_ok.mp step
      obtain ⟨rfl, rfl⟩ := Prod.mk.inj (Except.ok.inj same)
      exact .enqueue enqueued
  | dequeue =>
      obtain ⟨⟨shaper, packet⟩, dequeued, same⟩ := bind_eq_ok.mp step
      obtain ⟨rfl, rfl⟩ := Prod.mk.inj (Except.ok.inj same)
      exact .dequeue dequeued
  | peek =>
      obtain ⟨rfl, rfl⟩ := Prod.mk.inj (Except.ok.inj step)
      exact .peek
  | dropOne =>
      obtain ⟨rfl, rfl⟩ := Prod.mk.inj (Except.ok.inj step)
      exact .dropOne
  | reset =>
      obtain ⟨shaper, done, same⟩ := bind_eq_ok.mp step
      obtain ⟨rfl, rfl⟩ := Prod.mk.inj (Except.ok.inj same)
      exact .reset done
  | reconfigure configuration =>
      obtain ⟨⟨shaper, result⟩, done, same⟩ := bind_eq_ok.mp step
      obtain ⟨rfl, rfl⟩ := Prod.mk.inj (Except.ok.inj same)
      exact .reconfigure done
  | teardown =>
      obtain ⟨⟨shaper, attached⟩, done, same⟩ := bind_eq_ok.mp step
      obtain ⟨rfl, rfl⟩ := Prod.mk.inj (Except.ok.inj same)
      exact .teardown done

/-- An invariant survives each event of a station. -/
theorem Shaper.Invariant.step {Allowed : Configuration → Prop}
    {Holds : Shaper P → Ticks → Prop} (invariant : Shaper.Invariant Allowed Holds)
    {station after : Station P C} {event : Event P} {reply : Reply P}
    (allowed : event.AsksOnlyFor Allowed) (holds : Holds station.shaper event.now)
    (step : station.step event = .ok (after, reply)) : Holds after.shaper event.now := by
  cases Station.step_cases step with
  | enqueue enqueued =>
      obtain ⟨accepted, answer, accepting, delivery⟩ := enqueue_cases enqueued
      have let_in := invariant.accepted holds accepting
      rcases delivery with ⟨_, _, rfl, _⟩ | ⟨_, rfl, _⟩ | ⟨_, _, rfl, _⟩
      · exact let_in
      · exact let_in
      · exact invariant.settled _ let_in
  | dequeue dequeued => exact invariant.dequeued holds dequeued
  | peek => exact holds
  | dropOne => exact invariant.dropped holds
  | reset done => exact invariant.reset holds done
  | @reconfigure configuration _ _ _ _ done =>
      exact invariant.reconfigured (allowed configuration rfl) holds done
  | teardown done => exact invariant.tornDown holds done

/-- An invariant of a fresh shaper holds in every state that is reached. -/
theorem Shaper.Invariant.reached {Holds : Shaper P → Ticks → Prop}
    (invariant : Shaper.Invariant (fun _ => True) Holds)
    (fresh : ∀ {configuration now shaper}, 0 ≤ now →
      Shaper.create configuration now = .ok (.ok shaper) → Holds shaper now)
    {station : Station P C} {now : Ticks} (reached : station.Reached now) :
    Holds station.shaper now := by
  induction reached with
  | created nonneg created => exact fresh nonneg (Station.create_eq created)
  | stepped _ order step ih =>
      exact invariant.step (fun _ _ => trivial) (invariant.later ih order) step

/-- The clock reading after some events. -/
def Event.lastReading (start : Ticks) (events : List (Event P)) : Ticks :=
  (events.map Event.now).getLast?.getD start

/-- A run of some events is one event and then a run of the others. -/
theorem Station.run_cons {station after : Station P C} {event : Event P} {rest : List (Event P)}
    {replies : List (Reply P)} (run : station.run (event :: rest) = .ok (after, replies)) :
    ∃ middle reply others, station.step event = .ok (middle, reply) ∧
      middle.run rest = .ok (after, others) ∧ replies = reply :: others := by
  obtain ⟨⟨middle, reply⟩, stepped, run⟩ := bind_eq_ok.mp run
  obtain ⟨⟨last, others⟩, finished, same⟩ := bind_eq_ok.mp run
  obtain ⟨rfl, rfl⟩ := Prod.mk.inj (Except.ok.inj same)
  exact ⟨middle, reply, others, stepped, finished, rfl⟩

/-- A run in the order of its clock readings leads to a state that is reached. -/
theorem Station.Reached.run {station after : Station P C} {start : Ticks}
    {events : List (Event P)} {replies : List (Reply P)} (reached : station.Reached start)
    (ordered : (start :: events.map Event.now).IsChain (· ≤ ·))
    (run : station.run events = .ok (after, replies)) :
    after.Reached (Event.lastReading start events) := by
  induction events generalizing station start replies with
  | nil =>
      simp only [Station.run, Except.ok.injEq, Prod.mk.injEq] at run
      obtain ⟨rfl, -⟩ := run
      exact reached
  | cons event rest ih =>
      rw [List.map_cons, List.isChain_cons_cons] at ordered
      obtain ⟨middle, reply, others, stepped, finished, -⟩ := run_cons run
      have later := ih (.stepped reached ordered.1 stepped) ordered.2 finished
      have same : Event.lastReading event.now rest =
          Event.lastReading start (event :: rest) := by
        simp only [Event.lastReading, List.map_cons, List.getLast?_cons, Option.getD_some]
      rwa [same] at later

deriving instance DecidableEq for Delivery.Ledger, Reply, Station

/-- A configuration without a peak rate. -/
def Configuration.steady : Configuration := { rate := 1000000, burst := some 2000 }

/-- The plan of a configuration without a peak rate. -/
def Plan.steady : Plan where
  committed := .forMtu 1000000 1500
  depth := 2000000
  largest := 1999
  limit := 202000
  discipline := .bytes

/-- A fresh station with a peak rate. -/
def Station.fresh : Station Sketch Delivery.Ledger where
  shaper :=
    { configuration := .deepPeak
      bucket := .full .deepPeak 0
      sampler := { settings := {}, shift := 11, topLevel := 63, countdown := 153600 }
      backlog := .empty .bytes 203000 }
  channel := {}

/-- A station that lost a packet to a new configuration, released another, and holds two more. -/
def Station.backlogged : Station Sketch Delivery.Ledger where
  shaper :=
    { configuration := .steady
      bucket := { plan := .steady, tokens := 1000000, peakTokens := 0, checkpoint := 10 }
      sampler :=
        { settings := {}, shift := 11, topLevel := 63, occupancy := 2100, countdown := 153600 }
      backlog :=
        { discipline := .bytes, limit := 202000, packets := [⟨1200, {}⟩, ⟨900, {}⟩],
          bytes := 2100 }
      statistics := { packets := 1, bytes := 1000, drops := 1, oversized := 1 } }
  channel := {}

theorem Station.fresh_created :
    Station.create .deepPeak ({} : Delivery.Ledger) 0 = .ok (.ok Station.fresh) := by
  decide +kernel

theorem Station.backlogged_reached : Station.backlogged.Reached 10 := by
  have run :
      fresh.run
          [⟨.enqueue ⟨2900, {}⟩, 0, 0⟩, ⟨.enqueue ⟨1000, {}⟩, 0, 0⟩, ⟨.enqueue ⟨1200, {}⟩, 0, 0⟩,
            ⟨.enqueue ⟨900, {}⟩, 0, 0⟩, ⟨.reconfigure .steady, 10, 0⟩, ⟨.dequeue, 10, 0⟩] =
        .ok (backlogged,
          [.enqueued (.ok ()), .enqueued (.ok ()), .enqueued (.ok ()), .enqueued (.ok ()),
            .reconfigured (.ok ()), .dequeued (some ⟨1000, {}⟩)]) := by
    decide +kernel
  exact (Reached.created (by decide) fresh_created).run (by decide) run

end TrafficShaper
