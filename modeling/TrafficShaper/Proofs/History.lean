/-
Runs told step by step. A transition is one step with its answer and the stations around it, and
the past of a station are the transitions that led to it from a fresh one. Nothing is asked of the
clock.
-/

import TrafficShaper.Proofs.Reached

namespace TrafficShaper

theorem filterMap_singleton {A B : Type} (f : A → Option B) (a : A) :
    [a].filterMap f = (f a).toList := by
  cases found : f a <;> simp [found]

/-- One step of a run: an event, its answer, and the stations before and after. -/
structure Transition (P C : Type) where
  before : Station P C
  event : Event P
  reply : Reply P
  after : Station P C

namespace Transition

variable {P C : Type} (transition : Transition P C)

/-- The packet that was let in. -/
def accepted? : Option P :=
  match transition.event.operation, transition.reply with
  | .enqueue packet, .enqueued (.ok _) => some packet
  | _, _ => none

/-- The packet that was given out. -/
def released? : Option P :=
  match transition.reply with
  | .dequeued packet => packet
  | _ => none

end Transition

namespace Station

variable {P C : Type} [Packet P] [Delivery.Channel C] {station after : Station P C}

/-- The past of a station begins with its creation, and each event adds a transition. -/
inductive Past : Station P C → List (Transition P C) → Prop where
  | created {configuration : Configuration} {channel : C} {now : Ticks} {station : Station P C}
      (created : Station.create configuration channel now = .ok (.ok station)) :
      Past station []
  | stepped {station after : Station P C} {past : List (Transition P C)} {event : Event P}
      {reply : Reply P} (led : Past station past) (step : station.step event = .ok (after, reply)) :
      Past after (past ++ [⟨station, event, reply, after⟩])

/-- An invariant that does not look at the clock holds whatever the past was. -/
theorem Past.keeps {Holds : Shaper P → Prop}
    (invariant : Shaper.Invariant (fun _ => True) fun shaper _ => Holds shaper)
    (fresh : ∀ {configuration now shaper},
      Shaper.create configuration now = .ok (.ok shaper) → Holds shaper)
    {past : List (Transition P C)} (led : station.Past past) : Holds station.shaper := by
  induction led with
  | created created => exact fresh (create_eq created)
  | stepped _ step ih => exact invariant.step (fun _ _ => trivial) ih step

/-- The transitions of a run. -/
def trace (station : Station P C) :
    List (Event P) → Except Fault (Station P C × List (Transition P C))
  | [] => .ok (station, [])
  | event :: rest => do
      let (middle, reply) ← station.step event
      let (after, transitions) ← middle.trace rest
      pure (after, ⟨station, event, reply, middle⟩ :: transitions)

theorem trace_cons {event : Event P} {rest : List (Event P)}
    {transitions : List (Transition P C)}
    (traced : station.trace (event :: rest) = .ok (after, transitions)) :
    ∃ middle reply others, station.step event = .ok (middle, reply) ∧
      middle.trace rest = .ok (after, others) ∧
      transitions = ⟨station, event, reply, middle⟩ :: others := by
  obtain ⟨⟨middle, reply⟩, stepped, traced⟩ := bind_eq_ok.mp traced
  obtain ⟨⟨last, others⟩, finished, same⟩ := bind_eq_ok.mp traced
  obtain ⟨rfl, rfl⟩ := Prod.mk.inj (Except.ok.inj same)
  exact ⟨middle, reply, others, stepped, finished, rfl⟩

/-- A run answers what its transitions say. -/
theorem run_of_trace {events : List (Event P)} {transitions : List (Transition P C)}
    (traced : station.trace events = .ok (after, transitions)) :
    station.run events = .ok (after, transitions.map Transition.reply) := by
  induction events generalizing station transitions with
  | nil =>
      obtain ⟨rfl, rfl⟩ := Prod.mk.inj (Except.ok.inj traced)
      rfl
  | cons event rest ih =>
      obtain ⟨middle, reply, others, stepped, finished, rfl⟩ := trace_cons traced
      simp only [Station.run, stepped, ih finished, bind, Except.bind, pure, Except.pure,
        List.map_cons]

/-- A run adds its transitions to the past. -/
theorem Past.trace {past transitions : List (Transition P C)} {events : List (Event P)}
    (led : station.Past past) (traced : station.trace events = .ok (after, transitions)) :
    after.Past (past ++ transitions) := by
  induction events generalizing station past transitions with
  | nil =>
      obtain ⟨rfl, rfl⟩ := Prod.mk.inj (Except.ok.inj traced)
      rwa [List.append_nil]
  | cons event rest ih =>
      obtain ⟨middle, reply, others, stepped, finished, rfl⟩ := trace_cons traced
      have continued := ih (.stepped led stepped) finished
      rwa [List.append_assoc, List.singleton_append] at continued

/-- Where events lead and by which transitions; a station that faults on the way stays. -/
def follow (station : Station P C) (events : List (Event P)) :
    Station P C × List (Transition P C) :=
  (station.trace events).toOption.getD (station, [])

theorem trace_follow (station : Station P C) (events : List (Event P))
    (answered : (station.trace events).toOption.isSome) :
    station.trace events = .ok ((station.follow events).1, (station.follow events).2) := by
  cases traced : station.trace events with
  | error fault => simp [traced, Except.toOption] at answered
  | ok result => rw [Station.follow, traced]; rfl

theorem Past.follow {past : List (Transition P C)} (led : station.Past past)
    (events : List (Event P)) (answered : (station.trace events).toOption.isSome) :
    (station.follow events).1.Past (past ++ (station.follow events).2) :=
  led.trace (trace_follow station events answered)

/-- Events in the order of their clock readings lead to a state that is reached. -/
theorem Reached.follow {start : Ticks} (reached : station.Reached start)
    (events : List (Event P)) (ordered : (start :: events.map Event.now).IsChain (· ≤ ·))
    (answered : (station.trace events).toOption.isSome) :
    (station.follow events).1.Reached (Event.lastReading start events) :=
  reached.run ordered (run_of_trace (trace_follow station events answered))

end Station

end TrafficShaper
