/-
The operations of a shaper as data, so that whole runs can be spoken about: an event is an
operation with a clock reading and a random word, and a run is a list of events.
-/

import TrafficShaper.Shaper.Basic

namespace TrafficShaper

/-- The operations of a shaper. -/
inductive Operation (P : Type) where
  | enqueue (packet : P)
  | dequeue
  | peek
  | dropOne
  | reset
  | reconfigure (configuration : Configuration)
  | teardown
deriving Repr

/-- The answers to the operations. -/
inductive Reply (P : Type) where
  | enqueued (result : Except (Refusal P) Unit)
  | dequeued (packet : Option P)
  | peeked (head : Option P)
  | dropped (length : Option UInt32)
  | wasReset
  | reconfigured (result : Except ReconfigureError Unit)
  | tornDown (attached : Bool)
deriving Repr

/-- An operation happens at a clock reading, and may use up a random word. -/
structure Event (P : Type) where
  operation : Operation P
  now : Ticks
  draw : UInt64 := 0
deriving Repr

/-- A shaper and its channel. -/
structure Station (P C : Type) where
  shaper : Shaper P
  channel : C
deriving Repr

namespace Station

variable {P C : Type} [Packet P] [Delivery.Channel C]

/-- A station starts with a fresh shaper. -/
def create (configuration : Configuration) (channel : C) (now : Ticks) :
    Except Fault (Except ConfigurationError (Station P C)) :=
  match Shaper.create configuration now with
  | .error fault => .error fault
  | .ok (.error error) => .ok (.error error)
  | .ok (.ok shaper) => .ok (.ok { shaper, channel })

/-- One event changes the station and is answered, or is a fault. -/
def step (station : Station P C) (event : Event P) : Except Fault (Station P C × Reply P) :=
  match event.operation with
  | .enqueue packet => do
      let (shaper, channel, result) ←
        station.shaper.enqueue station.channel packet event.draw
      pure ({ shaper, channel }, .enqueued result)
  | .dequeue => do
      let (shaper, packet) ← station.shaper.dequeue event.now
      pure ({ station with shaper }, .dequeued packet)
  | .peek => pure (station, .peeked station.shaper.peek)
  | .dropOne =>
      let (shaper, length) := station.shaper.dropOne
      pure ({ station with shaper }, .dropped length)
  | .reset => do
      let shaper ← station.shaper.reset event.now
      pure ({ station with shaper }, .wasReset)
  | .reconfigure configuration => do
      let (shaper, result) ← station.shaper.reconfigure configuration event.now
      pure ({ station with shaper }, .reconfigured result)
  | .teardown => do
      let (shaper, attached) ← station.shaper.teardown
      pure ({ station with shaper }, .tornDown attached)

/-- A run answers its events in order; a fault ends it. -/
def run (station : Station P C) : List (Event P) → Except Fault (Station P C × List (Reply P))
  | [] => .ok (station, [])
  | event :: rest => do
      let (station, reply) ← station.step event
      let (station, replies) ← station.run rest
      pure (station, reply :: replies)

end Station

end TrafficShaper
