/-
A handle shares one shaper between tasks. An operation holds the shaper for its own time only.
Once it has let go, it wakes those receivers for which a packet may now go sooner.
-/

import TrafficShaper.Shaper.Run
import TrafficShaper.Shared.Wakeup

namespace TrafficShaper.Shared

/-- Whom an operation wakes once it no longer holds the shaper. -/
inductive Signal where
  | nobody
  | one
  | everybody
deriving DecidableEq, Repr

namespace Signal

/-- A packet that was let in and a new configuration wake one receiver, and the end of the shaper
wakes them all. -/
def ofReply {P : Type} : Reply P → Signal
  | .enqueued (.ok _) => .one
  | .reconfigured (.ok _) => .one
  | .tornDown _ => .everybody
  | _ => .nobody

/-- The wake-ups are sent. -/
def send (signal : Signal) (wakeup : Wakeup) : Wakeup :=
  match signal with
  | .nobody => wakeup
  | .one => wakeup.notifyOne
  | .everybody => wakeup.notifyAll

end Signal

/-- A shared station and the wake-ups of its receivers. -/
structure Handle (P C : Type) where
  station : Station P C
  wakeup : Wakeup := {}
deriving Repr

/-- What a receiver finds while it holds the shaper. -/
inductive Sight (P : Type) where
  | destroyed
  | released (packet : P)
  /-- No packet may leave, before the deadline if there is one. -/
  | held (deadline : Option Ticks)
deriving DecidableEq, Repr

namespace Handle

variable {P C : Type} [Packet P] [Delivery.Channel C]

/-- The first half of an operation holds the shaper. -/
def hold (handle : Handle P C) (event : Event P) : Except Fault (Handle P C × Reply P) := do
  let (station, reply) ← handle.station.step event
  pure ({ handle with station }, reply)

/-- The second half of an operation sends the wake-ups that its reply calls for. -/
def signal (handle : Handle P C) (reply : Reply P) : Handle P C :=
  { handle with wakeup := (Signal.ofReply reply).send handle.wakeup }

/-- An operation with nothing between its halves. -/
def perform (handle : Handle P C) (event : Event P) : Except Fault (Handle P C × Reply P) := do
  let (handle, reply) ← handle.hold event
  pure (handle.signal reply, reply)

/-- A receiver looks at the shaper while it holds it. -/
def look (handle : Handle P C) (now : Ticks) : Except Fault (Handle P C × Sight P) :=
  if !handle.station.shaper.attached then .ok (handle, .destroyed)
  else do
    let (shaper, packet) ← handle.station.shaper.dequeue now
    let handle := { handle with station := { handle.station with shaper } }
    match packet with
    | some packet => pure (handle, .released packet)
    | none => pure (handle, .held shaper.timer.deadline)

/-- A receiver first waits for a wake-up and then looks, so that none is lost in between. A kept
wake-up makes it look once more. A receiver that found something waits no longer. -/
def attempt (handle : Handle P C) (ticket : Nat) (now : Ticks) :
    Except Fault (Handle P C × Sight P) := do
  let (wakeup, taken) := (handle.wakeup.resume ticket).enable ticket
  let (handle, sight) ← { handle with wakeup }.look now
  match sight with
  | .held _ =>
      if taken then
        let (handle, sight) ←
          { handle with wakeup := (handle.wakeup.enable ticket).1 }.look now
        match sight with
        | .held _ => pure (handle, sight)
        | _ => pure ({ handle with wakeup := handle.wakeup.resume ticket }, sight)
      else pure (handle, sight)
  | _ => pure ({ handle with wakeup := handle.wakeup.resume ticket }, sight)

end Handle

end TrafficShaper.Shared
