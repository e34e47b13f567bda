/-
A channel takes the dispatches of a shaper. Each delivery succeeds or fails at once, and the
channel keeps counters of what became of them.
-/

import TrafficShaper.Notice

namespace TrafficShaper.Delivery

/-- A delivery fails for one of these reasons. -/
inductive Error where
  | busy
  | queueFull
  | closed
  | noLinkAddresses
  | transport
deriving DecidableEq, Repr

/-- The text of a failure; a failure of the transport is told without one. -/
def Error.message? : Error → Option String
  | .busy => some "A feedback delivery is already in progress"
  | .queueFull => some "Feedback queue full"
  | .closed => some "Feedback channel closed"
  | .noLinkAddresses => some "Sampled packet has no link-layer addresses"
  | .transport => none

/-- The outcome of a delivery. -/
abbrev Outcome := Except Error Unit

/-- Each counter wraps at the end of its word. -/
structure Counters where
  /-- Dispatches that the channel took. -/
  accepted : UInt64 := 0
  /-- Dispatches that left the host. -/
  transmitted : UInt64 := 0
  /-- Deliveries that found another one in progress. -/
  busy : UInt64 := 0
  /-- Deliveries that found the queue full. -/
  queueFull : UInt64 := 0
  /-- Failures of the transport. -/
  transportErrors : UInt64 := 0
deriving DecidableEq, Repr

namespace Counters

def countAccepted (counters : Counters) : Counters :=
  { counters with accepted := counters.accepted + 1 }

def countTransmitted (counters : Counters) : Counters :=
  { counters with transmitted := counters.transmitted + 1 }

def countBusy (counters : Counters) : Counters :=
  { counters with busy := counters.busy + 1 }

def countQueueFull (counters : Counters) : Counters :=
  { counters with queueFull := counters.queueFull + 1 }

def countTransportError (counters : Counters) : Counters :=
  { counters with transportErrors := counters.transportErrors + 1 }

/-- A channel that sends at once accepts and transmits together. -/
def countSent (counters : Counters) (sent : Bool) : Counters :=
  if sent then counters.countAccepted.countTransmitted else counters.countTransportError

end Counters

/-- A channel answers each dispatch and changes by it. -/
class Channel (C : Type) where
  deliver : C → Dispatch → C × Outcome
  counters : C → Counters

/-- A ledger gives one fixed answer and keeps what it accepts, the first dispatch first. It sends
nothing, so it counts nothing. -/
structure Ledger where
  answer : Outcome := .ok ()
  accepted : List Dispatch := []
deriving Repr

instance : Channel Ledger where
  deliver ledger dispatch :=
    match ledger.answer with
    | .ok _ => ({ ledger with accepted := ledger.accepted ++ [dispatch] }, .ok ())
    | .error error => (ledger, .error error)
  counters _ := {}

end TrafficShaper.Delivery
