/-
A session is a shared shaper with its worker and its receivers. On a time line the worker and the
receivers run at the times for which they wait.
-/

import TrafficShaper.Delivery.Worker
import TrafficShaper.Shared.Handle

namespace TrafficShaper.Shared

/-- What a receiver is doing. -/
inductive ReceiverPhase where
  | starting
  /-- The receiver waits for a wake-up, or for the given time. -/
  | parked (time : Option Nat)
  | ended
deriving DecidableEq, Repr

/-- A receiver waits under a ticket of its own. -/
structure Receiver where
  ticket : Nat
  phase : ReceiverPhase := .starting
deriving DecidableEq, Repr

/-- The log of the receivers tells each packet, and when a receiver ended. -/
inductive ReceiverEvent (P : Type) where
  | received (time : Nat) (packet : P)
  | ended (time : Nat)
deriving DecidableEq, Repr

/-- What a script gets that waits for a packet. -/
inductive Received (P : Type) where
  | packet (packet : P)
  | destroyed
  | timedOut
deriving DecidableEq, Repr

/-- A shared shaper with its receivers and their log. -/
structure Session (P : Type) where
  handle : Handle P Delivery.Worker
  receivers : List Receiver := []
  log : List (ReceiverEvent P) := []

namespace Session

variable {P : Type} [Packet P]

/-- The clock of the shaper starts with the time line. -/
def clock : EpochClock := {}

/-- The worker of the session. -/
def worker (session : Session P) : Delivery.Worker := session.handle.station.channel

/-- The session with another state of its worker. -/
def withWorker (session : Session P) (worker : Delivery.Worker) : Session P :=
  { session with
    handle := { session.handle with
      station := { session.handle.station with channel := worker } } }

/-- The session with one more event in its log. -/
def logged (session : Session P) (event : ReceiverEvent P) : Session P :=
  { session with log := session.log ++ [event] }

/-- The ticket of the script; those of the receivers are greater. -/
def scriptTicket : Nat := 0

/-- A new receiver runs as soon as the script waits. -/
def addReceiver (session : Session P) : Session P :=
  { session with
    receivers := session.receivers ++ [{ ticket := session.receivers.length + 1 }] }

/-- The time at which a deadline is noticed. -/
def alarm (deadline : Option Ticks) : Option Nat :=
  deadline.map fun ticks => wholeMillisecond (clock.instant ticks)

/-- The time at which a receiver runs next, if time alone can bring it about. -/
def receiverTime? (session : Session P) (now : Nat) (receiver : Receiver) : Option Nat :=
  match receiver.phase with
  | .starting => some now
  | .parked time => if receiver.ticket ∈ session.handle.wakeup.woken then some now else time
  | .ended => none

/-- A receiver takes packets until it is held or the shaper is destroyed. -/
def drain (session : Session P) (ticket now : Nat) :
    Nat → Except Fault (Session P × ReceiverPhase)
  | 0 => .ok (session, .parked none)
  | count + 1 =>
      match session.handle.attempt ticket (clock.now now) with
      | .error fault => .error fault
      | .ok (handle, .destroyed) => .ok ({ session with handle }.logged (.ended now), .ended)
      | .ok (handle, .released packet) =>
          ({ session with handle }.logged (.received now packet)).drain ticket now count
      | .ok (handle, .held deadline) => .ok ({ session with handle }, .parked (alarm deadline))

/-- A receiver that is due runs. It can take no more packets than there are. -/
def runReceiver (session : Session P) (now : Nat) (receiver : Receiver) :
    Except Fault (Session P × Receiver) :=
  if (session.receiverTime? now receiver).any (· ≤ now) then
    match session.drain receiver.ticket now (session.handle.station.shaper.backlog.count + 1) with
    | .error fault => .error fault
    | .ok (session, phase) => .ok (session, { receiver with phase })
  else .ok (session, receiver)

/-- The receivers that are due run one after the other. -/
def runReceivers (session : Session P) (now : Nat) :
    List Receiver → Except Fault (Session P × List Receiver)
  | [] => .ok (session, [])
  | receiver :: rest => do
      let (session, receiver) ← session.runReceiver now receiver
      let (session, rest) ← session.runReceivers now rest
      pure (session, receiver :: rest)

/-- The worker and the receivers do all that they can do at the present time. -/
def settle (session : Session P) (now : Nat) : Except Fault (Session P) := do
  let session := session.withWorker (session.worker.settle now)
  let (session, receivers) ← session.runReceivers now session.receivers
  pure { session with receivers }

/-- The earlier of two times. -/
def earlier : Option Nat → Option Nat → Option Nat
  | some first, some second => some (min first second)
  | some first, none => some first
  | none, second => second

/-- The time at which the worker or a receiver runs next. -/
def wakeTime? (session : Session P) (now : Nat) : Option Nat :=
  session.receivers.foldl
    (fun time receiver => earlier time (session.receiverTime? now receiver))
    (session.worker.wakeTime? now)

instance : Timed (Session P) where
  wakeTime? := Session.wakeTime?
  settle := Session.settle

/-- The script gives up its wait for a packet. -/
def giveUp (session : Session P) : Session P :=
  { session with handle := { session.handle with
      wakeup := session.handle.wakeup.withdraw scriptTicket } }

/-- The script waits for a packet, at most until the limit. It tries again when the head is due,
and each try comes later than the one before. -/
def receiveUntil (line : Timeline (Session P)) (limit : Nat) :
    Nat → Except Fault (Timeline (Session P) × Received P)
  | 0 => .ok ({ line with system := line.system.giveUp }, .timedOut)
  | count + 1 =>
      match line.system.handle.attempt scriptTicket (clock.now line.now) with
      | .error fault => .error fault
      | .ok (handle, .destroyed) =>
          .ok ({ line with system := { line.system with handle } }, .destroyed)
      | .ok (handle, .released packet) =>
          .ok ({ line with system := { line.system with handle } }, .packet packet)
      | .ok (handle, .held deadline) =>
          let held := { line with system := { line.system with handle } }
          let due := (alarm deadline).getD (limit + 1)
          if limit ≤ line.now then
            .ok ({ held with system := held.system.giveUp }, .timedOut)
          else
            match held.waitUntil (min due limit) with
            | .error fault => .error fault
            | .ok waited =>
                if due ≤ limit then receiveUntil waited limit count
                else .ok ({ waited with system := waited.system.giveUp }, .timedOut)

/-- The script waits for a packet for a limited time. -/
def receive (line : Timeline (Session P)) (ticks : Nat) :
    Except Fault (Timeline (Session P) × Received P) :=
  let limit := line.after ticks
  receiveUntil line limit (limit - line.now + 2)

/-- An operation of the script takes no time. -/
def perform (line : Timeline (Session P)) (operation : Operation P) :
    Except Fault (Timeline (Session P) × Reply P) := do
  let (handle, reply) ← line.system.handle.perform { operation, now := clock.now line.now }
  pure ({ line with system := { line.system with handle } }, reply)

/-- The shaper is torn down, and its worker is shut down with it. -/
def destroy (line : Timeline (Session P)) : Except Fault (Timeline (Session P)) := do
  let attached := line.system.handle.station.shaper.attached
  let (line, _) ← perform line .teardown
  if attached then
    Timeline.await
      { line with system := line.system.withWorker line.system.worker.cancel }
      (fun session => session.worker.isStopped) Delivery.Worker.stopMoves
  else pure line

end Session

end TrafficShaper.Shared
