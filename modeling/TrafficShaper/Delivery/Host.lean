/-
The host on which a shaper runs decides which channels it can have, and whether a collector can
listen on the host itself.
-/

import TrafficShaper.Delivery.Injector
import TrafficShaper.Delivery.Sender
import TrafficShaper.Delivery.Worker
import TrafficShaper.Shaper.Run
import TrafficShaper.Wire.Datagram

namespace TrafficShaper.Delivery

/-- The network of a host. -/
structure Host where
  /-- The names of the link interfaces. -/
  interfaces : List String := []
  /-- The host can be reached under its own loopback address. -/
  loopback : Bool := false
deriving DecidableEq, Repr

/-- An isolated host has no interface, not even the loopback. -/
def Host.isolated : Host := {}

/-- The ways to deliver notices. -/
inductive Strategy where
  | inline (collector : CollectorAddress)
  | worker (options : WorkerOptions) (collector : CollectorAddress)
  | raw (interface : String)
deriving Repr

/-- A worker sends datagrams unless another way is named. -/
def Strategy.usual : Strategy := .worker {} .usual

/-- A carrier is a channel of one of the strategies. -/
inductive Carrier where
  | inline (sender : Sender)
  | worker (worker : Worker)
  | raw (injector : Injector)

namespace Carrier

/-- Each carrier delivers in its own way. -/
def deliver (carrier : Carrier) (dispatch : Dispatch) : Carrier × Outcome :=
  match carrier with
  | .inline sender =>
      let (sender, outcome) := sender.deliver dispatch
      (.inline sender, outcome)
  | .worker background =>
      let (background, outcome) := background.deliver dispatch
      (.worker background, outcome)
  | .raw injector =>
      let (injector, outcome, _) := injector.deliver dispatch
      (.raw injector, outcome)

/-- The counters of the channel. -/
def counters : Carrier → Counters
  | .inline sender => sender.counters
  | .worker background => background.queue.counters
  | .raw injector => injector.counters

end Carrier

instance : Channel Carrier where
  deliver := Carrier.deliver
  counters := Carrier.counters

/-- A connection fails on an invalid configuration or on an unknown interface. -/
inductive ConnectError where
  | invalid (error : ConfigurationError)
  | noInterface (name : String)
deriving DecidableEq, Repr

/-- The text of a failed connection. -/
def ConnectError.message : ConnectError → String
  | .invalid error => (ReconfigureError.invalid error).message
  | .noInterface name => "Feedback channel error: Network interface not found: " ++ name

/-- A transport that sends datagrams to a collector. -/
def datagramTransport (collector : CollectorAddress) : Transport :=
  fun _ dispatch => { success := (collector.resolve dispatch.notice).sendable }

/-- A worker that sends datagrams to a collector. -/
def datagramWorker (options : WorkerOptions) (collector : CollectorAddress) :
    Except Fault Worker := do
  let queue ← Queue.create options.capacity
  pure
    { queue
      transport := datagramTransport collector
      pollInterval := options.pollInterval }

/-- The carrier for a strategy. -/
def Strategy.carrier (strategy : Strategy) (host : Host) :
    Except Fault (Except ConnectError Carrier) :=
  match strategy with
  | .inline collector => .ok (.ok (.inline { collector }))
  | .worker options collector => do
      let worker ← datagramWorker options collector
      pure (.ok (.worker worker))
  | .raw interface =>
      if interface ∈ host.interfaces then .ok (.ok (.raw {}))
      else .ok (.error (.noInterface interface))

/-- A station is connected in three steps: the configuration is looked at, then the carrier is
set up, and then the shaper is made. -/
def connect {P : Type} [Packet P] (configuration : Configuration) (strategy : Strategy)
    (host : Host) (now : Ticks) : Except Fault (Except ConnectError (Station P Carrier)) :=
  match configuration.plan with
  | .error error => .ok (.error (.invalid error))
  | .ok _ => do
      match ← strategy.carrier host with
      | .error error => pure (.error error)
      | .ok carrier =>
          match ← Station.create configuration carrier now with
          | .error error => pure (.error (.invalid error))
          | .ok station => pure (.ok station)

/-- The ways in which datagrams of an exchange are sent. -/
inductive Route where
  | inline
  | worker
deriving DecidableEq, Repr

/-- An exchange sends a datagram as it stands, or delivers a dispatch. -/
inductive Parcel where
  | datagram (bytes : List UInt8)
  | dispatch (dispatch : Dispatch)
deriving DecidableEq, Repr

/-- A collector that listens on its own host, and a carrier that shall reach it. -/
structure Exchange where
  listening : Endpoint
  collector : CollectorAddress
  carrier : Carrier
  /-- The datagrams that arrived, the first one first. -/
  arrived : List (List UInt8) := []

namespace Exchange

/-- The collector listens on the loopback address. -/
def loopbackEndpoint (port : UInt16) : Endpoint := .v4 (Ipv4.ofBytes 127 0 0 1) port

/-- Notices are sent to the loopback address, or to the masked source address. -/
def addressed (mask : Option Ipv4) (port : UInt16) : CollectorAddress :=
  match mask with
  | none => .fixed (loopbackEndpoint port)
  | some mask => .masked mask port

/-- A collector can listen only on a host that reaches itself. Another port than the collector's
can be named for the sender. -/
def open? (host : Host) (route : Route) (mask : Option Ipv4) (port : Option UInt16) :
    Except Fault (Option Exchange) :=
  let listening := CollectorAddress.wellKnownPort
  let collector := addressed mask (port.getD listening)
  if !host.loopback then .ok none
  else
    match route with
    | .inline =>
        .ok (some
          { listening := loopbackEndpoint listening
            collector
            carrier := .inline { collector } })
    | .worker => do
        let worker ← datagramWorker {} collector
        pure (some
          { listening := loopbackEndpoint listening
            collector
            carrier := .worker worker })

/-- A worker has handed its dispatch to the transport before the next parcel is sent. -/
def settled : Carrier → Carrier
  | .worker worker => .worker (worker.settle 0)
  | carrier => carrier

/-- A parcel is sent; a dispatch that left the host arrives if it went to the collector. -/
def send (exchange : Exchange) : Parcel → Exchange × Option Outcome
  | .datagram bytes => ({ exchange with arrived := exchange.arrived ++ [bytes] }, none)
  | .dispatch dispatch =>
      let (carrier, outcome) := exchange.carrier.deliver dispatch
      let endpoint := exchange.collector.resolve dispatch.notice
      let arrived :=
        if endpoint.sendable ∧ endpoint = exchange.listening then
          exchange.arrived ++ [Wire.encode dispatch.notice]
        else exchange.arrived
      ({ exchange with carrier := settled carrier, arrived }, some outcome)

/-- The notices that the collector reads, one datagram after the other. -/
def notices (exchange : Exchange) : List Notice :=
  exchange.arrived.flatMap Wire.Buffer.notices

end Exchange

end TrafficShaper.Delivery
