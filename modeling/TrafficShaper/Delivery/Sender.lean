/-
A sender sends each dispatch as one datagram, at once and on the spot. A delivery that is made
during a delivery of the same sender finds it busy.
-/

import TrafficShaper.Delivery.Channel
import TrafficShaper.Delivery.Collector
import TrafficShaper.Wire.Record

namespace TrafficShaper.Delivery

/-- A sender with its collector. -/
structure Sender where
  collector : CollectorAddress := .usual
  sending : Bool := false
  /-- The datagrams that were sent, each with the place it went to. -/
  sent : List (Endpoint × List UInt8) := []
  counters : Counters := {}
deriving Repr

namespace Sender

/-- The notice is sent, unless its collector cannot be reached. -/
def deliver (sender : Sender) (dispatch : Dispatch) : Sender × Outcome :=
  if sender.sending then
    ({ sender with counters := sender.counters.countBusy }, .error .busy)
  else
    let endpoint := sender.collector.resolve dispatch.notice
    if endpoint.sendable then
      ({ sender with
          sent := sender.sent ++ [(endpoint, Wire.encode dispatch.notice)]
          counters := sender.counters.countSent true },
        .ok ())
    else ({ sender with counters := sender.counters.countSent false }, .error .transport)

end Sender

instance : Channel Sender where
  deliver := Sender.deliver
  counters := Sender.counters

end TrafficShaper.Delivery
