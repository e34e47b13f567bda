/-
Collectors are where notices are sent to. This file holds their addresses.
-/

import TrafficShaper.Notice

namespace TrafficShaper.Delivery

/-- The place to which a datagram is sent. A host outside the four-byte network is kept as its
literal, since nothing is computed from it. -/
inductive Endpoint where
  | v4 (address : Ipv4) (port : UInt16)
  | v6 (literal : String) (port : UInt16)
deriving DecidableEq, Repr

namespace Endpoint

/-- The port of an endpoint. -/
def port : Endpoint → UInt16
  | .v4 _ port => port
  | .v6 _ port => port

/-- The address and the port with a colon between them; a literal stands in brackets. -/
def text : Endpoint → String
  | .v4 address port => s!"{address.text}:{port}"
  | .v6 literal port => s!"[{literal}]:{port}"

/-- A port is a number below 65536. -/
def parsePort? (text : String) : Option UInt16 := do
  let number ← text.toNat?
  if number < UInt16.size then some (UInt16.ofNat number) else none

/-- The endpoint that a text stands for. -/
def parse? (text : String) : Option Endpoint :=
  match text.splitOn "]:" with
  | [opened, port] =>
      match opened.toList with
      | '[' :: literal => (parsePort? port).map (.v6 (String.ofList literal))
      | _ => none
  | _ =>
      match text.splitOn ":" with
      | [address, port] => do some (.v4 (← Ipv4.parse? address) (← parsePort? port))
      | _ => none

/-- No datagram can be sent to port zero. -/
def sendable (endpoint : Endpoint) : Bool := endpoint.port ≠ 0

end Endpoint

/-- The address of the collector, which may depend on the source of the sampled packet. -/
inductive CollectorAddress where
  | fixed (endpoint : Endpoint)
  | masked (mask : Ipv4) (port : UInt16)
deriving DecidableEq, Repr

namespace CollectorAddress

/-- The port on which collectors listen. -/
def wellKnownPort : UInt16 := 6660

/-- Notices go to the own host unless another collector is named. -/
def usual : CollectorAddress := .fixed (.v4 (Ipv4.ofBytes 127 0 0 1) wellKnownPort)

/-- The endpoint for a notice: a mask picks a part of the source address. -/
def resolve (address : CollectorAddress) (notice : Notice) : Endpoint :=
  match address with
  | .fixed endpoint => endpoint
  | .masked mask port => .v4 (notice.source.masked mask) port

end CollectorAddress

end TrafficShaper.Delivery
