/-
Congestion notices: what the source of a sampled packet is told.
-/

import TrafficShaper.Address

namespace TrafficShaper

/-- A congestion notice for the source of a sampled packet. -/
structure Notice where
  /-- The destination of the sampled packet. -/
  destination : Ipv4
  /-- The source of the sampled packet, which is to slow down. -/
  source : Ipv4
  /-- The severity of the congestion; more is worse. -/
  level : UInt8
  /-- The equilibrium less the occupancy, in bytes. -/
  offset : Int32
  /-- The occupancy less that of the last sample, in bytes. -/
  delta : Int32
deriving DecidableEq, Repr

/-- A dispatch is a notice with the link addresses of the sampled packet, if it had them. -/
structure Dispatch where
  notice : Notice
  link : Option LinkAddresses := none
deriving DecidableEq, Repr

end TrafficShaper
