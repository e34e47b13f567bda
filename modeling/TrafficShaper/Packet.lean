/-
Packets, as far as a shaper looks at them: a length, and the addresses in their headers.
-/

import TrafficShaper.Address

namespace TrafficShaper

/-- The addresses that a packet's headers show. -/
structure Headers where
  network : Option NetworkAddresses := none
  link : Option LinkAddresses := none
deriving DecidableEq, Repr

/-- A packet has a length in bytes and headers. -/
class Packet (P : Type) where
  length : P → UInt32
  headers : P → Headers

/-- The outermost header of a frame. -/
inductive Layer where
  | ethernet
  | network
deriving DecidableEq, Repr

/-- A frame is a packet that is held as bytes. -/
structure Frame where
  layer : Layer
  bytes : List UInt8
deriving DecidableEq, Repr

/-- The type number of a network packet in a link frame. -/
def networkType : UInt8 × UInt8 := (0x08, 0x00)

/-- A network header has twenty bytes or more, begins with version four, and ends with the two
addresses. -/
def NetworkAddresses.ofHeader? : List UInt8 → Option NetworkAddresses
  | version :: _ :: _ :: _ :: _ :: _ :: _ :: _ :: _ :: _ :: _ :: _ ::
    s1 :: s2 :: s3 :: s4 :: d1 :: d2 :: d3 :: d4 :: _ =>
      if version.toNat / 16 = 4 then
        some ⟨Ipv4.ofBytes s1 s2 s3 s4, Ipv4.ofBytes d1 d2 d3 d4⟩
      else none
  | _ => none

/-- A link header has the two addresses, the receiver's first, and the type of its payload. -/
def linkHeader? (bytes : List UInt8) : Option (LinkAddresses × (UInt8 × UInt8) × List UInt8) := do
  let (destination, rest) ← Mac.take? bytes
  let (source, rest) ← Mac.take? rest
  match rest with
  | high :: low :: payload => some (⟨source, destination⟩, (high, low), payload)
  | _ => none

namespace Frame

/-- A length past the half word counts as the largest one. -/
def length (frame : Frame) : UInt32 :=
  UInt32.ofNat (min frame.bytes.length (UInt32.size - 1))

/-- The headers of a frame; what is too short or of another kind has no addresses. -/
def headers (frame : Frame) : Headers :=
  match frame.layer with
  | .network => { network := NetworkAddresses.ofHeader? frame.bytes }
  | .ethernet =>
      match linkHeader? frame.bytes with
      | none => {}
      | some (link, type, payload) =>
          { network := if type = networkType then NetworkAddresses.ofHeader? payload else none
            link := some link }

instance : Packet Frame where
  length := Frame.length
  headers := Frame.headers

/-- Bytes are cut or filled with zeros to a given length. -/
def resized (frame : Frame) (length : Nat) : Frame :=
  { frame with
    bytes := frame.bytes.take length ++ List.replicate (length - frame.bytes.length) 0 }

end Frame

/-- A sketch is a packet that is known by its length and headers alone. -/
structure Sketch where
  length : UInt32
  headers : Headers := {}
deriving DecidableEq, Repr

instance : Packet Sketch where
  length := Sketch.length
  headers := Sketch.headers

/-- A sketch with a number can be told apart from others of its kind. -/
structure NumberedSketch extends Sketch where
  number : Nat
deriving DecidableEq, Repr

instance : Packet NumberedSketch where
  length packet := packet.length
  headers packet := packet.headers

/-- The sketch of a packet keeps all that a shaper looks at. -/
def Sketch.of {P : Type} [Packet P] (packet : P) : Sketch where
  length := Packet.length packet
  headers := Packet.headers packet

end TrafficShaper
