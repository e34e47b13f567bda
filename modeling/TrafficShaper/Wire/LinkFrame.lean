/-
The link frame of a notice: receiver, sender, the type of notices, and one record.
-/

import TrafficShaper.Packet
import TrafficShaper.Wire.Record

namespace TrafficShaper.Wire

/-- The type number of a frame that carries a notice. -/
def noticeType : UInt8 × UInt8 := (0xA9, 0xA9)

/-- The number of bytes of a link header. -/
def headerLength : Nat := 14

/-- The frame that carries a notice between two link addresses. -/
def encodeFrame (notice : Notice) (link : LinkAddresses) : List UInt8 :=
  link.destination.bytes ++ link.source.bytes ++ [noticeType.1, noticeType.2] ++ encode notice

/-- A frame is read header first, then its type is looked at, and then its record. -/
def decodeFrame (bytes : List UInt8) : Except Error (LinkAddresses × Notice) :=
  match linkHeader? bytes with
  | none => .error (.short headerLength bytes.length)
  | some (link, type, payload) =>
      if type = noticeType then
        match decode payload with
        | .ok (notice, _) => .ok (link, notice)
        | .error error => .error error
      else .error (.foreignType (UInt16.ofNat (type.1.toNat * 256 + type.2.toNat)))

end TrafficShaper.Wire
