/-
The counters of a shaper.
-/

namespace TrafficShaper

/-- Each counter wraps at the end of its word. -/
structure Statistics where
  /-- Packets that were released. -/
  packets : UInt64 := 0
  /-- Bytes that were released. -/
  bytes : UInt64 := 0
  /-- Packets that were dropped for any reason. -/
  drops : UInt64 := 0
  /-- Times that the head had to wait. -/
  overlimits : UInt64 := 0
  /-- Packets that were dropped because they could never be released. -/
  oversized : UInt64 := 0
  /-- Notices that were delivered. -/
  noticesSent : UInt64 := 0
  /-- Notices that could not be delivered. -/
  noticesFailed : UInt64 := 0
deriving DecidableEq, Repr

namespace Statistics

def countReleased (statistics : Statistics) (length : UInt32) : Statistics :=
  { statistics with
    packets := statistics.packets + 1
    bytes := statistics.bytes + length.toUInt64 }

def countDrop (statistics : Statistics) : Statistics :=
  { statistics with drops := statistics.drops + 1 }

def countOverlimit (statistics : Statistics) : Statistics :=
  { statistics with overlimits := statistics.overlimits + 1 }

/-- An oversized packet is a dropped packet too. -/
def countOversized (statistics : Statistics) : Statistics :=
  { statistics with oversized := statistics.oversized + 1 }.countDrop

def countSent (statistics : Statistics) : Statistics :=
  { statistics with noticesSent := statistics.noticesSent + 1 }

def countFailed (statistics : Statistics) : Statistics :=
  { statistics with noticesFailed := statistics.noticesFailed + 1 }

end Statistics

end TrafficShaper
