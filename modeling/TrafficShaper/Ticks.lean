/-
Time is counted in ticks. This file holds the saturating arithmetic on machine words and the
time that a number of bytes takes at a given rate.
-/

namespace TrafficShaper

/-- Ticks are signed nanoseconds since the epoch of a clock. -/
abbrev Ticks := Int64

/-- The second has a thousand million ticks. -/
def ticksPerSecond : Nat := 1000000000

/-- The millisecond has a million ticks. -/
def ticksPerMillisecond : Nat := 1000000

/-- A sum outside the word stops at the nearer end. -/
def saturatingAdd (left right : Int64) : Int64 :=
  Int64.ofIntClamp (left.toInt + right.toInt)

/-- A difference outside the word stops at the nearer end. -/
def saturatingSub (left right : Int64) : Int64 :=
  Int64.ofIntClamp (left.toInt - right.toInt)

/-- A product outside the word stops at the nearer end. -/
def saturatingMul (left right : Int64) : Int64 :=
  Int64.ofIntClamp (left.toInt * right.toInt)

/-- A sum of unsigned words stops at the largest word. -/
def cappedAdd (left right : UInt64) : UInt64 :=
  if left.toNat + right.toNat < UInt64.size then left + right else UInt64.ofNat (UInt64.size - 1)

/-- A product of unsigned words stops at the largest word. -/
def cappedMul (left right : UInt64) : UInt64 :=
  if left.toNat * right.toNat < UInt64.size then left * right else UInt64.ofNat (UInt64.size - 1)

/-- A product of unsigned half words stops at the largest half word. -/
def cappedMulHalf (left right : UInt32) : UInt32 :=
  if left.toNat * right.toNat < UInt32.size then left * right else UInt32.ofNat (UInt32.size - 1)

/-- The largest value of a half word. -/
def halfWordMax : UInt64 := 4294967295

/-- An arithmetic shift keeps the sign, and its amount counts modulo the width of the word. -/
def shiftDown (value : Int64) (amount : UInt8) : Int64 :=
  Int64.ofInt (value.toInt >>> (amount.toNat % 64))

/-- The signed reading of an unsigned word keeps its bits. -/
def signedWord (value : UInt64) : Int64 := Int64.ofNat value.toNat

/-- The time that `size` bytes take at `rate` bytes per second; a zero rate never finishes. -/
def transmitTime (rate size : UInt64) : Ticks :=
  if rate = 0 then Int64.maxValue
  else Int64.ofIntClamp (size.toNat * ticksPerSecond / rate.toNat : Nat)

end TrafficShaper
