/-
Bytes as text: two lower-case digits for each byte, and nothing between them.
-/

namespace TrafficShaper.Hexadecimal

/-- The digit of a value below sixteen. -/
def digit (value : Nat) : Char :=
  if value < 10 then Char.ofNat (48 + value) else Char.ofNat (87 + value)

/-- The value of a digit, in either case. -/
def value? (digit : Char) : Option Nat :=
  if '0' ≤ digit ∧ digit ≤ '9' then some (digit.toNat - 48)
  else if 'a' ≤ digit ∧ digit ≤ 'f' then some (digit.toNat - 87)
  else if 'A' ≤ digit ∧ digit ≤ 'F' then some (digit.toNat - 55)
  else none

/-- The two digits of a byte, the high one first. -/
def digits (byte : UInt8) : List Char :=
  [digit (byte.toNat / 16), digit (byte.toNat % 16)]

/-- The text of a list of bytes. -/
def render (bytes : List UInt8) : String :=
  String.ofList (bytes.flatMap digits)

/-- Pairs of digits are read as bytes; an odd digit or a foreign sign is refused. -/
def bytes? : List Char → Option (List UInt8)
  | [] => some []
  | high :: low :: rest => do
      let first ← value? high
      let second ← value? low
      let bytes ← bytes? rest
      pure (UInt8.ofNat (first * 16 + second) :: bytes)
  | [_] => none

/-- The bytes that a text stands for. -/
def parse? (text : String) : Option (List UInt8) := bytes? text.toList

end TrafficShaper.Hexadecimal
