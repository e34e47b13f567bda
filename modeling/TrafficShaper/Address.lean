/-
Network and link addresses, with their usual text.
-/

import TrafficShaper.Hexadecimal

namespace TrafficShaper

/-- A network address of four bytes. -/
structure Ipv4 where
  word : UInt32
deriving DecidableEq, Repr, Inhabited

namespace Ipv4

/-- The address with the given four bytes. -/
def ofBytes (first second third fourth : UInt8) : Ipv4 :=
  ⟨UInt32.ofNat
    (first.toNat * 16777216 + second.toNat * 65536 + third.toNat * 256 + fourth.toNat)⟩

/-- A mask keeps the bits that it has set. -/
def masked (address mask : Ipv4) : Ipv4 := ⟨address.word &&& mask.word⟩

/-- Four decimal numbers with points between them. -/
def text (address : Ipv4) : String :=
  let word := address.word.toNat
  ".".intercalate
    [toString (word / 16777216), toString (word / 65536 % 256), toString (word / 256 % 256),
      toString (word % 256)]

/-- Only four decimal numbers below 256 are an address. -/
def parse? (text : String) : Option Ipv4 :=
  match (text.splitOn ".").map String.toNat? with
  | [some first, some second, some third, some fourth] =>
      if first < 256 ∧ second < 256 ∧ third < 256 ∧ fourth < 256 then
        some (ofBytes first.toUInt8 second.toUInt8 third.toUInt8 fourth.toUInt8)
      else none
  | _ => none

end Ipv4

/-- A link address of six bytes. -/
structure Mac where
  first : UInt8
  second : UInt8
  third : UInt8
  fourth : UInt8
  fifth : UInt8
  sixth : UInt8
deriving DecidableEq, Repr

namespace Mac

/-- The six bytes in the order in which they are sent. -/
def bytes (address : Mac) : List UInt8 :=
  [address.first, address.second, address.third, address.fourth, address.fifth, address.sixth]

/-- The first six bytes are the address, and the others are left. -/
def take? : List UInt8 → Option (Mac × List UInt8)
  | first :: second :: third :: fourth :: fifth :: sixth :: rest =>
      some (⟨first, second, third, fourth, fifth, sixth⟩, rest)
  | _ => none

/-- Six pairs of digits with colons between them. -/
def text (address : Mac) : String :=
  ":".intercalate (address.bytes.map fun byte => Hexadecimal.render [byte])

/-- Only six pairs of digits are an address. -/
def parse? (text : String) : Option Mac := do
  let pairs ← (text.splitOn ":").mapM Hexadecimal.parse?
  let (address, rest) ← take? pairs.flatten
  if rest.isEmpty then some address else none

theorem eq_append_of_take {given rest : List UInt8} {address : Mac}
    (taken : take? given = some (address, rest)) : given = address.bytes ++ rest := by
  unfold take? at taken
  split at taken
  · simp only [Option.some.injEq, Prod.mk.injEq] at taken
    obtain ⟨rfl, rfl⟩ := taken
    rfl
  · contradiction

end Mac

/-- The network addresses of a packet. -/
structure NetworkAddresses where
  source : Ipv4
  destination : Ipv4
deriving DecidableEq, Repr

/-- The link addresses of a packet. -/
structure LinkAddresses where
  source : Mac
  destination : Mac
deriving DecidableEq, Repr

/-- An answer goes back the way the packet came. -/
def LinkAddresses.reversed (link : LinkAddresses) : LinkAddresses :=
  ⟨link.destination, link.source⟩

end TrafficShaper
