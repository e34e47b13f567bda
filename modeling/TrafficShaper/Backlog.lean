/-
The backlog holds the packets that wait, first come first, up to a limit. It keeps a count of
their bytes beside the packets themselves.
-/

import TrafficShaper.Packet

namespace TrafficShaper

/-- The discipline says what is limited, and which packet gives way at the limit. -/
inductive Discipline where
  /-- The bytes are limited, and the new packet gives way. -/
  | bytes
  /-- The packets are limited, and the new packet gives way. -/
  | packets
  /-- The packets are limited, and the oldest one gives way. -/
  | headDrop
deriving DecidableEq, Repr

/-- The answer to a packet that is offered. -/
inductive Admission (P : Type) where
  | queued
  | displaced (head : P)
  | rejected (packet : P)
deriving DecidableEq, Repr

/-- A backlog has a limit in the unit of its discipline. -/
structure Backlog (P : Type) where
  discipline : Discipline
  limit : UInt32
  packets : List P := []
  bytes : UInt64 := 0
deriving DecidableEq, Repr

/-- The exact number of bytes in a list of packets. -/
def totalLength {P : Type} [Packet P] : List P → Nat
  | [] => 0
  | packet :: rest => (Packet.length packet).toNat + totalLength rest

namespace Backlog

variable {P : Type} [Packet P]

/-- An empty backlog. -/
def empty (discipline : Discipline) (limit : UInt32) : Backlog P :=
  { discipline, limit }

/-- The oldest packet stands at the head. -/
def head? (backlog : Backlog P) : Option P := backlog.packets.head?

/-- The number of packets that wait. -/
def count (backlog : Backlog P) : Nat := backlog.packets.length

/-- A new packet stands at the tail. -/
def push (backlog : Backlog P) (packet : P) : Backlog P :=
  { backlog with
    packets := backlog.packets ++ [packet]
    bytes := backlog.bytes + (Packet.length packet).toUInt64 }

/-- The head leaves first. -/
def takeHead (backlog : Backlog P) : Option (P × Backlog P) :=
  match backlog.packets with
  | [] => none
  | head :: rest =>
      some (head, { backlog with
        packets := rest
        bytes := backlog.bytes - (Packet.length head).toUInt64 })

/-- The newest packet can be dropped from the tail. -/
def dropTail (backlog : Backlog P) : Option (P × Backlog P) :=
  match backlog.packets.getLast? with
  | none => none
  | some tail =>
      some (tail, { backlog with
        packets := backlog.packets.dropLast
        bytes := backlog.bytes - (Packet.length tail).toUInt64 })

/-- There is no room for one more packet of this length. -/
def full (backlog : Backlog P) (length : UInt32) : Bool :=
  match backlog.discipline with
  | .bytes => backlog.limit.toUInt64 < backlog.bytes + length.toUInt64
  | .packets | .headDrop => backlog.limit.toNat ≤ backlog.count

/-- A packet is queued when there is room; without room the discipline decides. -/
def offer (backlog : Backlog P) (packet : P) : Backlog P × Admission P :=
  if backlog.full (Packet.length packet) then
    match backlog.discipline, backlog.takeHead with
    | .headDrop, some (head, rest) => (rest.push packet, .displaced head)
    | _, _ => (backlog, .rejected packet)
  else (backlog.push packet, .queued)

/-- All packets are let go; the answer is the number of bytes. -/
def clear (backlog : Backlog P) : Backlog P × UInt64 :=
  ({ backlog with packets := [], bytes := 0 }, backlog.bytes)

/-- The packets above a length leave, and the others keep their order. -/
def dropOversized (backlog : Backlog P) (largest : UInt32) : List P × Backlog P :=
  let oversized := backlog.packets.filter fun packet => largest < Packet.length packet
  (oversized, { backlog with
    packets := backlog.packets.filter fun packet => !(largest < Packet.length packet : Bool)
    bytes := backlog.bytes - UInt64.ofNat (totalLength oversized) })

/-- A new discipline and limit leave the packets alone. -/
def relimit (backlog : Backlog P) (discipline : Discipline) (limit : UInt32) : Backlog P :=
  { backlog with discipline, limit }

/-- The backlog holds more than its limit allows, as it can after a change of the limit. -/
def overLimit (backlog : Backlog P) : Bool :=
  match backlog.discipline with
  | .bytes => backlog.limit.toUInt64 < backlog.bytes
  | .packets | .headDrop => backlog.limit.toNat < backlog.count

@[simp] theorem push_packets (backlog : Backlog P) (packet : P) :
    (backlog.push packet).packets = backlog.packets ++ [packet] := rfl

theorem takeHead_packets {backlog rest : Backlog P} {head : P}
    (taken : backlog.takeHead = some (head, rest)) :
    backlog.packets = head :: rest.packets := by
  unfold takeHead at taken
  split at taken
  · contradiction
  · rename_i first others shape
    simp only [Option.some.injEq, Prod.mk.injEq] at taken
    obtain ⟨rfl, rfl⟩ := taken
    exact shape

theorem dropTail_packets {backlog rest : Backlog P} {tail : P}
    (dropped : backlog.dropTail = some (tail, rest)) :
    backlog.packets = rest.packets ++ [tail] := by
  unfold dropTail at dropped
  split at dropped
  · contradiction
  · rename_i last shape
    simp only [Option.some.injEq, Prod.mk.injEq] at dropped
    obtain ⟨rfl, rfl⟩ := dropped
    obtain ⟨front, split⟩ := List.getLast?_eq_some_iff.mp shape
    simp [split]

theorem dropTail_isNone (backlog : Backlog P) :
    backlog.dropTail = none ↔ backlog.packets = [] := by
  unfold dropTail
  split
  · rename_i shape
    simpa using shape
  · rename_i last shape
    constructor
    · intro impossible
      contradiction
    · intro nothing
      rw [nothing] at shape
      contradiction

end Backlog

end TrafficShaper
