/-
The byte count of a backlog is exact: each operation changes it by just the lengths of the packets
that come and go, and it never wraps, because a backlog within its limit holds far fewer bytes
than a word can count.
-/

import TrafficShaper.Backlog
import Mathlib

namespace TrafficShaper

variable {P : Type} [Packet P]

@[simp] theorem totalLength_nil : totalLength ([] : List P) = 0 := rfl

@[simp] theorem totalLength_cons (packet : P) (packets : List P) :
    totalLength (packet :: packets) = (Packet.length packet).toNat + totalLength packets := rfl

@[simp] theorem totalLength_append (front back : List P) :
    totalLength (front ++ back) = totalLength front + totalLength back := by
  induction front with
  | nil => rw [List.nil_append, totalLength_nil, Nat.zero_add]
  | cons packet rest ih =>
      rw [List.cons_append, totalLength_cons, totalLength_cons, ih, Nat.add_assoc]

/-- Fewer packets have no more bytes. -/
theorem totalLength_le_of_sublist {fewer packets : List P} (sublist : fewer.Sublist packets) :
    totalLength fewer ≤ totalLength packets := by
  induction sublist with
  | slnil => exact Nat.le_refl _
  | cons packet _ ih =>
      rw [totalLength_cons]
      exact Nat.le_trans ih (Nat.le_add_left _ _)
  | cons_cons packet _ ih =>
      rw [totalLength_cons, totalLength_cons]
      exact Nat.add_le_add_left ih _

/-- A packet is shorter than `2 ^ 32` bytes. -/
theorem totalLength_le (packets : List P) :
    totalLength packets ≤ packets.length * (2 ^ 32 - 1) := by
  induction packets with
  | nil => simp
  | cons packet rest ih =>
      have bound := (Packet.length packet).toNat_lt
      rw [totalLength_cons, List.length_cons, Nat.succ_mul]
      omega

/-- Packets that are told apart by a test have the bytes of all together. -/
theorem totalLength_filter_add (test : P → Bool) (packets : List P) :
    totalLength (packets.filter test) + totalLength (packets.filter fun packet => !test packet) =
      totalLength packets := by
  induction packets with
  | nil => rfl
  | cons packet rest ih =>
      by_cases passes : test packet
      · simp only [List.filter_cons, passes, if_true, Bool.not_true, Bool.false_eq_true, if_false,
          totalLength_cons, ← ih]
        omega
      · simp only [List.filter_cons, passes, Bool.false_eq_true, if_false, Bool.not_false, if_true,
          totalLength_cons, ← ih]
        omega

namespace Discipline

variable {discipline : Discipline} {limit : UInt32} {kept fewer packets : List P}

/-- Packets are within a limit in the unit of a discipline. -/
def Within (discipline : Discipline) (limit : UInt32) (packets : List P) : Prop :=
  match discipline with
  | .bytes => totalLength packets ≤ limit.toNat
  | .packets | .headDrop => packets.length ≤ limit.toNat

theorem Within.nil : discipline.Within limit ([] : List P) := by
  cases discipline <;> exact Nat.zero_le _

/-- Fewer packets are within each limit that more packets are within. -/
theorem Within.sublist (within : discipline.Within limit packets)
    (sublist : fewer.Sublist packets) : discipline.Within limit fewer := by
  cases discipline with
  | bytes => exact Nat.le_trans (totalLength_le_of_sublist sublist) within
  | packets | headDrop => exact Nat.le_trans sublist.length_le within

/-- The packets that are kept are the longest initial segment within a limit. -/
structure LongestWithin (discipline : Discipline) (limit : UInt32) (kept packets : List P) :
    Prop where
  initial : kept <+: packets
  within : discipline.Within limit kept
  longest : ∀ other, other <+: packets → discipline.Within limit other → other <+: kept

/-- Packets within a limit are all kept. -/
theorem LongestWithin.all (within : discipline.Within limit packets) :
    discipline.LongestWithin limit packets packets :=
  ⟨List.prefix_refl packets, within, fun _ initial _ => initial⟩

/-- A last packet that does not fit makes no difference. -/
theorem LongestWithin.concat (longest : discipline.LongestWithin limit kept packets) {tail : P}
    (crowded : ¬ discipline.Within limit (packets ++ [tail])) :
    discipline.LongestWithin limit kept (packets ++ [tail]) where
  initial := longest.initial.trans (List.prefix_append packets [tail])
  within := longest.within
  longest other initial within := by
    rcases List.prefix_concat_iff.mp initial with rfl | shorter
    · exact absurd within crowded
    · exact longest.longest other shorter within

end Discipline

namespace Backlog

/-- The byte count is the exact number of bytes in the backlog. -/
def Counted (backlog : Backlog P) : Prop :=
  backlog.bytes.toNat = totalLength backlog.packets

variable {backlog rest : Backlog P} {packet : P}

theorem empty_counted (discipline : Discipline) (limit : UInt32) :
    (empty discipline limit : Backlog P).Counted := rfl

theorem clear_counted (backlog : Backlog P) : backlog.clear.1.Counted := rfl

theorem relimit_counted (counted : backlog.Counted) (discipline : Discipline) (limit : UInt32) :
    (backlog.relimit discipline limit).Counted := counted

theorem takeHead_of_cons {head : P} {tail : List P} (shape : backlog.packets = head :: tail) :
    backlog.takeHead =
      some (head, { backlog with
        packets := tail
        bytes := backlog.bytes - (Packet.length head).toUInt64 }) := by
  simp only [takeHead, shape]

theorem takeHead_eq_none : backlog.takeHead = none ↔ backlog.packets = [] := by
  unfold takeHead
  split
  · simp [*]
  · simp [*]

/-- The rest of a backlog keeps its discipline and its limit. -/
theorem takeHead_eq {head : P} (taken : backlog.takeHead = some (head, rest)) :
    rest = { backlog with
      packets := rest.packets
      bytes := backlog.bytes - (Packet.length head).toUInt64 } := by
  have shape := takeHead_packets taken
  rw [takeHead_of_cons shape] at taken
  exact (Prod.mk.inj (Option.some.inj taken)).2.symm

theorem dropTail_eq {tail : P} (dropped : backlog.dropTail = some (tail, rest)) :
    rest = { backlog with
      packets := rest.packets
      bytes := backlog.bytes - (Packet.length tail).toUInt64 } := by
  unfold dropTail at dropped
  split at dropped
  · contradiction
  · simp only [Option.some.injEq, Prod.mk.injEq] at dropped
    obtain ⟨rfl, rfl⟩ := dropped
    rfl

/-- A count that covers a packet goes down by its length. -/
theorem bytes_sub_toNat {bytes : UInt64} {length : UInt32} (covers : length.toNat ≤ bytes.toNat) :
    (bytes - length.toUInt64).toNat = bytes.toNat - length.toNat := by
  have widened : length.toUInt64.toNat = length.toNat := UInt32.toNat_toUInt64 length
  rw [UInt64.toNat_sub_of_le _ _ (by rw [UInt64.le_iff_toNat_le, widened]; exact covers), widened]

/-- A count that has room for a packet goes up by its length. -/
theorem bytes_add_toNat {bytes : UInt64} {length : UInt32}
    (room : bytes.toNat + length.toNat < 2 ^ 64) :
    (bytes + length.toUInt64).toNat = bytes.toNat + length.toNat := by
  have widened : length.toUInt64.toNat = length.toNat := UInt32.toNat_toUInt64 length
  rw [UInt64.toNat_add, widened, Nat.mod_eq_of_lt room]

theorem push_counted (counted : backlog.Counted)
    (room : totalLength backlog.packets + (Packet.length packet).toNat < 2 ^ 64) :
    (backlog.push packet).Counted := by
  unfold Counted at *
  rw [← counted] at room
  rw [push_packets, totalLength_append, totalLength_cons, totalLength_nil, ← counted]
  exact bytes_add_toNat room

/-- The bytes of the head are among those counted. -/
theorem Counted.covers_head (counted : backlog.Counted) {head : P}
    (taken : backlog.takeHead = some (head, rest)) :
    (Packet.length head).toNat ≤ backlog.bytes.toNat := by
  rw [counted, takeHead_packets taken, totalLength_cons]
  exact Nat.le_add_right _ _

theorem Counted.covers_tail (counted : backlog.Counted) {tail : P}
    (dropped : backlog.dropTail = some (tail, rest)) :
    (Packet.length tail).toNat ≤ backlog.bytes.toNat := by
  rw [counted, dropTail_packets dropped, totalLength_append, totalLength_cons, totalLength_nil]
  omega

theorem takeHead_counted (counted : backlog.Counted) {head : P}
    (taken : backlog.takeHead = some (head, rest)) : rest.Counted := by
  have covers := counted.covers_head taken
  have shape := takeHead_packets taken
  unfold Counted at *
  rw [shape, totalLength_cons] at counted
  rw [takeHead_eq taken]
  dsimp only
  rw [bytes_sub_toNat covers]
  omega

theorem dropTail_counted (counted : backlog.Counted) {tail : P}
    (dropped : backlog.dropTail = some (tail, rest)) : rest.Counted := by
  have covers := counted.covers_tail dropped
  have shape := dropTail_packets dropped
  unfold Counted at *
  rw [shape, totalLength_append, totalLength_cons, totalLength_nil] at counted
  rw [dropTail_eq dropped]
  dsimp only
  rw [bytes_sub_toNat covers]
  omega

/-- The packets of a backlog that are above a length. -/
def oversized (backlog : Backlog P) (largest : UInt32) : List P :=
  (backlog.dropOversized largest).1

theorem oversized_sublist (backlog : Backlog P) (largest : UInt32) :
    (backlog.oversized largest).Sublist backlog.packets := List.filter_sublist

theorem Counted.covers_oversized (counted : backlog.Counted) (largest : UInt32) :
    totalLength (backlog.oversized largest) ≤ backlog.bytes.toNat := by
  rw [counted]
  exact totalLength_le_of_sublist (backlog.oversized_sublist largest)

theorem dropOversized_bytes (counted : backlog.Counted) (largest : UInt32) :
    (backlog.dropOversized largest).2.bytes.toNat =
      backlog.bytes.toNat - totalLength (backlog.oversized largest) := by
  have covers := counted.covers_oversized largest
  have bound := backlog.bytes.toNat_lt
  have word : (UInt64.ofNat (totalLength (backlog.oversized largest))).toNat =
      totalLength (backlog.oversized largest) := UInt64.toNat_ofNat_of_lt' (by
    simp only [UInt64.size]; omega)
  have order : UInt64.ofNat (totalLength (backlog.oversized largest)) ≤ backlog.bytes := by
    rw [UInt64.le_iff_toNat_le, word]; exact covers
  have exact := UInt64.toNat_sub_of_le _ _ order
  rw [word] at exact
  exact exact

theorem dropOversized_counted (counted : backlog.Counted) (largest : UInt32) :
    (backlog.dropOversized largest).2.Counted := by
  have parts := totalLength_filter_add (fun packet => decide (largest < Packet.length packet))
    backlog.packets
  have bytes := dropOversized_bytes counted largest
  unfold Counted at *
  rw [counted, ← parts] at bytes
  exact bytes.trans (Nat.add_sub_cancel_left _ _)

/-- The packets of a backlog up to a length. -/
def upTo (backlog : Backlog P) (largest : UInt32) : List P :=
  backlog.packets.filter fun packet => Packet.length packet ≤ largest

/-- What stays in the backlog are the packets up to the largest. -/
theorem dropOversized_packets (backlog : Backlog P) (largest : UInt32) :
    (backlog.dropOversized largest).2.packets = backlog.upTo largest := by
  unfold dropOversized
  apply List.filter_congr
  intro packet _
  rw [← decide_not]
  exact decide_eq_decide.mpr UInt32.not_lt

/-- What stays in the backlog is no longer than the largest. -/
theorem dropOversized_le (backlog : Backlog P) (largest : UInt32) :
    ∀ packet ∈ (backlog.dropOversized largest).2.packets, Packet.length packet ≤ largest := by
  intro packet member
  rw [dropOversized_packets] at member
  exact of_decide_eq_true (List.mem_filter.mp member).2

theorem push_count (backlog : Backlog P) (packet : P) :
    (backlog.push packet).count = backlog.count + 1 := by
  rw [count, push_packets, List.length_append, List.length_singleton, count]

theorem takeHead_count {head : P} (taken : backlog.takeHead = some (head, rest)) :
    backlog.count = rest.count + 1 := by
  rw [count, takeHead_packets taken, List.length_cons, count]

theorem dropTail_count {tail : P} (dropped : backlog.dropTail = some (tail, rest)) :
    backlog.count = rest.count + 1 := by
  rw [count, dropTail_packets dropped, List.length_append, List.length_singleton, count]

/-- The packets of a backlog are those above a length and those that stay. -/
theorem dropOversized_count (backlog : Backlog P) (largest : UInt32) :
    backlog.count =
      (backlog.dropOversized largest).2.count + (backlog.oversized largest).length := by
  rw [Nat.add_comm]
  exact List.length_eq_length_filter_add fun packet => decide (largest < Packet.length packet)

/-- A backlog that counts its bytes is over its limit just when its packets are not within it. -/
theorem overLimit_eq_false_iff (counted : backlog.Counted) :
    backlog.overLimit = false ↔ backlog.discipline.Within backlog.limit backlog.packets := by
  have widened : backlog.limit.toUInt64.toNat = backlog.limit.toNat :=
    UInt32.toNat_toUInt64 backlog.limit
  unfold Counted at counted
  cases kind : backlog.discipline with
  | bytes =>
      rw [overLimit, kind, decide_eq_false_iff_not, UInt64.lt_iff_toNat_lt, widened, counted,
        Nat.not_lt]
      rfl
  | packets | headDrop =>
      rw [overLimit, kind, decide_eq_false_iff_not, Nat.not_lt]
      rfl

/-- A backlog with fewer packets is within a limit that it was within before. -/
theorem overLimit_of_sublist {fewer : Backlog P} (counted : backlog.Counted)
    (fewerCounted : fewer.Counted) (discipline : fewer.discipline = backlog.discipline)
    (limit : fewer.limit = backlog.limit) (sublist : fewer.packets.Sublist backlog.packets)
    (within : backlog.overLimit = false) : fewer.overLimit = false := by
  rw [overLimit_eq_false_iff counted] at within
  rw [overLimit_eq_false_iff fewerCounted, discipline, limit]
  exact within.sublist sublist

/-- An empty backlog is within every limit. -/
theorem overLimit_of_nil (counted : backlog.Counted) (nothing : backlog.packets = []) :
    backlog.overLimit = false := by
  rw [overLimit_eq_false_iff counted, nothing]
  exact .nil

/-- A backlog that is not full has room for the packet in its byte count too. -/
theorem room_of_not_full (counted : backlog.Counted) (within : backlog.overLimit = false)
    (room : backlog.full (Packet.length packet) = false) :
    totalLength backlog.packets + (Packet.length packet).toNat < 2 ^ 64 ∧
      (backlog.push packet).overLimit = false := by
  have limitBound := backlog.limit.toNat_lt
  have lengthBound := (Packet.length packet).toNat_lt
  have widened : backlog.limit.toUInt64.toNat = backlog.limit.toNat :=
    UInt32.toNat_toUInt64 backlog.limit
  have total := totalLength_le backlog.packets
  unfold Counted at counted
  cases kind : backlog.discipline with
  | bytes =>
      simp only [overLimit, full, kind, decide_eq_false_iff_not, UInt64.lt_iff_toNat_lt,
        widened] at within room
      exact ⟨by omega, by
        simp only [overLimit, push, kind, decide_eq_false_iff_not, UInt64.lt_iff_toNat_lt,
          widened]
        exact room⟩
  | packets | headDrop =>
      simp only [overLimit, full, kind, decide_eq_false_iff_not] at within room
      simp only [count] at within room
      have product := Nat.mul_le_mul_right (2 ^ 32 - 1) (Nat.le_of_lt (Nat.not_le.mp room))
      have limitProduct := Nat.mul_le_mul_right (2 ^ 32 - 1) (Nat.lt_succ_iff.mp limitBound)
      refine ⟨by omega, ?_⟩
      simp only [overLimit, push, kind, decide_eq_false_iff_not]
      simp only [count, List.length_append, List.length_singleton]
      omega

/-- Where the head gives way there is room for the new packet. -/
theorem full_of_takeHead {head : P} (discipline : backlog.discipline = .headDrop)
    (within : backlog.overLimit = false) (taken : backlog.takeHead = some (head, rest))
    (length : UInt32) : rest.full length = false := by
  have shape := congrArg List.length (takeHead_packets taken)
  have same : rest.limit = backlog.limit ∧ rest.discipline = backlog.discipline := by
    rw [takeHead_eq taken]
    exact ⟨rfl, rfl⟩
  rw [List.length_cons] at shape
  simp only [overLimit, discipline, decide_eq_false_iff_not] at within
  simp only [full, same, discipline, decide_eq_false_iff_not]
  simp only [count] at within ⊢
  omega

end Backlog

end TrafficShaper
