/-
What a table charges over all lengths. The charge never falls as packets grow, inside the table,
at its end and past it; and where it is short of the exact time of a packet, then by no more than
one tick for each whole table that the packet goes through.
-/

import TrafficShaper.Proofs.Charge

namespace TrafficShaper

/-- More bytes take no less time. -/
theorem transmitTime_le_of_size_le (rate : UInt64) {fewer more : UInt64}
    (order : fewer.toNat ≤ more.toNat) :
    (transmitTime rate fewer).toInt ≤ (transmitTime rate more).toInt := by
  by_cases positive : rate = 0
  · rw [transmitTime, if_pos positive, transmitTime, if_pos positive]
  · have quotients : fewer.toNat * ticksPerSecond / rate.toNat ≤
        more.toNat * ticksPerSecond / rate.toNat :=
      Nat.div_le_div_right (Nat.mul_le_mul_right ticksPerSecond order)
    rw [transmitTime_toInt positive, transmitTime_toInt positive]
    omega

/-- A transfer in equal parts and a rest takes at most one tick for each part less than the transfer
as a whole, since no part loses more than that to truncation. -/
theorem transmitTime_le_of_parts (rate : UInt64) {whole part rest : UInt64} {count : Nat}
    (bytes : whole.toNat ≤ part.toNat * count + rest.toNat) (partSmall : part.toNat ≤ 2 ^ 32)
    (restSmall : rest.toNat ≤ 2 ^ 32) :
    (transmitTime rate whole).toInt ≤
      min (2 ^ 63 - 1) ((transmitTime rate part).toInt * count + (transmitTime rate rest).toInt) +
        count := by
  have partsNonneg := Int.mul_nonneg (transmitTime_nonneg rate part) (Int.natCast_nonneg count)
  by_cases positive : rate = 0
  · -- A zero rate never finishes the rest either.
    have never : (transmitTime rate rest).toInt = 2 ^ 63 - 1 := by
      rw [transmitTime, if_pos positive]
      rfl
    have bound := (transmitTime rate whole).toInt_lt
    omega
  have ratePositive : (0 : Int) < rate.toNat := by
    have nonzero : rate.toNat ≠ 0 := fun zero => positive (UInt64.toNat_inj.mp zero)
    omega
  have exact : ((whole.toNat * ticksPerSecond / rate.toNat : Nat) : Int) ≤
      (transmitTime rate part).toInt * count + (transmitTime rate rest).toInt + count := by
    rw [Int.natCast_ediv]
    apply Int.le_of_lt_add_one
    apply Int.ediv_lt_of_lt_mul ratePositive
    calc ((whole.toNat * ticksPerSecond : Nat) : Int)
        ≤ ((part.toNat * count + rest.toNat) * ticksPerSecond : Nat) := by
          exact_mod_cast Nat.mul_le_mul_right ticksPerSecond bytes
      _ = ticksPerSecond * part.toNat * count + ticksPerSecond * rest.toNat := by
          push_cast
          ring
      _ < rate.toNat * ((transmitTime rate part).toInt + 1) * count +
            rate.toNat * ((transmitTime rate rest).toInt + 1) :=
          Int.add_lt_add_of_le_of_lt
            (Int.mul_le_mul_of_nonneg_right
              (Int.le_of_lt (lt_rate_mul_transmitTime positive partSmall))
              (Int.natCast_nonneg count))
            (lt_rate_mul_transmitTime positive restSmall)
      _ = _ := by ring
  rw [transmitTime_toInt positive]
  generalize whole.toNat * ticksPerSecond / rate.toNat = quotient at *
  omega

namespace RateTable

variable {table : RateTable}

theorem lastCell_lt : cells - 1 < cells := by decide

theorem Laid.slot_le (laid : table.Laid) {lower upper : Nat} (order : lower ≤ upper)
    (inside : upper < cells) : (table.slot lower).toInt ≤ (table.slot upper).toInt := by
  have bytes : (lower + 1) * 2 ^ table.cellShift ≤ (upper + 1) * 2 ^ table.cellShift :=
    Nat.mul_le_mul_right _ (Nat.succ_le_succ order)
  apply transmitTime_le_of_size_le
  rw [laid.slotBytes_toNat (Nat.lt_of_le_of_lt order inside), laid.slotBytes_toNat inside]
  omega

theorem Laid.cellCharge_le (laid : table.Laid) {lower upper : Nat} (order : lower ≤ upper) :
    table.cellCharge lower ≤ table.cellCharge upper := by
  have some : 0 < cells := by decide
  have lowerRest := Nat.mod_lt lower some
  have upperRest := Nat.mod_lt upper some
  rcases Nat.eq_or_lt_of_le (Nat.div_le_div_right (c := cells) order) with same | fewer
  · -- In one run through the table the cells of the rest are in order.
    have rest : lower % cells ≤ upper % cells := by
      have lowerSum := Nat.div_add_mod lower cells
      have upperSum := Nat.div_add_mod upper cells
      rw [same] at lowerSum
      omega
    have slots := laid.slot_le rest upperRest
    rw [cellCharge, cellCharge, same]
    omega
  · -- The rest of one run costs no more than the last cell, for which the next run has to pay.
    have slots := laid.slot_le (Nat.le_pred_of_lt lowerRest) lastCell_lt
    have nonneg := table.slot_nonneg (upper % cells)
    have runs : (table.slot (cells - 1)).toInt * ((lower / cells + 1 : Nat) : Int) ≤
        (table.slot (cells - 1)).toInt * (upper / cells : Nat) :=
      Int.mul_le_mul_of_nonneg_left (by exact_mod_cast fewer) (table.slot_nonneg _)
    rw [Int.natCast_add, Int.natCast_one, Int.mul_add, Int.mul_one] at runs
    rw [cellCharge, cellCharge]
    exact Int.le_trans (Int.add_le_add_left slots _)
      (Int.le_trans runs (Int.le_add_of_nonneg_right nonneg))

theorem Laid.cell_le (laid : table.Laid) {shorter longer : UInt32} (order : shorter ≤ longer) :
    table.cell shorter ≤ table.cell longer := by
  rw [UInt32.le_iff_toNat_le] at order
  rw [laid.cell_eq, laid.cell_eq]
  exact Nat.div_le_div_right (by omega)

/-- A longer packet is charged no less. -/
theorem Laid.charge_le (laid : table.Laid) {shorter longer : UInt32} (order : shorter ≤ longer) :
    (table.charge shorter).toInt ≤ (table.charge longer).toInt := by
  have cellCharges := laid.cellCharge_le (laid.cell_le order)
  rw [charge_toInt, charge_toInt]
  omega

/-- The bytes that a packet takes on a link: its own and the overhead, and the minimum unit at
least. -/
def linkBytes (table : RateTable) (length : UInt32) : Nat :=
  max (length.toNat + table.overhead.toNat) table.minimumUnit.toNat

theorem linkBytes_lt (table : RateTable) (length : UInt32) :
    table.linkBytes length < UInt64.size := by
  have own := length.toNat_lt
  have added := table.overhead.toNat_lt
  have unit := table.minimumUnit.toNat_lt
  simp only [linkBytes, UInt64.size]
  omega

/-- The bytes of a packet are those of the last cell for each whole table, and those of the cell of
the rest, at most. -/
theorem Laid.linkBytes_le (laid : table.Laid) (length : UInt32) :
    table.linkBytes length ≤
      (table.slotBytes (cells - 1)).toNat * (table.cell length / cells) +
        (table.slotBytes (table.cell length % cells)).toNat := by
  have some : 0 < cells := by decide
  have reaches := laid.bytes_le length
  have split := Nat.div_add_mod (table.cell length) cells
  generalize table.cell length / cells = runs at *
  generalize rest : table.cell length % cells = index at *
  have inside : index < cells := rest ▸ Nat.mod_lt _ some
  have whole : cells * 2 ^ table.cellShift * runs ≤
      (table.slotBytes (cells - 1)).toNat * runs := by
    apply Nat.mul_le_mul_right
    rw [laid.slotBytes_toNat lastCell_lt]
    exact Nat.le_max_left _ _
  have bytes : (table.cell length + 1) * 2 ^ table.cellShift =
      cells * 2 ^ table.cellShift * runs + (index + 1) * 2 ^ table.cellShift := by
    rw [← split]
    ring
  have last := laid.slotBytes_toNat inside
  unfold linkBytes
  omega

/-- The charge and a tick for each whole table are enough for the exact time of a packet. -/
theorem Laid.transmitTime_le_charge (laid : table.Laid) (length : UInt32) :
    (transmitTime table.rate (UInt64.ofNat (table.linkBytes length))).toInt ≤
      (table.charge length).toInt + (table.cell length / cells : Nat) := by
  have inside : table.cell length % cells < cells := Nat.mod_lt _ (by decide)
  have bytes := laid.linkBytes_le length
  rw [← UInt64.toNat_ofNat_of_lt' (table.linkBytes_lt length)] at bytes
  rw [charge_toInt]
  exact transmitTime_le_of_parts table.rate bytes (laid.slotBytes_le lastCell_lt)
    (laid.slotBytes_le inside)

/-- Inside the table the charge is the time of a whole cell, and of the minimum unit at least. -/
theorem Laid.charge_of_inside (laid : table.Laid) {length : UInt32}
    (inside : table.cell length < cells) :
    table.charge length =
      transmitTime table.rate
        (UInt64.ofNat
          (max ((table.cell length + 1) <<< table.cellLog.toNat) table.minimumUnit.toNat)) := by
  have bytes := laid.slotBytes_toNat inside
  rw [laid.cellShift_eq, ← Nat.shiftLeft_eq] at bytes
  rw [charge, if_pos inside, slot, ← bytes, UInt64.ofNat_toNat]

/-- A longer packet is never charged less. Inside the table a packet is charged for its whole cell,
and for the minimum unit at least; past the table the charge is at most one tick for each whole
table short of the exact time. -/
theorem charge_sound (rate : UInt64) (mtu : UInt32) (overhead minimumUnit : UInt16) :
    (∀ shorter longer : UInt32, shorter ≤ longer →
      (forLink rate mtu overhead minimumUnit).charge shorter ≤
        (forLink rate mtu overhead minimumUnit).charge longer) ∧
    ∀ length : UInt32,
      let table := forLink rate mtu overhead minimumUnit
      let slot :=
        (max ((length.toNat : Int) - 1 + overhead.toNat) 0).toNat >>> table.cellLog.toNat
      (slot < 256 →
        table.charge length =
          transmitTime rate
            (UInt64.ofNat (max ((slot + 1) <<< table.cellLog.toNat) minimumUnit.toNat))) ∧
      (transmitTime rate
          (UInt64.ofNat (max (length.toNat + overhead.toNat) minimumUnit.toNat))).toInt ≤
        (table.charge length).toInt + (slot / 256 : Nat) := by
  have laid := forLink_laid rate mtu overhead minimumUnit
  constructor
  · intro shorter longer order
    exact Int64.le_iff_toInt_le.mpr (laid.charge_le order)
  · intro length table slot
    have last : (max ((length.toNat : Int) - 1 + overhead.toNat) 0).toNat =
        length.toNat + overhead.toNat - 1 := by omega
    have same : table.cell length = slot := by
      rw [laid.cell_eq, laid.cellShift_eq, ← Nat.shiftRight_eq_div_pow]
      exact congrArg (· >>> table.cellLog.toNat) last.symm
    rw [← same]
    exact ⟨laid.charge_of_inside, laid.transmitTime_le_charge length⟩

/-- Packets inside the table, at its end and past it, on a link with an overhead and a minimum unit. -/
theorem charge_sound_of_link :
    (2024 : UInt32) ≤ 2025 ∧
      (forLink 1000000 1500 24 64).charge 2024 ≤ (forLink 1000000 1500 24 64).charge 2025 ∧
      (forLink 1000000 1500 24 64).charge 3 = transmitTime 1000000 64 ∧
      (transmitTime 1000000 4024).toInt ≤
        ((forLink 1000000 1500 24 64).charge 4000).toInt + 1 := by
  obtain ⟨ordered, each⟩ := charge_sound 1000000 1500 24 64
  refine ⟨by decide, ordered 2024 2025 (by decide), ?_, ?_⟩
  · exact ((each 3).1 (by decide +kernel)).trans
      (congrArg (transmitTime 1000000) (by decide +kernel))
  · exact Int.le_trans (each 4000).2 (Int.add_le_add_left (by decide +kernel) _)

/-- The shortfall can be a whole tick: this packet fills three tables and a half. -/
example :
    (forMtu 3 255).charge 896 = 298666666665 ∧ transmitTime 3 896 = 298666666666 := by
  decide +kernel

end RateTable

end TrafficShaper
