/-
How tables are laid out. The cells of a table are the smallest that cover the MTU, which a search
that goes from power to power finds while the shift is still far below the width of a word, and the
ticks of each cell fit in a word. Of two tables for one MTU the faster charges no more for any
packet, past the table too, and names a largest packet that is no smaller.
-/

import TrafficShaper.Proofs.Largest

namespace TrafficShaper.RateTable

/-- A search for a cell size goes from one power to the next, with the length shifted as a word, for
as long as the last cell would lie past the table. -/
inductive Searches (length : UInt32) : UInt8 → UInt8 → Prop where
  | found {power : UInt8} (fits : length >>> power.toUInt32 ≤ 255) : Searches length power power
  | next {power last : UInt8} (exceeds : 255 < length >>> power.toUInt32)
      (rest : Searches length (power + 1) last) : Searches length power last

/-- A power that is short of the one that is found divides the length into too many cells. -/
theorem le_div_of_lt_fittingCellLog {length power : Nat} (short : power < fittingCellLog length) :
    cells ≤ length / 2 ^ power := by
  by_contra few
  have small : length < cells * 2 ^ power :=
    (Nat.div_lt_iff_lt_mul (Nat.two_pow_pos power)).mp (Nat.lt_of_not_le few)
  exact absurd (fittingCellLog_le power small) (Nat.not_le.mpr short)

/-- The power that is found is the least that divides the length into few enough cells. -/
theorem fittingCellLog_isLeast (length : Nat) :
    IsLeast {power : Nat | length >>> power ≤ 255} (fittingCellLog length) := by
  constructor
  · have few := div_fittingCellLog_lt length
    rw [← Nat.shiftRight_eq_div_pow] at few
    exact Nat.le_of_lt_succ few
  · intro power fits
    by_contra short
    have many := le_div_of_lt_fittingCellLog (Nat.lt_of_not_le short)
    rw [← Nat.shiftRight_eq_div_pow] at many
    exact absurd fits (Nat.not_le.mpr many)

/-- A shift by less than the width of a word is exact. -/
theorem shiftRight_toNat (length : UInt32) {power : Nat} (inside : power < 32) :
    (length >>> (UInt8.ofNat power).toUInt32).toNat = length.toNat / 2 ^ power := by
  have byte : (UInt8.ofNat power).toNat = power := UInt8.toNat_ofNat_of_lt' (by
    simp only [UInt8.size]
    omega)
  rw [UInt32.toNat_shiftRight, UInt8.toNat_toUInt32, byte, Nat.mod_eq_of_lt inside,
    Nat.shiftRight_eq_div_pow]

/-- From each power up to it the search ends at the one that is found. -/
theorem searches_fittingCellLog (length : UInt32) {power : Nat}
    (within : power ≤ fittingCellLog length.toNat) :
    Searches length (UInt8.ofNat power) (UInt8.ofNat (fittingCellLog length.toNat)) := by
  have bound : fittingCellLog length.toNat ≤ 24 := (forMtu_cellLog 0 length).2
  -- The induction runs down from the power that is found, which the search reaches last.
  induction within using Nat.decreasingInduction with
  | self =>
      apply Searches.found
      have few := div_fittingCellLog_lt length.toNat
      rw [UInt32.le_iff_toNat_le, shiftRight_toNat length (by omega)]
      exact Nat.le_of_lt_succ few
  | of_succ power short ih =>
      apply Searches.next
      · have many := le_div_of_lt_fittingCellLog short
        rw [UInt32.lt_iff_toNat_lt, shiftRight_toNat length (by omega)]
        exact many
      · rwa [UInt8.ofNat_add] at ih

/-- The cells of a table are the smallest that cover an MTU. -/
structure LaidFor (table : RateTable) (mtu : UInt32) : Prop where
  /-- The search from the smallest cells on ends. -/
  found : Searches mtu 0 table.cellLog
  least : IsLeast {power : Nat | mtu.toNat >>> power ≤ 255} table.cellLog.toNat
  small : table.cellLog ≤ 24

theorem forMtu_laidFor (rate : UInt64) (mtu : UInt32) : (forMtu rate mtu).LaidFor mtu := by
  obtain ⟨exact, bound⟩ := forMtu_cellLog rate mtu
  constructor
  case found => exact searches_fittingCellLog mtu (Nat.zero_le _)
  case least =>
    rw [exact]
    exact fittingCellLog_isLeast mtu.toNat
  case small =>
    rw [UInt8.le_iff_toNat_le, exact]
    exact bound

/-- A table has a cell for each packet up to an MTU, and the ticks of each cell are exact. -/
structure Covers (table : RateTable) (mtu : UInt32) : Prop where
  inside : ∀ length, length ≤ mtu → table.cell length < 256
  /-- No time stops at the largest word. -/
  exact : ∀ index, index < 256 →
    (table.slot index).toInt =
        (((index + 1) <<< table.cellLog.toNat) * ticksPerSecond / table.rate.toNat : Nat) ∧
      table.slot index < Int64.maxValue

theorem forMtu_slotBytes (rate : UInt64) (mtu : UInt32) {index : Nat} (inside : index < cells) :
    ((forMtu rate mtu).slotBytes index).toNat =
      (index + 1) <<< (forMtu rate mtu).cellLog.toNat := by
  have laid := forMtu_laid rate mtu
  have bytes := laid.slotBytes_toNat inside
  rw [laid.cellShift_eq, ← Nat.shiftLeft_eq] at bytes
  rw [bytes]
  exact Nat.max_eq_left (Nat.zero_le _)

theorem forMtu_covers {rate : UInt64} (positive : rate ≠ 0) (mtu : UInt32) :
    (forMtu rate mtu).Covers mtu := by
  constructor
  case inside => exact fun length within => forMtu_cell_lt_cells rate within
  case exact =>
    intro index inside
    have bytes := forMtu_slotBytes rate mtu inside
    have small := (forMtu_laid rate mtu).slotBytes_le inside
    have ticks := ticks_lt (forMtu rate mtu).rate small
    have time : ((forMtu rate mtu).slot index).toInt = _ := transmitTime_of_small positive small
    rw [bytes] at ticks time
    refine ⟨time, ?_⟩
    rw [Int64.lt_iff_toInt_lt, time, Int64.toInt_maxValue]
    omega

/-- As many cells fit at a higher rate. -/
theorem fittingCells_le_atRate (table : RateTable) {fast : UInt64} (positive : table.rate ≠ 0)
    (faster : table.rate ≤ fast) (depth : Ticks) :
    table.fittingCells depth ≤ (table.atRate fast).fittingCells depth := by
  apply List.findIdx_le_findIdx
  intro index _ dear
  have slots := table.slot_atRate_le positive faster index
  simp only [decide_eq_true_eq, Int64.lt_iff_toInt_lt] at dear ⊢
  omega

theorem Laid.atRate {table : RateTable} (laid : table.Laid) (rate : UInt64) :
    (table.atRate rate).Laid := ⟨laid.cellLog, laid.alignment⟩

/-- The largest packet at a higher rate is no smaller. -/
theorem Laid.largestWithin_le_atRate {table : RateTable} (laid : table.Laid) {fast : UInt64}
    (positive : table.rate ≠ 0) (faster : table.rate ≤ fast) (depth : Ticks) :
    table.largestWithin depth ≤ (table.atRate fast).largestWithin depth := by
  have more := Nat.mul_le_mul_right (2 ^ table.cellShift)
    (table.fittingCells_le_atRate positive faster depth)
  rw [Int64.le_iff_toInt_le, laid.largestWithin_toInt, (laid.atRate fast).largestWithin_toInt]
  change _ ≤ (((table.atRate fast).fittingCells depth * 2 ^ table.cellShift : Nat) : Int) - 1
  omega

/-- For every MTU the cells are the smallest that cover it. At a rate that is not zero every packet
up to the MTU has a cell, and no cell takes so long that its time stops at the largest word. At a
higher rate no packet is charged more, past the table too, and for no bucket the largest packet is
smaller. -/
theorem forMtu_laidOut (mtu : UInt32) :
    (∀ rate, (forMtu rate mtu).LaidFor mtu) ∧
    (∀ rate : UInt64, 0 < rate → (forMtu rate mtu).Covers mtu) ∧
    ∀ rate peak : UInt64, 0 < rate → rate < peak →
      (∀ length, (forMtu peak mtu).charge length ≤ (forMtu rate mtu).charge length) ∧
      ∀ depth, (forMtu rate mtu).largestWithin depth ≤ (forMtu peak mtu).largestWithin depth := by
  refine ⟨fun rate => forMtu_laidFor rate mtu, ?_, ?_⟩
  · intro rate positive
    exact forMtu_covers (UInt64.pos_iff_ne_zero.mp positive) mtu
  · intro rate peak positive higher
    have nonzero : (forMtu rate mtu).rate ≠ 0 := UInt64.pos_iff_ne_zero.mp positive
    have faster : (forMtu rate mtu).rate ≤ peak := UInt64.le_of_lt higher
    constructor
    · intro length
      exact Int64.le_iff_toInt_le.mpr ((forMtu rate mtu).charge_atRate_le nonzero faster length)
    · exact (forMtu_laid rate mtu).largestWithin_le_atRate nonzero faster

/-- Tables for one MTU at a rate and at twice that rate, with a packet that goes past them. -/
theorem double_rate_laidOut :
    (forMtu 1000000 1500).LaidFor 1500 ∧
      (0 : UInt64) < 1000000 ∧ (1500 : UInt32) ≤ 1500 ∧
      (forMtu 1000000 1500).cell 1500 < 256 ∧
      (255 : Nat) < 256 ∧ (forMtu 1000000 1500).slot 255 < Int64.maxValue ∧
      (1000000 : UInt64) < 2000000 ∧
      (forMtu 2000000 1500).charge 4000 ≤ (forMtu 1000000 1500).charge 4000 ∧
      (forMtu 1000000 1500).largestWithin 1000000 ≤
        (forMtu 2000000 1500).largestWithin 1000000 := by
  obtain ⟨laidFor, covers, ordered⟩ := forMtu_laidOut 1500
  have table := covers 1000000 (by decide)
  obtain ⟨charge, largest⟩ := ordered 1000000 2000000 (by decide) (by decide)
  exact ⟨laidFor 1000000, by decide, by decide, table.inside 1500 (by decide), by decide,
    (table.exact 255 (by decide)).2, by decide, charge 4000, largest 1000000⟩

/-- At the lowest rate and the largest MTU the last cell still has a time of its own. -/
example :
    (forMtu 1 4294967295).cellLog = 24 ∧
      (forMtu 1 4294967295).slot 255 = 4294967296000000000 := by
  decide +kernel

end TrafficShaper.RateTable
