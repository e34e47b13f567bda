/-
What a rate table charges: no charge is negative, a faster table of the same layout charges no
more, and a bucket can pay for every packet up to the largest that the table names for it.
-/

import TrafficShaper.Proofs.Words
import TrafficShaper.RateTable

namespace TrafficShaper

/-- The time is the exact quotient, as far as it fits in the word. -/
theorem transmitTime_toInt {rate size : UInt64} (positive : rate ≠ 0) :
    (transmitTime rate size).toInt =
      min (2 ^ 63 - 1) ((size.toNat * ticksPerSecond / rate.toNat : Nat) : Int) := by
  rw [transmitTime, if_neg positive, toInt_ofIntClamp_eq]
  generalize size.toNat * ticksPerSecond / rate.toNat = quotient
  omega

/-- So few bytes take fewer ticks than the largest word, whatever the rate. -/
theorem ticks_lt (rate : UInt64) {size : UInt64} (small : size.toNat ≤ 2 ^ 32) :
    size.toNat * ticksPerSecond / rate.toNat < 2 ^ 63 - 1 := by
  have quotient := Nat.div_le_self (size.toNat * ticksPerSecond) rate.toNat
  unfold ticksPerSecond at *
  omega

/-- The time of so few bytes is the exact quotient. -/
theorem transmitTime_of_small {rate size : UInt64} (positive : rate ≠ 0)
    (small : size.toNat ≤ 2 ^ 32) :
    (transmitTime rate size).toInt =
      ((size.toNat * ticksPerSecond / rate.toNat : Nat) : Int) := by
  have bound := ticks_lt rate small
  rw [transmitTime_toInt positive, Int.min_eq_right]
  omega

/-- The whole ticks of a transfer are never too many for its bytes. -/
theorem rate_mul_transmitTime_le {rate : UInt64} (positive : rate ≠ 0) (size : UInt64) :
    (rate.toNat : Int) * (transmitTime rate size).toInt ≤ ticksPerSecond * size.toNat := by
  have whole : rate.toNat * (size.toNat * ticksPerSecond / rate.toNat) ≤
      ticksPerSecond * size.toNat := by
    rw [Nat.mul_comm ticksPerSecond]
    exact Nat.mul_div_le _ _
  have less : (transmitTime rate size).toInt ≤
      ((size.toNat * ticksPerSecond / rate.toNat : Nat) : Int) := by
    rw [transmitTime_toInt positive]
    exact Int.min_le_right _ _
  calc (rate.toNat : Int) * (transmitTime rate size).toInt
      ≤ rate.toNat * ((size.toNat * ticksPerSecond / rate.toNat : Nat) : Int) :=
        Int.mul_le_mul_of_nonneg_left less (Int.natCast_nonneg _)
    _ ≤ ticksPerSecond * size.toNat := by exact_mod_cast whole

/-- One tick more is enough for all the bytes, as long as the time fits in the word. -/
theorem lt_rate_mul_transmitTime {rate size : UInt64} (positive : rate ≠ 0)
    (small : size.toNat ≤ 2 ^ 32) :
    (ticksPerSecond * size.toNat : Int) < rate.toNat * ((transmitTime rate size).toInt + 1) := by
  have some : 0 < rate.toNat := Nat.pos_of_ne_zero fun zero => positive (UInt64.toNat_inj.mp zero)
  have enough : ticksPerSecond * size.toNat <
      rate.toNat * (size.toNat * ticksPerSecond / rate.toNat + 1) := by
    rw [Nat.mul_comm ticksPerSecond]
    exact Nat.lt_mul_div_succ _ some
  rw [transmitTime_of_small positive small]
  exact_mod_cast enough

theorem transmitTime_nonneg (rate size : UInt64) : 0 ≤ (transmitTime rate size).toInt := by
  by_cases positive : rate = 0
  · rw [transmitTime, if_pos positive]
    decide
  · rw [transmitTime_toInt positive]
    generalize size.toNat * ticksPerSecond / rate.toNat = quotient
    omega

/-- A faster link takes no longer. -/
theorem transmitTime_le_of_rate_le {slow fast : UInt64} (positive : slow ≠ 0)
    (faster : slow ≤ fast) (size : UInt64) :
    (transmitTime fast size).toInt ≤ (transmitTime slow size).toInt := by
  rw [ne_eq, ← UInt64.toNat_inj] at positive
  rw [UInt64.le_iff_toNat_le] at faster
  have slowPositive : 0 < slow.toNat := Nat.pos_of_ne_zero positive
  have fastPositive : fast ≠ 0 := by
    rw [ne_eq, ← UInt64.toNat_inj]
    exact Nat.ne_of_gt (Nat.lt_of_lt_of_le slowPositive faster)
  have quotients : size.toNat * ticksPerSecond / fast.toNat ≤
      size.toNat * ticksPerSecond / slow.toNat := Nat.div_le_div_left faster slowPositive
  rw [transmitTime_toInt fastPositive, transmitTime_toInt (by rwa [ne_eq, ← UInt64.toNat_inj])]
  generalize size.toNat * ticksPerSecond / fast.toNat = quick at *
  generalize size.toNat * ticksPerSecond / slow.toNat = long at *
  omega

namespace RateTable

/-- The same layout at another rate. -/
def atRate (table : RateTable) (rate : UInt64) : RateTable := { table with rate }

@[simp] theorem atRate_cell (table : RateTable) (rate : UInt64) (length : UInt32) :
    (table.atRate rate).cell length = table.cell length := rfl

theorem slot_nonneg (table : RateTable) (index : Nat) : 0 ≤ (table.slot index).toInt :=
  transmitTime_nonneg _ _

theorem slot_atRate_le (table : RateTable) {fast : UInt64} (positive : table.rate ≠ 0)
    (faster : table.rate ≤ fast) (index : Nat) :
    ((table.atRate fast).slot index).toInt ≤ (table.slot index).toInt :=
  transmitTime_le_of_rate_le positive faster _

/-- A length, the overhead and the alignment together stay far below a word. -/
theorem cell_lt (table : RateTable) (length : UInt32) : table.cell length < 2 ^ 33 := by
  have lengthBound := length.toNat_lt
  have overheadBound := table.overhead.toNat_lt
  have alignmentBound := table.alignment.toInt_lt
  have sum : ((length.toNat : Int) + table.alignment.toInt + table.overhead.toNat).toNat <
      2 ^ 33 := by omega
  exact Nat.lt_of_le_of_lt (Nat.shiftRight_le _ _) sum

/-- The exact charge of a cell, in the table and past it: the last cell for each whole table, and the
cell of the rest. -/
def cellCharge (table : RateTable) (index : Nat) : Int :=
  (table.slot (cells - 1)).toInt * (index / cells : Nat) + (table.slot (index % cells)).toInt

theorem cellCharge_of_inside {table : RateTable} {index : Nat} (inside : index < cells) :
    table.cellCharge index = (table.slot index).toInt := by
  rw [cellCharge, Nat.div_eq_of_lt inside, Nat.mod_eq_of_lt inside, Int.natCast_zero,
    Int.mul_zero, Int.zero_add]

theorem cellCharge_nonneg (table : RateTable) (index : Nat) : 0 ≤ table.cellCharge index :=
  Int.add_nonneg (Int.mul_nonneg (table.slot_nonneg _) (Int.natCast_nonneg _))
    (table.slot_nonneg _)

/-- The charge is that of the cell, as far as it fits in the word. -/
theorem charge_toInt (table : RateTable) (length : UInt32) :
    (table.charge length).toInt = min (2 ^ 63 - 1) (table.cellCharge (table.cell length)) := by
  unfold charge
  dsimp only
  split
  · rename_i inside
    have bound := (table.slot (table.cell length)).toInt_lt
    rw [cellCharge_of_inside inside]
    omega
  · have restBound := (table.slot (table.cell length % cells)).toInt_lt
    have restNonneg := table.slot_nonneg (table.cell length % cells)
    have quotientBound : table.cell length / cells < 2 ^ 63 :=
      Nat.lt_of_le_of_lt (Nat.div_le_self _ _)
        (Nat.lt_trans (table.cell_lt length) (by decide))
    have product : 0 ≤ (table.slot (cells - 1)).toInt * (table.cell length / cells : Nat) :=
      Int.mul_nonneg (table.slot_nonneg _) (Int.natCast_nonneg _)
    rw [saturatingAdd_toInt, saturatingMul_toInt, Int64.toInt_ofNat_of_lt quotientBound,
      cellCharge]
    generalize (table.slot (cells - 1)).toInt * (table.cell length / cells : Nat) = whole at *
    omega

theorem charge_nonneg (table : RateTable) (length : UInt32) : 0 ≤ (table.charge length).toInt := by
  have nonneg := table.cellCharge_nonneg (table.cell length)
  rw [charge_toInt]
  omega

/-- Of two tables with one layout, the faster charges no more, past the table too. -/
theorem charge_atRate_le (table : RateTable) {fast : UInt64} (positive : table.rate ≠ 0)
    (faster : table.rate ≤ fast) (length : UInt32) :
    ((table.atRate fast).charge length).toInt ≤ (table.charge length).toInt := by
  have whole := Int.mul_le_mul_of_nonneg_right
    (table.slot_atRate_le positive faster (cells - 1))
    (Int.natCast_nonneg (table.cell length / cells))
  have rest := table.slot_atRate_le positive faster (table.cell length % cells)
  rw [charge_toInt, charge_toInt, atRate_cell, cellCharge, cellCharge]
  omega

theorem fittingCells_le (table : RateTable) (depth : Ticks) : table.fittingCells depth ≤ cells := by
  have bound : table.fittingCells depth ≤ (List.range cells).length := List.findIdx_le_length
  rwa [List.length_range] at bound

theorem slot_le_of_lt_fittingCells {table : RateTable} {depth : Ticks} {index : Nat}
    (fits : index < table.fittingCells depth) : table.slot index ≤ depth := by
  have above := List.not_of_lt_findIdx fits
  rw [List.getElem_range, decide_eq_false_iff_not] at above
  simp only [Int64.lt_iff_toInt_lt, Int64.le_iff_toInt_le] at *
  omega

/-- A bucket can pay for every packet that falls into one of its fitting cells. -/
theorem charge_le_of_cell_lt {table : RateTable} {depth : Ticks} {length : UInt32}
    (fits : table.cell length < table.fittingCells depth) :
    (table.charge length).toInt ≤ depth.toInt := by
  have inside : table.cell length < cells :=
    Nat.lt_of_lt_of_le fits (table.fittingCells_le depth)
  rw [charge, if_pos inside]
  exact Int64.le_iff_toInt_le.mp (slot_le_of_lt_fittingCells fits)

/-- Each power of two halves the length once more. -/
theorem fittingCellLog_le {length : Nat} (power : Nat) (small : length < cells * 2 ^ power) :
    fittingCellLog length ≤ power := by
  induction power generalizing length with
  | zero =>
      exact Nat.le_of_eq (by rw [fittingCellLog, if_pos (by omega)])
  | succ power ih =>
      rw [fittingCellLog]
      split
      · exact Nat.zero_le _
      · have half : length / 2 < cells * 2 ^ power :=
          Nat.div_lt_of_lt_mul (by rwa [Nat.mul_comm 2, Nat.mul_assoc, ← Nat.pow_succ])
        exact Nat.succ_le_succ (ih half)

/-- The power is great enough. -/
theorem div_fittingCellLog_lt (length : Nat) : length / 2 ^ fittingCellLog length < cells := by
  fun_induction fittingCellLog length with
  | case1 length small => rwa [Nat.pow_zero, Nat.div_one]
  | case2 length large ih => rwa [Nat.pow_succ', ← Nat.div_div_eq_div_mul]

/-- A cell never has more than `2 ^ 24` bytes. -/
theorem forMtu_cellLog (rate : UInt64) (mtu : UInt32) :
    (forMtu rate mtu).cellLog.toNat = fittingCellLog mtu.toNat ∧
      fittingCellLog mtu.toNat ≤ 24 := by
  have bound : fittingCellLog mtu.toNat ≤ 24 :=
    fittingCellLog_le 24 (by have := mtu.toNat_lt; simp only [cells]; omega)
  refine ⟨?_, bound⟩
  simp only [forMtu, UInt8.toNat_ofNat']
  omega

/-- A table as it is laid out for some MTU, with any overhead and any minimum unit. -/
structure Laid (table : RateTable) : Prop where
  cellLog : table.cellLog.toNat ≤ 24
  alignment : table.alignment = -1

theorem forMtu_laid (rate : UInt64) (mtu : UInt32) : (forMtu rate mtu).Laid := by
  obtain ⟨exact, bound⟩ := forMtu_cellLog rate mtu
  exact ⟨Nat.le_trans (Nat.le_of_eq exact) bound, rfl⟩

/-- Neither the overhead nor the minimum unit changes the layout. -/
theorem forLink_laid (rate : UInt64) (mtu : UInt32) (overhead minimumUnit : UInt16) :
    (forLink rate mtu overhead minimumUnit).Laid :=
  ⟨(forMtu_laid rate mtu).cellLog, (forMtu_laid rate mtu).alignment⟩

section

variable {table : RateTable} (laid : table.Laid)

include laid

/-- The shift of a cell does not come around. -/
theorem Laid.cellShift_eq : table.cellShift = table.cellLog.toNat :=
  Nat.mod_eq_of_lt (Nat.lt_of_le_of_lt laid.cellLog (by decide))

theorem Laid.cellShift_le : table.cellShift ≤ 24 := Nat.le_trans (Nat.mod_le _ _) laid.cellLog

/-- So many cells have at most `2 ^ 32` bytes. -/
theorem Laid.cellBytes_le {count : Nat} (inside : count ≤ cells) :
    count * 2 ^ table.cellShift ≤ 2 ^ 32 :=
  Nat.le_trans (Nat.mul_le_mul inside (Nat.pow_le_pow_right (by decide) laid.cellShift_le))
    (by decide)

/-- A packet falls into the cell of its last byte, the overhead included. -/
theorem Laid.cell_eq (length : UInt32) :
    table.cell length = (length.toNat + table.overhead.toNat - 1) / 2 ^ table.cellShift := by
  have minusOne : (-1 : Int16).toInt = -1 := by decide
  have last : ((length.toNat : Int) + (-1 : Int16).toInt + table.overhead.toNat).toNat =
      length.toNat + table.overhead.toNat - 1 := by omega
  rw [cell, laid.alignment, last, Nat.shiftRight_eq_div_pow]

/-- A packet reaches no further than to the end of its cell. -/
theorem Laid.bytes_le (length : UInt32) :
    length.toNat + table.overhead.toNat ≤ (table.cell length + 1) * 2 ^ table.cellShift := by
  have last := Nat.lt_mul_div_succ (length.toNat + table.overhead.toNat - 1)
    (Nat.two_pow_pos table.cellShift)
  rw [laid.cell_eq, Nat.mul_comm]
  omega

/-- No word wraps in the bytes of a cell. -/
theorem Laid.slotBytes_toNat {index : Nat} (inside : index < cells) :
    (table.slotBytes index).toNat =
      max ((index + 1) * 2 ^ table.cellShift) table.minimumUnit.toNat := by
  have bytes : (index + 1) * 2 ^ table.cellShift ≤ 2 ^ 32 := laid.cellBytes_le inside
  have word : (UInt64.ofNat ((index + 1) * 2 ^ table.cellShift)).toNat =
      (index + 1) * 2 ^ table.cellShift :=
    UInt64.toNat_ofNat_of_lt' (by simp only [UInt64.size]; omega)
  rw [slotBytes, Nat.shiftLeft_eq, max_toNat, word, UInt16.toNat_toUInt64]

theorem Laid.slotBytes_le {index : Nat} (inside : index < cells) :
    (table.slotBytes index).toNat ≤ 2 ^ 32 := by
  have bytes : (index + 1) * 2 ^ table.cellShift ≤ 2 ^ 32 := laid.cellBytes_le inside
  have unit := table.minimumUnit.toNat_lt
  rw [laid.slotBytes_toNat inside]
  omega

/-- The largest packet is the last byte of the fitting cells, and the subtraction is exact. -/
theorem Laid.largestWithin_toInt (depth : Ticks) :
    (table.largestWithin depth).toInt =
      (table.fittingCells depth * 2 ^ table.cellShift : Nat) - 1 := by
  have bytes := laid.cellBytes_le (table.fittingCells_le depth)
  have word : (Int64.ofNat (table.fittingCells depth <<< table.cellShift)).toInt =
      (table.fittingCells depth * 2 ^ table.cellShift : Nat) := by
    rw [Nat.shiftLeft_eq]
    exact Int64.toInt_ofNat_of_lt (by omega)
  have one : (1 : Int64).toInt = 1 := rfl
  rw [largestWithin, sub_toInt (by rw [word]; omega) (by rw [word]; omega), word, one]

/-- A packet up to the largest falls into a fitting cell, as long as the overhead is no more than
the byte that the alignment takes off. -/
theorem Laid.cell_lt_fittingCells (light : table.overhead ≤ 1) {length : UInt32} {depth : Ticks}
    (fits : (length.toNat : Int) ≤ (table.largestWithin depth).toInt) :
    table.cell length < table.fittingCells depth := by
  rw [UInt16.le_iff_toNat_le, UInt16.toNat_one] at light
  rw [laid.largestWithin_toInt] at fits
  rw [laid.cell_eq]
  exact Nat.div_lt_of_lt_mul (by rw [Nat.mul_comm]; omega)

end

/-- A packet up to the largest falls into a fitting cell. -/
theorem forMtu_cell_lt {rate : UInt64} {mtu length : UInt32} {depth : Ticks}
    (fits : (length.toNat : Int) ≤ ((forMtu rate mtu).largestWithin depth).toInt) :
    (forMtu rate mtu).cell length < (forMtu rate mtu).fittingCells depth :=
  (forMtu_laid rate mtu).cell_lt_fittingCells (UInt16.zero_le) fits

/-- A bucket can pay for every packet up to its largest, unless there is none. -/
theorem forMtu_charge_le {rate : UInt64} {mtu length : UInt32} {depth : Ticks}
    (fits : (length.toNat : Int) ≤ ((forMtu rate mtu).largestWithin depth).toInt) :
    ((forMtu rate mtu).charge length).toInt ≤ depth.toInt :=
  charge_le_of_cell_lt (forMtu_cell_lt fits)

/-- A packet up to the largest is charged for all its bytes, less than one tick short. -/
theorem lt_rate_mul_forMtu_charge {rate : UInt64} (positive : rate ≠ 0) {mtu length : UInt32}
    {depth : Ticks} (fits : (length.toNat : Int) ≤ ((forMtu rate mtu).largestWithin depth).toInt) :
    (ticksPerSecond * length.toNat : Int) <
      rate.toNat * (((forMtu rate mtu).charge length).toInt + 1) := by
  have inside : (forMtu rate mtu).cell length < cells :=
    Nat.lt_of_lt_of_le (forMtu_cell_lt fits) (fittingCells_le _ depth)
  have laid := forMtu_laid rate mtu
  have reaches : length.toNat ≤
      ((forMtu rate mtu).slotBytes ((forMtu rate mtu).cell length)).toNat := by
    rw [laid.slotBytes_toNat inside]
    exact Nat.le_trans (Nat.le_trans (Nat.le_add_right _ _) (laid.bytes_le length))
      (Nat.le_max_left _ _)
  have bytes := Nat.mul_le_mul_left ticksPerSecond reaches
  rw [charge, if_pos inside]
  exact Int.lt_of_le_of_lt (by exact_mod_cast bytes)
    (lt_rate_mul_transmitTime positive (laid.slotBytes_le inside))

end RateTable

end TrafficShaper
