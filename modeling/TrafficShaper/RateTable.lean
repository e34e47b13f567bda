/-
A rate table tells how many ticks a packet costs at a fixed rate. It has 256 cells of equal
size; a longer packet pays for whole tables and a rest.
-/

import TrafficShaper.Ticks

namespace TrafficShaper

/-- A rate table is fixed by its rate and the layout of its cells. -/
structure RateTable where
  /-- The rate in bytes per second. -/
  rate : UInt64
  /-- A cell has two to this power many bytes. -/
  cellLog : UInt8
  /-- These bytes are added to every packet. -/
  overhead : UInt16 := 0
  /-- This is added to a length before it is divided into cells. -/
  alignment : Int16 := -1
  /-- No packet is charged for fewer bytes. -/
  minimumUnit : UInt16 := 0
deriving DecidableEq, Repr

namespace RateTable

/-- The number of cells in a table. -/
def cells : Nat := 256

/-- The least power of two that divides `length` into at most the last cell. -/
def fittingCellLog (length : Nat) : Nat :=
  if length < cells then 0 else fittingCellLog (length / 2) + 1
termination_by length
decreasing_by simp only [cells] at *; omega

/-- A table for packets of up to `mtu` bytes. -/
def forMtu (rate : UInt64) (mtu : UInt32) : RateTable where
  rate := rate
  cellLog := UInt8.ofNat (fittingCellLog mtu.toNat)

/-- The overhead of a link is added to every packet. -/
def withOverhead (table : RateTable) (overhead : UInt16) : RateTable := { table with overhead }

/-- A link charges no packet for fewer bytes than its minimum unit. -/
def withMinimumUnit (table : RateTable) (minimumUnit : UInt16) : RateTable :=
  { table with minimumUnit }

/-- A table for packets of up to `mtu` bytes on a link with an overhead and a minimum unit. -/
def forLink (rate : UInt64) (mtu : UInt32) (overhead minimumUnit : UInt16) : RateTable :=
  ((forMtu rate mtu).withOverhead overhead).withMinimumUnit minimumUnit

/-- The shift of a cell counts modulo the width of a word. -/
def cellShift (table : RateTable) : Nat := table.cellLog.toNat % 64

/-- The bytes for which a cell is charged reach to its end, and to the minimum unit. -/
def slotBytes (table : RateTable) (index : Nat) : UInt64 :=
  max (UInt64.ofNat ((index + 1) <<< table.cellShift)) table.minimumUnit.toUInt64

/-- The ticks that the bytes of one cell take. -/
def slot (table : RateTable) (index : Nat) : Ticks :=
  transmitTime table.rate (table.slotBytes index)

/-- The cell into which a packet falls, counted past the end of the table if need be. -/
def cell (table : RateTable) (length : UInt32) : Nat :=
  ((length.toNat : Int) + table.alignment.toInt + table.overhead.toNat).toNat >>> table.cellShift

/-- The charge past the table is the last cell for each whole table, and the cell of the rest. -/
def charge (table : RateTable) (length : UInt32) : Ticks :=
  let index := table.cell length
  if index < cells then table.slot index
  else
    saturatingAdd
      (saturatingMul (table.slot (cells - 1)) (Int64.ofNat (index / cells)))
      (table.slot (index % cells))

/-- The number of leading cells whose ticks fit in a bucket. -/
def fittingCells (table : RateTable) (depth : Ticks) : Nat :=
  (List.range cells).findIdx fun index => depth < table.slot index

/-- The largest packet that a bucket of `depth` ticks can pay for, negative when there is none. -/
def largestWithin (table : RateTable) (depth : Ticks) : Int64 :=
  Int64.ofNat (table.fittingCells depth <<< table.cellShift) - 1

end RateTable

end TrafficShaper
