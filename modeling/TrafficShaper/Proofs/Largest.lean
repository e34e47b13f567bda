/-
The largest packet that a table names for a bucket. It is worked out from the cells that fit, as if
a packet had no overhead: with more than one byte of it the bucket can lack the tokens for a packet
that is let in. And it stops one byte short of the end of the last cell that fits, so that a packet
of exactly an MTU can be kept out although the bucket has the tokens for it.
-/

import TrafficShaper.Bucket
import TrafficShaper.Proofs.Plan
import TrafficShaper.Proofs.Tariff

namespace TrafficShaper

namespace RateTable

variable {table : RateTable} {depth : Ticks}

/-- The first cell that does not fit costs more than the bucket holds. -/
theorem lt_slot_fittingCells (outside : table.fittingCells depth < cells) :
    depth < table.slot (table.fittingCells depth) := by
  unfold fittingCells at *
  have found : (List.range cells).findIdx (fun index => decide (depth < table.slot index)) <
      (List.range cells).length := by
    rwa [List.length_range]
  simpa only [List.getElem_range, decide_eq_true_iff] using List.findIdx_getElem (w := found)

/-- A cell fits when the bucket can pay for it, since no cell before it costs more. -/
theorem Laid.lt_fittingCells_iff (laid : table.Laid) {index : Nat} (inside : index < cells) :
    index < table.fittingCells depth ↔ table.slot index ≤ depth := by
  constructor
  · exact slot_le_of_lt_fittingCells
  · intro paid
    by_contra beyond
    have first : table.fittingCells depth ≤ index := Nat.le_of_not_lt beyond
    have above := lt_slot_fittingCells (Nat.lt_of_le_of_lt first inside)
    have slots := laid.slot_le first inside
    rw [Int64.lt_iff_toInt_lt] at above
    rw [Int64.le_iff_toInt_le] at paid
    omega

/-- The longest packet for which a table has a cell. -/
def longest (table : RateTable) : UInt32 := UInt32.ofNat (cells <<< table.cellShift - 1)

theorem Laid.longest_toNat (laid : table.Laid) :
    table.longest.toNat = cells * 2 ^ table.cellShift - 1 := by
  have bytes := laid.cellBytes_le (Nat.le_refl cells)
  rw [longest, Nat.shiftLeft_eq]
  exact UInt32.toNat_ofNat_of_lt' (by simp only [UInt32.size]; omega)

theorem Laid.largestWithin_le_longest (laid : table.Laid) (depth : Ticks) :
    (table.largestWithin depth).toInt ≤ table.longest.toNat := by
  have some := Nat.mul_pos (show 0 < cells by decide) (Nat.two_pow_pos table.cellShift)
  have fewer := Nat.mul_le_mul_right (2 ^ table.cellShift) (table.fittingCells_le depth)
  rw [laid.largestWithin_toInt, laid.longest_toNat]
  omega

/-- With more than a byte of overhead the last packet before the first cell that does not fit falls
into that cell, or into one past it. -/
theorem Laid.exists_beyond (laid : table.Laid) (heavy : ¬ table.overhead ≤ 1)
    (some : 0 < table.fittingCells depth) :
    ∃ length : UInt32, (length.toNat : Int) = (table.largestWithin depth).toInt ∧
      table.fittingCells depth ≤ table.cell length := by
  have bytes := laid.cellBytes_le (table.fittingCells_le depth)
  have positive := Nat.mul_pos some (Nat.two_pow_pos table.cellShift)
  have value := laid.largestWithin_toInt depth
  rw [UInt16.le_iff_toNat_le, UInt16.toNat_one] at heavy
  refine ⟨UInt32.ofNat (table.fittingCells depth * 2 ^ table.cellShift - 1), ?_, ?_⟩
  · rw [UInt32.toNat_ofNat_of_lt' (by simp only [UInt32.size]; omega), value]
    omega
  · rw [laid.cell_eq, UInt32.toNat_ofNat_of_lt' (by simp only [UInt32.size]; omega),
      Nat.le_div_iff_mul_le (Nat.two_pow_pos _)]
    omega

/-- A cell that does not fit is more than the bucket can pay for. -/
theorem Laid.lt_charge_of_beyond (laid : table.Laid) {length : UInt32}
    (outside : table.fittingCells depth < cells)
    (beyond : table.fittingCells depth ≤ table.cell length) :
    depth.toInt < (table.charge length).toInt := by
  have above := lt_slot_fittingCells outside
  have bound := (table.slot (table.fittingCells depth)).toInt_lt
  have more := laid.cellCharge_le beyond
  rw [cellCharge_of_inside outside] at more
  rw [Int64.lt_iff_toInt_lt] at above
  rw [charge_toInt]
  omega

/-- A bucket can pay for every packet up to the largest that a table names for it exactly when the
overhead is at most one byte, or not even the first cell fits, or the bucket can pay for the longest
packet of the table with its overhead. -/
theorem largestWithin_payable_iff (rate : UInt64) (mtu : UInt32) (overhead minimumUnit : UInt16)
    (depth : Ticks) :
    let table := forLink rate mtu overhead minimumUnit
    (∀ length : UInt32, (length.toNat : Int) ≤ (table.largestWithin depth).toInt →
        table.charge length ≤ depth) ↔
      overhead ≤ 1 ∨ depth < table.slot 0 ∨ table.charge table.longest ≤ depth := by
  intro table
  have laid : table.Laid := forLink_laid rate mtu overhead minimumUnit
  have first : 0 < table.fittingCells depth ↔ table.slot 0 ≤ depth :=
    laid.lt_fittingCells_iff (by decide)
  simp only [Int64.le_iff_toInt_le, Int64.lt_iff_toInt_lt] at first ⊢
  constructor
  · intro payable
    by_contra none
    simp only [not_or, Int.not_lt, Int.not_le] at none
    obtain ⟨heavy, fits, dear⟩ := none
    obtain ⟨length, largest, beyond⟩ := laid.exists_beyond heavy (first.mpr fits)
    have paid := payable length (Int.le_of_eq largest)
    by_cases outside : table.fittingCells depth < cells
    · have unpaid := laid.lt_charge_of_beyond outside beyond
      omega
    · -- When all cells fit, the largest packet is the longest one of the table.
      have whole : table.fittingCells depth = cells :=
        Nat.le_antisymm (table.fittingCells_le depth) (Nat.le_of_not_lt outside)
      have same : length = table.longest := by
        have positive := Nat.two_pow_pos table.cellShift
        rw [← UInt32.toNat_inj, laid.longest_toNat, ← whole]
        rw [laid.largestWithin_toInt] at largest
        omega
      rw [same] at paid
      omega
  · rintro (light | none | paid) length fits
    · exact charge_le_of_cell_lt (laid.cell_lt_fittingCells light fits)
    · have zero : table.fittingCells depth = 0 := by omega
      rw [laid.largestWithin_toInt, zero] at fits
      omega
    · have shorter : length ≤ table.longest := by
        rw [UInt32.le_iff_toNat_le]
        have bound := laid.largestWithin_le_longest depth
        omega
      exact Int.le_trans (laid.charge_le shorter) paid

/-- The largest packet for a bucket of a million ticks, on a link with one byte of overhead. -/
theorem largest_payable_of_light :
    ((999 : UInt32).toNat : Int) ≤ ((forLink 1000000 1500 1 64).largestWithin 1000000).toInt ∧
      (forLink 1000000 1500 1 64).charge 999 ≤ 1000000 := by
  have fits : ((999 : UInt32).toNat : Int) ≤
      ((forLink 1000000 1500 1 64).largestWithin 1000000).toInt := by
    decide +kernel
  have payable := (largestWithin_payable_iff 1000000 1500 1 64 1000000).mpr (.inl (by decide))
  exact ⟨fits, payable 999 fits⟩

/-- A table for full packets on a link with 24 bytes of overhead. -/
def tagged : RateTable := forLink 1000000 1500 24 0

/-- With the overhead the largest packet costs more than the bucket holds. -/
theorem tagged_largest_unpayable :
    (tagged.largestWithin 1000000).toInt = 999 ∧ tagged.charge 999 = 1024000 ∧
      ¬ ∀ length : UInt32, (length.toNat : Int) ≤ (tagged.largestWithin 1000000).toInt →
        tagged.charge length ≤ 1000000 := by
  have largest : (tagged.largestWithin 1000000).toInt = 999 := by decide +kernel
  have charge : tagged.charge 999 = 1024000 := by decide +kernel
  refine ⟨largest, charge, ?_⟩
  intro payable
  have paid := payable 999 (by rw [largest]; decide)
  rw [charge] at paid
  exact absurd paid (by decide)

/-- The bucket pays for packets of up to 976 bytes. -/
example : tagged.charge 976 = 1000000 ∧ tagged.charge 977 = 1008000 := by decide +kernel

theorem forMtu_div_lt (rate : UInt64) {mtu length : UInt32} (within : length ≤ mtu) :
    length.toNat / 2 ^ (forMtu rate mtu).cellShift < cells := by
  rw [(forMtu_laid rate mtu).cellShift_eq, (forMtu_cellLog rate mtu).1]
  exact Nat.lt_of_le_of_lt (Nat.div_le_div_right (UInt32.le_iff_toNat_le.mp within))
    (div_fittingCellLog_lt mtu.toNat)

theorem forMtu_cell (rate : UInt64) (mtu length : UInt32) :
    (forMtu rate mtu).cell length =
      (length.toNat - 1) / 2 ^ (forMtu rate mtu).cellShift :=
  (forMtu_laid rate mtu).cell_eq length

/-- A packet up to the MTU is among those that a table names when the bucket can pay for the cell of
the byte after it. -/
theorem forMtu_le_largestWithin_iff (rate : UInt64) {mtu length : UInt32} (within : length ≤ mtu) :
    (length.toNat : Int) ≤ ((forMtu rate mtu).largestWithin depth).toInt ↔
      (forMtu rate mtu).slot (length.toNat / 2 ^ (forMtu rate mtu).cellShift) ≤ depth := by
  have laid := forMtu_laid rate mtu
  have positive := Nat.two_pow_pos (forMtu rate mtu).cellShift
  rw [← laid.lt_fittingCells_iff (forMtu_div_lt rate within), Nat.div_lt_iff_lt_mul positive,
    laid.largestWithin_toInt]
  omega

/-- A packet up to the MTU falls into one of the cells. -/
theorem forMtu_cell_lt_cells (rate : UInt64) {mtu length : UInt32} (within : length ≤ mtu) :
    (forMtu rate mtu).cell length < cells := by
  rw [forMtu_cell]
  exact Nat.lt_of_le_of_lt (Nat.div_le_div_right (Nat.sub_le _ _)) (forMtu_div_lt rate within)

/-- A packet up to the MTU is charged for the cell of its last byte. -/
theorem forMtu_charge_of_le (rate : UInt64) {mtu length : UInt32} (within : length ≤ mtu) :
    (forMtu rate mtu).charge length =
      (forMtu rate mtu).slot ((length.toNat - 1) / 2 ^ (forMtu rate mtu).cellShift) := by
  rw [charge, if_pos (forMtu_cell_lt_cells rate within), forMtu_cell]

/-- The byte after a shorter packet is one of the MTU's. -/
theorem forMtu_slot_le_of_lt (rate : UInt64) {mtu length : UInt32} (shorter : length < mtu) :
    ((forMtu rate mtu).slot (length.toNat / 2 ^ (forMtu rate mtu).cellShift)).toInt ≤
      ((forMtu rate mtu).charge mtu).toInt := by
  rw [UInt32.lt_iff_toNat_lt] at shorter
  rw [forMtu_charge_of_le rate (UInt32.le_refl mtu)]
  exact (forMtu_laid rate mtu).slot_le (Nat.div_le_div_right (by omega))
    (Nat.lt_of_le_of_lt (Nat.div_le_div_right (Nat.sub_le _ _))
      (forMtu_div_lt rate (UInt32.le_refl mtu)))

/-- The byte after an MTU that does not end with a cell is in the MTU's last cell. -/
theorem forMtu_slot_of_unaligned (rate : UInt64) {mtu : UInt32}
    (unaligned : mtu = 0 ∨ ¬ 2 ^ (forMtu rate mtu).cellShift ∣ mtu.toNat) :
    (forMtu rate mtu).slot (mtu.toNat / 2 ^ (forMtu rate mtu).cellShift) =
      (forMtu rate mtu).charge mtu := by
  rw [forMtu_charge_of_le rate (UInt32.le_refl mtu)]
  rcases unaligned with rfl | unaligned
  · rfl
  · have positive : mtu.toNat ≠ 0 := by
      rintro zero
      exact unaligned (zero ▸ Nat.dvd_zero _)
    obtain ⟨before, same⟩ := Nat.exists_eq_succ_of_ne_zero positive
    rw [same] at unaligned ⊢
    rw [Nat.succ_div_of_not_dvd unaligned, Nat.succ_sub_one]

/-- The byte after an MTU that ends with a cell is in the next cell, into which a packet falls that
is one byte longer. -/
theorem forMtu_slot_of_aligned (rate : UInt64) {mtu : UInt32}
    (aligned : 2 ^ (forMtu rate mtu).cellShift ∣ mtu.toNat) :
    (forMtu rate mtu).slot (mtu.toNat / 2 ^ (forMtu rate mtu).cellShift) =
      (forMtu rate mtu).charge (mtu + 1) := by
  have inside := forMtu_div_lt rate (UInt32.le_refl mtu)
  have bytes : mtu.toNat / 2 ^ (forMtu rate mtu).cellShift * 2 ^ (forMtu rate mtu).cellShift ≤
      255 * 2 ^ 24 :=
    Nat.mul_le_mul (Nat.le_of_lt_succ inside)
      (Nat.pow_le_pow_right (by decide) (forMtu_laid rate mtu).cellShift_le)
  rw [Nat.div_mul_cancel aligned] at bytes
  have longer : (mtu + 1).toNat = mtu.toNat + 1 := by
    rw [UInt32.toNat_add, UInt32.toNat_one]
    exact Nat.mod_eq_of_lt (by omega)
  have same : (forMtu rate mtu).cell (mtu + 1) =
      mtu.toNat / 2 ^ (forMtu rate mtu).cellShift := by
    rw [forMtu_cell, longer, Nat.add_sub_cancel]
  rw [charge, same, if_pos inside]

end RateTable

namespace Configuration

variable {configuration : Configuration} {plan : Plan}

/-- The peak bucket is as deep as one MTU is charged. -/
theorem peakTable_eq_some {table : RateTable} (given : configuration.peakTable = some table) :
    (∃ peak, table = .forMtu peak configuration.mtu) ∧
      configuration.peakDepth = table.charge configuration.mtu := by
  constructor
  · simp only [peakTable, Option.map_eq_some_iff] at given
    obtain ⟨peak, -, same⟩ := given
    exact ⟨peak, same.symm⟩
  · rw [peakDepth, given]

/-- Each bucket can pay for the cell of the byte that comes after a packet. -/
def PaysPast (configuration : Configuration) (length : UInt32) : Prop :=
  configuration.committedTable.slot
      (length.toNat / 2 ^ configuration.committedTable.cellShift) ≤ configuration.depth ∧
    ∀ table, configuration.peakTable = some table →
      table.slot (length.toNat / 2 ^ table.cellShift) ≤ configuration.peakDepth

/-- It takes a byte more than a packet to have it let in. -/
theorem admits_iff (accepted : configuration.plan = .ok plan) {bucket : Bucket}
    (works : bucket.plan = plan) {length : UInt32} (within : length ≤ configuration.mtu) :
    bucket.admits length ↔ configuration.PaysPast length := by
  rw [Bucket.admits, decide_eq_true_iff, works, le_planned_largest_iff accepted]
  apply and_congr
  · exact RateTable.forMtu_le_largestWithin_iff configuration.rate within
  · apply forall_congr'
    intro table
    apply imp_congr_right
    intro given
    obtain ⟨⟨peak, rfl⟩, -⟩ := peakTable_eq_some given
    exact RateTable.forMtu_le_largestWithin_iff peak within

/-- Buckets that can pay for an MTU can pay for a shorter packet and the byte after it. -/
theorem paysPast_of_lt
    (covered : configuration.committedTable.charge configuration.mtu ≤ configuration.depth)
    {length : UInt32} (shorter : length < configuration.mtu) : configuration.PaysPast length := by
  constructor
  · have before := RateTable.forMtu_slot_le_of_lt configuration.rate shorter
    exact Int64.le_trans (Int64.le_iff_toInt_le.mpr before) covered
  · intro table given
    obtain ⟨⟨peak, rfl⟩, deep⟩ := peakTable_eq_some given
    rw [deep]
    exact Int64.le_iff_toInt_le.mpr (RateTable.forMtu_slot_le_of_lt peak shorter)

/-- Where the MTU does not end with a cell, its last cell is paid for to the end. -/
theorem paysPast_of_unaligned
    (covered : configuration.committedTable.charge configuration.mtu ≤ configuration.depth)
    (unaligned : configuration.mtu = 0 ∨
      ¬ 2 ^ configuration.committedTable.cellShift ∣ configuration.mtu.toNat) :
    configuration.PaysPast configuration.mtu := by
  constructor
  · rw [committedTable, RateTable.forMtu_slot_of_unaligned configuration.rate unaligned]
    exact covered
  · intro table given
    obtain ⟨⟨peak, rfl⟩, deep⟩ := peakTable_eq_some given
    rw [deep, RateTable.forMtu_slot_of_unaligned peak unaligned]
    exact Int64.le_refl _

/-- Where the MTU ends with a cell, the byte after it is charged for another cell. -/
theorem paysPast_of_aligned
    (aligned : 2 ^ configuration.committedTable.cellShift ∣ configuration.mtu.toNat) :
    configuration.PaysPast configuration.mtu ↔
      configuration.committedTable.charge (configuration.mtu + 1) ≤ configuration.depth ∧
        ∀ table, configuration.peakTable = some table →
          table.charge (configuration.mtu + 1) ≤ configuration.peakDepth := by
  rw [PaysPast, committedTable, RateTable.forMtu_slot_of_aligned configuration.rate aligned]
  apply and_congr_right
  intro _
  apply forall_congr'
  intro table
  apply imp_congr_right
  intro given
  obtain ⟨⟨peak, rfl⟩, -⟩ := peakTable_eq_some given
  rw [RateTable.forMtu_slot_of_aligned peak aligned]

/-- Where the committed bucket can pay for an MTU, all shorter packets are let in. So are all packets
up to the MTU exactly when the MTU does not end with a cell, or each bucket can also pay for a packet
that is one byte longer. -/
theorem full_packets_admitted_iff (accepted : configuration.plan = .ok plan)
    (covered : plan.committed.charge configuration.mtu ≤ plan.depth) {bucket : Bucket}
    (works : bucket.plan = plan) :
    (∀ length, length < configuration.mtu → bucket.admits length) ∧
      ((∀ length, length ≤ configuration.mtu → bucket.admits length) ↔
        configuration.mtu = 0 ∨
          ¬ 2 ^ plan.committed.cellLog.toNat ∣ configuration.mtu.toNat ∨
          (plan.committed.charge (configuration.mtu + 1) ≤ plan.depth ∧
            ∀ table, plan.peak = some table →
              table.charge (configuration.mtu + 1) ≤ plan.peakDepth)) := by
  have admits := @admits_iff _ _ accepted bucket works
  have laid := RateTable.forMtu_laid configuration.rate configuration.mtu
  obtain ⟨-, -, rfl⟩ := plan_ok accepted
  dsimp only at covered ⊢
  have shorter : ∀ length, length < configuration.mtu → bucket.admits length :=
    fun length less => (admits (UInt32.le_of_lt less)).mpr (paysPast_of_lt covered less)
  have full : (∀ length, length ≤ configuration.mtu → bucket.admits length) ↔
      configuration.PaysPast configuration.mtu := by
    rw [← admits (UInt32.le_refl _)]
    constructor
    · intro all
      exact all _ (UInt32.le_refl _)
    · intro last length within
      rcases UInt32.lt_or_eq_of_le within with less | rfl
      · exact shorter length less
      · exact last
  -- What decides is the byte after the MTU: it is in the same cell, or it starts the next one.
  refine ⟨shorter, full.trans ?_⟩
  rw [committedTable, ← laid.cellShift_eq]
  by_cases unaligned : configuration.mtu = 0 ∨
      ¬ 2 ^ configuration.committedTable.cellShift ∣ configuration.mtu.toNat
  · exact iff_of_true (paysPast_of_unaligned covered unaligned) (unaligned.imp_right .inl)
  · simp only [not_or, not_not] at unaligned
    obtain ⟨some, aligned⟩ := unaligned
    rw [paysPast_of_aligned aligned]
    simp only [some, false_or]
    exact (or_iff_right (not_not.mpr aligned)).symm

/-- A configuration whose MTU does not end with a cell. -/
def ordinary : Configuration := { rate := 1000000, peakRate := some 2000000, burst := some 15000 }

/-- A configuration whose MTU ends with a cell. -/
def aligned : Configuration := { ordinary with mtu := 1024 }

end Configuration

/-- The plan of a configuration whose MTU does not end with a cell. -/
def Plan.ordinary : Plan where
  committed := .forMtu 1000000 1500
  peak := some (.forMtu 2000000 1500)
  depth := 15000000
  peakDepth := 752000
  largest := 1503
  limit := 215000
  discipline := .bytes

/-- The plan of a configuration whose MTU ends with a cell. -/
def Plan.aligned : Plan where
  committed := .forMtu 1000000 1024
  peak := some (.forMtu 2000000 1024)
  depth := 15000000
  peakDepth := 512000
  largest := 1023
  limit := 215000
  discipline := .bytes

namespace Configuration

/-- Packets of up to 1500 bytes and their cells of eight bytes. -/
theorem ordinary_full_packets_admitted :
    ordinary.plan = .ok Plan.ordinary ∧
      Plan.ordinary.committed.charge ordinary.mtu ≤ Plan.ordinary.depth ∧
      (Bucket.full Plan.ordinary 0).plan = Plan.ordinary ∧
      (∀ length, length < ordinary.mtu → (Bucket.full Plan.ordinary 0).admits length) ∧
      ((∀ length, length ≤ ordinary.mtu → (Bucket.full Plan.ordinary 0).admits length) ↔
        ordinary.mtu = 0 ∨
          ¬ 2 ^ Plan.ordinary.committed.cellLog.toNat ∣ ordinary.mtu.toNat ∨
          (Plan.ordinary.committed.charge (ordinary.mtu + 1) ≤ Plan.ordinary.depth ∧
            ∀ table, Plan.ordinary.peak = some table →
              table.charge (ordinary.mtu + 1) ≤ Plan.ordinary.peakDepth)) := by
  have accepted : ordinary.plan = .ok Plan.ordinary := by decide +kernel
  have covered : Plan.ordinary.committed.charge ordinary.mtu ≤ Plan.ordinary.depth := by
    decide +kernel
  exact ⟨accepted, covered, rfl, full_packets_admitted_iff accepted covered rfl⟩

/-- A packet of 1024 bytes is kept out, though both buckets are full and have the tokens for it. -/
theorem aligned_full_packet_refused :
    aligned.plan = .ok Plan.aligned ∧
      Plan.aligned.committed.charge aligned.mtu ≤ Plan.aligned.depth ∧
      (Bucket.full Plan.aligned 0).admits aligned.mtu = false ∧
      ((Bucket.full Plan.aligned 0).release aligned.mtu 0).map Prod.snd = .ok .ready := by
  decide +kernel

end Configuration

end TrafficShaper
