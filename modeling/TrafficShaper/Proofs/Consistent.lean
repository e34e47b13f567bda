/-
The occupancy of the sampler, the byte count of the backlog and the packets themselves agree in
every state that a shaper can reach. No count is ever asked for more than it holds.
-/

import TrafficShaper.Proofs.Reached
import TrafficShaper.Proofs.Release

namespace TrafficShaper

namespace Congestion.Sampler

/-- An occupancy that covers a packet goes down by its length and does not stop at zero. -/
theorem remove_occupancy {sampler : Sampler} {length : UInt32}
    (covers : length.toNat ≤ sampler.occupancy.toNat) :
    (sampler.remove length).occupancy = sampler.occupancy - length.toUInt64 := by
  have order : length.toUInt64 ≤ sampler.occupancy := by
    rw [UInt64.le_iff_toNat_le, UInt32.toNat_toUInt64]
    exact covers
  exact if_pos order

end Congestion.Sampler

theorem Bucket.le_largest_of_admits {bucket : Bucket} {length : UInt32}
    (admits : bucket.admits length = true) : length ≤ bucket.plan.largest :=
  of_decide_eq_true admits

variable {P C : Type} [Packet P] [Delivery.Channel C]

namespace Shaper

/-- The three records of the occupancy agree. -/
structure Tallied (shaper : Shaper P) : Prop where
  counted : shaper.backlog.Counted
  occupancy : shaper.sampler.occupancy = shaper.backlog.bytes

/-- Both counts cover a packet that leaves from either end. -/
structure CoversEnds (shaper : Shaper P) : Prop where
  head : ∀ head rest, shaper.backlog.takeHead = some (head, rest) →
    (Packet.length head).toNat ≤ shaper.backlog.bytes.toNat ∧
      (Packet.length head).toNat ≤ shaper.sampler.occupancy.toNat
  tail : ∀ tail rest, shaper.backlog.dropTail = some (tail, rest) →
    (Packet.length tail).toNat ≤ shaper.backlog.bytes.toNat ∧
      (Packet.length tail).toNat ≤ shaper.sampler.occupancy.toNat

/-- No count is asked for more than it holds: neither when a packet leaves from either end, nor
when the oversized packets leave, nor while the backlog is trimmed to a new limit. -/
structure NeverOverdrawn (shaper : Shaper P) : Prop where
  ends : shaper.CoversEnds
  oversized : ∀ largest,
    totalLength (shaper.backlog.oversized largest) ≤ shaper.backlog.bytes.toNat
  forgotten : ∀ largest before packet after,
    shaper.backlog.oversized largest = before ++ packet :: after →
      (Packet.length packet).toNat ≤ (before.foldl forget shaper).sampler.occupancy.toNat
  trimmed : ∀ plan count, ((shaper.relimited plan).trimUpTo count).CoversEnds

variable {shaper : Shaper P}

theorem Tallied.coversEnds (tallied : shaper.Tallied) : shaper.CoversEnds where
  head head rest taken := by
    rw [tallied.occupancy]
    exact ⟨tallied.counted.covers_head taken, tallied.counted.covers_head taken⟩
  tail tail rest dropped := by
    rw [tallied.occupancy]
    exact ⟨tallied.counted.covers_tail dropped, tallied.counted.covers_tail dropped⟩

theorem dropOne_tallied (tallied : shaper.Tallied) : shaper.dropOne.1.Tallied := by
  rcases shaper.dropOne_cases with ⟨-, same⟩ | ⟨tail, backlog, dropped, same⟩
  · rw [same]
    exact tallied
  · have covers := (tallied.coversEnds.tail tail backlog dropped).2
    rw [same]
    refine ⟨Backlog.dropTail_counted tallied.counted dropped, ?_⟩
    rw [Backlog.dropTail_eq dropped, Congestion.Sampler.remove_occupancy covers,
      tallied.occupancy]

theorem trimUpTo_tallied (tallied : shaper.Tallied) (count : Nat) :
    (shaper.trimUpTo count).Tallied :=
  trimUpTo_keeps (fun _ => dropOne_tallied) count tallied

/-- The occupancy goes down by the packets that are forgotten. -/
theorem foldl_forget_occupancy {packets : List P}
    (covers : totalLength packets ≤ shaper.sampler.occupancy.toNat) :
    (packets.foldl forget shaper).sampler.occupancy.toNat =
      shaper.sampler.occupancy.toNat - totalLength packets := by
  induction packets generalizing shaper with
  | nil => rfl
  | cons packet rest ih =>
      rw [totalLength_cons] at covers ⊢
      have first : (shaper.forget packet).sampler.occupancy.toNat =
          shaper.sampler.occupancy.toNat - (Packet.length packet).toNat := by
        rw [forget, Congestion.Sampler.remove_occupancy (by omega)]
        exact Backlog.bytes_sub_toNat (by omega)
      rw [List.foldl_cons, ih (by omega), first]
      omega

theorem foldl_forget_backlog (packets : List P) :
    (packets.foldl forget shaper).backlog = shaper.backlog := by
  rw [foldl_forget_eq]

theorem dropOversized_backlog (largest : UInt32) :
    (shaper.dropOversized largest).backlog = (shaper.backlog.dropOversized largest).2 := by
  rw [dropOversized_eq, foldl_forget_backlog]

theorem dropOversized_tallied (tallied : shaper.Tallied) (largest : UInt32) :
    (shaper.dropOversized largest).Tallied := by
  have covers := tallied.counted.covers_oversized largest
  constructor
  · rw [dropOversized_backlog]
    exact Backlog.dropOversized_counted tallied.counted largest
  · apply UInt64.toNat_inj.mp
    rw [dropOversized_backlog, Backlog.dropOversized_bytes tallied.counted, dropOversized_eq,
      foldl_forget_occupancy]
    · rw [tallied.occupancy]
    · rw [tallied.occupancy]
      exact covers

theorem relimited_tallied (tallied : shaper.Tallied) (plan : Plan) :
    (shaper.relimited plan).Tallied :=
  have kept := dropOversized_tallied tallied plan.largest
  ⟨Backlog.relimit_counted kept.counted plan.discipline plan.limit, kept.occupancy⟩

theorem Tallied.neverOverdrawn (tallied : shaper.Tallied) : shaper.NeverOverdrawn where
  ends := tallied.coversEnds
  oversized := tallied.counted.covers_oversized
  forgotten largest before packet after split := by
    have covers := tallied.counted.covers_oversized largest
    rw [split, totalLength_append, totalLength_cons, ← tallied.occupancy] at covers
    rw [foldl_forget_occupancy (by omega)]
    omega
  trimmed plan count := (trimUpTo_tallied (relimited_tallied tallied plan) count).coversEnds

/-- What is left when packets are dropped from the tail. -/
structure TrimmedTo (shaper after : Shaper P) : Prop where
  packets : after.backlog.packets <+: shaper.backlog.packets
  discipline : after.backlog.discipline = shaper.backlog.discipline
  limit : after.backlog.limit = shaper.backlog.limit
  attached : after.attached = shaper.attached

theorem dropOne_trimmedTo (shaper : Shaper P) : shaper.TrimmedTo shaper.dropOne.1 := by
  rcases shaper.dropOne_cases with ⟨-, same⟩ | ⟨tail, backlog, dropped, same⟩
  · rw [same]
    exact ⟨List.prefix_refl _, rfl, rfl, rfl⟩
  · have shape := Backlog.dropTail_packets dropped
    rw [same, Backlog.dropTail_eq dropped]
    exact ⟨⟨[tail], shape.symm⟩, rfl, rfl, rfl⟩

omit [Packet P] in
theorem TrimmedTo.trans {middle after : Shaper P} (first : shaper.TrimmedTo middle)
    (second : middle.TrimmedTo after) : shaper.TrimmedTo after where
  packets := second.packets.trans first.packets
  discipline := second.discipline.trans first.discipline
  limit := second.limit.trans first.limit
  attached := second.attached.trans first.attached

theorem trimUpTo_trimmedTo (shaper : Shaper P) (count : Nat) :
    shaper.TrimmedTo (shaper.trimUpTo count) :=
  trimUpTo_keeps (fun after kept => kept.trans after.dropOne_trimmedTo) count
    ⟨List.prefix_refl _, rfl, rfl, rfl⟩

/-- When as many packets may be dropped as wait, the longest initial segment within the limit is
left. -/
theorem trimUpTo_longest (tallied : shaper.Tallied) {count : Nat}
    (enough : shaper.backlog.packets.length ≤ count) :
    shaper.backlog.discipline.LongestWithin shaper.backlog.limit
      (shaper.trimUpTo count).backlog.packets shaper.backlog.packets := by
  have limited := Backlog.overLimit_eq_false_iff tallied.counted
  induction count generalizing shaper with
  | zero =>
      have nothing := List.length_eq_zero_iff.mp (Nat.le_zero.mp enough)
      rw [trimUpTo, nothing]
      exact .all .nil
  | succ count ih =>
      rw [trimUpTo]
      split
      · rename_i crowded
        rw [← Bool.not_eq_false, limited] at crowded
        rcases shaper.dropOne_cases with ⟨nothing, -⟩ | ⟨tail, backlog, dropped, same⟩
        · rw [nothing] at crowded
          exact absurd .nil crowded
        · have shape := Backlog.dropTail_packets dropped
          have rest := dropOne_tallied tallied
          have frame := shaper.dropOne_trimmedTo
          rw [same] at rest frame ⊢
          have fewer : backlog.packets.length ≤ count := by
            rw [shape, List.length_append, List.length_singleton] at enough
            omega
          have kept := ih rest fewer (Backlog.overLimit_eq_false_iff rest.counted)
          rw [frame.discipline, frame.limit] at kept
          rw [shape] at crowded ⊢
          exact kept.concat crowded
      · rename_i within
        exact .all (limited.mp (Bool.eq_false_iff.mpr within))

end Shaper

/-- A backlog fits a plan when it is limited as planned and holds nothing that the buckets could
never release. -/
structure Backlog.Fits (backlog : Backlog P) (plan : Plan) : Prop where
  discipline : backlog.discipline = plan.discipline
  limit : backlog.limit = plan.limit
  within : backlog.overLimit = false
  serviceable : ∀ packet ∈ backlog.packets, Packet.length packet ≤ plan.largest

namespace Backlog

variable {backlog rest : Backlog P} {plan : Plan}

theorem empty_fits (plan : Plan) : (empty plan.discipline plan.limit : Backlog P).Fits plan where
  discipline := rfl
  limit := rfl
  within := overLimit_of_nil (empty_counted _ _) rfl
  serviceable _ member := absurd member List.not_mem_nil

theorem clear_fits (fits : backlog.Fits plan) : backlog.clear.1.Fits plan where
  discipline := fits.discipline
  limit := fits.limit
  within := overLimit_of_nil backlog.clear_counted rfl
  serviceable _ member := absurd member List.not_mem_nil

/-- A backlog with fewer packets still fits. -/
theorem Fits.fewer (fits : backlog.Fits plan) (counted : backlog.Counted)
    (restCounted : rest.Counted) (discipline : rest.discipline = backlog.discipline)
    (limit : rest.limit = backlog.limit) (sublist : rest.packets.Sublist backlog.packets) :
    rest.Fits plan where
  discipline := discipline.trans fits.discipline
  limit := limit.trans fits.limit
  within := overLimit_of_sublist counted restCounted discipline limit sublist fits.within
  serviceable packet member := fits.serviceable packet (sublist.subset member)

theorem takeHead_fits (fits : backlog.Fits plan) (counted : backlog.Counted) {head : P}
    (taken : backlog.takeHead = some (head, rest)) : rest.Fits plan := by
  have shape := takeHead_packets taken
  refine fits.fewer counted (takeHead_counted counted taken) ?_ ?_ ?_
  · rw [takeHead_eq taken]
  · rw [takeHead_eq taken]
  · rw [shape]
    exact List.sublist_cons_self head rest.packets

theorem dropTail_fits (fits : backlog.Fits plan) (counted : backlog.Counted) {tail : P}
    (dropped : backlog.dropTail = some (tail, rest)) : rest.Fits plan := by
  have shape := dropTail_packets dropped
  refine fits.fewer counted (dropTail_counted counted dropped) ?_ ?_ ?_
  · rw [dropTail_eq dropped]
  · rw [dropTail_eq dropped]
  · rw [shape]
    exact List.sublist_append_left rest.packets [tail]

/-- A packet that finds room and can be released is added. -/
theorem push_fits (fits : backlog.Fits plan) (counted : backlog.Counted) {packet : P}
    (room : backlog.full (Packet.length packet) = false)
    (short : Packet.length packet ≤ plan.largest) :
    (backlog.push packet).Fits plan ∧ (backlog.push packet).Counted := by
  obtain ⟨words, within⟩ := room_of_not_full counted fits.within room
  refine ⟨⟨fits.discipline, fits.limit, within, ?_⟩, push_counted counted words⟩
  intro other member
  rw [push_packets, List.mem_append, List.mem_singleton] at member
  rcases member with waiting | rfl
  · exact fits.serviceable other waiting
  · exact short

end Backlog

namespace Shaper

variable {shaper : Shaper P}

/-- What is left after a change of the plan can be released by it. -/
theorem fitted_serviceable (shaper : Shaper P) (plan : Plan) :
    ∀ packet ∈ (shaper.fitted plan).backlog.packets, Packet.length packet ≤ plan.largest := by
  intro packet member
  have trimmed : (shaper.relimited plan).TrimmedTo (shaper.fitted plan) :=
    trimUpTo_trimmedTo _ _
  have kept : packet ∈ (shaper.dropOversized plan.largest).backlog.packets :=
    trimmed.packets.subset member
  rw [dropOversized_backlog] at kept
  exact Backlog.dropOversized_le shaper.backlog plan.largest packet kept

/-- A change of the plan keeps the longest initial segment within the new limit of those packets
that can be released by the plan. -/
theorem fitted_longest (tallied : shaper.Tallied) (plan : Plan) :
    plan.discipline.LongestWithin plan.limit (shaper.fitted plan).backlog.packets
      (shaper.backlog.upTo plan.largest) := by
  have longest : plan.discipline.LongestWithin plan.limit (shaper.fitted plan).backlog.packets
      (shaper.relimited plan).backlog.packets :=
    trimUpTo_longest (relimited_tallied tallied plan) (Nat.le_refl _)
  have kept : (shaper.relimited plan).backlog.packets = shaper.backlog.upTo plan.largest := by
    rw [← Backlog.dropOversized_packets, ← dropOversized_backlog]
    rfl
  rwa [kept] at longest

/-- What is left after a change of the plan fits the new plan. -/
theorem fitted_fits (tallied : shaper.Tallied) (plan : Plan) :
    (shaper.fitted plan).Tallied ∧ (shaper.fitted plan).backlog.Fits plan := by
  have fitted : (shaper.fitted plan).Tallied := trimUpTo_tallied (relimited_tallied tallied plan) _
  have trimmed : (shaper.relimited plan).TrimmedTo (shaper.fitted plan) :=
    trimUpTo_trimmedTo _ _
  refine ⟨fitted, ?_⟩
  constructor
  case discipline => exact trimmed.discipline
  case limit => exact trimmed.limit
  case within =>
    rw [Backlog.overLimit_eq_false_iff fitted.counted, trimmed.discipline, trimmed.limit]
    exact (fitted_longest tallied plan).within
  case serviceable => exact fitted_serviceable shaper plan

/-- The counts agree with the packets, and the packets fit the plan. -/
structure Stocked (shaper : Shaper P) : Prop where
  tallied : shaper.Tallied
  fits : shaper.backlog.Fits shaper.bucket.plan

variable {after : Shaper P} {now : Ticks} {configuration : Configuration}

theorem create_stocked (created : Shaper.create configuration now = .ok (.ok shaper)) :
    shaper.Stocked := by
  obtain ⟨plan, sampler, -, made, rfl⟩ := create_eq created
  obtain ⟨shift, countdown, -, -, rfl⟩ := Congestion.Sampler.create_eq made
  exact ⟨⟨Backlog.empty_counted _ _, rfl⟩, Backlog.empty_fits plan⟩

namespace Stocked

theorem accept {packet : P} {draw : UInt64} {answer : Except (Refusal P) (Option Dispatch)}
    (stocked : shaper.Stocked) (accepted : shaper.accept packet draw = .ok (after, answer)) :
    after.Stocked := by
  have tallied := stocked.tallied
  cases accept_cases accepted with
  | destroyed detached => exact stocked
  | oversized attached large => exact ⟨⟨tallied.counted, tallied.occupancy⟩, stocked.fits⟩
  | full attached fits offered => exact ⟨⟨tallied.counted, tallied.occupancy⟩, stocked.fits⟩
  | queued attached fits offered observed =>
      cases offered with
      | queued room =>
          have frame := Congestion.Sampler.observe_frame observed
          have pushed := Backlog.push_fits stocked.fits tallied.counted room
            (Bucket.le_largest_of_admits fits)
          refine ⟨⟨pushed.2, ?_⟩, pushed.1⟩
          rw [frame.2.2.2, tallied.occupancy]
          rfl
  | displaced attached fits offered observed =>
      cases offered with
      | displaced crowded discipline taken =>
          have frame := Congestion.Sampler.observe_frame observed
          have covers := (tallied.coversEnds.head _ _ taken).2
          have restCounted := Backlog.takeHead_counted tallied.counted taken
          have restFits := Backlog.takeHead_fits stocked.fits tallied.counted taken
          have room := Backlog.full_of_takeHead discipline stocked.fits.within taken
            (Packet.length packet)
          have pushed := Backlog.push_fits restFits restCounted room
            (Bucket.le_largest_of_admits fits)
          refine ⟨⟨pushed.2, ?_⟩, pushed.1⟩
          rw [frame.2.2.2, Congestion.Sampler.remove_occupancy covers, tallied.occupancy,
            Backlog.takeHead_eq taken]
          rfl

theorem settle (outcome : Delivery.Outcome) (stocked : shaper.Stocked) :
    (shaper.settle outcome).Stocked := by
  have tallied := stocked.tallied
  cases outcome with
  | ok _ => exact ⟨⟨tallied.counted, tallied.occupancy⟩, stocked.fits⟩
  | error _ => exact ⟨⟨tallied.counted, tallied.occupancy⟩, stocked.fits⟩

theorem dequeue {answer : Option P} (stocked : shaper.Stocked)
    (dequeued : shaper.dequeue now = .ok (after, answer)) : after.Stocked := by
  have tallied := stocked.tallied
  cases dequeue_cases dequeued with
  | empty nothing => exact ⟨⟨tallied.counted, tallied.occupancy⟩, stocked.fits⟩
  | refused taken waits => exact ⟨⟨tallied.counted, tallied.occupancy⟩, stocked.fits⟩
  | released taken ready =>
      have covers := (tallied.coversEnds.head _ _ taken).2
      have fits := Backlog.takeHead_fits stocked.fits tallied.counted taken
      rw [← Bucket.release_plan ready] at fits
      refine ⟨⟨Backlog.takeHead_counted tallied.counted taken, ?_⟩, fits⟩
      rw [Congestion.Sampler.remove_occupancy covers, tallied.occupancy, Backlog.takeHead_eq taken]

theorem dropOne (stocked : shaper.Stocked) : shaper.dropOne.1.Stocked := by
  have tallied := dropOne_tallied stocked.tallied
  rcases shaper.dropOne_cases with ⟨-, same⟩ | ⟨tail, backlog, dropped, same⟩
  · rw [same]
    exact stocked
  · rw [same] at tallied ⊢
    exact ⟨tallied, Backlog.dropTail_fits stocked.fits stocked.tallied.counted dropped⟩

theorem reset (stocked : shaper.Stocked) (done : shaper.reset now = .ok after) :
    after.Stocked := by
  obtain ⟨sampler, emptied, rfl⟩ := reset_eq done
  obtain ⟨countdown, -, rfl⟩ := Congestion.Sampler.reset_eq emptied
  exact ⟨⟨shaper.backlog.clear_counted, rfl⟩, Backlog.clear_fits stocked.fits⟩

theorem teardown {answer : Bool} (stocked : shaper.Stocked)
    (done : shaper.teardown = .ok (after, answer)) : after.Stocked := by
  rcases teardown_cases done with ⟨-, rfl, -⟩ | ⟨sampler, -, emptied, -, rfl⟩
  · exact stocked
  · obtain ⟨countdown, -, rfl⟩ := Congestion.Sampler.reset_eq emptied
    exact ⟨⟨shaper.backlog.clear_counted, rfl⟩, Backlog.clear_fits stocked.fits⟩

theorem reconfigure {answer : Except ReconfigureError Unit} (stocked : shaper.Stocked)
    (done : shaper.reconfigure configuration now = .ok (after, answer)) : after.Stocked := by
  cases reconfigure_cases done with
  | destroyed detached => exact stocked
  | invalid attached refused => exact stocked
  | @applied plan sampler attached accepted changed =>
      obtain ⟨tallied, fits⟩ := fitted_fits stocked.tallied plan
      obtain ⟨shift, countdown, -, -, rfl⟩ := Congestion.Sampler.reconfigure_eq changed
      exact ⟨⟨tallied.counted, tallied.occupancy⟩, fits⟩

end Stocked

/-- No operation breaks the agreement, whatever the clock shows. -/
theorem stocked_invariant : Invariant (P := P) (fun _ => True) fun shaper _ => shaper.Stocked where
  later stocked _ := stocked
  accepted stocked := stocked.accept
  settled := Stocked.settle
  dequeued stocked := stocked.dequeue
  dropped stocked := stocked.dropOne
  reset stocked := stocked.reset
  reconfigured _ stocked := stocked.reconfigure
  tornDown stocked := stocked.teardown

/-- What holds between the parts of a shaper in each state that it can reach. -/
structure Consistent (shaper : Shaper P) (now : Ticks) : Prop where
  tallied : shaper.Tallied
  fits : shaper.backlog.Fits shaper.bucket.plan
  bucket : shaper.bucket.Sound now

theorem Consistent.stocked (consistent : shaper.Consistent now) : shaper.Stocked :=
  ⟨consistent.tallied, consistent.fits⟩

/-- A shaper whose counts agree is consistent when its bucket is sound. -/
theorem Stocked.withBucket (stocked : shaper.Stocked) (bucket : shaper.bucket.Sound now) :
    shaper.Consistent now :=
  ⟨stocked.tallied, stocked.fits, bucket⟩

theorem create_consistent (nonneg : 0 ≤ now)
    (created : Shaper.create configuration now = .ok (.ok shaper)) : shaper.Consistent now := by
  refine (create_stocked created).withBucket ?_
  obtain ⟨plan, sampler, accepted, -, rfl⟩ := create_eq created
  refine Bucket.full_sound (Configuration.plan_sound accepted) ?_
  simpa [Int64.le_iff_toInt_le] using nonneg

theorem Consistent.later (consistent : shaper.Consistent now) {later : Ticks}
    (order : now ≤ later) : shaper.Consistent later :=
  { consistent with bucket := consistent.bucket.later order }

theorem accept_consistent {packet : P} {draw : UInt64}
    {answer : Except (Refusal P) (Option Dispatch)} (consistent : shaper.Consistent now)
    (accepted : shaper.accept packet draw = .ok (after, answer)) : after.Consistent now := by
  refine (consistent.stocked.accept accepted).withBucket ?_
  cases accept_cases accepted <;> exact consistent.bucket

theorem settle_consistent (outcome : Delivery.Outcome) (consistent : shaper.Consistent now) :
    (shaper.settle outcome).Consistent now := by
  refine (consistent.stocked.settle outcome).withBucket ?_
  cases outcome <;> exact consistent.bucket

theorem dequeue_consistent {answer : Option P} (consistent : shaper.Consistent now)
    (dequeued : shaper.dequeue now = .ok (after, answer)) : after.Consistent now := by
  refine (consistent.stocked.dequeue dequeued).withBucket ?_
  cases dequeue_cases dequeued with
  | empty nothing => exact consistent.bucket
  | refused taken waits => exact consistent.bucket
  | released taken ready =>
      obtain ⟨covered, paid⟩ := Bucket.release_ready consistent.bucket ready
      exact paid.sound consistent.bucket covered

theorem dropOne_consistent (consistent : shaper.Consistent now) :
    shaper.dropOne.1.Consistent now := by
  refine consistent.stocked.dropOne.withBucket ?_
  rw [shaper.dropOne_pruned]
  exact consistent.bucket

theorem reset_consistent (consistent : shaper.Consistent now)
    (done : shaper.reset now = .ok after) : after.Consistent now := by
  refine (consistent.stocked.reset done).withBucket ?_
  obtain ⟨sampler, -, rfl⟩ := reset_eq done
  exact Bucket.full_sound consistent.bucket.plan consistent.bucket.nonneg

theorem teardown_consistent {answer : Bool} (consistent : shaper.Consistent now)
    (done : shaper.teardown = .ok (after, answer)) : after.Consistent now := by
  refine (consistent.stocked.teardown done).withBucket ?_
  rcases teardown_cases done with ⟨-, rfl, -⟩ | ⟨sampler, -, -, -, rfl⟩
  · exact consistent.bucket
  · exact consistent.bucket

theorem reconfigure_consistent {answer : Except ReconfigureError Unit}
    (consistent : shaper.Consistent now)
    (done : shaper.reconfigure configuration now = .ok (after, answer)) :
    after.Consistent now := by
  refine (consistent.stocked.reconfigure done).withBucket ?_
  cases reconfigure_cases done with
  | destroyed detached => exact consistent.bucket
  | invalid attached refused => exact consistent.bucket
  | applied attached accepted changed =>
      exact Bucket.full_sound (Configuration.plan_sound accepted) consistent.bucket.nonneg

/-- No operation breaks the agreement. -/
theorem consistent_invariant : Invariant (P := P) (fun _ => True) Consistent where
  later consistent order := consistent.later order
  accepted := accept_consistent
  settled := settle_consistent
  dequeued := dequeue_consistent
  dropped := dropOne_consistent
  reset := reset_consistent
  reconfigured _ := reconfigure_consistent
  tornDown := teardown_consistent

end Shaper

/-- In each state that is reached the parts of the shaper agree, and no operation can ask a count
for more than it holds. -/
theorem Station.Reached.consistent {station : Station P C} {now : Ticks}
    (reached : station.Reached now) :
    station.shaper.Consistent now ∧ station.shaper.NeverOverdrawn := by
  have consistent := Shaper.consistent_invariant.reached Shaper.create_consistent reached
  exact ⟨consistent, consistent.tallied.neverOverdrawn⟩

/-- The agreement after a change of the configuration that dropped a packet. -/
theorem Station.backlogged_consistent :
    Station.backlogged.Reached 10 ∧ Station.backlogged.shaper.Consistent 10 ∧
      Station.backlogged.shaper.NeverOverdrawn :=
  ⟨backlogged_reached, backlogged_reached.consistent⟩

end TrafficShaper
