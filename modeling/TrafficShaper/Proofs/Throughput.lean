/-
The configured rates in bytes. Over any stretch of a run in which the buckets are not refilled, the
bytes that leave exceed what the rate sends in that time by at most the burst and one tick of
traffic for each packet. What was done before the stretch does not matter.
-/

import TrafficShaper.Proofs.Conformance
import TrafficShaper.Proofs.Conservation
import TrafficShaper.Proofs.SetUp
import TrafficShaper.Proofs.Timing

namespace TrafficShaper

namespace Attempt

/-- What a window of departures cost and what is left of the tokens are no more than the depth and
the time since the first departure. -/
def Affords (depth level checkpoint : Int) (charge : UInt32 → Int)
    (departures : List Attempt) : Prop :=
  ∀ first ∈ departures.head?,
    total charge departures + level ≤ depth + (checkpoint - first.time.toInt)

/-- One more departure is paid for with the tokens that were left and with those of the time since
then. The first one is paid for with what the bucket can hold. -/
theorem Affords.append {depth level left checkpoint : Int} {charge : UInt32 → Int}
    {departures : List Attempt} (affords : Affords depth level checkpoint charge departures)
    {last : Attempt} (deep : left + charge last.length ≤ depth)
    (flow : departures ≠ [] →
      left + charge last.length ≤ level + (last.time.toInt - checkpoint)) :
    Affords depth left last.time.toInt charge (departures ++ [last]) := by
  intro first begins
  cases departures with
  | nil =>
      obtain rfl : last = first := by simpa using begins
      rw [List.nil_append, total_singleton]
      omega
  | cons head rest =>
      have before := affords head rfl
      have paid := flow (List.cons_ne_nil head rest)
      obtain rfl : head = first := by simpa using begins
      rw [total_append]
      omega

/-- Packets that are each charged for their bytes, less than one tick short, are together charged
for all the bytes, less than one tick for each packet short. -/
theorem total_lt {scale rate : Int} {charge : UInt32 → Int} {departures : List Attempt}
    (each : ∀ departure ∈ departures,
      scale * departure.length.toNat < rate * (charge departure.length + 1))
    (some : departures ≠ []) :
    scale * total (fun length => length.toNat) departures <
      rate * (total charge departures + departures.length) := by
  -- Over the integers each packet leaves a whole unit to spare, and these units add up.
  have short : scale * total (fun length => length.toNat) departures + departures.length ≤
      rate * (total charge departures + departures.length) := by
    clear some
    induction departures with
    | nil => simp [total]
    | cons departure rest ih =>
        have first := each departure List.mem_cons_self
        have others := ih fun other member => each other (List.mem_cons_of_mem _ member)
        simp only [total, List.map_cons, List.sum_cons, List.length_cons, Int.mul_add,
          Int.natCast_add, Int.mul_one] at *
        omega
  have positive : 0 < departures.length := List.length_pos_iff.mpr some
  omega

end Attempt

namespace Bucket

variable {bucket after : Bucket} {length : UInt32} {now : Ticks}

/-- The elapsed time is never negative, and never more than what passed on the clock. -/
theorem elapsed_le (filled : bucket.Filled) (now : Ticks) :
    ∃ elapsed, bucket.elapsed now = .ok elapsed ∧ 0 ≤ elapsed.toInt ∧
      (bucket.checkpoint ≤ now → elapsed.toInt ≤ now.toInt - bucket.checkpoint.toInt) := by
  obtain ⟨elapsed, counted, value⟩ := elapsed_ok filled.plan.depth now
  refine ⟨elapsed, counted, by omega, ?_⟩
  intro order
  have depth := filled.plan.depth
  have upper := now.toInt_lt
  have lower := bucket.checkpoint.le_toInt
  rw [Int64.le_iff_toInt_le] at order
  -- A difference past the word wraps below zero, and then no time counts as elapsed.
  by_cases fits : now.toInt - bucket.checkpoint.toInt < 2 ^ 63
  · rw [sub_toInt (by omega) fits] at value
    omega
  · have wrapped : (now - bucket.checkpoint).toInt =
        now.toInt - bucket.checkpoint.toInt - 2 ^ 64 := by
      rw [Int64.toInt_sub, ← Int.sub_bmod_right, Int.bmod_eq_of_le]
      all_goals omega
    omega

/-- What a packet that leaves takes out of the buckets. -/
structure Spent (bucket : Bucket) (length : UInt32) (now : Ticks) (after : Bucket) : Prop where
  plan : after.plan = bucket.plan
  checkpoint : after.checkpoint = now
  filled : after.Filled
  deep : after.tokens.toInt + bucket.plan.charge length ≤ bucket.plan.depth.toInt
  flow : bucket.checkpoint ≤ now →
    after.tokens.toInt + bucket.plan.charge length ≤
      bucket.tokens.toInt + (now.toInt - bucket.checkpoint.toInt)
  peakDeep : after.peakTokens.toInt + bucket.plan.peakCharge length ≤ bucket.plan.peakDepth.toInt
  peakFlow : bucket.checkpoint ≤ now →
    after.peakTokens.toInt + bucket.plan.peakCharge length ≤
      bucket.peakTokens.toInt + (now.toInt - bucket.checkpoint.toInt)

theorem release_spent (filled : bucket.Filled)
    (released : bucket.release length now = .ok (after, .ready)) :
    bucket.Spent length now after := by
  obtain ⟨elapsed, counted, nonneg, passed⟩ := elapsed_le filled now
  have tokens := tokensAfter_eq filled nonneg length
  have peakTokens := peakTokensAfter_eq filled nonneg length
  have charge := bucket.plan.charge_nonneg length
  have peakCharge := bucket.plan.peakCharge_nonneg length
  unfold release at released
  rw [counted] at released
  dsimp only at released
  split at released
  · rename_i paid
    simp only [Int64.le_iff_toInt_le, Int64.toInt_zero] at paid
    obtain ⟨rfl, -⟩ := Prod.mk.inj (Except.ok.inj released)
    constructor
    case plan => rfl
    case checkpoint => rfl
    case filled =>
      constructor
      case plan => exact filled.plan
      case tokens_nonneg => exact paid.1
      case tokens_le => dsimp only; omega
      case peakTokens_nonneg => exact paid.2
      case peakTokens_le => dsimp only; omega
    case deep => dsimp only; omega
    case flow =>
      intro order
      have bound := passed order
      dsimp only
      omega
    case peakDeep => dsimp only; omega
    case peakFlow =>
      intro order
      have bound := passed order
      dsimp only
      omega
  · simp at released

end Bucket

variable {P C : Type} [Packet P] [Delivery.Channel C]

/-- The buckets are within their depths and can pay for each packet that waits. -/
structure Shaper.Serviceable (shaper : Shaper P) : Prop where
  filled : shaper.bucket.Filled
  waiting : ∀ packet ∈ shaper.backlog.packets, Packet.length packet ≤ shaper.bucket.plan.largest

namespace Shaper

variable {shaper after : Shaper P} {now : Ticks}

theorem create_serviceable {configuration : Configuration}
    (created : Shaper.create configuration now = .ok (.ok shaper)) : shaper.Serviceable := by
  obtain ⟨plan, sampler, accepted, -, rfl⟩ := create_eq created
  exact ⟨Bucket.full_filled (Configuration.plan_sound accepted) now, fun _ member =>
    absurd member List.not_mem_nil⟩

namespace Serviceable

/-- It is enough that no packet came and that the buckets were left alone. -/
theorem fewer (serviceable : shaper.Serviceable) (bucket : after.bucket = shaper.bucket)
    (order : after.backlog.packets.Sublist shaper.backlog.packets) : after.Serviceable where
  filled := bucket ▸ serviceable.filled
  waiting packet member := by
    rw [bucket]
    exact serviceable.waiting packet (order.subset member)

theorem accept (serviceable : shaper.Serviceable) {packet : P} {draw : UInt64}
    {answer : Except (Refusal P) (Option Dispatch)}
    (accepted : shaper.accept packet draw = .ok (after, answer)) : after.Serviceable := by
  cases answer with
  | error refusal =>
      obtain ⟨-, same⟩ := accept_refused accepted
      rw [same]
      exact serviceable.fewer rfl (List.Sublist.refl _)
  | ok dispatch =>
      obtain ⟨bucket, -⟩ := accept_timing accepted
      have order := accept_order accepted
      have short : Packet.length packet ≤ shaper.bucket.plan.largest := by
        cases accept_cases accepted with
        | queued attached fits offered observed => exact Bucket.le_largest_of_admits fits
        | displaced attached fits offered observed => exact Bucket.le_largest_of_admits fits
      constructor
      case filled => exact bucket ▸ serviceable.filled
      case waiting =>
        intro other member
        rw [bucket]
        rcases List.mem_append.mp (order.subset member) with before | new
        · exact serviceable.waiting other before
        · rwa [List.mem_singleton.mp new]

theorem dequeue (serviceable : shaper.Serviceable) {answer : Option P}
    (dequeued : shaper.dequeue now = .ok (after, answer)) : after.Serviceable := by
  have order := (dequeue_accounts dequeued).2.2
  cases dequeue_cases dequeued with
  | empty nothing => exact serviceable.fewer rfl (List.Sublist.refl _)
  | refused taken waits => exact serviceable.fewer rfl (List.Sublist.refl _)
  | released taken ready =>
      have spent := Bucket.release_spent serviceable.filled ready
      constructor
      case filled => exact spent.filled
      case waiting =>
        intro packet member
        rw [spent.plan]
        refine serviceable.waiting packet ?_
        rw [order]
        exact List.mem_append_right _ member

theorem reconfigure (serviceable : shaper.Serviceable) {configuration : Configuration}
    {answer : Except ReconfigureError Unit}
    (done : shaper.reconfigure configuration now = .ok (after, answer)) :
    after.Serviceable := by
  cases reconfigure_cases done with
  | destroyed detached => exact serviceable
  | invalid attached refused => exact serviceable
  | @applied plan sampler attached accepted changed =>
      exact ⟨Bucket.full_filled (Configuration.plan_sound accepted) now,
        fitted_serviceable shaper plan⟩

theorem reset (serviceable : shaper.Serviceable) (done : shaper.reset now = .ok after) :
    after.Serviceable := by
  obtain ⟨sampler, -, rfl⟩ := reset_eq done
  exact ⟨Bucket.full_filled serviceable.filled.plan now, fun _ member =>
    absurd member List.not_mem_nil⟩

theorem teardown (serviceable : shaper.Serviceable) {answer : Bool}
    (done : shaper.teardown = .ok (after, answer)) : after.Serviceable := by
  rcases teardown_cases done with ⟨-, rfl, -⟩ | ⟨sampler, -, -, -, rfl⟩
  · exact serviceable
  · exact serviceable.fewer rfl (List.nil_sublist _)

end Serviceable

/-- No operation, at whatever clock reading, leaves a packet that the buckets cannot pay for. -/
theorem serviceable_invariant :
    Invariant (P := P) (fun _ => True) (fun shaper _ => shaper.Serviceable) where
  later serviceable _ := serviceable
  accepted serviceable := serviceable.accept
  settled outcome serviceable := by
    cases outcome with
    | ok _ => exact serviceable.fewer rfl (List.Sublist.refl _)
    | error _ => exact serviceable.fewer rfl (List.Sublist.refl _)
  dequeued serviceable := serviceable.dequeue
  dropped serviceable :=
    serviceable.fewer (dropOne_timing _).1 (dropOne_thinned _).order
  reset serviceable := serviceable.reset
  reconfigured _ serviceable := serviceable.reconfigure
  tornDown serviceable := serviceable.teardown

end Shaper

/-- The packet that left, as an attempt at the tick of its departure. -/
def Transition.departure? (transition : Transition P C) : Option Attempt :=
  transition.released?.map fun packet => ⟨Packet.length packet, transition.event.now⟩

omit [Delivery.Channel C] in
theorem Transition.departure?_time {transition : Transition P C} {departure : Attempt}
    (left : departure ∈ transition.departure?.toList) :
    departure.time = transition.event.now := by
  obtain ⟨packet, -, rfl⟩ := Option.map_eq_some_iff.mp (Option.mem_toList.mp left)
  rfl

omit [Delivery.Channel C] in
theorem Transition.total_departures (transitions : List (Transition P C)) :
    Attempt.total (fun length => length.toNat) (transitions.filterMap departure?) =
      totalLength (transitions.filterMap released?) := by
  induction transitions with
  | nil => rfl
  | cons transition rest ih =>
      cases given : transition.released? with
      | none => simpa [departure?, given] using ih
      | some packet =>
          simp only [Attempt.total, departure?, given, List.filterMap_cons, Option.map_some,
            List.map_cons, List.sum_cons, totalLength_cons, Int.natCast_add] at ih ⊢
          rw [ih]

/-- The buckets after the departures of a stretch. -/
structure Bucket.Paced (bucket : Bucket) (departures : List Attempt) : Prop where
  committed : Attempt.Affords bucket.plan.depth.toInt bucket.tokens.toInt
    bucket.checkpoint.toInt bucket.plan.charge departures
  peak : Attempt.Affords bucket.plan.peakDepth.toInt bucket.peakTokens.toInt
    bucket.checkpoint.toInt bucket.plan.peakCharge departures
  recent : ∀ final ∈ departures.getLast?, final.time = bucket.checkpoint
  short : ∀ departure ∈ departures, departure.length ≤ bucket.plan.largest

namespace Bucket

theorem paced_nil (bucket : Bucket) : bucket.Paced [] := by
  constructor <;> simp [Attempt.Affords]

/-- A departure that is not before those of the stretch joins them. -/
theorem Paced.append {bucket after : Bucket} {departures : List Attempt} {last : Attempt}
    (paced : bucket.Paced departures) (spent : bucket.Spent last.length last.time after)
    (later : ∀ departure ∈ departures, departure.time ≤ last.time)
    (short : last.length ≤ bucket.plan.largest) : after.Paced (departures ++ [last]) := by
  have order : departures ≠ [] → bucket.checkpoint ≤ last.time := by
    intro some
    have ends := List.getLast?_eq_some_getLast some
    rw [← paced.recent _ ends]
    exact later _ (List.getLast_mem some)
  constructor
  case committed =>
    rw [spent.plan, spent.checkpoint]
    exact paced.committed.append spent.deep fun some => spent.flow (order some)
  case peak =>
    rw [spent.plan, spent.checkpoint]
    exact paced.peak.append spent.peakDeep fun some => spent.peakFlow (order some)
  case recent =>
    intro final ends
    obtain rfl : last = final := by simpa using ends
    exact spent.checkpoint.symm
  case short =>
    rw [spent.plan]
    exact List.forall_mem_append.mpr ⟨paced.short, List.forall_mem_singleton.mpr short⟩

end Bucket

omit [Delivery.Channel C] in
/-- A step without a refill keeps the plan, and its departure joins those of the stretch. -/
theorem Transition.TimingCase.paced {transition : Transition P C} {departures : List Attempt}
    (timing : transition.TimingCase) (serviceable : transition.before.shaper.Serviceable)
    (paced : transition.before.shaper.bucket.Paced departures)
    (later : ∀ departure ∈ departures, departure.time ≤ transition.event.now)
    (unfilled : transition.refills = false) :
    transition.after.shaper.bucket.plan = transition.before.shaper.bucket.plan ∧
      transition.after.shaper.bucket.Paced (departures ++ transition.departure?.toList) := by
  cases timing with
  | untouched nothing _ bucket _ | idle nothing _ bucket _ | refused nothing _ _ _ _ _ bucket _ =>
      simp only [departure?, nothing, bucket, Option.map_none, Option.toList_none,
        List.append_nil]
      exact ⟨trivial, paced⟩
  | @released head given _ first ready _ =>
      have waits : head ∈ transition.before.shaper.backlog.packets := List.mem_of_head? first
      have spent := Bucket.release_spent serviceable.filled ready
      simp only [departure?, given, Option.map_some, Option.toList_some]
      exact ⟨spent.plan, paced.append spent later (serviceable.waiting head waits)⟩
  | refilled _ filled _ _ =>
      rw [filled] at unfilled
      contradiction

namespace Station

variable {station after : Station P C} {events : List (Event P)}
  {past transitions : List (Transition P C)}

/-- A run without refills keeps the plan, and its departures join those of the stretch. -/
theorem trace_paced {departures : List Attempt} (led : station.Past past)
    (paced : station.shaper.bucket.Paced departures)
    (later : ∀ departure ∈ departures, ∀ event ∈ events, departure.time ≤ event.now)
    (ordered : (events.map Event.now).Pairwise (· ≤ ·))
    (traced : station.trace events = .ok (after, transitions))
    (unfilled : ∀ transition ∈ transitions, transition.refills = false) :
    after.shaper.bucket.plan = station.shaper.bucket.plan ∧
      after.shaper.bucket.Paced (departures ++ transitions.filterMap Transition.departure?) := by
  -- The induction runs forward over the events, and `departures` are those before the next one.
  induction events generalizing station past departures transitions with
  | nil =>
      obtain ⟨rfl, rfl⟩ := Prod.mk.inj (Except.ok.inj traced)
      rw [List.filterMap_nil, List.append_nil]
      exact ⟨rfl, paced⟩
  | cons event rest ih =>
      obtain ⟨middle, reply, others, stepped, finished, rfl⟩ := trace_cons traced
      rw [List.map_cons, List.pairwise_cons] at ordered
      have serviceable := led.keeps Shaper.serviceable_invariant Shaper.create_serviceable
      obtain ⟨plan, joined⟩ := (step_timing stepped).paced serviceable paced
        (fun departure member => later departure member event List.mem_cons_self)
        (unfilled _ List.mem_cons_self)
      have continued := ih (.stepped led stepped) joined ?_ ordered.2 finished
        fun other member => unfilled other (List.mem_cons_of_mem _ member)
      · rw [plan, List.append_assoc, ← filterMap_singleton, ← List.filterMap_append,
          List.singleton_append] at continued
        exact continued
      · intro departure member other inside
        rcases List.mem_append.mp member with before | now
        · exact later departure before other (List.mem_cons_of_mem _ inside)
        · rw [Transition.departure?_time now]
          exact ordered.1 _ (List.mem_map_of_mem inside)

/-- The buckets always work by the plan of the configuration in effect. -/
theorem Past.planned (led : station.Past past) :
    station.shaper.configuration.plan = .ok station.shaper.bucket.plan :=
  (led.keeps
    { Shaper.setUp_invariant fun _ => True with
      reconfigured := fun _ setUp => setUp.reconfigure fun _ _ => trivial }
    (Shaper.create_setUp trivial)).planned

/-- In a stretch without refills the bytes that leave are fewer than the burst and what the rate
sends between the first and the last departure and in one tick more for each packet. With a peak
rate they are fewer than what that rate sends in the depth of its bucket, in the same time and in
the same ticks. -/
theorem Past.throughput (led : station.Past past)
    (ordered : (events.map Event.now).IsChain (· ≤ ·))
    (traced : station.trace events = .ok (after, transitions))
    (unfilled : ∀ transition ∈ transitions, transition.refills = false)
    {departures : List Attempt} {first final : Attempt}
    (departed : transitions.filterMap Transition.departure? = departures)
    (begins : departures.head? = some first) (ends : departures.getLast? = some final) :
    (ticksPerSecond * totalLength (transitions.filterMap Transition.released?) : Int) <
        ticksPerSecond * station.shaper.configuration.effectiveBurst.toNat +
          station.shaper.configuration.rate.toNat *
            ((final.time.toInt - first.time.toInt) + departures.length) ∧
      ∀ peak, station.shaper.configuration.peakRate = some peak →
        (ticksPerSecond * totalLength (transitions.filterMap Transition.released?) : Int) <
          peak.toNat *
            (station.shaper.bucket.plan.peakDepth.toInt +
              (final.time.toInt - first.time.toInt) + departures.length) := by
  have planned := led.planned
  have filled := ((led.trace traced).keeps Shaper.serviceable_invariant
    Shaper.create_serviceable).filled
  obtain ⟨plan, paced⟩ := trace_paced led (Bucket.paced_nil _) (by simp)
    (List.isChain_iff_pairwise.mp ordered) traced unfilled
  rw [List.nil_append, departed] at paced
  have some : departures ≠ [] := by
    rintro rfl
    contradiction
  have bytes := Transition.total_departures transitions
  have last := congrArg Int64.toInt (paced.recent final ends)
  have short : ∀ departure ∈ departures,
      departure.length ≤ station.shaper.bucket.plan.largest := plan ▸ paced.short
  rw [departed] at bytes
  rw [← bytes]
  constructor
  · have cost := paced.committed first begins
    have left := filled.tokens_nonneg
    rw [plan] at cost
    calc _ < (station.shaper.configuration.rate.toNat : Int) *
          (Attempt.total station.shaper.bucket.plan.charge departures + departures.length) :=
          Attempt.total_lt (fun departure member =>
            Configuration.lt_rate_mul_charge planned (short departure member)) some
      _ ≤ station.shaper.configuration.rate.toNat * (station.shaper.bucket.plan.depth.toInt +
            ((final.time.toInt - first.time.toInt) + departures.length)) :=
          Int.mul_le_mul_of_nonneg_left (by omega) (Int.natCast_nonneg _)
      _ ≤ _ := by
          rw [Int.mul_add]
          exact Int.add_le_add_right (Configuration.rate_mul_depth_le planned) _
  · intro peak given
    have cost := paced.peak first begins
    have left := filled.peakTokens_nonneg
    rw [plan] at cost
    calc _ < (peak.toNat : Int) *
          (Attempt.total station.shaper.bucket.plan.peakCharge departures +
            departures.length) :=
          Attempt.total_lt (fun departure member =>
            Configuration.lt_peak_mul_peakCharge planned given (short departure member)) some
      _ ≤ _ := Int.mul_le_mul_of_nonneg_left (by omega) (Int.natCast_nonneg _)

/-- A stretch in which three packets leave, two attempts are refused, one packet is dropped from
the tail, and a configuration is refused. -/
def pacedRun : List (Event Sketch) :=
  [⟨.enqueue ⟨2900, {}⟩, 5, 0⟩, ⟨.enqueue ⟨1000, {}⟩, 5, 0⟩, ⟨.enqueue ⟨1200, {}⟩, 5, 0⟩,
    ⟨.dequeue, 5, 0⟩, ⟨.dequeue, 10, 0⟩, ⟨.dropOne, 10, 0⟩, ⟨.reconfigure { rate := 0 }, 20, 0⟩,
    ⟨.enqueue ⟨2000, {}⟩, 500000, 0⟩, ⟨.dequeue, 1000000, 0⟩, ⟨.dequeue, 3000000, 0⟩,
    ⟨.dequeue, 4000000, 0⟩]

/-- The station after that stretch. -/
def paced : Station Sketch Delivery.Ledger := (fresh.follow pacedRun).1

/-- The transitions of that stretch. -/
def pacedStretch : List (Transition Sketch Delivery.Ledger) := (fresh.follow pacedRun).2

/-- The departures of that stretch. -/
def pacedDepartures : List Attempt := [⟨2900, 5⟩, ⟨1000, 1000000⟩, ⟨2000, 4000000⟩]

/-- The bytes of that stretch, at a rate and a peak rate. -/
theorem paced_throughput :
    fresh.Past [] ∧ (pacedRun.map Event.now).IsChain (· ≤ ·) ∧
      fresh.trace pacedRun = .ok (paced, pacedStretch) ∧
      (∀ transition ∈ pacedStretch, transition.refills = false) ∧
      pacedStretch.filterMap Transition.departure? = pacedDepartures ∧
      pacedDepartures.head? = some ⟨2900, 5⟩ ∧ pacedDepartures.getLast? = some ⟨2000, 4000000⟩ ∧
      (ticksPerSecond * totalLength (pacedStretch.filterMap Transition.released?) : Int) <
        ticksPerSecond * fresh.shaper.configuration.effectiveBurst.toNat +
          fresh.shaper.configuration.rate.toNat *
            (((4000000 : Ticks).toInt - (5 : Ticks).toInt) + pacedDepartures.length) ∧
      ∀ peak, fresh.shaper.configuration.peakRate = some peak →
        (ticksPerSecond * totalLength (pacedStretch.filterMap Transition.released?) : Int) <
          peak.toNat *
            (fresh.shaper.bucket.plan.peakDepth.toInt +
              ((4000000 : Ticks).toInt - (5 : Ticks).toInt) + pacedDepartures.length) := by
  have led : fresh.Past [] := .created fresh_created
  have ordered : (pacedRun.map Event.now).IsChain (· ≤ ·) := by decide
  have traced : fresh.trace pacedRun = .ok (paced, pacedStretch) :=
    trace_follow fresh pacedRun (by decide +kernel)
  have unfilled : ∀ transition ∈ pacedStretch, transition.refills = false := by decide +kernel
  have departed : pacedStretch.filterMap Transition.departure? = pacedDepartures := by
    decide +kernel
  have begins : pacedDepartures.head? = some ⟨2900, 5⟩ := rfl
  have ends : pacedDepartures.getLast? = some ⟨2000, 4000000⟩ := rfl
  obtain ⟨committed, peak⟩ := led.throughput ordered traced unfilled departed begins ends
  exact ⟨led, ordered, traced, unfilled, departed, begins, ends, committed, peak⟩

end Station

end TrafficShaper
