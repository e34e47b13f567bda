/-
Congestion feedback never disturbs the traffic. Two stations whose configurations differ in their
congestion settings alone, and which are offered packets of the same lengths at the same ticks, stay
in step, whatever the headers show, the random words are and the channels answer.
-/

import TrafficShaper.Proofs.Dependable
import TrafficShaper.Proofs.History

namespace TrafficShaper

/-- A pairing tells which packets stand for each other. They have the same length; their headers
may differ. -/
structure Pairing (P Q : Type) [Packet P] [Packet Q] where
  Pairs : P → Q → Prop
  length_eq : ∀ {packet other}, Pairs packet other → Packet.length packet = Packet.length other

/-- Packets that have the same length stand for each other. -/
def Pairing.byLength {P Q : Type} [Packet P] [Packet Q] : Pairing P Q where
  Pairs packet other := Packet.length packet = Packet.length other
  length_eq same := same

/-- Two configurations plan alike when they differ in their congestion settings alone, and these are
both accepted, or both refused for the same reason. -/
structure Configuration.PlansAlike (configuration other : Configuration) : Prop where
  same : { configuration with congestion := other.congestion } = other
  refusal : configuration.congestion.refusal? = other.congestion.refusal?

/-- The plan does not depend on accepted congestion settings. -/
theorem Configuration.PlansAlike.plan_eq {configuration other : Configuration}
    (alike : configuration.PlansAlike other) : configuration.plan = other.plan := by
  have refusal : configuration.refusal? =
      { configuration with congestion := other.congestion }.refusal? := by
    simp only [refusal?, alike.refusal]
    rfl
  rw [← alike.same]
  simp only [plan, refusal]
  rfl

/-- The counters of the traffic are those that are not about notices. -/
def Statistics.traffic (statistics : Statistics) : Statistics :=
  { statistics with noticesSent := 0, noticesFailed := 0 }

variable {P Q C D : Type} [Packet P] [Packet Q] [Delivery.Channel C] [Delivery.Channel D]
  {pairing : Pairing P Q}

namespace Backlog

/-- Two backlogs are in step when they are limited alike and hold paired packets in order. -/
structure InStep (pairing : Pairing P Q) (backlog : Backlog P) (other : Backlog Q) : Prop where
  discipline : backlog.discipline = other.discipline
  limit : backlog.limit = other.limit
  packets : List.Forall₂ pairing.Pairs backlog.packets other.packets
  bytes : backlog.bytes = other.bytes

/-- What was taken from either end of two backlogs, and what is left of them. -/
def TakenInStep (pairing : Pairing P Q) : Option (P × Backlog P) → Option (Q × Backlog Q) → Prop :=
  Option.Rel fun taken other => pairing.Pairs taken.1 other.1 ∧ taken.2.InStep pairing other.2

/-- What two backlogs answer to paired packets. -/
inductive OfferedInStep (pairing : Pairing P Q) :
    Backlog P × Admission P → Backlog Q × Admission Q → Prop where
  | queued {backlog : Backlog P} {other : Backlog Q} (inStep : backlog.InStep pairing other) :
      OfferedInStep pairing (backlog, .queued) (other, .queued)
  | displaced {backlog : Backlog P} {other : Backlog Q} {head : P} {otherHead : Q}
      (inStep : backlog.InStep pairing other) (pairs : pairing.Pairs head otherHead) :
      OfferedInStep pairing (backlog, .displaced head) (other, .displaced otherHead)
  | rejected {backlog : Backlog P} {other : Backlog Q} {packet : P} {otherPacket : Q}
      (pairs : pairing.Pairs packet otherPacket) :
      OfferedInStep pairing (backlog, .rejected packet) (other, .rejected otherPacket)

variable {backlog : Backlog P} {other : Backlog Q}

theorem totalLength_eq {packets : List P} {others : List Q}
    (paired : List.Forall₂ pairing.Pairs packets others) :
    totalLength packets = totalLength others := by
  induction paired with
  | nil => rfl
  | cons pairs _ ih => rw [totalLength_cons, totalLength_cons, pairing.length_eq pairs, ih]

theorem empty_inStep (pairing : Pairing P Q) (discipline : Discipline) (limit : UInt32) :
    (empty discipline limit : Backlog P).InStep pairing (empty discipline limit) :=
  ⟨rfl, rfl, .nil, rfl⟩

namespace InStep

theorem clear (inStep : backlog.InStep pairing other) :
    backlog.clear.1.InStep pairing other.clear.1 :=
  ⟨inStep.discipline, inStep.limit, .nil, rfl⟩

theorem relimit (inStep : backlog.InStep pairing other) (discipline : Discipline)
    (limit : UInt32) :
    (backlog.relimit discipline limit).InStep pairing (other.relimit discipline limit) :=
  ⟨rfl, rfl, inStep.packets, inStep.bytes⟩

theorem count_eq (inStep : backlog.InStep pairing other) : backlog.count = other.count :=
  inStep.packets.length_eq

theorem full_eq (inStep : backlog.InStep pairing other) (length : UInt32) :
    backlog.full length = other.full length := by
  simp only [full, inStep.discipline, inStep.limit, inStep.bytes, inStep.count_eq]

theorem overLimit_eq (inStep : backlog.InStep pairing other) :
    backlog.overLimit = other.overLimit := by
  simp only [overLimit, inStep.discipline, inStep.limit, inStep.bytes, inStep.count_eq]

theorem push (inStep : backlog.InStep pairing other) {packet : P} {otherPacket : Q}
    (pairs : pairing.Pairs packet otherPacket) :
    (backlog.push packet).InStep pairing (other.push otherPacket) where
  discipline := inStep.discipline
  limit := inStep.limit
  packets := List.rel_append inStep.packets (.cons pairs .nil)
  bytes := by simp only [Backlog.push, inStep.bytes, pairing.length_eq pairs]

theorem takeHead (inStep : backlog.InStep pairing other) :
    TakenInStep pairing backlog.takeHead other.takeHead := by
  obtain ⟨discipline, limit, packets, bytes⟩ := backlog
  obtain ⟨otherDiscipline, otherLimit, others, otherBytes⟩ := other
  obtain ⟨rfl, rfl, paired, rfl⟩ := inStep
  cases paired with
  | nil => exact .none
  | cons pairs rest =>
      refine .some ⟨pairs, rfl, rfl, rest, ?_⟩
      dsimp only
      rw [pairing.length_eq pairs]

theorem dropTail (inStep : backlog.InStep pairing other) :
    TakenInStep pairing backlog.dropTail other.dropTail := by
  obtain ⟨discipline, limit, packets, bytes⟩ := backlog
  obtain ⟨otherDiscipline, otherLimit, others, otherBytes⟩ := other
  obtain ⟨rfl, rfl, paired, rfl⟩ := inStep
  dsimp only at paired
  rcases packets.eq_nil_or_concat with rfl | ⟨front, tail, rfl⟩
  · obtain rfl := List.forall₂_nil_left_iff.mp paired
    exact .none
  · -- Read from the tail, the two lists begin with a pair.
    have reversed := List.forall₂_reverse_iff.mpr paired
    rw [List.concat_eq_append, List.reverse_concat, List.forall₂_cons_left_iff] at reversed
    obtain ⟨otherTail, otherFront, pairs, rest, shape⟩ := reversed
    obtain rfl := List.reverse_eq_cons_iff.mp shape
    have fronts := List.forall₂_reverse_iff.mpr rest
    rw [List.reverse_reverse] at fronts
    simp only [Backlog.dropTail, List.concat_eq_append, List.getLast?_concat,
      List.dropLast_concat]
    refine .some ⟨pairs, rfl, rfl, fronts, ?_⟩
    dsimp only
    rw [pairing.length_eq pairs]

theorem offer (inStep : backlog.InStep pairing other) {packet : P} {otherPacket : Q}
    (pairs : pairing.Pairs packet otherPacket) :
    OfferedInStep pairing (backlog.offer packet) (other.offer otherPacket) := by
  have taken := inStep.takeHead
  unfold Backlog.offer
  rw [inStep.full_eq, inStep.discipline, pairing.length_eq pairs]
  split
  · generalize backlog.takeHead = first at taken
    generalize other.takeHead = second at taken
    cases taken with
    | none => cases other.discipline <;> exact .rejected pairs
    | some both =>
        cases other.discipline with
        | bytes | packets => exact .rejected pairs
        | headDrop => exact .displaced (both.2.push pairs) both.1
  · exact .queued (inStep.push pairs)

theorem dropOversized (inStep : backlog.InStep pairing other) (largest : UInt32) :
    List.Forall₂ pairing.Pairs (backlog.oversized largest) (other.oversized largest) ∧
      (backlog.dropOversized largest).2.InStep pairing (other.dropOversized largest).2 := by
  have oversized : List.Forall₂ pairing.Pairs
      (backlog.oversized largest) (other.oversized largest) := by
    refine List.rel_filter ?_ inStep.packets
    intro packet otherPacket pairs
    simp only [pairing.length_eq pairs]
  refine ⟨oversized, inStep.discipline, inStep.limit, ?_, ?_⟩
  · refine List.rel_filter ?_ inStep.packets
    intro packet otherPacket pairs
    simp only [pairing.length_eq pairs]
  · have total := totalLength_eq oversized
    simp only [Backlog.oversized, Backlog.dropOversized] at total
    simp only [Backlog.dropOversized, inStep.bytes, total]

end InStep

end Backlog

/-- Two offers are answered alike: both packets are let in, or both come back for one reason. -/
inductive AnsweredInStep (pairing : Pairing P Q) {A B : Type} :
    Except (Refusal P) A → Except (Refusal Q) B → Prop where
  | accepted {answer : A} {other : B} : AnsweredInStep pairing (.ok answer) (.ok other)
  | refused {packet : P} {other : Q} {reason : RefusalReason}
      (pairs : pairing.Pairs packet other) :
      AnsweredInStep pairing (.error ⟨packet, reason⟩) (.error ⟨other, reason⟩)

namespace Shaper

/-- Two shapers are in step when they agree on all that the traffic depends on. Their samplers and
the settings of these may differ, and so may the counters of notices and the headers of the packets
that wait. -/
structure InStep (pairing : Pairing P Q) (shaper : Shaper P) (other : Shaper Q) : Prop where
  configuration :
    { shaper.configuration with congestion := other.configuration.congestion } =
      other.configuration
  bucket : shaper.bucket = other.bucket
  backlog : shaper.backlog.InStep pairing other.backlog
  timer : shaper.timer = other.timer
  statistics : shaper.statistics.traffic = other.statistics.traffic
  attached : shaper.attached = other.attached

variable {shaper after : Shaper P} {other otherAfter : Shaper Q} {now : Ticks}

omit [Packet P] in
/-- A packet that was let in is observed, which changes the sampler alone. -/
theorem observed_eq {length : UInt32} {headers : Headers} {draw : UInt64}
    {answer : Except (Refusal P) (Option Dispatch)}
    (observed :
      (match shaper.observe length headers draw with
        | .error fault => .error fault
        | .ok (shaper, dispatch) => .ok (shaper, .ok dispatch)) =
        (.ok (after, answer) :
          Except Fault (Shaper P × Except (Refusal P) (Option Dispatch)))) :
    ∃ sampler dispatch, after = { shaper with sampler } ∧ answer = .ok dispatch := by
  unfold observe at observed
  cases counted : shaper.sampler.observe length draw with
  | error fault =>
      rw [counted] at observed
      contradiction
  | ok sampler =>
      rw [counted] at observed
      obtain ⟨rfl, rfl⟩ := Prod.mk.inj (Except.ok.inj observed)
      exact ⟨_, _, rfl, rfl⟩

/-- Once a packet is accepted only a delivery can follow, and the answer stays. -/
theorem enqueue_settled {channel channelAfter : C} {packet : P} {draw : UInt64}
    {result : Except (Refusal P) Unit}
    (enqueued : shaper.enqueue channel packet draw = .ok (after, channelAfter, result)) :
    ∃ accepted answer, shaper.accept packet draw = .ok (accepted, answer) ∧
      (after = accepted ∨ ∃ outcome, after = accepted.settle outcome) ∧
      result = answer.map fun _ => () := by
  obtain ⟨accepted, answer, accepting, delivery⟩ := enqueue_cases enqueued
  refine ⟨accepted, answer, accepting, ?_⟩
  rcases delivery with ⟨refusal, rfl, rfl, -, rfl⟩ | ⟨rfl, rfl, -, rfl⟩ | ⟨_, rfl, rfl, -, rfl⟩
  · exact ⟨.inl rfl, rfl⟩
  · exact ⟨.inl rfl, rfl⟩
  · exact ⟨.inr ⟨_, rfl⟩, rfl⟩

/-- Fresh shapers whose configurations plan alike are in step. -/
theorem create_inStep {configuration otherConfiguration : Configuration}
    (alike : configuration.PlansAlike otherConfiguration)
    (created : Shaper.create configuration now = .ok (.ok shaper))
    (otherCreated : Shaper.create otherConfiguration now = .ok (.ok other)) :
    shaper.InStep pairing other := by
  obtain ⟨plan, sampler, accepted, -, rfl⟩ := create_eq created
  obtain ⟨otherPlan, otherSampler, otherAccepted, -, rfl⟩ := create_eq otherCreated
  rw [← alike.plan_eq, accepted] at otherAccepted
  obtain rfl := Except.ok.inj otherAccepted
  exact ⟨alike.same, rfl, Backlog.empty_inStep _ _ _, rfl, rfl, rfl⟩

namespace InStep

theorem state_eq (inStep : shaper.InStep pairing other) : shaper.state = other.state := by
  simp only [state, inStep.attached, inStep.timer]

/-- A delivery touches nothing that the traffic depends on, whatever comes of it. -/
theorem settle_left (inStep : shaper.InStep pairing other) (outcome : Delivery.Outcome) :
    (shaper.settle outcome).InStep pairing other := by
  cases outcome with
  | ok _ => exact { inStep with statistics := inStep.statistics }
  | error _ => exact { inStep with statistics := inStep.statistics }

theorem settle_right (inStep : shaper.InStep pairing other) (outcome : Delivery.Outcome) :
    shaper.InStep pairing (other.settle outcome) := by
  cases outcome with
  | ok _ => exact { inStep with statistics := inStep.statistics }
  | error _ => exact { inStep with statistics := inStep.statistics }

theorem accept (inStep : shaper.InStep pairing other) {packet : P} {otherPacket : Q}
    (pairs : pairing.Pairs packet otherPacket) {draw otherDraw : UInt64}
    {answer : Except (Refusal P) (Option Dispatch)}
    {otherAnswer : Except (Refusal Q) (Option Dispatch)}
    (accepted : shaper.accept packet draw = .ok (after, answer))
    (otherAccepted : other.accept otherPacket otherDraw = .ok (otherAfter, otherAnswer)) :
    after.InStep pairing otherAfter ∧ AnsweredInStep pairing answer otherAnswer := by
  have offered := inStep.backlog.offer pairs
  obtain ⟨configuration, bucket, sampler, backlog, timer, statistics, attached⟩ := shaper
  obtain ⟨otherConfiguration, otherBucket, otherSampler, otherBacklog, otherTimer,
    otherStatistics, otherAttached⟩ := other
  obtain ⟨same, rfl, backlogs, rfl, counters, rfl⟩ := inStep
  unfold Shaper.accept at accepted otherAccepted
  dsimp only at *
  rw [← pairing.length_eq pairs] at otherAccepted
  split at accepted
  · rename_i detached
    rw [if_pos detached] at otherAccepted
    obtain ⟨rfl, rfl⟩ := Prod.mk.inj (Except.ok.inj accepted)
    obtain ⟨rfl, rfl⟩ := Prod.mk.inj (Except.ok.inj otherAccepted)
    exact ⟨⟨same, rfl, backlogs, rfl, counters, rfl⟩, .refused pairs⟩
  rename_i attached
  rw [if_neg attached] at otherAccepted
  split at accepted
  · rename_i large
    rw [if_pos large] at otherAccepted
    obtain ⟨rfl, rfl⟩ := Prod.mk.inj (Except.ok.inj accepted)
    obtain ⟨rfl, rfl⟩ := Prod.mk.inj (Except.ok.inj otherAccepted)
    exact ⟨⟨same, rfl, backlogs, rfl, congrArg Statistics.countOversized counters, rfl⟩,
      .refused pairs⟩
  rename_i fits
  rw [if_neg fits] at otherAccepted
  generalize backlog.offer packet = offer at accepted offered
  generalize otherBacklog.offer otherPacket = otherOffer at otherAccepted offered
  cases offered with
  | rejected paired =>
      obtain ⟨rfl, rfl⟩ := Prod.mk.inj (Except.ok.inj accepted)
      obtain ⟨rfl, rfl⟩ := Prod.mk.inj (Except.ok.inj otherAccepted)
      exact ⟨⟨same, rfl, backlogs, rfl, congrArg Statistics.countDrop counters, rfl⟩,
        .refused paired⟩
  | queued backlogs =>
      obtain ⟨sampler, dispatch, rfl, rfl⟩ := observed_eq accepted
      obtain ⟨otherSampler, otherDispatch, rfl, rfl⟩ := observed_eq otherAccepted
      exact ⟨⟨same, rfl, backlogs, rfl, counters, rfl⟩, .accepted⟩
  | displaced backlogs heads =>
      obtain ⟨sampler, dispatch, rfl, rfl⟩ := observed_eq accepted
      obtain ⟨otherSampler, otherDispatch, rfl, rfl⟩ := observed_eq otherAccepted
      exact ⟨⟨same, rfl, backlogs, rfl, congrArg Statistics.countDrop counters, rfl⟩, .accepted⟩

/-- Packets are offered in step, even if only one of them brings about a delivery. -/
theorem enqueue (inStep : shaper.InStep pairing other) {packet : P} {otherPacket : Q}
    (pairs : pairing.Pairs packet otherPacket) {draw otherDraw : UInt64}
    {channel channelAfter : C} {otherChannel otherChannelAfter : D}
    {result : Except (Refusal P) Unit} {otherResult : Except (Refusal Q) Unit}
    (enqueued : shaper.enqueue channel packet draw = .ok (after, channelAfter, result))
    (otherEnqueued : other.enqueue otherChannel otherPacket otherDraw =
      .ok (otherAfter, otherChannelAfter, otherResult)) :
    after.InStep pairing otherAfter ∧ AnsweredInStep pairing result otherResult := by
  obtain ⟨accepted, answer, accepting, delivery, rfl⟩ := enqueue_settled enqueued
  obtain ⟨otherAccepted, otherAnswer, otherAccepting, otherDelivery, rfl⟩ :=
    enqueue_settled otherEnqueued
  obtain ⟨offered, answered⟩ := inStep.accept pairs accepting otherAccepting
  constructor
  · rcases delivery with rfl | ⟨outcome, rfl⟩ <;>
      rcases otherDelivery with rfl | ⟨otherOutcome, rfl⟩
    · exact offered
    · exact offered.settle_right otherOutcome
    · exact offered.settle_left outcome
    · exact (offered.settle_left outcome).settle_right otherOutcome
  · cases answered with
    | refused paired => exact .refused paired
    | accepted => exact .accepted

theorem dequeue (inStep : shaper.InStep pairing other) {packet : Option P}
    {otherPacket : Option Q} (dequeued : shaper.dequeue now = .ok (after, packet))
    (otherDequeued : other.dequeue now = .ok (otherAfter, otherPacket)) :
    after.InStep pairing otherAfter ∧ Option.Rel pairing.Pairs packet otherPacket := by
  have taken := inStep.backlog.takeHead
  obtain ⟨configuration, bucket, sampler, backlog, timer, statistics, attached⟩ := shaper
  obtain ⟨otherConfiguration, otherBucket, otherSampler, otherBacklog, otherTimer,
    otherStatistics, otherAttached⟩ := other
  obtain ⟨same, rfl, backlogs, rfl, counters, rfl⟩ := inStep
  unfold Shaper.dequeue at dequeued otherDequeued
  dsimp only at *
  generalize backlog.takeHead = first at dequeued taken
  generalize otherBacklog.takeHead = second at otherDequeued taken
  cases taken with
  | none =>
      obtain ⟨rfl, rfl⟩ := Prod.mk.inj (Except.ok.inj dequeued)
      obtain ⟨rfl, rfl⟩ := Prod.mk.inj (Except.ok.inj otherDequeued)
      exact ⟨⟨same, rfl, backlogs, rfl, counters, rfl⟩, .none⟩
  | @some first second both =>
      obtain ⟨pairs, rests⟩ := both
      have lengths := pairing.length_eq pairs
      dsimp only at dequeued otherDequeued
      rw [← lengths] at otherDequeued
      split at dequeued
      · contradiction
      · rename_i released ready
        rw [ready] at otherDequeued
        obtain ⟨rfl, rfl⟩ := Prod.mk.inj (Except.ok.inj dequeued)
        obtain ⟨rfl, rfl⟩ := Prod.mk.inj (Except.ok.inj otherDequeued)
        exact ⟨⟨same, rfl, rests, rfl,
          congrArg (Statistics.countReleased · (Packet.length first.1)) counters, rfl⟩,
          .some pairs⟩
      · rename_i unchanged time waits
        rw [waits] at otherDequeued
        obtain ⟨rfl, rfl⟩ := Prod.mk.inj (Except.ok.inj dequeued)
        obtain ⟨rfl, rfl⟩ := Prod.mk.inj (Except.ok.inj otherDequeued)
        exact ⟨⟨same, rfl, backlogs, rfl, congrArg Statistics.countOverlimit counters, rfl⟩, .none⟩

theorem dropOne (inStep : shaper.InStep pairing other) :
    shaper.dropOne.1.InStep pairing other.dropOne.1 ∧ shaper.dropOne.2 = other.dropOne.2 := by
  have dropped := inStep.backlog.dropTail
  unfold Shaper.dropOne
  generalize shaper.backlog.dropTail = first at dropped
  generalize other.backlog.dropTail = second at dropped
  cases dropped with
  | none => exact ⟨inStep, rfl⟩
  | some both =>
      refine ⟨?_, congrArg some (pairing.length_eq both.1)⟩
      exact { inStep with
        backlog := both.2
        statistics := congrArg Statistics.countDrop inStep.statistics }

theorem reset (inStep : shaper.InStep pairing other) (done : shaper.reset now = .ok after)
    (otherDone : other.reset now = .ok otherAfter) : after.InStep pairing otherAfter := by
  obtain ⟨sampler, -, rfl⟩ := reset_eq done
  obtain ⟨otherSampler, -, rfl⟩ := reset_eq otherDone
  exact { inStep with
    bucket := congrArg (Bucket.reset · now) inStep.bucket
    backlog := inStep.backlog.clear
    timer := congrArg RetryTimer.cancel inStep.timer }

theorem teardown (inStep : shaper.InStep pairing other) {answer otherAnswer : Bool}
    (done : shaper.teardown = .ok (after, answer))
    (otherDone : other.teardown = .ok (otherAfter, otherAnswer)) :
    after.InStep pairing otherAfter ∧ answer = otherAnswer := by
  have attachment := inStep.attached
  rcases teardown_cases done with ⟨detached, rfl, rfl⟩ | ⟨sampler, attached, -, rfl, rfl⟩
  · rw [detached] at attachment
    rcases teardown_cases otherDone with ⟨-, rfl, rfl⟩ | ⟨_, otherAttached, -⟩
    · exact ⟨inStep, rfl⟩
    · rw [otherAttached] at attachment
      contradiction
  · rw [attached] at attachment
    rcases teardown_cases otherDone with ⟨otherDetached, -⟩ | ⟨otherSampler, -, -, rfl, rfl⟩
    · rw [otherDetached] at attachment
      contradiction
    · refine ⟨?_, rfl⟩
      exact { inStep with
        backlog := inStep.backlog.clear
        timer := congrArg RetryTimer.cancel inStep.timer
        attached := rfl }

theorem forget (inStep : shaper.InStep pairing other) (packet : P) (otherPacket : Q) :
    (shaper.forget packet).InStep pairing (other.forget otherPacket) :=
  { inStep with statistics := congrArg Statistics.countOversized inStep.statistics }

theorem relimited (inStep : shaper.InStep pairing other) (plan : Plan) :
    (shaper.relimited plan).InStep pairing (other.relimited plan) := by
  obtain ⟨oversized, rests⟩ := inStep.backlog.dropOversized plan.largest
  have kept : (shaper.dropOversized plan.largest).InStep pairing
      (other.dropOversized plan.largest) := by
    rw [dropOversized_eq, dropOversized_eq]
    refine List.rel_foldl ?_ ?_ oversized
    · intro first second inStep packet otherPacket _
      exact inStep.forget packet otherPacket
    · exact { inStep with backlog := rests }
  exact { kept with backlog := kept.backlog.relimit plan.discipline plan.limit }

theorem trimUpTo (inStep : shaper.InStep pairing other) (count : Nat) :
    (shaper.trimUpTo count).InStep pairing (other.trimUpTo count) := by
  induction count generalizing shaper other with
  | zero => exact inStep
  | succ count ih =>
      rw [Shaper.trimUpTo, Shaper.trimUpTo, inStep.backlog.overLimit_eq]
      split
      · exact ih inStep.dropOne.1
      · exact inStep

theorem fitted (inStep : shaper.InStep pairing other) (plan : Plan) :
    (shaper.fitted plan).InStep pairing (other.fitted plan) := by
  have relimited := inStep.relimited plan
  rw [Shaper.fitted, Shaper.fitted, trim, trim, relimited.backlog.count_eq]
  exact relimited.trimUpTo _

theorem reconfigure (inStep : shaper.InStep pairing other)
    {configuration otherConfiguration : Configuration}
    (alike : configuration.PlansAlike otherConfiguration)
    {answer otherAnswer : Except ReconfigureError Unit}
    (done : shaper.reconfigure configuration now = .ok (after, answer))
    (otherDone : other.reconfigure otherConfiguration now = .ok (otherAfter, otherAnswer)) :
    after.InStep pairing otherAfter ∧ answer = otherAnswer := by
  have attachment := inStep.attached
  have plans := alike.plan_eq
  cases reconfigure_cases done with
  | destroyed detached =>
      rw [detached] at attachment
      cases reconfigure_cases otherDone with
      | destroyed _ => exact ⟨inStep, rfl⟩
      | invalid otherAttached | applied otherAttached =>
          rw [otherAttached] at attachment
          contradiction
  | invalid attached refused =>
      rw [attached] at attachment
      rw [refused] at plans
      cases reconfigure_cases otherDone with
      | destroyed otherDetached =>
          rw [otherDetached] at attachment
          contradiction
      | invalid _ otherRefused =>
          rw [otherRefused] at plans
          obtain rfl := Except.error.inj plans
          exact ⟨inStep, rfl⟩
      | applied _ otherAccepted =>
          rw [otherAccepted] at plans
          contradiction
  | @applied plan sampler attached accepted =>
      rw [attached] at attachment
      rw [accepted] at plans
      cases reconfigure_cases otherDone with
      | destroyed otherDetached =>
          rw [otherDetached] at attachment
          contradiction
      | invalid _ otherRefused =>
          rw [otherRefused] at plans
          contradiction
      | applied _ otherAccepted =>
          rw [otherAccepted] at plans
          obtain rfl := Except.ok.inj plans
          have fitted := inStep.fitted plan
          refine ⟨?_, rfl⟩
          exact { fitted with
            configuration := alike.same
            bucket := rfl
            timer := congrArg RetryTimer.cancel fitted.timer }

end InStep

end Shaper

/-- Two operations are in step when they are the same but for the headers of a packet and the
congestion settings of a configuration. Feedback bounds fit where a configuration is accepted. -/
inductive Operation.InStep (pairing : Pairing P Q) : Operation P → Operation Q → Prop where
  | enqueue {packet : P} {other : Q} (pairs : pairing.Pairs packet other) :
      InStep pairing (.enqueue packet) (.enqueue other)
  | dequeue : InStep pairing .dequeue .dequeue
  | peek : InStep pairing .peek .peek
  | dropOne : InStep pairing .dropOne .dropOne
  | reset : InStep pairing .reset .reset
  | reconfigure {configuration other : Configuration} (alike : configuration.PlansAlike other)
      (bounded : ∀ plan, configuration.plan = .ok plan → configuration.Bounded)
      (otherBounded : ∀ plan, other.plan = .ok plan → other.Bounded) :
      InStep pairing (.reconfigure configuration) (.reconfigure other)
  | teardown : InStep pairing .teardown .teardown

/-- Two events are in step when their operations are, at the same clock reading. The random words
may differ. -/
structure Event.InStep (pairing : Pairing P Q) (event : Event P) (other : Event Q) : Prop where
  operation : event.operation.InStep pairing other.operation
  now : event.now = other.now

/-- Two replies are in step when they are the same but for the headers of a packet. -/
inductive Reply.InStep (pairing : Pairing P Q) : Reply P → Reply Q → Prop where
  | enqueued {result : Except (Refusal P) Unit} {other : Except (Refusal Q) Unit}
      (answered : AnsweredInStep pairing result other) :
      InStep pairing (.enqueued result) (.enqueued other)
  | dequeued {packet : Option P} {other : Option Q}
      (given : Option.Rel pairing.Pairs packet other) :
      InStep pairing (.dequeued packet) (.dequeued other)
  | peeked {head : Option P} {other : Option Q} (seen : Option.Rel pairing.Pairs head other) :
      InStep pairing (.peeked head) (.peeked other)
  | dropped {length : Option UInt32} : InStep pairing (.dropped length) (.dropped length)
  | wasReset : InStep pairing .wasReset .wasReset
  | reconfigured {result : Except ReconfigureError Unit} :
      InStep pairing (.reconfigured result) (.reconfigured result)
  | tornDown {attached : Bool} : InStep pairing (.tornDown attached) (.tornDown attached)

/-- Two transitions are in step when their replies are, and the shapers and their states after
them. -/
structure Transition.InStep (pairing : Pairing P Q) (transition : Transition P C)
    (other : Transition Q D) : Prop where
  reply : transition.reply.InStep pairing other.reply
  shaper : transition.after.shaper.InStep pairing other.after.shaper
  state : transition.after.shaper.state = other.after.shaper.state

theorem Shaper.InStep.peek {shaper : Shaper P} {other : Shaper Q}
    (inStep : shaper.InStep pairing other) : Option.Rel pairing.Pairs shaper.peek other.peek := by
  have waiting := inStep.backlog.packets
  unfold Shaper.peek Backlog.head?
  generalize shaper.backlog.packets = packets at waiting
  generalize other.backlog.packets = others at waiting
  cases waiting with
  | nil => exact .none
  | cons pairs _ => exact .some pairs

/-- A configuration that is accepted and asked for by one of two events in step has a bound that
fits. -/
theorem Event.InStep.bounded {event : Event P} {other : Event Q}
    (events : event.InStep pairing other) :
    (event.AsksOnlyFor fun configuration =>
      ∀ plan, configuration.plan = .ok plan → configuration.Bounded) ∧
      other.AsksOnlyFor fun configuration =>
        ∀ plan, configuration.plan = .ok plan → configuration.Bounded := by
  have operations := events.operation
  constructor
  · intro configuration asked
    rw [asked] at operations
    generalize other.operation = operation at operations
    cases operations with | reconfigure alike bounded otherBounded => exact bounded
  · intro configuration asked
    rw [asked] at operations
    generalize event.operation = operation at operations
    cases operations with | reconfigure alike bounded otherBounded => exact otherBounded

namespace Station

variable {station after : Station P C} {other otherAfter : Station Q D} {event : Event P}
  {otherEvent : Event Q}

/-- Stations that are in step answer events that are in step alike, and stay in step. -/
theorem step_inStep {reply : Reply P} {otherReply : Reply Q}
    (inStep : station.shaper.InStep pairing other.shaper)
    (events : event.InStep pairing otherEvent) (step : station.step event = .ok (after, reply))
    (otherStep : other.step otherEvent = .ok (otherAfter, otherReply)) :
    after.shaper.InStep pairing otherAfter.shaper ∧ reply.InStep pairing otherReply := by
  obtain ⟨operation, now, draw⟩ := event
  obtain ⟨otherOperation, otherNow, otherDraw⟩ := otherEvent
  obtain ⟨operations, readings⟩ := events
  dsimp only at operations readings
  subst readings
  cases operations with
  | enqueue pairs =>
      cases step_cases step with | enqueue enqueued =>
      cases step_cases otherStep with | enqueue otherEnqueued =>
      obtain ⟨offered, answered⟩ := inStep.enqueue pairs enqueued otherEnqueued
      exact ⟨offered, .enqueued answered⟩
  | dequeue =>
      cases step_cases step with | dequeue dequeued =>
      cases step_cases otherStep with | dequeue otherDequeued =>
      obtain ⟨asked, given⟩ := inStep.dequeue dequeued otherDequeued
      exact ⟨asked, .dequeued given⟩
  | peek =>
      cases step_cases step with | peek =>
      cases step_cases otherStep with | peek =>
      exact ⟨inStep, .peeked inStep.peek⟩
  | dropOne =>
      cases step_cases step with | dropOne =>
      cases step_cases otherStep with | dropOne =>
      obtain ⟨dropped, lengths⟩ := inStep.dropOne
      rw [lengths]
      exact ⟨dropped, .dropped⟩
  | reset =>
      cases step_cases step with | reset done =>
      cases step_cases otherStep with | reset otherDone =>
      exact ⟨inStep.reset done otherDone, .wasReset⟩
  | reconfigure alike =>
      cases step_cases step with | reconfigure done =>
      cases step_cases otherStep with | reconfigure otherDone =>
      obtain ⟨changed, rfl⟩ := inStep.reconfigure alike done otherDone
      exact ⟨changed, .reconfigured⟩
  | teardown =>
      cases step_cases step with | teardown done =>
      cases step_cases otherStep with | teardown otherDone =>
      obtain ⟨tornDown, rfl⟩ := inStep.teardown done otherDone
      exact ⟨tornDown, .tornDown⟩

theorem trace_of_step {rest : List (Event P)} {middle : Station P C} {reply : Reply P}
    {transitions : List (Transition P C)} (step : station.step event = .ok (middle, reply))
    (traced : middle.trace rest = .ok (after, transitions)) :
    station.trace (event :: rest) =
      .ok (after, ⟨station, event, reply, middle⟩ :: transitions) := by
  simp only [trace, step, traced, bind, Except.bind, pure, Except.pure]

/-- Stations that are in step and work by bounds that fit answer every run in step to its end. -/
theorem trace_inStep {events : List (Event P)} {others : List (Event Q)}
    (setUp : station.shaper.SetUp Configuration.Bounded)
    (otherSetUp : other.shaper.SetUp Configuration.Bounded)
    (inStep : station.shaper.InStep pairing other.shaper)
    (paired : List.Forall₂ (Event.InStep pairing) events others) :
    ∃ after transitions otherAfter otherTransitions,
      station.trace events = .ok (after, transitions) ∧
        other.trace others = .ok (otherAfter, otherTransitions) ∧
        List.Forall₂ (Transition.InStep pairing) transitions otherTransitions := by
  induction paired generalizing station other with
  | nil => exact ⟨_, [], _, [], rfl, rfl, .nil⟩
  | cons first _ ih =>
      obtain ⟨middle, reply, step, kept⟩ := step_answers setUp _ first.bounded.1
      obtain ⟨otherMiddle, otherReply, otherStep, otherKept⟩ :=
        step_answers otherSetUp _ first.bounded.2
      obtain ⟨shapers, replies⟩ := step_inStep inStep first step otherStep
      obtain ⟨after, transitions, otherAfter, otherTransitions, traced, otherTraced, rest⟩ :=
        ih kept otherKept shapers
      exact ⟨after, _, otherAfter, _, trace_of_step step traced,
        trace_of_step otherStep otherTraced, .cons ⟨replies, shapers, shapers.state_eq⟩ rest⟩

/-- Congestion feedback never disturbs the traffic. Take two accepted configurations that differ in
their congestion settings alone, with bounds that fit, any two channels, and two runs of operations
that are in step. Then both runs are answered to the end, and after each event the replies, the
states, the deadlines, the buckets, the backlogs and the counters of the traffic are the same in
both. -/
theorem runs_inStep {configuration otherConfiguration : Configuration} {plan : Plan}
    (alike : configuration.PlansAlike otherConfiguration)
    (accepted : configuration.plan = .ok plan) (bounded : configuration.Bounded)
    (otherBounded : otherConfiguration.Bounded) (channel : C) (otherChannel : D) (now : Ticks)
    {events : List (Event P)} {others : List (Event Q)}
    (paired : List.Forall₂ (Event.InStep pairing) events others) :
    ∃ (station : Station P C) (other : Station Q D),
      create configuration channel now = .ok (.ok station) ∧
        create otherConfiguration otherChannel now = .ok (.ok other) ∧
        station.shaper.InStep pairing other.shaper ∧
        ∃ after transitions otherAfter otherTransitions,
          station.trace events = .ok (after, transitions) ∧
            other.trace others = .ok (otherAfter, otherTransitions) ∧
            List.Forall₂ (Transition.InStep pairing) transitions otherTransitions := by
  have otherAccepted : otherConfiguration.plan = .ok plan := alike.plan_eq ▸ accepted
  obtain ⟨shaper, made, -⟩ := Shaper.create_inEffect (P := P) accepted bounded now
  obtain ⟨otherShaper, otherMade, -⟩ :=
    Shaper.create_inEffect (P := Q) otherAccepted otherBounded now
  have inStep : shaper.InStep pairing otherShaper :=
    Shaper.create_inStep alike made otherMade
  have setUp := Shaper.create_setUp bounded made
  have otherSetUp := Shaper.create_setUp otherBounded otherMade
  refine ⟨⟨shaper, channel⟩, ⟨otherShaper, otherChannel⟩, ?_, ?_, inStep, ?_⟩
  · rw [create, made]
  · rw [create, otherMade]
  · exact trace_inStep setUp otherSetUp inStep paired

/-- A steady configuration under which nearly every packet is a sample, at random intervals. -/
def restless : Configuration :=
  { Configuration.steady with
    congestion := { equilibrium := 100, intervals := [100], randomized := true } }

/-- A run of packets that show nothing. -/
def plainRun : List (Event Sketch) :=
  [⟨.enqueue ⟨1500, {}⟩, 0, 0⟩, ⟨.enqueue ⟨1200, {}⟩, 0, 0⟩, ⟨.enqueue ⟨600, {}⟩, 0, 0⟩,
    ⟨.dequeue, 0, 0⟩, ⟨.dequeue, 5, 0⟩,
    ⟨.reconfigure { Configuration.steady with burst := some 1000 }, 5, 0⟩, ⟨.dequeue, 9, 0⟩]

/-- The same run of packets with addresses, under other settings and with other random words. -/
def shownRun : List (Event Sketch) :=
  let headers : Headers := { network := some ⟨.ofBytes 10 0 0 1, .ofBytes 10 0 0 2⟩ }
  [⟨.enqueue ⟨1500, headers⟩, 0, 3⟩, ⟨.enqueue ⟨1200, headers⟩, 0, 1⟩,
    ⟨.enqueue ⟨600, headers⟩, 0, 4⟩, ⟨.dequeue, 0, 1⟩, ⟨.dequeue, 5, 5⟩,
    ⟨.reconfigure { restless with burst := some 1000 }, 5, 9⟩, ⟨.dequeue, 9, 2⟩]

/-- The two runs under the two configurations, where one channel takes all notices and the other
none. -/
theorem steady_restless_inStep :
    Configuration.steady.PlansAlike restless ∧
      List.Forall₂ (Event.InStep .byLength) plainRun shownRun ∧
      ∃ (station other : Station Sketch Delivery.Ledger),
        create .steady {} 0 = .ok (.ok station) ∧
          create restless { answer := .error .busy } 0 = .ok (.ok other) ∧
          station.shaper.InStep .byLength other.shaper ∧
          ∃ after transitions otherAfter otherTransitions,
            station.trace plainRun = .ok (after, transitions) ∧
              other.trace shownRun = .ok (otherAfter, otherTransitions) ∧
              List.Forall₂ (Transition.InStep .byLength) transitions otherTransitions := by
  have alike : Configuration.steady.PlansAlike restless := ⟨rfl, by decide⟩
  have changed : { Configuration.steady with burst := some 1000 }.PlansAlike
      { restless with burst := some 1000 } := ⟨rfl, by decide⟩
  have paired : List.Forall₂ (Event.InStep .byLength) plainRun shownRun :=
    .cons ⟨.enqueue rfl, rfl⟩ <| .cons ⟨.enqueue rfl, rfl⟩ <| .cons ⟨.enqueue rfl, rfl⟩ <|
      .cons ⟨.dequeue, rfl⟩ <| .cons ⟨.dequeue, rfl⟩ <|
      .cons ⟨.reconfigure changed (fun _ _ => by decide) (fun _ _ => by decide), rfl⟩ <|
      .cons ⟨.dequeue, rfl⟩ .nil
  have accepted : Configuration.steady.plan = .ok .steady := by decide +kernel
  exact ⟨alike, paired, runs_inStep alike accepted (by decide) (by decide) _ _ 0 paired⟩

end Station

end TrafficShaper
