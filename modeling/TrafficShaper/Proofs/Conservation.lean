/-
No packet is lost or counted twice. Every packet that is offered is released, dropped, let go, or
still waits, and the counters say so. The packets that were given out and those that wait stand in
the order in which they were let in, and a packet that is refused comes back and leaves no trace
but in the counters.
-/

import TrafficShaper.Proofs.Consistent
import TrafficShaper.Proofs.History

namespace TrafficShaper

variable {P C : Type} [Packet P] [Delivery.Channel C]

omit [Packet P] in
/-- Each oversized packet is one drop more. -/
theorem Statistics.foldl_countOversized (packets : List P) (statistics : Statistics) :
    packets.foldl (fun statistics _ => statistics.countOversized) statistics =
      { statistics with
        oversized := statistics.oversized + UInt64.ofNat packets.length
        drops := statistics.drops + UInt64.ofNat packets.length } := by
  induction packets generalizing statistics with
  | nil => simp
  | cons packet rest ih =>
      rw [List.foldl_cons, ih, List.length_cons, UInt64.ofNat_add]
      simp only [Statistics.countOversized, Statistics.countDrop, Statistics.mk.injEq]
      grind

namespace Shaper

/-- The packets that were released or dropped, and those that wait. -/
def tally (shaper : Shaper P) : UInt64 :=
  shaper.statistics.packets + shaper.statistics.drops + UInt64.ofNat shaper.backlog.count

/-- Some of the waiting packets were dropped, and nothing else was counted. -/
structure Thinned (shaper after : Shaper P) : Prop where
  tally : after.tally = shaper.tally
  bytes : after.statistics.bytes = shaper.statistics.bytes
  order : after.backlog.packets.Sublist shaper.backlog.packets

variable {shaper middle after : Shaper P} {now : Ticks}

omit [Packet P] in
theorem Thinned.refl (shaper : Shaper P) : shaper.Thinned shaper :=
  ⟨rfl, rfl, List.Sublist.refl _⟩

omit [Packet P] in
theorem Thinned.trans (first : shaper.Thinned middle) (second : middle.Thinned after) :
    shaper.Thinned after where
  tally := second.tally.trans first.tally
  bytes := second.bytes.trans first.bytes
  order := second.order.trans first.order

theorem dropOne_thinned (shaper : Shaper P) : shaper.Thinned shaper.dropOne.1 := by
  rcases shaper.dropOne_cases with ⟨-, same⟩ | ⟨tail, backlog, dropped, same⟩
  · rw [same]
    exact .refl shaper
  · have count := Backlog.dropTail_count dropped
    have shape := Backlog.dropTail_packets dropped
    rw [same]
    constructor
    case tally =>
      simp only [tally, Statistics.countDrop, count, UInt64.ofNat_add]
      grind
    case bytes => rfl
    case order =>
      rw [shape]
      exact List.sublist_append_left backlog.packets [tail]

theorem dropOversized_thinned (shaper : Shaper P) (largest : UInt32) :
    shaper.Thinned (shaper.dropOversized largest) := by
  have count := shaper.backlog.dropOversized_count largest
  rw [dropOversized_eq, foldl_forget_eq, Statistics.foldl_countOversized]
  constructor
  case tally =>
    simp only [tally, count, UInt64.ofNat_add]
    grind
  case bytes => rfl
  case order => exact List.filter_sublist

/-- A change of the plan only drops packets. -/
theorem fitted_thinned (shaper : Shaper P) (plan : Plan) :
    shaper.Thinned (shaper.fitted plan) := by
  have kept := shaper.dropOversized_thinned plan.largest
  have relimited : shaper.Thinned (shaper.relimited plan) :=
    ⟨kept.tally, kept.bytes, kept.order⟩
  exact trimUpTo_keeps (fun trimmed thinned => thinned.trans trimmed.dropOne_thinned) _ relimited

theorem reconfigure_thinned {configuration : Configuration}
    {answer : Except ReconfigureError Unit}
    (done : shaper.reconfigure configuration now = .ok (after, answer)) :
    shaper.Thinned after := by
  cases reconfigure_cases done with
  | destroyed detached => exact .refl shaper
  | invalid attached refused => exact .refl shaper
  | @applied plan sampler attached accepted changed =>
      have fitted := shaper.fitted_thinned plan
      exact ⟨fitted.tally, fitted.bytes, fitted.order⟩

/-- A packet that is offered is counted once, unless the shaper is destroyed. -/
theorem accept_tally {packet : P} {draw : UInt64}
    {answer : Except (Refusal P) (Option Dispatch)}
    (accepted : shaper.accept packet draw = .ok (after, answer)) :
    after.tally = shaper.tally + if shaper.attached then 1 else 0 := by
  cases accept_cases accepted with
  | destroyed detached => simp [detached]
  | oversized attached large =>
      simp only [tally, Statistics.countOversized, Statistics.countDrop, attached, if_true]
      grind
  | full attached fits offered =>
      simp only [tally, Statistics.countDrop, attached, if_true]
      grind
  | queued attached fits offered observed =>
      cases offered with
      | queued room =>
          simp only [tally, attached, if_true, Backlog.push_count, UInt64.ofNat_add]
          grind
  | displaced attached fits offered observed =>
      cases offered with
      | displaced full discipline taken =>
          have count := Backlog.takeHead_count taken
          simp only [tally, Statistics.countDrop, attached, if_true, Backlog.push_count, count,
            UInt64.ofNat_add]
          grind

theorem accept_bytes {packet : P} {draw : UInt64}
    {answer : Except (Refusal P) (Option Dispatch)}
    (accepted : shaper.accept packet draw = .ok (after, answer)) :
    after.statistics.bytes = shaper.statistics.bytes := by
  cases accept_cases accepted <;> rfl

/-- A packet that is let in stands behind those that wait. -/
theorem accept_order {packet : P} {draw : UInt64} {dispatch : Option Dispatch}
    (accepted : shaper.accept packet draw = .ok (after, .ok dispatch)) :
    after.backlog.packets.Sublist (shaper.backlog.packets ++ [packet]) := by
  cases accept_cases accepted with
  | queued attached fits offered observed =>
      cases offered with
      | queued room => exact List.Sublist.refl _
  | displaced attached fits offered observed =>
      cases offered with
      | displaced full discipline taken =>
          rw [Backlog.takeHead_packets taken]
          exact List.sublist_cons_self _ _

/-- A packet that is refused comes back, and nothing but a counter changes. -/
theorem accept_refused {packet : P} {draw : UInt64} {refusal : Refusal P}
    (accepted : shaper.accept packet draw = .ok (after, .error refusal)) :
    refusal.packet = packet ∧ after = { shaper with statistics := after.statistics } := by
  cases accept_cases accepted with
  | destroyed detached => exact ⟨rfl, rfl⟩
  | oversized attached large => exact ⟨rfl, rfl⟩
  | full attached fits offered => exact ⟨rfl, rfl⟩

omit [Packet P] in
/-- The outcome of a delivery is no matter of the backlog. -/
theorem settle_accounts (shaper : Shaper P) (outcome : Delivery.Outcome) :
    (shaper.settle outcome).tally = shaper.tally ∧
      (shaper.settle outcome).statistics.bytes = shaper.statistics.bytes ∧
      (shaper.settle outcome).backlog = shaper.backlog := by
  cases outcome with
  | ok _ => exact ⟨rfl, rfl, rfl⟩
  | error _ => exact ⟨rfl, rfl, rfl⟩

/-- An offered packet is counted once, and joins those that wait if it is let in. -/
theorem enqueue_accounts {channel channelAfter : C} {packet : P} {draw : UInt64}
    {result : Except (Refusal P) Unit}
    (enqueued : shaper.enqueue channel packet draw = .ok (after, channelAfter, result)) :
    after.tally = shaper.tally + (if shaper.attached then 1 else 0) ∧
      after.statistics.bytes = shaper.statistics.bytes ∧
      after.backlog.packets.Sublist
        (shaper.backlog.packets ++ if result.isOk then [packet] else []) := by
  obtain ⟨accepted, answer, accepting, delivery⟩ := enqueue_cases enqueued
  have tally := accept_tally accepting
  have bytes := accept_bytes accepting
  rcases delivery with
    ⟨refusal, rfl, rfl, -, rfl⟩ | ⟨rfl, rfl, -, rfl⟩ | ⟨dispatch, rfl, rfl, -, rfl⟩
  · obtain ⟨-, same⟩ := accept_refused accepting
    refine ⟨tally, bytes, ?_⟩
    rw [same]
    simp [Except.isOk, Except.toBool]
  · exact ⟨tally, bytes, accept_order accepting⟩
  · obtain ⟨settledTally, settledBytes, settledBacklog⟩ :=
      accepted.settle_accounts (Delivery.Channel.deliver channel dispatch).2
    refine ⟨settledTally.trans tally, settledBytes.trans bytes, ?_⟩
    rw [settledBacklog]
    exact accept_order accepting

theorem enqueue_refused {channel channelAfter : C} {packet : P} {draw : UInt64}
    {refusal : Refusal P}
    (enqueued : shaper.enqueue channel packet draw = .ok (after, channelAfter, .error refusal)) :
    refusal.packet = packet ∧ channelAfter = channel ∧
      after = { shaper with statistics := after.statistics } := by
  obtain ⟨accepted, answer, accepting, delivery⟩ := enqueue_cases enqueued
  rcases delivery with ⟨other, rfl, rfl, rfl, same⟩ | ⟨-, -, -, same⟩ | ⟨-, -, -, -, same⟩
  · obtain rfl := Except.error.inj same
    obtain ⟨back, unchanged⟩ := accept_refused accepting
    exact ⟨back, rfl, unchanged⟩
  · contradiction
  · contradiction

/-- What is given out is counted, and was the head. -/
theorem dequeue_accounts {answer : Option P}
    (dequeued : shaper.dequeue now = .ok (after, answer)) :
    after.tally = shaper.tally ∧
      after.statistics.bytes =
        shaper.statistics.bytes + UInt64.ofNat (totalLength answer.toList) ∧
      shaper.backlog.packets = answer.toList ++ after.backlog.packets := by
  cases dequeue_cases dequeued with
  | empty nothing => exact ⟨rfl, by simp, rfl⟩
  | @released head backlog bucket taken ready =>
      have count := Backlog.takeHead_count taken
      refine ⟨?_, ?_, Backlog.takeHead_packets taken⟩
      · simp only [tally, Statistics.countReleased, count, UInt64.ofNat_add]
        grind
      · simp [Statistics.countReleased]
  | refused taken waits => exact ⟨rfl, by simp [Statistics.countOverlimit], rfl⟩

end Shaper

namespace Transition

/-- The packet that was offered, if the shaper was not destroyed. -/
def offered? (transition : Transition P C) : Option P :=
  match transition.event.operation with
  | .enqueue packet => if transition.before.shaper.attached then some packet else none
  | _ => none

/-- The number of packets that a reset or a teardown let go. -/
def discarded (transition : Transition P C) : Nat :=
  match transition.event.operation with
  | .reset | .teardown =>
      transition.before.shaper.backlog.count - transition.after.shaper.backlog.count
  | _ => 0

/-- What a step does to the accounts of a shaper. -/
structure Balanced (transition : Transition P C) : Prop where
  tally :
    transition.after.shaper.tally + UInt64.ofNat transition.discarded =
      transition.before.shaper.tally + UInt64.ofNat transition.offered?.toList.length
  bytes :
    transition.after.shaper.statistics.bytes =
      transition.before.shaper.statistics.bytes +
        UInt64.ofNat (totalLength transition.released?.toList)
  order :
    (transition.released?.toList ++ transition.after.shaper.backlog.packets).Sublist
      (transition.before.shaper.backlog.packets ++ transition.accepted?.toList)

variable {transition : Transition P C}

omit [Delivery.Channel C] in
/-- A step that only drops packets is balanced. -/
theorem balanced_of_thinned (offered : transition.offered? = none)
    (accepted : transition.accepted? = none) (released : transition.released? = none)
    (discarded : transition.discarded = 0)
    (thinned : transition.before.shaper.Thinned transition.after.shaper) :
    transition.Balanced := by
  constructor
  case tally => rw [offered, discarded, thinned.tally, Option.toList_none, List.length_nil]
  case bytes => simp [released, thinned.bytes]
  case order => simpa [released, accepted] using thinned.order

omit [Delivery.Channel C] in
/-- A step that lets all packets go is balanced. -/
theorem balanced_of_emptied (offered : transition.offered? = none)
    (accepted : transition.accepted? = none) (released : transition.released? = none)
    (discarded : transition.discarded =
      transition.before.shaper.backlog.count - transition.after.shaper.backlog.count)
    (counters : transition.after.shaper.statistics = transition.before.shaper.statistics)
    (emptied : transition.after.shaper.backlog.packets = []) : transition.Balanced := by
  have none_left : transition.after.shaper.backlog.count = 0 := by
    rw [Backlog.count, emptied, List.length_nil]
  constructor
  case tally => simp [Shaper.tally, offered, discarded, none_left, counters]
  case bytes => simp [released, counters]
  case order => simp [released, accepted, emptied]

end Transition

namespace Station

variable {station after : Station P C} {event : Event P} {reply : Reply P}

/-- Each step is balanced. -/
theorem step_balanced (step : station.step event = .ok (after, reply)) :
    (⟨station, event, reply, after⟩ : Transition P C).Balanced := by
  cases step_cases step with
  | @enqueue packet now draw shaper channel result enqueued =>
      obtain ⟨tally, bytes, order⟩ := Shaper.enqueue_accounts enqueued
      constructor
      case tally =>
        simp only [Transition.discarded, Transition.offered?, tally]
        cases station.shaper.attached <;> simp
      case bytes => simp [Transition.released?, bytes]
      case order =>
        cases result with
        | ok _ => exact order
        | error _ => exact order
  | dequeue dequeued =>
      obtain ⟨tally, bytes, order⟩ := Shaper.dequeue_accounts dequeued
      constructor
      case tally => simp [Transition.discarded, Transition.offered?, tally]
      case bytes => exact bytes
      case order => simp [Transition.released?, Transition.accepted?, order]
  | peek => exact Transition.balanced_of_thinned rfl rfl rfl rfl (.refl station.shaper)
  | dropOne => exact Transition.balanced_of_thinned rfl rfl rfl rfl station.shaper.dropOne_thinned
  | reset done =>
      obtain ⟨sampler, emptied, rfl⟩ := Shaper.reset_eq done
      exact Transition.balanced_of_emptied rfl rfl rfl rfl rfl rfl
  | reconfigure done =>
      exact Transition.balanced_of_thinned rfl rfl rfl rfl (Shaper.reconfigure_thinned done)
  | teardown done =>
      rcases Shaper.teardown_cases done with ⟨-, rfl, -⟩ | ⟨sampler, -, emptied, -, rfl⟩
      · exact Transition.balanced_of_thinned rfl rfl rfl (Nat.sub_self _) (.refl station.shaper)
      · exact Transition.balanced_of_emptied rfl rfl rfl rfl rfl rfl

/-- A packet that is refused comes back, and nothing but the counters changes. -/
theorem step_refused {packet : P} {now : Ticks} {draw : UInt64} {refusal : Refusal P}
    (step : station.step ⟨.enqueue packet, now, draw⟩ =
      .ok (after, .enqueued (.error refusal))) :
    refusal.packet = packet ∧ after =
      { station with
        shaper := { station.shaper with statistics := after.shaper.statistics } } := by
  cases step_cases step with
  | enqueue enqueued =>
      obtain ⟨back, rfl, same⟩ := Shaper.enqueue_refused enqueued
      exact ⟨back, congrArg (fun shaper => { station with shaper }) same⟩

/-- The accounts of a station over its past. -/
structure Accounted (station : Station P C) (past : List (Transition P C)) : Prop where
  /-- Every packet that was offered was released, dropped or let go, or it still waits. -/
  balance :
    UInt64.ofNat (past.filterMap Transition.offered?).length =
      station.shaper.statistics.packets + station.shaper.statistics.drops +
        UInt64.ofNat station.shaper.backlog.count +
        UInt64.ofNat (past.map Transition.discarded).sum
  /-- The bytes are those of the packets that were given out. -/
  bytes :
    station.shaper.statistics.bytes =
      UInt64.ofNat (totalLength (past.filterMap Transition.released?))
  /-- What was given out and what waits are among the packets let in, in their order. -/
  order :
    (past.filterMap Transition.released? ++ station.shaper.backlog.packets).Sublist
      (past.filterMap Transition.accepted?)

omit [Delivery.Channel C] in
theorem create_accounted {configuration : Configuration} {channel : C} {now : Ticks}
    (created : Station.create configuration channel now = .ok (.ok station)) :
    station.Accounted [] := by
  obtain ⟨plan, sampler, -, -, same⟩ := Shaper.create_eq (Station.create_eq created)
  constructor
  case balance =>
    rw [same]
    rfl
  case bytes =>
    rw [same]
    rfl
  case order =>
    rw [same]
    exact List.Sublist.refl _

omit [Delivery.Channel C] in
/-- A balanced step carries the accounts on. -/
theorem Accounted.append {past : List (Transition P C)} {transition : Transition P C}
    (accounted : transition.before.Accounted past) (balanced : transition.Balanced) :
    transition.after.Accounted (past ++ [transition]) := by
  constructor
  case balance =>
    have before := accounted.balance
    have step := balanced.tally
    simp only [Shaper.tally] at step
    rw [List.filterMap_append, filterMap_singleton, List.length_append, UInt64.ofNat_add,
      List.map_append, List.sum_append, UInt64.ofNat_add, List.map_singleton, List.sum_singleton]
    grind
  case bytes =>
    rw [List.filterMap_append, filterMap_singleton, totalLength_append, UInt64.ofNat_add,
      ← accounted.bytes, balanced.bytes]
  case order =>
    rw [List.filterMap_append, List.filterMap_append, filterMap_singleton, filterMap_singleton,
      List.append_assoc]
    have step := balanced.order.append_left (past.filterMap Transition.released?)
    have before := accounted.order.append_right transition.accepted?.toList
    rw [List.append_assoc] at before
    exact step.trans before

/-- The accounts are in balance after each step of every run, and a packet that is refused comes
back and changes nothing but the counters. -/
theorem Past.accounted {past : List (Transition P C)} (led : station.Past past) :
    station.Accounted past ∧
      ∀ packet now draw after refusal,
        station.step ⟨.enqueue packet, now, draw⟩ = .ok (after, .enqueued (.error refusal)) →
          refusal.packet = packet ∧ after =
            { station with
              shaper := { station.shaper with statistics := after.shaper.statistics } } := by
  refine ⟨?_, fun packet now draw after refusal step => step_refused step⟩
  induction led with
  | created created => exact create_accounted created
  | stepped led step ih => exact ih.append (step_balanced step)

/-- A run in which packets are let in, refused, given out, dropped for three reasons, and let go
twice, and one more comes too late. -/
def variedRun : List (Event Sketch) :=
  [⟨.enqueue ⟨2900, {}⟩, 0, 0⟩, ⟨.enqueue ⟨1000, {}⟩, 0, 0⟩, ⟨.enqueue ⟨3000, {}⟩, 0, 0⟩,
    ⟨.enqueue ⟨1200, {}⟩, 0, 0⟩, ⟨.enqueue ⟨900, {}⟩, 0, 0⟩, ⟨.reconfigure .steady, 10, 0⟩,
    ⟨.dequeue, 10, 0⟩, ⟨.dropOne, 10, 0⟩, ⟨.enqueue ⟨500, {}⟩, 10, 0⟩, ⟨.reset, 10, 0⟩,
    ⟨.enqueue ⟨700, {}⟩, 20, 0⟩, ⟨.teardown, 20, 0⟩, ⟨.enqueue ⟨800, {}⟩, 30, 0⟩]

/-- The station after that run. -/
def varied : Station Sketch Delivery.Ledger := (fresh.follow variedRun).1

/-- The transitions of that run. -/
def variedPast : List (Transition Sketch Delivery.Ledger) := (fresh.follow variedRun).2

theorem varied_past : varied.Past variedPast := by
  have led := (Past.created fresh_created).follow variedRun (by decide +kernel)
  rwa [List.nil_append] at led

/-- The accounts after a packet has left in each way: of seven that were offered one was given out,
three were dropped, and three were let go. -/
theorem varied_accounted :
    varied.Past variedPast ∧
      (variedPast.filterMap Transition.offered?).length = 7 ∧
      variedPast.filterMap Transition.released? = [⟨1000, {}⟩] ∧
      varied.shaper.statistics.drops = 3 ∧
      (variedPast.map Transition.discarded).sum = 3 ∧
      varied.Accounted variedPast ∧
      ∀ packet now draw after refusal,
        varied.step ⟨.enqueue packet, now, draw⟩ = .ok (after, .enqueued (.error refusal)) →
          refusal.packet = packet ∧ after =
            { varied with
              shaper := { varied.shaper with statistics := after.shaper.statistics } } :=
  ⟨varied_past, by decide +kernel, by decide +kernel, by decide +kernel, by decide +kernel,
    varied_past.accounted⟩

end Station

end TrafficShaper
