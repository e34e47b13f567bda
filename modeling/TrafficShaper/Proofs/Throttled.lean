/-
What a throttled state tells. Its deadline is the tick at which the packet that was refused last is
due. The timer is left alone when that packet gives way to another or is dropped, and then the
deadline need not be that of the head, and there need not be a head.
-/

import TrafficShaper.Proofs.Consistent
import TrafficShaper.Proofs.Timing

namespace TrafficShaper

variable {P C : Type} [Packet P] [Delivery.Channel C]

/-- There is a head, and it is released from the deadline on and not before, at whatever tick it is
asked for. -/
def Shaper.HeadDueAt (shaper : Shaper P) (deadline : Ticks) : Prop :=
  ∃ head, shaper.peek = some head ∧
    ∀ time, shaper.bucket.checkpoint ≤ time →
      ∃ after, shaper.dequeue time = .ok (after, if time < deadline then none else some head)

namespace Shaper

variable {shaper : Shaper P} {now : Ticks}

omit [Packet P] in
theorem state_eq_throttled {deadline : Ticks} :
    shaper.state = .throttled deadline ↔
      shaper.attached = true ∧ shaper.timer.deadline = some deadline := by
  unfold state
  cases shaper.attached <;> cases shaper.timer.deadline <;> simp

theorem takeHead_of_peek {head : P} (first : shaper.peek = some head) :
    ∃ rest, shaper.backlog.takeHead = some (head, rest) := by
  obtain ⟨tail, shape⟩ := List.head?_eq_some_iff.mp first
  exact ⟨_, Backlog.takeHead_of_cons shape⟩

/-- Without a head there is nothing that a deadline could be that of. -/
theorem not_headDueAt (nothing : shaper.peek = none) (deadline : Ticks) :
    ¬ shaper.HeadDueAt deadline := by
  rintro ⟨head, first, -⟩
  rw [nothing] at first
  contradiction

/-- The head is given out from its due tick on. -/
theorem dequeue_of_peek (consistent : shaper.Consistent now) {head : P}
    (first : shaper.peek = some head) {time : Ticks} (order : shaper.bucket.checkpoint ≤ time) :
    ∃ after, shaper.dequeue time =
      .ok (after,
        if shaper.bucket.due (Packet.length head) ≤ time.toInt then some head else none) := by
  obtain ⟨rest, taken⟩ := takeHead_of_peek first
  have sound := consistent.bucket.since order
  have fits := consistent.fits.serviceable head (List.mem_of_head? first)
  have due := Bucket.covers_iff_due_le sound fits
  by_cases covers : shaper.bucket.Covers (Packet.length head) time
  · obtain ⟨bucket, ready, -⟩ := Bucket.release_of_covers sound covers
    rw [if_pos (due.mp covers)]
    simp only [dequeue, taken, ready]
    exact ⟨_, rfl⟩
  · obtain ⟨deadline, waits, -⟩ := Bucket.release_of_not_covers sound covers
    rw [if_neg (due.not.mp covers)]
    simp only [dequeue, taken, waits]
    exact ⟨_, rfl⟩

/-- A deadline is that of the head when the head is due then, and only then. -/
theorem headDueAt_iff (consistent : shaper.Consistent now) {deadline : Ticks}
    (order : shaper.bucket.checkpoint ≤ deadline) :
    shaper.HeadDueAt deadline ↔
      ∃ head, shaper.peek = some head ∧
        shaper.bucket.due (Packet.length head) = deadline.toInt := by
  constructor
  · rintro ⟨head, first, each⟩
    have agrees : ∀ time, shaper.bucket.checkpoint ≤ time →
        shaper.bucket.due (Packet.length head) ≤ time.toInt → ¬ time < deadline := by
      intro time later due early
      obtain ⟨after, answered⟩ := each time later
      obtain ⟨other, dequeued⟩ := dequeue_of_peek consistent first later
      rw [if_pos due] at dequeued
      rw [if_pos early, dequeued] at answered
      simp at answered
    have waits : shaper.bucket.due (Packet.length head) ≤ deadline.toInt := by
      by_contra late
      obtain ⟨after, answered⟩ := each deadline order
      obtain ⟨other, dequeued⟩ := dequeue_of_peek consistent first order
      rw [if_neg late] at dequeued
      have never : ¬ deadline < deadline := Int64.lt_irrefl
      rw [if_neg never, dequeued] at answered
      simp at answered
    refine ⟨head, first, Int.le_antisymm waits ?_⟩
    by_contra early
    -- The due tick itself is a clock reading at which the head leaves before the deadline.
    have since := shaper.bucket.checkpoint_le_due (Packet.length head)
    have lower := shaper.bucket.checkpoint.le_toInt
    have upper := deadline.toInt_lt
    have reading : (Int64.ofInt (shaper.bucket.due (Packet.length head))).toInt =
        shaper.bucket.due (Packet.length head) :=
      Int64.toInt_ofInt_of_le (by omega) (by omega)
    refine agrees (Int64.ofInt (shaper.bucket.due (Packet.length head))) ?_ ?_ ?_
    · rw [Int64.le_iff_toInt_le, reading]
      exact since
    · exact Int.le_of_eq reading.symm
    · rw [Int64.lt_iff_toInt_lt, reading]
      omega
  · rintro ⟨head, first, same⟩
    refine ⟨head, first, ?_⟩
    intro time later
    obtain ⟨after, dequeued⟩ := dequeue_of_peek consistent first later
    refine ⟨after, dequeued.trans ?_⟩
    by_cases early : time < deadline
    · have before : ¬ shaper.bucket.due (Packet.length head) ≤ time.toInt := by
        rw [Int64.lt_iff_toInt_lt] at early
        omega
      rw [if_pos early, if_neg before]
    · have due : shaper.bucket.due (Packet.length head) ≤ time.toInt := by
        rw [Int64.lt_iff_toInt_lt] at early
        omega
      rw [if_neg early, if_pos due]

end Shaper

/-- A packet was refused, and since then the timer was left alone. -/
inductive Station.Withheld (refused : P) : Station P C → Ticks → Prop where
  | refused {station after : Station P C} {last : Ticks} {event : Event P}
      (reached : station.Reached last) (order : last ≤ event.now)
      (asked : event.operation = .dequeue) (first : station.shaper.peek = some refused)
      (step : station.step event = .ok (after, .dequeued none)) :
      Withheld refused after event.now
  | kept {station after : Station P C} {last : Ticks} {event : Event P} {reply : Reply P}
      (withheld : Withheld refused station last) (order : last ≤ event.now)
      (step : station.step event = .ok (after, reply))
      (alone : after.shaper.timer = station.shaper.timer) : Withheld refused after event.now

namespace Station

variable {station : Station P C} {now deadline : Ticks}

/-- A deadline is that of the packet that was refused last. -/
theorem Reached.deadline_eq (reached : station.Reached now)
    (armed : station.shaper.timer.deadline = some deadline) :
    ∃ refused, station.Withheld refused now ∧
      deadline.toInt =
        min (2 ^ 63 - 1) (station.shaper.bucket.due (Packet.length refused)) := by
  induction reached with
  | created nonneg created =>
      obtain ⟨plan, sampler, -, -, same⟩ := Shaper.create_eq (create_eq created)
      rw [same] at armed
      contradiction
  | @stepped station after last event reply reached order step ih =>
      -- Only a refusal sets the timer. Every other step clears it, or leaves it and the buckets
      -- alone, so that the due tick is the same before and after.
      cases step_timing step with
      | untouched _ _ bucket timer =>
          dsimp only at bucket timer
          rw [timer] at armed
          obtain ⟨refused, withheld, value⟩ := ih armed
          rw [← bucket] at value
          exact ⟨refused, .kept withheld order step timer, value⟩
      | idle _ _ _ timer | released _ _ _ _ timer | refilled _ _ _ timer =>
          rw [timer] at armed
          contradiction
      | @refused head time _ _ asked answer first waits bucket timer =>
          dsimp only at answer first waits bucket timer
          subst answer
          obtain rfl : time = deadline := Option.some.inj (timer.symm.trans armed)
          have consistent :=
            (Shaper.consistent_invariant.reached Shaper.create_consistent reached).later order
          have fits := consistent.fits.serviceable head (List.mem_of_head? first)
          rw [bucket]
          exact ⟨head, .refused reached order asked first step,
            Bucket.release_waitUntil consistent.bucket fits waits⟩

/-- The deadline of a throttled shaper is the tick at which the packet that was refused last is
due, as far as that tick fits in the word. It is that of the head when the head is due then, and
only then; so it is as long as the refused packet is the head. -/
theorem Reached.throttled (reached : station.Reached now)
    (throttled : station.shaper.state = .throttled deadline) :
    ∃ refused, station.Withheld refused now ∧
      deadline.toInt =
        min (2 ^ 63 - 1) (station.shaper.bucket.due (Packet.length refused)) ∧
      (station.shaper.HeadDueAt deadline ↔
        ∃ head, station.shaper.peek = some head ∧
          station.shaper.bucket.due (Packet.length head) = deadline.toInt) ∧
      (station.shaper.peek = some refused →
        station.shaper.bucket.due (Packet.length refused) < 2 ^ 63 →
          station.shaper.HeadDueAt deadline) := by
  obtain ⟨-, armed⟩ := Shaper.state_eq_throttled.mp throttled
  obtain ⟨refused, withheld, value⟩ := reached.deadline_eq armed
  have since := station.shaper.bucket.checkpoint_le_due (Packet.length refused)
  have bound := station.shaper.bucket.checkpoint.toInt_lt
  have order : station.shaper.bucket.checkpoint ≤ deadline := by
    rw [Int64.le_iff_toInt_le]
    omega
  have exact : station.shaper.bucket.due (Packet.length refused) < 2 ^ 63 →
      station.shaper.bucket.due (Packet.length refused) = deadline.toInt := by
    intro fits
    omega
  have consistent := Shaper.consistent_invariant.reached Shaper.create_consistent reached
  have decides := Shaper.headDueAt_iff consistent order
  refine ⟨refused, withheld, value, decides, ?_⟩
  intro first fits
  exact decides.mpr ⟨refused, first, exact fits⟩

/-- A fresh station without a peak rate. -/
def steady : Station Sketch Delivery.Ledger where
  shaper :=
    { configuration := .steady
      bucket := .full .steady 0
      sampler := { settings := {}, shift := 11, topLevel := 63, countdown := 153600 }
      backlog := .empty .bytes 202000 }
  channel := {}

/-- One packet leaves, and the next has to wait. -/
def stalledRun : List (Event Sketch) :=
  [⟨.enqueue ⟨1500, {}⟩, 0, 0⟩, ⟨.enqueue ⟨1500, {}⟩, 0, 0⟩, ⟨.dequeue, 0, 0⟩, ⟨.dequeue, 0, 0⟩]

/-- The packet that waits is dropped from the tail. -/
def emptiedRun : List (Event Sketch) := stalledRun ++ [⟨.dropOne, 0, 0⟩]

/-- The station whose head waits. -/
def stalled : Station Sketch Delivery.Ledger := (steady.follow stalledRun).1

/-- The station after that packet was dropped. -/
def emptied : Station Sketch Delivery.Ledger := (steady.follow emptiedRun).1

theorem steady_created : create .steady ({} : Delivery.Ledger) 0 = .ok (.ok steady) := by
  decide +kernel

theorem steady_reached : steady.Reached 0 := .created (by decide) steady_created

theorem stalled_reached : stalled.Reached 0 :=
  steady_reached.follow stalledRun (by decide) (by decide +kernel)

/-- The deadline of a head that waits. -/
theorem stalled_throttled :
    stalled.Reached 0 ∧ stalled.shaper.state = .throttled 1008000 ∧
      ∃ refused, stalled.Withheld refused 0 ∧
        (1008000 : Ticks).toInt =
          min (2 ^ 63 - 1) (stalled.shaper.bucket.due (Packet.length refused)) ∧
        (stalled.shaper.HeadDueAt 1008000 ↔
          ∃ head, stalled.shaper.peek = some head ∧
            stalled.shaper.bucket.due (Packet.length head) = (1008000 : Ticks).toInt) ∧
        (stalled.shaper.peek = some refused →
          stalled.shaper.bucket.due (Packet.length refused) < 2 ^ 63 →
            stalled.shaper.HeadDueAt 1008000) := by
  have throttled : stalled.shaper.state = .throttled 1008000 := by decide +kernel
  exact ⟨stalled_reached, throttled, stalled_reached.throttled throttled⟩

/-- When the packet that waited was dropped, the deadline stays, and there is no head. -/
theorem emptied_throttled :
    emptied.Reached 0 ∧ emptied.shaper.state = .throttled 1008000 ∧
      ¬ emptied.shaper.HeadDueAt 1008000 := by
  have reached : emptied.Reached 0 :=
    steady_reached.follow emptiedRun (by decide) (by decide +kernel)
  have nothing : emptied.shaper.peek = none := by decide +kernel
  exact ⟨reached, by decide +kernel, Shaper.not_headDueAt nothing 1008000⟩

/-- One packet leaves, the next has to wait, and a shorter one takes its place at the head. -/
def overtakenRun : List (Event Sketch) :=
  [⟨.reconfigure { Configuration.steady with limit := some 1, discipline := .headDrop }, 0, 0⟩,
    ⟨.enqueue ⟨1500, {}⟩, 0, 0⟩, ⟨.dequeue, 0, 0⟩, ⟨.enqueue ⟨1500, {}⟩, 0, 0⟩,
    ⟨.dequeue, 0, 0⟩, ⟨.enqueue ⟨400, {}⟩, 0, 0⟩]

/-- The shorter packet is given out long before the deadline. -/
example :
    (fresh.follow overtakenRun).1.shaper.state = .throttled 1008000 ∧
      ((fresh.follow overtakenRun).1.shaper.dequeue 0).map Prod.snd =
        .ok (some ⟨400, {}⟩) := by
  decide +kernel

end Station

end TrafficShaper
