/-
Only differences of clock readings matter. Two shapers that do the same at readings that always
differ by one amount answer alike and stay alike, but for the checkpoint of the buckets and the
deadline of the timer, which differ by that amount.
-/

import TrafficShaper.Proofs.Consistent
import TrafficShaper.Proofs.Latch
import TrafficShaper.Proofs.Likeness

namespace TrafficShaper

/-- The one tick is that of a clock that is ahead by a number of ticks. -/
def Ahead (c : Int) (time later : Ticks) : Prop := later.toInt = time.toInt + c

namespace Bucket

variable {bucket other : Bucket} {now otherNow : Ticks} {c : Int}

/-- The time since the checkpoint is a difference of two readings. -/
theorem Alike.elapsed_eq (alike : bucket.Alike (Ahead c) other) (ahead : Ahead c now otherNow) :
    other.elapsed otherNow = bucket.elapsed now := by
  have checkpoint : other.checkpoint.toInt = bucket.checkpoint.toInt + c := alike.checkpoint
  have same : otherNow - other.checkpoint = now - bucket.checkpoint := by
    rw [← Int64.toInt_inj, Int64.toInt_sub, Int64.toInt_sub, checkpoint, ahead]
    congr 1
    omega
  rw [elapsed, elapsed, same, alike.plan]

/-- The tick until which a packet has to wait fits in the word, and so does that of a clock that is
ahead. -/
structure InTime (bucket : Bucket) (length : UInt32) (now : Ticks) (shift : Int) : Prop where
  retry : now.toInt + bucket.deficit length now < 2 ^ 63
  shiftedRetry : now.toInt + bucket.deficit length now + shift < 2 ^ 63

/-- A release is answered alike by both clocks. -/
theorem Alike.release (alike : bucket.Alike (Ahead c) other) (ahead : Ahead c now otherNow)
    (sound : bucket.Sound now) (otherNonneg : 0 ≤ otherNow.toInt) {length : UInt32}
    (inTime : ¬ bucket.Covers length now → bucket.InTime length now c) :
    bucket.ReleasesAlike (Ahead c) other length now otherNow := by
  obtain ⟨elapsed, counted, value⟩ := elapsed_toInt sound
  have tokens := tokensAfter_toInt sound value length
  have peakTokens := peakTokensAfter_toInt sound value length
  have wait := wait_toInt sound value length
  have sameTokens : other.tokensAfter elapsed length = bucket.tokensAfter elapsed length := by
    rw [tokensAfter, tokensAfter, alike.plan, alike.tokens]
  have samePeakTokens :
      other.peakTokensAfter elapsed length = bucket.peakTokensAfter elapsed length := by
    rw [peakTokensAfter, peakTokensAfter, alike.plan, alike.peakTokens]
  unfold ReleasesAlike Bucket.release
  rw [alike.elapsed_eq ahead, counted]
  dsimp only
  rw [sameTokens, samePeakTokens]
  split
  · exact .value ⟨⟨alike.plan, rfl, rfl, ahead⟩, .ready⟩
  · rename_i unpaid
    have lacks : ¬ bucket.Covers length now := by
      rintro ⟨committed, peak⟩
      rw [Int64.le_iff_toInt_le, Int64.le_iff_toInt_le, tokens, peakTokens, Int64.toInt_zero]
        at unpaid
      omega
    obtain ⟨retry, shiftedRetry⟩ := inTime lacks
    rw [covers_iff] at lacks
    have nonneg := sound.nonneg
    refine .value ⟨alike, .waitUntil ?_⟩
    unfold Ahead at ahead ⊢
    rw [saturatingAdd_toInt, saturatingAdd_toInt]
    omega

end Bucket

namespace Shaper

variable {P C : Type}

/-- Two shapers are alike, but for two ticks that differ by a constant. -/
structure Shifted (c : Int) (shaper other : Shaper P) : Prop where
  configuration : other.configuration = shaper.configuration
  plan : other.bucket.plan = shaper.bucket.plan
  tokens : other.bucket.tokens = shaper.bucket.tokens
  peakTokens : other.bucket.peakTokens = shaper.bucket.peakTokens
  checkpoint : other.bucket.checkpoint.toInt = shaper.bucket.checkpoint.toInt + c
  sampler : other.sampler = shaper.sampler
  backlog : other.backlog = shaper.backlog
  deadline : Option.Rel (fun time later => later.toInt = time.toInt + c)
    shaper.timer.deadline other.timer.deadline
  armed : other.timer.armed = shaper.timer.armed
  statistics : other.statistics = shaper.statistics
  attached : other.attached = shaper.attached

theorem shifted_iff_alike {c : Int} {shaper other : Shaper P} :
    shaper.Shifted c other ↔ shaper.Alike (Ahead c) True other := by
  constructor
  · intro shifted
    exact
      { shifted with
        bucket := ⟨shifted.plan, shifted.tokens, shifted.peakTokens, shifted.checkpoint⟩
        armed := fun _ => shifted.armed
        statistics := fun _ => shifted.statistics }
  · intro alike
    exact
      { alike with
        plan := alike.bucket.plan
        tokens := alike.bucket.tokens
        peakTokens := alike.bucket.peakTokens
        checkpoint := alike.bucket.checkpoint
        armed := alike.armed trivial
        statistics := alike.statistics trivial }

end Shaper

variable {P C : Type}

/-- Two events are the same operation, at readings that differ by a constant. -/
structure Event.Shifted (c : Int) (event other : Event P) : Prop where
  operation : other.operation = event.operation
  draw : other.draw = event.draw
  now : other.now.toInt = event.now.toInt + c

/-- Two stations are alike, but for ticks that differ by a constant. -/
structure Station.Shifted (c : Int) (station other : Station P C) : Prop where
  shaper : station.shaper.Shifted c other.shaper
  channel : other.channel = station.channel

/-- Two transitions are alike and are answered alike, at readings that differ by a constant. -/
structure Transition.Shifted (c : Int) (transition other : Transition P C) : Prop where
  before : transition.before.Shifted c other.before
  event : transition.event.Shifted c other.event
  reply : other.reply = transition.reply
  after : transition.after.Shifted c other.after

/-- The tick until which the head has to wait, where it is asked for in vain. -/
def Transition.waitUntil? [Packet P] (transition : Transition P C) : Option Int :=
  match transition.event.operation, transition.reply, transition.before.shaper.peek with
  | .dequeue, .dequeued none, some head =>
      some (transition.event.now.toInt +
        transition.before.shaper.bucket.deficit (Packet.length head) transition.event.now)
  | _, _, _ => none

namespace Station

theorem shifted_iff_alike {c : Int} {station other : Station P C} :
    station.Shifted c other ↔ station.Alike (Ahead c) True other := by
  constructor
  · rintro ⟨shaper, channel⟩
    exact ⟨Shaper.shifted_iff_alike.mp shaper, channel⟩
  · rintro ⟨shaper, channel⟩
    exact ⟨Shaper.shifted_iff_alike.mpr shaper, channel⟩

variable [Packet P] [Delivery.Channel C] {station after : Station P C}

/-- What a station does by some events: its transitions, and the fault that ends them, if any. -/
def trail (station : Station P C) : List (Event P) → List (Transition P C) × Option Fault
  | [] => ([], none)
  | event :: rest =>
      match station.step event with
      | .error fault => ([], some fault)
      | .ok (after, reply) =>
          let (transitions, fault) := after.trail rest
          (⟨station, event, reply, after⟩ :: transitions, fault)

/-- If the head is asked for in vain, the tick until which it has to wait fits in the word. -/
def InTime (station : Station P C) (event : Event P) (shift : Int) : Prop :=
  event.operation = .dequeue → ∀ head, station.shaper.peek = some head →
    ¬ station.shaper.bucket.Covers (Packet.length head) event.now →
      station.shaper.bucket.InTime (Packet.length head) event.now shift

/-- A head that the buckets cannot pay for is asked for in vain. -/
theorem waitUntil_of_lacks {now : Ticks} {draw : UInt64} {head : P}
    (sound : station.shaper.bucket.Sound now) (first : station.shaper.peek = some head)
    (lacks : ¬ station.shaper.bucket.Covers (Packet.length head) now) :
    ∃ after reply, station.step ⟨.dequeue, now, draw⟩ = .ok (after, reply) ∧
      (⟨station, ⟨.dequeue, now, draw⟩, reply, after⟩ : Transition P C).waitUntil? =
        some (now.toInt + station.shaper.bucket.deficit (Packet.length head) now) := by
  obtain ⟨time, refused, -⟩ := Bucket.release_of_not_covers sound lacks
  cases taken : station.shaper.backlog.takeHead with
  | none =>
      rw [Shaper.peek, Backlog.head?, Backlog.takeHead_eq_none.mp taken] at first
      contradiction
  | some pair =>
      obtain ⟨other, rest⟩ := pair
      obtain rfl := Option.some.inj ((Shaper.peek_of_takeHead taken).symm.trans first)
      obtain ⟨kept, dequeued⟩ :
          ∃ kept, station.shaper.dequeue now = .ok (kept, none) := by
        rw [Shaper.dequeue, taken]
        dsimp only
        rw [refused]
        exact ⟨_, rfl⟩
      refine ⟨{ station with shaper := kept }, .dequeued none, ?_, ?_⟩
      · simp only [step, dequeued]
        rfl
      · simp only [Transition.waitUntil?, first]

theorem inTime_of_waits {event : Event P} {shift : Int}
    (sound : station.shaper.bucket.Sound event.now)
    (retries : ∀ after reply, station.step event = .ok (after, reply) →
      ∀ retry ∈ (⟨station, event, reply, after⟩ : Transition P C).waitUntil?,
        retry < 2 ^ 63 ∧ retry + shift < 2 ^ 63) : station.InTime event shift := by
  obtain ⟨operation, now, draw⟩ := event
  rintro rfl head first lacks
  obtain ⟨after, reply, stepped, retry⟩ := waitUntil_of_lacks sound first lacks
  obtain ⟨fits, shiftedFits⟩ := retries after reply stepped _ retry
  exact ⟨fits, shiftedFits⟩

theorem trail_of_fault {event : Event P} {fault : Fault}
    (step : station.step event = .error fault) (rest : List (Event P)) :
    station.trail (event :: rest) = ([], some fault) := by
  simp only [trail, step]

theorem trail_of_step {event : Event P} {reply : Reply P}
    (step : station.step event = .ok (after, reply)) (rest : List (Event P)) :
    station.trail (event :: rest) =
      (⟨station, event, reply, after⟩ :: (after.trail rest).1, (after.trail rest).2) := by
  simp only [trail, step]

/-- A run is the same by both clocks, step by step and to the fault that ends it. -/
theorem trail_shifted {other : Station P C} {now : Ticks} {c : Int} {events others : List (Event P)}
    (reached : station.Reached now) (shifted : station.Shifted c other)
    (ordered : (now :: events.map Event.now).IsChain (· ≤ ·))
    (nonneg : ∀ event ∈ events, 0 ≤ event.now.toInt + c)
    (paired : List.Forall₂ (Event.Shifted c) events others)
    (retries : ∀ transition ∈ (station.trail events).1, ∀ retry ∈ transition.waitUntil?,
      retry < 2 ^ 63 ∧ retry + c < 2 ^ 63) :
    List.Forall₂ (Transition.Shifted c) (station.trail events).1 (other.trail others).1 ∧
      (other.trail others).2 = (station.trail events).2 := by
  induction paired generalizing station other now with
  | nil => exact ⟨.nil, rfl⟩
  | @cons event otherEvent rest otherRest events _ ih =>
      rw [List.map_cons, List.isChain_cons_cons] at ordered
      rw [List.forall_mem_cons] at nonneg
      have sound := reached.consistent.1.bucket.later ordered.1
      have inTime : station.InTime event c := inTime_of_waits sound (by
        intro after reply answered
        refine retries ⟨station, event, reply, after⟩ ?_
        rw [trail_of_step answered]
        exact List.mem_cons_self)
      obtain ⟨operation, now, draw⟩ := event
      obtain ⟨otherOperation, otherNow, otherDraw⟩ := otherEvent
      obtain ⟨sameOperation, sameDraw, ahead⟩ := events
      dsimp only at sameOperation sameDraw ahead
      subst sameOperation sameDraw
      have alike := shifted_iff_alike.mp shifted
      have answered := alike.step otherDraw ahead fun asked head first =>
        alike.shaper.bucket.release ahead sound (ahead ▸ nonneg.1) (inTime asked head first)
      generalize stepped : station.step _ = result at answered
      generalize otherStepped : other.step _ = otherResult at answered
      cases answered with
      | fault fault =>
          rw [trail_of_fault stepped, trail_of_fault otherStepped]
          exact ⟨.nil, rfl⟩
      | @value result otherResult agree =>
          obtain ⟨after, reply⟩ := result
          obtain ⟨otherAfter, otherReply⟩ := otherResult
          obtain ⟨kept, same⟩ := agree
          rw [trail_of_step stepped] at retries ⊢
          rw [trail_of_step otherStepped]
          rw [List.forall_mem_cons] at retries
          have further := shifted_iff_alike.mpr kept
          obtain ⟨transitions, faults⟩ :=
            ih (.stepped reached ordered.1 stepped) further ordered.2 nonneg.2 retries.2
          exact ⟨.cons ⟨shifted, ⟨rfl, rfl, ahead⟩, same, further⟩ transitions, faults⟩

omit [Packet P] [Delivery.Channel C] in
/-- A fresh station of a clock that is ahead. -/
theorem create_shifted {configuration : Configuration} {channel : C} {now otherNow : Ticks}
    {c : Int} (created : Station.create configuration channel now = .ok (.ok station))
    (ahead : Ahead c now otherNow) :
    ∃ other, Station.create configuration channel otherNow = .ok (.ok other) ∧
      station.Shifted c other := by
  obtain ⟨shaper, carried⟩ := station
  obtain rfl : carried = channel := create_channel created
  obtain ⟨plan, sampler, accepted, made, rfl⟩ := Shaper.create_eq (create_eq created)
  let fresh : Shaper P :=
    { configuration, sampler
      bucket := .full plan otherNow
      backlog := .empty plan.discipline plan.limit }
  refine ⟨⟨fresh, carried⟩, ?_, ?_⟩
  · simp only [create, Shaper.create, accepted, made, fresh]
  · exact ⟨⟨rfl, rfl, rfl, rfl, ahead, rfl, rfl, .none, rfl, rfl, rfl⟩, rfl⟩

/-- Only differences of readings matter. Two fresh stations that do the same at readings that
differ by a constant give the same answers, end with the same fault or with none, and are alike
before and after each step, as long as no reading and no tick to wait for leaves its range. -/
theorem trail_alike {configuration : Configuration} {channel : C} {start otherStart : Ticks}
    {c : Int} {events others : List (Event P)}
    (created : Station.create configuration channel start = .ok (.ok station))
    (nonneg : 0 ≤ start) (otherNonneg : 0 ≤ otherStart)
    (ahead : otherStart.toInt = start.toInt + c)
    (ordered : (start :: events.map Event.now).IsChain (· ≤ ·))
    (paired : List.Forall₂ (Event.Shifted c) events others)
    (retries : ∀ transition ∈ (station.trail events).1, ∀ retry ∈ transition.waitUntil?,
      retry < 2 ^ 63 ∧ retry + c < 2 ^ 63) :
    ∃ other, Station.create configuration channel otherStart = .ok (.ok other) ∧
      station.Shifted c other ∧
      List.Forall₂ (Transition.Shifted c) (station.trail events).1 (other.trail others).1 ∧
      (other.trail others).2 = (station.trail events).2 := by
  have reached := Reached.created nonneg created
  obtain ⟨other, otherCreated, shifted⟩ := create_shifted created ahead
  rw [Int64.le_iff_toInt_le, Int64.toInt_zero] at nonneg otherNonneg
  have later := List.isChain_iff_pairwise.mp ordered
  rw [List.pairwise_cons] at later
  have nonnegs : ∀ event ∈ events, 0 ≤ event.now.toInt + c := by
    intro event member
    have order := Int64.le_iff_toInt_le.mp (later.1 event.now (List.mem_map_of_mem member))
    omega
  exact ⟨other, otherCreated, shifted,
    trail_shifted reached shifted ordered nonnegs paired retries⟩

/-- Three packets, of which the second has to wait, then a reset and a change of the
configuration. -/
def timedRun : List (Event Sketch) :=
  [⟨.enqueue ⟨1500, addressed⟩, 20, 0⟩, ⟨.enqueue ⟨600, addressed⟩, 20, 0⟩, ⟨.dequeue, 30, 0⟩,
    ⟨.dequeue, 30, 0⟩, ⟨.reset, 40, 0⟩, ⟨.enqueue ⟨500, addressed⟩, 40, 0⟩,
    ⟨.reconfigure .steady, 50, 0⟩, ⟨.dequeue, 60, 0⟩, ⟨.teardown, 70, 0⟩]

/-- A fresh station with a log of its dispatches. -/
def timed : Station Sketch (Delivery.Logged Delivery.Ledger) where
  shaper :=
    { configuration := eagerConfiguration
      bucket := .full .steady 5
      sampler := { settings := eager, shift := 2, topLevel := 63, countdown := 100 }
      backlog := .empty .bytes 202000 }
  channel := { channel := {} }

theorem timed_created :
    Station.create eagerConfiguration timed.channel 5 = .ok (.ok timed) := by
  have made : Shaper.create eagerConfiguration 5 = .ok (.ok timed.shaper) := by
    decide +kernel
  rw [create, made]

/-- The run again on a clock that is half of its range ahead. -/
theorem timed_alike :
    ((timed.trail timedRun).1.filterMap Transition.waitUntil? = [104030] ∧
      (timed.trail timedRun).1.length = 9) ∧
    ∃ other, Station.create eagerConfiguration timed.channel 4611686018427387909 =
        .ok (.ok other) ∧
      timed.Shifted (2 ^ 62) other ∧
      List.Forall₂ (Transition.Shifted (2 ^ 62)) (timed.trail timedRun).1
        (other.trail (timedRun.map fun event =>
          { event with now := event.now + 4611686018427387904 })).1 ∧
      (other.trail (timedRun.map fun event =>
        { event with now := event.now + 4611686018427387904 })).2 =
          (timed.trail timedRun).2 := by
  refine ⟨by decide +kernel, ?_⟩
  refine trail_alike timed_created (by decide) (by decide) (by decide) (by decide) ?_
    (by decide +kernel)
  rw [List.forall₂_map_right_iff, List.forall₂_same]
  intro event member
  simp only [timedRun, List.mem_cons, List.not_mem_nil, or_false] at member
  rcases member with rfl | rfl | rfl | rfl | rfl | rfl | rfl | rfl | rfl <;>
    exact ⟨rfl, rfl, by decide⟩

end Station

end TrafficShaper
