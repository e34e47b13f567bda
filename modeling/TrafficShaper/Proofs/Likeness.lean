/-
Shapers that are alike. Two of them may tell the time by different clocks, and may differ in what
they have counted. Whatever both are asked, they answer alike and are still alike; only of a packet
that asks to leave it must be known that both buckets answer it alike.
-/

import TrafficShaper.Proofs.Timing

namespace TrafficShaper

/-- Two results match if they are the same fault, or values that are related. -/
inductive Matches {A B : Type} (related : A → B → Prop) :
    Except Fault A → Except Fault B → Prop where
  | fault (fault : Fault) : Matches related (.error fault) (.error fault)
  | value {value : A} {other : B} (agree : related value other) :
      Matches related (.ok value) (.ok other)

/-- Parts that match, and what follows them. -/
theorem Matches.bind {A B A' B' : Type} {related : A → B → Prop} {further : A' → B' → Prop}
    {first : Except Fault A} {second : Except Fault B} {rest : A → Except Fault A'}
    {otherRest : B → Except Fault B'} (parts : Matches related first second)
    (follow : ∀ value other, related value other → Matches further (rest value) (otherRest other)) :
    Matches further (first >>= rest) (second >>= otherRest) := by
  cases parts with
  | fault fault => exact .fault fault
  | value agree => exact follow _ _ agree

theorem Matches.refl {A : Type} {related : A → A → Prop} (reflexive : ∀ value, related value value)
    (result : Except Fault A) : Matches related result result := by
  cases result with
  | error fault => exact .fault fault
  | ok value => exact .value (reflexive value)

variable {P C : Type} {tick : Ticks → Ticks → Prop} {counted : Prop}

/-- Both let a packet leave, or both make it wait until related ticks. -/
inductive Release.Alike (tick : Ticks → Ticks → Prop) : Release → Release → Prop where
  | ready : Alike tick .ready .ready
  | waitUntil {time other : Ticks} (ticks : tick time other) :
      Alike tick (.waitUntil time) (.waitUntil other)

namespace Bucket

/-- Two buckets hold the same, and were filled at related ticks. -/
structure Alike (tick : Ticks → Ticks → Prop) (bucket other : Bucket) : Prop where
  plan : other.plan = bucket.plan
  tokens : other.tokens = bucket.tokens
  peakTokens : other.peakTokens = bucket.peakTokens
  checkpoint : tick bucket.checkpoint other.checkpoint

theorem full_alike (plan : Plan) {now otherNow : Ticks} (readings : tick now otherNow) :
    (full plan now).Alike tick (full plan otherNow) :=
  ⟨rfl, rfl, rfl, readings⟩

/-- Two buckets are asked at two readings for a packet of this length, and answer alike. -/
def ReleasesAlike (tick : Ticks → Ticks → Prop) (bucket other : Bucket) (length : UInt32)
    (now otherNow : Ticks) : Prop :=
  Matches
    (fun answer otherAnswer =>
      answer.1.Alike tick otherAnswer.1 ∧ answer.2.Alike tick otherAnswer.2)
    (bucket.release length now) (other.release length otherNow)

/-- On one clock only the same buckets are alike. -/
theorem Alike.eq {bucket other : Bucket} (alike : bucket.Alike (· = ·) other) : other = bucket := by
  obtain ⟨plan, tokens, peakTokens, checkpoint⟩ := other
  obtain ⟨rfl, rfl, rfl, rfl⟩ := alike
  rfl

theorem releasesAlike_refl (bucket : Bucket) (length : UInt32) (now : Ticks) :
    bucket.ReleasesAlike (· = ·) bucket length now now := by
  refine .refl ?_ _
  rintro ⟨after, _ | time⟩
  · exact ⟨⟨rfl, rfl, rfl, rfl⟩, .ready⟩
  · exact ⟨⟨rfl, rfl, rfl, rfl⟩, .waitUntil rfl⟩

end Bucket

namespace Shaper

/-- Two shapers are alike, but for ticks that are related, and for the counters if these do not
count. -/
structure Alike (tick : Ticks → Ticks → Prop) (counted : Prop) (shaper other : Shaper P) :
    Prop where
  configuration : other.configuration = shaper.configuration
  bucket : shaper.bucket.Alike tick other.bucket
  sampler : other.sampler = shaper.sampler
  backlog : other.backlog = shaper.backlog
  deadline : Option.Rel tick shaper.timer.deadline other.timer.deadline
  armed : counted → other.timer.armed = shaper.timer.armed
  statistics : counted → other.statistics = shaper.statistics
  attached : other.attached = shaper.attached

/-- An answer is the same, and the shapers after it are alike. -/
structure AnswersAlike (tick : Ticks → Ticks → Prop) (counted : Prop) {A : Type}
    (result other : Shaper P × A) : Prop where
  shaper : result.1.Alike tick counted other.1
  answer : other.2 = result.2

namespace Alike

variable {shaper other : Shaper P} {now otherNow : Ticks}

/-- The counters have no part in a delivery. -/
theorem settle (alike : shaper.Alike tick counted other) (outcome : Delivery.Outcome) :
    (shaper.settle outcome).Alike tick counted (other.settle outcome) := by
  cases outcome with
  | ok _ =>
      exact { alike with
        sampler := congrArg Congestion.Sampler.delivered alike.sampler
        statistics := fun counts => congrArg Statistics.countSent (alike.statistics counts) }
  | error _ =>
      exact { alike with
        statistics := fun counts => congrArg Statistics.countFailed (alike.statistics counts) }

theorem reset (alike : shaper.Alike tick counted other) (readings : tick now otherNow) :
    Matches (Alike tick counted) (shaper.reset now) (other.reset otherNow) := by
  simp only [Shaper.reset, alike.sampler, alike.backlog]
  cases shaper.sampler.reset with
  | error fault => exact .fault fault
  | ok sampler =>
      refine .value { alike with
        bucket := ?_, sampler := rfl, backlog := rfl, deadline := .none }
      rw [Bucket.reset, Bucket.reset, alike.bucket.plan]
      exact Bucket.full_alike _ readings

theorem teardown (alike : shaper.Alike tick counted other) :
    Matches (AnswersAlike tick counted) shaper.teardown other.teardown := by
  simp only [Shaper.teardown, alike.attached, alike.sampler, alike.backlog]
  split
  · cases shaper.sampler.reset with
    | error fault => exact .fault fault
    | ok sampler =>
        refine .value ⟨?_, rfl⟩
        exact { alike with sampler := rfl, backlog := rfl, deadline := .none, attached := rfl }
  · exact .value ⟨alike, rfl⟩

variable [Packet P]

theorem accept (alike : shaper.Alike tick counted other) (packet : P) (draw : UInt64) :
    Matches (AnswersAlike tick counted) (shaper.accept packet draw) (other.accept packet draw) := by
  obtain ⟨_, bucket, _, _, timer, statistics, _⟩ := shaper
  obtain ⟨configuration, otherBucket, sampler, backlog, otherTimer, counters, attached⟩ := other
  obtain ⟨rfl, buckets, rfl, rfl, deadline, armed, counts, rfl⟩ := alike
  dsimp only at buckets
  have admits : otherBucket.admits (Packet.length packet) =
      bucket.admits (Packet.length packet) := by
    rw [Bucket.admits, Bucket.admits, buckets.plan]
  simp only [Shaper.accept, Shaper.observe, admits, buckets.plan]
  split
  · exact .value ⟨⟨rfl, buckets, rfl, rfl, deadline, armed, counts, rfl⟩, rfl⟩
  split
  · have counts (both : counted) := congrArg Statistics.countOversized (counts both)
    exact .value ⟨⟨rfl, buckets, rfl, rfl, deadline, armed, counts, rfl⟩, rfl⟩
  have dropped (both : counted) := congrArg Statistics.countDrop (counts both)
  rcases backlog.offer packet with ⟨rest, _ | head | refused⟩
  · dsimp only
    cases sampler.observe (Packet.length packet) draw with
    | error fault => exact .fault fault
    | ok sampler => exact .value ⟨⟨rfl, buckets, rfl, rfl, deadline, armed, counts, rfl⟩, rfl⟩
  · dsimp only
    cases (sampler.remove (Packet.length head)).observe (Packet.length packet) draw with
    | error fault => exact .fault fault
    | ok sampler => exact .value ⟨⟨rfl, buckets, rfl, rfl, deadline, armed, dropped, rfl⟩, rfl⟩
  · exact .value ⟨⟨rfl, buckets, rfl, rfl, deadline, armed, dropped, rfl⟩, rfl⟩

/-- Only the outcome of a delivery comes after a packet is accepted. -/
theorem enqueue [Delivery.Channel C] (alike : shaper.Alike tick counted other) (channel : C)
    (packet : P) (draw : UInt64) :
    Matches (AnswersAlike tick counted) (shaper.enqueue channel packet draw)
      (other.enqueue channel packet draw) := by
  unfold Shaper.enqueue
  have accepted := alike.accept packet draw
  generalize shaper.accept packet draw = result at accepted ⊢
  generalize other.accept packet draw = otherResult at accepted ⊢
  cases accepted with
  | fault fault => exact .fault fault
  | @value result otherResult agree =>
      obtain ⟨kept, answer⟩ := result
      obtain ⟨otherKept, otherAnswer⟩ := otherResult
      obtain ⟨alike, same⟩ := agree
      obtain rfl : answer = otherAnswer := same.symm
      rcases answer with refusal | _ | dispatch
      · exact .value ⟨alike, rfl⟩
      · exact .value ⟨alike, rfl⟩
      · exact .value ⟨alike.settle _, rfl⟩

/-- The head leaves both shapers, or has to wait in both. -/
theorem dequeue (alike : shaper.Alike tick counted other)
    (releases : ∀ head, shaper.peek = some head →
      shaper.bucket.ReleasesAlike tick other.bucket (Packet.length head) now otherNow) :
    Matches (AnswersAlike tick counted) (shaper.dequeue now) (other.dequeue otherNow) := by
  unfold Shaper.dequeue
  rw [alike.backlog]
  cases taken : shaper.backlog.takeHead with
  | none => exact .value ⟨{ alike with backlog := rfl, deadline := .none }, rfl⟩
  | some pair =>
      obtain ⟨head, rest⟩ := pair
      have answers := releases head (peek_of_takeHead taken)
      unfold Bucket.ReleasesAlike at answers
      dsimp only
      generalize shaper.bucket.release (Packet.length head) now = answer at answers ⊢
      generalize other.bucket.release (Packet.length head) otherNow = otherAnswer at answers ⊢
      cases answers with
      | fault fault => exact .fault fault
      | @value answer otherAnswer agree =>
          obtain ⟨released, told⟩ := answer
          obtain ⟨otherReleased, otherTold⟩ := otherAnswer
          obtain ⟨buckets, told⟩ := agree
          cases told with
          | ready =>
              refine .value ⟨?_, rfl⟩
              exact { alike with
                bucket := buckets
                sampler := congrArg (·.remove (Packet.length head)) alike.sampler
                backlog := rfl
                deadline := .none
                statistics := fun counts =>
                  congrArg (·.countReleased (Packet.length head)) (alike.statistics counts) }
          | waitUntil ticks =>
              refine .value ⟨?_, rfl⟩
              exact { alike with
                backlog := rfl
                deadline := .some ticks
                armed := fun counts => congrArg (· + 1) (alike.armed counts)
                statistics := fun counts =>
                  congrArg Statistics.countOverlimit (alike.statistics counts) }

theorem dropOne (alike : shaper.Alike tick counted other) :
    AnswersAlike tick counted shaper.dropOne other.dropOne := by
  unfold Shaper.dropOne
  rw [alike.backlog]
  cases shaper.backlog.dropTail with
  | none => exact ⟨alike, rfl⟩
  | some pair =>
      obtain ⟨tail, rest⟩ := pair
      refine ⟨?_, rfl⟩
      exact { alike with
        sampler := congrArg (·.remove (Packet.length tail)) alike.sampler
        backlog := rfl
        statistics := fun counts => congrArg Statistics.countDrop (alike.statistics counts) }

theorem forget (alike : shaper.Alike tick counted other) (packet : P) :
    (shaper.forget packet).Alike tick counted (other.forget packet) :=
  { alike with
    sampler := congrArg (·.remove (Packet.length packet)) alike.sampler
    statistics := fun counts => congrArg Statistics.countOversized (alike.statistics counts) }

theorem relimited (alike : shaper.Alike tick counted other) (plan : Plan) :
    (shaper.relimited plan).Alike tick counted (other.relimited plan) := by
  have kept : (shaper.dropOversized plan.largest).Alike tick counted
      (other.dropOversized plan.largest) := by
    rw [dropOversized_eq, dropOversized_eq, alike.backlog]
    refine List.rel_foldl ?_ ?_ (List.forall₂_same.mpr fun _ _ => rfl)
    · rintro first second alike packet _ rfl
      exact alike.forget packet
    · exact { alike with backlog := rfl }
  exact { kept with
    backlog := congrArg (·.relimit plan.discipline plan.limit) kept.backlog }

theorem trimUpTo (alike : shaper.Alike tick counted other) (count : Nat) :
    (shaper.trimUpTo count).Alike tick counted (other.trimUpTo count) := by
  induction count generalizing shaper other with
  | zero => exact alike
  | succ count ih =>
      rw [Shaper.trimUpTo, Shaper.trimUpTo, alike.backlog]
      split
      · exact ih alike.dropOne.shaper
      · exact alike

theorem fitted (alike : shaper.Alike tick counted other) (plan : Plan) :
    (shaper.fitted plan).Alike tick counted (other.fitted plan) := by
  have relimited := alike.relimited plan
  rw [Shaper.fitted, Shaper.fitted, trim, trim, relimited.backlog]
  exact relimited.trimUpTo _

theorem reconfigure (alike : shaper.Alike tick counted other) (configuration : Configuration)
    (readings : tick now otherNow) :
    Matches (AnswersAlike tick counted) (shaper.reconfigure configuration now)
      (other.reconfigure configuration otherNow) := by
  by_cases attached : shaper.attached = true
  · have otherAttached := alike.attached.trans attached
    cases accepted : configuration.plan with
    | error error =>
        simp only [Shaper.reconfigure, attached, otherAttached, accepted, Bool.not_true,
          Bool.false_eq_true, if_false]
        exact .value ⟨alike, rfl⟩
    | ok plan =>
        have fitted := alike.fitted plan
        rw [reconfigure_of_plan attached accepted, reconfigure_of_plan otherAttached accepted,
          fitted.sampler]
        cases (shaper.fitted plan).sampler.reconfigure configuration.congestion with
        | error fault => exact .fault fault
        | ok sampler =>
            refine .value ⟨?_, rfl⟩
            exact { fitted with
              configuration := rfl
              bucket := Bucket.full_alike plan readings
              sampler := rfl
              deadline := .none }
  · have otherDetached : ¬ other.attached = true := alike.attached ▸ attached
    simp only [Shaper.reconfigure, attached, otherDetached, Bool.not_false, if_true]
    exact .value ⟨alike, rfl⟩

end Alike

end Shaper

namespace Station

/-- Two stations have the same channel, and their shapers are alike. -/
structure Alike (tick : Ticks → Ticks → Prop) (counted : Prop) (station other : Station P C) :
    Prop where
  shaper : station.shaper.Alike tick counted other.shaper
  channel : other.channel = station.channel

/-- A reply is the same, and the stations after it are alike. -/
structure RepliesAlike (tick : Ticks → Ticks → Prop) (counted : Prop)
    (result other : Station P C × Reply P) : Prop where
  station : result.1.Alike tick counted other.1
  reply : other.2 = result.2

variable [Packet P] [Delivery.Channel C] {station other : Station P C}

/-- Stations that are alike reply alike to the same event at related readings. -/
theorem Alike.step (alike : station.Alike tick counted other) {operation : Operation P}
    {now otherNow : Ticks} (draw : UInt64) (readings : tick now otherNow)
    (releases : operation = .dequeue → ∀ head, station.shaper.peek = some head →
      station.shaper.bucket.ReleasesAlike tick other.shaper.bucket (Packet.length head) now
        otherNow) :
    Matches (RepliesAlike tick counted) (station.step ⟨operation, now, draw⟩)
      (other.step ⟨operation, otherNow, draw⟩) := by
  obtain ⟨shaper, channel⟩ := station
  obtain ⟨otherShaper, otherChannel⟩ := other
  obtain ⟨alike, same⟩ := alike
  obtain rfl : channel = otherChannel := same.symm
  dsimp only at alike releases
  cases operation with
  | enqueue packet =>
      refine (alike.enqueue channel packet draw).bind ?_
      rintro ⟨after, answer⟩ ⟨otherAfter, _⟩ ⟨kept, rfl⟩
      exact .value ⟨⟨kept, rfl⟩, rfl⟩
  | dequeue =>
      refine (alike.dequeue (releases rfl)).bind ?_
      rintro ⟨after, packet⟩ ⟨otherAfter, _⟩ ⟨kept, rfl⟩
      exact .value ⟨⟨kept, rfl⟩, rfl⟩
  | peek =>
      refine .value ⟨⟨alike, rfl⟩, ?_⟩
      exact congrArg (fun backlog => Reply.peeked backlog.head?) alike.backlog
  | dropOne =>
      have dropped := alike.dropOne
      exact .value ⟨⟨dropped.shaper, rfl⟩, congrArg Reply.dropped dropped.answer⟩
  | reset =>
      refine (alike.reset readings).bind ?_
      intro after otherAfter kept
      exact .value ⟨⟨kept, rfl⟩, rfl⟩
  | reconfigure configuration =>
      refine (alike.reconfigure configuration readings).bind ?_
      rintro ⟨after, result⟩ ⟨otherAfter, _⟩ ⟨kept, rfl⟩
      exact .value ⟨⟨kept, rfl⟩, rfl⟩
  | teardown =>
      refine alike.teardown.bind ?_
      rintro ⟨after, attached⟩ ⟨otherAfter, _⟩ ⟨kept, rfl⟩
      exact .value ⟨⟨kept, rfl⟩, rfl⟩

end Station

end TrafficShaper
