/-
What a step does to the buckets and to the retry timer. Later proofs split a step into these cases
and look at no operation by itself.
-/

import TrafficShaper.Proofs.History

namespace TrafficShaper

variable {P C : Type}

/-- A reset fills the buckets, and so does a configuration that takes effect. -/
def Transition.refills (transition : Transition P C) : Bool :=
  match transition.reply with
  | .wasReset | .reconfigured (.ok _) => true
  | _ => false

variable [Packet P]

namespace Shaper

variable {shaper after : Shaper P} {now : Ticks}

/-- Offers touch neither the buckets nor the timer. -/
theorem accept_timing {packet : P} {draw : UInt64}
    {answer : Except (Refusal P) (Option Dispatch)}
    (accepted : shaper.accept packet draw = .ok (after, answer)) :
    after.bucket = shaper.bucket ∧ after.timer = shaper.timer := by
  cases accept_cases accepted <;> exact ⟨rfl, rfl⟩

omit [Packet P] in
theorem settle_timing (shaper : Shaper P) (outcome : Delivery.Outcome) :
    (shaper.settle outcome).bucket = shaper.bucket ∧
      (shaper.settle outcome).timer = shaper.timer := by
  cases outcome <;> exact ⟨rfl, rfl⟩

theorem enqueue_timing {C : Type} [Delivery.Channel C] {channel channelAfter : C} {packet : P}
    {draw : UInt64} {result : Except (Refusal P) Unit}
    (enqueued : shaper.enqueue channel packet draw = .ok (after, channelAfter, result)) :
    after.bucket = shaper.bucket ∧ after.timer = shaper.timer := by
  obtain ⟨accepted, answer, accepting, delivery⟩ := enqueue_cases enqueued
  have offered := accept_timing accepting
  rcases delivery with ⟨_, _, rfl, _⟩ | ⟨_, rfl, _⟩ | ⟨dispatch, _, rfl, _⟩
  · exact offered
  · exact offered
  · obtain ⟨bucket, timer⟩ :=
      accepted.settle_timing (Delivery.Channel.deliver channel dispatch).2
    exact ⟨bucket.trans offered.1, timer.trans offered.2⟩

theorem dropOne_timing (shaper : Shaper P) :
    shaper.dropOne.1.bucket = shaper.bucket ∧ shaper.dropOne.1.timer = shaper.timer := by
  rw [shaper.dropOne_pruned]
  exact ⟨rfl, rfl⟩

theorem peek_of_takeHead {head : P} {rest : Backlog P}
    (taken : shaper.backlog.takeHead = some (head, rest)) : shaper.peek = some head := by
  rw [peek, Backlog.head?, Backlog.takeHead_packets taken, List.head?_cons]

end Shaper

variable [Delivery.Channel C]

/-- What can become of the buckets and the timer in a step. -/
inductive Transition.TimingCase (transition : Transition P C) : Prop where
  | untouched (nothing : transition.released? = none) (unfilled : transition.refills = false)
      (bucket : transition.after.shaper.bucket = transition.before.shaper.bucket)
      (timer : transition.after.shaper.timer = transition.before.shaper.timer)
  | idle (nothing : transition.released? = none) (unfilled : transition.refills = false)
      (bucket : transition.after.shaper.bucket = transition.before.shaper.bucket)
      (timer : transition.after.shaper.timer.deadline = none)
  | released {head : P} (given : transition.released? = some head)
      (unfilled : transition.refills = false)
      (first : transition.before.shaper.peek = some head)
      (ready : transition.before.shaper.bucket.release (Packet.length head)
        transition.event.now = .ok (transition.after.shaper.bucket, .ready))
      (timer : transition.after.shaper.timer.deadline = none)
  | refused {head : P} {time : Ticks} (nothing : transition.released? = none)
      (unfilled : transition.refills = false)
      (asked : transition.event.operation = .dequeue)
      (answer : transition.reply = .dequeued none)
      (first : transition.before.shaper.peek = some head)
      (waits : transition.before.shaper.bucket.release (Packet.length head)
        transition.event.now = .ok (transition.before.shaper.bucket, .waitUntil time))
      (bucket : transition.after.shaper.bucket = transition.before.shaper.bucket)
      (timer : transition.after.shaper.timer.deadline = some time)
  | refilled {plan : Plan} (nothing : transition.released? = none)
      (filled : transition.refills = true)
      (bucket : transition.after.shaper.bucket = .full plan transition.event.now)
      (timer : transition.after.shaper.timer.deadline = none)

theorem Station.step_timing {station after : Station P C} {event : Event P} {reply : Reply P}
    (step : station.step event = .ok (after, reply)) :
    (⟨station, event, reply, after⟩ : Transition P C).TimingCase := by
  cases step_cases step with
  | enqueue enqueued =>
      obtain ⟨bucket, timer⟩ := Shaper.enqueue_timing enqueued
      exact .untouched rfl rfl bucket timer
  | dequeue dequeued =>
      cases Shaper.dequeue_cases dequeued with
      | empty nothing => exact .idle rfl rfl rfl rfl
      | released taken ready =>
          exact .released rfl rfl (Shaper.peek_of_takeHead taken) ready rfl
      | refused taken waits =>
          exact .refused rfl rfl rfl rfl (Shaper.peek_of_takeHead taken) waits rfl rfl
  | peek => exact .untouched rfl rfl rfl rfl
  | dropOne =>
      obtain ⟨bucket, timer⟩ := station.shaper.dropOne_timing
      exact .untouched rfl rfl bucket timer
  | reset done =>
      obtain ⟨sampler, -, rfl⟩ := Shaper.reset_eq done
      exact .refilled rfl rfl rfl rfl
  | reconfigure done =>
      cases Shaper.reconfigure_cases done with
      | destroyed detached => exact .untouched rfl rfl rfl rfl
      | invalid attached refused => exact .untouched rfl rfl rfl rfl
      | applied attached accepted changed => exact .refilled rfl rfl rfl rfl
  | teardown done =>
      rcases Shaper.teardown_cases done with ⟨-, rfl, -⟩ | ⟨sampler, -, -, -, rfl⟩
      · exact .untouched rfl rfl rfl rfl
      · exact .idle rfl rfl rfl rfl

end TrafficShaper
