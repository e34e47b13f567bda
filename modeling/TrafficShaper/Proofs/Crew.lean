/-
Many receivers of one shared shaper. A wake-up reaches one of them only, and the others keep the
alarms that they have set. As long as one receiver runs, or was woken, or is to be woken, it will
look at the head as it is now. If there is no such receiver, then one of those that sleep has the
right alarm, unless the only one that was woken has taken a packet and left: it wakes no other.
-/

import TrafficShaper.Proofs.Sleeper

namespace TrafficShaper

variable {P C : Type} [Packet P] [Delivery.Channel C]

omit [Packet P] in
theorem Shaper.teardown_detached {shaper after : Shaper P} {answer : Bool}
    (done : shaper.teardown = .ok (after, answer)) : after.attached = false := by
  rcases teardown_cases done with ⟨detached, rfl, -⟩ | ⟨sampler, -, -, -, rfl⟩
  · exact detached
  · rfl

namespace Station

variable {station after : Station P C} {event : Event P} {reply : Reply P}

/-- A shaper that was torn down stays so. -/
theorem step_detached (step : station.step event = .ok (after, reply))
    (detached : station.shaper.attached = false) : after.shaper.attached = false := by
  cases step_cases step with
  | enqueue enqueued =>
      obtain ⟨accepted, answer, accepting, delivery⟩ := Shaper.enqueue_cases enqueued
      have kept : accepted.attached = false := by
        cases Shaper.accept_cases accepting <;> exact detached
      rcases delivery with ⟨-, -, rfl, -⟩ | ⟨-, rfl, -⟩ | ⟨dispatch, -, rfl, -⟩
      · exact kept
      · exact kept
      · cases (Delivery.Channel.deliver station.channel dispatch).2 <;> exact kept
  | dequeue dequeued => cases Shaper.dequeue_cases dequeued <;> exact detached
  | peek => exact detached
  | dropOne => exact (Shaper.dropOne_trimmedTo _).attached.trans detached
  | reset done =>
      obtain ⟨sampler, -, rfl⟩ := Shaper.reset_eq done
      exact detached
  | reconfigure done =>
      cases Shaper.reconfigure_cases done with
      | destroyed => exact detached
      | invalid attached | applied attached =>
          exact Bool.noConfusion (detached.symm.trans attached)
  | teardown done => exact Shaper.teardown_detached done

/-- All receivers are woken at the end of the shaper, and at no other time. -/
theorem step_everybody (step : station.step event = .ok (after, reply))
    (all : Shared.Signal.ofReply reply = .everybody) : after.shaper.attached = false := by
  cases step_cases step with
  | teardown done => exact Shaper.teardown_detached done
  | @enqueue _ _ _ _ _ result | @reconfigure _ _ _ _ result => cases result <;> contradiction
  | dequeue | peek | dropOne | reset => contradiction

end Station

namespace Shared

theorem Signal.of_mem_owed {signal owed : Signal} (within : owed ∈ signal.owed) :
    signal = owed ∧ owed ≠ .nobody := by
  cases signal <;> simp_all [Signal.owed]

theorem Signal.of_owed_nil {signal : Signal} (nothing : signal.owed = []) : signal = .nobody := by
  cases signal <;> trivial

/-- A wake-up for one receiver is kept, or goes to one of those on the lists. -/
theorem Wakeup.Lists.notifyOne_cases {wakeup : Wakeup} {listed : Nat → Bool}
    (lists : wakeup.Lists listed) :
    wakeup.notifyOne.kept = true ∨
      ∃ ticket, listed ticket = true ∧ ticket ∈ wakeup.notifyOne.woken := by
  unfold Wakeup.notifyOne
  split
  · exact .inl rfl
  · rename_i first rest shape
    have waits : first ∈ wakeup.waiting ++ wakeup.woken := by simp [shape]
    exact .inr ⟨first, (lists.mem_iff first).mp waits, by simp⟩

omit [Delivery.Channel C] in
theorem Handle.look_attached {handle after : Handle P C} {now : Ticks} {sight : Sight P}
    (looked : handle.look now = .ok (after, sight)) :
    after.station.shaper.attached = handle.station.shaper.attached := by
  cases look_cases looked with
  | destroyed => rfl
  | released attached dequeued | held attached dequeued =>
      cases Shaper.dequeue_cases dequeued <;> rfl

namespace System

variable {receivers : Nat} {system after : System P C} {departed : Nat → Prop} {ticket : Nat}

/-- A receiver has departed once it leaves with its answer. It counts as such until it asks again,
another receiver moves, or a wake-up is sent. -/
def Departs (system after : System P C) (departed : Nat → Prop) (ticket : Nat) : Prop :=
  after.stage ticket = .away ∧
    (system.stage ticket ≠ .away ∨
      departed ticket ∧ after.stage = system.stage ∧ after.handle.wakeup = system.handle.wakeup)

/-- A system is reached, and along the way it is told which receiver has departed. -/
inductive Tracked (receivers : Nat) : (Nat → Prop) → System P C → Prop where
  | created {configuration : Configuration} {channel : C} {now : Ticks} {station : Station P C}
      (nonneg : 0 ≤ now)
      (created : Station.create configuration channel now = .ok (.ok station)) :
      Tracked receivers (fun _ => False) { handle := { station }, now }
  | moved {departed : Nat → Prop} {system after : System P C}
      (tracked : Tracked receivers departed system) (move : system.Move receivers after) :
      Tracked receivers (Departs system after departed) after

theorem Tracked.reached (tracked : system.Tracked receivers departed) :
    system.Reached receivers := by
  induction tracked with
  | created nonneg created => exact .created nonneg created
  | moved tracked move reached => exact reached.moved move

/-- Each reached system can be tracked. -/
theorem Reached.tracked (reached : system.Reached receivers) :
    ∃ departed, system.Tracked receivers departed := by
  induction reached with
  | created nonneg created => exact ⟨_, .created nonneg created⟩
  | moved reached move tracked =>
      obtain ⟨departed, tracked⟩ := tracked
      exact ⟨_, tracked.moved move⟩

theorem Tracked.away_of_departed (tracked : system.Tracked receivers departed)
    (gone : departed ticket) : system.stage ticket = .away := by
  cases tracked with
  | created => contradiction
  | moved => exact gone.1

/-- A receiver runs if it is about to look at the shaper. -/
def Running (system : System P C) (ticket : Nat) : Prop :=
  system.stage ticket = .starting ∨ ∃ taken, system.stage ticket = .ready taken

/-- A receiver sleeps, and there is a wake-up that it did not see yet. -/
def Notified (system : System P C) (ticket : Nat) : Prop :=
  ∃ taken alarm, system.stage ticket = .parked taken alarm ∧
    (taken = true ∨ ticket ∈ system.handle.wakeup.woken)

/-- A receiver runs, or will be woken, or its alarm is set for the head. -/
inductive Heeds (system : System P C) (ticket : Nat) : Prop where
  | running (runs : system.Running ticket)
  | notified (notified : system.Notified ticket)
  | asleep {taken : Bool} {alarm : Option Ticks}
      (parked : system.stage ticket = .parked taken alarm)
      (awaited : system.handle.station.shaper.AwaitedBy alarm)

/-- What holds of many receivers. While all wake-ups are sent, none is kept and nobody has
departed, either no receiver is asked for anything, or one of them heeds the head. -/
structure Heeded (system : System P C) (departed : Nat → Prop) : Prop where
  loud : Signal.nobody ∉ system.unsent
  ended : Signal.everybody ∈ system.unsent → system.handle.station.shaper.attached = false
  heeded : system.handle.station.shaper.attached = true → system.unsent = [] →
    system.handle.wakeup.kept = false → (∀ ticket, ¬ departed ticket) →
      (∀ ticket, system.stage ticket = .away) ∨ ∃ ticket, system.Heeds ticket

omit [Delivery.Channel C] in
/-- A receiver that has just moved heeds the head if it runs or went to sleep in good order. -/
theorem Heeded.of_heeds (loud : Signal.nobody ∉ system.unsent)
    (ended : Signal.everybody ∈ system.unsent → system.handle.station.shaper.attached = false)
    (heeds : system.Heeds ticket) : system.Heeded departed where
  loud := loud
  ended := ended
  heeded _ _ _ _ := .inr ⟨ticket, heeds⟩

omit [Delivery.Channel C] in
theorem heeds_starting : (system.withStage ticket .starting).Heeds ticket :=
  .running (.inl (withStage_self _ _ _))

omit [Delivery.Channel C] in
/-- Where no receiver moves and alarms stay right, a receiver heeds the head as before. -/
theorem Heeds.still (heeds : system.Heeds ticket) (stage : after.stage = system.stage)
    (wakeup : after.handle.wakeup = system.handle.wakeup)
    (right : ∀ alarm, system.handle.station.shaper.AwaitedBy alarm →
      after.handle.station.shaper.AwaitedBy alarm) : after.Heeds ticket := by
  cases heeds with
  | running runs =>
      refine .running ?_
      rwa [Running, stage]
  | notified notified =>
      refine .notified ?_
      rwa [Notified, stage, wakeup]
  | asleep parked awaited => exact .asleep (stage ▸ parked) (right _ awaited)

omit [Packet P] [Delivery.Channel C] in
/-- Where no receiver moves and no wake-up is sent, whoever had departed still has. -/
theorem not_departed_of_still (absent : ∀ ticket, departed ticket → system.stage ticket = .away)
    (stage : after.stage = system.stage) (wakeup : after.handle.wakeup = system.handle.wakeup)
    (present : ∀ ticket, ¬ Departs system after departed ticket) (ticket : Nat) :
    ¬ departed ticket := by
  intro gone
  refine present ticket ⟨?_, .inr ⟨gone, stage, wakeup⟩⟩
  rw [stage]
  exact absent ticket gone

theorem Heeded.call (heeded : system.Heeded departed)
    (absent : ∀ ticket, departed ticket → system.stage ticket = .away)
    (consistent : system.handle.station.shaper.Consistent system.now) {operation : Operation P}
    {draw : UInt64} {handle : Handle P C} {reply : Reply P}
    (held : system.handle.hold ⟨operation, system.now, draw⟩ = .ok (handle, reply)) :
    let after := { system with handle, unsent := (Signal.ofReply reply).owed ++ system.unsent }
    after.Heeded (Departs system after departed) := by
  intro after
  obtain ⟨station, stepped, rfl⟩ := Handle.hold_eq held
  constructor
  case loud => exact List.not_mem_append (fun now => (Signal.of_mem_owed now).2 rfl) heeded.loud
  case ended =>
    intro owed
    rcases List.mem_append.mp owed with now | before
    · exact Station.step_everybody stepped (Signal.of_mem_owed now).1
    · exact Station.step_detached stepped (heeded.ended before)
  case heeded =>
    intro attached settled unkept present
    obtain ⟨silent, settled⟩ := List.append_eq_nil_iff.mp settled
    have before : system.handle.station.shaper.attached = true := by
      by_contra detached
      have ended := Station.step_detached stepped (Bool.eq_false_iff.mpr detached)
      exact Bool.noConfusion (attached.symm.trans ended)
    have stayed := not_departed_of_still absent rfl rfl present
    rcases heeded.heeded before settled unkept stayed with away | ⟨ticket, heeds⟩
    · exact .inl away
    · refine .inr ⟨ticket, heeds.still rfl rfl ?_⟩
      intro alarm awaited
      exact Station.step_awaited consistent awaited stepped (Signal.of_owed_nil silent)

omit [Delivery.Channel C] in
/-- A wake-up that is sent is kept, or makes the receiver to which it goes heed the head. -/
theorem Heeded.send (heeded : system.Heeded departed) (listed : system.Listed) {signal : Signal}
    (owed : signal ∈ system.unsent) (gone : Nat → Prop) :
    Heeded
      { system.withWakeup (signal.send system.handle.wakeup) with
        unsent := system.unsent.erase signal } gone := by
  constructor
  case loud => exact fun silent => heeded.loud (List.mem_of_mem_erase silent)
  case ended => exact fun all => heeded.ended (List.mem_of_mem_erase all)
  case heeded =>
    intro attached settled unkept _
    cases signal with
    | nobody => exact absurd owed heeded.loud
    | everybody => exact Bool.noConfusion (attached.symm.trans (heeded.ended owed))
    | one =>
        rcases Wakeup.Lists.notifyOne_cases listed with kept | ⟨ticket, waits, woken⟩
        · exact Bool.noConfusion (kept.symm.trans unkept)
        · refine .inr ⟨ticket, ?_⟩
          change (system.stage ticket).listed = true at waits
          cases stage : system.stage ticket with
          | away | starting => simp [stage, Stage.listed] at waits
          | ready taken => exact .running (.inr ⟨taken, stage⟩)
          | parked taken alarm => exact .notified ⟨taken, alarm, stage, .inr woken⟩

omit [Delivery.Channel C] in
theorem Heeded.wait (heeded : system.Heeded departed)
    (absent : ∀ ticket, departed ticket → system.stage ticket = .away) (later : Ticks) :
    let after := { system with now := later }
    after.Heeded (Departs system after departed) := by
  intro after
  refine ⟨heeded.loud, heeded.ended, ?_⟩
  intro attached settled unkept present
  have stayed := not_departed_of_still absent rfl rfl present
  rcases heeded.heeded attached settled unkept stayed with away | ⟨ticket, heeds⟩
  · exact .inl away
  · exact .inr ⟨ticket, heeds.still rfl rfl fun _ awaited => awaited⟩

/-- The head is heeded at all times. -/
theorem Tracked.heeded (tracked : system.Tracked receivers departed) :
    system.Heeded departed := by
  induction tracked with
  | created nonneg created => exact ⟨List.not_mem_nil, nofun, fun _ _ _ _ => .inl fun _ => rfl⟩
  | @moved departed system after tracked move ih =>
      have reached := tracked.reached
      -- A receiver that moves runs after it, or went to sleep with the right alarm, or departs. The
      -- other moves leave a receiver that heeds the head as it is, or owe a wake-up, or send one.
      cases move with
      | call held => exact ih.call (fun _ => tracked.away_of_departed) reached.inAgreement held
      | send owed => exact ih.send reached.listed owed _
      | wait order => exact ih.wait (fun _ => tracked.away_of_departed) _
      | receive | wake | ring => exact .of_heeds ih.loud ih.ended heeds_starting
      | enable starting =>
          exact .of_heeds ih.loud ih.ended (.running (.inr ⟨_, withStage_self _ _ _⟩))
      | park ready looked =>
          refine .of_heeds ih.loud (fun all => ?_) (.asleep (withStage_self _ _ _) ?_)
          · exact (Handle.look_attached looked).trans (ih.ended all)
          · exact Handle.look_awaited reached.inAgreement looked
      | @leave ticket taken handle sight wakeup ready looked found left =>
          refine ⟨ih.loud, fun all => (Handle.look_attached looked).trans (ih.ended all), ?_⟩
          intro _ _ _ present
          exact absurd ⟨withStage_self _ _ _, .inl (ready ▸ nofun)⟩ (present ticket)

/-- A receiver sees its wake-up, and tries at once. -/
theorem Reached.retry (reached : system.Reached receivers) (notified : system.Notified ticket)
    {handle : Handle P C} {sight : Sight P}
    (done : (system.withWakeup (system.handle.wakeup.resume ticket)).handle.attempt ticket
      system.now = .ok (handle, sight)) :
    Reached receivers ({ system with handle }.withStage ticket sight.stage) := by
  obtain ⟨taken, alarm, parked, noticed⟩ := notified
  have roused := reached.moved (.wake parked noticed)
  have tried := roused.attempt (withStage_self _ _ _) done
  rwa [← withStage_withStage]

end System

end Shared

namespace Shared.System

/-- Two receivers at these stages. -/
def pair (first second : Stage) : Nat → Stage
  | 0 => first
  | 1 => second
  | _ => .away

end Shared.System

end TrafficShaper
