/-
A lone receiver of a shared shaper sleeps no longer than until the head may leave. The head can be
due sooner only by an operation that sends a wake-up, and until that is sent the operation is not
over.
-/

import TrafficShaper.Proofs.Receivers
import TrafficShaper.Proofs.Throttled

namespace TrafficShaper

variable {P C : Type} [Packet P] [Delivery.Channel C]

/-- If there is a head, the alarm is set to no later than its due tick. -/
def Shaper.AwaitedBy (shaper : Shaper P) (alarm : Option Ticks) : Prop :=
  ∀ head, shaper.peek = some head →
    ∃ deadline, alarm = some deadline ∧
      deadline.toInt ≤ shaper.bucket.due (Packet.length head)

namespace Shaper

variable {shaper after : Shaper P} {now : Ticks} {alarm : Option Ticks}

theorem awaitedBy_of_nil (nothing : shaper.backlog.packets = []) : shaper.AwaitedBy alarm := by
  intro head first
  rw [peek, Backlog.head?, nothing] at first
  contradiction

/-- The head stays awaited while it stays at the head and is not due sooner. -/
theorem AwaitedBy.of_stays (awaited : shaper.AwaitedBy alarm)
    (stays : ∀ head, after.peek = some head → shaper.peek = some head)
    (bucket : after.bucket = shaper.bucket) : after.AwaitedBy alarm := by
  intro head first
  rw [bucket]
  exact awaited head (stays head first)

theorem accept_awaited (awaited : shaper.AwaitedBy alarm) {packet : P} {draw : UInt64}
    {refusal : Refusal P} (accepted : shaper.accept packet draw = .ok (after, .error refusal)) :
    after.AwaitedBy alarm := by
  cases accept_cases accepted <;> exact awaited

/-- When the head leaves, the next one is not due before that. -/
theorem dequeue_awaited (consistent : shaper.Consistent now) (awaited : shaper.AwaitedBy alarm)
    {answer : Option P} (dequeued : shaper.dequeue now = .ok (after, answer)) :
    after.AwaitedBy alarm := by
  cases dequeue_cases dequeued with
  | empty nothing => exact awaited
  | refused taken waits => exact awaited
  | @released head backlog bucket taken ready =>
      intro next _
      obtain ⟨deadline, set, early⟩ := awaited head (peek_of_takeHead taken)
      obtain ⟨covers, paid⟩ := Bucket.release_ready consistent.bucket ready
      have fits := consistent.fits.serviceable head (List.mem_of_head? (peek_of_takeHead taken))
      have due := (Bucket.covers_iff_due_le consistent.bucket fits).mp covers
      refine ⟨deadline, set, ?_⟩
      calc deadline.toInt
          ≤ now.toInt := Int.le_trans early due
        _ = bucket.checkpoint.toInt := by rw [paid.checkpoint]
        _ ≤ bucket.due (Packet.length next) := bucket.checkpoint_le_due _

/-- Whoever asked for the head in vain knows its due tick from the timer. -/
theorem dequeue_none_awaited (consistent : shaper.Consistent now)
    (dequeued : shaper.dequeue now = .ok (after, none)) :
    after.AwaitedBy after.timer.deadline := by
  cases dequeue_cases dequeued with
  | empty nothing => exact awaitedBy_of_nil nothing
  | @refused head backlog time taken waits =>
      intro other first
      have fits := consistent.fits.serviceable head (List.mem_of_head? (peek_of_takeHead taken))
      have told := Bucket.release_waitUntil consistent.bucket fits waits
      obtain rfl : head = other := Option.some.inj ((peek_of_takeHead taken).symm.trans first)
      exact ⟨time, rfl, by dsimp only; omega⟩

theorem dropOne_awaited (awaited : shaper.AwaitedBy alarm) :
    shaper.dropOne.1.AwaitedBy alarm := by
  rcases shaper.dropOne_cases with ⟨-, same⟩ | ⟨tail, rest, dropped, same⟩
  · rw [same]
    exact awaited
  · rw [same]
    refine awaited.of_stays ?_ rfl
    intro head first
    rw [peek, Backlog.head?, Backlog.dropTail_packets dropped, List.head?_append]
    exact Option.or_eq_some_iff.mpr (.inl first)

end Shaper

namespace Station

variable {station after : Station P C} {alarm : Option Ticks}

/-- An operation that calls for no wake-up leaves the head awaited. -/
theorem step_awaited {event : Event P} {reply : Reply P}
    (consistent : station.shaper.Consistent event.now)
    (awaited : station.shaper.AwaitedBy alarm) (step : station.step event = .ok (after, reply))
    (silent : Shared.Signal.ofReply reply = .nobody) : after.shaper.AwaitedBy alarm := by
  cases step_cases step with
  | enqueue enqueued =>
      obtain ⟨accepted, answer, accepting, delivery⟩ := Shaper.enqueue_cases enqueued
      rcases delivery with ⟨refusal, rfl, rfl, -, -⟩ | ⟨-, -, -, rfl⟩ | ⟨dispatch, -, -, -, rfl⟩
      · exact Shaper.accept_awaited awaited accepting
      · contradiction
      · contradiction
  | dequeue dequeued => exact Shaper.dequeue_awaited consistent awaited dequeued
  | peek => exact awaited
  | dropOne => exact Shaper.dropOne_awaited awaited
  | reset done =>
      obtain ⟨sampler, -, rfl⟩ := Shaper.reset_eq done
      exact Shaper.awaitedBy_of_nil rfl
  | reconfigure done =>
      cases Shaper.reconfigure_cases done with
      | destroyed detached => exact awaited
      | invalid attached refused => exact awaited
      | applied attached accepted changed => contradiction
  | teardown done => contradiction

end Station

namespace Shared

/-- A wake-up that is sent reaches the only receiver that waits. -/
theorem Wakeup.Lists.send_woken {wakeup : Wakeup} {listed : Nat → Bool} {ticket : Nat}
    (lists : wakeup.Lists listed) (alone : ∀ other, listed other = true → other = ticket)
    (waits : listed ticket = true) {signal : Signal} (loud : signal ≠ .nobody) :
    ticket ∈ (signal.send wakeup).woken := by
  have onList := (lists.mem_iff ticket).mpr waits
  rw [List.mem_append] at onList
  cases signal with
  | nobody => contradiction
  | everybody => exact List.mem_append.mpr onList.symm
  | one =>
      change ticket ∈ wakeup.notifyOne.woken
      unfold Wakeup.notifyOne
      split
      · rename_i nobody
        simpa [nobody] using onList
      · rename_i first rest shape
        have inList : first ∈ wakeup.waiting ++ wakeup.woken := by simp [shape]
        obtain rfl := alone first ((lists.mem_iff first).mp inList)
        exact List.mem_append_right _ List.mem_cons_self

omit [Delivery.Channel C] in
/-- A look in vain tells when to look again. -/
theorem Handle.look_awaited {handle after : Handle P C} {now : Ticks} {deadline : Option Ticks}
    (consistent : handle.station.shaper.Consistent now)
    (looked : handle.look now = .ok (after, .held deadline)) :
    after.station.shaper.AwaitedBy deadline := by
  cases look_cases looked with
  | held attached dequeued => exact Shaper.dequeue_none_awaited consistent dequeued

namespace System

variable {system after : System P C}

/-- What holds of a lone receiver. -/
structure Attended (system : System P C) : Prop where
  loud : Signal.nobody ∉ system.unsent
  awaited : ∀ alarm, system.stage 0 = .parked false alarm →
    0 ∉ system.handle.wakeup.woken → system.unsent = [] →
      system.handle.station.shaper.AwaitedBy alarm

omit [Delivery.Channel C] in
/-- While the lone receiver does not sleep, there is nothing to show. -/
theorem Attended.of_awake {ticket : Nat} {stage : Stage} (lone : ticket = 0)
    (awake : ∀ alarm, stage ≠ .parked false alarm) (loud : Signal.nobody ∉ system.unsent) :
    (system.withStage ticket stage).Attended where
  loud := loud
  awaited alarm parked := by
    subst lone
    exact absurd ((withStage_self _ _ _).symm.trans parked) (awake alarm)

/-- With one receiver, all that is not away is that one. -/
theorem Reached.lone (reached : system.Reached 1) {ticket : Nat}
    (busy : system.stage ticket ≠ .away) : ticket = 0 := by
  by_contra other
  exact busy (reached.away (Nat.one_le_iff_ne_zero.mpr other))

theorem Attended.call (attended : system.Attended)
    (consistent : system.handle.station.shaper.Consistent system.now) {operation : Operation P}
    {draw : UInt64} {handle : Handle P C} {reply : Reply P}
    (held : system.handle.hold ⟨operation, system.now, draw⟩ = .ok (handle, reply)) :
    Attended { system with handle, unsent := (Signal.ofReply reply).owed ++ system.unsent } := by
  obtain ⟨station, stepped, rfl⟩ := Handle.hold_eq held
  cases answer : Signal.ofReply reply with
  | nobody =>
      refine ⟨attended.loud, ?_⟩
      intro alarm parked unnoticed settled
      exact Station.step_awaited consistent (attended.awaited alarm parked unnoticed settled)
        stepped answer
  | one | everybody =>
      constructor
      case loud => simp [Signal.owed, attended.loud]
      case awaited =>
        intro alarm parked unnoticed settled
        contradiction

theorem Attended.send (attended : system.Attended) (reached : system.Reached 1) {signal : Signal}
    (owed : signal ∈ system.unsent) :
    Attended
      { system.withWakeup (signal.send system.handle.wakeup) with
        unsent := system.unsent.erase signal } := by
  constructor
  case loud => exact fun silent => attended.loud (List.mem_of_mem_erase silent)
  case awaited =>
    intro alarm parked unnoticed settled
    -- The sleeper is the only one on the lists, so this wake-up is for it, and it is noticed.
    refine absurd ?_ unnoticed
    refine Wakeup.Lists.send_woken reached.listed ?_ ?_ ?_
    · intro other listed
      refine reached.lone ?_
      intro away
      simp [away, Stage.listed] at listed
    · change (system.stage 0).listed = true
      have sleeping : system.stage 0 = .parked false alarm := parked
      rw [sleeping]
      rfl
    · rintro rfl
      exact attended.loud owed

/-- The lone receiver is attended at all times. -/
theorem Reached.attended (reached : system.Reached 1) : system.Attended := by
  induction reached with
  | created nonneg created => exact ⟨List.not_mem_nil, nofun⟩
  | @moved system after reached move ih =>
      have lone {ticket : Nat} {stage : Stage} (there : system.stage ticket = stage)
          (busy : stage ≠ .away) : ticket = 0 := reached.lone (there ▸ busy)
      -- A receiver goes to sleep only by a look in vain, which sets its alarm. After that the
      -- calls keep the alarm right or owe a wake-up, and each other move ends the sleep.
      cases move with
      | call held => exact ih.call reached.inAgreement held
      | send owed => exact ih.send reached owed
      | wait order => exact ⟨ih.loud, ih.awaited⟩
      | receive inside away => exact .of_awake (Nat.lt_one_iff.mp inside) nofun ih.loud
      | enable starting => exact .of_awake (lone starting nofun) nofun ih.loud
      | @park ticket taken handle deadline ready looked =>
          obtain rfl := lone ready nofun
          refine ⟨ih.loud, ?_⟩
          intro alarm parked _ _
          obtain ⟨-, rfl⟩ := Stage.parked.inj ((withStage_self _ _ _).symm.trans parked)
          exact Handle.look_awaited reached.inAgreement looked
      | leave ready looked found left => exact .of_awake (lone ready nofun) nofun ih.loud
      | wake parked noticed => exact .of_awake (lone parked nofun) nofun ih.loud
      | ring parked due left => exact .of_awake (lone parked nofun) nofun ih.loud

/-- A lone receiver that sleeps, with no wake-up for it on its way, has an alarm for as soon as the
head can leave, unless nothing waits. -/
theorem Reached.sleeps_until_due (reached : system.Reached 1) (settled : system.unsent = [])
    {alarm : Option Ticks} (parked : system.stage 0 = .parked false alarm)
    (unnoticed : 0 ∉ system.handle.wakeup.woken) :
    system.handle.station.shaper.backlog.packets = [] ∨
      ∃ deadline, alarm = some deadline ∧
        ∀ time after head, system.now ≤ time →
          system.handle.station.shaper.dequeue time = .ok (after, some head) →
            deadline ≤ time := by
  have awaited := reached.attended.awaited alarm parked unnoticed settled
  have consistent := reached.inAgreement
  cases shape : system.handle.station.shaper.backlog.packets with
  | nil => exact .inl rfl
  | cons head rest =>
      have first : system.handle.station.shaper.peek = some head := by
        rw [Shaper.peek, Backlog.head?, shape, List.head?_cons]
      obtain ⟨deadline, set, early⟩ := awaited head first
      refine .inr ⟨deadline, set, ?_⟩
      intro time after taken later dequeued
      have counted := consistent.bucket.checkpoint_le
      rw [Int64.le_iff_toInt_le] at later
      obtain ⟨other, answered⟩ := Shaper.dequeue_of_peek consistent first
        (Int64.le_iff_toInt_le.mpr (Int.le_trans counted later))
      rw [dequeued] at answered
      rw [Int64.le_iff_toInt_le]
      by_contra late
      rw [if_neg (by omega)] at answered
      simp at answered

end System

deriving instance DecidableEq for Handle

/-- The steady station after some events, shared with some wake-ups. -/
def Handle.steadyAfter (events : List (Event Sketch)) (wakeup : Wakeup) :
    Handle Sketch Delivery.Ledger where
  station := (Station.steady.follow events).1
  wakeup := wakeup

namespace System

/-- A receiver took one of two packets and sleeps until it may have the other. -/
def dozing : System Sketch Delivery.Ledger where
  handle := .steadyAfter Station.stalledRun { waiting := [0] }
  now := 0
  stage := Function.update (fun _ => .away) 0 (.parked false (some 1008000))

theorem dozing_reached : dozing.Reached 1 := by
  let offer : Event Sketch := ⟨.enqueue ⟨1500, {}⟩, 0, 0⟩
  have start : Reached 1 { handle := .steadyAfter [] {}, now := 0 } :=
    .created (by decide) Station.steady_created
  have offered : (Handle.steadyAfter [] {}).perform offer =
      .ok (.steadyAfter [offer] { kept := true }, .enqueued (.ok ())) := by decide +kernel
  have again : (Handle.steadyAfter [offer] { kept := true }).perform offer =
      .ok (.steadyAfter [offer, offer] { kept := true }, .enqueued (.ok ())) := by decide +kernel
  have received : (Handle.steadyAfter [offer, offer] { kept := true }).attempt 0 0 =
      .ok (.steadyAfter (Station.stalledRun.take 3) {}, .released ⟨1500, {}⟩) := by
    decide +kernel
  have held : (Handle.steadyAfter (Station.stalledRun.take 3) {}).attempt 0 0 =
      .ok (.steadyAfter Station.stalledRun { waiting := [0] }, .held (some 1008000)) := by
    decide +kernel
  have asked := ((start.perform offered).perform again).moved (.receive Nat.one_pos rfl)
  have taken := asked.attempt (withStage_self _ _ _) received
  have asked := taken.moved (.receive Nat.one_pos (withStage_self _ _ _))
  have parked := asked.attempt (withStage_self _ _ _) held
  simp only [withStage, Function.update_idem] at parked
  exact parked

/-- The alarm of that receiver. -/
theorem dozing_until_due :
    dozing.Reached 1 ∧ dozing.unsent = [] ∧ dozing.stage 0 = .parked false (some 1008000) ∧
      0 ∉ dozing.handle.wakeup.woken ∧
      (dozing.handle.station.shaper.backlog.packets = [] ∨
        ∃ deadline, some 1008000 = some deadline ∧
          ∀ time after head, dozing.now ≤ time →
            dozing.handle.station.shaper.dequeue time = .ok (after, some head) →
              deadline ≤ time) := by
  have parked : dozing.stage 0 = .parked false (some 1008000) := rfl
  have unnoticed : 0 ∉ dozing.handle.wakeup.woken := List.not_mem_nil
  exact ⟨dozing_reached, rfl, parked, unnoticed,
    dozing_reached.sleeps_until_due rfl parked unnoticed⟩

end System

end Shared

end TrafficShaper
