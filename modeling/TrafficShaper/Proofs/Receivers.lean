/-
A shared shaper whose callers and receivers run at the same time. Each move is as much as one of
them does before another can come in between: to hold the shaper, to send a wake-up, to wait for
one, or to run again.
-/

import Mathlib.Data.List.Nodup
import Mathlib.Logic.Function.Basic
import TrafficShaper.Proofs.Consistent
import TrafficShaper.Shared.Handle

namespace TrafficShaper.Shared

/-- The wake-ups that an operation still has to send when it lets go of the shaper. -/
def Signal.owed : Signal → List Signal
  | .nobody => []
  | signal => [signal]

/-- How far a receiver has come. -/
inductive Stage where
  /-- The receiver is asked for nothing. -/
  | away
  /-- The receiver runs, and does not wait for a wake-up yet. -/
  | starting
  /-- The receiver waits for a wake-up or took the one that was kept, and did not look yet. -/
  | ready (taken : Bool)
  /-- The receiver found nothing, and sleeps until it is woken or until its alarm. -/
  | parked (taken : Bool) (alarm : Option Ticks)
deriving DecidableEq

/-- A receiver at this stage is on the lists of the wake-ups. -/
def Stage.listed : Stage → Bool
  | .ready taken | .parked taken _ => !taken
  | _ => false

/-- The stage at which a receiver rests after what it found. -/
def Sight.stage {P : Type} : Sight P → Stage
  | .held deadline => .parked false deadline
  | _ => .away

/-- A receiver at this stage gets no more wake-ups. Whether one that it got and did not see goes to
another receiver is left open. -/
def Wakeup.Left (wakeup : Wakeup) (ticket : Nat) (after : Wakeup) : Prop :=
  after = wakeup.resume ticket ∨ after = wakeup.withdraw ticket

/-- A shared shaper, the clock, the wake-ups that callers did not send yet, and the receivers. -/
structure System (P C : Type) where
  handle : Handle P C
  now : Ticks
  unsent : List Signal := []
  stage : Nat → Stage := fun _ => .away

namespace System

variable {P C : Type}

def withWakeup (system : System P C) (wakeup : Wakeup) : System P C :=
  { system with handle := { system.handle with wakeup } }

def withStage (system : System P C) (ticket : Nat) (stage : Stage) : System P C :=
  { system with stage := Function.update system.stage ticket stage }

theorem withStage_self (system : System P C) (ticket : Nat) (stage : Stage) :
    (system.withStage ticket stage).stage ticket = stage :=
  Function.update_self _ _ _

variable [Packet P] [Delivery.Channel C]

/-- A move of a caller, of the clock, or of one of the receivers. What would end in a fault is no
move. -/
inductive Move (receivers : Nat) (system : System P C) : System P C → Prop where
  /-- A caller holds the shaper for one operation. -/
  | call {operation : Operation P} {draw : UInt64} {handle : Handle P C} {reply : Reply P}
      (held : system.handle.hold ⟨operation, system.now, draw⟩ = .ok (handle, reply)) :
      Move receivers system
        { system with handle, unsent := (Signal.ofReply reply).owed ++ system.unsent }
  /-- A caller sends its wake-up. -/
  | send {signal : Signal} (owed : signal ∈ system.unsent) :
      Move receivers system
        { system.withWakeup (signal.send system.handle.wakeup) with
          unsent := system.unsent.erase signal }
  | wait {later : Ticks} (order : system.now ≤ later) :
      Move receivers system { system with now := later }
  /-- A receiver is asked for the next packet. -/
  | receive {ticket : Nat} (inside : ticket < receivers) (away : system.stage ticket = .away) :
      Move receivers system (system.withStage ticket .starting)
  | enable {ticket : Nat} (starting : system.stage ticket = .starting) :
      Move receivers system
        ((system.withWakeup (system.handle.wakeup.enable ticket).1).withStage ticket
          (.ready (system.handle.wakeup.enable ticket).2))
  /-- A receiver looks, finds nothing, and sleeps. -/
  | park {ticket : Nat} {taken : Bool} {handle : Handle P C} {deadline : Option Ticks}
      (ready : system.stage ticket = .ready taken)
      (looked : system.handle.look system.now = .ok (handle, .held deadline)) :
      Move receivers system
        ({ system with handle }.withStage ticket (.parked taken deadline))
  /-- A receiver looks, and has its answer. -/
  | leave {ticket : Nat} {taken : Bool} {handle : Handle P C} {sight : Sight P}
      {wakeup : Wakeup} (ready : system.stage ticket = .ready taken)
      (looked : system.handle.look system.now = .ok (handle, sight))
      (found : ∀ deadline, sight ≠ .held deadline) (left : handle.wakeup.Left ticket wakeup) :
      Move receivers system
        (({ system with handle }.withWakeup wakeup).withStage ticket .away)
  /-- A receiver sees its wake-up. -/
  | wake {ticket : Nat} {taken : Bool} {alarm : Option Ticks}
      (parked : system.stage ticket = .parked taken alarm)
      (noticed : taken = true ∨ ticket ∈ system.handle.wakeup.woken) :
      Move receivers system
        ((system.withWakeup (system.handle.wakeup.resume ticket)).withStage ticket .starting)
  /-- The alarm of a receiver goes off, at its deadline or later. -/
  | ring {ticket : Nat} {taken : Bool} {deadline : Ticks} {wakeup : Wakeup}
      (parked : system.stage ticket = .parked taken (some deadline))
      (due : deadline ≤ system.now) (left : system.handle.wakeup.Left ticket wakeup) :
      Move receivers system ((system.withWakeup wakeup).withStage ticket .starting)

/-- A system is reached by moves from a fresh shaper that no receiver waits for. -/
inductive Reached (receivers : Nat) : System P C → Prop where
  | created {configuration : Configuration} {channel : C} {now : Ticks} {station : Station P C}
      (nonneg : 0 ≤ now)
      (created : Station.create configuration channel now = .ok (.ok station)) :
      Reached receivers { handle := { station }, now }
  | moved {system after : System P C} (reached : Reached receivers system)
      (move : system.Move receivers after) : Reached receivers after

end System

namespace Wakeup

/-- The tickets on the lists are those that are told, each of them once. -/
structure Lists (wakeup : Wakeup) (listed : Nat → Bool) : Prop where
  distinct : (wakeup.waiting ++ wakeup.woken).Nodup
  mem_iff : ∀ ticket, ticket ∈ wakeup.waiting ++ wakeup.woken ↔ listed ticket = true

variable {wakeup after : Wakeup} {listed : Nat → Bool} {ticket : Nat}

theorem Lists.of_perm (lists : wakeup.Lists listed)
    (same : (after.waiting ++ after.woken).Perm (wakeup.waiting ++ wakeup.woken)) :
    after.Lists listed where
  distinct := same.nodup_iff.mpr lists.distinct
  mem_iff ticket := same.mem_iff.trans (lists.mem_iff ticket)

theorem Lists.notifyOne (lists : wakeup.Lists listed) : wakeup.notifyOne.Lists listed := by
  refine lists.of_perm ?_
  unfold Wakeup.notifyOne
  split
  · exact .refl _
  · rename_i first rest shape
    rw [shape, ← List.append_assoc]
    exact List.perm_append_singleton first (rest ++ wakeup.woken)

theorem Lists.send (lists : wakeup.Lists listed) (signal : Signal) :
    (signal.send wakeup).Lists listed := by
  cases signal with
  | nobody => exact lists
  | one => exact lists.notifyOne
  | everybody =>
      refine lists.of_perm ?_
      change (wakeup.woken ++ wakeup.waiting).Perm _
      exact List.perm_append_comm

/-- A receiver that waits is on the lists, and one that took the kept wake-up is not. -/
theorem Lists.enable (lists : wakeup.Lists listed) (absent : listed ticket = false) :
    (wakeup.enable ticket).1.Lists
      (Function.update listed ticket (!(wakeup.enable ticket).2)) := by
  unfold Wakeup.enable
  split
  · rw [Bool.not_true, ← absent, Function.update_eq_self]
    exact ⟨lists.distinct, lists.mem_iff⟩
  · have unlisted : ticket ∉ wakeup.waiting ++ wakeup.woken := by
      rw [lists.mem_iff, absent]
      exact Bool.false_ne_true
    have longer : (wakeup.waiting ++ [ticket] ++ wakeup.woken).Perm
        (ticket :: (wakeup.waiting ++ wakeup.woken)) := by
      rw [List.append_assoc, List.singleton_append]
      exact List.perm_middle
    constructor
    · exact longer.nodup_iff.mpr (List.nodup_cons.mpr ⟨unlisted, lists.distinct⟩)
    · intro other
      rw [longer.mem_iff, List.mem_cons, lists.mem_iff]
      by_cases same : other = ticket
      · simp [same]
      · simp [same]

theorem Lists.resume (lists : wakeup.Lists listed) (ticket : Nat) :
    (wakeup.resume ticket).Lists (Function.update listed ticket false) := by
  have distinct := List.nodup_append.mp lists.distinct
  obtain ⟨waiting, woken, apart⟩ := distinct
  constructor
  · refine List.nodup_append.mpr ⟨waiting.erase ticket, woken.erase ticket, ?_⟩
    intro first inWaiting second inWoken
    exact apart first (List.mem_of_mem_erase inWaiting) second (List.mem_of_mem_erase inWoken)
  · intro other
    rw [Wakeup.resume, List.mem_append, waiting.mem_erase_iff, woken.mem_erase_iff,
      ← and_or_left, ← List.mem_append, lists.mem_iff]
    by_cases same : other = ticket
    · simp [same]
    · simp [same]

theorem Lists.left (lists : wakeup.Lists listed) (left : wakeup.Left ticket after) :
    after.Lists (Function.update listed ticket false) := by
  have resumed := lists.resume ticket
  rcases left with rfl | rfl
  · exact resumed
  · unfold withdraw
    split
    · exact resumed.notifyOne
    · exact resumed

/-- No more than one wake-up is kept. -/
theorem enable_again (taken : (wakeup.enable ticket).2 = true) (other : Nat) :
    ((wakeup.enable ticket).1.enable other).2 = false := by
  unfold Wakeup.enable at *
  cases kept : wakeup.kept <;> simp [kept] at *

/-- A receiver that is not on the lists can run again without a change to them. -/
theorem Lists.resume_eq (lists : wakeup.Lists listed) (absent : listed ticket = false) :
    wakeup.resume ticket = wakeup := by
  have unlisted : ticket ∉ wakeup.waiting ++ wakeup.woken := by
    rw [lists.mem_iff, absent]
    exact Bool.false_ne_true
  rw [List.mem_append, not_or] at unlisted
  rw [Wakeup.resume, List.erase_of_not_mem unlisted.1, List.erase_of_not_mem unlisted.2]

end Wakeup

namespace System

variable {P C : Type} [Packet P] [Delivery.Channel C] {receivers : Nat} {system after : System P C}

/-- The lists of the wake-ups hold the receivers that wait for one, each of them once. -/
def Listed (system : System P C) : Prop :=
  system.handle.wakeup.Lists (Stage.listed ∘ system.stage)

omit [Packet P] [Delivery.Channel C] in
theorem listed_withStage {ticket : Nat} {stage : Stage} :
    (system.withStage ticket stage).Listed ↔
      system.handle.wakeup.Lists
        (Function.update (Stage.listed ∘ system.stage) ticket stage.listed) := by
  rw [← Function.comp_update]
  rfl

omit [Packet P] [Delivery.Channel C] in
/-- A receiver may come to another stage if that is on the lists like the one before. -/
theorem Listed.withStage (listed : system.Listed) {ticket : Nat} {stage : Stage}
    (same : stage.listed = (system.stage ticket).listed) :
    (system.withStage ticket stage).Listed := by
  rw [listed_withStage, same]
  change system.handle.wakeup.Lists
    (Function.update (Stage.listed ∘ system.stage) ticket ((Stage.listed ∘ system.stage) ticket))
  rw [Function.update_eq_self]
  exact listed

end System

namespace Handle

variable {P C : Type} [Packet P] [Delivery.Channel C] {handle after : Handle P C}

theorem hold_eq {event : Event P} {reply : Reply P}
    (held : handle.hold event = .ok (after, reply)) :
    ∃ station, handle.station.step event = .ok (station, reply) ∧
      after = { handle with station } := by
  obtain ⟨⟨station, answer⟩, stepped, same⟩ := bind_eq_ok.mp held
  obtain ⟨rfl, rfl⟩ := Prod.mk.inj (Except.ok.inj same)
  exact ⟨station, stepped, rfl⟩

/-- To look at a shaper is to take its head, unless the shaper is destroyed. -/
inductive LookCase (handle : Handle P C) (now : Ticks) : Handle P C → Sight P → Prop where
  | destroyed (detached : handle.station.shaper.attached = false) :
      LookCase handle now handle .destroyed
  | released {shaper : Shaper P} {packet : P} (attached : handle.station.shaper.attached = true)
      (dequeued : handle.station.shaper.dequeue now = .ok (shaper, some packet)) :
      LookCase handle now { handle with station := { handle.station with shaper } }
        (.released packet)
  | held {shaper : Shaper P} (attached : handle.station.shaper.attached = true)
      (dequeued : handle.station.shaper.dequeue now = .ok (shaper, none)) :
      LookCase handle now { handle with station := { handle.station with shaper } }
        (.held shaper.timer.deadline)

omit [Delivery.Channel C] in
theorem look_cases {now : Ticks} {sight : Sight P}
    (looked : handle.look now = .ok (after, sight)) : handle.LookCase now after sight := by
  unfold look at looked
  split at looked
  · rename_i detached
    obtain ⟨rfl, rfl⟩ := Prod.mk.inj (Except.ok.inj looked)
    exact .destroyed (by simpa using detached)
  · rename_i alive
    have attached : handle.station.shaper.attached = true := by simpa using alive
    obtain ⟨⟨shaper, answer⟩, dequeued, same⟩ := bind_eq_ok.mp looked
    cases answer with
    | none =>
        obtain ⟨rfl, rfl⟩ := Prod.mk.inj (Except.ok.inj same)
        exact .held attached dequeued
    | some packet =>
        obtain ⟨rfl, rfl⟩ := Prod.mk.inj (Except.ok.inj same)
        exact .released attached dequeued

omit [Delivery.Channel C] in
/-- To look at a shaper has no part in the wake-ups. -/
theorem look_wakeup {now : Ticks} {sight : Sight P}
    (looked : handle.look now = .ok (after, sight)) : after.wakeup = handle.wakeup := by
  cases look_cases looked <;> rfl

omit [Delivery.Channel C] in
theorem look_consistent {now : Ticks} {sight : Sight P}
    (looked : handle.look now = .ok (after, sight))
    (consistent : handle.station.shaper.Consistent now) : after.station.shaper.Consistent now := by
  cases look_cases looked with
  | destroyed detached => exact consistent
  | released attached dequeued | held attached dequeued =>
      exact Shaper.dequeue_consistent consistent dequeued

end Handle

namespace System

variable {P C : Type} [Packet P] [Delivery.Channel C] {receivers : Nat} {system after : System P C}

/-- Whoever holds it and however the holds are ordered, the shaper stays consistent. -/
theorem Reached.inAgreement (reached : system.Reached receivers) :
    system.handle.station.shaper.Consistent system.now := by
  induction reached with
  | created nonneg created => exact Shaper.create_consistent nonneg (Station.create_eq created)
  | moved _ move ih =>
      cases move with
      | call held =>
          obtain ⟨station, stepped, rfl⟩ := Handle.hold_eq held
          exact Shaper.consistent_invariant.step (fun _ _ => trivial) ih stepped
      | wait order => exact ih.later order
      | park ready looked => exact Handle.look_consistent looked ih
      | leave ready looked found left =>
          have kept := Handle.look_consistent looked ih
          exact kept
      | send | receive | enable | wake | ring => exact ih

/-- The lists hold exactly the receivers that wait for a wake-up. -/
theorem Reached.listed (reached : system.Reached receivers) : system.Listed := by
  induction reached with
  | created nonneg created =>
      exact ⟨List.nodup_nil, fun ticket => by simp [Stage.listed]⟩
  | @moved system after _ move ih =>
      cases move with
      | call held =>
          obtain ⟨station, -, rfl⟩ := Handle.hold_eq held
          exact ih
      | send owed => exact ih.send _
      | wait order => exact ih
      | receive inside away =>
          refine ih.withStage ?_
          rw [away]
          rfl
      | @enable ticket starting =>
          have absent : (Stage.listed ∘ system.stage) ticket = false := by
            rw [Function.comp_apply, starting]
            rfl
          have waiting := Wakeup.Lists.enable ih absent
          exact listed_withStage.mpr waiting
      | park ready looked =>
          refine Listed.withStage ?_ ?_
          · change Wakeup.Lists _ _
            rw [Handle.look_wakeup looked]
            exact ih
          · rw [ready]
            rfl
      | leave ready looked found left =>
          rw [Handle.look_wakeup looked] at left
          exact listed_withStage.mpr (Wakeup.Lists.left ih left)
      | wake parked noticed => exact listed_withStage.mpr (Wakeup.Lists.resume ih _)
      | ring parked due left => exact listed_withStage.mpr (Wakeup.Lists.left ih left)

omit [Packet P] [Delivery.Channel C] in
theorem withStage_away {ticket other : Nat} {before stage : Stage}
    (away : system.stage other = .away) (reached : system.stage ticket = before)
    (busy : before ≠ .away) : (system.withStage ticket stage).stage other = .away := by
  refine (Function.update_of_ne ?_ _ _).trans away
  rintro rfl
  exact busy (reached.symm.trans away)

/-- There are no receivers beyond their number. -/
theorem Reached.away (reached : system.Reached receivers) {ticket : Nat}
    (outside : receivers ≤ ticket) : system.stage ticket = .away := by
  induction reached with
  | created nonneg created => rfl
  | moved _ move ih =>
      cases move with
      | call | send | wait => exact ih
      | receive inside away =>
          refine (Function.update_of_ne ?_ _ _).trans ih
          rintro rfl
          exact Nat.not_lt.mpr outside inside
      | enable starting => exact withStage_away ih starting nofun
      | park ready looked => exact withStage_away ih ready nofun
      | leave ready looked found left => exact withStage_away ih ready nofun
      | wake parked noticed => exact withStage_away ih parked nofun
      | ring parked due left => exact withStage_away ih parked nofun

/-- A caller sends what it owes. -/
theorem Reached.settle {handle : Handle P C} {signal : Signal} {unsent : List Signal}
    (reached : Reached receivers { system with handle, unsent := signal.owed ++ unsent }) :
    Reached receivers
      { system with handle := { handle with wakeup := signal.send handle.wakeup }, unsent } := by
  have sent (owing : signal.owed = [signal]) :
      Reached receivers
        { system with handle := { handle with wakeup := signal.send handle.wakeup }, unsent } := by
    rw [owing, List.singleton_append] at reached
    have moved := reached.moved (.send List.mem_cons_self)
    rwa [List.erase_cons_head] at moved
  cases signal with
  | nobody => exact reached
  | one | everybody => exact sent rfl

/-- An operation is a hold of the shaper and the wake-ups that it calls for. -/
theorem Reached.perform (reached : system.Reached receivers) {operation : Operation P}
    {draw : UInt64} {handle : Handle P C} {reply : Reply P}
    (done : system.handle.perform ⟨operation, system.now, draw⟩ = .ok (handle, reply)) :
    Reached receivers { system with handle } := by
  obtain ⟨⟨held, answer⟩, holding, same⟩ := bind_eq_ok.mp done
  obtain ⟨rfl, rfl⟩ := Prod.mk.inj (Except.ok.inj same)
  exact (reached.moved (.call holding)).settle

omit [Packet P] [Delivery.Channel C] in
theorem withStage_withStage (ticket : Nat) (first second : Stage) :
    (system.withStage ticket first).withStage ticket second =
      system.withStage ticket second := by
  simp only [withStage, Function.update_idem]

variable {ticket : Nat} {handle : Handle P C}

/-- A receiver that waits for a wake-up, looks and finds nothing sleeps. -/
theorem Reached.sleep (reached : system.Reached receivers)
    (starting : system.stage ticket = .starting) {taken : Bool} {deadline : Option Ticks}
    (kept : (system.handle.wakeup.enable ticket).2 = taken)
    (looked : (system.withWakeup (system.handle.wakeup.enable ticket).1).handle.look system.now =
      .ok (handle, .held deadline)) :
    Reached receivers ({ system with handle }.withStage ticket (.parked taken deadline)) := by
  subst kept
  have parked := (reached.moved (.enable starting)).moved
    (.park (withStage_self _ _ _) looked)
  rwa [← withStage_withStage]

/-- A receiver that waits for a wake-up, looks and finds something has its answer. -/
theorem Reached.answer (reached : system.Reached receivers)
    (starting : system.stage ticket = .starting) {sight : Sight P}
    (looked : (system.withWakeup (system.handle.wakeup.enable ticket).1).handle.look system.now =
      .ok (handle, sight)) (found : ∀ deadline, sight ≠ .held deadline) :
    Reached receivers
      ({ system with handle := { handle with wakeup := handle.wakeup.resume ticket } }.withStage
        ticket .away) := by
  have left := (reached.moved (.enable starting)).moved
    (.leave (withStage_self _ _ _) looked found (.inl rfl))
  rwa [← withStage_withStage]

omit [Packet P] [Delivery.Channel C] in
theorem Listed.unlisted {stage : Stage} (listed : (system.withStage ticket stage).Listed)
    (absent : stage.listed = false) :
    system.handle.wakeup.resume ticket = system.handle.wakeup := by
  refine Wakeup.Lists.resume_eq (listed_withStage.mp listed) ?_
  rw [Function.update_self, absent]

/-- A receiver that took the kept wake-up runs again. -/
theorem Reached.rouse {alarm : Option Ticks}
    (reached : Reached receivers (system.withStage ticket (.parked true alarm))) :
    Reached receivers (system.withStage ticket .starting) := by
  have unchanged := reached.listed.unlisted rfl
  have woken := reached.moved (.wake (withStage_self _ _ _) (.inl rfl))
  change Reached receivers
    (((system.withWakeup (system.handle.wakeup.resume ticket)).withStage ticket
      (.parked true alarm)).withStage ticket .starting) at woken
  rw [unchanged, withStage_withStage] at woken
  exact woken

/-- An attempt of a receiver is a sequence of its moves. A wake-up that was kept makes it see its
wake-up and look once more. -/
theorem Reached.attempt (reached : system.Reached receivers)
    (starting : system.stage ticket = .starting) {sight : Sight P}
    (done : system.handle.attempt ticket system.now = .ok (handle, sight)) :
    Reached receivers ({ system with handle }.withStage ticket sight.stage) := by
  have absent : (Stage.listed ∘ system.stage) ticket = false := by
    rw [Function.comp_apply, starting]
    rfl
  have unchanged := Wakeup.Lists.resume_eq reached.listed absent
  cases enabled : system.handle.wakeup.enable ticket with
  | mk wakeup taken =>
    simp only [Handle.attempt, unchanged, enabled] at done
    obtain ⟨⟨first, seen⟩, looked, done⟩ := bind_eq_ok.mp done
    replace looked : (system.withWakeup (system.handle.wakeup.enable ticket).1).handle.look
        system.now = .ok (first, seen) := by
      rw [enabled]
      exact looked
    cases seen with
    | destroyed | released =>
        obtain ⟨rfl, rfl⟩ := Prod.mk.inj (Except.ok.inj done)
        exact reached.answer starting looked nofun
    | held deadline =>
        have slept := reached.sleep starting (congrArg Prod.snd enabled) looked
        cases taken with
        | false =>
            obtain ⟨rfl, rfl⟩ := Prod.mk.inj (Except.ok.inj done)
            exact slept
        | true =>
            have idle : (first.wakeup.enable ticket).2 = false := by
              rw [Handle.look_wakeup looked]
              exact Wakeup.enable_again (by rw [enabled]) ticket
            have roused := slept.rouse
            obtain ⟨⟨second, last⟩, relooked, done⟩ := bind_eq_ok.mp done
            cases last with
            | destroyed | released =>
                obtain ⟨rfl, rfl⟩ := Prod.mk.inj (Except.ok.inj done)
                rw [← withStage_withStage]
                exact roused.answer (withStage_self _ _ _) relooked nofun
            | held deadline =>
                obtain ⟨rfl, rfl⟩ := Prod.mk.inj (Except.ok.inj done)
                rw [← withStage_withStage]
                exact roused.sleep (withStage_self _ _ _) idle relooked

end System

end TrafficShaper.Shared
