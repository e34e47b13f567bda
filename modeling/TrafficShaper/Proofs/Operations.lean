/-
What each operation of a shaper can do, guards included. Later proofs split an operation into
these cases and never open its definition.
-/

import TrafficShaper.Proofs.Backlog
import TrafficShaper.Shaper.Basic

namespace TrafficShaper

namespace Backlog

variable {P : Type} [Packet P] {backlog after : Backlog P} {packet : P}

/-- What can become of a packet that is offered to a backlog. -/
inductive OfferCase (backlog : Backlog P) (packet : P) : Backlog P → Admission P → Prop where
  | queued (room : backlog.full (Packet.length packet) = false) :
      OfferCase backlog packet (backlog.push packet) .queued
  | displaced {head : P} {rest : Backlog P}
      (full : backlog.full (Packet.length packet) = true)
      (discipline : backlog.discipline = .headDrop)
      (taken : backlog.takeHead = some (head, rest)) :
      OfferCase backlog packet (rest.push packet) (.displaced head)
  | rejected (full : backlog.full (Packet.length packet) = true)
      (stuck : backlog.discipline ≠ .headDrop ∨ backlog.packets = []) :
      OfferCase backlog packet backlog (.rejected packet)

theorem offer_cases (backlog : Backlog P) (packet : P) :
    backlog.OfferCase packet (backlog.offer packet).1 (backlog.offer packet).2 := by
  unfold offer
  split
  · rename_i full
    split
    · rename_i head rest discipline taken
      exact .displaced full discipline taken
    · rename_i other
      refine .rejected full ?_
      by_cases discipline : backlog.discipline = .headDrop
      · refine .inr (takeHead_eq_none.mp ?_)
        cases taken : backlog.takeHead with
        | none => rfl
        | some pair => exact absurd taken (other pair.1 pair.2 discipline)
      · exact .inl discipline
  · rename_i room
    exact .queued (Bool.eq_false_iff.mpr room)

end Backlog

namespace Congestion.Sampler

variable {sampler after : Sampler} {length : UInt32} {draw : UInt64}

/-- A packet that is counted adds its length to the occupancy and takes it off the countdown. The
feedback is clamped from the raw one at the new occupancy, and the level follows it. -/
theorem count_eq (counted : sampler.count length = .ok after) :
    ∃ feedback,
      clampWithin { sampler with occupancy := sampler.occupancy + length.toUInt64 }.rawFeedback
        (-sampler.settings.feedbackBound) 0 = .ok feedback ∧
      after = { sampler with
        occupancy := sampler.occupancy + length.toUInt64
        feedback
        level := sampler.quantize feedback
        countdown := sampler.countdown - Int64.ofNat length.toNat } := by
  unfold count at counted
  dsimp only at counted
  split at counted
  · contradiction
  · rename_i feedback clamped
    exact ⟨feedback, clamped, (Except.ok.inj counted).symm⟩

/-- A packet that is counted leaves the settings alone. -/
theorem count_frame (counted : sampler.count length = .ok after) :
    after.settings = sampler.settings ∧ after.shift = sampler.shift ∧
      after.topLevel = sampler.topLevel ∧
      after.occupancy = sampler.occupancy + length.toUInt64 := by
  obtain ⟨feedback, -, rfl⟩ := count_eq counted
  exact ⟨rfl, rfl, rfl, rfl⟩

/-- A sample changes the latch, the last sample and the countdown, and nothing else. -/
theorem sample_eq (sampled : sampler.sample draw = .ok after) :
    ∃ interval,
      sampler.settings.intervalAfter sampler.topLevel sampler.level draw = .ok interval ∧
      after = { sampler with
        pending := sampler.pending || decide (0 < sampler.level)
        lastSample := sampler.occupancy
        countdown := interval } := by
  unfold sample at sampled
  split at sampled
  · contradiction
  · rename_i interval found
    exact ⟨interval, found, (Except.ok.inj sampled).symm⟩

/-- An observed packet is counted, and completes a sample once the interval is used up. -/
theorem observe_cases (observed : sampler.observe length draw = .ok after) :
    ∃ counted, sampler.count length = .ok counted ∧
      ((¬ counted.countdown < 0 ∧ after = counted) ∨
        (counted.countdown < 0 ∧ counted.sample draw = .ok after)) := by
  unfold observe at observed
  split at observed
  · contradiction
  · rename_i counted found
    refine ⟨counted, found, ?_⟩
    split at observed
    · rename_i negative
      exact .inr ⟨negative, observed⟩
    · rename_i positive
      exact .inl ⟨positive, (Except.ok.inj observed).symm⟩

theorem observe_frame (observed : sampler.observe length draw = .ok after) :
    after.settings = sampler.settings ∧ after.shift = sampler.shift ∧
      after.topLevel = sampler.topLevel ∧
      after.occupancy = sampler.occupancy + length.toUInt64 := by
  obtain ⟨counted, found, ⟨-, rfl⟩ | ⟨-, sampled⟩⟩ := observe_cases observed
  · exact count_frame found
  · obtain ⟨interval, -, rfl⟩ := sample_eq sampled
    have frame := count_frame found
    exact frame

/-- A reset sampler keeps its settings and starts from their first interval. -/
theorem reset_eq (done : sampler.reset = .ok after) :
    ∃ countdown, sampler.settings.firstInterval = .ok countdown ∧
      after = { sampler with
        occupancy := 0
        lastSample := 0
        countdown
        pending := false
        feedback := 0
        level := 0 } := by
  unfold reset at done
  split at done
  · contradiction
  · rename_i countdown found
    exact ⟨countdown, found, (Except.ok.inj done).symm⟩

/-- A new sampler resolves the shift of its settings, and starts from their first interval. -/
theorem create_eq {settings : Settings} (created : create settings = .ok after) :
    ∃ shift countdown, settings.resolvedShift = .ok shift ∧
      settings.firstInterval = .ok countdown ∧
      after = { settings, shift, topLevel := settings.topLevel, countdown } := by
  obtain ⟨shift, resolved, created⟩ := bind_eq_ok.mp created
  obtain ⟨countdown, found, created⟩ := bind_eq_ok.mp created
  exact ⟨shift, countdown, resolved, found, (Except.ok.inj created).symm⟩

theorem reconfigure_eq {settings : Settings}
    (changed : sampler.reconfigure settings = .ok after) :
    ∃ shift countdown, settings.resolvedShift = .ok shift ∧
      settings.firstInterval = .ok countdown ∧
      after = { sampler with settings, shift, topLevel := settings.topLevel, countdown } := by
  obtain ⟨shift, resolved, changed⟩ := bind_eq_ok.mp changed
  obtain ⟨countdown, found, changed⟩ := bind_eq_ok.mp changed
  exact ⟨shift, countdown, resolved, found, (Except.ok.inj changed).symm⟩

end Congestion.Sampler

namespace Shaper

variable {P : Type} [Packet P] {shaper after : Shaper P} {now : Ticks}

/-- What can become of a packet that is offered to a shaper. -/
inductive AcceptCase (shaper : Shaper P) (packet : P) (draw : UInt64) :
    Shaper P → Except (Refusal P) (Option Dispatch) → Prop where
  | destroyed (detached : shaper.attached = false) :
      AcceptCase shaper packet draw shaper (.error ⟨packet, .destroyed⟩)
  | oversized (attached : shaper.attached = true)
      (large : shaper.bucket.admits (Packet.length packet) = false) :
      AcceptCase shaper packet draw
        { shaper with statistics := shaper.statistics.countOversized }
        (.error ⟨packet, .oversized (Packet.length packet) shaper.bucket.plan.largest⟩)
  | full (attached : shaper.attached = true)
      (fits : shaper.bucket.admits (Packet.length packet) = true)
      (offered : shaper.backlog.OfferCase packet shaper.backlog (.rejected packet)) :
      AcceptCase shaper packet draw
        { shaper with statistics := shaper.statistics.countDrop }
        (.error ⟨packet, .backlogFull⟩)
  | queued {backlog : Backlog P} {sampler : Congestion.Sampler}
      (attached : shaper.attached = true)
      (fits : shaper.bucket.admits (Packet.length packet) = true)
      (offered : shaper.backlog.OfferCase packet backlog .queued)
      (observed : shaper.sampler.observe (Packet.length packet) draw = .ok sampler) :
      AcceptCase shaper packet draw { shaper with backlog, sampler }
        (.ok (sampler.dispatch? (Packet.headers packet)))
  | displaced {backlog : Backlog P} {head : P} {sampler : Congestion.Sampler}
      (attached : shaper.attached = true)
      (fits : shaper.bucket.admits (Packet.length packet) = true)
      (offered : shaper.backlog.OfferCase packet backlog (.displaced head))
      (observed : (shaper.sampler.remove (Packet.length head)).observe
        (Packet.length packet) draw = .ok sampler) :
      AcceptCase shaper packet draw
        { shaper with backlog, sampler, statistics := shaper.statistics.countDrop }
        (.ok (sampler.dispatch? (Packet.headers packet)))

theorem accept_cases {packet : P} {draw : UInt64}
    {answer : Except (Refusal P) (Option Dispatch)}
    (accepted : shaper.accept packet draw = .ok (after, answer)) :
    shaper.AcceptCase packet draw after answer := by
  have offered := shaper.backlog.offer_cases packet
  unfold accept observe at accepted
  dsimp only at accepted
  split at accepted
  · rename_i detached
    simp only [Except.ok.injEq, Prod.mk.injEq] at accepted
    obtain ⟨rfl, rfl⟩ := accepted
    exact .destroyed (by simpa using detached)
  rename_i attached
  rw [Bool.not_eq_true', Bool.not_eq_false] at attached
  split at accepted
  · rename_i large
    simp only [Except.ok.injEq, Prod.mk.injEq] at accepted
    obtain ⟨rfl, rfl⟩ := accepted
    exact .oversized attached (by simpa using large)
  rename_i fits
  rw [Bool.not_eq_true', Bool.not_eq_false] at fits
  split at accepted
  · rename_i rest refused shape
    rw [shape] at offered
    simp only [Except.ok.injEq, Prod.mk.injEq] at accepted
    obtain ⟨rfl, rfl⟩ := accepted
    cases offered with
    | rejected full stuck => exact .full attached fits (.rejected full stuck)
  · rename_i backlog shape
    rw [shape] at offered
    split at accepted
    · contradiction
    · rename_i observing
      split at observing
      · contradiction
      · rename_i sampler observed
        simp only [Except.ok.injEq, Prod.mk.injEq] at observing accepted
        obtain ⟨rfl, rfl⟩ := observing
        obtain ⟨rfl, rfl⟩ := accepted
        exact .queued attached fits offered observed
  · rename_i backlog head shape
    rw [shape] at offered
    split at accepted
    · contradiction
    · rename_i observing
      split at observing
      · contradiction
      · rename_i sampler observed
        simp only [Except.ok.injEq, Prod.mk.injEq] at observing accepted
        obtain ⟨rfl, rfl⟩ := observing
        obtain ⟨rfl, rfl⟩ := accepted
        exact .displaced attached fits offered observed

/-- An offered packet is accepted first, and a dispatch that it brings about is delivered then. -/
theorem enqueue_cases {C : Type} [Delivery.Channel C] {channel channelAfter : C} {packet : P}
    {draw : UInt64} {result : Except (Refusal P) Unit}
    (enqueued : shaper.enqueue channel packet draw = .ok (after, channelAfter, result)) :
    ∃ accepted answer, shaper.accept packet draw = .ok (accepted, answer) ∧
      ((∃ refusal, answer = .error refusal ∧ after = accepted ∧ channelAfter = channel ∧
          result = .error refusal) ∨
        (answer = .ok none ∧ after = accepted ∧ channelAfter = channel ∧ result = .ok ()) ∨
        (∃ dispatch, answer = .ok (some dispatch) ∧
          after = accepted.settle (Delivery.Channel.deliver channel dispatch).2 ∧
          channelAfter = (Delivery.Channel.deliver channel dispatch).1 ∧ result = .ok ())) := by
  unfold enqueue at enqueued
  split at enqueued
  · contradiction
  all_goals
    rename_i accepting
    simp only [Except.ok.injEq, Prod.mk.injEq] at enqueued
    obtain ⟨rfl, rfl, rfl⟩ := enqueued
  · exact ⟨_, _, accepting, .inl ⟨_, rfl, rfl, rfl, rfl⟩⟩
  · exact ⟨_, _, accepting, .inr (.inl ⟨rfl, rfl, rfl, rfl⟩)⟩
  · exact ⟨_, _, accepting, .inr (.inr ⟨_, rfl, rfl, rfl, rfl⟩)⟩

/-- What can become of the head when it is asked for. -/
inductive DequeueCase (shaper : Shaper P) (now : Ticks) : Shaper P → Option P → Prop where
  | empty (nothing : shaper.backlog.packets = []) :
      DequeueCase shaper now { shaper with timer := shaper.timer.cancel } none
  | released {head : P} {backlog : Backlog P} {bucket : Bucket}
      (taken : shaper.backlog.takeHead = some (head, backlog))
      (ready : shaper.bucket.release (Packet.length head) now = .ok (bucket, .ready)) :
      DequeueCase shaper now
        { shaper with
          bucket
          backlog
          sampler := shaper.sampler.remove (Packet.length head)
          timer := shaper.timer.cancel
          statistics := shaper.statistics.countReleased (Packet.length head) }
        (some head)
  | refused {head : P} {backlog : Backlog P} {time : Ticks}
      (taken : shaper.backlog.takeHead = some (head, backlog))
      (waits : shaper.bucket.release (Packet.length head) now =
        .ok (shaper.bucket, .waitUntil time)) :
      DequeueCase shaper now
        { shaper with
          timer := shaper.timer.schedule time
          statistics := shaper.statistics.countOverlimit }
        none

theorem dequeue_cases {answer : Option P} (dequeued : shaper.dequeue now = .ok (after, answer)) :
    shaper.DequeueCase now after answer := by
  unfold dequeue at dequeued
  split at dequeued
  · rename_i nothing
    simp only [Except.ok.injEq, Prod.mk.injEq] at dequeued
    obtain ⟨rfl, rfl⟩ := dequeued
    exact .empty (Backlog.takeHead_eq_none.mp nothing)
  · rename_i head backlog taken
    dsimp only at dequeued
    split at dequeued
    · contradiction
    · rename_i bucket ready
      simp only [Except.ok.injEq, Prod.mk.injEq] at dequeued
      obtain ⟨rfl, rfl⟩ := dequeued
      exact .released taken ready
    · rename_i bucket time waits
      simp only [Except.ok.injEq, Prod.mk.injEq] at dequeued
      obtain ⟨rfl, rfl⟩ := dequeued
      have unchanged := Bucket.release_waitUntil_unchanged waits
      subst unchanged
      exact .refused taken waits

/-- The tail leaves the backlog and the occupancy, unless there is none. -/
theorem dropOne_cases (shaper : Shaper P) :
    (shaper.backlog.packets = [] ∧ shaper.dropOne = (shaper, none)) ∨
      ∃ tail backlog, shaper.backlog.dropTail = some (tail, backlog) ∧
        shaper.dropOne =
          ({ shaper with
              backlog
              sampler := shaper.sampler.remove (Packet.length tail)
              statistics := shaper.statistics.countDrop },
            some (Packet.length tail)) := by
  unfold dropOne
  split
  · rename_i nothing
    exact .inl ⟨(Backlog.dropTail_isNone _).mp nothing, rfl⟩
  · rename_i tail backlog dropped
    exact .inr ⟨tail, backlog, dropped, rfl⟩

omit [Packet P] in
theorem reset_eq (done : shaper.reset now = .ok after) :
    ∃ sampler, shaper.sampler.reset = .ok sampler ∧
      after = { shaper with
        sampler
        backlog := shaper.backlog.clear.1
        bucket := shaper.bucket.reset now
        timer := shaper.timer.cancel } := by
  unfold reset at done
  split at done
  · contradiction
  · rename_i sampler emptied
    exact ⟨sampler, emptied, (Except.ok.inj done).symm⟩

omit [Packet P] in
/-- A shaper that is torn down lets its backlog go and is detached. -/
theorem teardown_cases {answer : Bool} (done : shaper.teardown = .ok (after, answer)) :
    (shaper.attached = false ∧ after = shaper ∧ answer = false) ∨
      ∃ sampler, shaper.attached = true ∧ shaper.sampler.reset = .ok sampler ∧ answer = true ∧
        after = { shaper with
          sampler
          backlog := shaper.backlog.clear.1
          timer := shaper.timer.cancel
          attached := false } := by
  unfold teardown at done
  split at done
  · rename_i attached
    split at done
    · contradiction
    · rename_i sampler emptied
      simp only [Except.ok.injEq, Prod.mk.injEq] at done
      obtain ⟨rfl, rfl⟩ := done
      exact .inr ⟨sampler, attached, emptied, rfl, rfl⟩
  · rename_i detached
    simp only [Except.ok.injEq, Prod.mk.injEq] at done
    obtain ⟨rfl, rfl⟩ := done
    exact .inl ⟨by simpa using detached, rfl, rfl⟩

/-- The shaper with the limit of a new plan and without what the plan can never release. -/
def relimited (shaper : Shaper P) (plan : Plan) : Shaper P :=
  let kept := shaper.dropOversized plan.largest
  { kept with backlog := kept.backlog.relimit plan.discipline plan.limit }

/-- The shaper trimmed to a new plan. -/
def fitted (shaper : Shaper P) (plan : Plan) : Shaper P := (shaper.relimited plan).trim

/-- What can become of a new configuration. -/
inductive ReconfigureCase (shaper : Shaper P) (configuration : Configuration) (now : Ticks) :
    Shaper P → Except ReconfigureError Unit → Prop where
  | destroyed (detached : shaper.attached = false) :
      ReconfigureCase shaper configuration now shaper (.error .destroyed)
  | invalid {error : ConfigurationError} (attached : shaper.attached = true)
      (refused : configuration.plan = .error error) :
      ReconfigureCase shaper configuration now shaper (.error (.invalid error))
  | applied {plan : Plan} {sampler : Congestion.Sampler} (attached : shaper.attached = true)
      (accepted : configuration.plan = .ok plan)
      (changed : (shaper.fitted plan).sampler.reconfigure configuration.congestion =
        .ok sampler) :
      ReconfigureCase shaper configuration now
        { shaper.fitted plan with
          configuration
          sampler
          bucket := Bucket.full plan now
          timer := (shaper.fitted plan).timer.cancel }
        (.ok ())

theorem reconfigure_cases {configuration : Configuration}
    {answer : Except ReconfigureError Unit}
    (done : shaper.reconfigure configuration now = .ok (after, answer)) :
    shaper.ReconfigureCase configuration now after answer := by
  unfold reconfigure at done
  split at done
  · rename_i detached
    simp only [Except.ok.injEq, Prod.mk.injEq] at done
    obtain ⟨rfl, rfl⟩ := done
    exact .destroyed (by simpa using detached)
  rename_i attached
  rw [Bool.not_eq_true', Bool.not_eq_false] at attached
  split at done
  · rename_i error refused
    simp only [Except.ok.injEq, Prod.mk.injEq] at done
    obtain ⟨rfl, rfl⟩ := done
    exact .invalid attached refused
  · rename_i plan accepted
    dsimp only at done
    split at done
    · contradiction
    · rename_i sampler changed
      simp only [Except.ok.injEq, Prod.mk.injEq] at done
      obtain ⟨rfl, rfl⟩ := done
      exact .applied attached accepted changed

/-- An accepted configuration takes effect once the sampler has taken its settings. -/
theorem reconfigure_of_plan {configuration : Configuration} {plan : Plan}
    (attached : shaper.attached = true) (accepted : configuration.plan = .ok plan) (now : Ticks) :
    shaper.reconfigure configuration now =
      ((shaper.fitted plan).sampler.reconfigure configuration.congestion).map fun sampler =>
        ({ shaper.fitted plan with
            configuration
            sampler
            bucket := Bucket.full plan now
            timer := (shaper.fitted plan).timer.cancel },
          .ok ()) := by
  simp only [reconfigure, fitted, relimited, attached, accepted, Bool.not_true,
    Bool.false_eq_true, if_false]
  cases Congestion.Sampler.reconfigure _ configuration.congestion <;> rfl

omit [Packet P] in
/-- A new shaper has full buckets, an empty backlog and a new sampler. -/
theorem create_eq {configuration : Configuration}
    (created : Shaper.create configuration now = .ok (.ok shaper)) :
    ∃ plan sampler, configuration.plan = .ok plan ∧
      Congestion.Sampler.create configuration.congestion = .ok sampler ∧
      shaper =
        { configuration, sampler
          bucket := Bucket.full plan now
          backlog := Backlog.empty plan.discipline plan.limit } := by
  unfold create at created
  split at created
  · simp at created
  · rename_i plan accepted
    split at created
    · contradiction
    · rename_i sampler made
      simp only [Except.ok.injEq] at created
      exact ⟨plan, sampler, accepted, made, created.symm⟩

/-- An oversized packet leaves the occupancy. -/
def forget (shaper : Shaper P) (packet : P) : Shaper P :=
  { shaper with
    sampler := shaper.sampler.remove (Packet.length packet)
    statistics := shaper.statistics.countOversized }

theorem dropOversized_eq (shaper : Shaper P) (largest : UInt32) :
    shaper.dropOversized largest =
      (shaper.backlog.oversized largest).foldl forget
        { shaper with backlog := (shaper.backlog.dropOversized largest).2 } := rfl

/-- Forgetting packets changes the occupancy and the counters, and nothing else. -/
theorem foldl_forget_eq (packets : List P) (shaper : Shaper P) :
    packets.foldl forget shaper =
      { shaper with
        sampler := packets.foldl (fun sampler packet => sampler.remove (Packet.length packet))
          shaper.sampler
        statistics := packets.foldl (fun statistics _ => statistics.countOversized)
          shaper.statistics } := by
  induction packets generalizing shaper with
  | nil => rfl
  | cons packet rest ih => exact ih (shaper.forget packet)

/-- Each property that a drop from the tail keeps is kept by trimming. -/
theorem trimUpTo_keeps {Holds : Shaper P → Prop}
    (kept : ∀ shaper, Holds shaper → Holds shaper.dropOne.1) (count : Nat)
    (holds : Holds shaper) : Holds (shaper.trimUpTo count) := by
  induction count generalizing shaper with
  | zero => exact holds
  | succ count ih =>
      rw [trimUpTo]
      split
      · exact ih (kept shaper holds)
      · exact holds

/-- Where packets were only dropped, nothing but the backlog, the occupancy and the counters of
drops is different. -/
def Pruned (shaper after : Shaper P) : Prop :=
  after =
    { shaper with
      backlog := after.backlog
      sampler := { shaper.sampler with occupancy := after.sampler.occupancy }
      statistics := { shaper.statistics with
        drops := after.statistics.drops
        oversized := after.statistics.oversized } }

omit [Packet P] in
theorem Pruned.trans {middle : Shaper P} (first : shaper.Pruned middle)
    (second : middle.Pruned after) : shaper.Pruned after := by
  unfold Pruned at *
  rw [first] at second
  exact second

theorem dropOne_pruned (shaper : Shaper P) : shaper.Pruned shaper.dropOne.1 := by
  rcases shaper.dropOne_cases with ⟨-, same⟩ | ⟨tail, backlog, -, same⟩
  · rw [same]
    rfl
  · rw [same]
    rfl

theorem foldl_forget_pruned (packets : List P) (shaper : Shaper P) :
    shaper.Pruned (packets.foldl forget shaper) := by
  induction packets generalizing shaper with
  | nil => rfl
  | cons packet rest ih =>
      have first : shaper.Pruned (shaper.forget packet) := rfl
      exact first.trans (ih _)

/-- What is oversized is dropped, and the limit is replaced. -/
theorem relimited_pruned (shaper : Shaper P) (plan : Plan) :
    shaper.Pruned (shaper.relimited plan) := by
  have parted : shaper.Pruned
      { shaper with backlog := (shaper.backlog.dropOversized plan.largest).2 } := rfl
  have relimited : (shaper.dropOversized plan.largest).Pruned (shaper.relimited plan) := rfl
  exact (parted.trans (foldl_forget_pruned _ _)).trans relimited

/-- A change of the plan only drops packets. -/
theorem fitted_pruned (shaper : Shaper P) (plan : Plan) : shaper.Pruned (shaper.fitted plan) :=
  trimUpTo_keeps (fun trimmed pruned => pruned.trans trimmed.dropOne_pruned) _
    (shaper.relimited_pruned plan)

end Shaper

end TrafficShaper
