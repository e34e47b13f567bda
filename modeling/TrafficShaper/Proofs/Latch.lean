/-
The latch for congestion notices. It is set by a sample that finds congestion, and only a delivery
that succeeds, a reset or a teardown clears it. Each packet that is let in while it is set, and
that shows network addresses, brings about one call of the channel, and nothing else does.
-/

import TrafficShaper.Delivery.Queue
import TrafficShaper.Proofs.History

namespace TrafficShaper

namespace Delivery

/-- A channel with a log of the calls to it, the first call first. -/
structure Logged (C : Type) where
  channel : C
  calls : List (Dispatch × Outcome) := []

instance {C : Type} [Channel C] : Channel (Logged C) where
  deliver logged dispatch :=
    let (channel, outcome) := Channel.deliver logged.channel dispatch
    ({ channel, calls := logged.calls ++ [(dispatch, outcome)] }, outcome)
  counters logged := Channel.counters logged.channel

end Delivery

open Delivery (Logged)

variable {P C : Type}

/-- A station whose channel has a log is a station without it. -/
def Station.unlogged (station : Station P (Logged C)) : Station P C where
  shaper := station.shaper
  channel := station.channel.channel

/-- The same step without the log. -/
def Transition.unlogged (transition : Transition P (Logged C)) : Transition P C where
  before := transition.before.unlogged
  event := transition.event
  reply := transition.reply
  after := transition.after.unlogged

section Logging

variable [Packet P] [Delivery.Channel C]

/-- A log changes nothing in what a station does. -/
theorem Station.step_unlogged (station : Station P (Logged C)) (event : Event P) :
    station.unlogged.step event =
      (station.step event).map fun result => (result.1.unlogged, result.2) := by
  obtain ⟨operation, now, draw⟩ := event
  cases operation with
  | enqueue packet =>
      simp only [step, unlogged, Shaper.enqueue]
      cases station.shaper.accept packet draw with
      | error fault => rfl
      | ok result =>
          obtain ⟨shaper, answer⟩ := result
          cases answer with
          | error refusal => rfl
          | ok dispatch => cases dispatch <;> rfl
  | dequeue =>
      simp only [step, unlogged]
      cases station.shaper.dequeue now <;> rfl
  | peek => rfl
  | dropOne => rfl
  | reset =>
      simp only [step, unlogged]
      cases station.shaper.reset now <;> rfl
  | reconfigure configuration =>
      simp only [step, unlogged]
      cases station.shaper.reconfigure configuration now <;> rfl
  | teardown =>
      simp only [step, unlogged]
      cases station.shaper.teardown <;> rfl

/-- Every past can be told with a log. -/
theorem Station.Past.logged {station : Station P C} {past : List (Transition P C)}
    (led : station.Past past) :
    ∃ (twin : Station P (Logged C)) (history : List (Transition P (Logged C))),
      twin.Past history ∧ twin.unlogged = station ∧
        history.map Transition.unlogged = past := by
  induction led with
  | @created configuration channel now station made =>
      have twinMade : create configuration ({ channel := station.channel } : Logged C) now =
          .ok (.ok ⟨station.shaper, { channel := station.channel }⟩) := by
        rw [create, create_eq made]
      exact ⟨_, [], .created twinMade, rfl, rfl⟩
  | @stepped station after past event reply led step ih =>
      obtain ⟨twin, history, twinLed, rfl, rfl⟩ := ih
      rw [step_unlogged] at step
      cases answered : twin.step event with
      | error fault =>
          rw [answered] at step
          contradiction
      | ok result =>
          obtain ⟨next, answer⟩ := result
          rw [answered] at step
          obtain ⟨rfl, rfl⟩ := Prod.mk.inj (Except.ok.inj step)
          exact ⟨next, _, .stepped twinLed answered, rfl, List.map_append⟩

end Logging

namespace Congestion.Sampler

variable {sampler after : Sampler} {length : UInt32}

@[simp] theorem remove_pending (sampler : Sampler) (length : UInt32) :
    (sampler.remove length).pending = sampler.pending := rfl

@[simp] theorem remove_countdown (sampler : Sampler) (length : UInt32) :
    (sampler.remove length).countdown = sampler.countdown := rfl

theorem count_latch (counted : sampler.count length = .ok after) :
    after.pending = sampler.pending ∧
      after.countdown = sampler.countdown - Int64.ofNat length.toNat := by
  obtain ⟨feedback, -, rfl⟩ := count_eq counted
  exact ⟨rfl, rfl⟩

/-- A packet latches a notice when it uses up the interval and the level is above zero. -/
theorem observe_latch {draw : UInt64} (observed : sampler.observe length draw = .ok after) :
    after.pending = (sampler.pending ||
      decide (sampler.countdown - Int64.ofNat length.toNat < 0 ∧ 0 < after.level)) := by
  obtain ⟨counted, found, ⟨more, rfl⟩ | ⟨used, sampled⟩⟩ := observe_cases observed
  · obtain ⟨pending, countdown⟩ := count_latch found
    rw [countdown] at more
    simp [pending, more]
  · obtain ⟨pending, countdown⟩ := count_latch found
    obtain ⟨interval, -, rfl⟩ := sample_eq sampled
    rw [countdown] at used
    simp [pending, used]

theorem dispatch?_isSome (sampler : Sampler) (headers : Headers) :
    (sampler.dispatch? headers).isSome = (sampler.pending && headers.network.isSome) := by
  unfold dispatch?
  cases sampler.pending <;> cases headers.network <;> rfl

end Congestion.Sampler

variable [Packet P]

/-- The latch and what depends on it are as before. -/
structure Shaper.Undisturbed (shaper after : Shaper P) : Prop where
  pending : after.sampler.pending = shaper.sampler.pending
  sent : after.statistics.noticesSent = shaper.statistics.noticesSent
  failed : after.statistics.noticesFailed = shaper.statistics.noticesFailed
  attached : after.attached = shaper.attached

namespace Shaper

variable {shaper after : Shaper P} {now : Ticks}

omit [Packet P] in
theorem Undisturbed.refl (shaper : Shaper P) : shaper.Undisturbed shaper :=
  ⟨rfl, rfl, rfl, rfl⟩

omit [Packet P] in
theorem Pruned.undisturbed (pruned : shaper.Pruned after) : shaper.Undisturbed after := by
  rw [pruned]
  exact ⟨rfl, rfl, rfl, rfl⟩

theorem dequeue_undisturbed {answer : Option P}
    (dequeued : shaper.dequeue now = .ok (after, answer)) : shaper.Undisturbed after := by
  cases dequeue_cases dequeued <;> exact ⟨rfl, rfl, rfl, rfl⟩

theorem reconfigure_undisturbed {configuration : Configuration}
    {answer : Except ReconfigureError Unit}
    (done : shaper.reconfigure configuration now = .ok (after, answer)) :
    shaper.Undisturbed after := by
  cases reconfigure_cases done with
  | destroyed detached => exact .refl shaper
  | invalid attached refused => exact .refl shaper
  | @applied plan sampler attached accepted changed =>
      have fitted := (shaper.fitted_pruned plan).undisturbed
      obtain ⟨shift, countdown, -, -, rfl⟩ := Congestion.Sampler.reconfigure_eq changed
      exact ⟨fitted.pending, fitted.sent, fitted.failed, fitted.attached⟩

/-- A packet that is let in may latch a notice, and a dispatch goes to a latched packet with network
addresses. -/
theorem accept_latch {packet : P} {draw : UInt64} {dispatch : Option Dispatch}
    (accepted : shaper.accept packet draw = .ok (after, .ok dispatch)) :
    after.sampler.pending = (shaper.sampler.pending ||
        decide (shaper.sampler.countdown - Int64.ofNat (Packet.length packet).toNat < 0 ∧
          0 < after.sampler.level)) ∧
      dispatch = after.sampler.dispatch? (Packet.headers packet) ∧
      after.statistics.noticesSent = shaper.statistics.noticesSent ∧
      after.statistics.noticesFailed = shaper.statistics.noticesFailed := by
  cases accept_cases accepted with
  | queued attached fits offered observed =>
      exact ⟨Congestion.Sampler.observe_latch observed, rfl, rfl, rfl⟩
  | displaced attached fits offered observed =>
      have latch := Congestion.Sampler.observe_latch observed
      rw [Congestion.Sampler.remove_pending, Congestion.Sampler.remove_countdown] at latch
      exact ⟨latch, rfl, rfl, rfl⟩

theorem accept_refused_undisturbed {packet : P} {draw : UInt64} {refusal : Refusal P}
    (accepted : shaper.accept packet draw = .ok (after, .error refusal)) :
    shaper.Undisturbed after := by
  cases accept_cases accepted with
  | destroyed detached => exact .refl shaper
  | oversized attached large => exact ⟨rfl, rfl, rfl, rfl⟩
  | full attached fits offered => exact ⟨rfl, rfl, rfl, rfl⟩

omit [Packet P] in
/-- A delivery that succeeds clears the latch, and one that fails keeps it; either is counted. -/
theorem settle_latch (latched : shaper.sampler.pending = true) (outcome : Delivery.Outcome) :
    (shaper.settle outcome).sampler.pending = !outcome.isOk ∧
      (shaper.settle outcome).sampler.level = shaper.sampler.level ∧
      (shaper.settle outcome).statistics.noticesSent =
        shaper.statistics.noticesSent + (if outcome.isOk then 1 else 0) ∧
      (shaper.settle outcome).statistics.noticesFailed =
        shaper.statistics.noticesFailed + (if outcome.isOk then 0 else 1) := by
  cases outcome with
  | ok _ => exact ⟨rfl, rfl, rfl, (UInt64.add_zero _).symm⟩
  | error _ => exact ⟨latched, rfl, (UInt64.add_zero _).symm, rfl⟩

/-- No notice is latched in a shaper that was destroyed. -/
theorem silent_invariant :
    Invariant (P := P) (fun _ => True)
      (fun shaper _ => shaper.attached = false → shaper.sampler.pending = false) where
  later silent _ := silent
  accepted := by
    intro shaper after now packet draw answer silent accepted detached
    cases accept_cases accepted with
    | destroyed _ => exact silent detached
    | oversized attached | full attached | queued attached | displaced attached =>
        rw [attached] at detached
        contradiction
  settled := by
    intro shaper now outcome silent detached
    cases outcome with
    | ok _ => rfl
    | error _ => exact silent detached
  dequeued := by
    intro shaper after now answer silent dequeued detached
    have same := dequeue_undisturbed dequeued
    rw [same.pending]
    exact silent (same.attached ▸ detached)
  dropped := by
    intro shaper now silent detached
    have same := shaper.dropOne_pruned.undisturbed
    rw [same.pending]
    exact silent (same.attached ▸ detached)
  reset := by
    intro shaper after now _ done _
    obtain ⟨sampler, emptied, rfl⟩ := reset_eq done
    obtain ⟨countdown, -, rfl⟩ := Congestion.Sampler.reset_eq emptied
    rfl
  reconfigured := by
    intro shaper after now configuration answer _ silent done detached
    have same := reconfigure_undisturbed done
    rw [same.pending]
    exact silent (same.attached ▸ detached)
  tornDown := by
    intro shaper after now answer silent done detached
    rcases teardown_cases done with ⟨_, rfl, -⟩ | ⟨sampler, -, emptied, -, rfl⟩
    · exact silent detached
    · obtain ⟨countdown, -, rfl⟩ := Congestion.Sampler.reset_eq emptied
      rfl

end Shaper

namespace Transition

/-- A packet was let in and used up the interval at a level above zero. -/
def congested (transition : Transition P C) : Bool :=
  match transition.accepted? with
  | none => false
  | some packet =>
      transition.before.shaper.sampler.countdown - Int64.ofNat (Packet.length packet).toNat < 0 ∧
        0 < transition.after.shaper.sampler.level

/-- A packet with network addresses was let in and found a notice latched after its own sample. -/
def notifies (transition : Transition P C) : Bool :=
  match transition.accepted? with
  | none => false
  | some packet =>
      (Packet.headers packet).network.isSome &&
        (transition.before.shaper.sampler.pending || transition.congested)

/-- The calls of the channel in a step. -/
def calls (transition : Transition P (Logged C)) : List (Dispatch × Delivery.Outcome) :=
  transition.after.channel.calls.drop transition.before.channel.calls.length

/-- The number of deliveries in a step that succeeded. -/
def sent (transition : Transition P (Logged C)) : Nat :=
  transition.calls.countP fun call => call.2.isOk

/-- The number of deliveries in a step that failed. -/
def failed (transition : Transition P (Logged C)) : Nat :=
  transition.calls.countP fun call => !call.2.isOk

omit [Packet P] in
/-- A delivery succeeds or fails. -/
theorem sum_sent_add_sum_failed (past : List (Transition P (Logged C))) :
    (past.map sent).sum + (past.map failed).sum = (past.flatMap calls).length := by
  induction past with
  | nil => rfl
  | cons transition rest ih =>
      have either : transition.calls.length = transition.sent + transition.failed := by
        simpa [sent, failed] using
          transition.calls.length_eq_countP_add_countP fun call => call.2.isOk
      rw [List.flatMap_cons, List.length_append, either, ← ih, List.map_cons, List.map_cons,
        List.sum_cons, List.sum_cons]
      omega

/-- A reset and a teardown forget what was latched. -/
def forgets (transition : Transition P C) : Bool :=
  match transition.event.operation with
  | .reset | .teardown => true
  | _ => false

/-- The latch is cleared by a delivery that succeeds, and by a reset or a teardown. -/
def clears (transition : Transition P (Logged C)) : Bool :=
  transition.forgets || decide (0 < transition.sent)

/-- What a step does to the latch and to the counters of notices, and what it asks of the
channel. -/
structure Latches (transition : Transition P (Logged C)) : Prop where
  pending : transition.after.shaper.sampler.pending =
    (!transition.clears && (transition.before.shaper.sampler.pending || transition.congested))
  logged : transition.after.channel.calls = transition.before.channel.calls ++ transition.calls
  called : transition.calls.length = if transition.notifies then 1 else 0
  sent : transition.after.shaper.statistics.noticesSent =
    transition.before.shaper.statistics.noticesSent + UInt64.ofNat transition.sent
  failed : transition.after.shaper.statistics.noticesFailed =
    transition.before.shaper.statistics.noticesFailed + UInt64.ofNat transition.failed

variable {transition : Transition P (Logged C)}

omit [Packet P] in
theorem calls_of_same (same : transition.after.channel = transition.before.channel) :
    transition.calls = [] := by
  rw [calls, same, List.drop_length]

omit [Packet P] in
theorem calls_of_append {call : Dispatch × Delivery.Outcome}
    (grown : transition.after.channel.calls = transition.before.channel.calls ++ [call]) :
    transition.calls = [call] := by
  rw [calls, grown, List.drop_left]

/-- A step that makes no call, where none is due. -/
theorem latches_of_silent (same : transition.after.channel = transition.before.channel)
    (due : transition.notifies = false)
    (pending : transition.after.shaper.sampler.pending =
      (!transition.forgets &&
        (transition.before.shaper.sampler.pending || transition.congested)))
    (sent : transition.after.shaper.statistics.noticesSent =
      transition.before.shaper.statistics.noticesSent)
    (failed : transition.after.shaper.statistics.noticesFailed =
      transition.before.shaper.statistics.noticesFailed) : transition.Latches := by
  have silent := calls_of_same same
  constructor
  case pending => simp [clears, Transition.sent, silent, pending]
  case logged => rw [silent, same, List.append_nil]
  case called => simp [silent, due]
  case sent => simp [Transition.sent, silent, sent]
  case failed => simp [Transition.failed, silent, failed]

/-- A step that leaves the latch and the channel alone. -/
theorem latches_of_undisturbed (refused : transition.accepted? = none)
    (keeps : transition.forgets = false)
    (same : transition.after.channel = transition.before.channel)
    (undisturbed : transition.before.shaper.Undisturbed transition.after.shaper) :
    transition.Latches := by
  refine latches_of_silent same ?_ ?_ undisturbed.sent undisturbed.failed
  · simp [notifies, refused]
  · simp [undisturbed.pending, keeps, congested, refused]

/-- A step that clears the latch and leaves the channel alone. -/
theorem latches_of_forgets (refused : transition.accepted? = none)
    (forgets : transition.forgets = true)
    (same : transition.after.channel = transition.before.channel)
    (cleared : transition.after.shaper.sampler.pending = false)
    (counters : transition.after.shaper.statistics = transition.before.shaper.statistics) :
    transition.Latches := by
  refine latches_of_silent same ?_ ?_ ?_ ?_
  · simp [notifies, refused]
  · simp [cleared, forgets]
  · rw [counters]
  · rw [counters]

/-- A packet is let in, and one call of the channel is due and made. -/
theorem latches_of_answered {packet : P} {call : Dispatch × Delivery.Outcome}
    (given : transition.accepted? = some packet)
    (network : (Packet.headers packet).network.isSome = true) (keeps : transition.forgets = false)
    (grown : transition.after.channel.calls = transition.before.channel.calls ++ [call])
    (latched : (transition.before.shaper.sampler.pending || transition.congested) = true)
    (pending : transition.after.shaper.sampler.pending = !call.2.isOk)
    (sent : transition.after.shaper.statistics.noticesSent =
      transition.before.shaper.statistics.noticesSent + if call.2.isOk then 1 else 0)
    (failed : transition.after.shaper.statistics.noticesFailed =
      transition.before.shaper.statistics.noticesFailed + if call.2.isOk then 0 else 1) :
    transition.Latches := by
  have made := calls_of_append grown
  constructor
  case pending =>
    cases succeeded : call.2.isOk <;>
      simp [clears, keeps, Transition.sent, made, latched, pending, succeeded]
  case logged => rw [made, grown]
  case called => simp [made, notifies, given, network, latched]
  case sent => cases succeeded : call.2.isOk <;> simp [Transition.sent, made, sent, succeeded]
  case failed =>
    cases succeeded : call.2.isOk <;> simp [Transition.failed, made, failed, succeeded]

/-- There was a congested sample after the latest step that cleared the latch. Within a step the
sample comes before the delivery. -/
def CongestedSinceCleared (past : List (Transition P (Logged C))) : Prop :=
  ∃ sample later, sample :: later <:+ past ∧ sample.congested = true ∧
    ∀ transition ∈ sample :: later, transition.clears = false

theorem congestedSinceCleared_append {past : List (Transition P (Logged C))} :
    CongestedSinceCleared (past ++ [transition]) ↔
      transition.clears = false ∧
        (CongestedSinceCleared past ∨ transition.congested = true) := by
  constructor
  · rintro ⟨sample, later, suffix, congested, kept⟩
    rcases List.suffix_concat_iff.mp suffix with empty | ⟨window, same, inside⟩
    · contradiction
    · -- The sample is the new step itself if nothing comes before it in the window.
      cases window with
      | nil =>
          obtain ⟨rfl, rfl⟩ := List.cons.inj same
          exact ⟨kept sample List.mem_cons_self, .inr congested⟩
      | cons head tail =>
          obtain ⟨rfl, rfl⟩ := List.cons.inj same
          refine ⟨kept transition (by simp), .inl ⟨sample, tail, inside, congested, ?_⟩⟩
          exact fun other member => kept other (List.mem_append_left [transition] member)
  · rintro ⟨keeps, ⟨sample, later, suffix, congested, kept⟩ | congested⟩
    · refine ⟨sample, later ++ [transition], ?_, congested, ?_⟩
      · exact List.suffix_concat_iff.mpr (.inr ⟨sample :: later, rfl, suffix⟩)
      · exact List.forall_mem_append.mpr ⟨kept, List.forall_mem_singleton.mpr keeps⟩
    · exact ⟨transition, [], List.suffix_append past [transition], congested,
        List.forall_mem_singleton.mpr keeps⟩

namespace Latches

/-- A delivery needs a latched notice. -/
theorem latched_of_sent (latches : transition.Latches) (sent : 0 < transition.sent) :
    (transition.before.shaper.sampler.pending || transition.congested) = true := by
  have some : 0 < transition.calls.length := Nat.lt_of_lt_of_le sent List.countP_le_length
  have due : transition.notifies = true := by
    rw [latches.called] at some
    by_contra none
    simp [none] at some
  unfold notifies at due
  split at due
  · contradiction
  · exact (Bool.and_eq_true_iff.mp due).2

/-- A delivery uses up the latch, and a congested sample sets it. -/
theorem sent_add_pending_le (latches : transition.Latches) :
    transition.sent + transition.after.shaper.sampler.pending.toNat ≤
      transition.before.shaper.sampler.pending.toNat + transition.congested.toNat := by
  have single : transition.sent ≤ 1 := by
    have bound : transition.sent ≤ transition.calls.length := List.countP_le_length
    rw [latches.called] at bound
    split at bound <;> omega
  rw [latches.pending]
  by_cases sent : 0 < transition.sent
  · have latched := latches.latched_of_sent sent
    have cleared : transition.clears = true := by simp [clears, sent]
    rw [cleared, Bool.not_true, Bool.false_and, Bool.toNat_false]
    rcases Bool.or_eq_true_iff.mp latched with pending | congested
    · rw [pending, Bool.toNat_true]
      omega
    · rw [congested, Bool.toNat_true]
      omega
  · cases transition.clears <;> cases transition.before.shaper.sampler.pending <;>
      cases transition.congested <;> simp <;> omega

end Latches

end Transition

namespace Station

variable [Delivery.Channel C] {station after : Station P (Logged C)} {event : Event P}
  {reply : Reply P}

omit [Packet P] in
/-- A call is logged with its outcome. -/
theorem deliver_logged (channel : Logged C) (dispatch : Dispatch) :
    (Delivery.Channel.deliver channel dispatch).1.calls =
      channel.calls ++ [(dispatch, (Delivery.Channel.deliver channel dispatch).2)] := rfl

omit [Delivery.Channel C] in
/-- A packet that is let in without a dispatch found no latched notice, or shows no network
addresses. -/
theorem unanswered_latches {packet : P} {now : Ticks} {draw : UInt64} {accepted : Shaper P}
    (accepting : station.shaper.accept packet draw = .ok (accepted, .ok none)) :
    (⟨station, ⟨.enqueue packet, now, draw⟩, .enqueued (.ok ()),
      { station with shaper := accepted }⟩ : Transition P (Logged C)).Latches := by
  obtain ⟨pending, nothing, sent, failed⟩ := Shaper.accept_latch accepting
  have addressed := congrArg Option.isSome nothing
  rw [Congestion.Sampler.dispatch?_isSome, pending, Bool.and_comm] at addressed
  exact Transition.latches_of_silent rfl addressed.symm pending sent failed

/-- A dispatch is one call of the channel, and its outcome is counted. -/
theorem answered_latches {packet : P} {now : Ticks} {draw : UInt64} {accepted : Shaper P}
    {dispatch : Dispatch}
    (accepting : station.shaper.accept packet draw = .ok (accepted, .ok (some dispatch))) :
    (⟨station, ⟨.enqueue packet, now, draw⟩, .enqueued (.ok ()),
      { shaper := accepted.settle (Delivery.Channel.deliver station.channel dispatch).2
        channel := (Delivery.Channel.deliver station.channel dispatch).1 }⟩ :
      Transition P (Logged C)).Latches := by
  obtain ⟨pending, found, sent, failed⟩ := Shaper.accept_latch accepting
  have addressed := congrArg Option.isSome found
  rw [Congestion.Sampler.dispatch?_isSome] at addressed
  obtain ⟨wanted, network⟩ := Bool.and_eq_true_iff.mp addressed.symm
  obtain ⟨cleared, level, counted⟩ :=
    Shaper.settle_latch wanted (Delivery.Channel.deliver station.channel dispatch).2
  rw [sent, failed] at counted
  refine Transition.latches_of_answered rfl network rfl (deliver_logged station.channel dispatch)
    ?_ cleared counted.1 counted.2
  rw [pending, ← level] at wanted
  exact wanted

theorem enqueue_latches {packet : P} {now : Ticks} {draw : UInt64} {shaper : Shaper P}
    {channel : Logged C} {result : Except (Refusal P) Unit}
    (enqueued : station.shaper.enqueue station.channel packet draw =
      .ok (shaper, channel, result)) :
    (⟨station, ⟨.enqueue packet, now, draw⟩, .enqueued result, { shaper, channel }⟩ :
      Transition P (Logged C)).Latches := by
  obtain ⟨accepted, answer, accepting, delivery⟩ := Shaper.enqueue_cases enqueued
  rcases delivery with ⟨refusal, rfl, rfl, rfl, rfl⟩ | ⟨rfl, rfl, rfl, rfl⟩ |
    ⟨dispatch, rfl, rfl, rfl, rfl⟩
  · exact Transition.latches_of_undisturbed rfl rfl rfl
      (Shaper.accept_refused_undisturbed accepting)
  · exact unanswered_latches accepting
  · exact answered_latches accepting

/-- Each step does to the latch what it should. -/
theorem step_latches
    (silent : station.shaper.attached = false → station.shaper.sampler.pending = false)
    (step : station.step event = .ok (after, reply)) :
    (⟨station, event, reply, after⟩ : Transition P (Logged C)).Latches := by
  cases step_cases step with
  | enqueue enqueued => exact enqueue_latches enqueued
  | dequeue dequeued =>
      exact Transition.latches_of_undisturbed rfl rfl rfl (Shaper.dequeue_undisturbed dequeued)
  | peek => exact Transition.latches_of_undisturbed rfl rfl rfl (.refl station.shaper)
  | dropOne =>
      exact Transition.latches_of_undisturbed rfl rfl rfl
        station.shaper.dropOne_pruned.undisturbed
  | reset done =>
      obtain ⟨sampler, emptied, rfl⟩ := Shaper.reset_eq done
      obtain ⟨countdown, -, rfl⟩ := Congestion.Sampler.reset_eq emptied
      exact Transition.latches_of_forgets rfl rfl rfl rfl rfl
  | reconfigure done =>
      exact Transition.latches_of_undisturbed rfl rfl rfl (Shaper.reconfigure_undisturbed done)
  | teardown done =>
      rcases Shaper.teardown_cases done with ⟨detached, rfl, -⟩ | ⟨sampler, -, emptied, -, rfl⟩
      · exact Transition.latches_of_forgets rfl rfl rfl (silent detached) rfl
      · obtain ⟨countdown, -, rfl⟩ := Congestion.Sampler.reset_eq emptied
        exact Transition.latches_of_forgets rfl rfl rfl rfl rfl

/-- What holds of the latch, the calls of the channel and the counters of notices over a past. -/
structure Latched (station : Station P (Logged C)) (past : List (Transition P (Logged C))) :
    Prop where
  /-- A notice is latched exactly after a congested sample that nothing cleared. -/
  pending : station.shaper.sampler.pending = true ↔ Transition.CongestedSinceCleared past
  /-- A step calls the channel once when a call is due, and otherwise not at all. -/
  calls : ∀ transition ∈ past,
    transition.after.channel.calls = transition.before.channel.calls ++ transition.calls ∧
      transition.calls.length = if transition.notifies then 1 else 0
  /-- The counters add up to the number of calls. -/
  counted :
    station.shaper.statistics.noticesSent + station.shaper.statistics.noticesFailed =
      UInt64.ofNat (past.flatMap Transition.calls).length
  /-- As long as that number fits in a word, neither counter wraps. -/
  unwrapped : (past.flatMap Transition.calls).length < 2 ^ 64 →
    station.shaper.statistics.noticesSent.toNat + station.shaper.statistics.noticesFailed.toNat =
      (past.flatMap Transition.calls).length
  /-- Between two deliveries that succeed there is a congested sample. -/
  between : ∀ first middle second, first :: (middle ++ [second]) <:+: past →
    0 < first.sent → 0 < second.sent →
      ∃ transition ∈ middle ++ [second], transition.congested = true
  /-- There are no more such deliveries than congested samples. -/
  sent_le : station.shaper.statistics.noticesSent.toNat ≤ past.countP Transition.congested

variable {past : List (Transition P (Logged C))}

omit [Packet P] [Delivery.Channel C] in
theorem create_silent {configuration : Configuration} {now : Ticks} {shaper : Shaper P}
    (created : Shaper.create configuration now = .ok (.ok shaper)) :
    shaper.sampler.pending = false ∧ shaper.statistics = {} := by
  obtain ⟨plan, sampler, -, made, rfl⟩ := Shaper.create_eq created
  obtain ⟨shift, countdown, -, -, rfl⟩ := Congestion.Sampler.create_eq made
  exact ⟨rfl, rfl⟩

/-- Each step from a station with a past does to the latch what it should. -/
theorem Past.step_latches (led : station.Past past)
    (step : station.step event = .ok (after, reply)) :
    (⟨station, event, reply, after⟩ : Transition P (Logged C)).Latches :=
  Station.step_latches
    (led.keeps Shaper.silent_invariant fun created _ => (create_silent created).1) step

theorem Past.latches (led : station.Past past) : ∀ transition ∈ past, transition.Latches := by
  induction led with
  | created created => exact List.forall_mem_nil _
  | stepped led step ih =>
      exact List.forall_mem_append.mpr ⟨ih, List.forall_mem_singleton.mpr (led.step_latches step)⟩

theorem Past.pending_iff (led : station.Past past) :
    station.shaper.sampler.pending = true ↔ Transition.CongestedSinceCleared past := by
  induction led with
  | created created =>
      simp [(create_silent (create_eq created)).1, Transition.CongestedSinceCleared]
  | stepped led step ih =>
      have pending := (led.step_latches step).pending
      rw [Transition.congestedSinceCleared_append, ← ih, pending]
      simp

theorem Past.between (led : station.Past past) {first second : Transition P (Logged C)}
    {middle : List (Transition P (Logged C))}
    (inside : first :: (middle ++ [second]) <:+: past) (earlier : 0 < first.sent)
    (later : 0 < second.sent) :
    ∃ transition ∈ middle ++ [second], transition.congested = true := by
  induction led with
  | created created => simp at inside
  | stepped led step ih =>
      have latches := led.step_latches step
      rcases List.infix_concat_iff.mp inside with ends | before
      · rw [← List.cons_append] at ends
        rcases List.suffix_concat_iff.mp ends with empty | ⟨window, same, suffix⟩
        · simp at empty
        obtain ⟨rfl, last⟩ := List.append_inj' same rfl
        obtain rfl := List.singleton_inj.mp last
        have latched := latches.latched_of_sent later
        rcases Bool.or_eq_true_iff.mp latched with pending | congested
        · -- The latch was cleared by the first delivery, so its sample is in the middle.
          obtain ⟨sample, others, inPast, congested, kept⟩ := led.pending_iff.mp pending
          have keeps : first ∉ sample :: others := by
            intro member
            have cleared : first.clears = true := by simp [Transition.clears, earlier]
            rw [kept first member] at cleared
            contradiction
          have within : sample :: others <:+ middle := by
            rcases List.suffix_or_suffix_of_suffix inPast suffix with short | long
            · rcases List.suffix_cons_iff.mp short with whole | within
              · exact absurd (whole ▸ List.mem_cons_self) keeps
              · exact within
            · exact absurd (long.subset List.mem_cons_self) keeps
          exact ⟨sample, List.mem_append_left _ (within.subset List.mem_cons_self), congested⟩
        · exact ⟨_, List.mem_append_right _ (List.mem_singleton_self _), congested⟩
      · exact ih before

/-- Each delivery that succeeded has used up a congested sample, and so will the one that is
latched. -/
theorem Past.sent_add_pending_le (led : station.Past past) :
    (past.map Transition.sent).sum + station.shaper.sampler.pending.toNat ≤
      past.countP Transition.congested := by
  induction led with
  | created created => simp [(create_silent (create_eq created)).1]
  | stepped led step ih =>
      have moved := (led.step_latches step).sent_add_pending_le
      rw [List.map_append, List.sum_append, List.countP_append]
      rw [List.map_singleton, List.sum_singleton, List.countP_singleton]
      dsimp only at moved
      split
      · rename_i congested
        rw [congested, Bool.toNat_true] at moved
        omega
      · rename_i calm
        rw [Bool.not_eq_true] at calm
        rw [calm, Bool.toNat_false] at moved
        omega

/-- The counters of notices are the numbers of deliveries. -/
theorem Past.notices (led : station.Past past) :
    station.shaper.statistics.noticesSent = UInt64.ofNat (past.map Transition.sent).sum ∧
      station.shaper.statistics.noticesFailed =
        UInt64.ofNat (past.map Transition.failed).sum := by
  induction led with
  | created created => simp [(create_silent (create_eq created)).2]
  | stepped led step ih =>
      have latches := led.step_latches step
      rw [latches.sent, latches.failed, ih.1, ih.2]
      simp only [List.map_append, List.map_singleton, List.sum_append, List.sum_singleton,
        UInt64.ofNat_add]
      exact ⟨trivial, trivial⟩

/-- What holds over a past that is told with a log. -/
theorem Past.latched_of_logged (led : station.Past past) : station.Latched past := by
  obtain ⟨sent, failed⟩ := led.notices
  have calls := Transition.sum_sent_add_sum_failed past
  have used := led.sent_add_pending_le
  constructor
  case pending => exact led.pending_iff
  case calls =>
    intro transition member
    have latches := led.latches transition member
    exact ⟨latches.logged, latches.called⟩
  case counted => rw [sent, failed, ← calls, UInt64.ofNat_add]
  case unwrapped =>
    intro few
    rw [sent, failed, UInt64.toNat_ofNat_of_lt' (by simp only [UInt64.size]; omega),
      UInt64.toNat_ofNat_of_lt' (by simp only [UInt64.size]; omega), calls]
  case between => exact fun first middle second inside => led.between inside
  case sent_le =>
    have word := Nat.mod_le (past.map Transition.sent).sum (2 ^ 64)
    rw [sent, UInt64.toNat_ofNat']
    omega

end Station

/-- Over every past, told with a log of the calls of the channel: the latch is set exactly after a
congested sample that no later delivery, reset or teardown cleared; the channel is called once for
each packet that is let in with network addresses while the latch is set, and at no other time; the
counters add up to the calls; and each delivery that succeeds has a congested sample of its own. -/
theorem Station.Past.latched [Delivery.Channel C] {station : Station P C}
    {past : List (Transition P C)} (led : station.Past past) :
    ∃ (twin : Station P (Logged C)) (history : List (Transition P (Logged C))),
      twin.unlogged = station ∧ history.map Transition.unlogged = past ∧
        twin.Past history ∧ twin.Latched history := by
  obtain ⟨twin, history, told, same, steps⟩ := led.logged
  exact ⟨twin, history, same, steps, told, told.latched_of_logged⟩

namespace Station

/-- Settings under which each packet of more than a hundred bytes is a sample. -/
def eager : Congestion.Settings := { equilibrium := 100, intervals := [100] }

/-- A configuration with these settings. -/
def eagerConfiguration : Configuration := { Configuration.steady with congestion := eager }

/-- A fresh station with these settings and room for a single dispatch. -/
def watchful : Station Sketch Delivery.Queue where
  shaper :=
    { configuration := eagerConfiguration
      bucket := .full .steady 0
      sampler := { settings := eager, shift := 2, topLevel := 63, countdown := 100 }
      backlog := .empty .bytes 202000 }
  channel := { capacity := 1 }

/-- Headers with network addresses. -/
def addressed : Headers := { network := some ⟨.ofBytes 10 0 0 1, .ofBytes 10 0 0 2⟩ }

/-- One notice is delivered, the next is latched by a packet without addresses, two deliveries of
it fail, and a reset forgets it. -/
def watchfulRun : List (Event Sketch) :=
  [⟨.enqueue ⟨1500, addressed⟩, 0, 0⟩, ⟨.enqueue ⟨600, {}⟩, 0, 0⟩, ⟨.dequeue, 0, 0⟩,
    ⟨.enqueue ⟨500, addressed⟩, 10, 0⟩, ⟨.dropOne, 10, 0⟩, ⟨.enqueue ⟨50, addressed⟩, 10, 0⟩,
    ⟨.reset, 20, 0⟩, ⟨.enqueue ⟨50, addressed⟩, 20, 0⟩]

/-- The station after that run. -/
def watched : Station Sketch Delivery.Queue := (watchful.follow watchfulRun).1

/-- The transitions of that run. -/
def watchedPast : List (Transition Sketch Delivery.Queue) := (watchful.follow watchfulRun).2

theorem watchful_created :
    Station.create eagerConfiguration watchful.channel 0 = .ok (.ok watchful) := by
  have made : Shaper.create eagerConfiguration 0 = .ok (.ok watchful.shaper) := by
    decide +kernel
  rw [create, made]

theorem watched_past : watched.Past watchedPast := by
  have led := (Past.created watchful_created).follow watchfulRun (by decide +kernel)
  rwa [List.nil_append] at led

/-- The latch over that run, with three calls for two congested samples. -/
theorem watched_latched :
    watched.Past watchedPast ∧
      watchedPast.countP Transition.congested = 2 ∧
      watchedPast.countP Transition.notifies = 3 ∧
      watched.shaper.statistics.noticesSent = 1 ∧
      watched.shaper.statistics.noticesFailed = 2 ∧
      ∃ (twin : Station Sketch (Logged Delivery.Queue))
        (history : List (Transition Sketch (Logged Delivery.Queue))),
        twin.unlogged = watched ∧ history.map Transition.unlogged = watchedPast ∧
          twin.Past history ∧ twin.Latched history :=
  ⟨watched_past, by decide +kernel, by decide +kernel, by decide +kernel, by decide +kernel,
    watched_past.latched⟩

end Station

end TrafficShaper
