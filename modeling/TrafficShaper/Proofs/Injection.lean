/-
Notices as link frames, from the packet to the sink. A frame gets to the sink only when an
ethernet frame with a network header was let in just before; it goes back to the sender of that
frame, and no shaper answers it with a notice of its own.
-/

import TrafficShaper.Delivery.Injector
import TrafficShaper.Proofs.Dependable
import TrafficShaper.Proofs.Latch
import TrafficShaper.Proofs.WireForms

namespace TrafficShaper

namespace Frame

/-- The addresses that a frame shows, byte by byte: a link header, the type of network packets,
and a network header of version four. -/
structure Shows (frame : Frame) (link : LinkAddresses) (network : NetworkAddresses) : Prop where
  layer : frame.layer = .ethernet
  length : 34 ≤ frame.bytes.length
  linkDestination : frame.bytes.extract 0 6 = link.destination.bytes
  linkSource : frame.bytes.extract 6 12 = link.source.bytes
  type : frame.bytes.extract 12 14 = [0x08, 0x00]
  version : Wire.number (frame.bytes.extract 14 15) / 16 = 4
  source : Wire.number (frame.bytes.extract 26 30) = network.source.word.toNat
  destination : Wire.number (frame.bytes.extract 30 34) = network.destination.word.toNat

theorem number_ofBytes (first second third fourth : UInt8) :
    Wire.number [first, second, third, fourth] =
      (Ipv4.ofBytes first second third fourth).word.toNat := by
  have bounds := And.intro first.toNat_lt (And.intro second.toNat_lt
    (And.intro third.toNat_lt fourth.toNat_lt))
  rw [Wire.number_four, Ipv4.ofBytes, UInt32.toNat_ofNat']
  omega

theorem shows_of_payload {link : LinkAddresses} {payload : List UInt8}
    {network : NetworkAddresses} (found : NetworkAddresses.ofHeader? payload = some network) :
    (⟨.ethernet, link.header networkType ++ payload⟩ : Frame).Shows link network := by
  unfold NetworkAddresses.ofHeader? at found
  split at found
  · rename_i version _ _ _ _ _ _ _ _ _ _ _ s1 s2 s3 s4 d1 d2 d3 d4 rest
    split at found
    · rename_i four
      obtain rfl := Option.some.inj found
      constructor
      case layer => rfl
      case length => simp [LinkAddresses.header, Mac.bytes]
      case linkDestination => rfl
      case linkSource => rfl
      case type => rfl
      case version =>
        have first : Wire.number [version] = version.toNat := by
          rw [Wire.number_cons]
          simp [Wire.number]
        exact (congrArg (· / 16) first).trans four
      case source => exact number_ofBytes s1 s2 s3 s4
      case destination => exact number_ofBytes d1 d2 d3 d4
    · contradiction
  · contradiction

/-- A frame with addresses of both kinds shows them in its bytes. -/
theorem shows_of_headers {frame : Frame} {link : LinkAddresses} {network : NetworkAddresses}
    (hasNetwork : frame.headers.network = some network) (hasLink : frame.headers.link = some link) :
    frame.Shows link network := by
  obtain ⟨layer, bytes⟩ := frame
  unfold headers at hasNetwork hasLink
  cases layer with
  | network => contradiction
  | ethernet =>
      dsimp only at hasNetwork hasLink
      split at hasLink
      · contradiction
      · rename_i shown type payload header
        obtain rfl := Option.some.inj hasLink
        rw [header] at hasNetwork
        rw [eq_header_of_linkHeader header]
        dsimp only at hasNetwork
        split at hasNetwork
        · rename_i same
          rw [same]
          exact shows_of_payload hasNetwork
        · contradiction

/-- A frame of notices shows no network addresses, whatever stands behind it. -/
theorem headers_encodeFrame (notice : Notice) (link : LinkAddresses) (padding : List UInt8) :
    headers ⟨.ethernet, Wire.encodeFrame notice link ++ padding⟩ = { link := some link } := by
  unfold headers
  dsimp only
  rw [Wire.encodeFrame_eq, List.append_assoc, linkHeader_header]
  rfl

end Frame

namespace Delivery.Injector

variable {injector : Injector}

/-- A sink that is held takes no frame. -/
theorem attempt_of_held (held : injector.held = true) (attempt : Attempt) :
    (injector.attempt attempt).1.held = true ∧
      (injector.attempt attempt).1.frames = injector.frames := by
  obtain ⟨dispatch, nested, taken⟩ := attempt
  unfold Injector.attempt
  cases dispatch.link with
  | none => exact ⟨held, rfl⟩
  | some link =>
      dsimp only
      rw [if_pos held]
      exact ⟨held, rfl⟩

theorem attemptAll_of_held (held : injector.held = true) (attempts : List Attempt) :
    (injector.attemptAll attempts).1.frames = injector.frames := by
  induction attempts generalizing injector with
  | nil =>
      unfold attemptAll
      rfl
  | cons first rest ih =>
      obtain ⟨stays, same⟩ := attempt_of_held held first
      unfold attemptAll
      exact (ih stays).trans same

/-- An attempt writes one frame at most: the notice, on the way back. The sink is held during the
write, so no attempt from inside adds another. -/
theorem attempt_frames (injector : Injector) (dispatch : Dispatch) (nested : List Attempt)
    (taken : Bool) :
    (injector.attempt (.make dispatch nested taken)).1.frames = injector.frames ∨
      ∃ link, dispatch.link = some link ∧
        (injector.attempt (.make dispatch nested taken)).1.frames =
          injector.frames ++ [frameOf dispatch.notice link] := by
  unfold Injector.attempt
  cases shown : dispatch.link with
  | none => exact .inl rfl
  | some link =>
      dsimp only
      by_cases held : injector.held = true
      · rw [if_pos held]
        exact .inl rfl
      · rw [if_neg held]
        dsimp only
        rw [attemptAll_of_held rfl]
        cases taken with
        | false => exact .inl rfl
        | true => exact .inr ⟨link, rfl, rfl⟩

end Delivery.Injector

namespace Congestion.Sampler

variable {sampler : Sampler}

/-- What is told in a half word: the nearest value in its range. -/
def toHalf (value : Int) : Int := max (-2 ^ 31) (min (2 ^ 31 - 1) value)

theorem saturateHalf_toInt (value : Int64) : (saturateHalf value).toInt = toHalf value.toInt :=
  toInt_ofIntClamp_half value.toInt

/-- Nothing is dispatched to a packet without network addresses. -/
theorem dispatch_eq_some {headers : Headers} {dispatch : Dispatch}
    (found : sampler.dispatch? headers = some dispatch) :
    ∃ network, headers.network = some network ∧
      dispatch =
        { notice :=
            { destination := network.destination
              source := network.source
              level := sampler.level
              offset := saturateHalf sampler.offset
              delta := saturateHalf sampler.growth }
          link := headers.link } := by
  unfold dispatch? at found
  split at found
  · rename_i network _ shown
    exact ⟨network, shown, (Option.some.inj found).symm⟩
  · contradiction

end Congestion.Sampler

namespace Shaper

variable {P C : Type} [Packet P] [Delivery.Channel C] {shaper after : Shaper P}

/-- A dispatch is made by the sampler as it is after the packet was let in. -/
theorem accept_dispatch {packet : P} {draw : UInt64} {dispatch : Dispatch}
    (setUp : shaper.SetUp Configuration.Bounded)
    (accepted : shaper.accept packet draw = .ok (after, .ok (some dispatch))) :
    after.sampler.dispatch? (Packet.headers packet) = some dispatch ∧
      after.sampler.settings = shaper.configuration.congestion ∧
      after.sampler.InRange shaper.configuration.congestion := by
  have unrefused := Configuration.congestion_accepted setUp.planned
  generalize told : (Except.ok (some dispatch) : Except (Refusal P) _) = answer at accepted
  cases accept_cases accepted with
  | destroyed detached => contradiction
  | oversized attached large => contradiction
  | full attached fits offered => contradiction
  | @queued backlog sampler attached fits offered observed =>
      obtain ⟨other, found, inRange⟩ := Congestion.Sampler.observe_inRange setUp.configured
        unrefused setUp.allowed (Packet.length packet) draw
      obtain rfl := Except.ok.inj (observed.symm.trans found)
      exact ⟨(Except.ok.inj told).symm, (setUp.configured.observe observed).same, inRange⟩
  | @displaced backlog head sampler attached fits offered observed =>
      obtain ⟨other, found, inRange⟩ := Congestion.Sampler.observe_inRange
        (setUp.configured.remove (Packet.length head)) unrefused setUp.allowed
        (Packet.length packet) draw
      obtain rfl := Except.ok.inj (observed.symm.trans found)
      exact ⟨(Except.ok.inj told).symm,
        ((setUp.configured.remove (Packet.length head)).observe observed).same, inRange⟩

omit [Packet P] in
/-- A settled delivery leaves the occupancy and the last sample alone. -/
theorem settle_sampler (shaper : Shaper P) (outcome : Delivery.Outcome) :
    (shaper.settle outcome).sampler.occupancy = shaper.sampler.occupancy ∧
      (shaper.settle outcome).sampler.lastSample = shaper.sampler.lastSample := by
  cases outcome <;> exact ⟨rfl, rfl⟩

/-- A packet without network addresses brings about no dispatch, and the counters of notices stay
as they are. -/
theorem accept_of_unaddressed {packet : P} {draw : UInt64}
    {answer : Except (Refusal P) (Option Dispatch)}
    (unaddressed : (Packet.headers packet).network = none)
    (accepted : shaper.accept packet draw = .ok (after, answer)) :
    (∀ dispatch, answer ≠ .ok (some dispatch)) ∧
      after.statistics.noticesSent = shaper.statistics.noticesSent ∧
      after.statistics.noticesFailed = shaper.statistics.noticesFailed := by
  have silent : ∀ (sampler : Congestion.Sampler) (dispatch : Dispatch),
      (Except.ok (sampler.dispatch? (Packet.headers packet)) : Except (Refusal P) _) ≠
        .ok (some dispatch) := by
    intro sampler dispatch told
    obtain ⟨network, shown, -⟩ := Congestion.Sampler.dispatch_eq_some (Except.ok.inj told)
    rw [unaddressed] at shown
    contradiction
  cases accept_cases accepted with
  | destroyed detached => exact ⟨by simp, rfl, rfl⟩
  | oversized attached large => exact ⟨by simp, rfl, rfl⟩
  | full attached fits offered => exact ⟨by simp, rfl, rfl⟩
  | queued attached fits offered observed => exact ⟨silent _, rfl, rfl⟩
  | displaced attached fits offered observed => exact ⟨silent _, rfl, rfl⟩

/-- A packet without network addresses calls no channel. -/
theorem enqueue_of_unaddressed {channel channelAfter : C} {packet : P} {draw : UInt64}
    {result : Except (Refusal P) Unit} (unaddressed : (Packet.headers packet).network = none)
    (enqueued : shaper.enqueue channel packet draw = .ok (after, channelAfter, result)) :
    channelAfter = channel ∧
      after.statistics.noticesSent = shaper.statistics.noticesSent ∧
      after.statistics.noticesFailed = shaper.statistics.noticesFailed := by
  obtain ⟨accepted, answer, accepting, outcome⟩ := enqueue_cases enqueued
  obtain ⟨silent, counters⟩ := accept_of_unaddressed unaddressed accepting
  obtain ⟨refusal, -, rfl, rfl, -⟩ | ⟨-, rfl, rfl, -⟩ | ⟨dispatch, told, -⟩ := outcome
  · exact ⟨rfl, counters⟩
  · exact ⟨rfl, counters⟩
  · exact absurd told (silent dispatch)

end Shaper

namespace Delivery

/-- A channel that injects: each delivery is an attempt of its injector. The sink is free to take
the frame or not, and in what it delivers from inside. -/
class Injects (C : Type) [Channel C] where
  injector : C → Injector
  deliver_attempt (channel : C) (dispatch : Dispatch) : ∃ nested taken,
    (injector (Channel.deliver channel dispatch).1, (Channel.deliver channel dispatch).2) =
      (((injector channel).attempt (.make dispatch nested taken)).1,
        ((injector channel).attempt (.make dispatch nested taken)).2.1)

instance : Injects Injector where
  injector injector := injector
  deliver_attempt injector dispatch := by
    cases mode : injector.mode with
    | store => exact ⟨[], true, by simp only [Channel.deliver, Injector.deliver, mode]; rfl⟩
    | fail => exact ⟨[], false, by simp only [Channel.deliver, Injector.deliver, mode]; rfl⟩
    | reenter => exact ⟨_, true, by simp only [Channel.deliver, Injector.deliver, mode]; rfl⟩

end Delivery

open Delivery (Injects)

/-- A frame calls no channel, whatever shaper it is offered to and in whatever state. -/
def Frame.Silent (frame : Frame) : Prop :=
  ∀ (C : Type) [Delivery.Channel C] (shaper after : Shaper Frame) (channel channelAfter : C)
    (draw : UInt64) (result : Except (Refusal Frame) Unit),
    shaper.enqueue channel frame draw = .ok (after, channelAfter, result) →
      channelAfter = channel ∧
        after.statistics.noticesSent = shaper.statistics.noticesSent ∧
        after.statistics.noticesFailed = shaper.statistics.noticesFailed

theorem Frame.silent_encodeFrame (notice : Notice) (link : LinkAddresses) (padding : List UInt8) :
    Frame.Silent ⟨.ethernet, Wire.encodeFrame notice link ++ padding⟩ := by
  intro C _ shaper after channel channelAfter draw result enqueued
  have unaddressed := congrArg Headers.network (Frame.headers_encodeFrame notice link padding)
  exact Shaper.enqueue_of_unaddressed unaddressed enqueued

namespace Transition

variable {C : Type} [Delivery.Channel C] [Injects C]

/-- The frames that the sink took during a step. -/
def written (transition : Transition Frame C) : List (List UInt8) :=
  (Injects.injector transition.after.channel).frames.drop
    (Injects.injector transition.before.channel).frames.length

/-- What the sink is told about a frame that was let in: the notice goes from its receiver to its
sender, with its addresses, and with the state of the sampler right after. -/
structure Tells (transition : Transition Frame C) (bytes : List UInt8) (frame : Frame)
    (link : LinkAddresses) (network : NetworkAddresses) (notice : Notice) : Prop where
  admitted : transition.accepted? = some frame
  shows : frame.Shows link network
  decoded : Wire.decodeFrame bytes =
    .ok ({ source := link.destination, destination := link.source }, notice)
  source : notice.source = network.source
  destination : notice.destination = network.destination
  level : notice.level.toNat ≤
    2 ^ transition.before.shaper.configuration.congestion.bits.toNat - 1
  offset : notice.offset.toInt = Congestion.Sampler.toHalf
    (((transition.before.shaper.configuration.congestion.equilibrium.toNat : Int) -
      transition.after.shaper.sampler.occupancy.toNat).bmod (2 ^ 64))
  delta : notice.delta.toInt = Congestion.Sampler.toHalf
    (((transition.after.shaper.sampler.occupancy.toNat : Int) -
      transition.after.shaper.sampler.lastSample.toNat).bmod (2 ^ 64))
  exactOffset : transition.after.shaper.sampler.occupancy.toNat < 2 ^ 63 →
    notice.offset.toInt = Congestion.Sampler.toHalf
      ((transition.before.shaper.configuration.congestion.equilibrium.toNat : Int) -
        transition.after.shaper.sampler.occupancy.toNat)
  exactDelta : transition.after.shaper.sampler.occupancy.toNat < 2 ^ 63 →
    transition.after.shaper.sampler.lastSample.toNat < 2 ^ 63 →
    notice.delta.toInt = Congestion.Sampler.toHalf
      ((transition.after.shaper.sampler.occupancy.toNat : Int) -
        transition.after.shaper.sampler.lastSample.toNat)
  silent : ∀ padding, Frame.Silent ⟨.ethernet, bytes ++ padding⟩

/-- The frames of a step stand behind those from before, and each of them tells of a frame that
was let in. -/
structure Injected (transition : Transition Frame C) : Prop where
  appended : (Injects.injector transition.after.channel).frames =
    (Injects.injector transition.before.channel).frames ++ transition.written
  atMostOne : transition.written.length ≤ 1
  tells : ∀ bytes ∈ transition.written, ∃ frame link network notice,
    transition.Tells bytes frame link network notice

variable {transition : Transition Frame C}

theorem written_of_append {frames : List (List UInt8)}
    (appended : (Injects.injector transition.after.channel).frames =
      (Injects.injector transition.before.channel).frames ++ frames) :
    transition.written = frames := by
  rw [written, appended, List.drop_left]

theorem injected_of_same (same : (Injects.injector transition.after.channel).frames =
    (Injects.injector transition.before.channel).frames) : transition.Injected := by
  have nothing : transition.written = [] := written_of_append (same.trans (List.append_nil _).symm)
  constructor
  case appended => rw [nothing, same, List.append_nil]
  case atMostOne => simp [nothing]
  case tells => simp [nothing]

theorem injected_of_append {bytes : List UInt8}
    (appended : (Injects.injector transition.after.channel).frames =
      (Injects.injector transition.before.channel).frames ++ [bytes])
    (tells : ∃ frame link network notice, transition.Tells bytes frame link network notice) :
    transition.Injected := by
  have single := written_of_append appended
  constructor
  case appended => rw [single, appended]
  case atMostOne => simp [single]
  case tells =>
    intro found written
    rw [single, List.mem_singleton] at written
    rw [written]
    exact tells

end Transition

namespace Station

variable {C : Type} [Delivery.Channel C] [Injects C] {station after : Station Frame C}

omit [Delivery.Channel C] [Injects C] in
/-- A delivery that gets a frame to the sink tells of the packet that brought it about. -/
theorem tells_of_accept {shaper accepted : Shaper Frame} {channel channelAfter : C}
    {frame : Frame} {now : Ticks} {draw : UInt64} {dispatch : Dispatch} {link : LinkAddresses}
    (setUp : shaper.SetUp Configuration.Bounded)
    (accepting : shaper.accept frame draw = .ok (accepted, .ok (some dispatch)))
    (outcome : Delivery.Outcome) (linked : dispatch.link = some link) :
    Transition.Tells
      ⟨⟨shaper, channel⟩, ⟨.enqueue frame, now, draw⟩, .enqueued (.ok ()),
        ⟨accepted.settle outcome, channelAfter⟩⟩
      (Delivery.Injector.frameOf dispatch.notice link) frame link
      { source := dispatch.notice.source, destination := dispatch.notice.destination }
      dispatch.notice := by
  obtain ⟨told, settings, inRange⟩ := Shaper.accept_dispatch setUp accepting
  obtain ⟨network, shown, rfl⟩ := Congestion.Sampler.dispatch_eq_some told
  obtain ⟨occupancy, lastSample⟩ := accepted.settle_sampler outcome
  have offset := Congestion.Sampler.saturateHalf_toInt accepted.sampler.offset
  have delta := Congestion.Sampler.saturateHalf_toInt accepted.sampler.growth
  constructor
  case admitted => rfl
  case shows => exact Frame.shows_of_headers shown linked
  case decoded =>
    rw [← List.append_nil (Delivery.Injector.frameOf _ link)]
    exact Wire.decodeFrame_encodeFrame _ link.reversed []
  case source => rfl
  case destination => rfl
  case level => exact inRange.level
  case offset =>
    rw [Congestion.Sampler.offset_toInt, settings] at offset
    rw [occupancy]
    exact offset
  case delta =>
    rw [Congestion.Sampler.growth_toInt] at delta
    rw [occupancy, lastSample]
    exact delta
  case exactOffset =>
    intro fits
    rw [occupancy] at fits ⊢
    rw [Congestion.Sampler.offset_exact fits, settings] at offset
    exact offset
  case exactDelta =>
    intro fits fitted
    rw [occupancy, lastSample] at *
    rw [Congestion.Sampler.growth_exact fits fitted] at delta
    exact delta
  case silent =>
    intro padding
    exact Frame.silent_encodeFrame _ _ padding

theorem enqueue_injected {shaper : Shaper Frame} {channel : C} {frame : Frame} {now : Ticks}
    {draw : UInt64} {result : Except (Refusal Frame) Unit}
    (setUp : station.shaper.SetUp Configuration.Bounded)
    (enqueued : station.shaper.enqueue station.channel frame draw = .ok (shaper, channel, result)) :
    Transition.Injected
      ⟨station, ⟨.enqueue frame, now, draw⟩, .enqueued result, ⟨shaper, channel⟩⟩ := by
  obtain ⟨accepted, answer, accepting, outcome⟩ := Shaper.enqueue_cases enqueued
  obtain ⟨refusal, -, -, rfl, -⟩ | ⟨-, -, rfl, -⟩ | ⟨dispatch, rfl, rfl, rfl, rfl⟩ := outcome
  · exact Transition.injected_of_same rfl
  · exact Transition.injected_of_same rfl
  · obtain ⟨nested, taken, attempted⟩ :=
      Injects.deliver_attempt (C := C) station.channel dispatch
    have attempted := congrArg Prod.fst attempted
    obtain same | ⟨link, linked, appended⟩ := Delivery.Injector.attempt_frames
      (Injects.injector station.channel) dispatch nested taken
    · rw [← attempted] at same
      exact Transition.injected_of_same same
    · rw [← attempted] at appended
      exact Transition.injected_of_append appended
        ⟨frame, link, _, dispatch.notice, tells_of_accept setUp accepting _ linked⟩

/-- Each step gets one frame at most to the sink. -/
theorem step_injected {event : Event Frame} {reply : Reply Frame}
    (setUp : station.shaper.SetUp Configuration.Bounded)
    (step : station.step event = .ok (after, reply)) :
    Transition.Injected ⟨station, event, reply, after⟩ := by
  cases step_cases step with
  | enqueue enqueued => exact enqueue_injected setUp enqueued
  | dequeue dequeued => exact Transition.injected_of_same rfl
  | peek => exact Transition.injected_of_same rfl
  | dropOne => exact Transition.injected_of_same rfl
  | reset done => exact Transition.injected_of_same rfl
  | reconfigure done => exact Transition.injected_of_same rfl
  | teardown done => exact Transition.injected_of_same rfl

/-- Each run is answered to its end, and what the sink is told in it is what it is told step by
step. -/
theorem trace_injected {events : List (Event Frame)}
    (setUp : station.shaper.SetUp Configuration.Bounded)
    (asked : ∀ event ∈ events, event.AsksOnlyFor fun other =>
      ∀ plan, other.plan = .ok plan → other.Bounded) :
    ∃ after transitions, station.trace events = .ok (after, transitions) ∧
      (Injects.injector after.channel).frames =
        (Injects.injector station.channel).frames ++ transitions.flatMap Transition.written ∧
      ∀ transition ∈ transitions, transition.Injected := by
  induction events generalizing station with
  | nil =>
      refine ⟨station, [], rfl, ?_, ?_⟩
      · rw [List.flatMap_nil, List.append_nil]
      · simp only [List.not_mem_nil, false_implies, implies_true]
  | cons event rest ih =>
      rw [List.forall_mem_cons] at asked
      obtain ⟨middle, reply, stepped, kept⟩ := step_answers setUp event asked.1
      obtain ⟨after, others, finished, further, each⟩ := ih kept asked.2
      have injected := step_injected setUp stepped
      refine ⟨after, ⟨station, event, reply, middle⟩ :: others, ?_, ?_, ?_⟩
      · simp only [trace, stepped, finished, bind, Except.bind, pure, Except.pure]
      · rw [further, injected.appended, List.flatMap_cons, List.append_assoc]
      · exact List.forall_mem_cons.mpr ⟨injected, each⟩

/-- Notices as frames, end to end. A run is answered, and each frame that it gets to the sink is
the answer to an ethernet frame that was let in by that step. It goes back to the sender, it says
what the sampler found, and no shaper answers it in its turn. -/
theorem answers_injected {configuration : Configuration} {channel : C} {now : Ticks}
    {start : Station Frame C} {events : List (Event Frame)}
    (created : Station.create configuration channel now = .ok (.ok start))
    (bounded : configuration.Bounded)
    (asked : ∀ event ∈ events, event.AsksOnlyFor fun other =>
      ∀ plan, other.plan = .ok plan → other.Bounded) :
    ∃ after transitions, start.trace events = .ok (after, transitions) ∧
      (Injects.injector after.channel).frames =
        (Injects.injector channel).frames ++ transitions.flatMap Transition.written ∧
      ∀ transition ∈ transitions, transition.Injected := by
  rw [← create_channel created]
  exact trace_injected (Shaper.create_setUp bounded (create_eq created)) asked

/-- A network packet between two hosts of a link, in a link frame of the given type. -/
def linked (type : UInt8 × UInt8) : Frame where
  layer := .ethernet
  bytes := LinkAddresses.header ⟨⟨2, 0, 0, 0, 0, 1⟩, ⟨2, 0, 0, 0, 0, 2⟩⟩ type ++
    [0x45, 0, 0, 200, 0, 0, 0, 0, 64, 17, 0, 0, 10, 0, 0, 1, 10, 0, 0, 2] ++ List.replicate 180 0

/-- A fresh station whose sink sends each notice again from inside. -/
def echoing : Station Frame Delivery.Injector where
  shaper :=
    { configuration := eagerConfiguration
      bucket := .full .steady 0
      sampler := { settings := eager, shift := 2, topLevel := 63, countdown := 100 }
      backlog := .empty .bytes 202000 }
  channel := { mode := .reenter }

/-- The answer to a linked frame. -/
def answer (offset delta : Int32) : List UInt8 :=
  Wire.encodeFrame ⟨.ofBytes 10 0 0 2, .ofBytes 10 0 0 1, 63, offset, delta⟩
    ⟨⟨2, 0, 0, 0, 0, 2⟩, ⟨2, 0, 0, 0, 0, 1⟩⟩

/-- A frame is answered, and its answer comes back. A frame of another type then latches a notice,
which the next frame with network addresses takes along. -/
def echoedRun : List (Event Frame) :=
  [⟨.enqueue (linked networkType), 0, 0⟩, ⟨.reconfigure eagerConfiguration, 5, 0⟩,
    ⟨.enqueue ⟨.ethernet, answer (-114) 0⟩, 10, 0⟩, ⟨.enqueue (linked (8, 6)), 10, 0⟩,
    ⟨.enqueue (linked networkType), 20, 0⟩]

theorem echoing_created :
    Station.create eagerConfiguration echoing.channel 0 = .ok (.ok echoing) := by
  have made : Shaper.create eagerConfiguration 0 = .ok (.ok echoing.shaper) := by
    decide +kernel
  rw [create, made]

/-- Two of the four frames are answered, although the sink echoes each answer. -/
theorem echoed_injected :
    Station.create eagerConfiguration echoing.channel 0 = .ok (.ok echoing) ∧
      eagerConfiguration.Bounded ∧
      (echoing.follow echoedRun).2.flatMap Transition.written =
        [answer (-114) 0, answer (-576) 0] ∧
      ∃ after transitions, echoing.trace echoedRun = .ok (after, transitions) ∧
        (Injects.injector after.channel).frames =
          (Injects.injector echoing.channel).frames ++
            transitions.flatMap Transition.written ∧
        ∀ transition ∈ transitions, transition.Injected := by
  have bounded : eagerConfiguration.Bounded := by decide
  refine ⟨echoing_created, bounded, by decide +kernel, ?_⟩
  refine answers_injected echoing_created bounded ?_
  intro event member configuration asked plan _
  simp only [echoedRun, List.mem_cons, List.not_mem_nil, or_false] at member
  rcases member with rfl | rfl | rfl | rfl | rfl <;> cases asked
  exact bounded

end Station

end TrafficShaper
