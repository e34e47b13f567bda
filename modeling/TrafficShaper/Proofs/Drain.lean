/-
No packet is stuck. Whoever asks for the head, and asks again at each deadline, gets all the
packets of a backlog in order. Without a peak rate the ticks at which they leave are known exactly.
-/

import TrafficShaper.Proofs.Consistent

namespace TrafficShaper

variable {P C : Type} [Packet P] [Delivery.Channel C]

/-- What comes of asking for the head once. -/
inductive Turn (P : Type) where
  | released (packet : P) (time : Ticks)
  | refused (time deadline : Ticks)
deriving DecidableEq, Repr

namespace Turn

/-- The packets that left, each with its tick. -/
def departures (turns : List (Turn P)) : List (P × Ticks) :=
  turns.filterMap fun
    | .released packet time => some (packet, time)
    | .refused _ _ => none

/-- No wait ends before it begins, and each wait is followed at once by a packet that leaves when
the wait ends. -/
def Prompt : List (Turn P) → Prop
  | [] => True
  | .released _ _ :: rest => Prompt rest
  | .refused time deadline :: .released _ left :: rest =>
      time < deadline ∧ left = deadline ∧ Prompt rest
  | _ => False

end Turn

/-- The committed charges of some packets in all. -/
def Plan.totalCharge (plan : Plan) (packets : List P) : Int :=
  (packets.map fun packet => plan.charge (Packet.length packet)).sum

theorem Plan.totalCharge_cons (plan : Plan) (packet : P) (packets : List P) :
    plan.totalCharge (packet :: packets) =
      plan.charge (Packet.length packet) + plan.totalCharge packets := by
  simp [totalCharge]

theorem Plan.totalCharge_nonneg (plan : Plan) (packets : List P) :
    0 ≤ plan.totalCharge packets := by
  induction packets with
  | nil => exact Int.le_refl 0
  | cons packet rest ih =>
      have charge := plan.charge_nonneg (Packet.length packet)
      rw [totalCharge_cons]
      omega

/-- The head is asked for up to `count` times. Where it has to wait, the clock is set to the
deadline; where nothing comes and no deadline is left, this is the end. -/
def Shaper.drive (shaper : Shaper P) (now : Ticks) :
    Nat → Except Fault (Shaper P × Ticks × List (Turn P))
  | 0 => .ok (shaper, now, [])
  | count + 1 =>
      match shaper.dequeue now with
      | .error fault => .error fault
      | .ok (shaper, some packet) => do
          let (shaper, later, turns) ← shaper.drive now count
          pure (shaper, later, .released packet now :: turns)
      | .ok (shaper, none) =>
          match shaper.timer.deadline with
          | none => .ok (shaper, now, [])
          | some deadline => do
              let (shaper, later, turns) ← shaper.drive deadline count
              pure (shaper, later, .refused now deadline :: turns)

namespace Bucket

variable {bucket : Bucket} {now : Ticks}

/-- Without a peak rate a wait earns exactly the tokens that the packet costs. -/
theorem available_of_deficit (sound : bucket.Sound now) (absent : bucket.plan.peak = none)
    {length : UInt32} (fits : length ≤ bucket.plan.largest)
    (lacks : ¬ bucket.Covers length now) {later : Ticks}
    (waited : later.toInt = now.toInt + bucket.deficit length now) :
    bucket.deficit length now = bucket.plan.charge length - bucket.available now ∧
      bucket.available later = bucket.plan.charge length := by
  have none := peakAvailable_of_noPeak sound absent
  have free := Plan.peakCharge_of_none absent length
  have deep := (sound.plan.payable length fits).1
  rw [covers_iff] at lacks
  unfold deficit at waited lacks ⊢
  unfold available at *
  omega

/-- After a packet was paid for the committed tokens are what was available less the charge. -/
theorem Paid.available {after : Bucket} {length : UInt32} (paid : bucket.Paid length now after) :
    after.available now = bucket.available now - bucket.plan.charge length := by
  have bound := bucket.available_le now
  have charge := bucket.plan.charge_nonneg length
  rw [Bucket.available, paid.plan, paid.tokens, paid.checkpoint]
  omega

end Bucket

namespace Shaper

variable {shaper : Shaper P} {now : Ticks}

/-- The head is given out at a tick, at once or after one wait up to then. -/
inductive Serves (shaper : Shaper P) (now : Ticks) (head : P) (left : Ticks)
    (after : Shaper P) : Prop where
  | atOnce (dequeued : shaper.dequeue now = .ok (after, some head)) (same : left = now)
  | waited {waiting : Shaper P} (dequeued : shaper.dequeue now = .ok (waiting, none))
      (deadline : waiting.timer.deadline = some left) (later : now < left)
      (again : waiting.dequeue left = .ok (after, some head))

/-- A head that the buckets can pay for leaves. -/
theorem dequeue_of_covers (consistent : shaper.Consistent now) {head : P} {rest : Backlog P}
    (taken : shaper.backlog.takeHead = some (head, rest))
    (covers : shaper.bucket.Covers (Packet.length head) now) :
    ∃ after, shaper.dequeue now = .ok (after, some head) ∧ after.backlog = rest ∧
      shaper.bucket.Paid (Packet.length head) now after.bucket := by
  obtain ⟨bucket, ready, paid⟩ := Bucket.release_of_covers consistent.bucket covers
  have dequeued : shaper.dequeue now =
      .ok ({ shaper with
        bucket
        backlog := rest
        sampler := shaper.sampler.remove (Packet.length head)
        timer := shaper.timer.cancel
        statistics := shaper.statistics.countReleased (Packet.length head) }, some head) := by
    simp only [dequeue, taken, ready]
  exact ⟨_, dequeued, rfl, paid⟩

/-- A head that the buckets cannot pay for waits until the deficit is made up. -/
theorem dequeue_of_not_covers (consistent : shaper.Consistent now) {head : P} {rest : Backlog P}
    (taken : shaper.backlog.takeHead = some (head, rest))
    (lacks : ¬ shaper.bucket.Covers (Packet.length head) now)
    (room : now.toInt + shaper.bucket.plan.charge (Packet.length head) < 2 ^ 63) :
    ∃ waiting deadline, shaper.dequeue now = .ok (waiting, none) ∧
      waiting.timer.deadline = some deadline ∧ waiting.backlog = shaper.backlog ∧
      waiting.bucket = shaper.bucket ∧
      deadline.toInt = now.toInt + shaper.bucket.deficit (Packet.length head) now := by
  obtain ⟨time, refused, value⟩ := Bucket.release_of_not_covers consistent.bucket lacks
  have bound := Bucket.deficit_le consistent.bucket (Packet.length head)
  have dequeued : shaper.dequeue now =
      .ok ({ shaper with
        timer := shaper.timer.schedule time
        statistics := shaper.statistics.countOverlimit }, none) := by
    simp only [dequeue, taken, refused]
  exact ⟨_, time, dequeued, rfl, rfl, rfl, by omega⟩

/-- The head leaves no later than its charge after now. Without a peak rate it leaves when the
tokens that it lacks have been earned, and what it leaves is what it did not need. -/
theorem head_served (consistent : shaper.Consistent now) {head : P} {rest : List P}
    (shape : shaper.backlog.packets = head :: rest)
    (room : now.toInt + shaper.bucket.plan.charge (Packet.length head) < 2 ^ 63) :
    ∃ after left, shaper.Serves now head left after ∧ after.Consistent left ∧
      after.backlog.packets = rest ∧ after.bucket.plan = shaper.bucket.plan ∧
      left.toInt ≤ now.toInt + shaper.bucket.plan.charge (Packet.length head) ∧
      (shaper.bucket.plan.peak = none →
        left.toInt = now.toInt + max 0
            (shaper.bucket.plan.charge (Packet.length head) - shaper.bucket.available now) ∧
          after.bucket.available left =
            max 0 (shaper.bucket.available now -
              shaper.bucket.plan.charge (Packet.length head))) := by
  have taken := Backlog.takeHead_of_cons shape
  have charge := shaper.bucket.plan.charge_nonneg (Packet.length head)
  by_cases covers : shaper.bucket.Covers (Packet.length head) now
  · obtain ⟨after, dequeued, left, paid⟩ := dequeue_of_covers consistent taken covers
    have available := paid.available
    have enough := covers.1
    refine ⟨after, now, .atOnce dequeued rfl, dequeue_consistent consistent dequeued, ?_,
      paid.plan, by omega, ?_⟩
    · rw [left]
    · intro _
      omega
  · obtain ⟨waiting, deadline, dequeued, armed, same, unchanged, value⟩ :=
      dequeue_of_not_covers consistent taken covers room
    have lacks : 0 < shaper.bucket.deficit (Packet.length head) now := by
      rw [Bucket.covers_iff] at covers
      omega
    have later : now < deadline := by
      rw [Int64.lt_iff_toInt_lt]
      omega
    have waits := (dequeue_consistent consistent dequeued).later (Int64.le_of_lt later)
    have fits := consistent.fits.serviceable head (shape ▸ List.mem_cons_self)
    have made_up := Bucket.add_deficit_eq_due consistent.bucket fits covers
    have covered := (Bucket.covers_iff_due_le
      (consistent.bucket.later (Int64.le_of_lt later)) fits).mpr (by omega)
    rw [← unchanged] at covered
    rw [← same] at taken
    obtain ⟨after, again, left, paid⟩ := dequeue_of_covers waits taken covered
    have bound := Bucket.deficit_le consistent.bucket (Packet.length head)
    rw [unchanged] at paid
    refine ⟨after, deadline, .waited dequeued armed later again,
      dequeue_consistent waits again, ?_, paid.plan, by omega, ?_⟩
    · rw [left]
    · intro absent
      have exact := Bucket.available_of_deficit consistent.bucket absent fits covers value
      have available := paid.available
      omega

theorem drive_of_released {after final : Shaper P} {head : P} {later : Ticks}
    {turns : List (Turn P)} {count : Nat} (dequeued : shaper.dequeue now = .ok (after, some head))
    (rest : after.drive now count = .ok (final, later, turns)) :
    shaper.drive now (count + 1) = .ok (final, later, .released head now :: turns) := by
  simp only [drive, dequeued, rest, bind, Except.bind, pure, Except.pure]

theorem drive_of_refused {waiting final : Shaper P} {deadline later : Ticks}
    {turns : List (Turn P)} {count : Nat} (dequeued : shaper.dequeue now = .ok (waiting, none))
    (armed : waiting.timer.deadline = some deadline)
    (rest : waiting.drive deadline count = .ok (final, later, turns)) :
    shaper.drive now (count + 1) = .ok (final, later, .refused now deadline :: turns) := by
  simp only [drive, dequeued, armed, rest, bind, Except.bind, pure, Except.pure]

/-- An empty backlog ends the drive. -/
theorem drive_of_nil (nothing : shaper.backlog.packets = []) (count : Nat) :
    shaper.drive now (count + 1) =
      .ok ({ shaper with timer := shaper.timer.cancel }, now, []) := by
  simp only [drive, dequeue, Backlog.takeHead_eq_none.mpr nothing, RetryTimer.cancel]

/-- What a drive has done once it ends. -/
structure Drained (shaper : Shaper P) (now : Ticks) (after : Shaper P)
    (turns : List (Turn P)) : Prop where
  emptied : after.backlog.packets = []
  idle : after.timer.deadline = none
  prompt : Turn.Prompt turns
  order : (Turn.departures turns).map Prod.fst = shaper.backlog.packets
  onTime : shaper.bucket.plan.peak = none → ∀ index packet left,
    (Turn.departures turns)[index]? = some (packet, left) →
      left.toInt = now.toInt +
        max 0 (shaper.bucket.plan.totalCharge (shaper.backlog.packets.take (index + 1)) -
          shaper.bucket.available now)

/-- A head is served by one or two calls, whatever is drained after it. -/
theorem Serves.drive {after : Shaper P} {head : P} {left : Ticks}
    (serves : shaper.Serves now head left after) :
    ∃ calls, calls ≤ 2 ∧ ∀ {count final later turns},
      after.drive left count = .ok (final, later, turns) → Turn.Prompt turns →
        ∃ all, shaper.drive now (count + calls) = .ok (final, later, all) ∧ Turn.Prompt all ∧
          Turn.departures all = (head, left) :: Turn.departures turns := by
  cases serves with
  | atOnce dequeued same =>
      refine ⟨1, by decide, ?_⟩
      rintro count final later turns rest prompt
      subst same
      exact ⟨_, drive_of_released dequeued rest, prompt, rfl⟩
  | waited dequeued deadline order again =>
      refine ⟨2, by decide, ?_⟩
      rintro count final later turns rest prompt
      exact ⟨_, drive_of_refused dequeued deadline (drive_of_released again rest),
        ⟨order, rfl, prompt⟩, rfl⟩

/-- A drive ends with an empty backlog when there are two calls for each packet and one more. -/
theorem drive_drained (consistent : shaper.Consistent now)
    (room : now.toInt + shaper.bucket.plan.totalCharge shaper.backlog.packets < 2 ^ 63)
    {count : Nat} (enough : 2 * shaper.backlog.packets.length < count) :
    ∃ after later turns, shaper.drive now count = .ok (after, later, turns) ∧
      shaper.Drained now after turns := by
  generalize shape : shaper.backlog.packets = packets at room enough
  induction packets generalizing shaper now count with
  | nil =>
      obtain ⟨count, rfl⟩ : ∃ fewer, count = fewer + 1 := ⟨count - 1, by omega⟩
      refine ⟨_, _, _, drive_of_nil shape count, ?_⟩
      exact ⟨shape, rfl, trivial, shape.symm, by simp [Turn.departures]⟩
  | cons head rest ih =>
      rw [Plan.totalCharge_cons] at room
      rw [List.length_cons] at enough
      have nonneg := shaper.bucket.plan.totalCharge_nonneg rest
      obtain ⟨after, left, serves, sound, tail, same, bound, exact⟩ :=
        head_served consistent shape (by omega)
      obtain ⟨calls, few, continued⟩ := serves.drive
      obtain ⟨fewer, rfl⟩ : ∃ fewer, count = fewer + calls := ⟨count - calls, by omega⟩
      have left_calls : 2 * rest.length < fewer := by omega
      obtain ⟨final, later, turns, driven, drained⟩ :=
        ih sound tail (by rw [same]; omega) left_calls
      obtain ⟨all, drive, prompt, departures⟩ := continued driven drained.prompt
      refine ⟨final, later, all, drive, ?_⟩
      constructor
      case emptied => exact drained.emptied
      case idle => exact drained.idle
      case prompt => exact prompt
      case order => rw [departures, List.map_cons, drained.order, tail, shape]
      case onTime =>
        intro absent index packet time found
        obtain ⟨waited, left_over⟩ := exact absent
        rw [departures] at found
        rw [shape]
        cases index with
        | zero =>
            obtain ⟨-, rfl⟩ := Prod.mk.inj (Option.some.inj found)
            simp only [List.take_succ_cons, List.take_zero, Plan.totalCharge_cons]
            simp only [Plan.totalCharge, List.map_nil, List.sum_nil]
            omega
        | succ index =>
            have onTime := drained.onTime (same ▸ absent) index packet time found
            have before := shaper.bucket.plan.totalCharge_nonneg (rest.take (index + 1))
            rw [same, tail, left_over] at onTime
            rw [List.take_succ_cons, Plan.totalCharge_cons]
            omega

end Shaper

/-- In each state that is reached, whoever asks for the head and asks again at each deadline gets
all the packets in order, each after one wait at most. -/
theorem Station.Reached.drains {station : Station P C} {last now : Ticks}
    (reached : station.Reached last) (order : last ≤ now)
    (room : now.toInt + station.shaper.bucket.plan.totalCharge station.shaper.backlog.packets <
      2 ^ 63)
    {count : Nat} (enough : 2 * station.shaper.backlog.packets.length < count) :
    ∃ after later turns, station.shaper.drive now count = .ok (after, later, turns) ∧
      station.shaper.Drained now after turns :=
  have consistent := Shaper.consistent_invariant.reached Shaper.create_consistent reached
  Shaper.drive_drained (consistent.later order) room enough

/-- The two packets of a backlog that is left alone for a while. -/
theorem Station.backlogged_drains :
    Station.backlogged.Reached 10 ∧ (10 : Ticks) ≤ 500 ∧
      ∃ after later turns, Station.backlogged.shaper.drive 500 5 = .ok (after, later, turns) ∧
        Station.backlogged.shaper.Drained 500 after turns :=
  ⟨backlogged_reached, by decide,
    backlogged_reached.drains (by decide) (by decide +kernel) (by decide)⟩

example :
    (Station.backlogged.shaper.drive 10 5).map (fun result => result.2.2) =
      .ok [.refused 10 200010, .released ⟨1200, {}⟩ 200010, .refused 200010 1104010,
        .released ⟨900, {}⟩ 1104010] := by
  decide +kernel

end TrafficShaper
