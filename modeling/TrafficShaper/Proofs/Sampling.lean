/-
When a sampler takes its samples. Each call is told as a transition, and the transitions so far say
how many bytes came since the last sample and which interval that sample set. The countdown is what
these bytes leave of the interval, so that the next sample falls where they exceed it.
-/

import Mathlib.Data.List.DropRight
import TrafficShaper.Proofs.Feedback

namespace TrafficShaper.Congestion

namespace Settings

variable {settings : Settings}

/-- The place of a level's interval, as an exact number. -/
def place (settings : Settings) (level : Nat) : Nat :=
  level * settings.intervals.length / 2 ^ settings.bits.toNat

theorem place_mono (settings : Settings) {level other : Nat} (lower : level ≤ other) :
    settings.place level ≤ settings.place other :=
  Nat.div_le_div_right (Nat.mul_le_mul_right _ lower)

/-- Each level has a place in the table. -/
theorem place_lt (unrefused : settings.refusal? = none) {level : Nat}
    (within : level ≤ 2 ^ settings.bits.toNat - 1) :
    settings.place level < settings.intervals.length := by
  have table := List.length_pos_iff.mpr (demands_of_refusal_none unrefused).2.2.2
  have levels := Nat.two_pow_pos settings.bits.toNat
  rw [place, Nat.div_lt_iff_lt_mul levels, Nat.mul_comm settings.intervals.length]
  apply Nat.mul_lt_mul_of_pos_right
  · omega
  · exact table

/-- The interval at a place of the table. -/
def intervalAt (settings : Settings) (place : Nat) : UInt32 := settings.intervals.getD place 0

/-- The longest interval of the table. -/
def longest (settings : Settings) : Nat := (settings.intervals.map UInt32.toNat).max?.getD 0

theorem intervalAt_le_longest {place : Nat} (inRange : place < settings.intervals.length) :
    (settings.intervalAt place).toNat ≤ settings.longest := by
  apply List.le_max?_getD_of_mem
  apply List.mem_map_of_mem
  rw [intervalAt, List.getD_eq_getElem _ _ inRange]
  exact List.getElem_mem inRange

theorem intervalAt_zero {first : UInt32} (head : settings.intervals.head? = some first) :
    settings.intervalAt 0 = first := by
  rw [intervalAt, List.getD_eq_getElem?_getD, ← List.head?_eq_getElem?, head]
  rfl

/-- Without drawing, the interval after a sample is the one at the place of its level. -/
theorem intervalAfter_eq (unrefused : settings.refusal? = none)
    (fixed : settings.randomized = false) {level : UInt8}
    (within : level.toNat ≤ 2 ^ settings.bits.toNat - 1) (draw : UInt64) :
    settings.intervalAfter settings.topLevel level draw =
      .ok (Int64.ofNat (settings.intervalAt (settings.place level.toNat)).toNat) := by
  have inRange := place_lt unrefused within
  have index : settings.intervalIndex settings.topLevel level = settings.place level.toNat := by
    rw [intervalIndex, topLevel_toNat unrefused, Nat.sub_add_cancel (Nat.two_pow_pos _), place]
  unfold intervalAfter
  dsimp only
  rw [index, Nat.min_eq_left (by omega), List.getElem?_eq_getElem inRange, fixed, intervalAt,
    List.getD_eq_getElem _ _ inRange]
  rfl

end Settings

namespace Sampler

/-- A call to a sampler. -/
inductive Call where
  | observe (length : UInt32) (draw : UInt64)
  | remove (length : UInt32)
  | delivered

/-- What a call makes of a sampler. -/
def answer (sampler : Sampler) : Call → Except Fault Sampler
  | .observe length draw => sampler.observe length draw
  | .remove length => .ok (sampler.remove length)
  | .delivered => .ok sampler.delivered

/-- A call, and the samplers before and after it. -/
structure Transition where
  before : Sampler
  call : Call
  after : Sampler

/-- The transitions of calls one after another. -/
def trace (sampler : Sampler) : List Call → Except Fault (List Transition)
  | [] => .ok []
  | call :: rest => do
      let after ← sampler.answer call
      let later ← after.trace rest
      pure (⟨sampler, call, after⟩ :: later)

namespace Transition

/-- The bytes that are observed. -/
def bytes (transition : Transition) : Nat :=
  match transition.call with
  | .observe length _ => length.toNat
  | _ => 0

/-- A sample is taken when a packet brings the countdown below zero. -/
def isSample (transition : Transition) : Bool :=
  match transition.call with
  | .observe length _ => transition.before.countdown - Int64.ofNat length.toNat < 0
  | _ => false

end Transition

/-- The bytes observed since the last sample, or since the start. -/
def bytesSinceSample (past : List Transition) : Nat :=
  ((past.rtakeWhile (!·.isSample)).map Transition.bytes).sum

/-- The last sample. -/
def lastSample? (past : List Transition) : Option Transition :=
  (past.filter Transition.isSample).getLast?

/-- The place of the interval that counts: the first one at the start, and then that of the level at
the last sample. -/
def currentPlace (settings : Settings) (past : List Transition) : Nat :=
  match lastSample? past with
  | none => 0
  | some sample => settings.place sample.after.level.toNat

variable {settings : Settings} {past : List Transition} {transition : Transition}

theorem bytesSinceSample_sample (sampled : transition.isSample = true) :
    bytesSinceSample (past ++ [transition]) = 0 := by
  rw [bytesSinceSample, List.rtakeWhile_concat_neg]
  · rfl
  · simp [sampled]

theorem bytesSinceSample_other (unsampled : transition.isSample = false) :
    bytesSinceSample (past ++ [transition]) = bytesSinceSample past + transition.bytes := by
  rw [bytesSinceSample, List.rtakeWhile_concat_pos]
  · simp [bytesSinceSample]
  · simp [unsampled]

theorem currentPlace_sample (sampled : transition.isSample = true) :
    currentPlace settings (past ++ [transition]) =
      settings.place transition.after.level.toNat := by
  simp [currentPlace, lastSample?, sampled]

theorem currentPlace_other (unsampled : transition.isSample = false) :
    currentPlace settings (past ++ [transition]) = currentPlace settings past := by
  simp [currentPlace, lastSample?, unsampled]

/-- The countdown is what the bytes since the last sample leave of the current interval, which is in
the table. -/
structure Paced (settings : Settings) (sampler : Sampler) (past : List Transition) : Prop where
  configured : sampler.Configured settings
  placed : currentPlace settings past < settings.intervals.length
  countdown : sampler.countdown.toInt + bytesSinceSample past =
    (settings.intervalAt (currentPlace settings past)).toNat
  nonneg : 0 ≤ sampler.countdown.toInt

/-- What is true of a transition that comes after others. -/
structure Timely (settings : Settings) (past : List Transition) (transition : Transition) :
    Prop where
  /-- A sample is taken just when the bytes since the last one exceed the current interval. -/
  due : transition.isSample = true ↔
    (settings.intervalAt (currentPlace settings past)).toNat <
      bytesSinceSample past + transition.bytes
  /-- A sample notes the occupancy, and starts the interval at the place of its level. -/
  sampled : transition.isSample = true →
    transition.after.lastSample = transition.after.occupancy ∧
      settings.place transition.after.level.toNat < settings.intervals.length ∧
      transition.after.countdown.toInt =
        (settings.intervalAt (settings.place transition.after.level.toNat)).toNat
  /-- Nothing else notes the occupancy. -/
  unsampled : transition.isSample = false →
    transition.after.lastSample = transition.before.lastSample
  /-- After each call the countdown is between zero and the longest interval. -/
  nonneg : 0 ≤ transition.after.countdown.toInt
  within : transition.after.countdown.toInt ≤ settings.longest

/-- A packet is shorter than a word, so that the countdown does not wrap. -/
theorem countdown_observe {sampler : Sampler} (nonneg : 0 ≤ sampler.countdown.toInt)
    (length : UInt32) :
    (sampler.countdown - Int64.ofNat length.toNat).toInt =
      sampler.countdown.toInt - length.toNat := by
  have bound := sampler.countdown.toInt_lt
  have short := length.toNat_lt
  have word := halfWord_toInt length
  rw [sub_toInt] <;> rw [word]
  all_goals omega

namespace Paced

variable {sampler after : Sampler} {call : Call}

theorem within (paced : sampler.Paced settings past) :
    sampler.countdown.toInt ≤ settings.longest := by
  have longest := settings.intervalAt_le_longest paced.placed
  have countdown := paced.countdown
  omega

theorem create (unrefused : settings.refusal? = none) (created : create settings = .ok sampler) :
    sampler.Paced settings [] := by
  have configured := create_configured created
  obtain ⟨shift, countdown, -, found, rfl⟩ := create_eq created
  obtain ⟨first, head, exact⟩ := Settings.firstInterval_head found
  constructor
  case configured => exact configured
  case placed => exact List.length_pos_iff.mpr (Settings.demands_of_refusal_none unrefused).2.2.2
  case countdown =>
    dsimp only
    rw [show currentPlace settings [] = 0 from rfl, Settings.intervalAt_zero head, exact]
    exact Int.add_zero _
  case nonneg =>
    dsimp only
    rw [exact]
    exact Int.natCast_nonneg _

/-- The countdown falls below zero just when the bytes exceed the interval. -/
theorem due (paced : sampler.Paced settings past) (call : Call) (after : Sampler) :
    (⟨sampler, call, after⟩ : Transition).isSample = true ↔
      (settings.intervalAt (currentPlace settings past)).toNat <
        bytesSinceSample past + (⟨sampler, call, after⟩ : Transition).bytes := by
  have countdown := paced.countdown
  have nonneg := paced.nonneg
  cases call with
  | observe length draw =>
      have left := countdown_observe nonneg length
      simp only [Transition.isSample, Transition.bytes, decide_eq_true_eq, Int64.lt_iff_toInt_lt,
        left, Int64.toInt_zero]
      omega
  | remove length =>
      simp only [Transition.isSample, Transition.bytes, Bool.false_eq_true, false_iff]
      omega
  | delivered =>
      simp only [Transition.isSample, Transition.bytes, Bool.false_eq_true, false_iff]
      omega

/-- A call that takes no sample takes its bytes off the countdown. -/
theorem other (paced : sampler.Paced settings past)
    (unsampled : (⟨sampler, call, after⟩ : Transition).isSample = false)
    (configured : after.Configured settings)
    (countdown : after.countdown.toInt =
      sampler.countdown.toInt - (⟨sampler, call, after⟩ : Transition).bytes)
    (last : after.lastSample = sampler.lastSample) :
    Timely settings past ⟨sampler, call, after⟩ ∧
      after.Paced settings (past ++ [⟨sampler, call, after⟩]) := by
  have due := paced.due call after
  have left := paced.countdown
  have nonneg : 0 ≤ after.countdown.toInt := by
    rw [unsampled] at due
    simp only [Bool.false_eq_true, false_iff] at due
    omega
  have goesOn : after.Paced settings (past ++ [⟨sampler, call, after⟩]) := by
    constructor
    case configured => exact configured
    case placed =>
      rw [currentPlace_other unsampled]
      exact paced.placed
    case countdown =>
      rw [currentPlace_other unsampled, bytesSinceSample_other unsampled]
      push_cast
      omega
    case nonneg => exact nonneg
  refine ⟨?_, goesOn⟩
  constructor
  case due => exact due
  case sampled =>
    intro sampled
    rw [unsampled] at sampled
    contradiction
  case unsampled => exact fun _ => last
  case nonneg => exact nonneg
  case within => exact goesOn.within

/-- A sample sets the countdown to the interval of its level. -/
theorem sample (paced : sampler.Paced settings past) (unrefused : settings.refusal? = none)
    (sampled : (⟨sampler, call, after⟩ : Transition).isSample = true)
    (configured : after.Configured settings) (inRange : after.InRange settings)
    (countdown : after.countdown.toInt =
      (settings.intervalAt (settings.place after.level.toNat)).toNat)
    (last : after.lastSample = after.occupancy) :
    Timely settings past ⟨sampler, call, after⟩ ∧
      after.Paced settings (past ++ [⟨sampler, call, after⟩]) := by
  have placed := Settings.place_lt unrefused inRange.level
  have nonneg : 0 ≤ after.countdown.toInt := by
    rw [countdown]
    exact Int.natCast_nonneg _
  have goesOn : after.Paced settings (past ++ [⟨sampler, call, after⟩]) := by
    constructor
    case configured => exact configured
    case placed =>
      rw [currentPlace_sample sampled]
      exact placed
    case countdown =>
      rw [currentPlace_sample sampled, bytesSinceSample_sample sampled, countdown]
      exact Int.add_zero _
    case nonneg => exact nonneg
  refine ⟨?_, goesOn⟩
  constructor
  case due => exact paced.due call after
  case sampled => exact fun _ => ⟨last, placed, countdown⟩
  case unsampled =>
    intro unsampled
    rw [sampled] at unsampled
    contradiction
  case nonneg => exact nonneg
  case within => exact goesOn.within

theorem observe (paced : sampler.Paced settings past) (unrefused : settings.refusal? = none)
    (fixed : settings.randomized = false) (bounded : settings.exactBound < 2 ^ 63)
    (length : UInt32) (draw : UInt64) :
    ∃ after, sampler.observe length draw = .ok after ∧
      Timely settings past ⟨sampler, .observe length draw, after⟩ ∧
      after.Paced settings (past ++ [⟨sampler, .observe length draw, after⟩]) := by
  obtain ⟨after, observed, inRange⟩ :=
    observe_inRange paced.configured unrefused bounded length draw
  have configured := paced.configured.observe observed
  refine ⟨after, observed, ?_⟩
  obtain ⟨counted, found, ⟨rest, rfl⟩ | ⟨negative, sampled⟩⟩ := observe_cases observed
  · obtain ⟨feedback, -, rfl⟩ := count_eq found
    apply paced.other
    · exact decide_eq_false rest
    · exact configured
    · exact countdown_observe paced.nonneg length
    · rfl
  · obtain ⟨feedback, -, counting⟩ := count_eq found
    have left : counted.countdown = sampler.countdown - Int64.ofNat length.toNat := by
      rw [counting]
    have same := (count_frame found).1.trans paced.configured.same
    have topLevel := (count_frame found).2.2.1.trans paced.configured.topLevel
    obtain ⟨interval, answered, rfl⟩ := sample_eq sampled
    rw [same, topLevel, Settings.intervalAfter_eq unrefused fixed inRange.level] at answered
    apply paced.sample unrefused
    · rw [left] at negative
      exact decide_eq_true negative
    · exact configured
    · exact inRange
    · dsimp only
      rw [← Except.ok.inj answered, halfWord_toInt]
    · rfl

/-- Each call is answered, in time, and the countdown goes on. -/
theorem answer (paced : sampler.Paced settings past) (unrefused : settings.refusal? = none)
    (fixed : settings.randomized = false) (bounded : settings.exactBound < 2 ^ 63) (call : Call) :
    ∃ after, sampler.answer call = .ok after ∧ Timely settings past ⟨sampler, call, after⟩ ∧
      after.Paced settings (past ++ [⟨sampler, call, after⟩]) := by
  cases call with
  | observe length draw => exact paced.observe unrefused fixed bounded length draw
  | remove length =>
      exact ⟨_, rfl, paced.other rfl (paced.configured.remove length) (Int.sub_zero _).symm rfl⟩
  | delivered =>
      exact ⟨_, rfl, paced.other rfl paced.configured.delivered (Int.sub_zero _).symm rfl⟩

/-- All calls are answered in time. -/
theorem trace (paced : sampler.Paced settings past) (unrefused : settings.refusal? = none)
    (fixed : settings.randomized = false) (bounded : settings.exactBound < 2 ^ 63)
    (calls : List Call) :
    ∃ transitions, sampler.trace calls = .ok transitions ∧
      transitions.map Transition.call = calls ∧
      ∀ earlier transition later, transitions = earlier ++ transition :: later →
        Timely settings (past ++ earlier) transition := by
  -- The induction runs forward over the calls, and `past` are the transitions before the next one.
  induction calls generalizing sampler past with
  | nil =>
      refine ⟨[], rfl, rfl, ?_⟩
      intro earlier transition later split
      have length := congrArg List.length split
      simp at length
  | cons call rest ih =>
      obtain ⟨after, answered, timely, goesOn⟩ := paced.answer unrefused fixed bounded call
      obtain ⟨transitions, traced, told, inTime⟩ := ih goesOn
      refine ⟨⟨sampler, call, after⟩ :: transitions, ?_, congrArg (call :: ·) told, ?_⟩
      · simp only [Sampler.trace, answered, traced, bind, Except.bind, pure, Except.pure]
      · intro earlier transition later split
        rcases List.cons_eq_append_iff.mp split with ⟨rfl, first⟩ | ⟨others, rfl, remaining⟩
        · obtain ⟨rfl, -⟩ := List.cons.inj first
          rwa [List.append_nil]
        · have found := inTime others transition later remaining
          rwa [List.append_assoc, List.singleton_append] at found

end Paced

/-- From the start on, whatever is called, a sample is taken just when the bytes since the last one
exceed the current interval. The level of each sample has an interval in the table, further on for a
higher level, and the countdown is never below zero or above the longest interval. -/
theorem trace_timely (unrefused : settings.refusal? = none) (fixed : settings.randomized = false)
    (bounded : settings.exactBound < 2 ^ 63) (calls : List Call) :
    (∀ level, level ≤ 2 ^ settings.bits.toNat - 1 →
      settings.place level < settings.intervals.length) ∧
    (∀ level other, level ≤ other → settings.place level ≤ settings.place other) ∧
    ∃ fresh transitions, create settings = .ok fresh ∧ fresh.trace calls = .ok transitions ∧
      transitions.map Transition.call = calls ∧
      0 ≤ fresh.countdown.toInt ∧ fresh.countdown.toInt ≤ settings.longest ∧
      ∀ earlier transition later, transitions = earlier ++ transition :: later →
        Timely settings earlier transition := by
  obtain ⟨fresh, created⟩ := create_answers unrefused bounded
  have paced := Paced.create unrefused created
  obtain ⟨transitions, traced, told, timely⟩ := paced.trace unrefused fixed bounded calls
  exact ⟨fun _ => Settings.place_lt unrefused, fun _ _ => settings.place_mono, fresh, transitions,
    created, traced, told, paced.nonneg, paced.within, timely⟩

/-- Settings with three intervals for four levels. -/
def uneven : Settings where
  equilibrium := 1000
  bits := 2
  intervals := [3000, 1500, 600]

/-- The second packet brings the countdown down to zero, and only the third below it. -/
def unevenCalls : List Call :=
  [.observe 1500 0, .observe 1500 0, .observe 40 0, .delivered, .remove 1500, .observe 600 0,
    .observe 1 0]

/-- Packets, one of which leaves again, and a notice that is delivered. -/
theorem uneven_timely :
    uneven.refusal? = none ∧ uneven.randomized = false ∧ uneven.exactBound < 2 ^ 63 ∧
      (∀ level, level ≤ 2 ^ uneven.bits.toNat - 1 →
        uneven.place level < uneven.intervals.length) ∧
      (∀ level other, level ≤ other → uneven.place level ≤ uneven.place other) ∧
      ∃ fresh transitions, create uneven = .ok fresh ∧
        fresh.trace unevenCalls = .ok transitions ∧
        transitions.map Transition.call = unevenCalls ∧
        0 ≤ fresh.countdown.toInt ∧ fresh.countdown.toInt ≤ uneven.longest ∧
        ∀ earlier transition later, transitions = earlier ++ transition :: later →
          Timely uneven earlier transition :=
  ⟨by decide, rfl, by decide, trace_timely (by decide) rfl (by decide) unevenCalls⟩

example :
    (do let fresh ← create uneven; fresh.trace unevenCalls).map (List.map Transition.isSample) =
      .ok [false, false, true, false, false, false, true] := by
  decide

end Sampler

end TrafficShaper.Congestion
