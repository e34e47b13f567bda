/-
Which packets a bucket lets through. A packet is released exactly when each window of released
packets that ends with it costs no more than the depth of the bucket and the time that the window
spans, for the committed and for the peak rate. Refused packets leave no trace.
-/

import TrafficShaper.Proofs.Release

namespace TrafficShaper

/-- An attempt asks for the release of a packet at a tick. -/
structure Attempt where
  length : UInt32
  time : Ticks
deriving DecidableEq, Repr

namespace Attempt

/-- The attempts that were answered with a release. -/
def released (attempts : List Attempt) (answers : List Release) : List Attempt :=
  ((attempts.zip answers).filter fun pair => pair.2 = .ready).map Prod.fst

/-- The exact sum of what packets are charged. -/
def total (charge : UInt32 → Int) (packets : List Attempt) : Int :=
  (packets.map fun packet => charge packet.length).sum

/-- Each window up to the last packet costs no more than the depth and the time since its first
packet. -/
def WindowsWithin (depth : Ticks) (charge : UInt32 → Int) (packets : List Attempt)
    (now : Ticks) : Prop :=
  ∀ first rest, first :: rest <:+ packets →
    total charge (first :: rest) ≤ depth.toInt + (now.toInt - first.time.toInt)

theorem total_append (charge : UInt32 → Int) (packets : List Attempt) (last : Attempt) :
    total charge (packets ++ [last]) = total charge packets + charge last.length := by
  simp [total]

theorem total_singleton (charge : UInt32 → Int) (packet : Attempt) :
    total charge [packet] = charge packet.length := by
  simp [total]

/-- The windows that end with one more packet are this packet alone, and each window before
with this packet added. -/
theorem windows_append {packets : List Attempt} {last : Attempt}
    {Holds : Attempt → List Attempt → Prop} :
    (∀ first rest, first :: rest <:+ packets ++ [last] → Holds first rest) ↔
      Holds last [] ∧ ∀ first rest, first :: rest <:+ packets → Holds first (rest ++ [last]) := by
  constructor
  · intro all
    refine ⟨all last [] (List.suffix_append packets [last]), ?_⟩
    rintro first rest ⟨front, rfl⟩
    exact all first (rest ++ [last]) ⟨front, by simp⟩
  · rintro ⟨alone, longer⟩ first rest suffix
    rcases List.suffix_concat_iff.mp suffix with empty | ⟨window, same, inside⟩
    · contradiction
    · cases window with
      | nil =>
          obtain ⟨rfl, rfl⟩ := List.cons.inj same
          exact alone
      | cons head tail =>
          obtain ⟨rfl, rfl⟩ := List.cons.inj same
          exact longer first tail inside

/-- What a bucket can pay for at any later tick is what each window of released packets leaves
of the depth. -/
def Measures (depth level checkpoint : Int) (charge : UInt32 → Int)
    (packets : List Attempt) : Prop :=
  ∀ demand now, checkpoint ≤ now →
    (demand ≤ min depth (level + (now - checkpoint)) ↔
      demand ≤ depth ∧ ∀ first rest, first :: rest <:+ packets →
        total charge (first :: rest) + demand ≤ depth + (now - first.time.toInt))

/-- A full bucket has no past. -/
theorem measures_full (depth checkpoint : Int) (charge : UInt32 → Int) :
    Measures depth depth checkpoint charge [] := by
  intro demand now order
  simp only [List.suffix_nil, reduceCtorEq, false_implies, implies_true, and_true]
  omega

/-- A released packet is taken off the level and joins each window. -/
theorem measures_append {depth level checkpoint : Int} {charge : UInt32 → Int}
    {packets : List Attempt} (measures : Measures depth level checkpoint charge packets)
    {last : Attempt} (order : checkpoint ≤ last.time.toInt) :
    Measures depth
      (min depth (level + (last.time.toInt - checkpoint)) - charge last.length)
      last.time.toInt charge (packets ++ [last]) := by
  intro demand now later
  -- A demand now is the packet's charge and that demand at the packet's own tick, less the time
  -- that passes between the two.
  have before := measures (charge last.length + demand - (now - last.time.toInt))
    last.time.toInt order
  rw [windows_append]
  simp only [← List.cons_append, total_append, total_singleton]
  constructor
  · intro covered
    obtain ⟨deep, windows⟩ := before.mp (by omega)
    refine ⟨by omega, by omega, ?_⟩
    intro first rest inside
    have bound := windows first rest inside
    omega
  · rintro ⟨deep, alone, longer⟩
    have covered := before.mpr ⟨by omega, fun first rest inside => by
      have bound := longer first rest inside
      omega⟩
    omega

/-- The level tells whether one more packet keeps each window within the depth. -/
theorem Measures.covers_iff {depth : Ticks} {level checkpoint : Int} {charge : UInt32 → Int}
    {packets : List Attempt} (measures : Measures depth.toInt level checkpoint charge packets)
    {last : Attempt} (order : checkpoint ≤ last.time.toInt) :
    charge last.length ≤ min depth.toInt (level + (last.time.toInt - checkpoint)) ↔
      WindowsWithin depth charge (packets ++ [last]) last.time := by
  rw [measures _ _ order, WindowsWithin, windows_append]
  simp only [← List.cons_append, total_append, total_singleton, Int.sub_self, Int.add_zero]

/-- A smaller charge and a greater depth keep windows within. -/
theorem WindowsWithin.mono {depth deeper : Ticks} {charge lighter : UInt32 → Int}
    {packets : List Attempt} {now : Ticks}
    (within : WindowsWithin depth charge packets now)
    (less : ∀ length, lighter length ≤ charge length)
    (more : depth.toInt ≤ deeper.toInt) : WindowsWithin deeper lighter packets now := by
  intro first rest inside
  have bound := within first rest inside
  have lightly : total lighter (first :: rest) ≤ total charge (first :: rest) :=
    List.sum_le_sum fun packet _ => less packet.length
  omega

end Attempt

/-- Each window up to the last packet is within the committed depth, and within the peak depth if
there is a peak rate. -/
def Plan.Conforms (plan : Plan) (packets : List Attempt) (now : Ticks) : Prop :=
  Attempt.WindowsWithin plan.depth plan.charge packets now ∧
    (plan.peak.isSome → Attempt.WindowsWithin plan.peakDepth plan.peakCharge packets now)

namespace Bucket

open Attempt

/-- The bucket answers attempts one after another. -/
def answerAll (bucket : Bucket) : List Attempt → Except Fault (Bucket × List Release)
  | [] => .ok (bucket, [])
  | attempt :: rest => do
      let (bucket, answer) ← bucket.release attempt.length attempt.time
      let (bucket, answers) ← bucket.answerAll rest
      pure (bucket, answer :: answers)

/-- The tokens record the packets released so far. A peak bucket that is deeper than the committed
one may forget time, but then it always holds at least as many tokens. -/
structure Records (bucket : Bucket) (packets : List Attempt) : Prop where
  committed : Measures bucket.plan.depth.toInt bucket.tokens.toInt bucket.checkpoint.toInt
    bucket.plan.charge packets
  peak :
    (bucket.plan.peakDepth.toInt ≤ bucket.plan.depth.toInt ∧
      Measures bucket.plan.peakDepth.toInt bucket.peakTokens.toInt bucket.checkpoint.toInt
        bucket.plan.peakCharge packets) ∨
    (bucket.plan.depth.toInt ≤ bucket.plan.peakDepth.toInt ∧
      bucket.tokens.toInt ≤ bucket.peakTokens.toInt)

theorem full_records (plan : Plan) (now : Ticks) : (full plan now).Records [] where
  committed := measures_full _ _ _
  peak := by
    by_cases order : plan.peakDepth.toInt ≤ plan.depth.toInt
    · exact .inl ⟨order, measures_full _ _ _⟩
    · exact .inr ⟨Int.le_of_lt (Int.not_le.mp order), Int.le_of_lt (Int.not_le.mp order)⟩

variable {bucket : Bucket} {packets : List Attempt}

/-- A peak bucket that is no deeper than the committed one counts all the time that passes. -/
theorem peakAvailable_of_le {now : Ticks} (sound : bucket.Sound now)
    (shallow : bucket.plan.peakDepth.toInt ≤ bucket.plan.depth.toInt) :
    bucket.peakAvailable now =
      min bucket.plan.peakDepth.toInt
        (bucket.peakTokens.toInt + (now.toInt - bucket.checkpoint.toInt)) := by
  have nonneg := sound.peakTokens_nonneg
  unfold peakAvailable
  omega

/-- Where the peak bucket holds more, the committed bucket decides. -/
theorem available_le_peakAvailable {now : Ticks} (sound : bucket.Sound now)
    (deep : bucket.plan.depth.toInt ≤ bucket.plan.peakDepth.toInt)
    (more : bucket.tokens.toInt ≤ bucket.peakTokens.toInt) :
    bucket.available now ≤ bucket.peakAvailable now := by
  have nonneg := sound.peakTokens_nonneg
  unfold available peakAvailable
  omega

/-- Both buckets can pay for a packet exactly when it conforms to those released before. -/
theorem covers_iff_conforms (records : bucket.Records packets) {attempt : Attempt}
    (sound : bucket.Sound attempt.time) :
    bucket.Covers attempt.length attempt.time ↔
      bucket.plan.Conforms (packets ++ [attempt]) attempt.time := by
  have committed := records.committed.covers_iff sound.checkpoint_le
  rw [Covers, Plan.Conforms, ← committed]
  apply and_congr_right
  intro covered
  by_cases absent : bucket.plan.peak = none
  · rw [Plan.peakCharge_of_none absent, absent]
    simpa using peakAvailable_nonneg sound
  have present : bucket.plan.peak.isSome := Option.isSome_iff_ne_none.mpr absent
  rcases records.peak with ⟨shallow, peak⟩ | ⟨deep, more⟩
  · rw [peakAvailable_of_le sound shallow, peak.covers_iff sound.checkpoint_le]
    exact ⟨fun within _ => within, fun within => within present⟩
  · have enough := available_le_peakAvailable sound deep more
    have cheaper := sound.plan.peakCharge_le attempt.length
    have paid : bucket.plan.peakCharge attempt.length ≤ bucket.peakAvailable attempt.time :=
      Int.le_trans cheaper (Int.le_trans covered enough)
    exact ⟨fun _ _ => (committed.mp covered).mono sound.plan.peakCharge_le deep, fun _ => paid⟩

/-- A packet that is paid for is recorded. -/
theorem Paid.records {after : Bucket} {attempt : Attempt}
    (paid : bucket.Paid attempt.length attempt.time after) (records : bucket.Records packets)
    (sound : bucket.Sound attempt.time) : after.Records (packets ++ [attempt]) := by
  obtain ⟨plan, tokens, peakTokens, checkpoint⟩ := paid
  have order := sound.checkpoint_le
  constructor
  case committed =>
    rw [plan, tokens, checkpoint]
    exact measures_append records.committed order
  case peak =>
    rw [plan, tokens, peakTokens, checkpoint]
    rcases records.peak with ⟨shallow, peak⟩ | ⟨deep, more⟩
    · rw [peakAvailable_of_le sound shallow]
      exact .inl ⟨shallow, measures_append peak order⟩
    · have enough := available_le_peakAvailable sound deep more
      have cheaper := sound.plan.peakCharge_le attempt.length
      exact .inr ⟨deep, by omega⟩

theorem released_cons_ready (attempt : Attempt) (attempts : List Attempt)
    (answers : List Release) :
    released (attempt :: attempts) (.ready :: answers) = attempt :: released attempts answers := by
  simp [released]

theorem released_cons_waitUntil (attempt : Attempt) (attempts : List Attempt) (time : Ticks)
    (answers : List Release) :
    released (attempt :: attempts) (.waitUntil time :: answers) = released attempts answers := by
  simp [released]

/-- A bucket that records its past answers each attempt by what it released before. -/
theorem answerAll_of_records {start : Ticks} (sound : bucket.Sound start)
    (records : bucket.Records packets) {attempts : List Attempt}
    (ordered : (start :: attempts.map Attempt.time).IsChain (· ≤ ·)) :
    ∃ after answers, bucket.answerAll attempts = .ok (after, answers) ∧
      answers.length = attempts.length ∧
      ∀ index (inRange : index < attempts.length),
        answers[index]? = some .ready ↔
          bucket.plan.Conforms
            (packets ++ released (attempts.take index) (answers.take index) ++ [attempts[index]])
            attempts[index].time := by
  induction attempts generalizing bucket packets start with
  | nil => exact ⟨bucket, [], rfl, rfl, by simp⟩
  | cons attempt rest ih =>
      rw [List.map_cons, List.isChain_cons_cons] at ordered
      have now := sound.later ordered.1
      have decides := covers_iff_conforms records now
      by_cases covers : bucket.Covers attempt.length attempt.time
      · obtain ⟨paid, answered, payment⟩ := release_of_covers now covers
        obtain ⟨after, answers, run, sameLength, each⟩ :=
          ih (payment.sound now covers) (payment.records records now) ordered.2
        refine ⟨after, .ready :: answers, ?_, by rw [List.length_cons, sameLength,
          List.length_cons], ?_⟩
        · simp only [answerAll, answered, run, bind, Except.bind, pure, Except.pure]
        · intro index inRange
          cases index with
          | zero => simpa [released] using decides.mp covers
          | succ index =>
              have later := each index (Nat.lt_of_succ_lt_succ inRange)
              rw [payment.plan] at later
              simpa [released_cons_ready] using later
      · obtain ⟨time, answered, -⟩ := release_of_not_covers now covers
        obtain ⟨after, answers, run, sameLength, each⟩ := ih now records ordered.2
        refine ⟨after, .waitUntil time :: answers, ?_, by rw [List.length_cons, sameLength,
          List.length_cons], ?_⟩
        · simp only [answerAll, answered, run, bind, Except.bind, pure, Except.pure]
        · intro index inRange
          cases index with
          | zero => simpa [released] using decides.not.mp covers
          | succ index =>
              have later := each index (Nat.lt_of_succ_lt_succ inRange)
              simpa [released_cons_waitUntil] using later

/-- A bucket that starts full answers every attempt, and releases exactly the packets that conform
to those that it released before. -/
theorem answerAll_conforms {configuration : Configuration} {plan : Plan}
    (accepted : configuration.plan = .ok plan) {start : Ticks} (nonneg : 0 ≤ start)
    {attempts : List Attempt}
    (ordered : (start :: attempts.map Attempt.time).IsChain (· ≤ ·)) :
    ∃ bucket answers, (full plan start).answerAll attempts = .ok (bucket, answers) ∧
      answers.length = attempts.length ∧
      ∀ index (inRange : index < attempts.length),
        answers[index]? = some .ready ↔
          plan.Conforms
            (released (attempts.take index) (answers.take index) ++ [attempts[index]])
            attempts[index].time := by
  have sound := full_sound (Configuration.plan_sound accepted)
    (by simpa [Int64.le_iff_toInt_le] using nonneg)
  exact answerAll_of_records sound (full_records plan start) ordered

/-- Three attempts at a bucket whose peak is deeper than its committed depth. -/
theorem answerAll_conforms_deepPeak :
    let attempts : List Attempt := [⟨2000, 0⟩, ⟨2000, 0⟩, ⟨2000, 5000000⟩]
    Configuration.deepPeak.plan = .ok Plan.deepPeak ∧ (0 : Ticks) ≤ 0 ∧
      (0 :: attempts.map Attempt.time).IsChain (· ≤ ·) ∧
      ∃ bucket answers, (full Plan.deepPeak 0).answerAll attempts = .ok (bucket, answers) ∧
        answers.length = attempts.length ∧
        ∀ index (inRange : index < attempts.length),
          answers[index]? = some .ready ↔
            Plan.deepPeak.Conforms
              (released (attempts.take index) (answers.take index) ++ [attempts[index]])
              attempts[index].time :=
  ⟨Configuration.deepPeak_plan, by decide, by decide,
    answerAll_conforms Configuration.deepPeak_plan (by decide) (by decide)⟩

example :
    ((full Plan.deepPeak 0).answerAll [⟨2000, 0⟩, ⟨2000, 0⟩, ⟨2000, 5000000⟩]).map Prod.snd =
      .ok [.ready, .waitUntil 1096000, .ready] := by
  decide +kernel

end Bucket

end TrafficShaper
