/-
A stream of records may be cut anywhere, within a record or within a word, and may be read at any
time. The notices that were given and those that can still be read come from the bytes that were
fed, however these were cut.
-/

import TrafficShaper.Proofs.Listener

namespace TrafficShaper.Wire.Buffer

variable {buffer rest : Buffer} {notice : Notice} {records : List Notice} {tail : List UInt8}

theorem next_eq_some : buffer.next = (some notice, rest) ↔
    takeNotice? buffer = some (notice, rest) := by
  rw [next]
  cases takeNotice? buffer <;> simp [Prod.ext_iff]

theorem next_eq_none : buffer.next = (none, rest) ↔ takeNotice? buffer = none ∧ rest = buffer := by
  rw [next]
  cases takeNotice? buffer <;> simp [eq_comm]

theorem next_length (found : buffer.next = (some notice, rest)) : rest.length < buffer.length := by
  have length := takeNotice_length (next_eq_some.mp found)
  rw [recordLength] at length
  omega

/-- More bytes do not change a record that is there. -/
theorem next_append (found : buffer.next = (some notice, rest)) (more : List UInt8) :
    next (buffer ++ more) = (some notice, rest ++ more) :=
  next_eq_some.mpr (takeNotice_append (next_eq_some.mp found) more)

theorem next_of_few (few : buffer.length < 20) : buffer.next = (none, buffer) :=
  next_eq_none.mpr ⟨takeNotice_eq_none few, rfl⟩

theorem next_encode (notice : Notice) (more : List UInt8) :
    next (encode notice ++ more) = (some notice, more) :=
  next_eq_some.mpr (takeNotice_encode notice more)

/-- The notices that can be read now, and what they leave. -/
def drain (buffer : Buffer) : List Notice × Buffer :=
  match found : buffer.next with
  | (some notice, rest) =>
      have := next_length found
      (notice :: (drain rest).1, (drain rest).2)
  | (none, rest) => ([], rest)
termination_by buffer.length

theorem drain_of_found (found : buffer.next = (some notice, rest)) :
    buffer.drain = (notice :: rest.drain.1, rest.drain.2) := by
  rw [drain]
  split <;> simp_all

theorem drain_of_nothing (nothing : buffer.next = (none, rest)) : buffer.drain = ([], buffer) := by
  rw [drain]
  split <;> simp_all [next_eq_none]

theorem drain_of_idle (idle : buffer.drain.1 = []) : buffer.drain = ([], buffer) := by
  match found : buffer.next with
  | (some notice, rest) =>
      rw [drain_of_found found] at idle
      contradiction
  | (none, rest) => exact drain_of_nothing found

/-- More bytes follow what was left before. -/
theorem drain_append (buffer : Buffer) (more : List UInt8) :
    drain (buffer ++ more) =
      (buffer.drain.1 ++ (drain (buffer.drain.2 ++ more)).1,
        (drain (buffer.drain.2 ++ more)).2) := by
  match found : buffer.next with
  | (some notice, rest) =>
      have := next_length found
      rw [drain_of_found found, drain_of_found (next_append found more), drain_append rest more]
      rfl
  | (none, rest) =>
      rw [drain_of_nothing found]
      rfl
termination_by buffer.length

/-- A whole stream is drained down to its tail. -/
theorem drain_stream (few : tail.length < 20) (records : List Notice) :
    drain (records.flatMap encode ++ tail) = (records, tail) := by
  induction records with
  | nil => exact drain_of_nothing (next_of_few few)
  | cons first later ih =>
      rw [List.flatMap_cons, List.append_assoc, drain_of_found (next_encode first _), ih]

/-- The records that have all their bytes among the first ones of the stream, up to this count. -/
def arrived : List Notice → Nat → List Notice
  | [], _ => []
  | first :: later, count =>
      if (encode first).length ≤ count then first :: arrived later (count - (encode first).length)
      else []

/-- From the first part of a stream those records are read that are in it as a whole. -/
theorem drain_of_prefix (few : tail.length < 20) {bytes : List UInt8}
    (start : bytes <+: records.flatMap encode ++ tail) :
    (drain bytes).1 = arrived records bytes.length := by
  induction records generalizing bytes with
  | nil =>
      have short : bytes.length < 20 := Nat.lt_of_le_of_lt start.length_le few
      rw [drain_of_nothing (next_of_few short), arrived]
  | cons first later ih =>
      rw [List.flatMap_cons, List.append_assoc] at start
      rw [arrived]
      split
      · rename_i enough
        have whole := List.prefix_of_prefix_length_le (List.prefix_append _ _) start enough
        obtain ⟨more, rfl⟩ := whole
        rw [drain_of_found (next_encode first more), List.length_append, Nat.add_sub_cancel_left,
          ih ((List.prefix_append_right_inj _).mp start)]
      · rename_i part
        rw [encode_length, recordLength, Nat.not_le] at part
        rw [drain_of_nothing (next_of_few part)]

/-- What is done with a buffer before its input ends. -/
inductive Step where
  | feed (bytes : List UInt8)
  | write (notice : Notice)
  | next
deriving DecidableEq

/-- A step may give a notice. -/
def step (buffer : Buffer) : Step → Buffer × Option Notice
  | .feed bytes => (buffer.feed bytes, none)
  | .write notice => (buffer.write notice, none)
  | .next => (buffer.next.2, buffer.next.1)

/-- The steps are done one after the other, and their notices are collected. -/
def run (buffer : Buffer) : List Step → Buffer × List Notice
  | [] => (buffer, [])
  | first :: later =>
      ((run (buffer.step first).1 later).1,
        (buffer.step first).2.toList ++ (run (buffer.step first).1 later).2)

/-- The bytes that a step puts to the end of the buffer. -/
def Step.bytes : Step → List UInt8
  | .feed bytes => bytes
  | .write notice => encode notice
  | .next => []

/-- All bytes that were put into the buffer. -/
def fed (steps : List Step) : List UInt8 := steps.flatMap Step.bytes

theorem step_drain (buffer : Buffer) (first : Step) (more : List UInt8) :
    drain (buffer ++ (first.bytes ++ more)) =
      ((buffer.step first).2.toList ++ (drain ((buffer.step first).1 ++ more)).1,
        (drain ((buffer.step first).1 ++ more)).2) := by
  cases first with
  | feed | write =>
      rw [← List.append_assoc]
      rfl
  | next =>
      match found : buffer.next with
      | (some notice, rest) =>
          rw [step, found]
          exact drain_of_found (next_append found more)
      | (none, rest) =>
          obtain ⟨-, rfl⟩ := next_eq_none.mp found
          rw [step, found]
          rfl

/-- Whatever was fed, however it was cut and whenever it was read, it is given once and in order. -/
theorem run_drain (buffer : Buffer) (steps : List Step) :
    drain (buffer ++ fed steps) =
      ((buffer.run steps).2 ++ (buffer.run steps).1.drain.1, (buffer.run steps).1.drain.2) := by
  induction steps generalizing buffer with
  | nil => rw [fed, List.flatMap_nil, List.append_nil, run, List.nil_append]
  | cons first later ih =>
      have order : fed (first :: later) = first.bytes ++ fed later := List.flatMap_cons
      rw [order, step_drain, ih, run, List.append_assoc]

/-- The end of the input comes when no record is left. -/
theorem finish_of_few (few : tail.length < 20) :
    finish tail = (if tail = [] then .ok none else .error (.short 20 tail.length), []) := by
  cases finish_cases tail with
  | found notice enough => omega
  | nothing empty finished => rw [finished, if_pos empty]
  | failed part few finished => rw [finished, if_neg (List.ne_nil_of_length_pos part)]

/-- Another record does not change what can be read before it. -/
structure Appends (buffer : Buffer) (notice : Notice) : Prop where
  bytes : ∃ record, record.length = 20 ∧ buffer.write notice = buffer ++ record
  before : buffer.drain.1 <+: (buffer.write notice).drain.1
  last : buffer.drain.2 = [] → (buffer.write notice).drain = (buffer.drain.1 ++ [notice], [])

theorem write_appends (buffer : Buffer) (notice : Notice) : buffer.Appends notice := by
  constructor
  case bytes => exact ⟨encode notice, encode_length notice, rfl⟩
  case before =>
    rw [write, feed, drain_append]
    exact List.prefix_append _ _
  case last =>
    intro aligned
    have few : ([] : List UInt8).length < 20 := by decide
    have alone := drain_stream few [notice]
    rw [List.flatMap_singleton, List.append_nil] at alone
    rw [write, feed, drain_append, aligned, List.nil_append, alone]

/-- A stream of records with a tail is put into an empty buffer, and read on the way. -/
structure ReadsStream (records : List Notice) (tail : List UInt8) (steps : List Step) : Prop where
  arrived : (run [] steps).2 ++ (run [] steps).1.drain.1 = arrived records (fed steps).length
  waits : ∀ buffer rest : Buffer, buffer.next = (none, rest) → rest = buffer
  appends : ∀ (buffer : Buffer) (notice : Notice), buffer.Appends notice
  ended : fed steps = records.flatMap encode ++ tail → (run [] steps).2 = records →
    (run [] steps).1 = tail ∧
      (run [] steps).1.finish =
        (if tail = [] then .ok none else .error (.short 20 tail.length), []) ∧
      finish [] = (.ok none, [])

/-- However the stream is cut and whenever it is read, the notices are those of the records that
have come in as a whole, and the tail is left for the end. -/
theorem run_reads_stream (few : tail.length < 20) {steps : List Step}
    (start : fed steps <+: records.flatMap encode ++ tail) : ReadsStream records tail steps := by
  have drained := run_drain [] steps
  rw [List.nil_append] at drained
  constructor
  case arrived => rw [← drain_of_prefix few start, drained]
  case waits => exact fun buffer rest nothing => (next_eq_none.mp nothing).2
  case appends => exact write_appends
  case ended =>
    intro whole given
    rw [whole, drain_stream few, given] at drained
    have idle : (run [] steps).1.drain.1 = [] :=
      List.self_eq_append_right.mp (congrArg Prod.fst drained)
    rw [drain_of_idle idle] at drained
    have left : tail = (run [] steps).1 := congrArg Prod.snd drained
    rw [← left]
    exact ⟨rfl, finish_of_few few, rfl⟩

/-- Two records and a tail. The second record is cut within a word. -/
def cutNotices : List Notice := [⟨⟨1⟩, ⟨2⟩, 3, 4, -5⟩, ⟨⟨6⟩, ⟨7⟩, 8, -9, 10⟩]

/-- The first record is written and not fed, and there is a call before the second has come in. -/
def cutSteps : List Step :=
  let bytes := cutNotices.flatMap encode ++ [1, 2, 3]
  [.write ⟨⟨1⟩, ⟨2⟩, 3, 4, -5⟩, .feed ((bytes.drop 20).take 10), .next, .next,
    .feed (bytes.drop 30), .next, .next]

theorem cut_reads_stream :
    [1, 2, 3].length < 20 ∧ fed cutSteps <+: cutNotices.flatMap encode ++ [1, 2, 3] ∧
      fed cutSteps = cutNotices.flatMap encode ++ [1, 2, 3] ∧
      (run [] cutSteps).2 = cutNotices ∧ ReadsStream cutNotices [1, 2, 3] cutSteps := by
  have few : [1, 2, 3].length < 20 := by decide
  have whole : fed cutSteps = cutNotices.flatMap encode ++ [1, 2, 3] := by decide
  have start : fed cutSteps <+: cutNotices.flatMap encode ++ [1, 2, 3] := ⟨[], by rw [whole]; rfl⟩
  exact ⟨few, start, whole, by decide, run_reads_stream few start⟩

end TrafficShaper.Wire.Buffer
