/-
Where the packets go that are offered to a backlog by itself, whatever is called on it. A new limit
leaves the packets alone, so that a backlog can hold more than its limit allows. All the same the
byte count is exact, every packet still waits, was handed back once or was let go, and no offer
stretches the backlog further.
-/

import TrafficShaper.Proofs.Operations

namespace TrafficShaper.Backlog

variable {P : Type} [Packet P]

/-- A call to a backlog. -/
inductive Call (P : Type) where
  | offer (packet : P)
  | takeHead
  | dropTail
  | peek
  | clear
  | dropOversized (largest : UInt32)
  | relimit (discipline : Discipline) (limit : UInt32)

/-- The answer to a call. -/
inductive Answer (P : Type) where
  | offered (admission : Admission P)
  | taken (head : Option P)
  | dropped (tail : Option P)
  | peeked (head : Option P)
  | cleared (bytes : UInt64)
  | drained (packets : List P)
  | relimited

/-- What a call makes of a backlog, and its answer. An empty backlog has nothing to take. -/
def answer (backlog : Backlog P) : Call P → Backlog P × Answer P
  | .offer packet => ((backlog.offer packet).1, .offered (backlog.offer packet).2)
  | .takeHead =>
      match backlog.takeHead with
      | none => (backlog, .taken none)
      | some (head, rest) => (rest, .taken (some head))
  | .dropTail =>
      match backlog.dropTail with
      | none => (backlog, .dropped none)
      | some (tail, rest) => (rest, .dropped (some tail))
  | .peek => (backlog, .peeked backlog.head?)
  | .clear => (backlog.clear.1, .cleared backlog.clear.2)
  | .dropOversized largest =>
      ((backlog.dropOversized largest).2, .drained (backlog.dropOversized largest).1)
  | .relimit discipline limit => (backlog.relimit discipline limit, .relimited)

/-- The packets that wait have fewer bytes than a word can count. -/
def Countable (backlog : Backlog P) : Prop := totalLength backlog.packets < 2 ^ 64

instance (backlog : Backlog P) : Decidable backlog.Countable := inferInstanceAs (Decidable (_ < _))

/-- A call, its answer, and the backlogs before and after it. -/
structure Transition (P : Type) where
  before : Backlog P
  call : Call P
  answer : Answer P
  after : Backlog P

/-- The transition of a call. -/
def step (backlog : Backlog P) (call : Call P) : Transition P where
  before := backlog
  call := call
  answer := (backlog.answer call).2
  after := (backlog.answer call).1

namespace Transition

/-- The packet that is offered. -/
def offered (transition : Transition P) : List P :=
  match transition.call with
  | .offer packet => [packet]
  | _ => []

/-- The packets that an answer hands back: the new one for want of room, the head that gave way to
it, or those that leave from either end or for their length. -/
def handedBack (transition : Transition P) : List P :=
  match transition.answer with
  | .offered .queued => []
  | .offered (.displaced head) => [head]
  | .offered (.rejected packet) => [packet]
  | .taken packet | .dropped packet => packet.toList
  | .drained packets => packets
  | .peeked _ | .cleared _ | .relimited => []

/-- The packets that are let go without being handed back. -/
def letGo (transition : Transition P) : List P :=
  match transition.call with
  | .clear => transition.before.packets
  | _ => []

/-- What a call does to the packets: the count stays exact, each packet that waited or was offered
waits, is handed back or is let go, and those that wait keep their order. -/
structure Settles (transition : Transition P) : Prop where
  counted : transition.after.Counted
  places : (transition.before.packets ++ transition.offered).Perm
    (transition.after.packets ++ transition.handedBack ++ transition.letGo)
  order : transition.after.packets.Sublist (transition.before.packets ++ transition.offered)

end Transition

/-- The transitions of calls one after another. -/
def trace (backlog : Backlog P) : List (Call P) → List (Transition P)
  | [] => []
  | call :: rest => backlog.step call :: (backlog.step call).after.trace rest

/-- The backlog to which calls lead. -/
def lead (backlog : Backlog P) (calls : List (Call P)) : Backlog P :=
  calls.foldl (fun backlog call => (backlog.step call).after) backlog

variable {backlog : Backlog P} {packet : P}

theorem Countable.room (countable : (backlog.push packet).Countable) :
    totalLength backlog.packets + (Packet.length packet).toNat < 2 ^ 64 := by
  simpa [Countable] using countable

theorem offer_settles (counted : backlog.Counted)
    (countable : (backlog.offer packet).1.Countable) :
    (backlog.step (.offer packet)).Settles := by
  have cases := backlog.offer_cases packet
  generalize admitted : backlog.offer packet = result at cases countable
  obtain ⟨after, admission⟩ := result
  have same : backlog.step (.offer packet) =
      ⟨backlog, .offer packet, .offered admission, after⟩ := by
    simp only [step, answer, admitted]
  rw [same]
  cases cases with
  | queued free =>
      constructor
      case counted => exact push_counted counted countable.room
      case places => simp [Transition.offered, Transition.handedBack, Transition.letGo]
      case order => simp [Transition.offered]
  | @displaced head rest full discipline taken =>
      have shape := takeHead_packets taken
      constructor
      case counted => exact push_counted (takeHead_counted counted taken) countable.room
      case places =>
        simpa [Transition.offered, Transition.handedBack, Transition.letGo, shape] using
          (List.perm_append_singleton head (rest.packets ++ [packet])).symm
      case order => simp [Transition.offered, shape]
  | rejected full stuck =>
      constructor
      case counted => exact counted
      case places => simp [Transition.offered, Transition.handedBack, Transition.letGo]
      case order => simp [Transition.offered]

/-- A call that neither offers a packet nor lets one go settles the packets that it takes out. -/
theorem settles_of_given {transition : Transition P} (offered : transition.offered = [])
    (letGo : transition.letGo = []) (counted : transition.after.Counted)
    (given : transition.before.packets.Perm (transition.after.packets ++ transition.handedBack))
    (order : transition.after.packets.Sublist transition.before.packets) :
    transition.Settles := by
  constructor
  case counted => exact counted
  case places => simpa [offered, letGo] using given
  case order => simpa [offered] using order

theorem takeHead_settles (counted : backlog.Counted) : (backlog.step .takeHead).Settles := by
  cases taken : backlog.takeHead with
  | none =>
      have same : backlog.step .takeHead = ⟨backlog, .takeHead, .taken none, backlog⟩ := by
        simp only [step, answer, taken]
      rw [same]
      apply settles_of_given rfl rfl counted
      · simp [Transition.handedBack]
      · simp
  | some pair =>
      obtain ⟨head, rest⟩ := pair
      have same : backlog.step .takeHead = ⟨backlog, .takeHead, .taken (some head), rest⟩ := by
        simp only [step, answer, taken]
      have shape := takeHead_packets taken
      rw [same]
      apply settles_of_given rfl rfl (takeHead_counted counted taken)
      · simpa [Transition.handedBack, shape] using
          (List.perm_append_singleton head rest.packets).symm
      · simp [shape]

theorem dropTail_settles (counted : backlog.Counted) : (backlog.step .dropTail).Settles := by
  cases dropped : backlog.dropTail with
  | none =>
      have same : backlog.step .dropTail = ⟨backlog, .dropTail, .dropped none, backlog⟩ := by
        simp only [step, answer, dropped]
      rw [same]
      apply settles_of_given rfl rfl counted
      · simp [Transition.handedBack]
      · simp
  | some pair =>
      obtain ⟨tail, rest⟩ := pair
      have same : backlog.step .dropTail = ⟨backlog, .dropTail, .dropped (some tail), rest⟩ := by
        simp only [step, answer, dropped]
      have shape := dropTail_packets dropped
      rw [same]
      apply settles_of_given rfl rfl (dropTail_counted counted dropped)
      · simp [Transition.handedBack, shape]
      · simp [shape]

theorem dropOversized_settles (counted : backlog.Counted) (largest : UInt32) :
    (backlog.step (.dropOversized largest)).Settles := by
  have parts := List.filter_append_perm (fun packet => decide (largest < Packet.length packet))
    backlog.packets
  apply settles_of_given rfl rfl (dropOversized_counted counted largest)
  · exact (List.perm_append_comm.trans parts).symm
  · exact List.filter_sublist

/-- Each call settles where the packets are. -/
theorem step_settles (counted : backlog.Counted) {call : Call P}
    (countable : (backlog.step call).after.Countable) : (backlog.step call).Settles := by
  cases call with
  | offer packet => exact offer_settles counted countable
  | takeHead => exact takeHead_settles counted
  | dropTail => exact dropTail_settles counted
  | peek =>
      apply settles_of_given rfl rfl counted
      · simp [step, answer, Transition.handedBack]
      · simp [step, answer]
  | clear =>
      constructor
      case counted => exact backlog.clear_counted
      case places => simp [step, answer, clear, Transition.offered, Transition.handedBack,
        Transition.letGo]
      case order => simp [step, answer, clear]
  | dropOversized largest => exact dropOversized_settles counted largest
  | relimit discipline limit =>
      apply settles_of_given rfl rfl (relimit_counted counted discipline limit)
      · simp [step, answer, relimit, Transition.handedBack]
      · simp [step, answer, relimit]

/-- Where the packets are that were offered in the past of a backlog. -/
structure InCustody (backlog : Backlog P) (past : List (Transition P)) : Prop where
  counted : backlog.Counted
  /-- Those that wait stand in the order in which they were offered. -/
  order : backlog.packets.Sublist (past.flatMap Transition.offered)
  /-- Each waits, was handed back or was let go, as often as it was offered. -/
  places : (past.flatMap Transition.offered).Perm
    (backlog.packets ++ past.flatMap Transition.handedBack ++ past.flatMap Transition.letGo)

theorem empty_inCustody (discipline : Discipline) (limit : UInt32) :
    (empty discipline limit : Backlog P).InCustody [] where
  counted := empty_counted discipline limit
  order := List.nil_sublist []
  places := List.Perm.refl []

/-- A call that settles its packets carries the custody on. -/
theorem InCustody.append {past : List (Transition P)} {transition : Transition P}
    (custody : transition.before.InCustody past) (settles : transition.Settles) :
    transition.after.InCustody (past ++ [transition]) := by
  constructor
  case counted => exact settles.counted
  case order =>
    rw [List.flatMap_append, List.flatMap_singleton]
    exact settles.order.trans (custody.order.append_right transition.offered)
  case places =>
    have before := Multiset.coe_eq_coe.mpr custody.places
    have step := Multiset.coe_eq_coe.mpr settles.places
    apply Multiset.coe_eq_coe.mp
    simp only [List.flatMap_append, List.flatMap_singleton, ← Multiset.coe_add] at before step ⊢
    -- The call moves only what waited before it and what it offers; what left before stays away.
    calc _ = (transition.before.packets + transition.offered : Multiset P) +
          past.flatMap Transition.handedBack + past.flatMap Transition.letGo := by
          rw [before]
          ac_rfl
      _ = _ := by
          rw [step]
          ac_rfl

theorem InCustody.trace {past : List (Transition P)} (custody : backlog.InCustody past)
    (calls : List (Call P))
    (countable : ∀ transition ∈ backlog.trace calls, transition.after.Countable) :
    (backlog.lead calls).InCustody (past ++ backlog.trace calls) := by
  -- The induction runs forward over the calls, and `past` are the transitions before the next one.
  induction calls generalizing backlog past with
  | nil => simpa [lead, Backlog.trace] using custody
  | cons call rest ih =>
      have settles := step_settles custody.counted (countable _ List.mem_cons_self)
      have goesOn := ih (custody.append settles) fun transition member =>
        countable transition (List.mem_cons_of_mem _ member)
      rwa [List.append_assoc, List.singleton_append] at goesOn

/-- What becomes of a backlog when a packet is offered to it, as far as its limit goes. -/
structure Unstretched (backlog after : Backlog P) : Prop where
  /-- A backlog within its limit stays within it. -/
  within : backlog.overLimit = false → after.overLimit = false
  /-- A backlog that is over its limit in bytes gets no more bytes. -/
  bytes : backlog.overLimit = true → backlog.discipline = .bytes → after.bytes ≤ backlog.bytes
  /-- A backlog that is over its limit in packets gets no more packets. -/
  packets : backlog.overLimit = true → backlog.discipline ≠ .bytes → after.count ≤ backlog.count

omit [Packet P] in
theorem Unstretched.refl (backlog : Backlog P) : backlog.Unstretched backlog where
  within within := within
  bytes _ _ := UInt64.le_refl _
  packets _ _ := Nat.le_refl _

/-- A backlog that has room for a packet, in its limit and in its byte count, is within its limit. -/
theorem overLimit_of_not_full (counted : backlog.Counted)
    (countable : (backlog.push packet).Countable)
    (free : backlog.full (Packet.length packet) = false) : backlog.overLimit = false := by
  have room : backlog.bytes.toNat + (Packet.length packet).toNat < 2 ^ 64 := by
    rw [counted]
    exact countable.room
  cases kind : backlog.discipline with
  | bytes =>
      simp only [full, overLimit, kind, decide_eq_false_iff_not, UInt64.lt_iff_toNat_lt,
        bytes_add_toNat room] at free ⊢
      omega
  | packets | headDrop =>
      simp only [full, overLimit, kind, decide_eq_false_iff_not] at free ⊢
      omega

/-- A new packet in the place of the head makes no difference to a limit in packets. -/
theorem displaced_unstretched {head : P} {rest : Backlog P}
    (discipline : backlog.discipline = .headDrop) (taken : backlog.takeHead = some (head, rest)) :
    backlog.Unstretched (rest.push packet) := by
  have count : (rest.push packet).count = backlog.count := by
    rw [push_count, takeHead_count taken]
  have limit : (rest.push packet).limit = backlog.limit := by
    rw [takeHead_eq taken, push]
  have same : (rest.push packet).discipline = .headDrop := by
    rw [takeHead_eq taken, push, discipline]
  constructor
  case within =>
    intro within
    simpa only [overLimit, discipline, same, count, limit] using within
  case bytes =>
    intro _ other
    rw [discipline] at other
    contradiction
  case packets => exact fun _ _ => Nat.le_of_eq count

/-- An offer never takes a backlog further over its limit. -/
theorem offer_unstretched (counted : backlog.Counted)
    (countable : (backlog.offer packet).1.Countable) :
    backlog.Unstretched (backlog.offer packet).1 := by
  have cases := backlog.offer_cases packet
  generalize (backlog.offer packet).1 = after, (backlog.offer packet).2 = admission
    at cases countable ⊢
  cases cases with
  | queued free =>
      have within := overLimit_of_not_full counted countable free
      have kept := (room_of_not_full counted within free).2
      constructor
      case within => exact fun _ => kept
      case bytes => simp [within]
      case packets => simp [within]
  | displaced full discipline taken => exact displaced_unstretched discipline taken
  | rejected full stuck => exact .refl backlog

/-- From an empty backlog on, whatever is called, as long as a word can count the bytes that wait:
the byte count is exact, the packets that wait stand in the order in which they were offered, and
each packet that was offered waits, was handed back or was let go, and that in one place and once if
the packets can be told apart. And an offer neither takes a backlog over its limit nor adds to one
that is over it. -/
theorem trace_inCustody (discipline : Discipline) (limit : UInt32) (calls : List (Call P))
    (countable : ∀ transition ∈ (empty discipline limit).trace calls, transition.after.Countable) :
    let past := (empty discipline limit).trace calls
    let backlog := (empty discipline limit).lead calls
    backlog.InCustody past ∧
      ((past.flatMap Transition.offered).Nodup →
        (backlog.packets ++ past.flatMap Transition.handedBack ++
          past.flatMap Transition.letGo).Nodup) ∧
      ∀ packet, (backlog.offer packet).1.Countable →
        backlog.Unstretched (backlog.offer packet).1 := by
  intro past backlog
  have custody : backlog.InCustody past := by
    simpa using (empty_inCustody discipline limit).trace calls countable
  exact ⟨custody, custody.places.nodup_iff.mp, fun _ => offer_unstretched custody.counted⟩

/-- Packets that leave in each way, and three that wait when no packet is allowed to any more. -/
def stretchingCalls : List (Call Sketch) :=
  [.offer ⟨1500, {}⟩, .offer ⟨1400, {}⟩, .offer ⟨200, {}⟩, .takeHead, .offer ⟨300, {}⟩, .dropTail,
    .offer ⟨100, {}⟩, .dropOversized 1000, .clear, .offer ⟨500, {}⟩, .offer ⟨600, {}⟩,
    .offer ⟨700, {}⟩, .relimit .headDrop 0, .peek, .offer ⟨40, {}⟩]

/-- The backlog after these calls. -/
def stretched : Backlog Sketch := (empty .bytes 3000).lead stretchingCalls

/-- The transitions of these calls. -/
def stretchedPast : List (Transition Sketch) := (empty .bytes 3000).trace stretchingCalls

/-- Under a limit of no packets the head gives way to one more packet, and three still wait. -/
theorem stretched_inCustody :
    (∀ transition ∈ stretchedPast, transition.after.Countable) ∧
      stretched.InCustody stretchedPast ∧
      (stretchedPast.flatMap Transition.offered).Nodup ∧
      (stretched.packets ++ stretchedPast.flatMap Transition.handedBack ++
        stretchedPast.flatMap Transition.letGo).Nodup ∧
      (stretched.offer ⟨50, {}⟩).1.Countable ∧
      stretched.overLimit = true ∧ stretched.discipline ≠ .bytes ∧
      (stretched.offer ⟨50, {}⟩).1.count ≤ stretched.count ∧
      stretched.packets = [⟨600, {}⟩, ⟨700, {}⟩, ⟨40, {}⟩] ∧
      stretchedPast.flatMap Transition.handedBack =
        [⟨200, {}⟩, ⟨1500, {}⟩, ⟨300, {}⟩, ⟨1400, {}⟩, ⟨500, {}⟩] ∧
      stretchedPast.flatMap Transition.letGo = [⟨100, {}⟩] := by
  have countable : ∀ transition ∈ stretchedPast, transition.after.Countable := by decide +kernel
  have distinct : (stretchedPast.flatMap Transition.offered).Nodup := by decide +kernel
  have fits : (stretched.offer ⟨50, {}⟩).1.Countable := by decide +kernel
  have exceeded : stretched.overLimit = true := by decide +kernel
  have other : stretched.discipline ≠ .bytes := by decide +kernel
  obtain ⟨custody, once, unstretched⟩ := trace_inCustody .bytes 3000 stretchingCalls countable
  have count := (unstretched ⟨50, {}⟩ fits).packets exceeded other
  exact ⟨countable, custody, distinct, once distinct, fits, exceeded, other, count,
    by decide +kernel, by decide +kernel, by decide +kernel⟩

end TrafficShaper.Backlog
