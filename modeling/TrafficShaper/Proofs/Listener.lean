/-
What a listener gives is what the datagrams hold: of each datagram the whole records in their
order, from its first byte on, and nothing else. The listener answers every poll.
-/

import TrafficShaper.Delivery.Host
import TrafficShaper.Delivery.Listener
import TrafficShaper.Proofs.WireForms

namespace TrafficShaper

namespace Wire

theorem takeWord_append {bytes rest : List UInt8} {word : UInt32}
    (taken : takeWord? bytes = some (word, rest)) (more : List UInt8) :
    takeWord? (bytes ++ more) = some (word, rest ++ more) := by
  unfold takeWord? at taken
  split at taken
  · simp only [Option.some.injEq, Prod.mk.injEq] at taken
    obtain ⟨rfl, rfl⟩ := taken
    rfl
  · contradiction

/-- What stands behind a record does not change how it is read. -/
theorem takeNotice_append {bytes rest : List UInt8} {notice : Notice}
    (taken : takeNotice? bytes = some (notice, rest)) (more : List UInt8) :
    takeNotice? (bytes ++ more) = some (notice, rest ++ more) := by
  simp only [takeNotice?, Option.bind_eq_bind, Option.bind_eq_some_iff, Prod.exists] at taken
  obtain ⟨_, _, first, _, _, second, _, _, third, _, _, fourth, _, _, fifth, last⟩ := taken
  simp only [Option.pure_def, Option.some.injEq, Prod.mk.injEq] at last
  obtain ⟨rfl, rfl⟩ := last
  simp only [takeNotice?, takeWord_append first, takeWord_append second, takeWord_append third,
    takeWord_append fourth, takeWord_append fifth, Option.bind_eq_bind, Option.bind_some,
    Option.pure_def]

/-- The whole groups of twenty bytes, from the first byte on. -/
def groups (bytes : List UInt8) : List (List UInt8) :=
  (List.range (bytes.length / 20)).map fun index => (bytes.drop (20 * index)).take 20

theorem groups_of_enough {bytes : List UInt8} (enough : 20 ≤ bytes.length) :
    groups bytes = bytes.take 20 :: groups (bytes.drop 20) := by
  have count : bytes.length / 20 = (bytes.drop 20).length / 20 + 1 := by
    rw [List.length_drop]
    omega
  rw [groups, count, List.range_succ_eq_map, List.map_cons, List.map_map, groups]
  congr 1
  apply List.map_congr_left
  intro index _
  simp only [Function.comp_apply, List.drop_drop, Nat.mul_succ]
  rw [Nat.add_comm]

theorem groups_of_few {bytes : List UInt8} (few : bytes.length < 20) : groups bytes = [] := by
  rw [groups, Nat.div_eq_of_lt few]
  rfl

namespace Buffer

theorem notices_of_found {buffer rest : Buffer} {notice : Notice}
    (finished : finish buffer = (.ok (some notice), rest)) :
    notices buffer = notice :: notices rest := by
  rw [notices]
  split <;> simp_all

theorem notices_of_nothing {buffer rest : Buffer} (finished : finish buffer = (.ok none, rest)) :
    notices buffer = [] := by
  rw [notices]
  split <;> simp_all

theorem notices_of_failed {buffer rest : Buffer} {error : Error}
    (finished : finish buffer = (.error error, rest)) : notices buffer = notices rest := by
  rw [notices]
  split <;> simp_all

/-- The three ways in which a buffer is read at the end of the input. -/
inductive FinishCase (buffer : Buffer) : Prop where
  | found (notice : Notice) (enough : 20 ≤ buffer.length)
      (finished : finish buffer = (.ok (some notice), buffer.drop 20))
      (group : decode (buffer.take 20) = .ok (notice, []))
  | nothing (empty : buffer = []) (finished : finish buffer = (.ok none, []))
  | failed (part : 0 < buffer.length) (few : buffer.length < 20)
      (finished : finish buffer = (.error (.short 20 buffer.length), []))

theorem finish_cases (buffer : Buffer) : FinishCase buffer := by
  by_cases enough : 20 ≤ buffer.length
  · have whole : 20 ≤ (buffer.take 20).length := by
      rw [List.length_take]
      omega
    obtain ⟨notice, alone, -⟩ := takeNotice_of_enough whole
    rw [List.drop_eq_nil_of_le (List.length_take_le 20 buffer)] at alone
    have taken := takeNotice_append alone (buffer.drop 20)
    rw [List.take_append_drop, List.nil_append] at taken
    refine .found notice enough ?_ ?_
    · rw [finish, next, taken]
    · rw [decode, alone]
  · have few : buffer.length < 20 := by omega
    have none := takeNotice_eq_none few
    cases buffer with
    | nil => exact .nothing rfl rfl
    | cons first rest =>
        refine .failed (by simp) few ?_
        rw [finish, next, none]
        rfl

theorem notices_nil : notices [] = [] := notices_of_nothing rfl

/-- The notices of a datagram are read from its whole groups, one from each. -/
theorem groups_decode (bytes : List UInt8) :
    (groups bytes).map decode = (notices bytes).map fun notice => .ok (notice, []) := by
  cases finish_cases bytes with
  | found notice enough finished group =>
      have shorter := List.length_drop (i := 20) (l := bytes)
      rw [groups_of_enough enough, notices_of_found finished, List.map_cons, List.map_cons, group,
        groups_decode (bytes.drop 20)]
  | nothing empty finished =>
      rw [notices_of_nothing finished, empty]
      rfl
  | failed part few finished =>
      rw [groups_of_few few, notices_of_failed finished, notices_nil]
      rfl
termination_by bytes.length

/-- The number of calls with which a decoder is done with bytes that are a whole datagram. The
last call finds nothing, and a part of a record at the end takes one call more. -/
def calls (bytes : List UInt8) : Nat :=
  bytes.length / 20 + if 20 ∣ bytes.length then 1 else 2

theorem calls_of_enough {bytes : List UInt8} (enough : 20 ≤ bytes.length) :
    calls bytes = calls (bytes.drop 20) + 1 := by
  have multiple : 20 ∣ bytes.length ↔ 20 ∣ bytes.length - 20 := by omega
  rw [calls, calls, List.length_drop, if_congr multiple rfl rfl]
  omega

theorem calls_of_few {bytes : List UInt8} (part : 0 < bytes.length) (few : bytes.length < 20) :
    calls bytes = calls [] + 1 := by
  have short : ¬ 20 ∣ bytes.length := by omega
  rw [calls, if_neg short, Nat.div_eq_of_lt few]
  rfl

end Buffer

end Wire

namespace Delivery

namespace Datagram

/-- What a datagram holds: its notices, each with the sender of the datagram. -/
def receipts (datagram : Datagram) : List Receipt :=
  (Wire.Buffer.notices datagram.bytes).map fun notice => (notice, datagram.sender)

/-- The number of calls that a datagram takes. -/
def calls (datagram : Datagram) : Nat := Wire.Buffer.calls datagram.bytes

end Datagram

namespace Progress

/-- What the unread datagrams hold. -/
def owed (progress : Progress) : List Receipt := progress.unread.flatMap Datagram.receipts

/-- The number of calls that the unread datagrams take. -/
def debt (progress : Progress) : Nat := (progress.unread.map Datagram.calls).sum

variable {datagram : Datagram} {rest : List Datagram} {count : Nat}

theorem debt_between : debt ⟨none, rest, count⟩ = (rest.map Datagram.calls).sum := rfl

theorem owed_reading :
    owed ⟨some datagram, rest, count⟩ = datagram.receipts ++ rest.flatMap Datagram.receipts := rfl

theorem debt_reading :
    debt ⟨some datagram, rest, count⟩ = datagram.calls + (rest.map Datagram.calls).sum :=
  List.sum_cons

/-- The socket goes on without an item. What is owed stays, and so does the number of all calls. -/
structure GoesOn (before after : Progress) : Prop where
  owed : before.owed = after.owed
  calls : after.calls + after.debt = before.calls + before.debt
  smaller : after.debt + after.waiting.length < before.debt + before.waiting.length

/-- The socket gives the receipt that is owed first. -/
structure Gives (before : Progress) (receipt : Receipt) (after : Progress) : Prop where
  owed : before.owed = receipt :: after.owed
  calls : after.calls + after.debt = before.calls + before.debt

/-- A datagram that is taken waits no longer. -/
theorem taken_goesOn : GoesOn ⟨none, datagram :: rest, count⟩ ⟨some datagram, rest, count⟩ := by
  constructor
  case owed => rfl
  case calls => rfl
  case smaller =>
    rw [debt_between, debt_reading, List.map_cons, List.sum_cons]
    exact Nat.lt_succ_self _

theorem found_gives {notice : Notice} (enough : 20 ≤ datagram.bytes.length)
    (finished : Wire.Buffer.finish datagram.bytes =
      (.ok (some notice), datagram.bytes.drop 20)) :
    Gives ⟨some datagram, rest, count⟩ (notice, datagram.sender)
      ⟨some { datagram with bytes := datagram.bytes.drop 20 }, rest, count + 1⟩ := by
  constructor
  case owed =>
    rw [owed_reading, owed_reading, Datagram.receipts, Wire.Buffer.notices_of_found finished]
    rfl
  case calls =>
    rw [debt_reading, debt_reading, Datagram.calls, Datagram.calls,
      Wire.Buffer.calls_of_enough enough]
    dsimp only
    omega

/-- The error about a part of a record costs a call. -/
theorem failed_goesOn {error : Wire.Error} (part : 0 < datagram.bytes.length)
    (few : datagram.bytes.length < 20)
    (finished : Wire.Buffer.finish datagram.bytes = (.error error, [])) :
    GoesOn ⟨some datagram, rest, count⟩
      ⟨some { datagram with bytes := [] }, rest, count + 1⟩ := by
  have cost : datagram.calls = Datagram.calls { datagram with bytes := [] } + 1 :=
    Wire.Buffer.calls_of_few part few
  constructor
  case owed =>
    rw [owed_reading, owed_reading, Datagram.receipts, Wire.Buffer.notices_of_failed finished]
    rfl
  case calls =>
    rw [debt_reading, debt_reading, cost]
    dsimp only
    omega
  case smaller =>
    rw [debt_reading, debt_reading, cost]
    dsimp only
    omega

/-- The end of a datagram costs a call. -/
theorem ended_goesOn (empty : datagram.bytes = []) :
    GoesOn ⟨some datagram, rest, count⟩ ⟨none, rest, count + 1⟩ := by
  have cost : datagram.calls = 1 := by
    rw [Datagram.calls, empty]
    rfl
  constructor
  case owed =>
    rw [owed_reading, Datagram.receipts, empty, Wire.Buffer.notices_nil]
    rfl
  case calls =>
    rw [debt_reading, debt_between, cost]
    dsimp only
    omega
  case smaller =>
    rw [debt_reading, debt_between, cost]
    dsimp only
    omega

end Progress

namespace Listener

variable {S : Type} [DatagramSocket S]

open DatagramSocket (receive poll progress)

theorem next_of_item {socket after : S} {receipt : Receipt}
    (polled : poll Wire.Buffer.finish socket = (after, .item (.ok receipt))) :
    next socket = (after, .item receipt) := by
  rw [next]
  split <;> simp_all

theorem next_of_error {socket after : S} {error : Wire.Error}
    (polled : poll Wire.Buffer.finish socket = (after, .item (.error error))) :
    next socket = next after := by
  rw [next]
  split <;> simp_all

theorem next_of_pending {socket after : S}
    (polled : poll Wire.Buffer.finish socket = (after, .pending)) :
    next socket = (after, .pending) := by
  rw [next]
  split <;> simp_all

theorem next_of_ended {socket after : S}
    (polled : poll Wire.Buffer.finish socket = (after, .ended)) :
    next socket = (after, .ended) := by
  rw [next]
  split <;> simp_all

theorem next_of_poll_eq {socket other : S}
    (same : poll Wire.Buffer.finish socket = poll Wire.Buffer.finish other) :
    next socket = next other := by
  match polled : poll Wire.Buffer.finish other with
  | (after, .item (.ok receipt)) =>
      rw [next_of_item polled, next_of_item (same.trans polled)]
  | (after, .item (.error error)) =>
      rw [next_of_error polled, next_of_error (same.trans polled)]
  | (after, .ended) => rw [next_of_ended polled, next_of_ended (same.trans polled)]
  | (after, .pending) => rw [next_of_pending polled, next_of_pending (same.trans polled)]

/-- Each poll of a listener has an answer. It gives the first receipt that is owed, or it says that
there is nothing for now, and then nothing is owed. -/
inductive Answered (socket : S) : Prop where
  | gives (after : S) (receipt : Receipt)
      (answers : next socket = (after, .item receipt))
      (given : (progress socket).Gives receipt (progress after))
  | waits (after : S) (answers : next socket = (after, .pending))
      (nothing : (progress socket).owed = []) (idle : (progress after).unread = [])
      (counted : (progress after).calls = (progress socket).calls + (progress socket).debt)

theorem Answered.of_goesOn {socket other : S} (answered : Answered other)
    (same : next socket = next other) (goesOn : (progress socket).GoesOn (progress other)) :
    Answered socket := by
  cases answered with
  | gives after receipt answers given =>
      exact .gives after receipt (same.trans answers)
        ⟨goesOn.owed.trans given.owed, given.calls.trans goesOn.calls⟩
  | waits after answers nothing idle counted =>
      exact .waits after (same.trans answers) (goesOn.owed.trans nothing) idle
        (counted.trans goesOn.calls)

/-- The recursion is on the calls that are still to be made and the datagrams that wait. -/
theorem next_answered (socket : S) : Answered socket := by
  match seen : progress socket with
  | ⟨none, [], count⟩ =>
      obtain ⟨after, polled, idle⟩ := DatagramSocket.poll_idle Wire.Buffer.finish socket seen
      refine .waits after (next_of_pending polled) ?_ ?_ ?_
      · rw [seen]
        rfl
      · rw [idle]
        rfl
      · rw [idle, seen]
        rfl
  | ⟨none, datagram :: rest, count⟩ =>
      obtain ⟨taken, polled, reads⟩ := DatagramSocket.poll_take Wire.Buffer.finish socket seen
      have goesOn : (progress socket).GoesOn (progress taken) := by
        rw [seen, reads]
        exact Progress.taken_goesOn
      exact (next_answered taken).of_goesOn (next_of_poll_eq polled) goesOn
  | ⟨some datagram, rest, count⟩ =>
      cases Wire.Buffer.finish_cases datagram.bytes with
      | found notice enough finished group =>
          obtain ⟨after, polled, reads⟩ := DatagramSocket.poll_found _ socket seen finished
          refine .gives after _ (next_of_item polled) ?_
          rw [seen, reads]
          exact Progress.found_gives enough finished
      | nothing empty finished =>
          obtain ⟨cleared, polled, between⟩ := DatagramSocket.poll_done _ socket seen finished
          have goesOn : (progress socket).GoesOn (progress cleared) := by
            rw [seen, between]
            exact Progress.ended_goesOn empty
          exact (next_answered cleared).of_goesOn (next_of_poll_eq polled) goesOn
      | failed part few finished =>
          obtain ⟨after, polled, reads⟩ := DatagramSocket.poll_failed _ socket seen finished
          have goesOn : (progress socket).GoesOn (progress after) := by
            rw [seen, reads]
            exact Progress.failed_goesOn part few finished
          exact (next_answered after).of_goesOn (next_of_error polled) goesOn
termination_by (progress socket).debt + (progress socket).waiting.length
decreasing_by all_goals exact goesOn.smaller

theorem idle_owed {progress : Progress} (idle : progress.unread = []) : progress.owed = [] := by
  rw [Progress.owed, idle]
  rfl

theorem idle_debt {progress : Progress} (idle : progress.unread = []) : progress.debt = 0 := by
  rw [Progress.debt, idle]
  rfl

theorem gives_of_next {socket after : S} {receipt : Receipt}
    (answered : next socket = (after, .item receipt)) :
    (progress socket).Gives receipt (progress after) := by
  cases next_answered socket with
  | gives other item answers given =>
      rw [answered] at answers
      cases answers
      exact given
  | waits other answers nothing idle counted =>
      rw [answered] at answers
      cases answers

/-- There is nothing for now only when nothing is owed. -/
theorem owed_of_waits {socket after : S} (answered : next socket = (after, .pending)) :
    (progress socket).owed = [] ∧ (progress after).unread = [] ∧
      (progress after).calls = (progress socket).calls + (progress socket).debt := by
  cases next_answered socket with
  | gives other item answers given =>
      rw [answered] at answers
      cases answers
  | waits other answers nothing idle counted =>
      rw [answered] at answers
      cases answers
      exact ⟨nothing, idle, counted⟩

/-- A listener is at work: datagrams arrive and polls are answered, in any order. -/
inductive Hears (start : S) : List Datagram → List Receipt → S → Prop where
  | start : Hears start [] [] start
  | arrives {datagrams : List Datagram} {receipts : List Receipt} {socket : S}
      (heard : Hears start datagrams receipts socket) (datagram : Datagram) :
      Hears start (datagrams ++ [datagram]) receipts (receive socket datagram)
  | gives {datagrams : List Datagram} {receipts : List Receipt} {socket after : S}
      {receipt : Receipt} (heard : Hears start datagrams receipts socket)
      (answered : next socket = (after, .item receipt)) :
      Hears start datagrams (receipts ++ [receipt]) after
  | waits {datagrams : List Datagram} {receipts : List Receipt} {socket after : S}
      (heard : Hears start datagrams receipts socket)
      (answered : next socket = (after, .pending)) : Hears start datagrams receipts after

variable {start socket : S} {datagrams : List Datagram} {receipts : List Receipt}

theorem receive_owed (socket : S) (datagram : Datagram) :
    (progress (receive socket datagram)).owed =
      (progress socket).owed ++ datagram.receipts := by
  rw [DatagramSocket.receive_progress]
  simp [Progress.owed, Progress.unread]

theorem receive_calls (socket : S) (datagram : Datagram) :
    (progress (receive socket datagram)).calls +
        (progress (receive socket datagram)).debt =
      (progress socket).calls + (progress socket).debt + datagram.calls := by
  rw [DatagramSocket.receive_progress]
  simp [Progress.debt, Progress.unread]
  omega

/-- What was given and what is owed are together what the datagrams hold. -/
theorem Hears.balance (heard : Hears start datagrams receipts socket)
    (idle : (progress start).unread = []) :
    receipts ++ (progress socket).owed = datagrams.flatMap Datagram.receipts := by
  induction heard with
  | start => exact idle_owed idle
  | arrives heard datagram balance =>
      rw [receive_owed, ← List.append_assoc, balance, List.flatMap_append, List.flatMap_singleton]
  | gives heard answered balance =>
      rw [← balance, (gives_of_next answered).owed, List.append_assoc, List.singleton_append]
  | waits heard answered balance =>
      obtain ⟨nothing, idle, -⟩ := owed_of_waits answered
      rw [← balance, nothing, idle_owed idle]

/-- The calls that were made and those that are still to be made are together what the datagrams
take. -/
theorem Hears.calls (heard : Hears start datagrams receipts socket)
    (idle : (progress start).unread = []) :
    (progress socket).calls + (progress socket).debt =
      (progress start).calls + (datagrams.map Datagram.calls).sum := by
  induction heard with
  | start =>
      rw [idle_debt idle]
      rfl
  | arrives heard datagram balance =>
      rw [receive_calls, balance, List.map_append, List.sum_append, List.map_singleton,
        List.sum_singleton, Nat.add_assoc]
  | gives heard answered balance => rw [← balance, (gives_of_next answered).calls]
  | waits heard answered balance =>
      obtain ⟨-, idle, counted⟩ := owed_of_waits answered
      rw [← balance, counted, idle_debt idle, Nat.add_zero]

/-- All that is owed is given in the end, and then the listener waits. -/
theorem Hears.finish (heard : Hears start datagrams receipts socket) :
    ∃ last after, Hears start datagrams (receipts ++ (progress socket).owed) last ∧
      next last = (after, .pending) := by
  generalize left : (progress socket).owed = owed
  induction owed generalizing receipts socket with
  | nil =>
      cases next_answered socket with
      | gives after receipt answers given =>
          rw [given.owed] at left
          contradiction
      | waits after answers nothing idle counted =>
          rw [List.append_nil]
          exact ⟨socket, after, heard, answers⟩
  | cons receipt rest further =>
      cases next_answered socket with
      | gives after first answers given =>
          rw [given.owed, List.cons.injEq] at left
          obtain ⟨rfl, remaining⟩ := left
          have longer := further (heard.gives answers) remaining
          rwa [List.append_assoc, List.singleton_append] at longer
      | waits after answers nothing idle counted =>
          rw [left] at nothing
          contradiction

end Listener

/-- The bytes of a parcel on the way. -/
def Parcel.payload : Parcel → List UInt8
  | .datagram bytes => bytes
  | .dispatch sent => Wire.encode sent.notice

/-- The notice that was meant with a parcel, if it was one. -/
def Parcel.notice? : Parcel → Option Notice
  | .datagram _ => none
  | .dispatch sent => some sent.notice

/-- What a parcel is read as: a dispatch as its notice, and any other bytes as what they spell. -/
def Parcel.read : Parcel → List Notice
  | .datagram bytes => Wire.Buffer.notices bytes
  | .dispatch sent => [sent.notice]

theorem notices_encode (notice : Notice) : Wire.Buffer.notices (Wire.encode notice) = [notice] := by
  have taken := Wire.takeNotice_encode notice []
  rw [List.append_nil] at taken
  have finished : Wire.Buffer.finish (Wire.encode notice) = (.ok (some notice), []) := by
    rw [Wire.Buffer.finish, Wire.Buffer.next, taken]
  rw [Wire.Buffer.notices_of_found finished, Wire.Buffer.notices_nil]

theorem Parcel.notices_payload (parcel : Parcel) :
    Wire.Buffer.notices parcel.payload = parcel.read := by
  cases parcel with
  | datagram bytes => rfl
  | dispatch sent => exact notices_encode sent.notice

/-- Nothing is read from a datagram without a whole record. -/
theorem notices_of_few {bytes : List UInt8} (few : bytes.length < 20) :
    Wire.Buffer.notices bytes = [] := by
  have read := Wire.Buffer.groups_decode bytes
  rw [Wire.groups_of_few few] at read
  exact List.map_eq_nil_iff.mp read.symm

namespace Datagram

theorem receipts_notices (datagram : Datagram) :
    datagram.receipts.map Prod.fst = Wire.Buffer.notices datagram.bytes := by
  rw [receipts, List.map_map]
  exact List.map_id _

theorem notices_of_bytes (datagrams : List Datagram) :
    (datagrams.flatMap receipts).map Prod.fst =
      (datagrams.map bytes).flatMap Wire.Buffer.notices := by
  rw [List.map_flatMap, List.flatMap_map]
  exact List.flatMap_congr fun datagram _ => receipts_notices datagram

end Datagram

/-- What a collector has read of an exchange is what a listener gives of what arrived there. -/
theorem Exchange.notices_eq (exchange : Exchange) (datagrams : List Datagram)
    (arrived : datagrams.map Datagram.bytes = exchange.arrived) :
    (datagrams.flatMap Datagram.receipts).map Prod.fst = exchange.notices := by
  rw [Datagram.notices_of_bytes, arrived]
  rfl

/-- What is meant with the parcels is read in their order, among what other bytes spell. -/
theorem notices_sublist (parcels : List Parcel) :
    (parcels.filterMap Parcel.notice?).Sublist (parcels.flatMap Parcel.read) := by
  induction parcels with
  | nil => exact List.Sublist.refl []
  | cons parcel rest further =>
      rw [List.flatMap_cons]
      cases parcel with
      | datagram bytes => exact further.trans (List.sublist_append_right _ _)
      | dispatch sent => exact further.cons_cons sent.notice

/-- Bytes without a whole record leave no trace. -/
theorem read_of_few {parcels : List Parcel}
    (few : ∀ bytes, Parcel.datagram bytes ∈ parcels → bytes.length < 20) :
    parcels.flatMap Parcel.read = parcels.filterMap Parcel.notice? := by
  induction parcels with
  | nil => rfl
  | cons parcel rest further =>
      have unchanged := further fun bytes within => few bytes (List.mem_cons_of_mem parcel within)
      rw [List.flatMap_cons, unchanged]
      cases parcel with
      | datagram bytes =>
          have nothing := notices_of_few (few bytes List.mem_cons_self)
          rw [Parcel.read, nothing]
          rfl
      | dispatch sent => rfl

namespace Listener

variable {S : Type} [DatagramSocket S]

open DatagramSocket (receive progress)

/-- Datagrams are read exactly. Of each of them one notice is read from every whole group, with
the sender of the datagram, and they are given in order; the listener goes on until it has given
all of them, and what is left over at the end of a datagram costs two calls of the decoder at
most. The notices that were sent are among them, unchanged and in their order. -/
structure Exact (start : S) (datagrams : List Datagram) (receipts : List Receipt) (socket : S) :
    Prop where
  groups : ∀ datagram ∈ datagrams,
    (Wire.groups datagram.bytes).map Wire.decode =
      datagram.receipts.map fun receipt => .ok (receipt.1, [])
  senders : ∀ datagram ∈ datagrams, ∀ receipt ∈ datagram.receipts, receipt.2 = datagram.sender
  inOrder : receipts <+: datagrams.flatMap Datagram.receipts
  answers :
    (∃ after receipt, next socket = (after, .item receipt) ∧
      receipts ++ [receipt] <+: datagrams.flatMap Datagram.receipts) ∨
    (∃ after, next socket = (after, .pending) ∧
      receipts = datagrams.flatMap Datagram.receipts ∧
      (progress after).calls = (progress start).calls + (datagrams.map Datagram.calls).sum)
  calls : (progress socket).calls ≤ (progress start).calls + (datagrams.map Datagram.calls).sum
  completes : ∃ rest last after, Hears socket [] rest last ∧ next last = (after, .pending) ∧
    receipts ++ rest = datagrams.flatMap Datagram.receipts
  carried : ∀ parcels : List Parcel, datagrams.map Datagram.bytes = parcels.map Parcel.payload →
    (datagrams.flatMap Datagram.receipts).map Prod.fst = parcels.flatMap Parcel.read ∧
    (parcels.filterMap Parcel.notice?).Sublist
      ((datagrams.flatMap Datagram.receipts).map Prod.fst) ∧
    ((∀ bytes, .datagram bytes ∈ parcels → bytes.length < 20) →
      (datagrams.flatMap Datagram.receipts).map Prod.fst = parcels.filterMap Parcel.notice?)

/-- A listener that starts with nothing to read is exact about all that arrives, however its polls
and the arrivals follow each other. -/
theorem hears_exact {start socket : S} {datagrams : List Datagram} {receipts : List Receipt}
    (heard : Hears start datagrams receipts socket) (idle : (progress start).unread = []) :
    Exact start datagrams receipts socket := by
  have balance := heard.balance idle
  have counted := heard.calls idle
  constructor
  case groups =>
    intro datagram _
    rw [Datagram.receipts, List.map_map]
    exact Wire.Buffer.groups_decode datagram.bytes
  case senders =>
    intro datagram _ receipt within
    obtain ⟨notice, -, rfl⟩ := List.mem_map.mp within
    rfl
  case inOrder => exact ⟨_, balance⟩
  case answers =>
    cases next_answered socket with
    | gives after receipt answers _ =>
        have balanced := (heard.gives answers).balance idle
        exact .inl ⟨after, receipt, answers, _, balanced⟩
    | waits after answers nothing _ made =>
        rw [nothing, List.append_nil] at balance
        exact .inr ⟨after, answers, balance, made.trans counted⟩
  case calls => omega
  case completes =>
    obtain ⟨last, after, given, answers⟩ := (Hears.start : Hears socket [] [] socket).finish
    exact ⟨_, last, after, given, answers, balance⟩
  case carried =>
    intro parcels sent
    have read : (datagrams.flatMap Datagram.receipts).map Prod.fst =
        parcels.flatMap Parcel.read := by
      rw [Datagram.notices_of_bytes, sent, List.flatMap_map]
      exact List.flatMap_congr fun parcel _ => parcel.notices_payload
    rw [read]
    exact ⟨rfl, notices_sublist parcels, read_of_few⟩

end Listener

namespace Progress

/-- The datagrams are decoded one after the other, up to the first that gives something. -/
def read (decoder : Decoder) :
    Nat → List Datagram → Progress × Poll (Except Wire.Error Receipt)
  | count, [] => (⟨none, [], count⟩, .pending)
  | count, datagram :: rest =>
      match decoder datagram.bytes with
      | (.ok (some notice), left) =>
          (⟨some { datagram with bytes := left }, rest, count + 1⟩,
            .item (.ok (notice, datagram.sender)))
      | (.error error, left) =>
          (⟨some { datagram with bytes := left }, rest, count + 1⟩, .item (.error error))
      | (.ok none, _) => read decoder (count + 1) rest

/-- A progress is a socket whose datagrams are handed to it. -/
instance : DatagramSocket Progress where
  receive progress datagram := { progress with waiting := progress.waiting ++ [datagram] }
  poll decoder progress := read decoder progress.calls progress.unread
  progress progress := progress
  receive_progress _ _ := rfl
  poll_idle := by
    rintro decoder _ count rfl
    exact ⟨_, rfl, rfl⟩
  poll_take := by
    rintro decoder _ datagram rest count rfl
    exact ⟨⟨some datagram, rest, count⟩, rfl, rfl⟩
  poll_found := by
    rintro decoder _ datagram rest count notice left rfl found
    refine ⟨_, ?_, rfl⟩
    simp only [unread, Option.toList_some, List.singleton_append, read, found]
  poll_failed := by
    rintro decoder _ datagram rest count error left rfl failed
    refine ⟨_, ?_, rfl⟩
    simp only [unread, Option.toList_some, List.singleton_append, read, failed]
  poll_done := by
    rintro decoder _ datagram rest count left rfl nothing
    refine ⟨⟨none, rest, count + 1⟩, ?_, rfl⟩
    simp only [unread, Option.toList_some, List.singleton_append, read, nothing]
    rfl

end Progress

namespace Listener

/-- A notice with a negative offset. -/
def bulky : Notice := ⟨.ofBytes 10 0 0 2, .ofBytes 10 0 0 1, 63, -266208, 145500⟩

/-- A runt, then a notice with a part of a record behind it, then nothing, then the notice. -/
def mixed : List Parcel :=
  [.datagram [1, 2, 3], .datagram (Wire.encode bulky ++ [4, 5]), .datagram [],
    .dispatch { notice := bulky }]

/-- The place that these parcels come from. -/
def sender : Endpoint := .v4 (.ofBytes 10 0 0 9) 40000

/-- A listener that finds nothing in a runt gives two notices of what arrives later, the same as an
exchange reads of it. -/
theorem mixed_exact : ∃ socket : Progress,
    Hears (⟨none, [], 0⟩ : Progress) (mixed.map fun parcel => ⟨sender, parcel.payload⟩)
      [(bulky, sender), (bulky, sender)] socket ∧
    Exact (⟨none, [], 0⟩ : Progress) (mixed.map fun parcel => ⟨sender, parcel.payload⟩)
      [(bulky, sender), (bulky, sender)] socket ∧
    ∀ exchange : Exchange, exchange.arrived = mixed.map Parcel.payload →
      exchange.notices = [bulky, bulky] := by
  let part : Datagram := ⟨sender, Wire.encode bulky ++ [4, 5]⟩
  let whole : Datagram := ⟨sender, Wire.encode bulky⟩
  have runtFailed : next (⟨none, [⟨sender, [1, 2, 3]⟩], 0⟩ : Progress) =
      next ⟨some ⟨sender, []⟩, [], 1⟩ := next_of_error rfl
  have runtRead : next (⟨some ⟨sender, []⟩, [], 1⟩ : Progress) = (⟨none, [], 2⟩, .pending) :=
    next_of_pending rfl
  have first : next (⟨none, [part, ⟨sender, []⟩], 2⟩ : Progress) =
      (⟨some ⟨sender, [4, 5]⟩, [⟨sender, []⟩], 3⟩, .item (bulky, sender)) := next_of_item rfl
  have partFailed : next (⟨some ⟨sender, [4, 5]⟩, [⟨sender, []⟩, whole], 3⟩ : Progress) =
      next ⟨some ⟨sender, []⟩, [⟨sender, []⟩, whole], 4⟩ := next_of_error rfl
  have second : next (⟨some ⟨sender, []⟩, [⟨sender, []⟩, whole], 4⟩ : Progress) =
      (⟨some ⟨sender, []⟩, [], 7⟩, .item (bulky, sender)) := next_of_item rfl
  have heard := (Hears.start : Hears (⟨none, [], 0⟩ : Progress) [] [] _).arrives ⟨sender, [1, 2, 3]⟩
  have heard := heard.waits (runtFailed.trans runtRead)
  have heard := (heard.arrives part).arrives ⟨sender, []⟩
  have heard := (heard.gives first).arrives whole
  have heard := heard.gives (partFailed.trans second)
  refine ⟨_, heard, hears_exact heard rfl, ?_⟩
  intro exchange arrived
  let datagrams : List Datagram := mixed.map fun parcel => ⟨sender, parcel.payload⟩
  have spent : next (⟨some ⟨sender, []⟩, [], 7⟩ : Progress) = (⟨none, [], 8⟩, .pending) :=
    next_of_pending rfl
  have balance : [(bulky, sender), (bulky, sender)] = datagrams.flatMap Datagram.receipts :=
    (heard.waits spent).balance rfl
  rw [← exchange.notices_eq datagrams arrived.symm, ← balance]
  rfl

end Listener

end Delivery

end TrafficShaper
