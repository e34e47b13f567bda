/-
A listener takes notices from a socket one after the other, with their senders. The socket hands
what it receives to a decoder; the listener passes over the errors of the decoder.
-/

import TrafficShaper.Delivery.Collector
import TrafficShaper.Wire.Datagram

namespace TrafficShaper.Delivery

/-- Bytes that arrive together, and where they come from. -/
structure Datagram where
  sender : Endpoint
  bytes : List UInt8
deriving DecidableEq, Repr

/-- A stream that is polled gives an item, or it is at its end, or there is nothing for now. -/
inductive Poll (A : Type) where
  | item (item : A)
  | ended
  | pending
deriving DecidableEq, Repr

/-- A decoder takes an item from the front of a buffer to which nothing will be added. -/
abbrev Decoder := Wire.Buffer → Except Wire.Error (Option Notice) × Wire.Buffer

/-- A notice and where it came from. -/
abbrev Receipt := Notice × Endpoint

/-- What is seen of a socket: the datagram that is being read, as far as it is left, those that
wait behind it, and how often a decoder was called. -/
structure Progress where
  reading : Option Datagram := none
  waiting : List Datagram := []
  calls : Nat := 0
deriving DecidableEq, Repr

namespace Progress

/-- The datagrams that are not yet read to their ends. -/
def unread (progress : Progress) : List Datagram := progress.reading.toList ++ progress.waiting

/-- The number of bytes of the unread datagrams. -/
def size (progress : Progress) : Nat :=
  (progress.unread.flatMap Datagram.bytes).length

end Progress

/-- A socket is a stream of what a decoder makes of the datagrams that it receives. It takes one
when it reads none, and then calls the decoder on what is left of it, again after each item and
each error, until nothing is found; the datagram is thrown away then. -/
class DatagramSocket (S : Type) where
  receive : S → Datagram → S
  poll : Decoder → S → S × Poll (Except Wire.Error Receipt)
  progress : S → Progress
  receive_progress (socket : S) (datagram : Datagram) :
    progress (receive socket datagram) =
      { progress socket with waiting := (progress socket).waiting ++ [datagram] }
  poll_idle (decoder : Decoder) (socket : S) {calls : Nat}
    (idle : progress socket = ⟨none, [], calls⟩) :
    ∃ after, poll decoder socket = (after, .pending) ∧ progress after = ⟨none, [], calls⟩
  poll_take (decoder : Decoder) (socket : S) {datagram : Datagram} {rest : List Datagram}
    {calls : Nat} (waits : progress socket = ⟨none, datagram :: rest, calls⟩) :
    ∃ taken, poll decoder socket = poll decoder taken ∧
      progress taken = ⟨some datagram, rest, calls⟩
  poll_found (decoder : Decoder) (socket : S) {datagram : Datagram} {rest : List Datagram}
    {calls : Nat} {notice : Notice} {left : Wire.Buffer}
    (reads : progress socket = ⟨some datagram, rest, calls⟩)
    (found : decoder datagram.bytes = (.ok (some notice), left)) :
    ∃ after, poll decoder socket = (after, .item (.ok (notice, datagram.sender))) ∧
      progress after = ⟨some { datagram with bytes := left }, rest, calls + 1⟩
  poll_failed (decoder : Decoder) (socket : S) {datagram : Datagram} {rest : List Datagram}
    {calls : Nat} {error : Wire.Error} {left : Wire.Buffer}
    (reads : progress socket = ⟨some datagram, rest, calls⟩)
    (failed : decoder datagram.bytes = (.error error, left)) :
    ∃ after, poll decoder socket = (after, .item (.error error)) ∧
      progress after = ⟨some { datagram with bytes := left }, rest, calls + 1⟩
  poll_done (decoder : Decoder) (socket : S) {datagram : Datagram} {rest : List Datagram}
    {calls : Nat} {left : Wire.Buffer}
    (reads : progress socket = ⟨some datagram, rest, calls⟩)
    (nothing : decoder datagram.bytes = (.ok none, left)) :
    ∃ cleared, poll decoder socket = poll decoder cleared ∧
      progress cleared = ⟨none, rest, calls + 1⟩

namespace Listener

variable {S : Type} [DatagramSocket S]

open DatagramSocket (poll progress)

/-- An error leaves fewer bytes to read. -/
theorem size_lt_of_error {socket after : S} {error : Wire.Error}
    (polled : poll Wire.Buffer.finish socket = (after, .item (.error error))) :
    (progress after).size < (progress socket).size := by
  match seen : progress socket with
  | ⟨none, [], calls⟩ =>
      obtain ⟨_, answered, -⟩ := DatagramSocket.poll_idle Wire.Buffer.finish socket seen
      simp [answered] at polled
  | ⟨none, datagram :: rest, calls⟩ =>
      obtain ⟨taken, same, reads⟩ := DatagramSocket.poll_take Wire.Buffer.finish socket seen
      have smaller := size_lt_of_error (same.symm.trans polled)
      rw [reads] at smaller
      exact smaller
  | ⟨some datagram, rest, calls⟩ =>
      match finished : Wire.Buffer.finish datagram.bytes with
      | (.ok (some notice), left) =>
          obtain ⟨_, answered, -⟩ := DatagramSocket.poll_found _ socket seen finished
          simp [answered] at polled
      | (.error found, left) =>
          obtain ⟨other, answered, reads⟩ := DatagramSocket.poll_failed _ socket seen finished
          have shorter := Wire.Buffer.finish_length_of_error finished
          simp only [answered, Prod.mk.injEq] at polled
          rw [← polled.1, reads]
          simp only [Progress.size, Progress.unread, Option.toList_some, List.singleton_append,
            List.flatMap_cons, List.length_append]
          omega
      | (.ok none, left) =>
          obtain ⟨cleared, same, between⟩ := DatagramSocket.poll_done _ socket seen finished
          have smaller := size_lt_of_error (same.symm.trans polled)
          rw [between] at smaller
          simp only [Progress.size, Progress.unread, Option.toList_some, Option.toList_none,
            List.singleton_append, List.nil_append, List.flatMap_cons, List.length_append]
            at smaller ⊢
          omega
termination_by 2 * (progress socket).waiting.length + (progress socket).reading.toList.length
decreasing_by
  · simp [seen, reads]
    omega
  · simp [seen, between]

/-- The socket is polled until there is something else than an error. -/
def next (socket : S) : S × Poll Receipt :=
  match polled : poll Wire.Buffer.finish socket with
  | (after, .item (.ok receipt)) => (after, .item receipt)
  | (after, .item (.error _)) =>
      have := size_lt_of_error polled
      next after
  | (after, .ended) => (after, .ended)
  | (after, .pending) => (after, .pending)
termination_by (progress socket).size

end Listener

end TrafficShaper.Delivery
