/-
A bounded queue of dispatches between their producers and one consumer. A push never waits.
-/

import TrafficShaper.Delivery.Channel
import TrafficShaper.Fault

namespace TrafficShaper.Delivery

/-- A queue with a fixed capacity. -/
structure Queue where
  capacity : Nat
  /-- The dispatches that wait, the oldest one first. -/
  waiting : List Dispatch := []
  /-- The producers that are still there. -/
  producers : Nat := 1
  /-- The consumer is still there. -/
  consumed : Bool := true
  counters : Counters := {}
deriving Repr

/-- What a consumer finds that is ready to wait. -/
inductive Arrival where
  | taken (dispatch : Dispatch)
  /-- Nothing is there, and nothing can come any more. -/
  | ended
  /-- Nothing is there yet. -/
  | nothingYet
deriving DecidableEq, Repr

namespace Queue

/-- No queue is larger than this. -/
def largestCapacity : Nat := (UInt64.size - 1) >>> 3

/-- A queue has room for one dispatch at least. -/
def create (capacity : Nat) : Except Fault Queue :=
  if largestCapacity < capacity then .error .hugeCapacity
  else .ok { capacity := max capacity 1 }

/-- A dispatch joins the queue when the consumer is there and the queue has room. -/
def offer (queue : Queue) (dispatch : Dispatch) : Queue × Outcome :=
  if !queue.consumed then (queue, .error .closed)
  else if queue.capacity ≤ queue.waiting.length then (queue, .error .queueFull)
  else ({ queue with waiting := queue.waiting ++ [dispatch] }, .ok ())

/-- The outcome of an offer is counted, unless the consumer was gone. -/
def count (queue : Queue) : Outcome → Queue
  | .ok _ => { queue with counters := queue.counters.countAccepted }
  | .error .queueFull => { queue with counters := queue.counters.countQueueFull }
  | .error _ => queue

/-- A push is an offer that is counted. The consumer may come in between. -/
def push (queue : Queue) (dispatch : Dispatch) : Queue × Outcome :=
  let (queue, outcome) := queue.offer dispatch
  (queue.count outcome, outcome)

/-- The oldest dispatch is taken, or the consumer is told what to expect. -/
def take (queue : Queue) : Queue × Arrival :=
  match queue.waiting with
  | dispatch :: rest => ({ queue with waiting := rest }, .taken dispatch)
  | [] => (queue, if queue.producers = 0 then .ended else .nothingYet)

/-- One more producer. -/
def addProducer (queue : Queue) : Queue := { queue with producers := queue.producers + 1 }

/-- One producer less. -/
def dropProducer (queue : Queue) : Queue := { queue with producers := queue.producers - 1 }

/-- The consumer goes, and what waited is lost. -/
def close (queue : Queue) : Queue := { queue with waiting := [], consumed := false }

end Queue

instance : Channel Queue where
  deliver := Queue.push
  counters := Queue.counters

/-- The ends of a queue in the hands of their owner: one producer, at times a second one, and the
consumer. What is asked of an end that is gone has no answer. -/
structure QueueEnds where
  queue : Queue
  first : Bool := true
  second : Bool := false
deriving Repr

namespace QueueEnds

/-- The first producer pushes. -/
def push? (ends : QueueEnds) (dispatch : Dispatch) : Option (QueueEnds × Outcome) :=
  if ends.first then
    let (queue, outcome) := ends.queue.push dispatch
    some ({ ends with queue }, outcome)
  else none

/-- The consumer takes what there is. -/
def take? (ends : QueueEnds) : Option (QueueEnds × Arrival) :=
  if ends.queue.consumed then
    let (queue, arrival) := ends.queue.take
    some ({ ends with queue }, arrival)
  else none

/-- A second producer is made from the first one, unless there is one already. -/
def addSecond? (ends : QueueEnds) : Option QueueEnds :=
  if !ends.first then none
  else if ends.second then some ends
  else some { ends with second := true, queue := ends.queue.addProducer }

/-- The second producer goes. -/
def dropSecond (ends : QueueEnds) : QueueEnds :=
  if ends.second then { ends with second := false, queue := ends.queue.dropProducer } else ends

/-- The first producer goes. -/
def dropFirst (ends : QueueEnds) : QueueEnds :=
  if ends.first then { ends with first := false, queue := ends.queue.dropProducer } else ends

/-- The consumer goes. -/
def close (ends : QueueEnds) : QueueEnds := { ends with queue := ends.queue.close }

end QueueEnds

end TrafficShaper.Delivery
