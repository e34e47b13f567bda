/-
A worker drains a queue in the background and hands each dispatch to a transport, one at a time.
It waits for a dispatch no longer than its poll interval before it looks whether it was cancelled.
-/

import TrafficShaper.Delivery.Queue
import TrafficShaper.Timeline

namespace TrafficShaper.Delivery

/-- A transmission takes some time, and then succeeds or fails. -/
structure Transmission where
  /-- The time in ticks. -/
  duration : Nat := 0
  success : Bool := true
deriving DecidableEq, Repr

/-- A transport may treat each dispatch in its own way, and it knows how many were before it. -/
abbrev Transport := Nat → Dispatch → Transmission

/-- What a worker is doing. -/
inductive Phase where
  /-- The worker is about to look whether it was cancelled. -/
  | checking
  /-- The worker waits for a dispatch, at the latest until the deadline. -/
  | waiting (deadline : Nat)
  /-- The transport is busy with a dispatch until the given time, at which it succeeds or fails. -/
  | sending (dispatch : Dispatch) (done : Nat) (success : Bool)
  | stopped
deriving DecidableEq, Repr

/-- The log of a worker tells each transmission, and when the transport was given up. -/
inductive WorkerEvent where
  | transmitted (time : Nat) (dispatch : Dispatch) (success : Bool)
  | gaveUp (time : Nat)
deriving DecidableEq, Repr

/-- A worker with its queue. -/
structure Worker where
  queue : Queue
  transport : Transport := fun _ _ => {}
  /-- The longest wait for a dispatch in ticks. -/
  pollInterval : Nat := 100 * ticksPerMillisecond
  phase : Phase := .checking
  cancelled : Bool := false
  log : List WorkerEvent := []

/-- The options of a worker. -/
structure WorkerOptions where
  capacity : Nat := 16
  pollInterval : Nat := 100 * ticksPerMillisecond
deriving DecidableEq, Repr

namespace Worker

/-- A worker needs an executor that runs it in the background. -/
def spawn? (executor : Bool) (options : WorkerOptions) (transport : Transport) :
    Except Fault (Option Worker) :=
  if !executor then .ok none
  else
    match Queue.create options.capacity with
    | .error fault => .error fault
    | .ok queue => .ok (some { queue, transport, pollInterval := options.pollInterval })

/-- A dispatch is delivered by a push to the queue. -/
def deliver (worker : Worker) (dispatch : Dispatch) : Worker × Outcome :=
  let (queue, outcome) := worker.queue.push dispatch
  ({ worker with queue }, outcome)

/-- A cancelled worker stops as soon as it looks. -/
def cancel (worker : Worker) : Worker := { worker with cancelled := true }

/-- The owner lets the worker go: it is cancelled, and its queue loses the producer. -/
def release (worker : Worker) : Worker :=
  { worker.cancel with queue := worker.queue.dropProducer }

/-- A worker that stops gives up its transport and closes its queue. -/
def stop (worker : Worker) (now : Nat) : Worker :=
  { worker with
    phase := .stopped
    queue := worker.queue.close
    log := worker.log ++ [.gaveUp now] }

/-- A worker that is not cancelled waits for the next dispatch. -/
def check (worker : Worker) (now : Nat) : Worker :=
  if worker.cancelled then worker.stop now
  else { worker with phase := .waiting (now + worker.pollInterval) }

/-- A dispatch that was taken from the queue is transmitted. -/
def begin (worker : Worker) (dispatch : Dispatch) (now : Nat) : Worker :=
  let transmission := worker.transport worker.log.length dispatch
  { worker with
    phase := .sending dispatch (now + transmission.duration) transmission.success }

/-- A finished transmission is counted, and the worker looks again. -/
def complete (worker : Worker) (dispatch : Dispatch) (success : Bool) (now : Nat) : Worker :=
  { worker with
    phase := .checking
    log := worker.log ++ [.transmitted now dispatch success]
    queue := { worker.queue with
      counters :=
        if success then worker.queue.counters.countTransmitted
        else worker.queue.counters.countTransportError } }

/-- The next move that a worker can make now, or none if it has to wait. A dispatch is taken
before the deadline is looked at. -/
def move? (worker : Worker) (now : Nat) : Option Worker :=
  match worker.phase with
  | .checking => some (worker.check now)
  | .waiting deadline =>
      match worker.queue.take with
      | (queue, .taken dispatch) => some ({ worker with queue }.begin dispatch now)
      | (_, .ended) => some (worker.stop now)
      | (_, .nothingYet) =>
          if deadline ≤ now then some { worker with phase := .checking } else none
  | .sending dispatch done success =>
      if done ≤ now then some (worker.complete dispatch success now) else none
  | .stopped => none

/-- At most `count` moves are made, all at the same time. -/
def moves (worker : Worker) (now : Nat) : Nat → Worker
  | 0 => worker
  | count + 1 =>
      match worker.move? now with
      | none => worker
      | some next => next.moves now count

/-- The worker moves until it has to wait. Each dispatch takes three moves, and a few more are
made before the first and after the last one. -/
def settle (worker : Worker) (now : Nat) : Worker :=
  worker.moves now (3 * worker.queue.waiting.length + 6)

/-- The time of the next move, if time alone can bring it about. -/
def wakeTime? (worker : Worker) (now : Nat) : Option Nat :=
  if (worker.move? now).isSome then some now
  else
    match worker.phase with
    | .waiting deadline => some deadline
    | .sending _ done _ => some done
    | .checking | .stopped => none

/-- The worker has stopped for good. -/
def isStopped (worker : Worker) : Bool := worker.phase = .stopped

/-- A cancelled worker is due a few times more before it stops: for the end of a wait or of a
transmission, and for what follows at the same time. -/
def stopMoves : Nat := 8

instance : Timed Worker where
  wakeTime? := Worker.wakeTime?
  settle worker now := .ok (worker.settle now)

/-- The owner cancels the worker and waits until it has stopped. -/
def shutdown (line : Timeline Worker) : Except Fault (Timeline Worker) :=
  Timeline.await { line with system := line.system.cancel } Worker.isStopped stopMoves

end Worker

instance : Channel Worker where
  deliver := Worker.deliver
  counters worker := worker.queue.counters

end TrafficShaper.Delivery
