/-
A worker gives what its queue accepts to the transport, in that order, each dispatch once, and
counts what becomes of it. A producer first offers a dispatch to the queue and only then counts the
outcome, and the worker may be ahead of that count. Offers, counts, moves of the worker and the end
of it may come in any order.
-/

import Mathlib.Control.Monad.Basic
import TrafficShaper.Delivery.Worker

namespace TrafficShaper.Delivery

/-- The dispatch that a transmission was about. -/
def WorkerEvent.dispatch? : WorkerEvent → Option Dispatch
  | .transmitted _ dispatch _ => some dispatch
  | .gaveUp _ => none

namespace Queue

variable {queue : Queue} {dispatch : Dispatch}

/-- What can become of an offer. -/
inductive OfferCase (queue : Queue) (dispatch : Dispatch) : Queue → Outcome → Prop where
  | closed (gone : queue.consumed = false) : OfferCase queue dispatch queue (.error .closed)
  | full (consumed : queue.consumed = true) (filled : queue.capacity ≤ queue.waiting.length) :
      OfferCase queue dispatch queue (.error .queueFull)
  | queued (consumed : queue.consumed = true) (room : queue.waiting.length < queue.capacity) :
      OfferCase queue dispatch { queue with waiting := queue.waiting ++ [dispatch] } (.ok ())

theorem offer_cases (queue : Queue) (dispatch : Dispatch) :
    queue.OfferCase dispatch (queue.offer dispatch).1 (queue.offer dispatch).2 := by
  unfold offer
  split
  · rename_i gone
    exact .closed (by simpa using gone)
  rename_i consumed
  rw [Bool.not_eq_true', Bool.not_eq_false] at consumed
  split
  · rename_i filled
    exact .full consumed filled
  · rename_i room
    exact .queued consumed (Nat.lt_of_not_le room)

/-- A queue is made for any capacity up to the largest, and has room for one dispatch at least. -/
theorem create_of_le {capacity : Nat} (possible : capacity ≤ largestCapacity) :
    create capacity = .ok { capacity := max capacity 1 } :=
  if_neg (Nat.not_lt.mpr possible)

end Queue

namespace Worker

variable {worker after : Worker} {accepted : List Dispatch}

/-- The dispatches of which the transport has told the end, the first one first. -/
def sent (worker : Worker) : List Dispatch := worker.log.filterMap WorkerEvent.dispatch?

/-- The dispatch with which the transport is busy. -/
def inHand (worker : Worker) : List Dispatch :=
  match worker.phase with
  | .sending dispatch _ _ => [dispatch]
  | _ => []

/-- All dispatches that the transport was given, the first one first. -/
def given (worker : Worker) : List Dispatch := worker.sent ++ worker.inHand

/-- The number of dispatches with which the transport is busy. -/
def inProgress (worker : Worker) : UInt64 :=
  match worker.phase with
  | .sending _ _ _ => 1
  | _ => 0

/-- What can become of a worker by a move. -/
inductive MoveCase (worker : Worker) (now : Nat) : Worker → Prop where
  | cancels (checking : worker.phase = .checking) (cancelled : worker.cancelled = true) :
      MoveCase worker now (worker.stop now)
  | waits (checking : worker.phase = .checking) (going : worker.cancelled = false) :
      MoveCase worker now { worker with phase := .waiting (now + worker.pollInterval) }
  | begins {deadline : Nat} {dispatch : Dispatch} {rest : List Dispatch}
      (waiting : worker.phase = .waiting deadline)
      (shape : worker.queue.waiting = dispatch :: rest) :
      MoveCase worker now
        ({ worker with queue := { worker.queue with waiting := rest } }.begin dispatch now)
  | ends {deadline : Nat} (waiting : worker.phase = .waiting deadline)
      (nothing : worker.queue.waiting = []) (deserted : worker.queue.producers = 0) :
      MoveCase worker now (worker.stop now)
  | looks {deadline : Nat} (waiting : worker.phase = .waiting deadline)
      (nothing : worker.queue.waiting = []) (late : deadline ≤ now) :
      MoveCase worker now { worker with phase := .checking }
  | completes {dispatch : Dispatch} {done : Nat} {success : Bool}
      (sending : worker.phase = .sending dispatch done success) (late : done ≤ now) :
      MoveCase worker now (worker.complete dispatch success now)

theorem move_cases {now : Nat} (move : worker.move? now = some after) :
    worker.MoveCase now after := by
  unfold move? at move
  split at move
  · rename_i checking
    obtain rfl := Option.some.inj move
    unfold check
    split
    · rename_i cancelled
      exact .cancels checking cancelled
    · rename_i going
      exact .waits checking (by simpa using going)
  · rename_i deadline waiting
    unfold Queue.take at move
    split at move
    · rename_i taken
      split at taken
      · rename_i dispatch rest shape
        obtain ⟨rfl, same⟩ := Prod.mk.inj taken
        obtain rfl := Arrival.taken.inj same
        obtain rfl := Option.some.inj move
        exact .begins waiting shape
      · split at taken <;> simp at taken
    · rename_i taken
      split at taken
      · simp at taken
      · rename_i nothing
        split at taken
        · rename_i deserted
          obtain rfl := Option.some.inj move
          exact .ends waiting nothing deserted
        · simp at taken
    · rename_i taken
      split at taken
      · simp at taken
      · rename_i nothing
        split at move
        · rename_i late
          obtain rfl := Option.some.inj move
          exact .looks waiting nothing late
        · contradiction
  · rename_i dispatch done success sending
    split at move
    · rename_i late
      obtain rfl := Option.some.inj move
      exact .completes sending late
    · contradiction
  · contradiction

/-- What holds of a worker and the dispatches that were accepted since it was spawned. -/
structure Keeps (capacity : Nat) (worker : Worker) (accepted : List Dispatch) : Prop where
  size : worker.queue.capacity = max capacity 1
  inOrder : worker.given <+: accepted
  whole : worker.phase ≠ .stopped → accepted = worker.given ++ worker.queue.waiting
  consumed : worker.queue.consumed = true ↔ worker.phase ≠ .stopped
  room : worker.queue.waiting.length ≤ max capacity 1
  finished : worker.queue.counters.transmitted + worker.queue.counters.transportErrors =
    UInt64.ofNat worker.sent.length

variable {capacity : Nat}

/-- A dispatch that is taken joins the end of the queue. -/
theorem Keeps.join (keeps : worker.Keeps capacity accepted) (dispatch : Dispatch)
    (room : worker.queue.waiting.length < worker.queue.capacity) :
    { worker with
      queue := { worker.queue with waiting := worker.queue.waiting ++ [dispatch] } }.Keeps
        capacity (accepted ++ [dispatch]) := by
  constructor
  case size => exact keeps.size
  case inOrder => exact keeps.inOrder.trans (List.prefix_append _ _)
  case whole =>
    intro going
    have before := keeps.whole going
    calc accepted ++ [dispatch]
        = (worker.given ++ worker.queue.waiting) ++ [dispatch] := by rw [← before]
      _ = worker.given ++ (worker.queue.waiting ++ [dispatch]) := List.append_assoc _ _ _
  case consumed => exact keeps.consumed
  case room =>
    rw [keeps.size] at room
    rw [List.length_append, List.length_singleton]
    exact room
  case finished => exact keeps.finished

theorem given_of_idle (idle : worker.inHand = []) : worker.given = worker.sent := by
  rw [given, idle, List.append_nil]

theorem sent_stop (worker : Worker) (now : Nat) : (worker.stop now).sent = worker.sent := by
  simp [sent, stop, WorkerEvent.dispatch?]

theorem sent_complete (worker : Worker) (dispatch : Dispatch) (success : Bool) (now : Nat) :
    (worker.complete dispatch success now).sent = worker.sent ++ [dispatch] := by
  simp [sent, complete, WorkerEvent.dispatch?]

/-- A worker that stops has no dispatch in hand, and gives up those that wait. -/
theorem Keeps.stop (keeps : worker.Keeps capacity accepted) (idle : worker.inHand = [])
    (now : Nat) : (worker.stop now).Keeps capacity accepted := by
  have sameSent := worker.sent_stop now
  have sameGiven : (worker.stop now).given = worker.given := by
    rw [given_of_idle rfl, sameSent, given_of_idle idle]
  constructor
  case size => exact keeps.size
  case inOrder =>
    rw [sameGiven]
    exact keeps.inOrder
  case whole => exact fun going => absurd rfl going
  case consumed => exact ⟨nofun, fun going => absurd rfl going⟩
  case room => exact Nat.zero_le _
  case finished =>
    rw [sameSent]
    exact keeps.finished

/-- A worker may turn from one phase to another while it has nothing in hand. -/
theorem Keeps.turn (keeps : worker.Keeps capacity accepted) {phase : Phase}
    (going : worker.phase ≠ .stopped) (idle : worker.inHand = [])
    (goesOn : phase ≠ .stopped) (staysIdle : { worker with phase }.inHand = []) :
    { worker with phase }.Keeps capacity accepted := by
  have sameGiven : { worker with phase }.given = worker.given := by
    rw [given_of_idle staysIdle, given_of_idle idle]
    rfl
  constructor
  case size => exact keeps.size
  case inOrder =>
    rw [sameGiven]
    exact keeps.inOrder
  case whole =>
    intro _
    rw [sameGiven]
    exact keeps.whole going
  case consumed => exact ⟨fun _ => goesOn, fun _ => keeps.consumed.mpr going⟩
  case room => exact keeps.room
  case finished => exact keeps.finished

/-- The oldest dispatch goes from the queue to the transport. -/
theorem Keeps.begin (keeps : worker.Keeps capacity accepted) (going : worker.phase ≠ .stopped)
    (idle : worker.inHand = []) {dispatch : Dispatch} {rest : List Dispatch}
    (shape : worker.queue.waiting = dispatch :: rest) (now : Nat) :
    ({ worker with queue := { worker.queue with waiting := rest } }.begin dispatch now).Keeps
      capacity accepted := by
  have before := keeps.whole going
  rw [given_of_idle idle, shape] at before
  have handed : worker.sent ++ [dispatch] ++ rest = accepted := by
    rw [before, List.append_assoc, List.singleton_append]
  have shorter := keeps.room
  rw [shape, List.length_cons] at shorter
  constructor
  case size => exact keeps.size
  case inOrder => exact ⟨rest, handed⟩
  case whole => exact fun _ => handed.symm
  case consumed => exact ⟨fun _ => nofun, fun _ => keeps.consumed.mpr going⟩
  case room => exact Nat.le_of_succ_le shorter
  case finished => exact keeps.finished

/-- The end of a transmission is counted, whether it succeeded or not. -/
theorem Keeps.complete (keeps : worker.Keeps capacity accepted) {dispatch : Dispatch}
    {done : Nat} {success : Bool} (sending : worker.phase = .sending dispatch done success)
    (now : Nat) : (worker.complete dispatch success now).Keeps capacity accepted := by
  have going : worker.phase ≠ .stopped := by
    rw [sending]
    nofun
  have moreSent := worker.sent_complete dispatch success now
  have sameGiven : (worker.complete dispatch success now).given = worker.given := by
    rw [given_of_idle rfl, moreSent, given, inHand, sending]
  constructor
  case size => exact keeps.size
  case inOrder =>
    rw [sameGiven]
    exact keeps.inOrder
  case whole =>
    intro _
    rw [sameGiven]
    exact keeps.whole going
  case consumed => exact ⟨fun _ => nofun, fun _ => keeps.consumed.mpr going⟩
  case room => exact keeps.room
  case finished =>
    rw [moreSent, List.length_append, List.length_singleton, UInt64.ofNat_add, ← keeps.finished]
    cases success with
    | true =>
        change worker.queue.counters.transmitted + 1 + worker.queue.counters.transportErrors =
          worker.queue.counters.transmitted + worker.queue.counters.transportErrors + 1
        rw [UInt64.add_assoc, UInt64.add_comm 1, UInt64.add_assoc]
    | false => exact (UInt64.add_assoc _ _ _).symm

theorem inHand_of_checking (checking : worker.phase = .checking) : worker.inHand = [] := by
  rw [inHand, checking]

theorem inHand_of_waiting {deadline : Nat} (waiting : worker.phase = .waiting deadline) :
    worker.inHand = [] := by
  rw [inHand, waiting]

/-- No move of the worker loses a dispatch, repeats one or changes the order. -/
theorem Keeps.move (keeps : worker.Keeps capacity accepted) {now : Nat}
    (move : worker.move? now = some after) : after.Keeps capacity accepted := by
  cases move_cases move with
  | cancels checking cancelled => exact keeps.stop (inHand_of_checking checking) now
  | waits checking going =>
      exact keeps.turn (by rw [checking]; nofun) (inHand_of_checking checking) nofun rfl
  | begins waiting shape =>
      exact keeps.begin (by rw [waiting]; nofun) (inHand_of_waiting waiting) shape now
  | ends waiting nothing deserted => exact keeps.stop (inHand_of_waiting waiting) now
  | looks waiting nothing late =>
      exact keeps.turn (by rw [waiting]; nofun) (inHand_of_waiting waiting) nofun rfl
  | completes sending late => exact keeps.complete sending now

/-- What was accepted is counted by the producers, and by no move of the worker. -/
theorem move_accepted {now : Nat} (move : worker.move? now = some after) :
    after.queue.counters.accepted = worker.queue.counters.accepted := by
  cases move_cases move with
  | @completes _ _ success => cases success <;> rfl
  | cancels | waits | begins | ends | looks => rfl

theorem move?_of_stopped (stopped : worker.phase = .stopped) (now : Nat) :
    worker.move? now = none := by
  rw [move?, stopped]

/-- A worker goes on after a transmission, whether that succeeded or not, and the dispatch is not
given to the transport again. -/
theorem move?_of_sending {dispatch : Dispatch} {done now : Nat} {success : Bool}
    (sending : worker.phase = .sending dispatch done success) (late : done ≤ now) :
    ∃ after, worker.move? now = some after ∧ after.phase = .checking ∧
      after.given = worker.given ∧ after.queue.waiting = worker.queue.waiting := by
  refine ⟨worker.complete dispatch success now, ?_, rfl, ?_, rfl⟩
  · rw [move?, sending]
    exact if_pos late
  · rw [given_of_idle rfl, sent_complete, given, inHand, sending]

/-- A worker stops because it was cancelled, or because nothing is left and nothing can come. -/
theorem stops_of_move {now : Nat} (move : worker.move? now = some after)
    (stopped : after.phase = .stopped) :
    worker.cancelled = true ∨ (worker.queue.waiting = [] ∧ worker.queue.producers = 0) := by
  cases move_cases move with
  | cancels checking cancelled => exact .inl cancelled
  | ends waiting nothing deserted => exact .inr ⟨nothing, deserted⟩
  | waits | begins | looks | completes => contradiction

/-- A delivery that finds the queue full changes one counter. -/
theorem deliver_full {dispatch : Dispatch}
    (full : (worker.deliver dispatch).2 = .error .queueFull) :
    (worker.deliver dispatch).1 =
      { worker with
        queue := { worker.queue with counters := worker.queue.counters.countQueueFull } } := by
  have offered := worker.queue.offer_cases dispatch
  change (worker.queue.offer dispatch).2 = _ at full
  change { worker with
    queue := (worker.queue.offer dispatch).1.count (worker.queue.offer dispatch).2 } = _
  rw [full] at offered ⊢
  generalize (worker.queue.offer dispatch).1 = queue at offered ⊢
  cases offered with
  | full consumed filled => rfl

/-- A delivery to a worker that is gone changes nothing. -/
theorem deliver_closed (gone : worker.queue.consumed = false) (dispatch : Dispatch) :
    worker.deliver dispatch = (worker, .error .closed) := by
  rw [deliver, Queue.push, Queue.offer, gone]
  rfl

/-- A worker that just started. -/
theorem spawn_keeps (options : WorkerOptions) (transport : Transport)
    (possible : options.capacity ≤ Queue.largestCapacity) :
    ∃ fresh, spawn? true options transport = .ok (some fresh) ∧
      fresh.Keeps options.capacity [] ∧ fresh.queue.counters = {} := by
  let queue : Queue := { capacity := max options.capacity 1 }
  have made : Queue.create options.capacity = .ok queue := Queue.create_of_le possible
  refine ⟨{ queue, transport, pollInterval := options.pollInterval }, ?_, ?_, rfl⟩
  · rw [spawn?, made]
    rfl
  · constructor
    case size => rfl
    case inOrder => exact List.prefix_rfl
    case whole => exact fun _ => rfl
    case consumed => exact ⟨fun _ => nofun, fun _ => rfl⟩
    case room => exact Nat.zero_le _
    case finished => rfl

end Worker

/-- A worker among its producers. Each delivery is in two parts, between which others may come: the
dispatch is offered to the queue, and the outcome is counted. -/
structure Dock where
  worker : Worker
  /-- The outcomes that the producers did not count yet. -/
  uncounted : List Outcome := []

namespace Dock

variable {start dock after : Dock} {accepted more : List Dispatch} {capacity : Nat}

/-- A producer offers a dispatch, and has the outcome to count. -/
def offer (dock : Dock) (dispatch : Dispatch) : Dock :=
  let (queue, outcome) := dock.worker.queue.offer dispatch
  { worker := { dock.worker with queue }, uncounted := outcome :: dock.uncounted }

/-- A producer counts an outcome. -/
def count (dock : Dock) (outcome : Outcome) : Dock where
  worker := { dock.worker with queue := dock.worker.queue.count outcome }
  uncounted := dock.uncounted.erase outcome

/-- What an offer adds to the dispatches that were accepted. -/
def accepts (dock : Dock) (dispatch : Dispatch) : List Dispatch :=
  match (dock.worker.queue.offer dispatch).2 with
  | .ok _ => [dispatch]
  | .error _ => []

/-- The number of times that an outcome is still to be counted. -/
def pending (dock : Dock) (outcome : Outcome) : UInt64 :=
  UInt64.ofNat (dock.uncounted.count outcome)

/-- A step of a producer, of the worker or of its owner, with the dispatches that it adds to those
that were accepted. The worker may move at any time. -/
inductive Step (dock : Dock) : Dock → List Dispatch → Prop where
  | offered (dispatch : Dispatch) : Step dock (dock.offer dispatch) (dock.accepts dispatch)
  | counted {outcome : Outcome} (owed : outcome ∈ dock.uncounted) :
      Step dock (dock.count outcome) []
  | moved {now : Nat} {worker : Worker} (move : dock.worker.move? now = some worker) :
      Step dock { dock with worker } []
  | cancelled : Step dock { dock with worker := dock.worker.cancel } []
  | released : Step dock { dock with worker := dock.worker.release } []

/-- A dock is led on by steps. The dispatches are those that were accepted on the way. -/
inductive Leads (dock : Dock) : Dock → List Dispatch → Prop where
  | here : Leads dock dock []
  | step {middle after : Dock} {accepted more : List Dispatch}
      (leads : Leads dock middle accepted) (step : middle.Step after more) :
      Leads dock after (accepted ++ more)

/-- All dispatches that were accepted, whether they are counted or not. -/
def acceptances (dock : Dock) : UInt64 :=
  dock.worker.queue.counters.accepted + dock.pending (.ok ())

/-- All offers that found the queue full, whether they are counted or not. -/
def overflows (dock : Dock) : UInt64 :=
  dock.worker.queue.counters.queueFull + dock.pending (.error .queueFull)

theorem offer_eq (dock : Dock) (dispatch : Dispatch) :
    dock.offer dispatch =
      { worker := { dock.worker with queue := (dock.worker.queue.offer dispatch).1 }
        uncounted := (dock.worker.queue.offer dispatch).2 :: dock.uncounted } := rfl

/-- An offer that is counted at once is a delivery. -/
theorem count_offer (dock : Dock) (dispatch : Dispatch) :
    (dock.offer dispatch).count (dock.worker.deliver dispatch).2 =
      { dock with worker := (dock.worker.deliver dispatch).1 } := by
  rw [offer_eq, count, Worker.deliver, Queue.push]
  dsimp only
  rw [List.erase_cons_head]

variable {outcome other : Outcome}

theorem pending_count_self (owed : outcome ∈ dock.uncounted) :
    dock.pending outcome = (dock.count outcome).pending outcome + 1 := by
  have waiting := List.count_pos_iff.mpr owed
  rw [pending, pending, count, List.count_erase_self]
  obtain ⟨fewer, shape⟩ := Nat.exists_eq_add_of_lt waiting
  rw [shape, Nat.zero_add, Nat.add_sub_cancel, UInt64.ofNat_add]
  rfl

theorem pending_count_of_ne (different : other ≠ outcome) :
    (dock.count outcome).pending other = dock.pending other := by
  rw [pending, pending, count, List.count_erase_of_ne different]

/-- A count moves an outcome from those that are still to be counted to the counters. -/
theorem count_acceptances (owed : outcome ∈ dock.uncounted) :
    (dock.count outcome).acceptances = dock.acceptances := by
  cases outcome with
  | ok _ =>
      rw [acceptances, acceptances, pending_count_self owed]
      change dock.worker.queue.counters.accepted + 1 + _ = _
      rw [UInt64.add_assoc, UInt64.add_comm 1]
  | error reason =>
      have different : (.ok () : Outcome) ≠ .error reason := nofun
      rw [acceptances, acceptances, pending_count_of_ne different]
      cases reason <;> rfl

theorem count_overflows (owed : outcome ∈ dock.uncounted) :
    (dock.count outcome).overflows = dock.overflows := by
  by_cases full : outcome = .error .queueFull
  · subst full
    rw [overflows, overflows, pending_count_self owed]
    change dock.worker.queue.counters.queueFull + 1 + _ = _
    rw [UInt64.add_assoc, UInt64.add_comm 1]
  · rw [overflows, overflows, pending_count_of_ne (Ne.symm full)]
    cases outcome with
    | ok _ => rfl
    | error reason => cases reason <;> first | rfl | exact absurd rfl full

/-- What holds of a dock and the dispatches that were accepted since its worker was spawned. -/
structure Keeps (capacity : Nat) (dock : Dock) (accepted : List Dispatch) : Prop where
  worker : dock.worker.Keeps capacity accepted
  acceptances : dock.acceptances = UInt64.ofNat accepted.length

/-- An offer is refused and changes nothing, or the dispatch joins the end of the queue. -/
theorem Keeps.offer (keeps : dock.Keeps capacity accepted) (dispatch : Dispatch) :
    (dock.offer dispatch).Keeps capacity (accepted ++ dock.accepts dispatch) := by
  have offered := dock.worker.queue.offer_cases dispatch
  rw [accepts, offer_eq]
  generalize (dock.worker.queue.offer dispatch).1 = queue at offered ⊢
  generalize (dock.worker.queue.offer dispatch).2 = outcome at offered ⊢
  cases offered with
  | closed | full =>
      rw [List.append_nil]
      exact ⟨keeps.worker, keeps.acceptances⟩
  | queued consumed room =>
      refine ⟨keeps.worker.join dispatch room, ?_⟩
      rw [List.length_append, List.length_singleton, UInt64.ofNat_add, ← keeps.acceptances]
      rw [Dock.acceptances, Dock.acceptances, pending, pending, List.count_cons_self,
        UInt64.ofNat_add, UInt64.add_assoc]

theorem Keeps.count (keeps : dock.Keeps capacity accepted) (owed : outcome ∈ dock.uncounted) :
    (dock.count outcome).Keeps capacity accepted := by
  refine ⟨?_, (count_acceptances owed).trans keeps.acceptances⟩
  have worker := keeps.worker
  cases outcome with
  | ok _ => exact { worker with }
  | error reason => cases reason <;> exact { worker with }

theorem Keeps.step (keeps : dock.Keeps capacity accepted) (step : dock.Step after more) :
    after.Keeps capacity (accepted ++ more) := by
  cases step with
  | offered dispatch => exact keeps.offer dispatch
  | counted owed =>
      rw [List.append_nil]
      exact keeps.count owed
  | moved move =>
      rw [List.append_nil]
      refine ⟨keeps.worker.move move, ?_⟩
      rw [Dock.acceptances, Worker.move_accepted move]
      exact keeps.acceptances
  | cancelled | released =>
      rw [List.append_nil]
      have worker := keeps.worker
      exact ⟨{ worker with }, keeps.acceptances⟩

/-- However the steps are ordered, a dock keeps what it accepts. -/
theorem Leads.keeps (leads : start.Leads dock accepted)
    (keeps : start.Keeps capacity []) : dock.Keeps capacity accepted := by
  induction leads with
  | here => exact keeps
  | step _ step ih => exact ih.step step

/-- A step that adds nothing to the dispatches that were accepted. -/
theorem Leads.silent (leads : start.Leads dock accepted) (step : dock.Step after []) :
    start.Leads after accepted := by
  have further := leads.step step
  rwa [List.append_nil] at further

/-- A delivery with nothing between its parts is an offer and a count. -/
theorem Leads.deliver (leads : start.Leads dock accepted) (dispatch : Dispatch) :
    start.Leads { dock with worker := (dock.worker.deliver dispatch).1 }
      (accepted ++ dock.accepts dispatch) := by
  have counted := (leads.step (.offered dispatch)).silent (.counted List.mem_cons_self)
  rwa [← count_offer]

/-- The moves that a worker makes at one time are steps. -/
theorem Leads.moves (leads : start.Leads dock accepted) (now count : Nat) :
    start.Leads { dock with worker := dock.worker.moves now count } accepted := by
  induction count generalizing dock with
  | zero => exact leads
  | succ count ih =>
      unfold Worker.moves
      split
      · exact leads
      · rename_i next move
        exact ih (leads.silent (.moved move))

theorem Leads.settle (leads : start.Leads dock accepted) (now : Nat) :
    start.Leads { dock with worker := dock.worker.settle now } accepted :=
  leads.moves now _

/-- Before the worker stops, each dispatch that was accepted is counted once more: as transmitted,
as failed, in the hands of the transport, or in the queue. -/
theorem Keeps.balanced (keeps : dock.Keeps capacity accepted)
    (going : dock.worker.phase ≠ .stopped) :
    dock.acceptances =
      dock.worker.queue.counters.transmitted + dock.worker.queue.counters.transportErrors +
        dock.worker.inProgress + UInt64.ofNat dock.worker.queue.waiting.length := by
  -- The dispatch in hand is counted nowhere yet, and makes up the difference.
  have progress : dock.worker.inProgress = UInt64.ofNat dock.worker.inHand.length := by
    unfold Worker.inProgress Worker.inHand
    split <;> rfl
  rw [keeps.acceptances, keeps.worker.whole going, Worker.given, List.length_append,
    List.length_append, UInt64.ofNat_add, UInt64.ofNat_add, keeps.worker.finished, progress]

/-- An offer finds the queue full when there is no room in it, as long as the worker is there. -/
theorem Keeps.full_iff (keeps : dock.Keeps capacity accepted) (dispatch : Dispatch) :
    (dock.worker.queue.offer dispatch).2 = .error .queueFull ↔
      dock.worker.phase ≠ .stopped ∧ dock.worker.queue.waiting.length = max capacity 1 := by
  have offered := dock.worker.queue.offer_cases dispatch
  have room := keeps.worker.room
  have size := keeps.worker.size
  rw [← keeps.worker.consumed]
  generalize (dock.worker.queue.offer dispatch).1 = queue at offered
  generalize (dock.worker.queue.offer dispatch).2 = outcome at offered ⊢
  cases offered with
  | closed gone => simp [gone]
  | full consumed filled =>
      refine ⟨fun _ => ⟨consumed, ?_⟩, fun _ => rfl⟩
      omega
  | queued consumed free =>
      refine ⟨nofun, ?_⟩
      rintro ⟨-, filled⟩
      omega

/-- An offer that is refused changes nothing, and its outcome is to be counted. -/
theorem offer_refused {dispatch : Dispatch} {reason : Error}
    (refused : (dock.worker.queue.offer dispatch).2 = .error reason) :
    dock.offer dispatch = { dock with uncounted := .error reason :: dock.uncounted } := by
  have offered := dock.worker.queue.offer_cases dispatch
  rw [offer_eq]
  rw [refused] at offered ⊢
  generalize (dock.worker.queue.offer dispatch).1 = queue at offered ⊢
  cases offered <;> rfl

/-- What a worker that has stopped is from then on. The producers may still count what was before
the end, and nothing else is counted. -/
structure EndsAs (dock after : Dock) : Prop where
  stopped : after.worker.phase = .stopped
  gone : after.worker.queue.consumed = false
  log : after.worker.log = dock.worker.log
  acceptances : after.acceptances = dock.acceptances
  overflows : after.overflows = dock.overflows
  transmitted : after.worker.queue.counters.transmitted = dock.worker.queue.counters.transmitted
  transportErrors :
    after.worker.queue.counters.transportErrors = dock.worker.queue.counters.transportErrors
  busy : after.worker.queue.counters.busy = dock.worker.queue.counters.busy

/-- An offer after the end is refused, and there is nothing to count. -/
theorem EndsAs.offer (ended : dock.EndsAs after) (dispatch : Dispatch) :
    dock.EndsAs (after.offer dispatch) ∧ after.accepts dispatch = [] := by
  have refused : (after.worker.queue.offer dispatch).2 = .error .closed := by
    rw [Queue.offer, ended.gone]
    rfl
  rw [offer_refused refused, accepts, refused]
  exact ⟨{ ended with }, rfl⟩

theorem EndsAs.count (ended : dock.EndsAs after) (owed : outcome ∈ after.uncounted) :
    dock.EndsAs (after.count outcome) := by
  have acceptances := (count_acceptances owed).trans ended.acceptances
  have overflows := (count_overflows owed).trans ended.overflows
  cases outcome with
  | ok _ => exact { ended with acceptances, overflows }
  | error reason => cases reason <;> exact { ended with acceptances, overflows }

/-- After the end nothing is accepted or transmitted any more, and nothing new is counted. -/
theorem Leads.ends (leads : dock.Leads after accepted) (stopped : dock.worker.phase = .stopped)
    (gone : dock.worker.queue.consumed = false) : dock.EndsAs after ∧ accepted = [] := by
  induction leads with
  | here => exact ⟨⟨stopped, gone, rfl, rfl, rfl, rfl, rfl, rfl⟩, rfl⟩
  | step _ step ih =>
      obtain ⟨ended, rfl⟩ := ih
      rw [List.nil_append]
      cases step with
      | offered dispatch => exact ended.offer dispatch
      | counted owed => exact ⟨ended.count owed, rfl⟩
      | moved move =>
          rw [Worker.move?_of_stopped ended.stopped] at move
          contradiction
      | cancelled | released => exact ⟨{ ended with }, rfl⟩

/-- What can be relied on of a dock and the dispatches that were accepted since its worker was
spawned. -/
structure Orderly (capacity : Nat) (dock : Dock) (accepted : List Dispatch) : Prop where
  /-- The transport was given the dispatches that were accepted, in that order and each once. -/
  inOrder : dock.worker.given <+: accepted
  /-- Before the worker stops, those that it was not given wait. -/
  whole : dock.worker.phase ≠ .stopped → accepted = dock.worker.given ++ dock.worker.queue.waiting
  /-- The counter of what was accepted lacks what producers did not count yet. -/
  balanced : dock.worker.phase ≠ .stopped →
    dock.worker.queue.counters.accepted + dock.pending (.ok ()) =
      dock.worker.queue.counters.transmitted + dock.worker.queue.counters.transportErrors +
        dock.worker.inProgress + UInt64.ofNat dock.worker.queue.waiting.length
  room : dock.worker.queue.waiting.length ≤ max capacity 1
  full_iff : ∀ dispatch, (dock.worker.queue.offer dispatch).2 = .error .queueFull ↔
    dock.worker.phase ≠ .stopped ∧ dock.worker.queue.waiting.length = max capacity 1
  /-- An offer that is refused changes nothing, and its outcome is to be counted. -/
  refused : ∀ dispatch reason, (dock.worker.queue.offer dispatch).2 = .error reason →
    dock.offer dispatch = { dock with uncounted := .error reason :: dock.uncounted }
  /-- A delivery that finds the queue full changes one counter. -/
  full : ∀ dispatch, (dock.worker.deliver dispatch).2 = .error .queueFull →
    (dock.worker.deliver dispatch).1 =
      { dock.worker with
        queue := { dock.worker.queue with
          counters := dock.worker.queue.counters.countQueueFull } }
  /-- A transmission ends, in success or failure, and the worker goes on to the next dispatch. -/
  goesOn : ∀ dispatch done success now, dock.worker.phase = .sending dispatch done success →
    done ≤ now →
      ∃ after, dock.worker.move? now = some after ∧ after.phase = .checking ∧
        after.given = dock.worker.given ∧ after.queue.waiting = dock.worker.queue.waiting
  /-- Nothing else than the owner and the producers makes a worker stop. -/
  stops : ∀ now after, dock.worker.move? now = some after → after.phase = .stopped →
    dock.worker.cancelled = true ∨
      (dock.worker.queue.waiting = [] ∧ dock.worker.queue.producers = 0)
  /-- A worker that has stopped does not move, and refuses each delivery. -/
  closed : dock.worker.phase = .stopped →
    (∀ now, dock.worker.move? now = none) ∧
      ∀ dispatch, dock.worker.deliver dispatch = (dock.worker, .error .closed)
  /-- Whatever comes after the end changes neither the log nor what is to be counted. -/
  ended : dock.worker.phase = .stopped → ∀ after more, dock.Leads after more →
    dock.EndsAs after ∧ more = []

theorem Keeps.orderly (keeps : dock.Keeps capacity accepted) : dock.Orderly capacity accepted := by
  have gone (stopped : dock.worker.phase = .stopped) : dock.worker.queue.consumed = false := by
    rw [← Bool.not_eq_true, keeps.worker.consumed]
    exact fun going => going stopped
  constructor
  case inOrder => exact keeps.worker.inOrder
  case whole => exact keeps.worker.whole
  case balanced => exact keeps.balanced
  case room => exact keeps.worker.room
  case full_iff => exact keeps.full_iff
  case refused => exact fun _ _ => offer_refused
  case full => exact fun _ => Worker.deliver_full
  case goesOn => exact fun _ _ _ _ => Worker.move?_of_sending
  case stops => exact fun _ _ => Worker.stops_of_move
  case closed =>
    intro stopped
    exact ⟨Worker.move?_of_stopped stopped, Worker.deliver_closed (gone stopped)⟩
  case ended => exact fun stopped _ _ leads => leads.ends stopped (gone stopped)

/-- A worker is spawned with any capacity that a queue can have and with any transport, and it is
orderly in whatever order the offers, the counts, its moves and the end come. -/
theorem spawned_orderly {options : WorkerOptions} {transport : Transport}
    (possible : options.capacity ≤ Queue.largestCapacity) :
    ∃ fresh, Worker.spawn? true options transport = .ok (some fresh) ∧
      ∀ dock accepted, Leads { worker := fresh } dock accepted →
        dock.Orderly options.capacity accepted := by
  obtain ⟨fresh, spawned, worker, uncounted⟩ := Worker.spawn_keeps options transport possible
  refine ⟨fresh, spawned, ?_⟩
  intro dock accepted leads
  have start : Keeps options.capacity { worker := fresh } [] := by
    refine ⟨worker, ?_⟩
    rw [acceptances, uncounted]
    rfl
  exact (leads.keeps start).orderly

/-- A dispatch of some level. -/
def sample (level : UInt8) : Dispatch where
  notice :=
    { destination := .ofBytes 10 0 0 2
      source := .ofBytes 10 0 0 1
      level
      offset := 0
      delta := 0 }

/-- A worker for two dispatches. Its first transmission fails, and the second takes five ticks. -/
def faltering : Worker where
  queue := { capacity := 2 }
  transport := fun count _ => { duration := 5 * count, success := count ≠ 0 }

/-- Two dispatches were delivered, and there was no room for a third. While the second one was on
its way a fourth was accepted, and the worker was cancelled. The last two outcomes are not counted
yet. -/
def closing : Dock :=
  let delivered (dock : Dock) (dispatch : Dispatch) : Dock :=
    { dock with worker := (dock.worker.deliver dispatch).1 }
  let settled (dock : Dock) (now : Nat) : Dock := { dock with worker := dock.worker.settle now }
  let full := delivered (delivered { worker := faltering } (sample 1)) (sample 2)
  let late := (settled (full.offer (sample 3)) 0).offer (sample 4)
  settled { late with worker := late.worker.cancel } 5

/-- Three dispatches were accepted, the transport was given two of them, and a delivery after the
end is refused. -/
theorem closing_orderly :
    2 ≤ Queue.largestCapacity ∧
      Worker.spawn? true { capacity := 2 } faltering.transport = .ok (some faltering) ∧
      Leads { worker := faltering } closing [sample 1, sample 2, sample 4] ∧
      closing.worker.given = [sample 1, sample 2] ∧
      closing.uncounted = [.ok (), .error .queueFull] ∧
      closing.worker.phase = .stopped ∧
      closing.worker.deliver (sample 5) = (closing.worker, .error .closed) ∧
      closing.Orderly 2 [sample 1, sample 2, sample 4] := by
  have possible : 2 ≤ Queue.largestCapacity := by decide
  have leads : Leads { worker := faltering } closing [sample 1, sample 2, sample 4] :=
    ((((((Leads.here.deliver (sample 1)).deliver (sample 2)).step (.offered (sample 3))).settle
      0).step (.offered (sample 4))).silent .cancelled).settle 5
  have spawned : Worker.spawn? true { capacity := 2 } faltering.transport =
      .ok (some faltering) := rfl
  obtain ⟨fresh, alike, reached⟩ :=
    @spawned_orderly { capacity := 2 } faltering.transport possible
  obtain rfl : faltering = fresh := Option.some.inj (Except.ok.inj (spawned.symm.trans alike))
  have orderly := reached closing _ leads
  exact ⟨possible, spawned, leads, rfl, rfl, rfl, (orderly.closed rfl).2 (sample 5), orderly⟩

/-- A worker that just started with the default options. -/
def prompt : Worker where
  queue := { capacity := 16 }

/-- A dispatch was offered, and the worker sent it before the producer counted it. -/
def overtaken : Dock :=
  let offered := ({ worker := prompt } : Dock).offer (sample 1)
  { offered with worker := offered.worker.settle 0 }

/-- Until a producer has counted what was accepted, the counters alone do not balance: more was
transmitted than was accepted. No worker is spawned with a larger capacity than a queue can have. -/
theorem overtaken_unbalanced :
    Worker.spawn? true {} prompt.transport = .ok (some prompt) ∧
      Leads { worker := prompt } overtaken [sample 1] ∧
      overtaken.worker.phase ≠ .stopped ∧
      overtaken.worker.queue.counters.accepted = 0 ∧
      overtaken.worker.queue.counters.transmitted = 1 ∧
      overtaken.worker.queue.counters.accepted ≠
        overtaken.worker.queue.counters.transmitted +
          overtaken.worker.queue.counters.transportErrors + overtaken.worker.inProgress +
            UInt64.ofNat overtaken.worker.queue.waiting.length ∧
      Worker.spawn? true { capacity := Queue.largestCapacity + 1 } prompt.transport =
        .error .hugeCapacity := by
  have leads : Leads { worker := prompt } overtaken [sample 1] :=
    (Leads.here.step (.offered (sample 1))).settle 0
  have going : overtaken.worker.phase ≠ .stopped := by decide
  have unbalanced : overtaken.worker.queue.counters.accepted ≠
      overtaken.worker.queue.counters.transmitted +
        overtaken.worker.queue.counters.transportErrors + overtaken.worker.inProgress +
          UInt64.ofNat overtaken.worker.queue.waiting.length := by decide
  exact ⟨rfl, leads, going, rfl, rfl, unbalanced, rfl⟩

end Dock

end TrafficShaper.Delivery
