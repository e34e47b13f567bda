/-
Deliveries that are made from inside a delivery. The sink is held while it writes a frame, so a
delivery from inside is refused before it gets there. It leaves no trace but its own count, and the
sink is free again after each delivery from outside.
-/

import TrafficShaper.Delivery.Injector
import Mathlib

namespace TrafficShaper.Delivery

/-- What became of a delivery, and of those that were made from inside it. -/
structure Report where
  outcome : Outcome
  inner : List Outcome
deriving DecidableEq

/-- All outcomes in the order in which the deliveries ended. -/
def Report.outcomes (report : Report) : List Outcome := report.inner ++ [report.outcome]

namespace Counters

/-- Each outcome is counted in its own way; one for want of link addresses is not counted. -/
def countOutcome (counters : Counters) : Outcome → Counters
  | .ok () => counters.countSent true
  | .error .transport => counters.countSent false
  | .error .busy => counters.countBusy
  | .error .queueFull => counters.countQueueFull
  | .error .closed | .error .noLinkAddresses => counters

/-- A counter tells, up to the wrap of its word, how many outcomes there were of one kind. -/
def Counts (counter : UInt64) (kind : Outcome) (outcomes : List Outcome) : Prop :=
  counter.toNat = outcomes.count kind % 2 ^ 64

/-- Each counter counts the outcomes of its kind. -/
structure Accounts (counters : Counters) (outcomes : List Outcome) : Prop where
  accepted : Counts counters.accepted (.ok ()) outcomes
  transmitted : Counts counters.transmitted (.ok ()) outcomes
  busy : Counts counters.busy (.error .busy) outcomes
  queueFull : Counts counters.queueFull (.error .queueFull) outcomes
  transportErrors : Counts counters.transportErrors (.error .transport) outcomes

variable {counters : Counters} {outcomes : List Outcome}

theorem fresh_accounts : Accounts {} [] := by
  constructor <;> rfl

theorem Counts.concat {counter : UInt64} {kind : Outcome} (counts : Counts counter kind outcomes)
    (outcome : Outcome) :
    Counts (if outcome = kind then counter + 1 else counter) kind (outcomes ++ [outcome]) := by
  unfold Counts at *
  split
  · rename_i same
    rw [same, List.count_append, List.count_singleton_self, UInt64.toNat_add, counts]
    exact Nat.mod_add_mod _ (2 ^ 64) 1
  · rename_i other
    rw [counts, List.count_append, List.count_singleton, if_neg (by simpa using other), Nat.add_zero]

/-- One more outcome is counted by the counters of its kind only. -/
theorem Accounts.concat (accounts : counters.Accounts outcomes) (outcome : Outcome) :
    (counters.countOutcome outcome).Accounts (outcomes ++ [outcome]) := by
  obtain ⟨accepted, transmitted, busy, queueFull, transportErrors⟩ := accounts
  replace accepted := accepted.concat outcome
  replace transmitted := transmitted.concat outcome
  replace busy := busy.concat outcome
  replace queueFull := queueFull.concat outcome
  replace transportErrors := transportErrors.concat outcome
  match outcome with
  | .ok () => exact ⟨accepted, transmitted, busy, queueFull, transportErrors⟩
  | .error error =>
      cases error <;> exact ⟨accepted, transmitted, busy, queueFull, transportErrors⟩

theorem Accounts.append (accounts : counters.Accounts outcomes) (more : List Outcome) :
    (more.foldl countOutcome counters).Accounts (outcomes ++ more) := by
  induction more generalizing counters outcomes with
  | nil => simpa using accounts
  | cons first rest further =>
      have counted := further (accounts.concat first)
      rwa [List.append_assoc, List.singleton_append] at counted

end Counters

namespace Attempt

/-- Why an attempt from inside is refused. Its link addresses are looked at before the sink. -/
def refusal : Attempt → Error
  | .make dispatch _ _ => if dispatch.link.isSome then .busy else .noLinkAddresses

/-- What becomes of an attempt that finds the sink free. The attempts inside it have no part in
that. -/
def outcome : Attempt → Outcome
  | .make dispatch _ taken =>
      if dispatch.link.isSome then if taken then .ok () else .error .transport
      else .error .noLinkAddresses

/-- The attempts that are made from inside, once the sink is reached. -/
def inside : Attempt → List Attempt
  | .make dispatch nested _ => if dispatch.link.isSome then nested else []

/-- The frame that an attempt leaves in a sink that is free. -/
def frame? : Attempt → Option (List UInt8)
  | .make dispatch _ taken =>
      if taken then dispatch.link.map (Injector.frameOf dispatch.notice) else none

/-- The report on an attempt that finds the sink free. -/
def report (attempt : Attempt) : Report where
  outcome := attempt.outcome
  inner := attempt.inside.map fun nested => .error nested.refusal

end Attempt

namespace Injector

variable {injector : Injector}

/-- The injector after some outcomes were counted. -/
def counting (injector : Injector) (outcomes : List Outcome) : Injector :=
  { injector with counters := outcomes.foldl Counters.countOutcome injector.counters }

/-- An attempt from inside is counted, and that is all. Nothing is attempted from inside it. -/
theorem attempt_refused (held : injector.held = true) (attempt : Attempt) :
    injector.attempt attempt =
      (injector.counting [.error attempt.refusal], .error attempt.refusal, []) := by
  obtain ⟨dispatch, nested, taken⟩ := attempt
  unfold Injector.attempt
  rw [Attempt.refusal]
  cases dispatch.link with
  | none => rfl
  | some link =>
      dsimp only
      rw [if_pos held]
      rfl

theorem attemptAll_refused (held : injector.held = true) (attempts : List Attempt) :
    injector.attemptAll attempts =
      (injector.counting (attempts.map fun nested => .error nested.refusal),
        attempts.map fun nested => .error nested.refusal) := by
  induction attempts generalizing injector with
  | nil =>
      unfold attemptAll
      rfl
  | cons first rest further =>
      unfold attemptAll
      rw [attempt_refused held first]
      dsimp only
      rw [further (show (injector.counting _).held = true from held)]
      rfl

/-- An attempt from outside reaches the sink if it has link addresses, and leaves it free. What is
counted are the outcomes of the attempts inside it and its own. -/
theorem attempt_free (free : injector.held = false) (attempt : Attempt) :
    injector.attempt attempt =
      ({ injector.counting attempt.report.outcomes with
          frames := injector.frames ++ attempt.frame?.toList },
        attempt.report.outcome, attempt.report.inner) := by
  obtain ⟨mode, held, frames, counters⟩ := injector
  obtain ⟨dispatch, nested, taken⟩ := attempt
  dsimp only at free
  subst free
  simp only [Attempt.report, Attempt.inside, Attempt.outcome, Attempt.frame?, Report.outcomes]
  unfold Injector.attempt
  cases dispatch.link with
  | none =>
      cases taken <;> simp [counting, Counters.countOutcome]
  | some link =>
      dsimp only
      rw [if_neg Bool.false_ne_true, attemptAll_refused rfl]
      cases taken <;>
        simp [counting, Counters.countOutcome, List.foldl_append]

/-- Attempts from outside are made one after the other, and each has a report. -/
def serve (injector : Injector) : List Attempt → Injector × List Report
  | [] => (injector, [])
  | first :: rest =>
      let (injector, outcome, inner) := injector.attempt first
      let (injector, reports) := injector.serve rest
      (injector, ⟨outcome, inner⟩ :: reports)

theorem serve_free (free : injector.held = false) (attempts : List Attempt) :
    injector.serve attempts =
      ({ injector.counting (attempts.flatMap fun attempt => attempt.report.outcomes) with
          frames := injector.frames ++ attempts.filterMap Attempt.frame? },
        attempts.map Attempt.report) := by
  induction attempts generalizing injector with
  | nil => simp [serve, counting]
  | cons first rest further =>
      have still : ({ injector.counting first.report.outcomes with
          frames := injector.frames ++ first.frame?.toList } : Injector).held = false := free
      rw [serve, attempt_free free first]
      dsimp only
      rw [further still]
      cases shown : first.frame? <;>
        simp [counting, List.foldl_append, shown]

end Injector

/-- An attempt from outside never finds the sink held. -/
theorem Attempt.outcome_ne_busy (attempt : Attempt) : attempt.outcome ≠ .error .busy := by
  obtain ⟨dispatch, nested, taken⟩ := attempt
  rw [outcome]
  split_ifs <;> decide

/-- The four outcomes of an injector. -/
def Injector.known : List Outcome :=
  [.ok (), .error .busy, .error .noLinkAddresses, .error .transport]

theorem Attempt.report_known (attempt : Attempt) :
    ∀ outcome ∈ attempt.report.outcomes, outcome ∈ Injector.known := by
  intro outcome within
  simp only [Report.outcomes, report, List.mem_append, List.mem_map, List.mem_singleton] at within
  rcases within with ⟨nested, -, rfl⟩ | rfl
  · obtain ⟨dispatch, others, taken⟩ := nested
    rw [refusal]
    split_ifs <;> decide
  · obtain ⟨dispatch, nested, taken⟩ := attempt
    rw [Attempt.outcome]
    split_ifs <;> decide

/-- Deliveries from outside are made and counted as they should be. What becomes of one depends on
its own link addresses and on the sink alone, and it never finds the sink held. Those inside it are
refused before they reach the sink. -/
structure Accounted (attempts : List Attempt) (injector : Injector) (reports : List Report) :
    Prop where
  outcomes : reports.map Report.outcome = attempts.map Attempt.outcome
  neverBusy : ∀ report ∈ reports, report.outcome ≠ .error .busy
  inner : reports.map Report.inner =
    attempts.map fun attempt => attempt.inside.map fun nested => .error nested.refusal
  frames : injector.frames = attempts.filterMap Attempt.frame?
  free : injector.held = false
  known : ∀ report ∈ reports, ∀ outcome ∈ report.outcomes, outcome ∈ Injector.known
  counters : injector.counters.Accounts (reports.flatMap Report.outcomes)
  sent : injector.counters.accepted = injector.counters.transmitted
  noQueue : injector.counters.queueFull = 0

/-- Whatever is delivered to a fresh injector, and whatever its sink does and delivers from inside,
all deliveries are accounted for. -/
theorem serve_accounted (mode : SinkMode) (attempts : List Attempt) :
    Accounted attempts (Injector.serve { mode } attempts).1
      (Injector.serve { mode } attempts).2 := by
  have fresh : ({ mode } : Injector).held = false := rfl
  have served := Injector.serve_free fresh attempts
  have flat : (attempts.map Attempt.report).flatMap Report.outcomes =
      attempts.flatMap fun attempt => attempt.report.outcomes := List.flatMap_map ..
  have counted := Counters.fresh_accounts.append
    ((attempts.map Attempt.report).flatMap Report.outcomes)
  have known : ∀ report ∈ attempts.map Attempt.report, ∀ outcome ∈ report.outcomes,
      outcome ∈ Injector.known := by
    intro report within
    obtain ⟨attempt, -, rfl⟩ := List.mem_map.mp within
    exact attempt.report_known
  rw [served]
  rw [List.nil_append] at counted
  constructor
  case outcomes => exact List.map_map
  case neverBusy =>
    intro report within
    obtain ⟨attempt, -, rfl⟩ := List.mem_map.mp within
    exact attempt.outcome_ne_busy
  case inner => exact List.map_map
  case frames => rfl
  case free => rfl
  case known => exact known
  case counters =>
    rw [flat] at counted ⊢
    exact counted
  case sent =>
    rw [flat] at counted
    exact UInt64.toNat_inj.mp (counted.accepted.trans counted.transmitted.symm)
  case noQueue =>
    have none : ((attempts.map Attempt.report).flatMap Report.outcomes).count
        (.error .queueFull) = 0 := by
      rw [List.count_eq_zero]
      intro within
      obtain ⟨report, listed, found⟩ := List.mem_flatMap.mp within
      exact absurd (known report listed _ found) (by decide)
    have zero := counted.queueFull
    rw [Counters.Counts, none, flat] at zero
    exact UInt64.toNat_inj.mp zero

/-- Of two deliveries from inside, one has link addresses. -/
example :
    let notice : Notice := ⟨⟨1⟩, ⟨2⟩, 3, 4, 5⟩
    let link : LinkAddresses := ⟨⟨1, 0, 0, 0, 0, 0⟩, ⟨2, 0, 0, 0, 0, 0⟩⟩
    let inside := [.make ⟨notice, none⟩ [] true, .make ⟨notice, some link⟩ [] true]
    (Injector.serve {} [.make ⟨notice, some link⟩ inside false]).2 =
      [⟨.error .transport, [.error .noLinkAddresses, .error .busy]⟩] := by
  rfl

end TrafficShaper.Delivery
