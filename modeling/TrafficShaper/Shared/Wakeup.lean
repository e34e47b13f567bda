/-
Tasks wait for a wake-up under a ticket. One wake-up goes to the task that has waited longest; if
no task waits, it is kept for the next one, but never more than one is kept.
-/

namespace TrafficShaper.Shared

/-- The tasks that wait for a wake-up, and those that were woken. -/
structure Wakeup where
  /-- A wake-up is kept. -/
  kept : Bool := false
  /-- The tickets of the tasks that wait, the oldest one first. -/
  waiting : List Nat := []
  /-- The tickets of the tasks that were woken and did not run yet. -/
  woken : List Nat := []
deriving DecidableEq, Repr

namespace Wakeup

/-- A task takes the kept wake-up, or waits from now on; the answer is whether it took one. -/
def enable (wakeup : Wakeup) (ticket : Nat) : Wakeup × Bool :=
  if wakeup.kept then ({ wakeup with kept := false }, true)
  else ({ wakeup with waiting := wakeup.waiting ++ [ticket] }, false)

/-- One wake-up is sent. -/
def notifyOne (wakeup : Wakeup) : Wakeup :=
  match wakeup.waiting with
  | [] => { wakeup with kept := true }
  | first :: rest => { wakeup with waiting := rest, woken := wakeup.woken ++ [first] }

/-- All tasks that wait are woken, and no wake-up is kept for later ones. -/
def notifyAll (wakeup : Wakeup) : Wakeup :=
  { wakeup with waiting := [], woken := wakeup.woken ++ wakeup.waiting }

/-- A task runs again, and no longer waits. -/
def resume (wakeup : Wakeup) (ticket : Nat) : Wakeup :=
  { wakeup with waiting := wakeup.waiting.erase ticket, woken := wakeup.woken.erase ticket }

/-- A task gives up. A wake-up that it got goes to the next one. -/
def withdraw (wakeup : Wakeup) (ticket : Nat) : Wakeup :=
  if ticket ∈ wakeup.woken then (wakeup.resume ticket).notifyOne else wakeup.resume ticket

end Wakeup

end TrafficShaper.Shared
