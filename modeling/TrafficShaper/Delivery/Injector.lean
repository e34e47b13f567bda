/-
An injector writes each dispatch as a link frame to a sink. The sink is held during a write, and
a delivery that is made from inside a write finds it held.
-/

import TrafficShaper.Delivery.Channel
import TrafficShaper.Wire.LinkFrame

namespace TrafficShaper.Delivery

/-- An attempt is a delivery together with what the sink does should its frame get there: the
attempts that the sink makes from inside, and whether it takes the frame. -/
inductive Attempt where
  | make (dispatch : Dispatch) (nested : List Attempt) (taken : Bool)
deriving Repr

/-- A sink takes frames, or refuses them, or takes a frame and at once sends its notice again. -/
inductive SinkMode where
  | store
  | fail
  | reenter
deriving DecidableEq, Repr

/-- The state of an injector and its sink. -/
structure Injector where
  mode : SinkMode := .store
  held : Bool := false
  /-- The frames that the sink took, the first one first. -/
  frames : List (List UInt8) := []
  counters : Counters := {}
deriving Repr

namespace Injector

/-- The frame goes back to the sender of the sampled packet. -/
def frameOf (notice : Notice) (link : LinkAddresses) : List UInt8 :=
  Wire.encodeFrame notice link.reversed

mutual

/-- The outcome of an attempt, and those of the attempts inside it. The link addresses are looked
at before the sink. -/
def attempt (injector : Injector) : Attempt → Injector × Outcome × List Outcome
  | .make dispatch nested taken =>
      match dispatch.link with
      | none => (injector, .error .noLinkAddresses, [])
      | some link =>
          if injector.held then
            ({ injector with counters := injector.counters.countBusy }, .error .busy, [])
          else
            let frames :=
              if taken then injector.frames ++ [frameOf dispatch.notice link]
              else injector.frames
            let (inner, outcomes) :=
              attemptAll { injector with held := true, frames } nested
            ({ inner with held := false, counters := inner.counters.countSent taken },
              if taken then .ok () else .error .transport, outcomes)

/-- Attempts are made one after the other. -/
def attemptAll (injector : Injector) : List Attempt → Injector × List Outcome
  | [] => (injector, [])
  | first :: rest =>
      let (injector, outcome, inner) := attempt injector first
      let (injector, outcomes) := attemptAll injector rest
      (injector, outcome :: inner ++ outcomes)

end

/-- The attempt that a sink in the given mode makes of a dispatch. -/
def attemptFor (mode : SinkMode) (dispatch : Dispatch) : Attempt :=
  match mode with
  | .store => .make dispatch [] true
  | .fail => .make dispatch [] false
  | .reenter =>
      let echo :=
        match dispatch.link with
        | none => []
        | some link =>
            match Wire.decodeFrame (frameOf dispatch.notice link) with
            | .error _ => []
            | .ok (link, notice) => [.make { notice, link } [] true]
      .make dispatch echo true

/-- A delivery with the sink in its current mode. -/
def deliver (injector : Injector) (dispatch : Dispatch) : Injector × Outcome × List Outcome :=
  injector.attempt (attemptFor injector.mode dispatch)

end Injector

instance : Channel Injector where
  deliver injector dispatch :=
    let (injector, outcome, _) := injector.deliver dispatch
    (injector, outcome)
  counters := Injector.counters

end TrafficShaper.Delivery
