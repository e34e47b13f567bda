/-
A datagram is a whole unit of records: it is read to its end, and what is left over there is
passed over.
-/

import TrafficShaper.Wire.Stream

namespace TrafficShaper.Wire

namespace Buffer

theorem finish_length_of_ok {buffer rest : Buffer} {notice : Notice}
    (finished : buffer.finish = (.ok (some notice), rest)) :
    rest.length < buffer.length := by
  unfold finish next at finished
  split at finished
  · rename_i found read
    simp only [Prod.mk.injEq, Except.ok.injEq, Option.some.injEq] at finished
    split at read
    · rename_i taken
      simp only [Prod.mk.injEq, Option.some.injEq] at read
      have := takeNotice_length taken
      have := congrArg List.length read.2
      have := congrArg List.length finished.2
      simp only [recordLength] at *
      omega
    · simp at read
  · simp at finished
  · simp at finished

theorem finish_length_of_error {buffer rest : Buffer} {error : Error}
    (finished : buffer.finish = (.error error, rest)) :
    rest.length < buffer.length := by
  unfold finish next at finished
  split at finished
  · simp at finished
  · simp at finished
  · rename_i read
    simp only [Prod.mk.injEq] at finished
    split at read
    · simp at read
    · simp only [Prod.mk.injEq] at read
      rw [← finished.2, read.2]
      simp

/-- The notices of a datagram, the first one first. Each record that is read makes the datagram
shorter, and so does an error. -/
def notices (buffer : Buffer) : List Notice :=
  match finished : buffer.finish with
  | (.ok (some notice), rest) =>
      have := finish_length_of_ok finished
      notice :: notices rest
  | (.ok none, _) => []
  | (.error _, rest) =>
      have := finish_length_of_error finished
      notices rest
termination_by buffer.length

end Buffer

end TrafficShaper.Wire
