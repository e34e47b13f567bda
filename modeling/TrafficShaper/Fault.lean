/-
A fault ends a run: an operation was asked for something that has no answer.
-/

namespace TrafficShaper

/-- Each fault names the demand that could not be met. -/
inductive Fault where
  /-- A value was to be clamped to a range whose lower end is above its upper end. -/
  | invertedRange
  /-- A bound was to be divided into no levels at all. -/
  | noLevels
  /-- The logarithm of a negative number was asked for. -/
  | negativeLogarithm
  /-- A sampling interval was read from an empty table. -/
  | noIntervals
  /-- A queue was to be larger than any queue can be. -/
  | hugeCapacity
deriving DecidableEq, Repr

/-- A clamp needs its bounds in order. -/
def clampWithin (value lower upper : Int64) : Except Fault Int64 :=
  if upper < lower then .error .invertedRange
  else if value < lower then .ok lower
  else if upper < value then .ok upper
  else .ok value

theorem clampWithin_ok {value lower upper : Int64} (ordered : lower ≤ upper) :
    ∃ clamped, clampWithin value lower upper = .ok clamped ∧
      clamped.toInt = max lower.toInt (min upper.toInt value.toInt) := by
  unfold clampWithin
  simp only [Int64.lt_iff_toInt_lt, Int64.le_iff_toInt_le] at *
  rw [if_neg (by omega)]
  split
  · exact ⟨lower, rfl, by omega⟩
  · split
    · exact ⟨upper, rfl, by omega⟩
    · exact ⟨value, rfl, by omega⟩

/-- A sequence succeeds when its first part does, and then the rest on what the first gave. -/
theorem bind_eq_ok {A B : Type} {first : Except Fault A} {rest : A → Except Fault B}
    {result : B} :
    (first >>= rest) = .ok result ↔ ∃ value, first = .ok value ∧ rest value = .ok result := by
  cases first with
  | error fault => simp [bind, Except.bind]
  | ok value => simp [bind, Except.bind]

/-- A sequence of parts that always succeed succeeds. -/
theorem bind_answers {A B : Type} {first : Except Fault A} {rest : A → Except Fault B}
    (firstAnswers : ∃ value, first = .ok value)
    (restAnswers : ∀ value, ∃ result, rest value = .ok result) :
    ∃ result, (first >>= rest) = .ok result := by
  obtain ⟨value, found⟩ := firstAnswers
  obtain ⟨result, answered⟩ := restAnswers value
  exact ⟨result, bind_eq_ok.mpr ⟨value, found, answered⟩⟩

/-- A step is repeated, and all its results are kept in order. -/
def repeated {S A : Type} (step : S → Except Fault (S × A)) (state : S) :
    Nat → Except Fault (S × List A)
  | 0 => .ok (state, [])
  | count + 1 => do
      let (state, first) ← step state
      let (state, rest) ← repeated step state count
      pure (state, first :: rest)

end TrafficShaper
