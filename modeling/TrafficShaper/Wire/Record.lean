/-
The wire form of a notice: five words of four bytes, the high byte first.

    destination | source | 0 0 0 level | offset | delta
-/

import TrafficShaper.Notice

namespace TrafficShaper.Wire

/-- Reading fails on too few bytes or on a frame of another type. -/
inductive Error where
  | short (need got : Nat)
  | foreignType (number : UInt16)
deriving DecidableEq, Repr

/-- The text of an error. -/
def Error.message : Error → String
  | .short need got => s!"Buffer too short: need {need} bytes, got {got}"
  | .foreignType number =>
      "Unexpected ethertype 0x" ++
        Hexadecimal.render [UInt8.ofNat (number.toNat / 256), UInt8.ofNat (number.toNat % 256)]

/-- The four bytes of a word, the high one first. -/
def wordBytes (word : UInt32) : List UInt8 :=
  [UInt8.ofNat (word.toNat / 16777216), UInt8.ofNat (word.toNat / 65536),
    UInt8.ofNat (word.toNat / 256), UInt8.ofNat word.toNat]

/-- The word of the first four bytes, and the bytes that are left. -/
def takeWord? : List UInt8 → Option (UInt32 × List UInt8)
  | first :: second :: third :: fourth :: rest =>
      some (UInt32.ofNat
        (first.toNat * 16777216 + second.toNat * 65536 + third.toNat * 256 + fourth.toNat), rest)
  | _ => none

theorem takeWord_wordBytes (word : UInt32) (rest : List UInt8) :
    takeWord? (wordBytes word ++ rest) = some (word, rest) := by
  simp only [wordBytes, List.cons_append, List.nil_append, takeWord?, Option.some.injEq,
    Prod.mk.injEq, and_true]
  apply UInt32.toNat_inj.mp
  have := word.toNat_lt
  simp only [UInt8.toNat_ofNat', UInt32.toNat_ofNat']
  omega

theorem takeWord_length {bytes rest : List UInt8} {word : UInt32}
    (taken : takeWord? bytes = some (word, rest)) : bytes.length = rest.length + 4 := by
  unfold takeWord? at taken
  split at taken
  · simp only [Option.some.injEq, Prod.mk.injEq] at taken
    simp [← taken.2]
  · contradiction

/-- The number of bytes of a record. -/
def recordLength : Nat := 20

/-- The record of a notice; the three bytes before the level are reserved and zero. -/
def encode (notice : Notice) : List UInt8 :=
  wordBytes notice.destination.word ++ wordBytes notice.source.word ++
    wordBytes notice.level.toUInt32 ++ wordBytes notice.offset.toUInt32 ++
    wordBytes notice.delta.toUInt32

/-- The notice of the first twenty bytes, and the bytes that are left; the reserved bytes are
not looked at. -/
def takeNotice? (bytes : List UInt8) : Option (Notice × List UInt8) := do
  let (destination, bytes) ← takeWord? bytes
  let (source, bytes) ← takeWord? bytes
  let (level, bytes) ← takeWord? bytes
  let (offset, bytes) ← takeWord? bytes
  let (delta, bytes) ← takeWord? bytes
  pure (⟨⟨destination⟩, ⟨source⟩, level.toUInt8, offset.toInt32, delta.toInt32⟩, bytes)

/-- Reading takes one record from the front, or says how many bytes there were. -/
def decode (bytes : List UInt8) : Except Error (Notice × List UInt8) :=
  match takeNotice? bytes with
  | some result => .ok result
  | none => .error (.short recordLength bytes.length)

theorem takeNotice_encode (notice : Notice) (rest : List UInt8) :
    takeNotice? (encode notice ++ rest) = some (notice, rest) := by
  simp [takeNotice?, encode, List.append_assoc, takeWord_wordBytes]

theorem takeNotice_length {bytes rest : List UInt8} {notice : Notice}
    (taken : takeNotice? bytes = some (notice, rest)) :
    bytes.length = rest.length + recordLength := by
  simp only [takeNotice?, Option.bind_eq_bind, Option.bind_eq_some_iff, Prod.exists] at taken
  obtain ⟨_, _, first, _, _, second, _, _, third, _, _, fourth, _, _, fifth, done⟩ := taken
  simp only [Option.pure_def, Option.some.injEq, Prod.mk.injEq] at done
  have := takeWord_length first
  have := takeWord_length second
  have := takeWord_length third
  have := takeWord_length fourth
  have := takeWord_length fifth
  have := congrArg List.length done.2
  simp only [recordLength]
  omega

theorem encode_length (notice : Notice) : (encode notice).length = recordLength := rfl

end TrafficShaper.Wire
