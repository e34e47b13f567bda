/-
The forms on the wire, in both directions. What is written is read back, whatever follows it, and
what is read was written so, but for the reserved bytes.
-/

import TrafficShaper.Wire.LinkFrame
import TrafficShaper.Wire.Stream
import Mathlib

namespace TrafficShaper

theorem Mac.bytes_length (address : Mac) : address.bytes.length = 6 := rfl

theorem Mac.exists_bytes (given : List UInt8) (enough : 6 ≤ given.length) :
    ∃ (address : Mac) (rest : List UInt8), given = address.bytes ++ rest := by
  match given with
  | first :: second :: third :: fourth :: fifth :: sixth :: rest =>
      exact ⟨⟨first, second, third, fourth, fifth, sixth⟩, rest, rfl⟩

/-- The bytes of a link header, which stand in front of its payload. -/
def LinkAddresses.header (link : LinkAddresses) (type : UInt8 × UInt8) : List UInt8 :=
  link.destination.bytes ++ link.source.bytes ++ [type.1, type.2]

theorem linkHeader_header (link : LinkAddresses) (type : UInt8 × UInt8) (payload : List UInt8) :
    linkHeader? (link.header type ++ payload) = some (link, type, payload) := rfl

theorem eq_header_of_linkHeader {bytes payload : List UInt8} {link : LinkAddresses}
    {type : UInt8 × UInt8} (found : linkHeader? bytes = some (link, type, payload)) :
    bytes = link.header type ++ payload := by
  simp only [linkHeader?, Option.bind_eq_bind, Option.bind_eq_some_iff, Prod.exists] at found
  obtain ⟨destination, afterDestination, first, source, afterSource, second, found⟩ := found
  split at found
  · simp only [Option.some.injEq, Prod.mk.injEq] at found
    obtain ⟨rfl, rfl, rfl⟩ := found
    rw [Mac.eq_append_of_take first, Mac.eq_append_of_take second]
    rfl
  · contradiction

/-- Fourteen bytes are enough for a link header. -/
theorem exists_header {bytes : List UInt8} (enough : 14 ≤ bytes.length) :
    ∃ (link : LinkAddresses) (type : UInt8 × UInt8) (payload : List UInt8),
      bytes = link.header type ++ payload := by
  obtain ⟨destination, rest, rfl⟩ := Mac.exists_bytes bytes (by omega)
  rw [List.length_append, Mac.bytes_length] at enough
  obtain ⟨source, rest, rfl⟩ := Mac.exists_bytes rest (by omega)
  rw [List.length_append, Mac.bytes_length] at enough
  match rest with
  | high :: low :: payload => exact ⟨⟨source, destination⟩, (high, low), payload, rfl⟩

theorem linkHeader_eq_none {bytes : List UInt8} (few : bytes.length < 14) :
    linkHeader? bytes = none := by
  rw [Option.eq_none_iff_forall_ne_some]
  intro ⟨link, type, payload⟩ found
  rw [eq_header_of_linkHeader found, List.length_append] at few
  have header : (link.header type).length = 14 := rfl
  omega

namespace Wire

/-- The number that bytes spell, the high byte first. -/
def number (bytes : List UInt8) : Nat := Nat.ofDigits 256 (bytes.reverse.map UInt8.toNat)

/-- Bytes in which three bytes are set to zero. -/
def cleared (start : Nat) (bytes : List UInt8) : List UInt8 :=
  bytes.take start ++ [0, 0, 0] ++ bytes.drop (start + 3)

theorem number_cons (first : UInt8) (rest : List UInt8) :
    number (first :: rest) = first.toNat * 256 ^ rest.length + number rest := by
  rw [number, number, List.reverse_cons, List.map_append, Nat.ofDigits_append, List.length_map,
    List.length_reverse, List.map_singleton, Nat.ofDigits_singleton]
  ring

theorem number_four (first second third fourth : UInt8) :
    number [first, second, third, fourth] =
      first.toNat * 16777216 + second.toNat * 65536 + third.toNat * 256 + fourth.toNat := by
  simp only [number_cons, List.length_cons, List.length_nil]
  rw [show number [] = 0 from rfl]
  omega

theorem number_wordBytes (word : UInt32) : number (wordBytes word) = word.toNat := by
  have bound := word.toNat_lt
  rw [wordBytes, number_four]
  simp only [UInt8.toNat_ofNat']
  omega

/-- Four bytes are the bytes of a word. -/
theorem exists_wordBytes (bytes : List UInt8) (enough : 4 ≤ bytes.length) :
    ∃ (word : UInt32) (rest : List UInt8), bytes = wordBytes word ++ rest := by
  match bytes with
  | first :: second :: third :: fourth :: rest =>
      refine ⟨UInt32.ofNat (number [first, second, third, fourth]), rest, ?_⟩
      have bounds := And.intro first.toNat_lt (And.intro second.toNat_lt
        (And.intro third.toNat_lt fourth.toNat_lt))
      rw [number_four]
      simp only [wordBytes, List.cons_append, List.nil_append, List.cons.injEq, and_true,
        ← UInt8.toNat_inj, UInt8.toNat_ofNat', UInt32.toNat_ofNat']
      omega

/-- Of a word that is cut to its low byte, the three high bytes are zero. -/
theorem wordBytes_low (word : UInt32) :
    wordBytes word.toUInt8.toUInt32 = cleared 0 (wordBytes word) := by
  have bound := word.toUInt8.toNat_lt
  simp only [wordBytes, cleared, List.take_zero, List.nil_append, List.drop_succ_cons,
    List.drop_zero, List.cons_append, List.cons.injEq, and_true, ← UInt8.toNat_inj,
    UInt8.toNat_ofNat', UInt8.toNat_toUInt32, UInt32.toNat_toUInt8]
  simp only [UInt8.toNat_zero]
  omega

/-- A signed half word is written as its remainder by the number of half words. -/
theorem number_signed (value : Int32) :
    (number (wordBytes value.toUInt32) : Int) = value.toInt % 2 ^ 32 := by
  have bound := value.toUInt32.toNat_lt
  have same : value.toInt = (value.toUInt32.toNat : Int).bmod (2 ^ 32) :=
    BitVec.toInt_eq_toNat_bmod value.toBitVec
  have reduced := Int.bmod_emod (x := value.toUInt32.toNat) (m := 2 ^ 32)
  rw [number_wordBytes, same]
  push_cast at reduced ⊢
  omega

/-- The layout of a record: five words, the high byte first, and the reserved bytes zero. -/
structure Holds (record : List UInt8) (notice : Notice) : Prop where
  length : record.length = 20
  destination : number (record.extract 0 4) = notice.destination.word.toNat
  source : number (record.extract 4 8) = notice.source.word.toNat
  level : number (record.extract 8 12) = notice.level.toNat
  offset : (number (record.extract 12 16) : Int) = notice.offset.toInt % 2 ^ 32
  delta : (number (record.extract 16 20) : Int) = notice.delta.toInt % 2 ^ 32

theorem encode_holds (notice : Notice) : Holds (encode notice) notice := by
  constructor
  case length => exact encode_length notice
  case destination => exact number_wordBytes notice.destination.word
  case source => exact number_wordBytes notice.source.word
  case level =>
    have level := number_wordBytes notice.level.toUInt32
    rwa [UInt8.toNat_toUInt32] at level
  case offset => exact number_signed notice.offset
  case delta => exact number_signed notice.delta

/-- Twenty bytes are a record, but for the reserved bytes. -/
theorem takeNotice_of_enough {bytes : List UInt8} (enough : 20 ≤ bytes.length) :
    ∃ notice, takeNotice? bytes = some (notice, bytes.drop 20) ∧
      encode notice = cleared 8 (bytes.take 20) := by
  have word_length : ∀ word, (wordBytes word).length = 4 := fun _ => rfl
  obtain ⟨destination, rest, rfl⟩ := exists_wordBytes bytes (by omega)
  rw [List.length_append, word_length] at enough
  obtain ⟨source, rest, rfl⟩ := exists_wordBytes rest (by omega)
  rw [List.length_append, word_length] at enough
  obtain ⟨level, rest, rfl⟩ := exists_wordBytes rest (by omega)
  rw [List.length_append, word_length] at enough
  obtain ⟨offset, rest, rfl⟩ := exists_wordBytes rest (by omega)
  rw [List.length_append, word_length] at enough
  obtain ⟨delta, rest, rfl⟩ := exists_wordBytes rest (by omega)
  refine ⟨⟨⟨destination⟩, ⟨source⟩, level.toUInt8, offset.toInt32, delta.toInt32⟩, ?_, ?_⟩
  · simp only [takeNotice?, takeWord_wordBytes, Option.bind_eq_bind, Option.bind_some,
      Option.pure_def]
    rfl
  · simp only [encode, wordBytes_low, UInt32.toUInt32_toInt32]
    rfl

theorem takeNotice_eq_none {bytes : List UInt8} (few : bytes.length < 20) :
    takeNotice? bytes = none := by
  rw [Option.eq_none_iff_forall_ne_some]
  intro ⟨notice, rest⟩ taken
  have length := takeNotice_length taken
  rw [recordLength] at length
  omega

/-- The three ways in which a record is read from the front of bytes. -/
structure ReadsRecord (bytes : List UInt8) : Prop where
  enough : 20 ≤ bytes.length → ∃ notice,
    Buffer.read bytes = (.ok notice, bytes.drop 20) ∧
      encode notice = cleared 8 (bytes.take 20)
  few : bytes.length < 20 → Buffer.read bytes = (.error (.short 20 bytes.length), bytes)

theorem reads_record (bytes : List UInt8) : ReadsRecord bytes := by
  constructor
  case enough =>
    intro enough
    obtain ⟨notice, taken, written⟩ := takeNotice_of_enough enough
    refine ⟨notice, ?_, written⟩
    rw [Buffer.read, decode, taken]
  case few =>
    intro few
    rw [Buffer.read, decode, takeNotice_eq_none few]
    rfl

theorem read_encode (notice : Notice) (rest : List UInt8) :
    Buffer.read (encode notice ++ rest) = (.ok notice, rest) := by
  rw [Buffer.read, decode, takeNotice_encode]

/-- The layout of a frame: receiver, sender, the type of notices, and the record. -/
structure Carries (frame : List UInt8) (notice : Notice) (link : LinkAddresses) : Prop where
  length : frame.length = 34
  destination : frame.extract 0 6 = link.destination.bytes
  source : frame.extract 6 12 = link.source.bytes
  type : frame.extract 12 14 = [0xA9, 0xA9]
  record : frame.extract 14 34 = encode notice

theorem encodeFrame_carries (notice : Notice) (link : LinkAddresses) :
    Carries (encodeFrame notice link) notice link := by
  constructor <;> rfl

theorem encodeFrame_eq (notice : Notice) (link : LinkAddresses) :
    encodeFrame notice link = link.header noticeType ++ encode notice := rfl

theorem decodeFrame_header (link : LinkAddresses) (type : UInt8 × UInt8) (payload : List UInt8) :
    decodeFrame (link.header type ++ payload) =
      if type = noticeType then
        (decode payload).map fun (notice, _) => (link, notice)
      else .error (.foreignType (UInt16.ofNat (type.1.toNat * 256 + type.2.toNat))) := by
  rw [decodeFrame, linkHeader_header]
  dsimp only
  split
  · cases decode payload <;> rfl
  · rfl

theorem decodeFrame_encodeFrame (notice : Notice) (link : LinkAddresses) (padding : List UInt8) :
    decodeFrame (encodeFrame notice link ++ padding) = .ok (link, notice) := by
  rw [encodeFrame_eq, List.append_assoc, decodeFrame_header, if_pos rfl, decode, takeNotice_encode]
  rfl

/-- The four ways in which a frame is read; no two of them have the same lengths and type. -/
inductive FrameCase (frame : List UInt8) : Prop where
  | noHeader (few : frame.length < 14)
      (read : decodeFrame frame = .error (.short 14 frame.length))
  | foreign (enough : 14 ≤ frame.length) (other : frame.extract 12 14 ≠ [0xA9, 0xA9])
      (read : decodeFrame frame =
        .error (.foreignType (UInt16.ofNat (number (frame.extract 12 14)))))
  | noRecord (enough : 14 ≤ frame.length) (few : frame.length < 34)
      (type : frame.extract 12 14 = [0xA9, 0xA9])
      (read : decodeFrame frame = .error (.short 20 (frame.length - 14)))
  | record (link : LinkAddresses) (notice : Notice) (enough : 34 ≤ frame.length)
      (type : frame.extract 12 14 = [0xA9, 0xA9])
      (read : decodeFrame frame = .ok (link, notice))
      (written : encodeFrame notice link = cleared 22 (frame.take 34))

theorem number_two (high low : UInt8) : number [high, low] = high.toNat * 256 + low.toNat := by
  rw [number_cons, number_cons, show number [] = 0 from rfl]
  simp

/-- Once the header is taken off, the type decides, and then the length of the payload. -/
theorem header_cases (link : LinkAddresses) (type : UInt8 × UInt8) (payload : List UInt8) :
    FrameCase (link.header type ++ payload) := by
  have length : (link.header type ++ payload).length = 14 + payload.length := by
    rw [List.length_append]
    rfl
  have shown : (link.header type ++ payload).extract 12 14 = [type.1, type.2] := rfl
  have read := decodeFrame_header link type payload
  by_cases same : type = noticeType
  · subst same
    rw [if_pos rfl] at read
    by_cases enough : 20 ≤ payload.length
    · obtain ⟨notice, taken, written⟩ := takeNotice_of_enough enough
      rw [decode, taken] at read
      refine .record link notice (by omega) shown read ?_
      rw [encodeFrame_eq, written]
      rfl
    · rw [decode, takeNotice_eq_none (by omega)] at read
      have got : payload.length = (link.header noticeType ++ payload).length - 14 := by omega
      rw [got] at read
      exact .noRecord (by omega) (by omega) shown read
  · rw [if_neg same, ← number_two, ← shown] at read
    refine .foreign (by omega) ?_ read
    rw [shown]
    intro equal
    simp only [List.cons.injEq, and_true] at equal
    exact same (Prod.ext equal.1 equal.2)

theorem frame_cases (frame : List UInt8) : FrameCase frame := by
  by_cases enough : 14 ≤ frame.length
  · obtain ⟨link, type, payload, rfl⟩ := exists_header enough
    exact header_cases link type payload
  · have few : frame.length < 14 := by omega
    refine .noHeader few ?_
    rw [decodeFrame, linkHeader_eq_none few]
    rfl

/-- What is read from a frame: when it is read, why it is not read, and what it was written as.
The header is looked at first, then the type, and the length of the record last. -/
structure ReadsFrame (frame : List UInt8) : Prop where
  success : (∃ link notice, decodeFrame frame = .ok (link, notice)) ↔
    34 ≤ frame.length ∧ frame.extract 12 14 = [0xA9, 0xA9]
  noHeader : frame.length < 14 → decodeFrame frame = .error (.short 14 frame.length)
  foreign : 14 ≤ frame.length → frame.extract 12 14 ≠ [0xA9, 0xA9] →
    decodeFrame frame = .error (.foreignType (UInt16.ofNat (number (frame.extract 12 14))))
  noRecord : 14 ≤ frame.length → frame.extract 12 14 = [0xA9, 0xA9] → frame.length < 34 →
    decodeFrame frame = .error (.short 20 (frame.length - 14))
  written : ∀ link notice, decodeFrame frame = .ok (link, notice) →
    encodeFrame notice link = cleared 22 (frame.take 34)

theorem reads_frame (frame : List UInt8) : ReadsFrame frame := by
  cases frame_cases frame with
  | noHeader few read => constructor <;> grind
  | foreign enough other read => constructor <;> grind
  | noRecord enough few type read => constructor <;> grind
  | record link notice enough type read written => constructor <;> grind

/-- The forms on the wire are exact. A record and a frame are laid out as they should be and are
read back from in front of anything; any bytes are read as the record they spell, or refused for
what they lack; and a record or a frame that was read is written as it was, with the reserved
bytes zero. -/
theorem forms_exact :
    (∀ notice rest, Holds (encode notice) notice ∧
      Buffer.read (encode notice ++ rest) = (.ok notice, rest)) ∧
    (∀ bytes, ReadsRecord bytes) ∧
    (∀ notice link padding, Carries (encodeFrame notice link) notice link ∧
      decodeFrame (encodeFrame notice link ++ padding) = .ok (link, notice)) ∧
    (∀ frame, ReadsFrame frame) := by
  refine ⟨?_, reads_record, ?_, reads_frame⟩
  · intro notice rest
    exact ⟨encode_holds notice, read_encode notice rest⟩
  · intro notice link padding
    exact ⟨encodeFrame_carries notice link, decodeFrame_encodeFrame notice link padding⟩

/-- The reserved bytes are not looked at, and the bytes of a negative number are its remainder. -/
example : Buffer.read
    [10, 0, 1, 2, 10, 0, 3, 4, 0xAA, 0, 0x55, 63, 0xFF, 0xFB, 0xF0, 0x20, 0, 2, 0x38, 0x5C, 7] =
      (.ok ⟨.ofBytes 10 0 1 2, .ofBytes 10 0 3 4, 63, -266208, 145500⟩, [7]) := by
  decide

end Wire

end TrafficShaper
