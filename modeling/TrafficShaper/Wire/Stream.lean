/-
Records in a stream of bytes: bytes are fed to a buffer, and records are read from its front.
-/

import TrafficShaper.Wire.Record

namespace TrafficShaper.Wire

/-- The bytes that were fed and not yet read. -/
abbrev Buffer := List UInt8

namespace Buffer

/-- New bytes go to the end. -/
def feed (buffer : Buffer) (bytes : List UInt8) : Buffer := buffer ++ bytes

/-- A notice is written as a record to the end. -/
def write (buffer : Buffer) (notice : Notice) : Buffer := buffer.feed (encode notice)

/-- A record is read from the front; when there are too few bytes, none of them is taken. -/
def read (buffer : Buffer) : Except Error Notice × Buffer :=
  match decode buffer with
  | .ok (notice, rest) => (.ok notice, rest)
  | .error error => (.error error, buffer)

/-- The next record is read as soon as all its bytes are there. -/
def next (buffer : Buffer) : Option Notice × Buffer :=
  match takeNotice? buffer with
  | some (notice, rest) => (some notice, rest)
  | none => (none, buffer)

/-- At the end of the input a part of a record is an error, and it is thrown away. -/
def finish (buffer : Buffer) : Except Error (Option Notice) × Buffer :=
  match buffer.next with
  | (some notice, rest) => (.ok (some notice), rest)
  | (none, []) => (.ok none, [])
  | (none, rest@(_ :: _)) => (.error (.short recordLength rest.length), [])

end Buffer

end TrafficShaper.Wire
