import Contactless.Apdu.StatusWord

/-!
Short command frames: four header bytes, then optionally data behind its one-byte length, then
optionally one byte for the expected length of the answer.

Reading a frame is ambiguous in one place only: a length byte of zero. A fifth byte that stands
alone is the expected length, so data that is present but empty does not survive a reading.
-/

set_option autoImplicit false

namespace Contactless

/-- A command for the card. Data may be present and empty, which differs from absent data. -/
structure Command where
  cla : UInt8
  ins : UInt8
  p1 : UInt8
  p2 : UInt8
  data : Option Bytes := none
  expected : Option UInt8 := none
  deriving DecidableEq, Repr

inductive CommandFault where
  /-- The buffer has no header, or its length byte disagrees with its length. -/
  | badLength (length : Nat)
  | dataTooLong (length : Nat)
  deriving DecidableEq, Repr

def CommandFault.message : CommandFault → String
  | .badLength length => s!"Invalid command length: {length}"
  | .dataTooLong length => s!"Command data too long: {length} bytes"

namespace Command

def header (command : Command) : Bytes :=
  [command.cla, command.ins, command.p1, command.p2]

def size (command : Command) : Nat :=
  4 + (match command.data with
    | none => 0
    | some data => 1 + data.length) + (if command.expected.isSome then 1 else 0)

/-- Data behind its length byte; at most 255 bytes fit. -/
def dataField : Option Bytes → Except CommandFault Bytes
  | none => .ok []
  | some data =>
    if data.length < 256 then .ok (data.length.toUInt8 :: data)
    else .error (.dataTooLong data.length)

def encode (command : Command) : Except CommandFault Bytes :=
  match dataField command.data with
  | .error fault => .error fault
  | .ok field => .ok (command.header ++ field ++ command.expected.toList)

/-- The data that a length byte announces; a length of zero announces none. -/
def announced (length : UInt8) (rest : Bytes) : Option Bytes :=
  if length = 0 then none else some (rest.take length.toNat)

/-- The data and expected length behind the header; `none` if the length byte disagrees with the
bytes that follow it. -/
def body? : Bytes → Option (Option Bytes × Option UInt8)
  | [] => some (none, none)
  | [expected] => some (none, some expected)
  | length :: rest =>
    match rest.drop length.toNat with
    | [] => if rest.length = length.toNat then some (announced length rest, none) else none
    | [expected] => some (announced length rest, some expected)
    | _ => none

/-- Reads a frame; every byte of the buffer has to be accounted for. -/
def decode (bytes : Bytes) : Except CommandFault Command :=
  match bytes with
  | cla :: ins :: p1 :: p2 :: rest =>
    match body? rest with
    | some (data, expected) => .ok ⟨cla, ins, p1, p2, data, expected⟩
    | none => .error (.badLength bytes.length)
  | _ => .error (.badLength bytes.length)

def text (command : Command) : String :=
  String.intercalate " " (command.header.map fun byte => hexUpper [byte]) ++
    (match command.data with
      | none => ""
      | some data => " [" ++ hexUpper data ++ "]") ++
    (match command.expected with
      | none => ""
      | some expected => " Le=" ++ hexUpper [expected])

@[simp] theorem dataField_none : dataField none = .ok [] := rfl

theorem dataField_some {data : Bytes} (fits : data.length < 256) :
    dataField (some data) = .ok (data.length.toUInt8 :: data) := if_pos fits

theorem dataField_tooLong {data : Bytes} (long : ¬ data.length < 256) :
    dataField (some data) = .error (.dataTooLong data.length) := if_neg long

end Command

end Contactless
