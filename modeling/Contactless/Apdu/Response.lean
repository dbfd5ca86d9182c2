import Contactless.Apdu.CardFault

set_option autoImplicit false

namespace Contactless

structure Response where
  payload : Bytes
  status : StatusWord
  deriving DecidableEq, Repr

/-- Why an answer, or a field in it, cannot be read. -/
inductive ResponseFault where
  | incomplete (length : Nat)
  | parse (text : String)
  deriving DecidableEq, Repr

def ResponseFault.message : ResponseFault → String
  | .incomplete length => s!"Incomplete response: {length} bytes"
  | .parse text => "Parse error: " ++ text

def splitTrailer (bytes : Bytes) : Except ResponseFault ((UInt8 × UInt8) × Bytes) :=
  match bytes.reverse with
  | sw2 :: sw1 :: payload => .ok ((sw1, sw2), payload.reverse)
  | _ => .error (.incomplete bytes.length)

def splitStatus (bytes : Bytes) : Except ResponseFault (StatusWord × Bytes) :=
  match splitTrailer bytes with
  | .error fault => .error fault
  | .ok ((sw1, sw2), payload) => .ok (⟨sw1, sw2⟩, payload)

namespace Response

def success (payload : Bytes) : Response := ⟨payload, .success⟩

def error (status : StatusWord) : Response := ⟨[], status⟩

def decode (bytes : Bytes) : Except ResponseFault Response :=
  match splitStatus bytes with
  | .error fault => .error fault
  | .ok (status, payload) => .ok ⟨payload, status⟩

/-- Reads an answer out of a buffer that somebody else keeps; its bytes are copied first. -/
def ofBorrowed (buffer : Bytes) : Except ResponseFault Response := decode buffer

/-- Reads an answer out of a buffer that is given away with it. -/
def ofOwned (buffer : Bytes) : Except ResponseFault Response := decode buffer

def encode (response : Response) : Bytes := response.payload ++ response.status.toBytes

def isSuccess (response : Response) : Bool := response.status.isSuccess

/-- The payload of a successful answer; of any other, the failure that the card reported. -/
def intoPayload (response : Response) : Except CardFault Bytes :=
  match CardFault.ofStatus? response.status with
  | some fault => .error fault
  | none => .ok response.payload

end Response

@[simp] theorem splitTrailer_append (payload : Bytes) (status : StatusWord) :
    splitTrailer (payload ++ status.toBytes) = .ok ((status.sw1, status.sw2), payload) := by
  simp [splitTrailer, StatusWord.toBytes]

@[simp] theorem splitStatus_append (payload : Bytes) (status : StatusWord) :
    splitStatus (payload ++ status.toBytes) = .ok (status, payload) := by
  simp [splitStatus]

namespace Field

/-- A field behind its length byte; the length is taken modulo 256. -/
def encode (field : Bytes) : Bytes := field.length.toUInt8 :: field

def decode : Bytes → Except ResponseFault (Bytes × Bytes)
  | [] => .error (.parse "missing length prefix")
  | length :: rest =>
    if rest.length < length.toNat then .error (.parse "length prefix exceeds buffer")
    else .ok (rest.take length.toNat, rest.drop length.toNat)

def decodeMany : Nat → Bytes → Except ResponseFault (List Bytes × Bytes)
  | 0, bytes => .ok ([], bytes)
  | count + 1, bytes =>
    match decode bytes with
    | .error fault => .error fault
    | .ok (field, rest) =>
      match decodeMany count rest with
      | .error fault => .error fault
      | .ok (fields, tail) => .ok (field :: fields, tail)

@[simp] theorem decode_nil : decode [] = .error (.parse "missing length prefix") := rfl

end Field

end Contactless
