import Contactless.Vendor.Kit

/-!
Commands built and answers read through the vendor's kit, firmware versions among them.

A buffer that the kit hands out is copied and given back within the operation that asked for it,
whether or not its content turns out to be usable. Nothing handed out means a defect, and then
there is nothing to give back.
-/

set_option autoImplicit false

namespace Contactless

structure FirmwareVersion where
  major : UInt8
  minor : UInt8
  patch : UInt8
  build : UInt8
  deriving DecidableEq, Repr

namespace FirmwareVersion

/-- The four numbers, the weightiest first. -/
def parts (version : FirmwareVersion) : Bytes :=
  [version.major, version.minor, version.patch, version.build]

/-- Reads a version from a length-prefixed field of exactly four bytes; what follows the field is
ignored. -/
def ofField (buffer : Bytes) : Except ResponseFault FirmwareVersion :=
  match Field.decode buffer with
  | .error fault => .error fault
  | .ok ([major, minor, patch, build], _) => .ok ⟨major, minor, patch, build⟩
  | .ok _ => .error (.parse "firmware version must be 4 bytes")

def text (version : FirmwareVersion) : String :=
  String.intercalate "." (version.parts.map fun part => toString part.toNat)

/-- Whether one version is not later than another; an earlier number outweighs all after it. -/
def atMost (first second : FirmwareVersion) : Bool := first.parts ≤ second.parts

/-- Versions from the earliest to the latest, each once. -/
def ascending (versions : List FirmwareVersion) : List FirmwareVersion :=
  (versions.mergeSort atMost).eraseReps

end FirmwareVersion

end Contactless

namespace Contactless.Vendor

/-- What an operation did to the kit, and how it came out. -/
structure Attempt (α : Type) where
  events : List Event
  result : Except Fault α

namespace Kit

/-- Copies the buffer that a call hands out and gives it back. -/
def copy (kit : Kit) (call : BufferCall) : Attempt Bytes :=
  match kit.buffer call with
  | none => ⟨[.handedOut call none], .error (.nothing call.name)⟩
  | some buffer =>
    ⟨[.handedOut call (some buffer), .bufferReleased buffer.length], .ok buffer⟩

/-- Has the kit judge an answer; any code but zero refuses it. -/
def judge (kit : Kit) (call : CodeCall) : Attempt Unit :=
  let code := kit.code call
  ⟨[.judged call code], if code = 0 then .ok () else .error (.rejected call.name code)⟩

def firmwareVersion (kit : Kit) (answer : Bytes) : Attempt FirmwareVersion :=
  let call := BufferCall.firmwareResponse answer
  let field := kit.copy call
  ⟨field.events, match field.result with
    | .error fault => .error fault
    | .ok buffer =>
      match FirmwareVersion.ofField buffer with
      | .error cause => .error (.malformed call.name cause)
      | .ok version => .ok version⟩

end Kit

inductive CodecRequest where
  | selectRequest (aid : Bytes)
  | selectResponse (answer : Bytes)
  | firmwareRequest
  | firmwareResponse (answer : Bytes)
  | handshakeRequest
  | handshakeResponse (answer : Bytes)
  deriving DecidableEq, Repr

inductive CodecValue where
  | accepted
  | frame (bytes : Bytes)
  | version (version : FirmwareVersion)
  deriving DecidableEq, Repr

def Attempt.map {α β : Type} (form : α → β) (attempt : Attempt α) : Attempt β :=
  ⟨attempt.events, attempt.result.map form⟩

def Kit.perform (kit : Kit) : CodecRequest → Attempt CodecValue
  | .selectRequest aid => (kit.copy (.selectRequest aid)).map .frame
  | .selectResponse answer => (kit.judge (.selectResponse answer)).map fun _ => .accepted
  | .firmwareRequest => (kit.copy .firmwareRequest).map .frame
  | .firmwareResponse answer => (kit.firmwareVersion answer).map .version
  | .handshakeRequest => (kit.copy .handshakeRequest).map .frame
  | .handshakeResponse answer => (kit.judge (.handshakeResponse answer)).map fun _ => .accepted

theorem Kit.copy_of_none {kit : Kit} {call : BufferCall} (empty : kit.buffer call = none) :
    kit.copy call = ⟨[.handedOut call none], .error (.nothing call.name)⟩ := by
  simp [copy, empty]

theorem Kit.copy_of_some {kit : Kit} {call : BufferCall} {buffer : Bytes}
    (present : kit.buffer call = some buffer) :
    kit.copy call =
      ⟨[.handedOut call (some buffer), .bufferReleased buffer.length], .ok buffer⟩ := by
  simp [copy, present]

end Contactless.Vendor
