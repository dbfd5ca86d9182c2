import Contactless.Session.Event
import Contactless.Vendor.Codec

/-!
Operations on the wallet card: a command that the vendor's kit builds, one exchange, and an answer
that the kit reads. The kit sees an answer only after its status word reported success, so a
failure of the card is never taken for a refusal of the kit.
-/

set_option autoImplicit false

namespace Contactless

inductive Operation where
  | selectWallet (aid : Bytes)
  | readFirmware
  | shakeHands
  deriving DecidableEq, Repr

inductive DeskValue where
  | value (value : Value)
  | version (version : FirmwareVersion)
  deriving DecidableEq, Repr

namespace Operation

def request : Operation → Vendor.BufferCall
  | .selectWallet aid => .selectRequest aid
  | .readFirmware => .firmwareRequest
  | .shakeHands => .handshakeRequest

/-- Has the kit read an answer that reported success, status word included. -/
def interpret (operation : Operation) (kit : Vendor.Kit) (answer : Bytes) :
    Vendor.Attempt DeskValue :=
  match operation with
  | .selectWallet _ => (kit.judge (.selectResponse answer)).map fun _ => .value .done
  | .readFirmware => (kit.firmwareVersion answer).map .version
  | .shakeHands => (kit.judge (.handshakeResponse answer)).map fun _ => .value .done

/-- The outcome of an operation whose exchange gave an answer, and the calls of the kit on the
way. -/
def conclude (operation : Operation) (kit : Vendor.Kit) (answer : Bytes) :
    List Vendor.Event × Except SessionError DeskValue :=
  match Response.decode answer with
  | .error fault => ([], .error (.response fault))
  | .ok response =>
    match CardFault.ofStatus? response.status with
    | some fault => ([], .error (.card fault))
    | none =>
      let attempt := operation.interpret kit answer
      (attempt.events, attempt.result.mapError .vendor)

end Operation

end Contactless
