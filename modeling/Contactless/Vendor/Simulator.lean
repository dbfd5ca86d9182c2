import Contactless.Apdu.Command
import Contactless.Apdu.Response
import Contactless.Vendor.Kit

/-!
A kit simulated in memory. It frames plain commands, accepts an answer by its status word alone,
and can be told to fail at a call from now on. A script of replies comes before all of that: as
long as it has a reply for a call, that reply is used.
-/

set_option autoImplicit false

namespace Contactless.Vendor

/-- The state of a simulated kit. Scripted replies are kept by call, the next one first. -/
structure Simulator where
  failing : List String := []
  wallets : List Bool := []
  buffers : List (String × Option Bytes) := []
  codes : List (String × Int) := []
  deriving DecidableEq, Repr

namespace Simulator

def selectFrame? (aid : Bytes) : Option Bytes :=
  ({ cla := 0x00, ins := 0xA4, p1 := 0x04, p2 := 0x00, data := some aid } : Command).encode.toOption

def firmwareFrame : Bytes := [0x80, 0xF1, 0x00, 0x00, 0x00]

def handshakeFrame : Bytes := [0x80, 0x50, 0x00, 0x00, 0x00]

/-- The code for an answer that does not report success. -/
def refusal : Int := 3

def accepted? (answer : Bytes) : Option Bytes :=
  match Response.decode answer with
  | .ok response => response.intoPayload.toOption
  | .error _ => none

/-- What the simulator builds for a call when nothing stands against it. A version field is its
payload behind the payload's length modulo 256. -/
def build? : BufferCall → Option Bytes
  | .selectRequest aid => selectFrame? aid
  | .firmwareRequest => some firmwareFrame
  | .firmwareResponse answer =>
    (accepted? answer).map fun payload => payload.length.toUInt8 :: payload
  | .handshakeRequest => some handshakeFrame

def verdict (call : CodeCall) : Int := if (accepted? call.argument).isSome then 0 else refusal

def fails (simulator : Simulator) (call : String) : Bool := simulator.failing.contains call

def failAt (simulator : Simulator) (call : String) : Simulator :=
  { simulator with failing := call :: simulator.failing }

/-- The replies at this moment: the script first, then the failing calls, then the rules. -/
def kit (simulator : Simulator) : Kit where
  grantsWallet := simulator.wallets.head?.getD true && !simulator.fails walletCall
  buffer call :=
    match simulator.buffers.lookup call.name with
    | some reply => reply
    | none => if simulator.fails call.name then none else build? call
  code call := (simulator.codes.lookup call.name).getD (verdict call)

def strike {α : Type} (name : String) (script : List (String × α)) : List (String × α) :=
  script.eraseP (·.1 = name)

/-- The simulator after a call: a scripted reply is used once. -/
def observe (simulator : Simulator) : Event → Simulator
  | .walletGranted _ | .walletRefused => { simulator with wallets := simulator.wallets.tail }
  | .handedOut call _ => { simulator with buffers := strike call.name simulator.buffers }
  | .judged call _ => { simulator with codes := strike call.name simulator.codes }
  | .walletReleased _ | .bufferReleased _ => simulator

def observeAll (simulator : Simulator) (events : List Event) : Simulator :=
  events.foldl observe simulator

end Simulator

end Contactless.Vendor
