import Contactless.Apdu.Response

/-!
The vendor's kit: it frames every command and interprets every answer.

A kit allocates wallets, hands out buffers and returns codes. Buffers and wallets belong to the
kit until they are given back, so each call leaves an event, and a ledger over the events tells
what is still out.
-/

set_option autoImplicit false

namespace Contactless.Vendor

inductive Fault where
  /-- The call gave nothing where it owes a buffer or a wallet. -/
  | nothing (call : String)
  | rejected (call : String) (code : Int)
  /-- The call gave a buffer without the expected layout. -/
  | malformed (call : String) (cause : ResponseFault)
  deriving DecidableEq, Repr

def Fault.message : Fault → String
  | .nothing call => "Vendor SDK returned a null buffer from " ++ call
  | .rejected call code => s!"Vendor SDK rejected {call} response with code {code}"
  | .malformed call cause => "Malformed " ++ call ++ " buffer: " ++ cause.message

/-- Whether the failure shows a wrong sequence of calls. The kit gives nothing only then, so such
a failure is never worth a retry. -/
def Fault.isDefect : Fault → Bool
  | .nothing _ => true
  | .rejected .. | .malformed .. => false

/-- A call that hands out a buffer, or nothing. -/
inductive BufferCall where
  | selectRequest (aid : Bytes)
  | firmwareRequest
  | firmwareResponse (answer : Bytes)
  | handshakeRequest
  deriving DecidableEq, Repr

/-- A call that judges an answer of the card by a code, zero for success. -/
inductive CodeCall where
  | selectResponse (answer : Bytes)
  | handshakeResponse (answer : Bytes)
  deriving DecidableEq, Repr

def BufferCall.name : BufferCall → String
  | .selectRequest _ => "select_wallet_request"
  | .firmwareRequest => "get_firmware_version_request"
  | .firmwareResponse _ => "get_firmware_version_response"
  | .handshakeRequest => "init_encrypted_session_request"

def BufferCall.argument? : BufferCall → Option Bytes
  | .selectRequest aid => some aid
  | .firmwareResponse answer => some answer
  | .firmwareRequest | .handshakeRequest => none

def CodeCall.name : CodeCall → String
  | .selectResponse _ => "select_wallet_response"
  | .handshakeResponse _ => "init_encrypted_session_response"

def CodeCall.argument : CodeCall → Bytes
  | .selectResponse answer | .handshakeResponse answer => answer

def walletCall : String := "wallet_init"

/-- The replies of a kit at one moment. Any replies are allowed. -/
structure Kit where
  grantsWallet : Bool
  buffer : BufferCall → Option Bytes
  code : CodeCall → Int

/-- One call of the kit together with its reply. Wallets are told apart by numbers. -/
inductive Event where
  | walletGranted (wallet : Nat)
  | walletRefused
  | walletReleased (wallet : Nat)
  | handedOut (call : BufferCall) (buffer : Option Bytes)
  | judged (call : CodeCall) (code : Int)
  | bufferReleased (length : Nat)
  deriving DecidableEq, Repr

structure Ledger where
  wallets : Int := 0
  buffers : Int := 0
  deriving DecidableEq, Repr

namespace Ledger

def record (ledger : Ledger) : Event → Ledger
  | .walletGranted _ => { ledger with wallets := ledger.wallets + 1 }
  | .walletReleased _ => { ledger with wallets := ledger.wallets - 1 }
  | .handedOut _ (some _) => { ledger with buffers := ledger.buffers + 1 }
  | .bufferReleased _ => { ledger with buffers := ledger.buffers - 1 }
  | .walletRefused | .handedOut _ none | .judged .. => ledger

def ofEvents (events : List Event) : Ledger := events.foldl record {}

end Ledger

end Contactless.Vendor
