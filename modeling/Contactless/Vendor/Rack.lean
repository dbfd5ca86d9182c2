import Contactless.Vendor.Codec

/-!
A rack of codecs: each numbered slot holds at most one codec, and each codec owns one wallet.

A new codec is put into its slot before the former one gives its wallet back; a slot whose new
codec could not be made keeps the former one.
-/

set_option autoImplicit false

namespace Contactless.Vendor

/-- Codecs by slot, each known by the number of its wallet. -/
structure Rack where
  slots : List (Nat × Nat) := []
  issued : Nat := 0
  history : List Event := []
  deriving DecidableEq, Repr

inductive SlotRequest where
  | create
  | discard
  | perform (request : CodecRequest)
  deriving DecidableEq, Repr

inductive RackFault where
  | noCodec
  | vendor (fault : Fault)
  deriving DecidableEq, Repr

namespace Rack

def wallet? (rack : Rack) (slot : Nat) : Option Nat := rack.slots.lookup slot

def record (rack : Rack) (events : List Event) : Rack :=
  { rack with history := rack.history ++ events }

def vacate (rack : Rack) (slot : Nat) : Rack :=
  { rack with slots := rack.slots.filter (·.1 ≠ slot) }

def install (rack : Rack) (slot : Nat) : Rack :=
  { rack with
    slots := (slot, rack.issued) :: (rack.vacate slot).slots
    issued := rack.issued + 1 }

/-- The calls that give a wallet back, if there is one to give. -/
def release (wallet : Option Nat) : List Event := wallet.toList.map .walletReleased

def serve (rack : Rack) (kit : Kit) (slot : Nat) :
    SlotRequest → Except RackFault CodecValue × Rack
  | .create =>
    if kit.grantsWallet then
      (.ok .accepted, (rack.install slot).record
        (.walletGranted rack.issued :: release (rack.wallet? slot)))
    else (.error (.vendor (.nothing walletCall)), rack.record [.walletRefused])
  | .discard =>
    match rack.wallet? slot with
    | none => (.error .noCodec, rack)
    | some wallet => (.ok .accepted, (rack.vacate slot).record (release (some wallet)))
  | .perform request =>
    match rack.wallet? slot with
    | none => (.error .noCodec, rack)
    | some _ =>
      let attempt := kit.perform request
      (attempt.result.mapError .vendor, rack.record attempt.events)

/-- The rack after any number of requests, each with the kit's replies at that moment. -/
def run (rack : Rack) (requests : List (Kit × Nat × SlotRequest)) : Rack :=
  requests.foldl (fun rack request => (rack.serve request.1 request.2.1 request.2.2).2) rack

def ledger (rack : Rack) : Ledger := .ofEvents rack.history

end Rack

end Contactless.Vendor
