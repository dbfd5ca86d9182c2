set_option autoImplicit false

namespace Contactless

inductive Phase where
  | idle
  | starting
  | connected
  | renewing
  | restarting
  | invalidated
  deriving DecidableEq, Repr

namespace Phase

def all : List Phase := [.idle, .starting, .connected, .renewing, .restarting, .invalidated]

/-- Whether a session holds the radio in this phase. -/
def isLive : Phase → Bool
  | .starting | .connected | .renewing | .restarting => true
  | .idle | .invalidated => false

def text : Phase → String
  | .idle => "Idle"
  | .starting => "Starting"
  | .connected => "Connected"
  | .renewing => "Renewing"
  | .restarting => "Restarting"
  | .invalidated => "Invalidated"

/-- The phase after the session was shut down; a session that never started stays idle. -/
def shut : Phase → Phase
  | .idle => .idle
  | _ => .invalidated

@[simp] theorem isLive_shut (phase : Phase) : phase.shut.isLive = false := by
  cases phase <;> rfl

end Phase

/-- The reason for which a session holds the radio; a card is named by its label. -/
inductive Purpose where
  | identify
  | configureMnemonic
  | verifyPin (card : String)
  | restorePin (card : String)
  | sign (card : String) (subject : String)
  | proveOwnership (card : String)
  | deriveKeys (card : String)
  deriving DecidableEq, Repr

namespace Purpose

/-- What the person is told while the radio is polling. -/
def prompt : Purpose → String
  | .identify => "Hold your card to the back of the phone"
  | .configureMnemonic => "Hold your card to the phone to configure it with your seed phrase"
  | .verifyPin card => "Hold " ++ card ++ " to the phone to verify its PIN"
  | .restorePin card => "Hold " ++ card ++ " to the phone to set a new PIN"
  | .sign card subject => "Hold " ++ card ++ " to the phone to sign " ++ subject
  | .proveOwnership card => "Hold " ++ card ++ " to the phone to prove ownership"
  | .deriveKeys card => "Hold " ++ card ++ " to the phone to derive public keys"

def text : Purpose → String
  | .identify => "identifying card"
  | .configureMnemonic => "configuring card mnemonic"
  | .verifyPin card => "verifying PIN of " ++ card
  | .restorePin card => "restoring PIN of " ++ card
  | .sign card subject => "signing " ++ subject ++ " with " ++ card
  | .proveOwnership card => "proving ownership of " ++ card
  | .deriveKeys card => "deriving public keys from " ++ card

def card? : Purpose → Option String
  | .identify | .configureMnemonic => none
  | .verifyPin card | .restorePin card | .sign card _ | .proveOwnership card
  | .deriveKeys card => some card

end Purpose

end Contactless
