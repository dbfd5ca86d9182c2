import Contactless.Vendor.Kit

set_option autoImplicit false

namespace Contactless

inductive Interruption where
  | byUser
  | timeout
  | radioBusy
  | other (text : String)
  deriving DecidableEq, Repr

def Interruption.message : Interruption → String
  | .byUser => "user cancelled"
  | .timeout => "session timed out"
  | .radioBusy => "radio busy"
  | .other text => text

inductive LinkFault where
  | lost
  | notStarted (text : String)
  | notConnected (text : String)
  | notSent (text : String)
  deriving DecidableEq, Repr

def LinkFault.message : LinkFault → String
  | .lost => "Tag connection lost"
  | .notStarted text => "Radio session could not be started: " ++ text
  | .notConnected text => "Failed to connect to tag: " ++ text
  | .notSent text => "Transmission failed: " ++ text

inductive SessionError where
  | radioUnavailable
  | alreadyActive
  | notConnected
  | interrupted (reason : Interruption)
  | link (fault : LinkFault)
  | unknownTag
  | cancelled
  | response (fault : ResponseFault)
  | emptyChain
  | card (fault : CardFault)
  | vendor (fault : Vendor.Fault)
  deriving DecidableEq, Repr

namespace SessionError

def message : SessionError → String
  | .radioUnavailable => "NFC radio is not available"
  | .alreadyActive => "A card session is already active"
  | .notConnected => "No card is connected"
  | .interrupted reason => "Radio session invalidated: " ++ reason.message
  | .link fault => fault.message
  | .unknownTag => "Unknown Card"
  | .cancelled => "Card session cancelled"
  | .response fault => fault.message
  | .emptyChain => "Command chain is empty"
  | .card fault => fault.message
  | .vendor fault => fault.message

/-- Whether the failure shows a wrong sequence of calls. -/
def isDefect : SessionError → Bool
  | .vendor fault => fault.isDefect
  | _ => false

/-- Whether the session was called off rather than failed: nobody needs to be told why. -/
def isCancellation : SessionError → Bool
  | .cancelled | .interrupted .byUser | .interrupted .timeout => true
  | _ => false

def cardFault? : SessionError → Option CardFault
  | .card fault => some fault
  | .link .lost => some .linkLost
  | _ => none

/-- The text that the radio shows when a session ends by this failure. -/
def farewell (error : SessionError) : Option String :=
  if error.isCancellation then none else some error.message

/-- Whether the session survives the failure. Only a verdict of the card leaves it intact. -/
def keepsConnection : SessionError → Bool
  | .card _ => true
  | _ => false

theorem isCancellation_iff {error : SessionError} :
    error.isCancellation = true ↔
      error = .cancelled ∨ error = .interrupted .byUser ∨ error = .interrupted .timeout := by
  cases error with
  | interrupted reason => cases reason <;> simp [isCancellation]
  | _ => simp [isCancellation]

/-- The user's own wish and the platform's limit are not shown as failures. -/
theorem farewell_eq (error : SessionError) :
    error.farewell =
      if error = .cancelled ∨ error = .interrupted .byUser ∨ error = .interrupted .timeout then none
      else some error.message := by
  simp only [farewell, isCancellation_iff]

end SessionError

end Contactless
