import Contactless.Apdu.StatusWord

set_option autoImplicit false

namespace Contactless

/-- A failure reported by the application on the card. -/
inductive CardFault where
  | invalidParameter (status : StatusWord)
  | wrongCard (status : StatusWord)
  /-- The PIN was wrong; so many attempts remain. -/
  | pinRefused (tries : UInt8)
  | linkLost
  | failed (status : StatusWord)
  deriving DecidableEq, Repr

namespace CardFault

def parameterRefusals : List StatusWord :=
  [⟨0x67, 0x00⟩, ⟨0x6A, 0x80⟩, ⟨0x6A, 0x86⟩, ⟨0x6B, 0x00⟩]

def foreignMarks : List StatusWord :=
  [⟨0x6A, 0x82⟩, ⟨0x6D, 0x00⟩, ⟨0x6E, 0x00⟩, ⟨0x69, 0x99⟩]

def lostLinks : List StatusWord := [⟨0x68, 0x81⟩, ⟨0x68, 0x82⟩]

/-- The failure behind a status word, `none` for success. -/
def ofStatus? (status : StatusWord) : Option CardFault :=
  if status = .success then none
  else if status.sw1 = 0x63 then some (.pinRefused status.sw2)
  else if status.sw1 = 0x6C ∨ status ∈ parameterRefusals then some (.invalidParameter status)
  else if status ∈ foreignMarks then some (.wrongCard status)
  else if status ∈ lostLinks then some .linkLost
  else some (.failed status)

def statusWord? : CardFault → Option StatusWord
  | .invalidParameter status | .wrongCard status | .failed status => some status
  | .pinRefused _ | .linkLost => none

def remainingAttempts? : CardFault → Option UInt8
  | .pinRefused tries => some tries
  | _ => none

def message : CardFault → String
  | .invalidParameter status => "Invalid parameter (" ++ status.text ++ ")"
  | .wrongCard status => "Wrong or unsupported card (" ++ status.text ++ ")"
  | .pinRefused tries => s!"PIN verification failed, {tries.toNat} attempts remaining"
  | .linkLost => "Connection to the card was lost"
  | .failed status => "Card operation failed (" ++ status.text ++ ")"

@[simp] theorem ofStatus?_success : ofStatus? .success = none := rfl

theorem ofStatus?_eq_none_iff {status : StatusWord} :
    ofStatus? status = none ↔ status = .success := by
  unfold ofStatus?
  split
  · simp [*]
  · repeat' split
    all_goals simp [*]

/-- A card that does not report success reports a failure. -/
theorem exists_of_failed {status : StatusWord} (failed : status ≠ .success) :
    ∃ fault, ofStatus? status = some fault :=
  Option.ne_none_iff_exists'.mp (mt ofStatus?_eq_none_iff.mp failed)

end CardFault

end Contactless
