set_option autoImplicit false

namespace Contactless

inductive TagFamily where
  | iso7816
  | iso15693
  | felica
  | mifare
  deriving DecidableEq, Repr

def TagFamily.text : TagFamily → String
  | .iso7816 => "ISO 7816"
  | .iso15693 => "ISO 15693"
  | .felica => "FeliCa"
  | .mifare => "MIFARE"

/-- A detected tag. Tags that look alike are told apart by their number. -/
structure Tag where
  number : Nat
  family : TagFamily
  /-- The application that the platform selected on detection, in hexadecimal. -/
  aid : Option String
  deriving DecidableEq, Repr

/-- The application that wallet cards advertise. -/
def walletAid : String := "415243554C55530157000"

/-- Whether a tag is a wallet card: it speaks ISO 7816 and advertises the expected application,
letter by letter. -/
def Tag.isWallet (tag : Tag) (aid : String) : Bool :=
  tag.family = .iso7816 && tag.aid = some aid

def firstWallet? (aid : String) (tags : List Tag) : Option Tag :=
  tags.find? (·.isWallet aid)

theorem Tag.isWallet_iff {tag : Tag} {aid : String} :
    tag.isWallet aid = true ↔ tag.family = .iso7816 ∧ tag.aid = some aid := by
  simp [isWallet]

/-- A length of time in nanoseconds. -/
abbrev Duration := Nat

namespace Duration

def ofParts (seconds nanoseconds : Nat) : Duration := seconds * 1000000000 + nanoseconds

def ofSeconds (seconds : Nat) : Duration := ofParts seconds 0

def ofMillis (milliseconds : Nat) : Duration := milliseconds * 1000000

def toParts (duration : Duration) : Nat × Nat :=
  (duration / 1000000000, duration % 1000000000)

def toMillis (duration : Duration) : Nat := duration / 1000000

end Duration

/-- What has to be done with a connection before the next exchange. -/
inductive Upkeep where
  | keep
  | renew
  | restart
  deriving DecidableEq, Repr

structure Policy where
  /-- Age of the last detection from which the tag is detected anew. -/
  renewAfter : Duration := Duration.ofSeconds 10
  /-- Age of the radio session from which it is restarted. -/
  restartAfter : Duration := Duration.ofSeconds 40
  cooldown : Duration := Duration.ofSeconds 5
  aid : String := walletAid
  deriving DecidableEq, Repr

/-- What a connection needs, by the age of its radio session and the time since the last
detection. Both bounds are inclusive, and a restart goes before a renewal. -/
def Policy.upkeep (policy : Policy) (age sinceDetection : Duration) : Upkeep :=
  if policy.restartAfter ≤ age then .restart
  else if policy.renewAfter ≤ sinceDetection then .renew
  else .keep

/-- The time from one clock reading to a later one; zero if the clock went backwards. -/
def elapsed (earlier later : Int) : Duration := (later - earlier).toNat

end Contactless
