set_option autoImplicit false

namespace Contactless

abbrev Bytes := List UInt8

inductive LetterCase where
  | lower
  | upper
  deriving DecidableEq, Repr

def LetterCase.digit (letters : LetterCase) (value : Nat) : Char :=
  if value < 10 then Char.ofNat (48 + value)
  else match letters with
    | .lower => Char.ofNat (87 + value)
    | .upper => Char.ofNat (55 + value)

def LetterCase.byte (letters : LetterCase) (byte : UInt8) : List Char :=
  [letters.digit (byte.toNat / 16), letters.digit (byte.toNat % 16)]

def LetterCase.bytes (letters : LetterCase) (bytes : Bytes) : String :=
  String.ofList (bytes.flatMap letters.byte)

/-- Bytes in lower-case digits, the form of every log line. -/
def hexLower (bytes : Bytes) : String := LetterCase.lower.bytes bytes

/-- Bytes in upper-case digits, the form of every text shown to a person. -/
def hexUpper (bytes : Bytes) : String := LetterCase.upper.bytes bytes

/-- The verdict of the card on one command. -/
structure StatusWord where
  sw1 : UInt8
  sw2 : UInt8
  deriving DecidableEq, Repr

namespace StatusWord

/-- The status word of a number; the first byte is the high one, higher bits are dropped. -/
def ofNat (number : Nat) : StatusWord := ⟨(number / 256).toUInt8, number.toUInt8⟩

def toNat (status : StatusWord) : Nat := status.sw1.toNat * 256 + status.sw2.toNat

def success : StatusWord := ⟨0x90, 0x00⟩

def isSuccess (status : StatusWord) : Bool := status = success

def toBytes (status : StatusWord) : Bytes := [status.sw1, status.sw2]

def text (status : StatusWord) : String := hexUpper [status.sw1] ++ " " ++ hexUpper [status.sw2]

def meanings : List (StatusWord × String) :=
  [(success, "Success"),
   (⟨0x67, 0x00⟩, "Wrong length"),
   (⟨0x68, 0x81⟩, "Logical channel not supported"),
   (⟨0x68, 0x82⟩, "Secure messaging not supported"),
   (⟨0x69, 0x82⟩, "Security status not satisfied"),
   (⟨0x69, 0x85⟩, "Conditions of use not satisfied"),
   (⟨0x69, 0x99⟩, "Applet selection failed"),
   (⟨0x6A, 0x80⟩, "Incorrect data field"),
   (⟨0x6A, 0x82⟩, "Application not found"),
   (⟨0x6A, 0x86⟩, "Incorrect P1-P2"),
   (⟨0x6B, 0x00⟩, "Wrong P1-P2"),
   (⟨0x6D, 0x00⟩, "Instruction not supported"),
   (⟨0x6E, 0x00⟩, "Class not supported")]

/-- What a status word means. In two classes the second byte is a number of its own. -/
def meaning (status : StatusWord) : String :=
  if status.sw1 = 0x63 then "Verification failed, retries in SW2"
  else if status.sw1 = 0x6C then "Wrong Le, exact length in SW2"
  else (meanings.lookup status).getD "Unrecognised status"

@[simp] theorem toBytes_length (status : StatusWord) : status.toBytes.length = 2 := rfl

end StatusWord

end Contactless
