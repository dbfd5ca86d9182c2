import Contactless.Session.Event

/-!
A scripted radio. It plays one entry of a script for each request; without an entry, and unless
told otherwise, it becomes active and detects the tags that lie in front of it.
-/

set_option autoImplicit false

namespace Contactless.Bench

/-- Something that the radio reports. Tags are named by their numbers. -/
inductive Happening where
  | active
  | batch
  | finish
  | tags (numbers : List Nat)
  | interrupted (reason : Interruption)
  deriving DecidableEq, Repr

/-- One entry of a script: after a delay some reports, then a failure or success. -/
structure Entry where
  happenings : List Happening := []
  refusal : Option LinkFault := none
  delay : Nat := 0
  deriving DecidableEq, Repr

structure Radio where
  available : Bool := true
  /-- Whether the radio reports by itself when a script has run out. -/
  auto : Bool := true
  present : List Nat := []
  current : Option BridgeId := none
  begun : List BridgeId := []
  begins : List Entry := []
  restarts : List Entry := []
  connects : List Entry := []
  deriving DecidableEq, Repr

namespace Radio

/-- A report as the session gets it; numbers without a tag are left out. -/
def notice (radio : Radio) (tags : List Tag) : Happening → TagNotice
  | .active => .active
  | .batch => .detected (radio.present.filterMap (tags[·]?))
  | .finish => .finished
  | .tags numbers => .detected (numbers.filterMap (tags[·]?))
  | .interrupted reason => .interrupted reason

def nextEntry (radio : Radio) (script : List Entry) : Entry :=
  match script with
  | entry :: _ => entry
  | [] => if radio.auto then { happenings := [.active, .batch] } else {}

def onBegin (radio : Radio) (tags : List Tag) : List TagNotice :=
  (radio.nextEntry radio.begins).happenings.map (radio.notice tags)

def refusal (radio : Radio) : Option LinkFault := (radio.nextEntry radio.begins).refusal

/-- What the radio reports if it is asked to poll anew. Without a bridge the reports are lost. -/
def onRepoll (radio : Radio) (tags : List Tag) : List TagNotice :=
  if radio.current.isSome then
    (radio.nextEntry radio.restarts).happenings.map (radio.notice tags)
  else []

def observe (radio : Radio) : SessionEvent → Radio
  | .begun _ bridge _ =>
    { radio with
      current := some bridge
      begun := radio.begun ++ [bridge]
      begins := radio.begins.tail }
  | .repolled _ _ => { radio with restarts := radio.restarts.tail }
  | .dismissed _ => { radio with current := none }
  | _ => radio

end Radio

structure Card where
  tag : Tag
  delay : Nat := 0
  answers : List (Except LinkFault Bytes) := []
  deriving DecidableEq

def plainAnswer : Bytes := StatusWord.success.toBytes

def Card.answer (card : Card) : Except LinkFault Bytes := card.answers.head?.getD (.ok plainAnswer)

def Card.advance (card : Card) : Card := { card with answers := card.answers.tail }

end Contactless.Bench
