import Contactless.Desk.Step

set_option autoImplicit false

namespace Contactless.Bench

inductive Line where
  | begun (prompt : String)
  | repolled
  | connect (tag : Nat)
  | acknowledged
  | alerted (text : String)
  | dismissed (farewell : Option String)
  | slept (milliseconds : Nat)
  | sent (tag : Nat) (command : Bytes)
  | answered (tag : Nat) (answer : Except LinkFault Bytes)
  | vendor (event : Vendor.Event)
  deriving DecidableEq

/-- The line for an event; most events of a session leave none. -/
def Line.ofEvent? : DeskEvent → Option Line
  | .session (.begun _ _ prompt) => some (.begun prompt)
  | .session (.repolled ..) => some .repolled
  | .session (.connecting _ _ tag) => some (.connect tag.number)
  | .session (.acknowledged _) => some .acknowledged
  | .session (.alerted text) => some (.alerted text)
  | .session (.dismissed farewell) => some (.dismissed farewell)
  | .session (.paused _ length) => some (.slept length.toMillis)
  | .session (.sent _ tag command) => some (.sent tag.number command)
  | .session (.answered _ tag answer) => some (.answered tag.number answer)
  | .vendor event => some (.vendor event)
  | _ => none

/-- How a visit ended. -/
inductive Ending where
  | closed (outcome : Except DeskError DeskValue)
  | cancelled
  | appointed (aid : String)
  deriving DecidableEq

structure Report where
  log : List Line
  endings : List (String × Ending)
  pending : List String
  /-- The state of the session, unless a pending call holds the lock. -/
  state : Option Snapshot
  /-- For each bridge that the radio was given, whether it is closed. -/
  closedBridges : List Bool
  ledger : Vendor.Ledger
  deriving DecidableEq

end Contactless.Bench
