import Contactless.Desk.Operation
import Contactless.Session.Step

/-!
A desk in front of a session: it takes plain requests, and through its operator it carries out
operations on the wallet card.

An operator owns one wallet of the vendor's kit and serves one visit at a time. An operator that
is replaced or dismissed during a visit stays until the visit is over, and then gives its wallet
back.
-/

set_option autoImplicit false

namespace Contactless

structure Visit where
  number : Nat
  call : CallId
  /-- The wallet of the operator in charge and the operation, unless it is a plain request. -/
  work : Option (Nat × Operation)
  deriving DecidableEq

inductive DeskError where
  | noOperator
  | operatorBusy
  | session (error : SessionError)
  deriving DecidableEq, Repr

inductive DeskEvent where
  | session (event : SessionEvent)
  | vendor (event : Vendor.Event)
  | closed (visit : Nat) (outcome : Except DeskError DeskValue)
  | abandoned (visit : Nat)
  | appointed (outcome : Except Vendor.Fault Unit)
  deriving DecidableEq

inductive DeskAction where
  | ask (request : Request) (around : Surroundings)
  | operate (operation : Operation) (around : Surroundings)
  | wake (call : CallId) (signal : Signal) (around : Surroundings)
  | drop (call : CallId)
  | notice (bridge : BridgeId) (notice : TagNotice)
  | alert (text : String)
  | appoint
  | dismiss
  deriving DecidableEq

/-- A desk with its session. -/
structure Desk where
  session : Session := {}
  /-- The wallet of the present operator. -/
  operator : Option Nat := none
  wallets : Nat := 0
  visits : List Visit := []
  issued : Nat := 0
  history : List DeskEvent := []
  deriving DecidableEq

namespace Desk

def emit (desk : Desk) (event : DeskEvent) : Desk :=
  { desk with history := desk.history ++ [event] }

def record (desk : Desk) (events : List Vendor.Event) : Desk :=
  { desk with history := desk.history ++ events.map .vendor }

def isBusy (desk : Desk) (wallet : Nat) : Bool :=
  desk.visits.any fun visit => visit.work.any (·.1 = wallet)

def needs (desk : Desk) (wallet : Nat) : Bool :=
  desk.operator = some wallet || desk.isBusy wallet

/-- Gives a wallet back unless it is still needed. -/
def settle (desk : Desk) (wallet : Option Nat) : Desk :=
  match wallet with
  | none => desk
  | some wallet =>
    if desk.needs wallet then desk else desk.record [.walletReleased wallet]

def forget (desk : Desk) (visit : Visit) : Desk :=
  { desk with visits := desk.visits.filter (·.number ≠ visit.number) }

/-- A visit leaves, and so does its operator if it was waiting to. -/
def discharge (desk : Desk) (visit : Visit) : Desk :=
  (desk.forget visit).settle (visit.work.map Prod.fst)

/-- Closes a visit whose call has ended; an operation goes on with the answer. -/
def close (desk : Desk) (kit : Vendor.Kit) (visit : Visit) (outcome : Outcome) : Desk :=
  match outcome, visit.work with
  | .ok (.answer bytes), some (_, operation) =>
    let concluded := operation.conclude kit bytes
    ((desk.record concluded.1).emit (.closed visit.number
      (concluded.2.mapError .session))).discharge visit
  | .ok value, _ => (desk.emit (.closed visit.number (.ok (.value value)))).discharge visit
  | .error error, _ =>
    (desk.emit (.closed visit.number (.error (.session error)))).discharge visit

def note (desk : Desk) (kit : Vendor.Kit) (event : SessionEvent) : Desk :=
  let desk := desk.emit (.session event)
  match event with
  | .ended call outcome =>
    match desk.visits.find? (·.call = call) with
    | some visit => desk.close kit visit outcome
    | none => desk
  | _ => desk

def advance (desk : Desk) (kit : Vendor.Kit) (stimulus : Stimulus) : Desk :=
  let next := desk.session.step stimulus
  (next.history.drop desk.session.history.length).foldl (·.note kit ·)
    { desk with session := next }

def enlist (desk : Desk) (work : Option (Nat × Operation)) : Desk :=
  { desk with
    visits := desk.visits ++ [⟨desk.issued, desk.session.issued, work⟩]
    issued := desk.issued + 1 }

def accept (desk : Desk) (kit : Vendor.Kit) (work : Option (Nat × Operation))
    (request : Request) (around : Surroundings) : Desk :=
  (desk.enlist work).advance kit (.call request around)

def refuse (desk : Desk) (error : DeskError) : Desk :=
  let next := { desk with issued := desk.issued + 1 }
  next.emit (.closed desk.issued (.error error))

/-- Carries out an operation. The command is built first; without one the session is left
alone. -/
def operate (desk : Desk) (kit : Vendor.Kit) (operation : Operation) (around : Surroundings) :
    Desk :=
  match desk.operator with
  | none => desk.refuse .noOperator
  | some wallet =>
    if desk.isBusy wallet then desk.refuse .operatorBusy
    else
      let attempt := kit.copy operation.request
      let desk := desk.record attempt.events
      match attempt.result with
      | .error fault => desk.refuse (.session (.vendor fault))
      | .ok command =>
        desk.accept kit (some (wallet, operation)) (.exchange [command]) around

def drop (desk : Desk) (kit : Vendor.Kit) (call : CallId) : Desk :=
  match desk.visits.find? (·.call = call) with
  | none => desk
  | some visit => ((desk.advance kit (.drop call)).emit (.abandoned visit.number)).discharge visit

def employ (desk : Desk) : Desk :=
  { desk with
    operator := some desk.wallets
    wallets := desk.wallets + 1 }

def vacate (desk : Desk) : Desk := { desk with operator := none }

/-- Appoints an operator with a wallet of its own; without a wallet the present one stays. -/
def appoint (desk : Desk) (kit : Vendor.Kit) : Desk :=
  if kit.grantsWallet then
    ((desk.employ.record [.walletGranted desk.wallets]).settle desk.operator).emit
      (.appointed (.ok ()))
  else
    (desk.record [.walletRefused]).emit (.appointed (.error (.nothing Vendor.walletCall)))

def step (desk : Desk) (kit : Vendor.Kit) : DeskAction → Desk
  | .ask request around => desk.accept kit none request around
  | .operate operation around => desk.operate kit operation around
  | .wake call signal around => desk.advance kit (.wake call signal around)
  | .drop call => desk.drop kit call
  | .notice bridge notice => desk.advance kit (.notice bridge notice)
  | .alert text => desk.advance kit (.alert text)
  | .appoint => desk.appoint kit
  | .dismiss => desk.vacate.settle desk.operator

def initial (policy : Policy) : Desk := { session := Session.initial policy }

/-- The desk after any number of actions, each with the kit's replies at that moment. -/
def run (desk : Desk) (actions : List (Vendor.Kit × DeskAction)) : Desk :=
  actions.foldl (fun desk action => desk.step action.1 action.2) desk

def vendorEvents (desk : Desk) : List Vendor.Event :=
  desk.history.filterMap fun
    | .vendor event => some event
    | _ => none

def ledger (desk : Desk) : Vendor.Ledger := .ofEvents desk.vendorEvents

end Desk

end Contactless
