import Contactless.Session.Bridge
import Contactless.Vendor.Rack
import Contactless.Vendor.Simulator

set_option autoImplicit false

namespace Contactless.Bench

/-- What a drill does with a bridge: the radio's side reports, the session's side does the rest. -/
inductive BridgeMove (α : Type) where
  | report (notice : Notice α)
  | poll
  | takeInterruption
  | drain
  | close
  | abandon
  deriving DecidableEq, Repr

inductive BridgeOutcome (α : Type) where
  | nothing
  | polled (polled : Polled α)
  | interruption (reason : Option Interruption)
  /-- The taking side has been abandoned before. -/
  | abandoned
  deriving DecidableEq, Repr

structure BridgeReport (α : Type) where
  outcome : BridgeOutcome α
  closed : Bool
  /-- The same seen from the taking side, unless it is abandoned. -/
  closedInside : Option Bool
  deriving DecidableEq, Repr

/-- A bridge, and whether its taking side is still there. -/
structure BridgeDrill (α : Type) where
  bridge : Bridge α := {}
  attended : Bool := true
  deriving DecidableEq, Repr

namespace BridgeDrill

variable {α : Type}

def take (drill : BridgeDrill α) : BridgeMove α → BridgeOutcome α × BridgeDrill α
  | .poll => (.polled drill.bridge.poll.1, { drill with bridge := drill.bridge.poll.2 })
  | .takeInterruption =>
    (.interruption drill.bridge.takeInterruption.1,
      { drill with bridge := drill.bridge.takeInterruption.2 })
  | .drain => (.nothing, { drill with bridge := drill.bridge.drainStale })
  | .close => (.nothing, { drill with bridge := drill.bridge.close })
  | .abandon => (.nothing, { drill with attended := false })
  | .report _ => (.nothing, drill)

def step (drill : BridgeDrill α) : BridgeMove α → BridgeOutcome α × BridgeDrill α
  | .report notice => (.nothing, { drill with bridge := drill.bridge.receive notice })
  | move => if drill.attended then drill.take move else (.abandoned, drill)

def report (drill : BridgeDrill α) (outcome : BridgeOutcome α) : BridgeReport α where
  outcome := outcome
  closed := drill.bridge.closed
  closedInside := if drill.attended then some drill.bridge.closed else none

def reports (drill : BridgeDrill α) : List (BridgeMove α) → List (BridgeReport α)
  | [] => []
  | move :: rest =>
    (drill.step move).2.report (drill.step move).1 :: reports (drill.step move).2 rest

end BridgeDrill

inductive RackMove where
  | request (slot : Nat) (request : Vendor.SlotRequest)
  | fail (call : String)
  deriving DecidableEq, Repr

/-- What one move came to: its result, the kit's events in it and the ledger after it. -/
structure RackReport where
  result : Except Vendor.RackFault Vendor.CodecValue
  log : List Vendor.Event
  ledger : Vendor.Ledger

/-- A rack of codecs over a simulated kit, asked one request after another. -/
structure RackDrill where
  rack : Vendor.Rack := {}
  simulator : Vendor.Simulator := {}
  deriving DecidableEq, Repr

namespace RackDrill

def serve (drill : RackDrill) (slot : Nat) (request : Vendor.SlotRequest) :
    RackReport × RackDrill :=
  let answered := drill.rack.serve drill.simulator.kit slot request
  let log := answered.2.history.drop drill.rack.history.length
  (⟨answered.1, log, answered.2.ledger⟩, ⟨answered.2, drill.simulator.observeAll log⟩)

def step (drill : RackDrill) : RackMove → RackReport × RackDrill
  | .request slot request => drill.serve slot request
  | .fail call =>
    (⟨.ok .accepted, [], drill.rack.ledger⟩,
      { drill with simulator := drill.simulator.failAt call })

def reports (drill : RackDrill) : List RackMove → List RackReport
  | [] => []
  | move :: rest => (drill.step move).1 :: reports (drill.step move).2 rest

end RackDrill

end Contactless.Bench
