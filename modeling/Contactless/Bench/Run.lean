import Contactless.Bench.Basic

set_option autoImplicit false

namespace Contactless.Bench

/-- A move that is made at once. -/
inductive Move where
  | ask (name : String) (request : Request)
  | operate (name : String) (operation : Operation)
  | cancel (name : String)
  | appoint
  | dismiss
  | fail (call : String)
  | alert (text : String)
  | skew (milliseconds : Int)
  /-- The radio reports over its present bridge, or over the one of a given beginning. -/
  | event (happening : Happening) (beginning : Option Nat)
  | present (numbers : List Nat)
  | auto (on : Bool)
  | available (on : Bool)
  | script (begins restarts connects : List Entry)
  deriving DecidableEq

inductive Step where
  | move (move : Move)
  /-- Several moves without a turn for anybody in between. -/
  | batch (moves : List Move)
  | advance (milliseconds : Nat)
  deriving DecidableEq

def visit (bench : Bench) (name : String) (action : DeskAction) : Bench :=
  let call := bench.desk.session.issued
  let bench := { bench with names := bench.names ++ [name] }
  (bench.act (some call) action).runOn call

def visit? (bench : Bench) (name : String) : Option Visit :=
  bench.desk.visits.find? fun visit => bench.names[visit.number]? = some name

def cancel (bench : Bench) (name : String) : Bench :=
  match bench.visit? name with
  | none => bench
  | some visit =>
    let bench := (bench.act none (.drop visit.call)).letGo visit.call
    { bench with timers := disarm bench.timers visit.call }.conclude name .cancelled

/-- The bridge of a beginning, or the present one. -/
def bridgeFor (bench : Bench) (beginning : Option Nat) : Option BridgeId :=
  match beginning with
  | some number => bench.radio.begun[number]?
  | none => bench.radio.current

def perform (bench : Bench) : Move → Bench
  | .ask name request => bench.visit name (.ask request bench.around)
  | .operate name operation => bench.visit name (.operate operation bench.around)
  | .cancel name => bench.cancel name
  | .appoint => bench.act none .appoint
  | .dismiss => bench.act none .dismiss
  | .fail call => { bench with simulator := bench.simulator.failAt call }
  | .alert text => bench.act none (.alert text)
  | .skew milliseconds => { bench with skew := milliseconds }
  | .event happening beginning =>
    match bench.bridgeFor beginning with
    | none => bench
    | some bridge => bench.deliver none bridge happening
  | .present numbers => { bench with radio := { bench.radio with present := numbers } }
  | .auto on => { bench with radio := { bench.radio with auto := on } }
  | .available on => { bench with radio := { bench.radio with available := on } }
  | .script begins restarts connects =>
    { bench with radio := { bench.radio with
        begins := bench.radio.begins ++ begins
        restarts := bench.radio.restarts ++ restarts
        connects := bench.radio.connects ++ connects } }

/-- Carries out a step, and gives turns until nobody stands in line. -/
def step (bench : Bench) : Step → Bench
  | .move move => (bench.perform move).settle
  | .batch moves => (moves.foldl perform bench).settle
  | .advance milliseconds => bench.advance milliseconds

def pendingNames (bench : Bench) : List String :=
  (bench.desk.visits.filterMap fun visit => bench.names[visit.number]?).mergeSort
    fun first second => first ≤ second

def report (bench : Bench) : Report where
  log := bench.log
  endings := bench.endings
  pending := bench.pendingNames
  state := if bench.desk.session.lock.holder.isSome then none else some bench.desk.session.view
  closedBridges := bench.radio.begun.map bench.desk.session.isClosed
  ledger := bench.desk.ledger

def clear (bench : Bench) : Bench := { bench with log := [], endings := [] }

def run (bench : Bench) (steps : List Step) : Bench :=
  steps.foldl (fun bench step => bench.clear.step step) bench

def reports (bench : Bench) : List Step → List Report
  | [] => []
  | step :: rest =>
    let next := bench.clear.step step
    next.report :: reports next rest

def ofCards (policy : Policy) (simulator : Vendor.Simulator) (cards : List Card) : Bench where
  desk := Desk.initial policy
  radio := { present := List.range cards.length }
  cards := cards
  simulator := simulator

end Contactless.Bench
