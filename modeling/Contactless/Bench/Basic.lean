import Contactless.Bench.Log
import Contactless.Bench.Radio
import Contactless.Vendor.Simulator

/-!
A bench: a desk with a scripted radio, cards, a simulated kit and virtual time.

Calls take turns. A call runs until it waits; woken calls stand in one line and get their turns in
the order of waking. Sleeping for no time at all is no waiting.
-/

set_option autoImplicit false

namespace Contactless

namespace Bench

def lastMoment : Nat := UInt64.size - 1

def later (now milliseconds : Nat) : Nat := min (now + milliseconds) lastMoment

structure Timer where
  deadline : Nat
  call : CallId
  deriving DecidableEq, Repr

/-- The timer that fires first: the earliest deadline, and of equal ones the first in the list. -/
def earliest? : List Timer → Option Timer
  | [] => none
  | timer :: rest =>
    match earliest? rest with
    | some other => if other.deadline < timer.deadline then some other else some timer
    | none => some timer

def disarm (timers : List Timer) (call : CallId) : List Timer :=
  timers.filter (·.call ≠ call)

theorem earliest?_mem {timers : List Timer} {timer : Timer}
    (found : earliest? timers = some timer) : timer ∈ timers := by
  induction timers generalizing timer with
  | nil => simp [earliest?] at found
  | cons head rest ih =>
      simp only [earliest?] at found
      split at found
      · rename_i other inner
        split at found
        · obtain rfl := Option.some.inj found
          exact List.mem_cons_of_mem _ (ih inner)
        · obtain rfl := Option.some.inj found
          exact List.mem_cons_self
      · obtain rfl := Option.some.inj found
        exact List.mem_cons_self

end Bench

/-- A desk and everything around it. -/
structure Bench where
  desk : Desk := {}
  radio : Bench.Radio := {}
  cards : List Bench.Card := []
  simulator : Vendor.Simulator := {}
  now : Nat := 0
  /-- How far the session's clock is ahead of virtual time, in milliseconds. -/
  skew : Int := 0
  /-- The woken calls, each once, in the order of waking. -/
  ready : List CallId := []
  timers : List Bench.Timer := []
  /-- The script entries of the calls that are connecting a tag. -/
  inHand : List (CallId × Bench.Entry) := []
  names : List String := []
  endings : List (String × Bench.Ending) := []
  log : List Bench.Line := []

namespace Bench

def tags (bench : Bench) : List Tag := bench.cards.map (·.tag)

def around (bench : Bench) : Surroundings where
  available := bench.radio.available
  now := (bench.now + bench.skew) * Duration.ofMillis 1
  onBegin := bench.radio.onBegin bench.tags
  refusal := bench.radio.refusal
  onRepoll := bench.radio.onRepoll bench.tags

/-- Puts a call at the end of the line, unless it stands there already. -/
def awaken (bench : Bench) (call : CallId) : Bench :=
  if bench.ready.contains call then bench else { bench with ready := bench.ready ++ [call] }

/-- The call that a change of a bridge wakes, unless it is the running one. Nobody waits for tags
without the lock. -/
def watcher? (bench : Bench) (bridge : BridgeId) (running : Option CallId) : Option CallId :=
  match bench.desk.session.lock.holder with
  | none => none
  | some call =>
    match bench.desk.session.stage? call with
    | some (.detecting _ watched) =>
      if watched = bridge ∧ running ≠ some call then some call else none
    | _ => none

def awakened? (bench : Bench) (running : Option CallId) : SessionEvent → Option CallId
  | .granted call => if running = some call then none else some call
  | .noticed bridge _ | .closed bridge => bench.watcher? bridge running
  | _ => none

def conclude (bench : Bench) (name : String) (ending : Ending) : Bench :=
  { bench with endings := bench.endings ++ [(name, ending)] }

def appointment : String := "ops_new"

def write (bench : Bench) (event : DeskEvent) : Bench :=
  { bench with log := bench.log ++ (Line.ofEvent? event).toList }

def note (running : Option CallId) (bench : Bench) (event : DeskEvent) : Bench :=
  let bench := bench.write event
  match event with
  | .session event =>
    let observed := { bench with radio := bench.radio.observe event }
    match bench.awakened? running event with
    | some call => observed.awaken call
    | none => observed
  | .vendor event => { bench with simulator := bench.simulator.observe event }
  | .closed visit outcome => bench.conclude (bench.names[visit]?.getD "") (.closed outcome)
  | .appointed (.ok ()) => bench.conclude appointment (.appointed bench.desk.session.policy.aid)
  | .appointed (.error fault) =>
    bench.conclude appointment (.closed (.error (.session (.vendor fault))))
  | .abandoned _ => bench

def act (bench : Bench) (running : Option CallId) (action : DeskAction) : Bench :=
  let next := bench.desk.step bench.simulator.kit action
  (next.history.drop bench.desk.history.length).foldl (note running) { bench with desk := next }

def deliver (bench : Bench) (running : Option CallId) (bridge : BridgeId)
    (happening : Happening) : Bench :=
  bench.act running (.notice bridge (bench.radio.notice bench.tags happening))

/-- Reports over the bridge that the radio uses at the moment; without one they are lost. -/
def play (bench : Bench) (running : Option CallId) (happenings : List Happening) : Bench :=
  match bench.radio.current with
  | none => bench
  | some bridge => happenings.foldl (·.deliver running bridge ·) bench

/-- The entry that a connecting call was given; without one the tag is connected at once. -/
def entryOf (bench : Bench) (call : CallId) : Entry := (bench.inHand.lookup call).getD {}

def letGo (bench : Bench) (call : CallId) : Bench :=
  { bench with inHand := bench.inHand.filter (·.1 ≠ call) }

def answerOf (bench : Bench) (tag : Tag) : Except LinkFault Bytes :=
  match bench.cards[tag.number]? with
  | some card => card.answer
  | none => .ok plainAnswer

def spendAnswer (bench : Bench) (tag : Tag) : Bench :=
  { bench with cards := bench.cards.modify tag.number Card.advance }

def turn (bench : Bench) (call : CallId) : Bench :=
  match bench.desk.session.stage? call with
  | none => bench
  | some (.queued _) | some (.detecting ..) =>
    bench.act (some call) (.wake call .look bench.around)
  | some (.connecting ..) =>
    let entry := bench.entryOf call
    let bench := (bench.letGo call).play (some call) entry.happenings
    bench.act (some call) (.wake call (.connected entry.refusal) bench.around)
  | some (.resting ..) => bench.act (some call) (.wake call .rested bench.around)
  | some (.transmitting tag _) =>
    let answer := bench.answerOf tag
    let bench := bench.spendAnswer tag
    bench.act (some call) (.wake call (.replied answer) bench.around)

def takeEntry (bench : Bench) (call : CallId) : Bench :=
  match bench.radio.connects with
  | [] => bench
  | entry :: rest =>
    { bench with
      radio := { bench.radio with connects := rest }
      inHand := bench.inHand ++ [(call, entry)] }

/-- How long a call sleeps that has just come to wait; `none` if it does not wait for time. -/
def sleepOf (bench : Bench) (call : CallId) : Option Nat :=
  match bench.desk.session.stage? call with
  | some (.connecting ..) => some (bench.entryOf call).delay
  | some (.resting ..) => some bench.desk.session.policy.cooldown.toMillis
  | some (.transmitting tag _) => some ((bench.cards[tag.number]?.map (·.delay)).getD 0)
  | _ => none

def arm (bench : Bench) (call : CallId) (milliseconds : Nat) : Bench :=
  { bench with timers := bench.timers ++ [⟨later bench.now milliseconds, call⟩] }

def prepare (bench : Bench) (call : CallId) : Bench :=
  match bench.desk.session.stage? call with
  | some (.connecting ..) => bench.takeEntry call
  | _ => bench

/-- Lets a call go on as long as it only sleeps for no time at all. -/
def proceed : Nat → Bench → CallId → Bench
  | fuel, bench, call =>
    let bench := bench.prepare call
    match bench.sleepOf call with
    | none => bench
    | some 0 =>
      match fuel with
      | 0 => bench
      | fuel + 1 => proceed fuel (bench.turn call) call
    | some (milliseconds + 1) => bench.arm call (milliseconds + 1)

def runOn (bench : Bench) (call : CallId) : Bench :=
  proceed (bench.desk.session.turnsLeft call) bench call

def callUp (bench : Bench) (call : CallId) (rest : List CallId) : Bench :=
  { bench with ready := rest, timers := disarm bench.timers call }

def serve (bench : Bench) (call : CallId) (rest : List CallId) : Bench :=
  ((bench.callUp call rest).turn call).runOn call

def settleWith : Nat → Bench → Bench
  | 0, bench => bench
  | fuel + 1, bench =>
    match bench.ready with
    | [] => bench
    | call :: rest => settleWith fuel (bench.serve call rest)

/-- A turn wakes nobody but the call that the lock goes to. -/
def turnsDue (bench : Bench) : Nat :=
  bench.ready.length + bench.desk.session.lock.waiting.length

def settle (bench : Bench) : Bench := settleWith bench.turnsDue bench

def advanceWith : Nat → Bench → Nat → Bench
  | 0, bench, target => { bench with now := target }
  | fuel + 1, bench, target =>
    match earliest? bench.timers with
    | none => { bench with now := target }
    | some timer =>
      if target < timer.deadline then { bench with now := target }
      else advanceWith fuel ({ bench with now := timer.deadline }.awaken timer.call).settle target

def advance (bench : Bench) (milliseconds : Nat) : Bench :=
  let bench := bench.settle
  advanceWith bench.desk.session.turnsOfAll bench (later bench.now milliseconds)

end Bench

end Contactless
