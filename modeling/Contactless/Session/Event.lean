import Contactless.Session.Bridge
import Contactless.Session.Phase
import Contactless.Session.Policy

/-!
What callers ask of a session, what they get, and the events that tell what happened in between.

Calls and bridges are known by numbers, given in the order in which they come up. The lock is
fair: whoever asks first holds it first, and giving it up hands it to the first in line.
-/

set_option autoImplicit false

namespace Contactless

instance decidableEqExcept {ε α : Type} [DecidableEq ε] [DecidableEq α] :
    DecidableEq (Except ε α)
  | .ok a, .ok b => decidable_of_iff (a = b) (by simp)
  | .error e, .error f => decidable_of_iff (e = f) (by simp)
  | .ok _, .error _ => isFalse (by simp)
  | .error _, .ok _ => isFalse (by simp)

abbrev CallId := Nat

/-- Who holds the lock, and who waits for it in the order of asking. -/
structure Lock where
  holder : Option CallId := none
  waiting : List CallId := []
  deriving DecidableEq, Repr

namespace Lock

def line (lock : Lock) : List CallId := lock.holder.toList ++ lock.waiting

/-- A caller takes the lock if it is free and gets in line otherwise. -/
def request (lock : Lock) (call : CallId) : Lock :=
  match lock.holder with
  | none => { lock with holder := some call }
  | some _ => { lock with waiting := lock.waiting ++ [call] }

/-- The holder gives the lock up; the first in line holds it from then on. -/
def release (lock : Lock) : Lock := ⟨lock.waiting.head?, lock.waiting.tail⟩

def leave (lock : Lock) (call : CallId) : Lock :=
  { lock with waiting := lock.waiting.erase call }

@[simp] theorem holder_leave (lock : Lock) (call : CallId) :
    (lock.leave call).holder = lock.holder := rfl

theorem request_of_free {lock : Lock} (free : lock.holder = none) (call : CallId) :
    lock.request call = { lock with holder := some call } := by
  simp [request, free]

theorem request_of_held {lock : Lock} {holder : CallId} (held : lock.holder = some holder)
    (call : CallId) : lock.request call = { lock with waiting := lock.waiting ++ [call] } := by
  simp [request, held]

end Lock

abbrev BridgeId := Nat

/-- A report of the radio to a session; a batch is the tags detected at once, in their order. -/
abbrev TagNotice := Notice (List Tag)

abbrev TagBridge := Bridge (List Tag)

structure Chain where
  first : Bytes
  rest : List Bytes
  deriving DecidableEq, Repr

namespace Chain

def toList (chain : Chain) : List Bytes := chain.first :: chain.rest

def ofList? : List Bytes → Option Chain
  | [] => none
  | first :: rest => some ⟨first, rest⟩

theorem toList_of_ofList? {commands : List Bytes} {chain : Chain}
    (found : ofList? commands = some chain) : chain.toList = commands := by
  cases commands with
  | nil => simp [ofList?] at found
  | cons first rest =>
      simp only [ofList?, Option.some.injEq] at found
      subst found
      rfl

end Chain

inductive Request where
  | start (purpose : Purpose)
  | finish (cause : Option SessionError)
  | exchange (commands : List Bytes)
  | look
  deriving DecidableEq, Repr

def Request.send (command : Bytes) : Request := .exchange [command]

/-- The part of a request that is done while the lock is held. -/
inductive Job where
  | start (purpose : Purpose)
  | finish (farewell : Option String)
  | exchange (chain : Chain)
  | look
  deriving DecidableEq, Repr

/-- What a detection is for, with the commands that follow it. -/
inductive Goal where
  | start
  | restart (chain : Chain)
  | renew (chain : Chain)
  deriving DecidableEq, Repr

def Goal.toSend : Goal → Nat
  | .start => 0
  | .restart chain | .renew chain => chain.toList.length

/-- The tag in use, with the clock readings that decide about its upkeep. -/
structure Connection where
  tag : Tag
  /-- The reading after the radio session's first detection. -/
  startedAt : Int
  /-- The reading after the last detection. -/
  renewedAt : Int
  deriving DecidableEq, Repr

/-- The connection after another detection within the same radio session. -/
def Connection.renewed (connection : Connection) (tag : Tag) (now : Int) : Connection :=
  { connection with tag := tag, renewedAt := now }

structure Snapshot where
  phase : Phase
  purpose : Option Purpose
  startedAt : Option Int
  renewedAt : Option Int
  connected : Bool
  deriving DecidableEq, Repr

inductive Value where
  | done
  | answer (bytes : Bytes)
  | snapshot (view : Snapshot)
  deriving DecidableEq, Repr

abbrev Outcome := Except SessionError Value

inductive SessionEvent where
  | called (call : CallId) (request : Request)
  | requested (call : CallId)
  | granted (call : CallId)
  | ended (call : CallId) (outcome : Outcome)
  | dropped (call : CallId)
  | opened (bridge : BridgeId)
  | closed (bridge : BridgeId)
  /-- A report that the bridge accepted. -/
  | noticed (bridge : BridgeId) (notice : TagNotice)
  | drained (call : CallId) (bridge : BridgeId)
  | taken (call : CallId) (bridge : BridgeId) (batch : List Tag)
  | begun (call : CallId) (bridge : BridgeId) (prompt : String)
  | beginEnded (call : CallId) (bridge : BridgeId) (refusal : Option LinkFault)
  | repolled (call : CallId) (bridge : BridgeId)
  | connecting (call : CallId) (bridge : BridgeId) (tag : Tag)
  | connectEnded (call : CallId) (tag : Tag) (refusal : Option LinkFault)
  | acknowledged (call : CallId)
  | attached (call : CallId) (goal : Goal) (bridge : BridgeId) (tag : Tag) (now : Int)
  | dismissed (farewell : Option String)
  | alerted (text : String)
  | paused (call : CallId) (length : Duration)
  | sent (call : CallId) (tag : Tag) (command : Bytes)
  | answered (call : CallId) (tag : Tag) (answer : Except LinkFault Bytes)
  deriving DecidableEq

end Contactless
