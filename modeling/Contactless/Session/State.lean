import Contactless.Session.Event

/-!
The state of a session and the small changes that it is made of.

A session keeps the bridge that it reads from (`held`) apart from the bridge that feeds the radio
(`slot`): the second can be closed by a caller who does not hold the lock.
-/

set_option autoImplicit false

namespace Contactless

/-- Where a pending call waits. All stages but the first hold the lock. -/
inductive Stage where
  /-- In line for the lock, or just handed it. -/
  | queued (job : Job)
  | detecting (goal : Goal) (bridge : BridgeId)
  | connecting (goal : Goal) (bridge : BridgeId) (tag : Tag)
  /-- Waiting between two radio sessions; the next bridge is open already. -/
  | resting (bridge : BridgeId) (chain : Chain)
  | transmitting (tag : Tag) (rest : List Bytes)
  deriving DecidableEq, Repr

/-- How many more turns a call can take without asking for the lock or for tags again. -/
def Stage.turnsLeft : Stage → Nat
  | .queued (.start _) => 1
  | .queued (.exchange chain) => chain.toList.length + 2
  | .queued _ => 0
  | .detecting goal _ | .connecting goal _ _ => 1 + goal.toSend
  | .resting _ chain => chain.toList.length + 2
  | .transmitting _ rest => rest.length + 1

structure Session where
  policy : Policy := {}
  phase : Phase := .idle
  purpose : Option Purpose := none
  connection : Option Connection := none
  /-- The bridge that the session reads from. -/
  held : Option BridgeId := none
  /-- The bridge that can be closed without the lock. -/
  slot : Option BridgeId := none
  /-- Whether the phase is live, for callers without the lock. -/
  live : Bool := false
  bridges : List TagBridge := []
  lock : Lock := {}
  calls : List (CallId × Stage) := []
  issued : Nat := 0
  history : List SessionEvent := []
  deriving DecidableEq

namespace Session

def emit (session : Session) (event : SessionEvent) : Session :=
  { session with history := session.history ++ [event] }

def stage? (session : Session) (call : CallId) : Option Stage := session.calls.lookup call

def turnsLeft (session : Session) (call : CallId) : Nat :=
  ((session.stage? call).map Stage.turnsLeft).getD 0

/-- How many more turns the holder of the lock and those behind it can take. -/
def turnsOfAll (session : Session) : Nat :=
  (session.lock.line.map session.turnsLeft).foldr (· + ·) 0

def forget (session : Session) (call : CallId) : Session :=
  { session with calls := session.calls.filter (·.1 ≠ call) }

def park (session : Session) (call : CallId) (stage : Stage) : Session :=
  { session with calls := (call, stage) :: session.calls.filter (·.1 ≠ call) }

def release (session : Session) : Session :=
  let next := { session with lock := session.lock.release }
  match next.lock.holder with
  | some call => next.emit (.granted call)
  | none => next

/-- The call gives the lock up and ends. -/
def conclude (session : Session) (call : CallId) (outcome : Outcome) : Session :=
  (session.release.forget call).emit (.ended call outcome)

/-- Whether nothing more can come over a bridge. -/
def isClosed (session : Session) (bridge : BridgeId) : Bool :=
  match session.bridges[bridge]? with
  | some found => found.closed
  | none => true

def update (session : Session) (bridge : BridgeId) (change : TagBridge → TagBridge) : Session :=
  { session with bridges := session.bridges.modify bridge change }

def closeBridge (session : Session) (bridge : BridgeId) : Session :=
  if session.isClosed bridge then session
  else (session.update bridge Bridge.close).emit (.closed bridge)

/-- The radio reports over a bridge; a closed bridge loses the report. -/
def report (session : Session) (bridge : BridgeId) (notice : TagNotice) : Session :=
  if session.isClosed bridge then session
  else match notice with
    | .finished => session.closeBridge bridge
    | _ => (session.update bridge (·.receive notice)).emit (.noticed bridge notice)

def reportAll (session : Session) (bridge : BridgeId) (notices : List TagNotice) : Session :=
  notices.foldl (·.report bridge ·) session

def nextBridge (session : Session) : BridgeId := session.bridges.length

/-- Opens a bridge and puts it into the slot, closing one that is still there. -/
def openBridge (session : Session) : Session :=
  let cleared := match session.slot with
    | some stale => session.closeBridge stale
    | none => session
  ({ cleared with
      bridges := cleared.bridges ++ [({} : Bridge (List Tag))]
      slot := some session.nextBridge }).emit (.opened session.nextBridge)

/-- Takes the bridge out of the slot, closes it and has the radio end its session. Whoever comes
second finds the slot empty and does nothing. -/
def hangUp (session : Session) (farewell : Option String) : Session :=
  match session.slot with
  | none => session
  | some bridge =>
    ({ session with slot := none }.closeBridge bridge).emit (.dismissed farewell)

/-- Ends the session: the radio, the connection and the bridge go, and the phase is not live. -/
def shutDown (session : Session) (farewell : Option String) : Session :=
  { session.hangUp farewell with
    connection := none
    held := none
    live := false
    phase := session.phase.shut }

/-- The call ends by a failure that the session does not survive. -/
def fail (session : Session) (call : CallId) (error : SessionError) : Session :=
  (session.shutDown error.farewell).conclude call (.error error)

def view (session : Session) : Snapshot where
  phase := session.phase
  purpose := session.purpose
  startedAt := session.connection.map (·.startedAt)
  renewedAt := session.connection.map (·.renewedAt)
  connected := session.connection.isSome

theorem lookup_filter_ne {α : Type} (calls : List (CallId × α)) (call other : CallId) :
    (calls.filter (·.1 ≠ other)).lookup call =
      if call = other then none else calls.lookup call := by
  induction calls with
  | nil => simp
  | cons head rest ih =>
      obtain ⟨key, value⟩ := head
      by_cases dropped : key = other
      · subst dropped
        rw [List.filter_cons_of_neg (by simp), ih]
        by_cases same : call = key
        · simp [same]
        · have apart : (call == key) = false := by simpa using same
          simp [same, List.lookup_cons, apart]
      · rw [List.filter_cons_of_pos (by simpa using dropped)]
        by_cases same : call = key
        · subst same
          simp [dropped]
        · have apart : (call == key) = false := by simpa using same
          simp only [List.lookup_cons, apart, ih]

@[simp] theorem stage?_emit (session : Session) (event : SessionEvent) (call : CallId) :
    (session.emit event).stage? call = session.stage? call := rfl

theorem stage?_forget (session : Session) (call other : CallId) :
    (session.forget other).stage? call = if call = other then none else session.stage? call :=
  lookup_filter_ne session.calls call other

theorem stage?_park (session : Session) (call other : CallId) (stage : Stage) :
    (session.park other stage).stage? call =
      if call = other then some stage else session.stage? call := by
  by_cases same : call = other
  · simp [stage?, park, same]
  · have apart : (call == other) = false := by simpa using same
    have rest := lookup_filter_ne session.calls call other
    simp only [same, ↓reduceIte] at rest
    simpa [stage?, park, List.lookup_cons, apart, same] using rest

@[simp] theorem slot_closeBridge (session : Session) (bridge : BridgeId) :
    (session.closeBridge bridge).slot = session.slot := by
  unfold closeBridge
  split <;> rfl

@[simp] theorem slot_hangUp (session : Session) (farewell : Option String) :
    (session.hangUp farewell).slot = none := by
  unfold hangUp
  split
  · assumption
  · exact slot_closeBridge _ _

@[simp] theorem slot_shutDown (session : Session) (farewell : Option String) :
    (session.shutDown farewell).slot = none := slot_hangUp session farewell

@[simp] theorem connection_shutDown (session : Session) (farewell : Option String) :
    (session.shutDown farewell).connection = none := rfl

@[simp] theorem held_shutDown (session : Session) (farewell : Option String) :
    (session.shutDown farewell).held = none := rfl

@[simp] theorem live_shutDown (session : Session) (farewell : Option String) :
    (session.shutDown farewell).live = false := rfl

@[simp] theorem phase_shutDown (session : Session) (farewell : Option String) :
    (session.shutDown farewell).phase = session.phase.shut := rfl

/-- The second to hang up does nothing. -/
theorem hangUp_of_empty {session : Session} (empty : session.slot = none)
    (farewell : Option String) : session.hangUp farewell = session := by
  simp [hangUp, empty]

end Session

end Contactless
