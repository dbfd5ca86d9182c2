import Contactless.Session.Step

set_option autoImplicit false

namespace Contactless

/-- Whether the event comes along with others: a lock handed on, a report or an ending. -/
def SessionEvent.isAside : SessionEvent → Bool
  | .granted _ | .closed _ | .noticed _ _ | .dismissed _ => true
  | _ => false

/-- The call that a stimulus is about, if there is one. -/
def Stimulus.subject? (session : Session) : Stimulus → Option CallId
  | .call _ _ => some session.issued
  | .wake caller _ _ | .drop caller => some caller
  | .notice _ _ | .alert _ => none

namespace Session

variable (session : Session)

@[simp] theorem emit_fields (event : SessionEvent) :
    (session.emit event).policy = session.policy ∧
    (session.emit event).phase = session.phase ∧
    (session.emit event).purpose = session.purpose ∧
    (session.emit event).connection = session.connection ∧
    (session.emit event).held = session.held ∧
    (session.emit event).slot = session.slot ∧
    (session.emit event).live = session.live ∧
    (session.emit event).bridges = session.bridges ∧
    (session.emit event).lock = session.lock ∧
    (session.emit event).issued = session.issued := by
  simp [emit]

@[simp] theorem history_emit (event : SessionEvent) :
    (session.emit event).history = session.history ++ [event] := rfl

@[simp] theorem isClosed_emit (event : SessionEvent) (bridge : BridgeId) :
    (session.emit event).isClosed bridge = session.isClosed bridge := rfl

@[simp] theorem park_fields (call : CallId) (stage : Stage) :
    (session.park call stage).policy = session.policy ∧
    (session.park call stage).phase = session.phase ∧
    (session.park call stage).purpose = session.purpose ∧
    (session.park call stage).connection = session.connection ∧
    (session.park call stage).held = session.held ∧
    (session.park call stage).slot = session.slot ∧
    (session.park call stage).live = session.live ∧
    (session.park call stage).bridges = session.bridges ∧
    (session.park call stage).lock = session.lock ∧
    (session.park call stage).issued = session.issued ∧
    (session.park call stage).history = session.history := by
  simp [park]

@[simp] theorem isClosed_park (call : CallId) (stage : Stage) (bridge : BridgeId) :
    (session.park call stage).isClosed bridge = session.isClosed bridge := rfl

@[simp] theorem forget_fields (call : CallId) :
    (session.forget call).policy = session.policy ∧
    (session.forget call).phase = session.phase ∧
    (session.forget call).purpose = session.purpose ∧
    (session.forget call).connection = session.connection ∧
    (session.forget call).held = session.held ∧
    (session.forget call).slot = session.slot ∧
    (session.forget call).live = session.live ∧
    (session.forget call).bridges = session.bridges ∧
    (session.forget call).lock = session.lock ∧
    (session.forget call).issued = session.issued ∧
    (session.forget call).history = session.history := by
  simp [forget]

@[simp] theorem isClosed_forget (call : CallId) (bridge : BridgeId) :
    (session.forget call).isClosed bridge = session.isClosed bridge := rfl

theorem release_eq :
    session.release = { session with
      lock := session.lock.release
      history := session.history ++ session.lock.release.holder.toList.map .granted } := by
  unfold release
  dsimp only
  split
  · rename_i call next
    simp [emit, next]
  · rename_i next
    simp [next]

@[simp] theorem release_fields :
    session.release.policy = session.policy ∧
    session.release.phase = session.phase ∧
    session.release.purpose = session.purpose ∧
    session.release.connection = session.connection ∧
    session.release.held = session.held ∧
    session.release.slot = session.slot ∧
    session.release.live = session.live ∧
    session.release.bridges = session.bridges ∧
    session.release.lock = session.lock.release ∧
    session.release.issued = session.issued ∧
    session.release.history =
      session.history ++ session.lock.release.holder.toList.map .granted := by
  simp [release_eq]

@[simp] theorem stage?_release (call : CallId) :
    session.release.stage? call = session.stage? call := by
  simp [release_eq, stage?]

@[simp] theorem isClosed_release (bridge : BridgeId) :
    session.release.isClosed bridge = session.isClosed bridge := by
  simp [release_eq, isClosed]

@[simp] theorem conclude_fields (call : CallId) (outcome : Outcome) :
    (session.conclude call outcome).policy = session.policy ∧
    (session.conclude call outcome).phase = session.phase ∧
    (session.conclude call outcome).purpose = session.purpose ∧
    (session.conclude call outcome).connection = session.connection ∧
    (session.conclude call outcome).held = session.held ∧
    (session.conclude call outcome).slot = session.slot ∧
    (session.conclude call outcome).live = session.live ∧
    (session.conclude call outcome).bridges = session.bridges ∧
    (session.conclude call outcome).lock = session.lock.release ∧
    (session.conclude call outcome).issued = session.issued ∧
    (session.conclude call outcome).history = session.history ++
      (session.lock.release.holder.toList.map .granted ++ [.ended call outcome]) := by
  simp [conclude]

@[simp] theorem stage?_conclude (call other : CallId) (outcome : Outcome) :
    (session.conclude other outcome).stage? call =
      if call = other then none else session.stage? call := by
  simp [conclude, stage?_forget]

@[simp] theorem isClosed_conclude (call : CallId) (outcome : Outcome) (bridge : BridgeId) :
    (session.conclude call outcome).isClosed bridge = session.isClosed bridge := by
  simp [conclude]

@[simp] theorem update_fields (bridge : BridgeId) (change : TagBridge → TagBridge) :
    (session.update bridge change).policy = session.policy ∧
    (session.update bridge change).phase = session.phase ∧
    (session.update bridge change).purpose = session.purpose ∧
    (session.update bridge change).connection = session.connection ∧
    (session.update bridge change).held = session.held ∧
    (session.update bridge change).slot = session.slot ∧
    (session.update bridge change).live = session.live ∧
    (session.update bridge change).bridges.length = session.bridges.length ∧
    (session.update bridge change).lock = session.lock ∧
    (session.update bridge change).issued = session.issued ∧
    (session.update bridge change).history = session.history := by
  simp [update]

@[simp] theorem stage?_update (bridge : BridgeId) (change : TagBridge → TagBridge)
    (call : CallId) : (session.update bridge change).stage? call = session.stage? call := rfl

theorem isClosed_update (bridge : BridgeId) (change : TagBridge → TagBridge) (other : BridgeId) :
    (session.update bridge change).isClosed other =
      if other = bridge then (session.bridges[bridge]?.map fun found => (change found).closed).getD
        true
      else session.isClosed other := by
  unfold isClosed update
  rw [List.getElem?_modify]
  by_cases same : other = bridge
  · subst same
    cases session.bridges[other]? <;> simp
  · have apart : ¬ bridge = other := fun equal => same equal.symm
    simp [same, apart]

theorem isClosed_update_of_kept {bridge : BridgeId} {change : TagBridge → TagBridge}
    (kept : ∀ found, session.bridges[bridge]? = some found →
      (change found).closed = found.closed) (other : BridgeId) :
    (session.update bridge change).isClosed other = session.isClosed other := by
  rw [isClosed_update]
  split
  · rename_i same
    subst same
    unfold isClosed
    cases here : session.bridges[other]? with
    | none => rfl
    | some found => simpa using kept found here
  · rfl

@[simp] theorem closeBridge_fields (bridge : BridgeId) :
    (session.closeBridge bridge).policy = session.policy ∧
    (session.closeBridge bridge).phase = session.phase ∧
    (session.closeBridge bridge).purpose = session.purpose ∧
    (session.closeBridge bridge).connection = session.connection ∧
    (session.closeBridge bridge).held = session.held ∧
    (session.closeBridge bridge).live = session.live ∧
    (session.closeBridge bridge).bridges.length = session.bridges.length ∧
    (session.closeBridge bridge).lock = session.lock ∧
    (session.closeBridge bridge).issued = session.issued := by
  unfold closeBridge
  split <;> simp

@[simp] theorem stage?_closeBridge (bridge : BridgeId) (call : CallId) :
    (session.closeBridge bridge).stage? call = session.stage? call := by
  unfold closeBridge
  split <;> rfl

def closing (bridge : BridgeId) : List SessionEvent :=
  if session.isClosed bridge then [] else [.closed bridge]

@[simp] theorem history_closeBridge (bridge : BridgeId) :
    (session.closeBridge bridge).history = session.history ++ session.closing bridge := by
  unfold closeBridge closing
  split <;> simp

@[simp] theorem isClosed_closeBridge (bridge other : BridgeId) :
    (session.closeBridge bridge).isClosed other =
      (session.isClosed other || decide (other = bridge)) := by
  unfold closeBridge
  split
  · rename_i closed
    by_cases same : other = bridge
    · subst same
      simp [closed]
    · simp [same]
  · rename_i unclosed
    rw [isClosed_emit, isClosed_update]
    by_cases same : other = bridge
    · subst same
      cases session.bridges[other]? <;> simp
    · simp [same]

@[simp] theorem report_fields (bridge : BridgeId) (notice : TagNotice) :
    (session.report bridge notice).policy = session.policy ∧
    (session.report bridge notice).phase = session.phase ∧
    (session.report bridge notice).purpose = session.purpose ∧
    (session.report bridge notice).connection = session.connection ∧
    (session.report bridge notice).held = session.held ∧
    (session.report bridge notice).slot = session.slot ∧
    (session.report bridge notice).live = session.live ∧
    (session.report bridge notice).bridges.length = session.bridges.length ∧
    (session.report bridge notice).lock = session.lock ∧
    (session.report bridge notice).issued = session.issued := by
  unfold report
  split
  · simp
  · split <;> simp

@[simp] theorem stage?_report (bridge : BridgeId) (notice : TagNotice) (call : CallId) :
    (session.report bridge notice).stage? call = session.stage? call := by
  unfold report
  split
  · rfl
  · split <;> simp

def reporting (bridge : BridgeId) (notice : TagNotice) : List SessionEvent :=
  if session.isClosed bridge then []
  else match notice with
    | .finished => [.closed bridge]
    | _ => [.noticed bridge notice]

@[simp] theorem history_report (bridge : BridgeId) (notice : TagNotice) :
    (session.report bridge notice).history =
      session.history ++ session.reporting bridge notice := by
  unfold report reporting
  split
  · simp
  · rename_i unclosed
    cases notice <;> simp [closing, unclosed]

/-- A report closes a bridge only if it says so, and opens none. -/
theorem isClosed_report (bridge : BridgeId) (notice : TagNotice) (other : BridgeId) :
    (session.report bridge notice).isClosed other =
      (session.isClosed other || decide (other = bridge ∧ notice = .finished)) := by
  unfold report
  split
  · rename_i closed
    by_cases same : other = bridge
    · subst same
      simp [closed]
    · simp [same]
  · rename_i unclosed
    have unclosed : session.isClosed bridge = false := by simpa using unclosed
    cases notice with
    | finished => simp
    | active | interrupted reason | detected batch =>
        rw [isClosed_emit, isClosed_update_of_kept]
        · simp
        · intro found here
          have listens : found.closed = false := by simpa [isClosed, here] using unclosed
          simp [Bridge.receive, listens]

theorem report_of_closed {bridge : BridgeId} (closed : session.isClosed bridge = true)
    (notice : TagNotice) : session.report bridge notice = session := by
  simp [report, closed]

@[simp] theorem openBridge_fields :
    session.openBridge.policy = session.policy ∧
    session.openBridge.phase = session.phase ∧
    session.openBridge.purpose = session.purpose ∧
    session.openBridge.connection = session.connection ∧
    session.openBridge.held = session.held ∧
    session.openBridge.slot = some session.nextBridge ∧
    session.openBridge.live = session.live ∧
    session.openBridge.bridges.length = session.bridges.length + 1 ∧
    session.openBridge.lock = session.lock ∧
    session.openBridge.issued = session.issued := by
  unfold openBridge
  dsimp only
  split <;> simp

@[simp] theorem stage?_openBridge (call : CallId) :
    session.openBridge.stage? call = session.stage? call := by
  unfold openBridge
  dsimp only
  split
  · rename_i stale filled
    exact stage?_closeBridge session stale call
  · rfl

theorem history_openBridge (empty : session.slot = none) :
    session.openBridge.history = session.history ++ [.opened session.nextBridge] := by
  simp [openBridge, empty]

theorem isClosed_openBridge (empty : session.slot = none) (bridge : BridgeId) :
    session.openBridge.isClosed bridge =
      (session.isClosed bridge && decide (bridge ≠ session.nextBridge)) := by
  simp only [openBridge, empty, isClosed_emit]
  unfold isClosed nextBridge
  rw [List.getElem?_append]
  by_cases old : bridge < session.bridges.length
  · have apart : bridge ≠ session.bridges.length := Nat.ne_of_lt old
    simp [old, apart]
  · rw [List.getElem?_eq_none (Nat.not_lt.mp old)]
    by_cases same : bridge = session.bridges.length
    · simp [same]
    · have above : session.bridges.length < bridge :=
        Nat.lt_of_le_of_ne (Nat.not_lt.mp old) (Ne.symm same)
      have beyond : ¬ bridge - session.bridges.length < 1 :=
        Nat.not_lt.mpr (Nat.sub_pos_of_lt above)
      simp [old, same, beyond]

@[simp] theorem hangUp_fields (farewell : Option String) :
    (session.hangUp farewell).policy = session.policy ∧
    (session.hangUp farewell).phase = session.phase ∧
    (session.hangUp farewell).purpose = session.purpose ∧
    (session.hangUp farewell).connection = session.connection ∧
    (session.hangUp farewell).held = session.held ∧
    (session.hangUp farewell).live = session.live ∧
    (session.hangUp farewell).bridges.length = session.bridges.length ∧
    (session.hangUp farewell).lock = session.lock ∧
    (session.hangUp farewell).issued = session.issued := by
  unfold hangUp
  split <;> simp

@[simp] theorem stage?_hangUp (farewell : Option String) (call : CallId) :
    (session.hangUp farewell).stage? call = session.stage? call := by
  unfold hangUp
  split
  · rfl
  · rename_i stale filled
    exact stage?_closeBridge { session with slot := none } stale call

def hangingUp (farewell : Option String) : List SessionEvent :=
  match session.slot with
  | none => []
  | some bridge => session.closing bridge ++ [.dismissed farewell]

@[simp] theorem history_hangUp (farewell : Option String) :
    (session.hangUp farewell).history = session.history ++ session.hangingUp farewell := by
  unfold hangUp hangingUp
  cases filled : session.slot with
  | none => simp
  | some bridge =>
      rw [history_emit, history_closeBridge, List.append_assoc]
      rfl

@[simp] theorem isClosed_hangUp (farewell : Option String) (bridge : BridgeId) :
    (session.hangUp farewell).isClosed bridge =
      (session.isClosed bridge || decide (session.slot = some bridge)) := by
  unfold hangUp
  split
  · rename_i empty
    simp [empty]
  · rename_i stale filled
    rw [isClosed_emit, isClosed_closeBridge, filled]
    by_cases same : bridge = stale
    · simp [same]
    · have apart : ¬ stale = bridge := fun equal => same equal.symm
      simp [same, apart, isClosed]

@[simp] theorem shutDown_fields (farewell : Option String) :
    (session.shutDown farewell).policy = session.policy ∧
    (session.shutDown farewell).purpose = session.purpose ∧
    (session.shutDown farewell).bridges.length = session.bridges.length ∧
    (session.shutDown farewell).lock = session.lock ∧
    (session.shutDown farewell).issued = session.issued ∧
    (session.shutDown farewell).history = session.history ++ session.hangingUp farewell := by
  simp [shutDown]

@[simp] theorem stage?_shutDown (farewell : Option String) (call : CallId) :
    (session.shutDown farewell).stage? call = session.stage? call :=
  stage?_hangUp session farewell call

@[simp] theorem isClosed_shutDown (farewell : Option String) (bridge : BridgeId) :
    (session.shutDown farewell).isClosed bridge =
      (session.isClosed bridge || decide (session.slot = some bridge)) :=
  isClosed_hangUp session farewell bridge

theorem isAside_hangingUp (farewell : Option String) :
    ∀ event ∈ session.hangingUp farewell, event.isAside = true := by
  unfold hangingUp closing
  split
  · simp
  · split <;> simp [SessionEvent.isAside]

theorem isAside_granted (next : Option CallId) :
    ∀ event ∈ next.toList.map SessionEvent.granted, event.isAside = true := by
  simp [SessionEvent.isAside]

theorem isAside_reporting (bridge : BridgeId) (notice : TagNotice) :
    ∀ event ∈ session.reporting bridge notice, event.isAside = true := by
  unfold reporting
  split
  · simp
  · cases notice <;> simp [SessionEvent.isAside]

theorem filterMap_of_aside {α : Type} {read : SessionEvent → Option α}
    (silent : ∀ event, event.isAside = true → read event = none) {events : List SessionEvent}
    (aside : ∀ event ∈ events, event.isAside = true) : events.filterMap read = [] :=
  List.filterMap_eq_nil_iff.mpr fun event member => silent event (aside event member)

theorem filter_of_aside {keep : SessionEvent → Bool}
    (silent : ∀ event, event.isAside = true → keep event = false) {events : List SessionEvent}
    (aside : ∀ event ∈ events, event.isAside = true) : events.filter keep = [] :=
  List.filter_eq_nil_iff.mpr fun event member => by simp [silent event (aside event member)]

@[simp] theorem send_fields (call : CallId) (tag : Tag) (chain : Chain) :
    (session.send call tag chain).policy = session.policy ∧
    (session.send call tag chain).phase = session.phase ∧
    (session.send call tag chain).purpose = session.purpose ∧
    (session.send call tag chain).connection = session.connection ∧
    (session.send call tag chain).held = session.held ∧
    (session.send call tag chain).slot = session.slot ∧
    (session.send call tag chain).live = session.live ∧
    (session.send call tag chain).bridges = session.bridges ∧
    (session.send call tag chain).lock = session.lock ∧
    (session.send call tag chain).issued = session.issued ∧
    (session.send call tag chain).history =
      session.history ++ [.sent call tag chain.first] := by
  simp [send]

end Session

end Contactless
