import Contactless.Proofs.Session.Reading

set_option autoImplicit false

namespace Contactless.Session

def queue {α : Type} (read : TagBridge → List α) (session : Session) (bridge : BridgeId) :
    List α :=
  match session.bridges[bridge]? with
  | some found => read found
  | none => []

variable {α : Type} {read : TagBridge → List α} {point last : Point} {session final : Session}
  {bridge : BridgeId}

theorem length_of_move (move : Move point session last final) :
    session.bridges.length ≤ final.bridges.length := by
  cases move <;> simp [connect, reconnect]

theorem queue_of_some {found : TagBridge} (here : session.bridges[bridge]? = some found) :
    session.queue read bridge = read found := by
  simp only [queue, here]

theorem queue_congr (same : final.bridges = session.bridges) :
    final.queue read bridge = session.queue read bridge := by
  simp only [queue, same]

theorem queue_update (session : Session) (bridge : BridgeId) (change : TagBridge → TagBridge)
    (other : BridgeId) :
    (session.update bridge change).queue read other =
      if other = bridge then (session.bridges[bridge]?.map fun found => read (change found)).getD []
      else session.queue read other := by
  unfold queue update
  rw [List.getElem?_modify]
  by_cases same : other = bridge
  · subst same
    cases session.bridges[other]? <;> simp
  · have apart : ¬ bridge = other := fun equal => same equal.symm
    simp [same, apart]

theorem exists_bridge_of_open (unclosed : session.isClosed bridge = false) :
    ∃ found, session.bridges[bridge]? = some found ∧ found.closed = false := by
  cases here : session.bridges[bridge]? with
  | none => simp [isClosed, here] at unclosed
  | some found => exact ⟨found, rfl, by simpa [isClosed, here] using unclosed⟩

theorem queue_update_of_kept {change : TagBridge → TagBridge}
    (kept : ∀ found, session.bridges[bridge]? = some found → read (change found) = read found)
    (other : BridgeId) :
    (session.update bridge change).queue read other = session.queue read other := by
  rw [queue_update]
  split
  · rename_i same
    subst same
    unfold queue
    cases here : session.bridges[other]? with
    | none => rfl
    | some found => simpa using kept found here
  · rfl

section

variable (closes : ∀ found : TagBridge, read found.close = read found)

include closes

theorem queue_closeBridge (session : Session) (bridge other : BridgeId) :
    (session.closeBridge bridge).queue read other = session.queue read other := by
  unfold closeBridge
  split
  · rfl
  · exact queue_update_of_kept (fun found _ => closes found) other

theorem queue_hangUp (session : Session) (farewell : Option String) (bridge : BridgeId) :
    (session.hangUp farewell).queue read bridge = session.queue read bridge := by
  unfold hangUp
  split
  · rfl
  · exact queue_closeBridge closes _ _ _

end

theorem queue_openBridge (blank : read {} = []) (session : Session) (empty : session.slot = none)
    (bridge : BridgeId) : session.openBridge.queue read bridge = session.queue read bridge := by
  unfold queue openBridge
  simp only [empty, emit_fields]
  rw [List.getElem?_append]
  by_cases old : bridge < session.bridges.length
  · rw [if_pos old]
  · rw [if_neg old, List.getElem?_eq_none (Nat.not_lt.mp old)]
    cases bridge - session.bridges.length with
    | zero => exact blank
    | succ => rfl

theorem queue_report (closes : ∀ found : TagBridge, read found.close = read found)
    (session : Session) (bridge : BridgeId) (notice : TagNotice) (other : BridgeId) :
    (session.report bridge notice).queue read other =
      if session.isClosed bridge = false ∧ other = bridge then
        (session.bridges[bridge]?.map fun found => read (found.receive notice)).getD []
      else session.queue read other := by
  unfold report
  split
  · rename_i closed
    rw [if_neg (by simp [closed])]
  · rename_i unclosed
    have listens : session.isClosed bridge = false := by simpa using unclosed
    cases notice with
    | finished =>
        rw [queue_closeBridge closes]
        split
        · rename_i same
          obtain ⟨-, rfl⟩ := same
          obtain ⟨found, present, attends⟩ := exists_bridge_of_open listens
          simp [queue, present, Bridge.receive, attends, closes]
        · rfl
    | active | interrupted reason | detected batch =>
        exact (queue_update ..).trans (by simp [listens])

end Contactless.Session
