import Contactless.Proofs.Session.Queue
import Contactless.Proofs.Session.Record

set_option autoImplicit false

namespace Contactless

namespace SessionEvent

def batch? (bridge : BridgeId) : SessionEvent → Option (List Tag)
  | .noticed other (.detected batch) => if other = bridge then some batch else none
  | _ => none

/-- Whether the radio is asked to poll over the bridge, or batches are taken from it. -/
def attends (bridge : BridgeId) : SessionEvent → Bool
  | .begun _ other _ | .drained _ other | .repolled _ other | .taken _ other _ => other == bridge
  | _ => false

def waitingAfter (bridge : BridgeId) (waiting : List (List Tag)) : SessionEvent → List (List Tag)
  | .noticed other (.detected batch) => if other = bridge then waiting ++ [batch] else waiting
  | .drained _ other => if other = bridge then [] else waiting
  | .taken _ other _ => if other = bridge then waiting.tail else waiting
  | _ => waiting

/-- A bridge that is not attended only gains what is reported over it. -/
theorem waitingAfter_eq {bridge : BridgeId} {event : SessionEvent}
    (unattended : event.attends bridge = false) (waiting : List (List Tag)) :
    event.waitingAfter bridge waiting = waiting ++ (event.batch? bridge).toList := by
  cases event with
  | noticed other notice =>
      cases notice with
      | detected batch =>
          by_cases same : other = bridge <;> simp [waitingAfter, batch?, same]
      | active | interrupted | finished => simp [waitingAfter, batch?]
  | drained caller other | taken caller other batch =>
      have apart : ¬ other = bridge := by simpa [attends] using unattended
      simp [waitingAfter, batch?, apart]
  | _ => simp [waitingAfter, batch?]

end SessionEvent

namespace Bridge

variable {α : Type}

theorem batches_poll (bridge : Bridge α) :
    (∃ batch, bridge.poll.1 = .batch batch ∧ bridge.batches = batch :: bridge.poll.2.batches) ∨
    ((∀ batch, bridge.poll.1 ≠ .batch batch) ∧ bridge.poll.2.batches = bridge.batches) := by
  cases waiting : bridge.interruptions with
  | cons reason rest => exact .inr ⟨by simp [poll, waiting], by simp [poll, waiting]⟩
  | nil =>
      cases batches : bridge.batches with
      | cons batch rest =>
          exact .inl ⟨batch, by simp [poll, waiting, batches], by simp [poll, waiting, batches]⟩
      | nil =>
          refine .inr ⟨fun batch => ?_, by simp [poll, waiting, batches]⟩
          cases closed : bridge.closed <;> simp [poll, waiting, batches, closed]

end Bridge

namespace Session

def batches (history : List SessionEvent) (bridge : BridgeId) : List (List Tag) :=
  history.filterMap (·.batch? bridge)

/-- The batches that should wait on the bridge by what happened. -/
def leftWaiting (bridge : BridgeId) (history : List SessionEvent) : List (List Tag) :=
  history.foldl (SessionEvent.waitingAfter bridge) []

def waiting (session : Session) (bridge : BridgeId) : List (List Tag) :=
  session.queue (·.batches) bridge

variable {point last : Point} {session final : Session} {bridge : BridgeId}
  {history new : List SessionEvent}

theorem foldl_waitingAfter (unattended : ∀ event ∈ new, event.attends bridge = false)
    (waiting : List (List Tag)) :
    new.foldl (SessionEvent.waitingAfter bridge) waiting = waiting ++ batches new bridge := by
  induction new generalizing waiting with
  | nil => simp [batches]
  | cons event rest ih =>
      rw [List.forall_mem_cons] at unattended
      rw [List.foldl_cons, ih unattended.2, SessionEvent.waitingAfter_eq unattended.1,
        List.append_assoc]
      cases told : event.batch? bridge <;> simp [batches, told]

theorem leftWaiting_append (first second : List SessionEvent) (bridge : BridgeId) :
    leftWaiting bridge (first ++ second) =
      second.foldl (SessionEvent.waitingAfter bridge) (leftWaiting bridge first) :=
  List.foldl_append

@[simp] theorem foldl_waitingAfter_hangingUp (session : Session) (farewell : Option String)
    (bridge : BridgeId) (waiting : List (List Tag)) :
    (session.hangingUp farewell).foldl (SessionEvent.waitingAfter bridge) waiting = waiting := by
  unfold hangingUp closing
  split
  · rfl
  · split <;> rfl

@[simp] theorem foldl_waitingAfter_granted (next : Option CallId) (bridge : BridgeId)
    (waiting : List (List Tag)) :
    (next.toList.map .granted).foldl (SessionEvent.waitingAfter bridge) waiting = waiting := by
  cases next <;> rfl

theorem waiting_congr (same : final.bridges = session.bridges) (bridge : BridgeId) :
    final.waiting bridge = session.waiting bridge := queue_congr same

@[simp] theorem waiting_hangUp (session : Session) (farewell : Option String)
    (bridge : BridgeId) : (session.hangUp farewell).waiting bridge = session.waiting bridge :=
  queue_hangUp (fun _ => rfl) session farewell bridge

@[simp] theorem waiting_shutDown (session : Session) (farewell : Option String)
    (bridge : BridgeId) : (session.shutDown farewell).waiting bridge = session.waiting bridge :=
  waiting_hangUp session farewell bridge

theorem waiting_openBridge (session : Session) (empty : session.slot = none)
    (bridge : BridgeId) : session.openBridge.waiting bridge = session.waiting bridge :=
  queue_openBridge rfl session empty bridge

theorem waiting_report (session : Session) (bridge : BridgeId) (notice : TagNotice)
    (other : BridgeId) :
    (session.report bridge notice).waiting other =
      (session.reporting bridge notice).foldl (SessionEvent.waitingAfter other)
        (session.waiting other) := by
  refine (queue_report (fun _ => rfl) session bridge notice other).trans ?_
  by_cases here : session.isClosed bridge = false ∧ other = bridge
  · rw [if_pos here]
    obtain ⟨unclosed, rfl⟩ := here
    obtain ⟨found, present, listens⟩ := exists_bridge_of_open unclosed
    cases notice <;>
      simp [reporting, Bridge.receive, Bridge.close, listens, unclosed, waiting, queue, present,
        SessionEvent.waitingAfter]
  · rw [if_neg here]
    unfold reporting
    split
    · rfl
    · rename_i unclosed
      have apart : ¬ bridge = other := fun same => here ⟨by simpa using unclosed, same.symm⟩
      cases notice <;> simp [SessionEvent.waitingAfter, apart, waiting]

theorem waiting_poll {found : TagBridge} (here : session.bridges[bridge]? = some found)
    (nothing : ∀ batch, found.poll.1 ≠ .batch batch) (other : BridgeId) :
    (session.update bridge fun _ => found.poll.2).waiting other = session.waiting other := by
  refine queue_update_of_kept (fun present there => ?_) other
  obtain rfl : found = present := Option.some.inj (here.symm.trans there)
  rcases found.batches_poll with ⟨batch, polled, -⟩ | ⟨-, same⟩
  · exact absurd polled (nothing batch)
  · exact same

theorem waiting_take {found : TagBridge} {batch : List Tag}
    (here : session.bridges[bridge]? = some found) (polled : found.poll.1 = .batch batch) :
    (session.waiting bridge).head? = some batch ∧
      ∀ other, (session.update bridge fun _ => found.poll.2).waiting other =
        if bridge = other then (session.waiting other).tail else session.waiting other := by
  rcases found.batches_poll with ⟨oldest, polled', waits⟩ | ⟨nothing, -⟩
  · obtain rfl : oldest = batch := by simpa [polled] using polled'.symm
    have before : session.waiting bridge = oldest :: found.poll.2.batches :=
      (queue_of_some here).trans waits
    refine ⟨by rw [before]; rfl, fun other => ?_⟩
    refine (queue_update ..).trans ?_
    by_cases same : bridge = other
    · subst same
      simp [here, before]
    · rw [if_neg same, if_neg (Ne.symm same)]
      rfl
  · exact absurd polled (nothing batch)

/-- What waits on the bridges changes as the new events tell. -/
theorem Sound.leftWaiting_eq (sound : Sound point session) (move : Move point session last final) :
    ∃ new, final.history = session.history ++ new ∧ ∀ bridge, final.waiting bridge =
      new.foldl (SessionEvent.waitingAfter bridge) (session.waiting bridge) := by
  cases move with
  | lineFinish | finish | fail => exact ⟨_, by simp; rfl, by simp⟩
  | report other notice =>
      exact ⟨_, history_report session other notice, waiting_report session other notice⟩
  | start call purpose dead =>
      have empty := sound.coherent.dead dead
      refine ⟨_, history_openBridge _ empty, fun bridge => ?_⟩
      exact waiting_openBridge _ (by exact empty) bridge
  | pause call chain =>
      have empty := sound.slot_of_reopening
      refine ⟨[.opened session.nextBridge, .paused call session.policy.cooldown],
        by simp [history_openBridge session empty], fun bridge => ?_⟩
      exact waiting_openBridge session empty bridge
  | restart => exact ⟨_, history_hangUp _ none, fun bridge => by simp; rfl⟩
  | renew call chain other connection ready now old =>
      refine ⟨[.drained call other, .repolled call other], by simp, fun bridge => ?_⟩
      refine (queue_update { session with phase := .renewing } other _ bridge).trans ?_
      by_cases same : bridge = other
      · subst same
        cases session.bridges[bridge]? <;> simp [SessionEvent.waitingAfter, Bridge.drainStale]
      · have apart : ¬ other = bridge := fun equal => same equal.symm
        simp only [if_neg same, List.foldl_cons, List.foldl_nil,
          SessionEvent.waitingAfter, if_neg apart]
        rfl
  | interrupted call chain other found reason connected held here unclosed unread =>
      refine ⟨[], by simp, fun bridge => queue_update_of_kept (fun present there => ?_) bridge⟩
      obtain rfl : found = present := Option.some.inj (here.symm.trans there)
      rfl
  | pend call goal other found here polled | exhaust call goal other found here polled
  | halt call goal other found here reason polled =>
      refine ⟨[], by simp, fun bridge => ?_⟩
      exact waiting_poll here (by simp [polled]) bridge
  | foreign call goal other found here tags polled =>
      exact ⟨[.taken call other tags], by simp, (waiting_take here polled).2⟩
  | pick call goal other found here tags polled tag =>
      exact ⟨[.taken call other tags, .connecting call other tag], by simp,
        (waiting_take here polled).2⟩
  | take call job free => exact ⟨[.requested call, .granted call], by simp, fun _ => rfl⟩
  | wait call holder job held => exact ⟨[.requested call], by simp, fun _ => rfl⟩
  | beginCut call goal other =>
      exact ⟨[.beginEnded call other none, .dismissed none], by simp, fun _ => rfl⟩
  | desert call goal other tag | accept call goal other tag =>
      exact ⟨[.connectEnded call tag none, .acknowledged call], by simp, fun _ => rfl⟩
  | leave call outcome =>
      refine ⟨session.lock.release.holder.toList.map .granted ++ [.ended call outcome], by simp,
        fun bridge => ?_⟩
      simpa [SessionEvent.waitingAfter] using waiting_congr (by simp) bridge
  | dropHanded call job =>
      refine ⟨session.lock.release.holder.toList.map .granted ++ [.dropped call], by simp,
        fun bridge => ?_⟩
      simpa [SessionEvent.waitingAfter] using waiting_congr (by simp) bridge
  | dropHolder call stage =>
      refine ⟨session.hangingUp none ++ (session.lock.release.holder.toList.map .granted ++
        [.dropped call]), by simp, fun bridge => ?_⟩
      have same : (((session.shutDown none).release.forget call).emit (.dropped call)).waiting
          bridge = session.waiting bridge :=
        (waiting_congr (by simp) bridge).trans (waiting_shutDown session none bridge)
      simpa [SessionEvent.waitingAfter] using same
  | ask | refuseRadio | refuseLive | refuseEmpty | alert | begin | begun | beginRefused | reject
  | answerLost | answerShort | answerLast | answerFault | answerNext | dropWaiting | send
  | attachStart | attachRestart | attachRenew => exact ⟨[_], rfl, fun _ => rfl⟩
  | _ => exact ⟨[], by simp, fun _ => rfl⟩

/-- A batch that is taken is the oldest that waits. -/
theorem Sound.oldest (sound : Sound point session) (move : Move point session last final)
    (told : final.history = session.history ++ new) {call : CallId} {batch : List Tag}
    (member : SessionEvent.taken call bridge batch ∈ new) :
    (session.waiting bridge).head? = some batch := by
  obtain ⟨front, back, rfl⟩ := List.append_of_mem member
  obtain ⟨⟨goal, rfl⟩, rfl⟩ := sound.moment move told
  cases move with
  | foreign call goal bridge found here tags polled =>
      simp only [history_emit, update_fields, List.nil_append, List.append_cancel_left_eq,
        List.cons.injEq, SessionEvent.taken.injEq, true_and] at told
      exact told.1 ▸ (waiting_take here polled).1
  | pick call goal bridge found here tags polled tag =>
      simp only [park_fields, history_emit, update_fields, List.nil_append, List.append_assoc,
        List.append_cancel_left_eq, List.cons_append, List.cons.injEq, SessionEvent.taken.injEq,
        true_and] at told
      exact told.1 ▸ (waiting_take here polled).1
  | report bridge notice hears => cases hears
  | _ => simp at told

/-- What waits on a bridge can be told from what happened. -/
theorem Reached.leftWaiting_eq (reached : Reached point session) (bridge : BridgeId) :
    session.waiting bridge = leftWaiting bridge session.history := by
  revert bridge
  refine reached.induction (motive := fun _ session =>
    ∀ bridge, session.waiting bridge = leftWaiting bridge session.history) (fun _ _ => rfl) ?_
  intro point session last final reached leftWaiting_eq move bridge
  obtain ⟨new, grown, waits⟩ := reached.sound.leftWaiting_eq move
  rw [waits, leftWaiting_eq, grown, leftWaiting_append]

end Session

end Contactless
