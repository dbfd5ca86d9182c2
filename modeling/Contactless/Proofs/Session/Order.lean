import Contactless.Proofs.Session.Service

set_option autoImplicit false

namespace Contactless

namespace SessionEvent

def worker? : SessionEvent → Option CallId
  | .begun call _ _ | .repolled call _ | .connecting call _ _ | .sent call _ _ => some call
  | _ => none

def isSent : SessionEvent → Bool
  | .sent _ _ _ => true
  | _ => false

def requester? : SessionEvent → Option CallId
  | .requested call => some call
  | _ => none

end SessionEvent

namespace Session

def requests (history : List SessionEvent) : List CallId := history.filterMap (·.requester?)

/-- The calls that have put the radio or a tag to work, once for each time. -/
def workers (history : List SessionEvent) : List CallId := history.filterMap (·.worker?)

variable {point last : Point} {session final : Session}

theorem requests_append (first second : List SessionEvent) :
    requests (first ++ second) = requests first ++ requests second :=
  List.filterMap_append

theorem workers_append (first second : List SessionEvent) :
    workers (first ++ second) = workers first ++ workers second :=
  List.filterMap_append

theorem requester?_of_aside (event : SessionEvent) (aside : event.isAside = true) :
    event.requester? = none := by
  cases event <;> first | rfl | cases aside

@[simp] theorem requests_hangingUp (session : Session) (farewell : Option String) :
    requests (session.hangingUp farewell) = [] :=
  filterMap_of_aside requester?_of_aside (isAside_hangingUp session farewell)

@[simp] theorem requests_granted (next : Option CallId) :
    requests (next.toList.map .granted) = [] :=
  filterMap_of_aside requester?_of_aside (isAside_granted next)

@[simp] theorem requests_reporting (session : Session) (bridge : BridgeId)
    (notice : TagNotice) : requests (session.reporting bridge notice) = [] :=
  filterMap_of_aside requester?_of_aside (isAside_reporting session bridge notice)

theorem Moment.worker {mid : List SessionEvent} {event : SessionEvent} {call : CallId}
    (moment : Moment point session last mid event) (works : event.worker? = some call) :
    point.worker? = some call := by
  cases event with
  | begun caller bridge prompt =>
      obtain rfl : caller = call := by simpa [SessionEvent.worker?] using works
      obtain ⟨⟨goal, rfl⟩, _⟩ := moment
      rfl
  | repolled caller bridge =>
      obtain rfl : caller = call := by simpa [SessionEvent.worker?] using works
      obtain ⟨chain, connection, rfl, _⟩ := moment
      rfl
  | connecting caller bridge tag =>
      obtain rfl : caller = call := by simpa [SessionEvent.worker?] using works
      obtain ⟨goal, tags, rfl, _⟩ := moment
      rfl
  | sent caller tag command =>
      obtain rfl : caller = call := by simpa [SessionEvent.worker?] using works
      obtain ⟨chain, rfl, _⟩ := moment
      rfl
  | _ => simp [SessionEvent.worker?] at works

theorem workers_of_move (sound : Sound point session) (move : Move point session last final) :
    ∃ new, workers final.history = workers session.history ++ new ∧
      ∀ call ∈ new, point.worker? = some call := by
  obtain ⟨events, grown, moments⟩ := sound.moments move
  refine ⟨workers events, by rw [grown, workers_append], ?_⟩
  intro call member
  obtain ⟨event, recorded, works⟩ := List.mem_filterMap.mp member
  obtain ⟨mid, moment⟩ := moments.of_mem recorded
  exact moment.worker works

/-- A call that asks for the lock gets in line, and nobody else does. -/
theorem requests_of_move (lined : Lined point session) (sound : Sound point session)
    (move : Move point session last final) :
    (requests final.history = requests session.history ∧
      ∀ call ∈ final.lock.line, call ∈ session.lock.line) ∨
    ∃ asker, point.asker? = some asker ∧ last.asker? = none ∧
      requests final.history = requests session.history ++ [asker] ∧
      ∀ call ∈ final.lock.line, call ∈ session.lock.line ∨ call = asker := by
  have joins : ∀ {asker : CallId}, point.asker? = some asker →
      ∀ call ∈ final.lock.line, call ∈ session.lock.line ∨ call = asker := by
    intro asker asking call within
    refine (lined.line_of_move move within).imp id fun same => ?_
    rw [asking, Option.some.injEq] at same
    exact same.symm
  have stays : point.asker? = none → ∀ call ∈ final.lock.line, call ∈ session.lock.line := by
    intro nobody call within
    rcases lined.line_of_move move within with before | asking
    · exact before
    · rw [nobody] at asking
      cases asking
  cases move with
  | take call job free =>
      exact .inr ⟨call, rfl, rfl, by simp [requests, SessionEvent.requester?], joins rfl⟩
  | wait call holder job held =>
      exact .inr ⟨call, rfl, rfl, by simp [requests, SessionEvent.requester?], joins rfl⟩
  | refuseRadio | refuseLive | refuseEmpty | lineStart | lineExchange | lineLook =>
      exact .inl ⟨by simp [requests, SessionEvent.requester?], fun _ within => within⟩
  | lineFinish call cause => exact .inl ⟨by simp [requests_append], by simp⟩
  | report bridge notice hears => exact .inl ⟨by simp [requests_append], by simp⟩
  | start call purpose dead =>
      have empty : session.slot = none := sound.coherent.dead dead
      exact .inl ⟨by simp [history_openBridge, empty, requests, SessionEvent.requester?], stays rfl⟩
  | pause call chain =>
      have empty := sound.slot_of_reopening
      exact .inl ⟨by simp [history_openBridge, empty, requests, SessionEvent.requester?], stays rfl⟩
  | restart call chain bridge connection ready now aged =>
      exact .inl ⟨by simp [requests_append], stays rfl⟩
  | finish | fail => exact .inl ⟨by simp [requests_append], stays rfl⟩
  | leave | dropHanded | dropWaiting | dropHolder =>
      refine .inl ⟨?_, stays rfl⟩
      simp [requests_append]
      simp [requests, SessionEvent.requester?]
  | _ =>
      exact .inl ⟨by simp [requests, SessionEvent.requester?, connect, reconnect], stays rfl⟩

/-- What is known of the order in which the calls ask for the lock and work. -/
structure Ordered (point : Point) (session : Session) : Prop where
  sorted : (requests session.history).Pairwise (· < ·)
  issued : ∀ call ∈ requests session.history, call < session.issued
  asker : ∀ asker, point.asker? = some asker → ∀ call ∈ requests session.history, call < asker
  line : ∀ call ∈ session.lock.line, call ∈ requests session.history
  turns : (workers session.history).Pairwise (· ≤ ·)
  worked : ∀ call ∈ workers session.history, call ∈ requests session.history ∧
    ∀ other ∈ session.lock.line, call ≤ other

theorem Lined.holder_le (lined : Lined point session) {call other : CallId}
    (held : session.lock.holder = some call) (within : other ∈ session.lock.line) :
    call ≤ other := by
  rcases Lock.mem_line.mp within with same | waits
  · rw [held, Option.some.injEq] at same
    exact Nat.le_of_eq same
  · have sorted := lined.sorted
    simp only [Lock.line, held, Option.toList_some, List.singleton_append,
      List.pairwise_cons] at sorted
    exact Nat.le_of_lt (sorted.1 other waits)

theorem asker?_of_worker? {call : CallId} (working : point.worker? = some call) :
    point.asker? = none := by
  cases point <;> first | rfl | cases working

theorem Ordered.requests_move (lined : Lined point session) (sound : Sound point session)
    (ordered : Ordered point session) (move : Move point session last final) :
    (requests final.history).Pairwise (· < ·) ∧
      (∀ call ∈ requests final.history, call < final.issued) ∧
      (∀ asker, last.asker? = some asker → ∀ call ∈ requests final.history, call < asker) ∧
      ∀ call ∈ final.lock.line, call ∈ requests final.history := by
  have issued := issued_le_of_move move
  rcases requests_of_move lined sound move with ⟨same, line⟩ | ⟨asker, asking, waived, grown, line⟩
  · rw [same]
    refine ⟨ordered.sorted, ?_, ?_, fun call within => ordered.line call (line call within)⟩
    · exact fun call member => Nat.lt_of_lt_of_le (ordered.issued call member) issued
    · intro asker asking call member
      rcases asker_of_move move asking with before | ⟨_, rfl⟩
      · exact ordered.asker asker before call member
      · exact ordered.issued call member
  · have below := ordered.asker asker asking
    rw [grown]
    refine ⟨?_, ?_, by simp [waived], ?_⟩
    · refine List.pairwise_append.mpr ⟨ordered.sorted, List.pairwise_singleton _ _, ?_⟩
      intro call member other same
      rw [List.mem_singleton.mp same]
      exact below call member
    · intro call member
      rcases List.mem_append.mp member with before | same
      · exact Nat.lt_of_lt_of_le (ordered.issued call before) issued
      · rw [List.mem_singleton.mp same]
        exact Nat.lt_of_lt_of_le (lined.asker asker asking).1 issued
    · intro call within
      rcases line call within with before | rfl
      · exact List.mem_append_left _ (ordered.line call before)
      · simp

/-- Whoever works is the first of all that are in line or will be. -/
theorem Ordered.workers_move (lined : Lined point session) (sound : Sound point session)
    (ordered : Ordered point session) (move : Move point session last final) :
    (workers final.history).Pairwise (· ≤ ·) ∧
      ∀ call ∈ workers final.history, call ∈ requests final.history ∧
        ∀ other ∈ final.lock.line, call ≤ other := by
  obtain ⟨new, grown, working⟩ := workers_of_move sound move
  have keeps : ∀ call ∈ requests session.history, call ∈ requests final.history := by
    intro call member
    rcases requests_of_move lined sound move with ⟨same, _⟩ | ⟨asker, _, _, longer, _⟩
    · rw [same]
      exact member
    · rw [longer]
      exact List.mem_append_left _ member
  have holds : ∀ call ∈ new, session.lock.holder = some call :=
    fun call member => lined.worker call (working call member)
  have heads : ∀ call ∈ new, call ∈ session.lock.line :=
    fun call member => Lock.mem_line.mpr (.inl (holds call member))
  rw [grown]
  constructor
  · refine List.pairwise_append.mpr ⟨ordered.turns, ?_, ?_⟩
    · -- A move has one worker at most, the holder of the lock.
      refine List.pairwise_of_forall_mem_list fun call member other joined => ?_
      have same := (holds call member).symm.trans (holds other joined)
      exact Nat.le_of_eq (Option.some.inj same)
    · exact fun call member other joined =>
        (ordered.worked call member).2 other (heads other joined)
  · intro call member
    rcases List.mem_append.mp member with before | joined
    · obtain ⟨asked, first⟩ := ordered.worked call before
      refine ⟨keeps call asked, fun other within => ?_⟩
      rcases lined.line_of_move move within with waits | asking
      · exact first other waits
      · exact Nat.le_of_lt (ordered.asker other asking call asked)
    · refine ⟨keeps call (ordered.line call (heads call joined)), fun other within => ?_⟩
      rcases lined.line_of_move move within with waits | asking
      · exact lined.holder_le (holds call joined) waits
      · rw [asker?_of_worker? (working call joined)] at asking
        cases asking

theorem Ordered.initial (policy : Policy) : Ordered .outside (Session.initial policy) := by
  refine ⟨List.Pairwise.nil, ?_, ?_, ?_, List.Pairwise.nil, ?_⟩ <;>
    simp [Session.initial, requests, workers, Lock.line, Point.asker?]

theorem Reached.ordered (reached : Reached point session) : Ordered point session := by
  refine reached.induction Ordered.initial ?_
  intro point session last final before ordered move
  obtain ⟨sorted, issued, asker, line⟩ := ordered.requests_move before.lined before.sound move
  obtain ⟨turns, worked⟩ := ordered.workers_move before.lined before.sound move
  exact ⟨sorted, issued, asker, line, turns, worked⟩

end Session

end Contactless
