import Contactless.Proofs.Session.Engagement

/-!
What the outcome of a call says about the session that it leaves behind.

A call that used the card and ends well leaves the session connected, and so does one that the card
refused. A call that was turned away has not touched the session. Any other failure takes the
session down, and the radio is told why if nobody has dismissed it before.
-/

set_option autoImplicit false

namespace Contactless

def Request.usesCard : Request → Bool
  | .start _ | .exchange _ => true
  | .finish _ | .look => false

/-- Whether a session survives a call with this outcome that has begun its work. -/
def Outcome.keepsConnection : Outcome → Bool
  | .ok _ => true
  | .error error => error.keepsConnection

/-- Whether the stimulus makes the call or wakes it. -/
def Stimulus.drives (session : Session) (call : CallId) : Stimulus → Prop
  | .call _ _ => session.issued = call
  | .wake caller _ _ => caller = call
  | .notice _ _ | .drop _ | .alert _ => False

namespace SessionEvent

/-- Whether the event is about calls and the lock only. -/
def isBookkeeping : SessionEvent → Bool
  | .called _ _ | .requested _ | .granted _ | .ended _ _ => true
  | _ => false

def isDismissal : SessionEvent → Bool
  | .dismissed _ => true
  | _ => false

end SessionEvent

namespace Session

/-- The call comes to this end between the two sessions. -/
def Concludes (session final : Session) (call : CallId) (outcome : Outcome) : Prop :=
  ∃ new, final.history = session.history ++ new ∧ SessionEvent.ended call outcome ∈ new

/-- Nothing differs between the two sessions but lock, pending calls and history. -/
structure Unchanged (session final : Session) : Prop where
  phase : final.phase = session.phase
  purpose : final.purpose = session.purpose
  connection : final.connection = session.connection
  held : final.held = session.held
  slot : final.slot = session.slot
  live : final.live = session.live
  bridges : final.bridges = session.bridges

/-- Nothing but lock and calls has changed, and the radio was left alone. -/
structure Untouched (session final : Session) : Prop extends Unchanged session final where
  bookkeeping : ∃ new, final.history = session.history ++ new ∧
    ∀ event ∈ new, event.isBookkeeping = true

/-- With this stimulus an exchange that is not empty gets to work under the lock. -/
inductive Acquires (session : Session) (call : CallId) : Stimulus → Prop
  | made (commands : List Bytes) (around : Surroundings) (some : commands ≠ [])
      (free : session.lock.holder = none) (made : session.issued = call) :
      Acquires session call (.call (.exchange commands) around)
  | handed (chain : Chain) (around : Surroundings)
      (queued : session.stage? call = some (.queued (.exchange chain)))
      (held : session.lock.holder = some call) :
      Acquires session call (.wake call .look around)

/-- What is left of a session, and what the radio was told, when a call has failed. -/
structure EndedByError (session final : Session) (call : CallId) (error : SessionError) : Prop where
  down : Down final
  /-- The radio is dismissed if there is a bridge in the slot when the failure is dealt with. -/
  told : ∃ handling events, Moves .outside session (.failing call error) handling ∧
    final.history = handling.history ++ events ∧
    events.filter (·.isDismissal) = (handling.slot.map fun _ => SessionEvent.dismissed
      (if error = .cancelled ∨ error = .interrupted .byUser ∨ error = .interrupted .timeout
        then none else some error.message)).toList

/-- The outcomes of the calls that use the card agree with the session. The last step of the run is
the one in which a call comes to its end. -/
structure StateMatchesOutcome (policy : Policy) (before : List Stimulus) (stimulus : Stimulus) :
    Prop where
  spared : ∀ call request outcome,
    Concludes ((initial policy).run before) ((initial policy).run (before ++ [stimulus]))
      call outcome →
    SessionEvent.called call request ∈ ((initial policy).run (before ++ [stimulus])).history →
    request.usesCard = true → Outcome.keepsConnection outcome = true →
      ((initial policy).run (before ++ [stimulus])).phase = .connected ∧
        ((initial policy).run (before ++ [stimulus])).connection.isSome = true
  refused : ∀ call request error,
    Concludes ((initial policy).run before) ((initial policy).run (before ++ [stimulus]))
      call (.error error) →
    SessionEvent.called call request ∈ ((initial policy).run (before ++ [stimulus])).history →
    request.usesCard = true → error.isRefusal = true →
      ∀ front own back, before ++ [stimulus] = front ++ own :: back →
        own.drives ((initial policy).run front) call →
          Untouched ((initial policy).run front) ((initial policy).run (front ++ [own]))
  unconnected : ∀ call, Acquires ((initial policy).run before) call stimulus → ∀ after,
    SessionEvent.ended call (.error .notConnected) ∈
        ((initial policy).run (before ++ stimulus :: after)).history ↔
      ((initial policy).run before).phase ≠ .connected
  broken : ∀ call error,
    Concludes ((initial policy).run before) ((initial policy).run (before ++ [stimulus]))
      call (.error error) →
    error.isRefusal = false → error.keepsConnection = false →
      EndedByError ((initial policy).run before)
        ((initial policy).run (before ++ [stimulus])) call error

variable {point last : Point} {session final : Session} {call : CallId} {outcome : Outcome}

/-- Whoever runs has made a move to get there. -/
theorem Reached.last_move (reached : Reached point session) (runs : point.rests = false) :
    ∃ before middle, Reached before middle ∧ Move before middle point session := by
  obtain ⟨policy, moves⟩ := reached
  cases moves with
  | refl => cases runs
  | tail before move => exact ⟨_, _, ⟨policy, before⟩, move⟩

/-- A call fails by what is neither a refusal nor a verdict of the card, and the session was
started once. -/
theorem Reached.failing {error : SessionError} (reached : Reached (.failing call error) session) :
    error.isRefusal = false ∧ error.keepsConnection = false ∧ session.phase ≠ .idle := by
  obtain ⟨before, middle, reached', move⟩ := reached.last_move rfl
  have fits := reached'.sound.fits
  have phased : ∀ {phase : Phase}, middle.phase = phase → phase ≠ .idle →
      session.phase = middle.phase → session.phase ≠ .idle := by
    rintro phase here apart same idle
    exact apart (here ▸ same ▸ idle)
  have pursued : ∀ goal : Goal, goal.phase ≠ .idle := by
    intro goal
    cases goal <;> simp [Goal.phase]
  have past : ∀ {call : CallId} {stage : Stage}, before = .outside →
      middle.stage? call = some stage → (∀ job, stage ≠ .queued job) →
      middle.Fits (placeOf stage) := by
    rintro call stage rfl pending working
    rw [← place_of_stage (reached'.lined.holder_of_stage pending working) pending]
    exact fits
  cases move with
  | stale call chain connected => exact ⟨rfl, rfl, phased connected (by simp) rfl⟩
  | interrupted call chain bridge found reason connected =>
      exact ⟨rfl, rfl, phased connected (by simp) (by simp)⟩
  | unattached call chain connected bare =>
      have carded := reached'.sound.coherent.connection
      rw [connected, bare] at carded
      cases carded
  | tooLate call goal => exact ⟨rfl, rfl, phased fits.1 (pursued goal) rfl⟩
  | beginRefused call goal | beginCut call goal =>
      exact ⟨rfl, rfl, phased fits.1 (pursued goal) (by simp)⟩
  | lost call goal | exhaust call goal | halt call goal | foreign call goal =>
      exact ⟨rfl, rfl, phased fits.1 (pursued goal) (by simp)⟩
  | reject call goal bridge tag fault pending =>
      exact ⟨rfl, rfl, phased (past rfl pending (by simp)).1 (pursued goal) (by simp)⟩
  | desert call goal bridge tag pending =>
      exact ⟨rfl, rfl, phased (past rfl pending (by simp)).1 (pursued goal) (by simp)⟩
  | answerLost call tag rest fault pending =>
      exact ⟨rfl, rfl, phased (past rfl pending (by simp)).1 (by simp) (by simp)⟩
  | answerShort call tag rest bytes fault pending =>
      exact ⟨rfl, rfl, phased (past rfl pending (by simp)).1 (by simp) (by simp)⟩
  | report bridge notice hears => cases hears

theorem usesCard_of_serves {goal : Goal} {request : Request} (serves : goal.Serves request) :
    request.usesCard = true := by
  cases goal <;> cases request <;> first | rfl | cases serves

theorem Reached.failing_usesCard {error : SessionError}
    (reached : Reached (.failing call error) session) :
    ∃ request, asked session.history call = [request] ∧ request.usesCard = true := by
  obtain ⟨before, middle, reached', move⟩ := reached.last_move rfl
  have later : ∀ {request : Request}, asked middle.history call = [request] →
      request.usesCard = true →
        ∃ request, asked session.history call = [request] ∧ request.usesCard = true :=
    fun made uses => ⟨_, asked_of_prefix made (reached.served.fair call)
      (reached'.grows (.single move)), uses⟩
  have running := reached'.served.running
  have past : ∀ {stage : Stage}, before = .outside → middle.stage? call = some stage →
      stage.Serves middle.history call := by
    rintro stage rfl pending
    exact reached'.served.stage call stage pending (by simp [Point.worker?])
  cases move with
  | stale | interrupted | unattached =>
      obtain ⟨request, fresh, serves⟩ := running
      exact later fresh.asked (by rw [eq_of_serves_exchange serves]; rfl)
  | tooLate | beginRefused | beginCut | lost | exhaust | halt | foreign =>
      obtain ⟨request, fresh, serves⟩ := running
      exact later fresh.asked (usesCard_of_serves serves)
  | reject call goal bridge tag fault pending | desert call goal bridge tag pending =>
      obtain ⟨request, fresh, serves⟩ := past rfl pending
      exact later fresh.asked (usesCard_of_serves serves)
  | answerLost call tag rest fault pending | answerShort call tag rest bytes fault pending =>
      exact later (past rfl pending).1 rfl
  | report bridge notice hears => cases hears

/-- A call that ends before it asks for the lock is one for the card and turned away, and as one too
many only if the session is live. -/
theorem refused_of_asking {request : Request} {error : SessionError}
    {before after : List SessionEvent} (move : Move (.asking call request) session last final)
    (told : final.history = session.history ++ (before ++ .ended call (.error error) :: after)) :
    error.isRefusal = true ∧ request.usesCard = true ∧
      (error = .alreadyActive → session.live = true ∧ ∃ purpose, request = .start purpose) := by
  cases move with
  | refuseRadio | refuseEmpty =>
      rw [history_emit, List.append_cancel_left_eq] at told
      cases before <;> simp at told
      rw [← told.1]
      exact ⟨rfl, rfl, fun impossible => by cases impossible⟩
  | refuseLive call purpose live =>
      rw [history_emit, List.append_cancel_left_eq] at told
      cases before <;> simp at told
      rw [← told.1]
      exact ⟨rfl, rfl, fun _ => ⟨live, purpose, rfl⟩⟩
  | lineFinish =>
      rw [history_hangUp, List.append_cancel_left_eq] at told
      have aside := isAside_hangingUp session _ (.ended call (.error error)) (by rw [told]; simp)
      cases aside
  | report bridge notice hears => cases hears
  | _ => simp at told

theorem Concludes.of_grows {middle : Session} (concludes : Concludes middle final call outcome)
    (grows : session.history <+: middle.history) : Concludes session final call outcome := by
  obtain ⟨new, told, ended⟩ := concludes
  obtain ⟨earlier, grown⟩ := grows
  exact ⟨earlier ++ new, by rw [told, ← grown, List.append_assoc], List.mem_append_right _ ended⟩

theorem concludes_conclude (session : Session) (call : CallId) (outcome : Outcome) :
    Concludes session (session.conclude call outcome) call outcome :=
  ⟨_, (conclude_fields session call outcome).2.2.2.2.2.2.2.2.2.2, by simp⟩

theorem concludes_fail (session : Session) (call : CallId) (error : SessionError) :
    Concludes session (session.fail call error) call (.error error) :=
  (concludes_conclude _ call _).of_grows (by simp)

/-- A call comes to its end by giving the lock up, unless it is one for the card that was turned
away before it asked for the lock. -/
theorem Concludes.leaves (reached : Reached .outside session) {stimulus : Stimulus}
    (concludes : Concludes session (session.step stimulus) call outcome) :
    (Outcome.isRefusal outcome = true ∧ ∃ request,
      asked (session.step stimulus).history call = [request] ∧ request.usesCard = true) ∨
      ∃ before working leaving, Moves .outside session before working ∧
        Move before working (.leaving call outcome) leaving ∧
        session.step stimulus = leaving.conclude call outcome := by
  obtain ⟨new, grown, member⟩ := concludes
  rcases step_pass session stimulus with same | pass
  · rw [same, List.self_eq_append_right] at grown
    rw [grown] at member
    cases member
  · obtain ⟨first, after, rfl⟩ := List.append_of_mem member
    obtain ⟨between, middle, next, result, first, mid, rest, later, moves, move, here, rfl, there,
      rfl, ends⟩ := pass.records reached grown
    have between := reached.trans moves
    rcases between.sound.moment move there with rfl | ⟨request, error, rfl, rfl⟩
    · right
      cases moves with
      | tail before last =>
          cases move with
          | leave call outcome =>
              rcases ends with ⟨_, same, _⟩ | ⟨runs, _⟩
              · exact ⟨_, _, _, before, last, same.symm⟩
              · cases runs
          | report bridge notice hears => cases hears
    · obtain ⟨refusal, uses, _⟩ := refused_of_asking move there
      have fresh : Fresh middle.history call request := between.served.running
      have after := reached.trans pass.moves
      refine .inl ⟨refusal, request, asked_of_prefix fresh.asked (after.served.fair call) ?_, uses⟩
      rw [grown, here]
      exact ⟨_, by simp; rfl⟩

/-- A call for the card leaves the session connected if it ends well or by a verdict of the card. -/
theorem Concludes.connected (reached : Reached .outside session) {stimulus : Stimulus}
    {request : Request} (concludes : Concludes session (session.step stimulus) call outcome)
    (made : SessionEvent.called call request ∈ (session.step stimulus).history)
    (uses : request.usesCard = true) (keepsConnection : Outcome.keepsConnection outcome = true) :
    (session.step stimulus).phase = .connected ∧
      (session.step stimulus).connection.isSome = true := by
  have accepted : Outcome.isRefusal outcome = false := by
    rcases outcome with error | value
    · cases error <;> first | rfl | cases keepsConnection
    · rfl
  rcases concludes.leaves reached with ⟨refusal, _⟩ | ⟨before, working, leaving, moves, move, same⟩
  · rw [refusal] at accepted
    cases accepted
  have there := reached.trans moves
  have reached' := there.trans (.single move)
  suffices phase : leaving.phase = .connected by
    have carded : leaving.connection.isSome = true := by
      rw [reached'.sound.coherent.connection, phase]
      rfl
    rw [same]
    exact ⟨by simpa using phase, by simpa using carded⟩
  -- A call that got to its job was made for it.
  have served : ∀ job, before = .holding call job → request.job? = some job := by
    rintro job rfl
    rw [same] at made
    obtain ⟨own, fresh, serves⟩ := there.served.running
    have fair := reached'.served.fair call
    have asked := asked_of_prefix fresh.asked fair (there.grows (.single move))
    rw [(fair.own (by simpa using made)).1, List.singleton_inj] at asked
    rw [asked]
    exact serves.job?
  cases move with
  | deny | unconnected => cases keepsConnection
  | finish | look =>
      have job := served _ rfl
      cases request <;> simp [Request.usesCard, Request.job?] at uses job
  | attachStart => rfl
  | answerLast call tag bytes response pending
  | answerFault call tag chain bytes response fault pending =>
      have fits := there.sound.fits
      rw [Point.place, place_of_stage (there.lined.holder_of_stage pending (by simp)) pending]
        at fits
      exact fits.1
  | fail call error =>
      have failing := there.failing.2.1
      have spared : error.keepsConnection = true := keepsConnection
      rw [failing] at spared
      cases spared
  | report bridge notice hears => cases hears

theorem dismissals_hangingUp (session : Session) (farewell : Option String) :
    (session.hangingUp farewell).filter (·.isDismissal) =
      (session.slot.map fun _ => SessionEvent.dismissed farewell).toList := by
  unfold hangingUp closing
  cases session.slot with
  | none => rfl
  | some bridge => dsimp only; split <;> rfl

/-- A call that ends by another failure takes the session down and tells the radio why. -/
theorem Concludes.broken (reached : Reached .outside session) {stimulus : Stimulus}
    {error : SessionError}
    (concludes : Concludes session (session.step stimulus) call (.error error))
    (accepted : error.isRefusal = false) (spent : error.keepsConnection = false) :
    EndedByError session (session.step stimulus) call error := by
  rcases concludes.leaves reached with ⟨refusal, _⟩ | ⟨before, working, leaving, moves, move, same⟩
  · have refused : error.isRefusal = true := refusal
    rw [accepted] at refused
    cases refused
  cases move with
  | deny | unconnected => cases accepted
  | answerFault => cases spent
  | fail call error =>
      rw [same]
      refine ⟨down_fail (reached.trans moves).failing.2.2, working,
        working.hangingUp error.farewell ++ (working.lock.release.holder.toList.map .granted ++
          [.ended call (.error error)]), moves, by simp, ?_⟩
      rw [List.filter_append, dismissals_hangingUp, SessionError.farewell_eq]
      cases working.lock.release.holder <;> simp [SessionEvent.isDismissal]
  | report bridge notice hears => cases hears

/-- The call has not touched the session so far, or it is not turned away any more. -/
def UntouchedOrEngaged (session final : Session) (call : CallId) : Prop :=
  Untouched session final ∨ Engaged call .outside final ∨ EndedUnrefused final.history call

theorem Unchanged.refl (session : Session) : Unchanged session session :=
  ⟨rfl, rfl, rfl, rfl, rfl, rfl, rfl⟩

theorem Unchanged.trans {middle : Session} (first : Unchanged session middle)
    (second : Unchanged middle final) : Unchanged session final :=
  ⟨second.phase.trans first.phase, second.purpose.trans first.purpose,
    second.connection.trans first.connection, second.held.trans first.held,
    second.slot.trans first.slot, second.live.trans first.live,
    second.bridges.trans first.bridges⟩

theorem Unchanged.recorded (session : Session) (lock : Lock) (calls : List (CallId × Stage))
    (issued : Nat) (history : List SessionEvent) :
    Unchanged session
      { session with lock := lock, calls := calls, issued := issued, history := history } :=
  ⟨rfl, rfl, rfl, rfl, rfl, rfl, rfl⟩

theorem Unchanged.release (session : Session) : Unchanged session session.release := by
  rw [release_eq]
  exact .recorded session _ _ _ _

theorem Untouched.refl (session : Session) : Untouched session session :=
  ⟨.refl session, [], by simp, by simp⟩

theorem Untouched.trans {middle : Session} (first : Untouched session middle)
    (second : Untouched middle final) : Untouched session final := by
  obtain ⟨one, grown, bookkeeping⟩ := first.bookkeeping
  obtain ⟨two, more, bookkeeping'⟩ := second.bookkeeping
  refine ⟨first.toUnchanged.trans second.toUnchanged, one ++ two, ?_, ?_⟩
  · rw [more, grown, List.append_assoc]
  · exact List.forall_mem_append.mpr ⟨bookkeeping, bookkeeping'⟩

theorem untouched_conclude (session : Session) (call : CallId) (outcome : Outcome) :
    Untouched session (session.conclude call outcome) := by
  refine ⟨.trans (.release session) (.recorded _ _ _ _ _), _,
    (conclude_fields session call outcome).2.2.2.2.2.2.2.2.2.2, ?_⟩
  cases session.lock.release.holder <;> simp [SessionEvent.isBookkeeping]

theorem untouched_ask (session : Session) (request : Request) :
    Untouched session ({ session with issued := session.issued + 1 }.emit
      (.called session.issued request)) :=
  ⟨.recorded session _ _ _ _, [_], rfl, by simp [SessionEvent.isBookkeeping]⟩

theorem untouched_take (session : Session) (call : CallId) :
    Untouched session ({ session.emit (.requested call) with
      lock := session.lock.request call }.emit (.granted call)) :=
  ⟨.recorded session _ _ _ _, [.requested call, .granted call], by simp,
    by simp [SessionEvent.isBookkeeping]⟩

theorem untouched_wait (session : Session) (call : CallId) (job : Job) :
    Untouched session ({ session.emit (.requested call) with
      lock := session.lock.request call }.park call (.queued job)) :=
  ⟨.recorded session _ _ _ _, [_], rfl, by simp [SessionEvent.isBookkeeping]⟩

theorem untouched_ended (session : Session) (call : CallId) (outcome : Outcome) :
    Untouched session (session.emit (.ended call outcome)) :=
  ⟨.recorded session _ _ _ _, [_], rfl, by simp [SessionEvent.isBookkeeping]⟩

theorem Reached.enter_untouchedOrEngaged {job : Job} (reached : Reached (.holding call job) session)
    (around : Surroundings) : UntouchedOrEngaged session (session.enter call job around) call := by
  by_cases admits : session.Admits job
  · exact .inr ((enter_pass session call job around).engaged reached admits)
  · refine .inl ?_
    cases job with
    | start purpose =>
        have live : session.phase.isLive = true := by simpa [Admits] using admits
        simp only [Session.enter, runStart, live, ↓reduceIte]
        exact untouched_conclude ..
    | exchange chain =>
        have elsewhere : session.phase ≠ .connected := admits
        simp only [Session.enter, runExchange, if_pos elsewhere]
        exact untouched_conclude ..
    | finish farewell | look => exact absurd trivial admits

theorem Reached.acquire_untouchedOrEngaged {job : Job}
    (reached : Reached (.lining call job) session)
    (around : Surroundings) :
    UntouchedOrEngaged session (session.acquire call job around) call := by
  unfold Session.acquire
  dsimp only
  split
  · rename_i free
    have holding := reached.trans (.single (.take call job free))
    exact (holding.enter_untouchedOrEngaged around).imp_left (untouched_take session call).trans
  · exact .inl (untouched_wait session call job)

theorem Reached.ask_untouchedOrEngaged (reached : Reached .outside session) {request : Request}
    (uses : request.usesCard = true) (around : Surroundings) :
    UntouchedOrEngaged session (session.ask request around) session.issued := by
  have asking := reached.trans (.single (.ask request))
  have made := untouched_ask session request
  unfold Session.ask
  cases request with
  | start purpose =>
      dsimp only
      split
      · exact .inl (made.trans (untouched_ended ..))
      · split
        · exact .inl (made.trans (untouched_ended ..))
        · rename_i dead
          have lining := asking.trans (.single (.lineStart _ purpose (by simpa using dead)))
          exact (lining.acquire_untouchedOrEngaged around).imp_left made.trans
  | exchange commands =>
      dsimp only
      split
      · exact .inl (made.trans (untouched_ended ..))
      · rename_i chain found
        obtain rfl := Chain.toList_of_ofList? found
        have lining := asking.trans (.single (.lineExchange _ chain))
        exact (lining.acquire_untouchedOrEngaged around).imp_left made.trans
  | finish cause | look => cases uses

/-- A call for the card leaves the session untouched when it is woken, unless it has begun its
work or begins it. -/
theorem Reached.wake_untouchedOrEngaged (reached : Reached .outside session) (signal : Signal)
    (around : Surroundings) :
    UntouchedOrEngaged session (session.wake call signal around) call := by
  by_cases working : ∃ stage, session.stage? call = some stage ∧ ∀ job, stage ≠ .queued job
  · obtain ⟨stage, pending, past⟩ := working
    have engaged : Engaged call .outside session :=
      ⟨reached.lined.holder_of_stage pending past, stage, pending, past⟩
    have moves := step_moves session (.wake call signal around)
    exact .inr (Engaged.moves reached (.inl engaged) moves)
  · cases pending : session.stage? call with
    | none =>
        simp only [Session.wake, pending]
        exact .inl (.refl session)
    | some stage =>
        cases stage with
        | queued job =>
            cases signal with
            | look =>
                simp only [Session.wake, pending]
                split
                · rename_i held
                  exact (reached.trans
                    (.single (.turn call job pending held))).enter_untouchedOrEngaged around
                · exact .inl (.refl session)
            | connected | rested | replied =>
                simp only [Session.wake, pending]
                exact .inl (.refl session)
        | _ => exact absurd ⟨_, pending, by simp⟩ working

/-- What a call does that is turned away in the end leaves the session untouched. -/
theorem Reached.turnedAway (reached : Reached .outside session) {stimulus : Stimulus}
    {request : Request} (later : Moves .outside (session.step stimulus) .outside final)
    (drives : stimulus.drives session call)
    (made : SessionEvent.called call request ∈ final.history) (uses : request.usesCard = true)
    (ended : SessionEvent.ended call outcome ∈ final.history)
    (refusal : Outcome.isRefusal outcome = true) : Untouched session (session.step stimulus) := by
  have after := reached.trans (step_moves session stimulus)
  suffices commits : UntouchedOrEngaged session (session.step stimulus) call by
    refine commits.resolve_right fun fate => ?_
    exact (after.trans later).unrefused (Engaged.moves after fate later) refusal ended
  cases stimulus with
  | call own around =>
      obtain rfl : session.issued = call := drives
      -- The request of the call is the one that it is made with here.
      have asking := reached.trans (.single (.ask own))
      have grows := (asking.grows (asking_pass session own around).moves).trans (after.grows later)
      have again : SessionEvent.called session.issued own ∈ final.history :=
        grows.subset (by simp)
      have fair := (after.trans later).served.fair session.issued
      have same := (fair.own again).1
      rw [(fair.own made).1, List.singleton_inj] at same
      exact reached.ask_untouchedOrEngaged (same ▸ uses) around
  | wake caller signal around =>
      obtain rfl : caller = call := drives
      exact reached.wake_untouchedOrEngaged signal around
  | notice | drop | alert => cases drives

/-- An exchange that has the lock is turned away if the session is not connected, and never is
otherwise. -/
theorem Reached.unconnected {chain : Chain}
    (reached : Reached (.holding call (.exchange chain)) session) (around : Surroundings)
    (later : Moves .outside (session.enter call (.exchange chain) around) .outside final) :
    SessionEvent.ended call (.error .notConnected) ∈ final.history ↔
      session.phase ≠ .connected := by
  have pass := enter_pass session call (.exchange chain) around
  have after := reached.trans pass.moves
  constructor
  · intro ended connected
    have fate := pass.engaged reached connected
    exact (after.trans later).unrefused (Engaged.moves after fate later) rfl ended
  · intro elsewhere
    refine (after.grows later).subset ?_
    simp only [Session.enter, runExchange, if_pos elsewhere]
    simp

theorem Acquires.ready {stimulus : Stimulus} (acquires : Acquires session call stimulus) :
    ∃ ready chain around,
      (stimulus = .call (.exchange chain.toList) around ∨ stimulus = .wake call .look around) ∧
      Moves .outside session (.holding call (.exchange chain)) ready ∧
      Untouched session ready ∧
      session.step stimulus = ready.enter call (.exchange chain) around := by
  cases acquires with
  | made commands around some free same =>
      subst same
      cases commands with
      | nil => exact absurd rfl some
      | cons first rest =>
          refine ⟨_, ⟨first, rest⟩, around, .inl rfl,
            .tail (.tail (.tail .refl (.ask (.exchange (first :: rest))))
              (.lineExchange session.issued ⟨first, rest⟩)) (.take session.issued _ free),
            (untouched_ask session _).trans (untouched_take ..), ?_⟩
          simp [Session.step, Session.ask, Chain.ofList?, Session.acquire, free]
  | handed chain around queued held =>
      refine ⟨session, chain, around, .inr rfl, .single (.turn call _ queued held),
        .refl session, ?_⟩
      simp [Session.step, Session.wake, queued, held]

/-- Whether an exchange is turned away is decided when it gets the lock. -/
theorem Acquires.unconnected (reached : Reached .outside session) {stimulus : Stimulus}
    (acquires : Acquires session call stimulus)
    (later : Moves .outside (session.step stimulus) .outside final) :
    SessionEvent.ended call (.error .notConnected) ∈ final.history ↔
      session.phase ≠ .connected := by
  obtain ⟨ready, chain, around, _, moves, untouched, same⟩ := acquires.ready
  rw [same] at later
  rw [← untouched.phase]
  exact (reached.trans moves).unconnected around later

/-- What every call for the card returns agrees with the session that it leaves behind. -/
theorem run_state_matches_outcome (policy : Policy) (before : List Stimulus) (stimulus : Stimulus) :
    StateMatchesOutcome policy before stimulus := by
  have reached := Reached.run policy before
  have last : (initial policy).run (before ++ [stimulus]) =
      ((initial policy).run before).step stimulus := run_append ..
  refine ⟨?_, ?_, ?_, ?_⟩
  · intro call request outcome concludes made uses keepsConnection
    rw [last] at concludes made ⊢
    exact concludes.connected reached made uses keepsConnection
  · rintro call request error ⟨new, grown, ended⟩ made uses refusal front own back split drives
    have first : (initial policy).run (front ++ [own]) =
        ((initial policy).run front).step own := run_append ..
    have later := run_moves (((initial policy).run front).step own) back
    rw [← run_cons, ← run_append, ← split] at later
    have member : SessionEvent.ended call (.error error) ∈
        ((initial policy).run (before ++ [stimulus])).history := by simp [grown, ended]
    rw [first]
    exact (Reached.run policy front).turnedAway later drives made uses member refusal
  · intro call acquires after
    rw [run_append, run_cons]
    exact acquires.unconnected reached (run_moves _ after)
  · intro call error concludes accepted spent
    rw [last] at concludes ⊢
    exact concludes.broken reached accepted spent

end Session

end Contactless
