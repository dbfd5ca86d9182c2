import Contactless.Proofs.Session.Departure

set_option autoImplicit false

namespace Contactless

/-- A call that waits here with the lock in its hand fails when the slot is empty. -/
def Stage.BoundToFail : Stage → Prop
  | .queued (.exchange _) | .detecting _ _ | .connecting _ _ _ | .resting _ _ => True
  | _ => False

namespace Session

def Point.BoundToFail (session : Session) (call : CallId) : Point → Prop
  | .outside | .asking _ _ | .lining _ _ =>
    ∃ stage, session.stage? call = some stage ∧ stage.BoundToFail
  | .holding worker (.exchange _) | .beginning worker _ _ _ | .polling worker _ _
  | .failing worker _ | .leaving worker (.error _) => worker = call
  | _ => False

/-- The call holds the lock and is bound to fail. -/
structure BoundToFail (call : CallId) (point : Point) (session : Session) : Prop where
  held : session.lock.holder = some call
  empty : session.slot = none
  point : point.BoundToFail session call

/-- The call was dropped or has ended with an error. -/
def Failed (history : List SessionEvent) (call : CallId) : Prop :=
  SessionEvent.dropped call ∈ history ∨
    ∃ error, SessionEvent.ended call (.error error) ∈ history

variable {call : CallId} {last : Point} {session final : Session}

theorem BoundToFail.stay {point : Point} (lost : BoundToFail call point session)
    (holder : final.lock.holder = session.lock.holder) (slot : final.slot = none)
    (there : last.BoundToFail final call) : BoundToFail call last final :=
  ⟨holder.trans lost.held, slot, there⟩

theorem BoundToFail.wait {point : Point} (lost : BoundToFail call point session)
    (nobody : point.worker? = none) (still : last.worker? = none)
    (holder : final.lock.holder = session.lock.holder) (slot : final.slot = none)
    (stages : final.stage? call = session.stage? call) : BoundToFail call last final := by
  refine lost.stay holder slot ?_
  have waits : ∃ stage, session.stage? call = some stage ∧ stage.BoundToFail := by
    have here := lost.point
    cases point <;> first
      | exact here
      | cases nobody
  rw [← stages] at waits
  cases last <;> first
    | exact waits
    | cases still

theorem BoundToFail.closed {point : Point} (lost : BoundToFail call point session)
    (sound : Sound point session) (bridge : BridgeId) : session.isClosed bridge = true :=
  sound.coherent.finished (by simp [lost.empty])

theorem BoundToFail.same {other : CallId} {stage : Stage} (lined : Lined .outside session)
    (lost : BoundToFail call .outside session) (pending : session.stage? other = some stage)
    (working : ∀ job, stage ≠ .queued job) : other = call ∧ stage.BoundToFail := by
  have held := lined.holder_of_stage pending working
  rw [lost.held, Option.some.injEq] at held
  obtain ⟨place, here, bound⟩ := lost.point
  rw [held, pending, Option.some.injEq] at here
  exact ⟨held.symm, here ▸ bound⟩

/-- A call that is bound to fail stays so until it fails or is dropped. -/
theorem BoundToFail.move {point : Point} (lined : Lined point session) (sound : Sound point session)
    (lost : BoundToFail call point session) (move : Move point session last final) :
    BoundToFail call last final ∨ Failed final.history call := by
  -- With the slot empty no bridge is open, so the moves that need one do not apply.
  have closed := lost.closed sound
  have here := lost.point
  cases move with
  | ask | refuseRadio | refuseLive | refuseEmpty | lineStart | lineExchange | lineLook | alert =>
      exact .inl (lost.wait rfl rfl (by simp) (by simpa using lost.empty) rfl)
  | lineFinish other cause => exact .inl (lost.wait rfl rfl (by simp) (by simp) (by simp))
  | take other job free =>
      have held := lost.held
      rw [free] at held
      cases held
  | wait other holder job held =>
      have before := (lined.asker other rfl).2 call (Lock.mem_line.mpr (.inl lost.held))
      refine .inl (lost.wait rfl rfl (by simp [Lock.request_of_held held])
        (by simpa using lost.empty) ?_)
      exact (stage?_park _ call other _).trans (if_neg (Nat.ne_of_lt before))
  | turn other job queued handed =>
      obtain rfl : call = other := Option.some.inj (lost.held.symm.trans handed)
      obtain ⟨stage, pending, bound⟩ := here
      rw [queued, Option.some.injEq] at pending
      subst pending
      cases job with
      | exchange chain => exact .inl (lost.stay rfl lost.empty rfl)
      | start purpose | finish farewell | look => cases bound
  | deny | start | finish | look | pause | beginRefused | beginCut | begun | repolled
  | attachStart | attachRestart | attachRenew | send => cases here
  | unconnected | stale | unattached | tooLate | lost =>
      exact .inl (lost.stay rfl lost.empty here)
  | interrupted | exhaust | halt | foreign =>
      exact .inl (lost.stay (by simp) (by simpa using lost.empty) here)
  | keep other chain bridge connection ready | renew other chain bridge connection ready
  | restart other chain bridge connection ready =>
      have unclosed := ready.unclosed
      rw [closed bridge] at unclosed
      cases unclosed
  | begin other goal bridge prompt unclosed =>
      rw [closed bridge] at unclosed
      cases unclosed
  | rested other bridge chain pending =>
      exact .inl (lost.stay rfl lost.empty (lost.same lined pending (by simp)).1)
  | poll other goal bridge pending =>
      exact .inl (lost.stay rfl lost.empty (lost.same lined pending (by simp)).1)
  | report bridge notice hears =>
      cases last with
      | outside =>
          exact .inl (lost.wait rfl rfl (by simp) (by simpa using lost.empty) (by simp))
      | tuning other goal bridge | repolling other chain bridge => cases here
      | _ => cases hears
  | pend other goal bridge found there nothing =>
      obtain rfl : other = call := here
      exact .inl (lost.stay (by simp) (by simpa using lost.empty)
        ⟨.detecting goal bridge, by simp [stage?_park], trivial⟩)
  | pick other goal bridge found there tags polled tag wallet =>
      obtain rfl : other = call := here
      exact .inl (lost.stay (by simp) (by simpa using lost.empty)
        ⟨.connecting goal bridge tag, by simp [stage?_park], trivial⟩)
  | reject other goal bridge tag fault pending =>
      exact .inl (lost.stay rfl lost.empty (lost.same lined pending (by simp)).1)
  | desert other goal bridge tag pending shut =>
      exact .inl (lost.stay rfl lost.empty (lost.same lined pending (by simp)).1)
  | accept other goal bridge tag pending unclosed =>
      rw [closed bridge] at unclosed
      cases unclosed
  | answerLost other tag rest fault pending | answerShort other tag rest bytes fault pending
  | answerLast other tag bytes response pending
  | answerFault other tag chain bytes response fault pending
  | answerNext other tag chain bytes response pending =>
      exact absurd (lost.same lined pending (by simp)).2 id
  | fail other error => exact .inl (lost.stay (by simp) (by simp) here)
  | leave other outcome =>
      cases outcome with
      | ok value => cases here
      | error error =>
          obtain rfl : other = call := here
          exact .inr (.inr ⟨error, by simp⟩)
  | dropHanded other job queued handed =>
      obtain rfl : call = other := Option.some.inj (lost.held.symm.trans handed)
      exact .inr (.inl (by simp))
  | dropWaiting other job queued waiting =>
      have apart : call ≠ other := by
        rintro rfl
        exact waiting lost.held
      refine .inl (lost.wait rfl rfl (by simp) (by simpa using lost.empty) ?_)
      exact (stage?_forget _ call other).trans (if_neg apart)
  | dropHolder other stage pending working =>
      obtain ⟨rfl, _⟩ := lost.same lined pending working
      exact .inr (.inl (by simp))

theorem BoundToFail.dealings {point : Point} (lined : Lined point session)
    (sound : Sound point session)
    (lost : BoundToFail call point session) (move : Move point session last final) :
    dealings final.history call = dealings session.history call := by
  refine dealings_of_move sound move (lined.issued call (Lock.mem_line.mpr (.inl lost.held))) ?_ ?_
  · rintro tag chain rfl
    exact lost.point
  · rintro rfl tag rest transmitting
    exact (lost.same lined transmitting (by simp)).2

theorem Failed.mono {before after : List SessionEvent} (failed : Failed before call)
    (grows : before <+: after) : Failed after call := by
  rcases failed with dropped | ⟨error, ended⟩
  · exact .inl (grows.subset dropped)
  · exact .inr ⟨error, grows.subset ended⟩

theorem Failed.departed {history : List SessionEvent} (failed : Failed history call) :
    call ∈ departures history := by
  rcases failed with dropped | ⟨error, ended⟩
  · exact List.mem_filterMap.mpr ⟨_, dropped, rfl⟩
  · exact mem_departures ended

/-- The call has sent nothing since, and it is bound to fail or has failed. -/
structure UnsentAndFailing (base : Session) (call : CallId) (point : Point) (session : Session) :
    Prop where
  unsent : sentBy session.history call = sentBy base.history call
  fails : BoundToFail call point session ∨ Failed session.history call

theorem UnsentAndFailing.move {base : Session} {point : Point} (reached : Reached point session)
    (fated : UnsentAndFailing base call point session) (move : Move point session last final) :
    UnsentAndFailing base call last final := by
  obtain ⟨unsent, lost | failed⟩ := fated
  · have same := lost.dealings reached.lined reached.sound move
    exact ⟨(sentBy_congr same).trans unsent, lost.move reached.lined reached.sound move⟩
  · have apart := reached.departed.2 call failed.departed
    have same := apart.dealings reached.lined reached.sound move
    exact ⟨(sentBy_congr same).trans unsent, .inr (failed.mono (reached.grows (.single move)))⟩

/-- Along any number of moves such a call sends nothing and fails in the end. -/
theorem UnsentAndFailing.moves {base : Session} {point : Point} (reached : Reached point session)
    (fated : UnsentAndFailing base call point session) (moves : Moves point session last final) :
    UnsentAndFailing base call last final := by
  induction moves with
  | refl => exact fated
  | tail before move ih => exact ih.move (reached.trans before) move

/-- A call that is bound to fail or has failed never succeeds. -/
theorem Reached.unsuccessful {point : Point} (reached : Reached point session)
    (fate : BoundToFail call point session ∨ Failed session.history call) (value : Value) :
    SessionEvent.ended call (.ok value) ∉ session.history := by
  intro returned
  rcases fate with lost | dropped | ⟨error, ended⟩
  · have apart := reached.departed.2 call (mem_departures returned)
    exact apart.line (Lock.mem_line.mpr (.inl lost.held))
  · have same := reached.leaves_once dropped returned rfl rfl
    cases same
  · have same := reached.leaves_once ended returned rfl rfl
    cases same

def Ended (session : Session) (call : CallId) : Prop :=
  ∃ error, SessionEvent.ended call (.error error) ∈ session.history

theorem ended_conclude (session : Session) (call : CallId) (error : SessionError) :
    (session.conclude call (.error error)).Ended call :=
  ⟨error, by simp⟩

theorem ended_fail (session : Session) (call : CallId) (error : SessionError) :
    (session.fail call error).Ended call :=
  ended_conclude _ call error

theorem ended_runExchange (closed : ∀ bridge, session.isClosed bridge = true) (chain : Chain)
    (around : Surroundings) : (session.runExchange call chain around).Ended call := by
  unfold runExchange
  split
  · exact ended_conclude ..
  · split
    · exact ended_fail ..
    · rename_i bridge held
      split
      · exact ended_fail ..
      · rename_i found here
        have shut : found.closed = true := by simpa [isClosed, here] using closed bridge
        rw [if_pos shut]
        exact ended_fail ..

theorem ended_finishConnect {goal : Goal} {bridge : BridgeId} {tag : Tag}
    (closed : session.isClosed bridge = true) (refusal : Option LinkFault) (now : Int) :
    (session.finishConnect call goal bridge tag refusal now).Ended call := by
  unfold finishConnect
  cases refusal with
  | some fault => exact ended_fail ..
  | none =>
      dsimp only
      rw [if_pos (by simpa using closed)]
      exact ended_fail ..

theorem ended_resume {bridge : BridgeId} (closed : session.isClosed bridge = true)
    (chain : Chain) (around : Surroundings) :
    (session.resume call bridge chain around).Ended call := by
  unfold resume beginPolling
  rw [if_pos closed]
  exact ended_fail ..

theorem poll_of_closed {bridge : TagBridge} (closed : bridge.closed = true) :
    bridge.poll.1 ≠ .pending := by
  unfold Bridge.poll
  split
  · simp
  · simp
  · simp [closed]

/-- A closed bridge has nothing to wait for: the call fails or goes on to connect a card. -/
theorem ended_detect {goal : Goal} {bridge : BridgeId} (closed : session.isClosed bridge = true) :
    (session.detect call goal bridge).Ended call ∨
      (session.detect call goal bridge).isClosed bridge = true ∧
        ∃ tag, (session.detect call goal bridge).stage? call =
          some (.connecting goal bridge tag) := by
  unfold detect
  split
  · exact .inl (ended_fail ..)
  · rename_i found here
    have shut : found.closed = true := by simpa [isClosed, here] using closed
    dsimp only
    split
    · rename_i nothing
      exact absurd nothing (poll_of_closed shut)
    · exact .inl (ended_fail ..)
    · exact .inl (ended_fail ..)
    · split
      · exact .inl (ended_fail ..)
      · rename_i tag wallet
        refine .inr ⟨?_, tag, by simp [stage?_park]⟩
        simpa using (Alike.poll here).closed bridge closed

theorem Ended.run {session : Session} (ended : session.Ended call)
    (reached : Reached .outside session) (stimuli : List Stimulus) :
    (session.run stimuli).Ended call := by
  obtain ⟨error, recorded⟩ := ended
  exact ⟨error, (reached.grows (run_moves session stimuli)).subset recorded⟩

theorem wake_detecting {goal : Goal} {bridge : BridgeId}
    (pending : session.stage? call = some (.detecting goal bridge)) (around : Surroundings) :
    session.wake call .look around = session.detect call goal bridge := by
  simp [wake, pending]

theorem wake_connecting {goal : Goal} {bridge : BridgeId} {tag : Tag}
    (pending : session.stage? call = some (.connecting goal bridge tag))
    (refusal : Option LinkFault) (around : Surroundings) :
    session.wake call (.connected refusal) around =
      session.finishConnect call goal bridge tag refusal around.now := by
  simp [wake, pending]

/-- The lock, the end of a rest and the answer of the radio, in this order. -/
def wakes (call : CallId) (refusal : Option LinkFault) (first second third : Surroundings) :
    List Stimulus :=
  [.wake call .look first, .wake call .rested second, .wake call (.connected refusal) third]

/-- A call that is bound to fail does so when it is woken by what it waits for. -/
theorem BoundToFail.ends (reached : Reached .outside session)
    (lost : BoundToFail call .outside session)
    (refusal : Option LinkFault) (first second third : Surroundings) :
    (session.run (wakes call refusal first second third)).Ended call := by
  have closed := lost.closed reached.sound
  obtain ⟨stage, pending, bound⟩ := lost.point
  have step : ∀ stimulus, Reached .outside (session.step stimulus) :=
    fun stimulus => reached.trans (step_moves session stimulus)
  unfold wakes
  cases stage with
  | queued job =>
      cases job with
      | exchange chain =>
          have ended : (session.step (.wake call .look first)).Ended call := by
            simp only [Session.step, wake, pending, lost.held, ↓reduceIte, enter]
            exact ended_runExchange closed chain first
          exact ended.run (step _) _
      | start purpose | finish farewell | look => cases bound
  | detecting goal bridge =>
      have detected : session.step (.wake call .look first) = session.detect call goal bridge :=
        wake_detecting pending first
      have reached' := step (.wake call .look first)
      rw [run_cons, detected]
      rw [detected] at reached'
      rcases ended_detect (closed bridge) with ended | ⟨shut, tag, connecting⟩
      · exact ended.run reached' _
      · have rests : (session.detect call goal bridge).step (.wake call .rested second) =
            session.detect call goal bridge := by
          simp [Session.step, wake, connecting]
        rw [run_cons, rests, run_cons, run_nil, Session.step, wake_connecting connecting]
        exact ended_finishConnect shut refusal third.now
  | connecting goal bridge tag =>
      have looks : session.step (.wake call .look first) = session := by
        simp [Session.step, wake, pending]
      have rests : session.step (.wake call .rested second) = session := by
        simp [Session.step, wake, pending]
      rw [run_cons, looks, run_cons, rests, run_cons, run_nil, Session.step,
        wake_connecting pending]
      exact ended_finishConnect (closed bridge) refusal third.now
  | resting bridge chain =>
      have looks : session.step (.wake call .look first) = session := by
        simp [Session.step, wake, pending]
      have ended : (session.step (.wake call .rested second)).Ended call := by
        simp only [Session.step, wake, pending]
        exact ended_resume (closed bridge) chain second
      rw [run_cons, looks, run_cons]
      exact ended.run (step _) _
  | transmitting tag rest => cases bound

end Session

end Contactless
