import Contactless.Proofs.Session.Record

/-!
When the radio is open.

A radio session lasts from a begin that the radio accepts to the next time it is dismissed. While
it lasts, its bridge is the one in the slot; so it can always be ended without the lock, and
reports over the bridge of an older radio session are lost.
-/

set_option autoImplicit false

namespace Contactless

/-- The bridge of the radio session that is open after one more event. -/
def SessionEvent.tune (radio : Option BridgeId) : SessionEvent → Option BridgeId
  | .beginEnded _ bridge none => some bridge
  | .dismissed _ => none
  | _ => radio

namespace Session

def radioOf (history : List SessionEvent) : Option BridgeId :=
  history.foldl SessionEvent.tune none

/-- What the holder is at says whether the radio is open. -/
def RadioMatches (session : Session) : Place → Prop
  | .rest | .detecting _ _ | .transmitting _ => radioOf session.history = session.slot
  | .opening _ _ | .reopening => radioOf session.history = none
  | .broken => radioOf session.history = none ∨ radioOf session.history = session.slot

/-- Everybody uses the radio as it wants to be used. -/
structure RadioUsedInOrder (session : Session) : Prop where
  begun : ∀ before call bridge prompt after,
    session.history = before ++ .begun call bridge prompt :: after → radioOf before = none
  repolled : ∀ before call bridge after,
    session.history = before ++ .repolled call bridge :: after → radioOf before = some bridge
  opened : ∀ before bridge after,
    session.history = before ++ .opened bridge :: after → radioOf before = none
  radioMatches : ∀ bridge, radioOf session.history = some bridge →
    session.slot = some bridge ∧ session.phase.isLive = true
  finished : ∀ bridge, bridge < session.bridges.length → session.slot ≠ some bridge →
    ∃ found, session.bridges[bridge]? = some found ∧ found.closed = true
  ignored : ∀ bridge notice, session.slot ≠ some bridge → session.report bridge notice = session

variable {point last : Point} {session final : Session}

@[simp] theorem radioOf_append (first second : List SessionEvent) :
    radioOf (first ++ second) = second.foldl SessionEvent.tune (radioOf first) :=
  List.foldl_append

theorem RadioMatches.known {place : Place} (radioMatches : session.RadioMatches place) :
    radioOf session.history = none ∨ radioOf session.history = session.slot := by
  cases place with
  | rest | detecting goal bridge | transmitting tag => exact .inr radioMatches
  | opening goal bridge | reopening => exact .inl radioMatches
  | broken => exact radioMatches

theorem RadioMatches.congr {place other : Place} (radioMatches : session.RadioMatches place)
    (same : other = place) (radio : radioOf final.history = radioOf session.history)
    (slot : final.slot = session.slot) : final.RadioMatches other := by
  subst same
  cases other <;>
    · unfold RadioMatches at radioMatches ⊢
      rw [radio]
      first
        | exact radioMatches
        | rw [slot]; exact radioMatches

theorem RadioMatches.hungUp {place : Place} (radioMatches : session.RadioMatches place)
    (farewell : Option String)
    (history : final.history = session.history ++ session.hangingUp farewell)
    (slot : final.slot = none) (other : Place) : final.RadioMatches other := by
  have known := radioMatches.known
  have closed : radioOf final.history = none := by
    rw [history, radioOf_append]
    unfold hangingUp
    cases filled : session.slot with
    | none =>
        rw [filled, or_self] at known
        exact known
    | some bridge => simp [SessionEvent.tune]
  cases other with
  | rest | detecting goal bridge | transmitting tag => exact closed.trans slot.symm
  | opening goal bridge | reopening => exact closed
  | broken => exact .inl closed

theorem RadioMatches.broken {place : Place} (radioMatches : session.RadioMatches place)
    (radio : radioOf final.history = radioOf session.history)
    (slot : final.slot = session.slot) : final.RadioMatches .broken := by
  have known := radioMatches.known
  unfold RadioMatches
  rw [radio, slot]
  exact known

@[simp] theorem tune_granted (next : Option CallId) (radio : Option BridgeId) :
    (next.toList.map .granted).foldl SessionEvent.tune radio = radio := by
  cases next <;> rfl

@[simp] theorem tune_reporting (session : Session) (bridge : BridgeId) (notice : TagNotice)
    (radio : Option BridgeId) :
    (session.reporting bridge notice).foldl SessionEvent.tune radio = radio := by
  unfold reporting
  split
  · rfl
  · cases notice <;> rfl

/-- After every move the radio is open or closed as the holder needs it. -/
theorem radioMatches_move (lined : Lined point session) (sound : Sound point session)
    (radioMatches : session.RadioMatches (point.place session))
    (move : Move point session last final) :
    final.RadioMatches (last.place final) := by
  have reach : ∀ {call : CallId} {stage : Stage}, point = .outside →
      session.stage? call = some stage → (∀ job, stage ≠ .queued job) →
      session.RadioMatches (placeOf stage) := by
    rintro call stage rfl pending working
    rw [← place_of_stage (lined.holder_of_stage pending working) pending]
    exact radioMatches
  cases move with
  | ask | refuseRadio | refuseLive | refuseEmpty | alert | begin =>
      exact radioMatches.congr rfl (radioOf_append _ _) rfl
  | lineStart | lineExchange | lineLook | deny | look | unconnected | repolled => exact radioMatches
  | lineFinish call cause => exact radioMatches.hungUp (cause.map (·.message)) (by simp) (by simp) _
  | take call job free =>
      have rests : session.place = .rest := by simp [place, free]
      exact radioMatches.congr rests.symm (by simp [SessionEvent.tune]) rfl
  | wait call holder job held =>
      exact radioMatches.congr
        (place_wait lined held (by simp) (fun other => stage?_park _ other call _))
        (by simp [SessionEvent.tune]) rfl
  | turn call job queued handed =>
      rw [Point.place, place_of_stage handed queued] at radioMatches
      exact radioMatches
  | start call purpose dead =>
      have empty : session.slot = none := sound.coherent.dead dead
      have quiet : radioOf session.history = session.slot := radioMatches
      show radioOf _ = none
      simp [history_openBridge, empty, quiet, SessionEvent.tune]
  | finish call farewell => exact radioMatches.hungUp farewell (by simp) (by simp) _
  | fail call error => exact radioMatches.hungUp error.farewell (by simp) (by simp) _
  | stale | unattached | tooLate | lost => exact radioMatches.broken rfl rfl
  | interrupted | exhaust | halt => exact radioMatches.broken (by simp) (by simp)
  | foreign => exact radioMatches.broken (by simp [SessionEvent.tune]) (by simp)
  | keep => exact radioMatches
  | renew call chain bridge connection ready now old =>
      have rests : session.RadioMatches (.detecting (.renew chain) bridge) := radioMatches
      exact rests.congr rfl (by simp [SessionEvent.tune]) (by simp)
  | restart call chain bridge connection ready now aged =>
      exact radioMatches.hungUp none (by rw [history_hangUp]; rfl) (by simp) .reopening
  | pause call chain =>
      have empty := sound.slot_of_reopening
      have quiet : radioOf session.history = none := radioMatches
      rw [Point.place, place_park (by simpa using lined.worker call rfl)]
      show radioOf _ = none
      simp [history_openBridge, empty, quiet, SessionEvent.tune]
  | rested call bridge chain resting => exact reach rfl resting (by simp)
  | report bridge notice hears =>
      exact radioMatches.congr (point.place_report session bridge notice) (by simp) (by simp)
  | beginRefused call goal bridge fault => exact radioMatches.broken (radioOf_append _ _) rfl
  | beginCut call goal bridge closed => exact .inl (by simp [SessionEvent.tune])
  | begun call goal bridge unclosed =>
      have filled := sound.coherent.unclosed bridge unclosed
      show radioOf _ = session.slot
      simp [filled, SessionEvent.tune]
  | poll call goal bridge detecting => exact reach rfl detecting (by simp)
  | pend call goal bridge found here nothing =>
      exact radioMatches.congr (place_park (by simpa using lined.worker call rfl) _)
        (by simp) (by simp)
  | pick call goal bridge found here tags polled tag wallet =>
      exact radioMatches.congr (place_park (by simpa using lined.worker call rfl) _)
        (by simp [SessionEvent.tune]) (by simp)
  | reject | desert => exact radioMatches.broken (by simp [SessionEvent.tune]) (by simp)
  | accept call goal bridge tag connecting unclosed =>
      exact (reach rfl connecting (by simp)).congr rfl (by simp [SessionEvent.tune]) (by simp)
  | attachStart call bridge tag now =>
      have found : session.RadioMatches .rest := radioMatches
      exact found.congr rfl (by simp [connect, SessionEvent.tune]) (by simp [connect])
  | attachRestart call chain bridge tag now =>
      have found : session.RadioMatches (.transmitting tag) := radioMatches
      exact found.congr rfl (by simp [connect, SessionEvent.tune]) (by simp [connect])
  | attachRenew call chain bridge tag now =>
      have found : session.RadioMatches (.transmitting tag) := radioMatches
      exact found.congr rfl (by simp [reconnect, SessionEvent.tune]) (by simp [reconnect])
  | send call tag chain =>
      exact radioMatches.congr (place_park (by simpa using lined.worker call rfl) _)
        (by simp [SessionEvent.tune]) (by simp)
  | answerLost | answerShort => exact radioMatches.broken (by simp [SessionEvent.tune]) (by simp)
  | answerLast call tag bytes response transmitting read
  | answerFault call tag chain bytes response fault transmitting read failed =>
      have answers : session.RadioMatches .rest := reach rfl transmitting (by simp)
      exact answers.congr rfl (by simp [SessionEvent.tune]) (by simp)
  | answerNext call tag chain bytes response transmitting read succeeded =>
      exact (reach rfl transmitting (by simp)).congr rfl (by simp [SessionEvent.tune]) (by simp)
  | leave call outcome =>
      exact radioMatches.congr (lined.place_release (lined.worker call rfl) (by simp) (by simp))
        (by simp [SessionEvent.tune]) (by simp)
  | dropHanded call job queued handed =>
      rw [Point.place, place_of_stage handed queued] at radioMatches
      exact radioMatches.congr (lined.place_release handed (by simp) (by simp [stage?_forget]))
        (by simp [SessionEvent.tune]) (by simp)
  | dropWaiting call job queued waiting =>
      exact radioMatches.congr (place_leave waiting) (by simp [SessionEvent.tune]) (by simp)
  | dropHolder call stage pending working =>
      have down : (session.shutDown none).RadioMatches .rest :=
        radioMatches.hungUp none (by simp) (by simp) .rest
      exact down.congr (lined.place_release (lined.holder_of_stage pending working) (by simp)
        (by simp [stage?_forget])) (by simp [SessionEvent.tune]) (by simp)

theorem Reached.radioMatches (reached : Reached point session) :
    session.RadioMatches (point.place session) :=
  reached.induction (fun _ => rfl) fun _ _ _ _ before radioMatches move =>
    radioMatches_move before.lined before.sound radioMatches move

/-- Before a radio session begins or a bridge is opened, the radio is closed; before the radio
polls anew, it is open over the same bridge. -/
def RadioReadyFor (before : List SessionEvent) : SessionEvent → Prop
  | .begun _ _ _ | .opened _ => radioOf before = none
  | .repolled _ bridge => radioOf before = some bridge
  | _ => True

theorem Reached.radioReadyFor (reached : Reached point session) :
    Along RadioReadyFor [] session.history := by
  refine Reached.along ?_ reached
  intro point session last mid event reached moment
  have radioMatches := reached.radioMatches
  cases event with
  | begun call bridge prompt =>
      obtain ⟨⟨goal, rfl⟩, _, rfl⟩ := moment
      rw [List.append_nil]
      exact radioMatches
  | repolled call bridge =>
      obtain ⟨chain, connection, rfl, ready, rfl⟩ := moment
      have filled := reached.sound.coherent.unclosed bridge ready.unclosed
      have still : radioOf session.history = session.slot := radioMatches
      simp [RadioReadyFor, SessionEvent.tune, still, filled]
  | opened bridge =>
      obtain ⟨_, empty, rfl, _⟩ := moment
      have closed := radioMatches.known
      rw [empty, or_self] at closed
      rw [List.append_nil]
      exact closed
  | _ => trivial

/-- Bridges are opened only while the slot is empty. -/
theorem Reached.slot_of_opening (reached : Reached point session)
    (move : Move point session last final)
    (opens : session.bridges.length < final.bridges.length) : session.slot = none := by
  cases move with
  | start call purpose dead => exact reached.sound.coherent.dead dead
  | pause call chain => exact reached.sound.slot_of_reopening
  | _ => exact absurd opens (by simp [connect, reconnect])

/-- Along every run the radio is used as it wants to be used, and no bridge that is opened takes
the place of another one. -/
theorem run_radio_used_in_order (policy : Policy) (stimuli : List Stimulus) :
    RadioUsedInOrder ((initial policy).run stimuli) ∧
      ∀ point session last final, Moves .outside (initial policy) point session →
        Move point session last final → session.bridges.length < final.bridges.length →
          session.slot = none := by
  have reached := Reached.run policy stimuli
  have coherent := reached.sound.coherent
  have radioReadyFor := reached.radioReadyFor
  refine ⟨⟨?_, ?_, ?_, ?_, ?_, ?_⟩, ?_⟩
  · exact fun before call bridge prompt after told => radioReadyFor.at told
  · exact fun before call bridge after told => radioReadyFor.at told
  · exact fun before bridge after told => radioReadyFor.at told
  · intro bridge radioMatches
    have filled : ((initial policy).run stimuli).slot = some bridge := by
      rcases reached.radioMatches.known with closed | same
      · rw [closed] at radioMatches
        cases radioMatches
      · rw [← same, radioMatches]
    refine ⟨filled, ?_⟩
    cases live : ((initial policy).run stimuli).phase.isLive with
    | true => rfl
    | false =>
        rw [coherent.dead live] at filled
        cases filled
  · intro bridge opened elsewhere
    have closed := coherent.finished elsewhere
    obtain ⟨found, here⟩ : ∃ found, ((initial policy).run stimuli).bridges[bridge]? = some found :=
      ⟨_, List.getElem?_eq_getElem opened⟩
    refine ⟨found, here, ?_⟩
    simpa [isClosed, here] using closed
  · exact fun bridge notice elsewhere => report_of_closed _ (coherent.finished elsewhere) notice
  · exact fun point session last final moves move opens =>
      Reached.slot_of_opening ⟨policy, moves⟩ move opens

end Session

end Contactless
