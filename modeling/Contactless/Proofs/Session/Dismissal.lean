import Contactless.Proofs.Session.AfterEnding
import Contactless.Proofs.Session.BridgeOrder

/-!
Who dismisses the radio, and what is left to do when somebody has.

A caller that ends the session, a call that fails, a restart and an abandoned call all want to take
the bridge out of the slot. The first one dismisses the radio with its own text, and the others find
the slot empty. To end a session that is over does nothing.
-/

set_option autoImplicit false

namespace Contactless

namespace Session

/-- Why the radio is dismissed with this text, by what has happened before and happens next. -/
inductive DismissalText (before after : List SessionEvent) : Option String → Prop
  /-- A call that ends the session, before it asks for the lock. -/
  | asked (call : CallId) (cause : Option SessionError) (earlier closing : List SessionEvent)
      (made : before = earlier ++ .called call (.finish cause) :: closing)
      (closes : ∀ event ∈ closing, event.closes = true) :
      DismissalText before after (cause.map (·.message))
  /-- A call that ends the session, when it has got the lock. -/
  | inTurn (call : CallId) (cause : Option SessionError)
      (made : SessionEvent.called call (.finish cause) ∈ before)
      (pending : call ∉ departures before) (owner : (grants before).getLast? = some call) :
      DismissalText before after (cause.map (·.message))
  | failed (call : CallId) (error : SessionError) (next : Option CallId)
      (told : next.toList.map .granted ++ [.ended call (.error error)] <+: after) :
      DismissalText before after error.farewell
  | restarted (call : CallId) (bridge : BridgeId) (length : Duration)
      (told : [.opened bridge, .paused call length] <+: after) : DismissalText before after none
  | dropped (call : CallId) (next : Option CallId)
      (told : next.toList.map .granted ++ [.dropped call] <+: after) :
        DismissalText before after none
  | cutShort (cut : CutShort before) : DismissalText before after none

/-- One bridge after the other is opened, closed and dismissed, and each of them once. -/
structure ClosedOncePerOpening (history : List SessionEvent) : Prop where
  closed : ∀ before first mid second after,
    history = before ++ .closed first :: (mid ++ .closed second :: after) → Opened mid
  /-- A radio that has closed its bridge itself while it began to poll is dismissed once more. -/
  dismissed : ∀ before first mid second after,
    history = before ++ .dismissed first :: (mid ++ .dismissed second :: after) →
      Opened mid ∨ CutShort before
  opened : ∀ before first mid second after,
    history = before ++ .opened first :: (mid ++ .opened second :: after) →
      (∃ event ∈ mid, event.closes = true) ∧ ∃ event ∈ mid, event.isDismissal = true
  farewell : ∀ before text after, history = before ++ .dismissed text :: after →
    Opened before ∧ ClosedSinceOpenings before ∧ DismissalText before after text

/-- Nothing is left of the session when it was ended. -/
structure NothingLeft (session : Session) : Prop where
  connection : session.connection = none
  held : session.held = none
  slot : session.slot = none
  closed : ∀ bridge, session.isClosed bridge = true
  live : session.live = false
  phase : session.phase = .idle ∧ (∀ event ∈ session.history, event.opens = false) ∨
    session.phase = .invalidated ∧ Opened session.history

/-- To end the session with any cause changes nothing and leaves the radio alone, when it is asked
for and when a call gets the lock that has asked for it before. -/
structure FinishChangesNothing (session : Session) : Prop where
  asked : ∀ cause around, Untouched session (session.step (.call (.finish cause) around))
  inTurn : ∀ call farewell around, session.stage? call = some (.queued (.finish farewell)) →
    Untouched session (session.step (.wake call .look around))

/-- Every bridge goes once, and to end a session twice is to end it once. -/
structure DismissedOnce (policy : Policy) (before : List Stimulus) (stimulus : Stimulus)
    (after : List Stimulus) : Prop where
  closedOncePerOpening :
    ClosedOncePerOpening ((initial policy).run (before ++ stimulus :: after)).history
  ended : ∀ call cause outcome,
    Concludes ((initial policy).run before) ((initial policy).run (before ++ [stimulus]))
      call outcome →
    SessionEvent.called call (.finish cause) ∈
      ((initial policy).run (before ++ [stimulus])).history →
      outcome = .ok .done ∧ NothingLeft ((initial policy).run (before ++ [stimulus])) ∧
        ∃ new, UnchangedUntilOpened ((initial policy).run (before ++ [stimulus]))
            ((initial policy).run (before ++ stimulus :: after)) new ∧
          ((∀ event ∈ new, event.opens = false) →
            FinishChangesNothing ((initial policy).run (before ++ stimulus :: after)))

variable {point last : Point} {session final : Session}

theorem DismissalText.mono {before after more : List SessionEvent} {text : Option String}
    (farewell : DismissalText before after text) : DismissalText before (after ++ more) text := by
  cases farewell with
  | asked call cause earlier closing made closes =>
      exact .asked call cause earlier closing made closes
  | inTurn call cause made pending owner => exact .inTurn call cause made pending owner
  | failed call error next told =>
      exact .failed call error next (told.trans (List.prefix_append _ _))
  | restarted call bridge length told =>
      exact .restarted call bridge length (told.trans (List.prefix_append _ _))
  | dropped call next told => exact .dropped call next (told.trans (List.prefix_append _ _))
  | cutShort cut => exact .cutShort cut

theorem dismissed_inj {front after mid rest : List SessionEvent} {first second : Option String}
    (told : front ++ .dismissed first :: after = mid ++ .dismissed second :: rest)
    (before : ∀ event ∈ front, event.isDismissal = false)
    (behind : ∀ event ∈ after, event.isDismissal = false) :
    mid = front ∧ second = first ∧ rest = after := by
  rcases List.append_eq_append_iff.mp told with ⟨more, rfl, same⟩ | ⟨more, rfl, same⟩
  · cases more with
    | nil =>
        obtain ⟨one, rfl⟩ := List.cons.inj same
        exact ⟨List.append_nil _, (SessionEvent.dismissed.inj one).symm, rfl⟩
    | cons head more =>
        obtain ⟨_, rfl⟩ := List.cons.inj same
        cases behind (.dismissed second) (by simp)
  · cases more with
    | nil =>
        obtain ⟨one, rfl⟩ := List.cons.inj same
        exact ⟨(List.append_nil _).symm, SessionEvent.dismissed.inj one, rfl⟩
    | cons head more =>
        obtain ⟨rfl, _⟩ := List.cons.inj same
        cases before (.dismissed second) (by simp)

/-- A call that has not asked for the lock yet was made just now. -/
theorem Reached.called_of_asking {call : CallId} {request : Request}
    (reached : Reached (.asking call request) session) :
    [.called call request] <:+ session.history := by
  obtain ⟨before, middle, _, move⟩ := reached.last_move rfl
  cases move with
  | ask request => exact List.suffix_append _ _
  | report bridge notice hears => cases hears

/-- The radio is dismissed by whoever takes the bridge out of the slot. -/
theorem Reached.farewell {stimulus : Stimulus} {before after : List SessionEvent}
    {text : Option String} (reached : Reached .outside session)
    (told : (session.step stimulus).history =
      session.history ++ (before ++ .dismissed text :: after)) :
    DismissalText (session.history ++ before) after text := by
  rcases step_pass session stimulus with same | pass
  · rw [same, List.self_eq_append_right] at told
    simp at told
  obtain ⟨point, middle, next, result, first, mid, rest, later, moves, move, here, rfl, there,
    rfl, ends⟩ := pass.records reached told
  have between := reached.trans moves
  rw [← List.append_assoc, ← here]
  have dismisses : ∀ {new : List SessionEvent}, result.history = middle.history ++ new →
      SessionEvent.dismissed text ∈ new := by
    intro new grown
    rw [there, List.append_cancel_left_eq] at grown
    simp [← grown]
  have loud : ∀ {new : List SessionEvent}, (∀ event ∈ new, event.isBridgeChange = false) →
      SessionEvent.dismissed text ∉ new := fun quiet member => by cases quiet _ member
  cases between.sound.bridgeChange move with
  | quiet new grown quiet => exact absurd (dismisses grown) (loud quiet)
  | opened after grown quiet =>
      exact absurd ((List.mem_cons.mp (dismisses grown)).resolve_left (by simp)) (loud quiet)
  | finished bridge unclosed grown => simpa using dismisses grown
  | cutShort call goal bridge tuning closed grown =>
      subst tuning
      rw [there, List.append_cancel_left_eq] at grown
      have split : [.beginEnded call bridge none] ++ [.dismissed none] =
          mid ++ .dismissed text :: rest := grown.symm
      obtain ⟨rfl, rfl, rfl⟩ := dismissed_inj split (by simp [SessionEvent.isDismissal]) (by simp)
      exact .cutShort (between.cutShort closed)
  | hungUp bridge farewell after hangs filled grown quiet =>
      have calm : ∀ event ∈ middle.closing bridge, event = .closed bridge := fun _ => mem_closing
      have silent : ∀ event ∈ after, event.isDismissal = false := by
        intro event member
        have turn := quiet event member
        cases event <;> first | rfl | cases turn
      rw [there, List.append_cancel_left_eq] at grown
      obtain ⟨rfl, rfl, rfl⟩ :=
        dismissed_inj grown.symm (fun event member => by rw [calm event member]; rfl) silent
      have nobody : departures (middle.closing bridge) = [] ∧ grants (middle.closing bridge) = [] :=
        ⟨List.filterMap_eq_nil_iff.mpr fun event member => by rw [calm event member]; rfl,
          List.filterMap_eq_nil_iff.mpr fun event member => by rw [calm event member]; rfl⟩
      have final : (session.step stimulus).history = result.history ++ later := by
        rw [told, there, here]
        simp
      cases hangs with
      | ask call cause =>
          obtain ⟨earlier, told⟩ := between.called_of_asking
          refine .asked call cause earlier (middle.closing bridge) ?_ fun event member => ?_
          · rw [← told, List.append_assoc, List.singleton_append]
          · rw [calm event member]
            rfl
      | finish call farewell =>
          have held := between.lined.worker call rfl
          obtain ⟨request, fresh, serves⟩ := between.served.running
          cases request with
          | finish cause =>
              obtain rfl : text = cause.map SessionError.message := serves
              refine .inTurn call cause (List.mem_append_left _ ?_) ?_ ?_
              · rw [called_mem, fresh.asked]
                exact List.mem_singleton_self _
              · rw [departures_append, nobody.1, List.append_nil]
                exact fun gone =>
                  (between.departed.2 call gone).line (Lock.mem_line.mpr (.inl held))
              · rw [grants_append, nobody.2, List.append_nil]
                exact between.owner call held
          | start purpose | exchange commands | look => cases serves
      | restart call chain =>
          rcases ends with ⟨impossible, _⟩ | ⟨_, pass⟩
          · cases impossible
          · have empty := (between.trans (.single move)).sound.slot_of_reopening
            refine .restarted call result.nextBridge result.policy.cooldown ?_
            simp only [pass.of_reopening, park_fields, history_emit, history_openBridge _ empty,
              List.append_assoc, List.append_cancel_left_eq] at final
            rw [← final]
            exact List.prefix_rfl
      | fail call error =>
          rcases ends with ⟨impossible, _⟩ | ⟨_, pass⟩
          · cases impossible
          · rw [pass.of_leaving, (conclude_fields _ _ _).2.2.2.2.2.2.2.2.2.2,
              List.append_cancel_left_eq] at final
            rw [← final]
            exact .failed call error _ List.prefix_rfl
      | drop call next => exact .dropped call next (List.prefix_append _ _)

/-- Whoever dismisses the radio in a run does so for one of the reasons. -/
theorem run_dismissalText (policy : Policy) (stimuli : List Stimulus)
    {before after : List SessionEvent} {text : Option String}
    (told : ((initial policy).run stimuli).history = before ++ .dismissed text :: after) :
    DismissalText before after text := by
  obtain ⟨front, own, back, mid, rest, later, _, step, rfl, rfl⟩ := run_split policy stimuli told
  exact ((Reached.run policy front).farewell step).mono

/-- A session is idle until it is started, and never again. -/
theorem idle_of_move (sound : Sound point session) (move : Move point session last final) :
    (final.phase = .idle → session.phase = .idle) ∧
      (session.phase = .idle → final.phase = .idle ∨ final.slot ≠ none) := by
  have fits := sound.fits
  have same : final.phase = session.phase ∨ final.phase = session.phase.shut →
      (final.phase = .idle → session.phase = .idle) ∧
        (session.phase = .idle → final.phase = .idle ∨ final.slot ≠ none) := by
    rintro (same | same) <;> rw [same]
    · exact ⟨id, .inl⟩
    · cases session.phase <;> simp [Phase.shut]
  cases move with
  | start call purpose dead =>
      exact ⟨fun impossible => by simp at impossible, fun _ => .inr (by simp)⟩
  | pause call chain => exact ⟨by simp, fun _ => .inr (by simp)⟩
  | renew call chain bridge connection ready | restart call chain bridge connection ready =>
      simp [ready.phase]
  | attachStart | attachRestart | attachRenew =>
      have phase := fits.1
      simp [connect, reconnect, phase, Goal.phase]
  | finish | fail | dropHolder => exact same (.inr (by simp))
  | _ => exact same (.inl (by simp))

theorem Reached.idle_iff (reached : Reached point session) :
    session.phase = .idle ↔ ∀ event ∈ session.history, event.opens = false := by
  refine reached.induction (motive := fun _ session =>
    session.phase = .idle ↔ ∀ event ∈ session.history, event.opens = false) ?_ ?_
  · intro policy
    exact ⟨fun _ => by simp [initial], fun _ => rfl⟩
  · intro point session last final before opened move
    have after := before.trans (.single move)
    obtain ⟨back, forth⟩ := idle_of_move before.sound move
    obtain ⟨new, grown, moments⟩ := before.sound.moments move
    constructor
    · intro idle event member
      rw [grown] at member
      rcases List.mem_append.mp member with old | recent
      · exact opened.mp (back idle) event old
      · -- Whoever opens a bridge leaves the session live.
        have empty := after.sound.coherent.dead (by rw [idle]; rfl)
        refine Bool.eq_false_iff.mpr fun opens => ?_
        exact (before.sound.bridgeChange move).slot_of_opening grown recent opens empty
    · intro unopened
      rcases forth (opened.mpr fun event member => unopened event (grown ▸ by simp [member])) with
        idle | filled
      · exact idle
      · obtain ⟨event, member, opens⟩ := after.bridgesMatch.1.opened filled
        rw [unopened event member] at opens
        cases opens

/-- To end a session that is over changes nothing. -/
theorem Reached.finishChangesNothing_of_dead (reached : Reached .outside session)
    (dead : session.phase.isLive = false) : FinishChangesNothing session := by
  have coherent := reached.sound.coherent
  have empty := coherent.dead dead
  -- Lock, calls and history do not matter for what is left to do.
  have ends : ∀ (lock : Lock) (calls : List (CallId × Stage)) (issued : Nat)
      (history : List SessionEvent) (call : CallId) (farewell : Option String)
      (around : Surroundings),
      Untouched { session with lock := lock, calls := calls, issued := issued, history := history }
        ({ session with lock := lock, calls := calls, issued := issued, history := history }.enter
          call (.finish farewell) around) := by
    intro lock calls issued history call farewell around
    have same := (Alike.recorded session lock calls issued history).coherent coherent
    rw [Session.enter, same.shutDown_of_dead dead]
    exact untouched_conclude ..
  refine ⟨?_, ?_⟩
  · intro cause around
    simp only [Session.step, Session.ask]
    rw [hangUp_of_empty (by simpa using empty)]
    refine (untouched_ask session (.finish cause)).trans ?_
    unfold Session.acquire
    dsimp only
    split
    · exact (untouched_take _ _).trans (ends _ _ _ _ _ _ _)
    · exact untouched_wait _ _ _
  · intro call farewell around queued
    simp only [Session.step, Session.wake, queued]
    split
    · exact ends session.lock session.calls session.issued session.history call farewell around
    · exact .refl session

theorem Concludes.shut {call : CallId} {cause : Option SessionError} {outcome : Outcome}
    (reached : Reached .outside session) {stimulus : Stimulus}
    (concludes : Concludes session (session.step stimulus) call outcome)
    (made : SessionEvent.called call (.finish cause) ∈ (session.step stimulus).history) :
    outcome = .ok .done ∧ NothingLeft (session.step stimulus) := by
  have after := reached.trans (step_moves session stimulus)
  have own := (after.served.fair call).own made
  rcases concludes.leaves reached with ⟨_, request, asked, uses⟩ |
    ⟨before, working, leaving, moves, move, same⟩
  · rw [own.1, List.singleton_inj] at asked
    rw [← asked] at uses
    cases uses
  have there := reached.trans moves
  have grows : working.history <+: (session.step stimulus).history := by
    rw [same]
    exact (there.grows (.single move)).trans
      ((there.trans (.single move)).grows (.single (.leave _ _)))
  -- A call that got to its job was made for it.
  have ender : ∀ {request : Request}, asked working.history call = [request] →
      request = .finish cause := by
    intro request asked
    have later := asked_of_prefix asked (after.served.fair call) grows
    rw [own.1, List.singleton_inj] at later
    exact later.symm
  have running := there.served.running
  cases move with
  | deny | look | unconnected =>
      obtain ⟨request, fresh, serves⟩ := running
      rw [ender fresh.asked] at serves
      cases serves
  | finish call farewell =>
      have slot : (session.step stimulus).slot = none := by simp [same]
      refine ⟨rfl, by simp [same], by simp [same], slot, ?_, by simp [same], ?_⟩
      · exact fun bridge => after.sound.coherent.finished (by simp [slot])
      · have settled : (session.step stimulus).phase = .idle ∨
            (session.step stimulus).phase = .invalidated := by
          simp only [same, conclude_fields, phase_shutDown]
          cases working.phase <;> simp [Phase.shut]
        rcases settled with idle | invalidated
        · exact .inl ⟨idle, after.idle_iff.mp idle⟩
        · refine .inr ⟨invalidated, Classical.byContradiction fun unopened => ?_⟩
          have idle := after.idle_iff.mpr fun event member =>
            Bool.eq_false_iff.mpr fun opens => unopened ⟨event, member, opens⟩
          rw [idle] at invalidated
          cases invalidated
  | attachStart call bridge tag now =>
      obtain ⟨request, fresh, serves⟩ := running
      rw [ender fresh.asked] at serves
      cases serves
  | answerLast call tag bytes response pending
  | answerFault call tag chain bytes response fault pending =>
      have owes := (there.served.stage call _ pending (by simp [Point.worker?])).1
      cases ender owes
  | fail call error =>
      obtain ⟨request, asked, uses⟩ := there.failing_usesCard
      rw [ender asked] at uses
      cases uses
  | report bridge notice hears => cases hears

theorem run_closedOncePerOpening (policy : Policy) (stimuli : List Stimulus) :
    ClosedOncePerOpening ((initial policy).run stimuli).history := by
  have timely := (Reached.run policy stimuli).bridgesMatch.2
  have law : ∀ {before mid after : List SessionEvent} {first second : SessionEvent},
      ((initial policy).run stimuli).history = before ++ first :: (mid ++ second :: after) →
        InBridgeOrder (before ++ first :: mid) second := by
    intro before mid after first second told
    exact timely.at (by rw [told, List.append_assoc, List.cons_append])
  refine ⟨?_, ?_, ?_, ?_⟩
  · intro before first mid second after told
    exact law told before (.closed first) mid rfl rfl
  · intro before first mid second after told
    by_cases cut : CutShort before
    · exact .inr cut
    · exact .inl ((law told).1 before (.dismissed first) mid rfl ⟨rfl, cut⟩)
  · intro before first mid second after told
    obtain ⟨finished, dismissed⟩ := law told
    exact ⟨finished before (.opened first) mid rfl rfl,
      dismissed before (.opened first) mid rfl rfl⟩
  · intro before text after told
    obtain ⟨_, finished, opened⟩ : InBridgeOrder before (.dismissed text) := timely.at told
    exact ⟨opened, finished, run_dismissalText policy stimuli told⟩

/-- Along every run each bridge goes once, and to end a session that is over does nothing. -/
theorem run_dismissed_once (policy : Policy) (before : List Stimulus) (stimulus : Stimulus)
    (after : List Stimulus) : DismissedOnce policy before stimulus after := by
  have reached := Reached.run policy before
  have here : (initial policy).run (before ++ [stimulus]) =
      ((initial policy).run before).step stimulus := run_append ..
  have all : (initial policy).run (before ++ stimulus :: after) =
      ((initial policy).run (before ++ [stimulus])).run after := by
    rw [here, run_append, run_cons]
  refine ⟨run_closedOncePerOpening policy _, ?_⟩
  intro call cause outcome concludes made
  rw [here] at concludes made
  obtain ⟨rfl, shut⟩ := concludes.shut reached made
  have now := Reached.run policy (before ++ [stimulus])
  rw [← here] at shut
  have dead : ((initial policy).run (before ++ [stimulus])).phase.isLive = false := by
    rcases shut.phase with ⟨phase, _⟩ | ⟨phase, _⟩ <;> rw [phase] <;> rfl
  obtain ⟨new, unchangedUntilOpened⟩ := now.unchangedUntilOpened dead (run_moves _ after)
  rw [all]
  refine ⟨rfl, shut, new, unchangedUntilOpened, fun unopened => ?_⟩
  refine (now.trans (run_moves _ after)).finishChangesNothing_of_dead ?_
  rw [(unchangedUntilOpened.unchanged unopened).phase]
  exact dead

end Session

end Contactless
