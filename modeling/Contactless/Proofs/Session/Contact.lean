import Contactless.Proofs.Session.Record

set_option autoImplicit false

namespace Contactless

namespace SessionEvent

def opening? : SessionEvent → Option BridgeId
  | .opened bridge => some bridge
  | _ => none

/-- Whether the event is a step towards a connected tag. -/
def isMilestone : SessionEvent → Bool
  | .opened _ | .connecting _ _ _ | .connectEnded _ _ none => true
  | _ => false

end SessionEvent

namespace Session

def milestones (history : List SessionEvent) : List SessionEvent :=
  history.filter (·.isMilestone)

def latest? (history : List SessionEvent) : Option BridgeId :=
  ((milestones history).filterMap (·.opening?)).getLast?

/-- The tag was connected last, over the bridge that was opened last. -/
structure Contacted (history : List SessionEvent) (bridge : BridgeId) (tag : Tag) : Prop where
  latest : latest? history = some bridge
  connected : ∃ call,
    [.connecting call bridge tag, .connectEnded call tag none] <:+ milestones history

end Session

/-- What the history tells of the contact of a call that waits at a stage. -/
def Stage.Contacts (history : List SessionEvent) (call : CallId) : Stage → Prop
  | .queued _ | .transmitting _ _ => True
  | .detecting _ bridge | .resting bridge _ => Session.latest? history = some bridge
  | .connecting _ bridge tag =>
    Session.latest? history = some bridge ∧
      [.connecting call bridge tag] <:+ Session.milestones history

namespace Session

def Point.Contacts (history : List SessionEvent) : Point → Prop
  | .beginning _ _ bridge _ | .tuning _ _ bridge | .repolling _ _ bridge
  | .polling _ _ bridge => latest? history = some bridge
  | .attaching _ _ bridge tag => Contacted history bridge tag
  | _ => True

structure Contact (point : Point) (session : Session) : Prop where
  connected : session.phase = .connected → ∀ connection bridge,
    session.connection = some connection → session.held = some bridge →
      Contacted session.history bridge connection.tag
  stage : ∀ call stage, session.stage? call = some stage → point.worker? ≠ some call →
    stage.Contacts session.history call
  running : point.Contacts session.history

variable {point last : Point} {session final : Session} {history after : List SessionEvent}

theorem milestones_append (first second : List SessionEvent) :
    milestones (first ++ second) = milestones first ++ milestones second :=
  List.filter_append ..

theorem isMilestone_of_aside (event : SessionEvent) (aside : event.isAside = true) :
    event.isMilestone = false := by
  cases event <;> first | rfl | cases aside

@[simp] theorem milestones_hangingUp (session : Session) (farewell : Option String) :
    milestones (session.hangingUp farewell) = [] :=
  filter_of_aside isMilestone_of_aside (isAside_hangingUp session farewell)

@[simp] theorem milestones_granted (next : Option CallId) :
    milestones (next.toList.map .granted) = [] :=
  filter_of_aside isMilestone_of_aside (isAside_granted next)

@[simp] theorem milestones_reporting (session : Session) (bridge : BridgeId)
    (notice : TagNotice) : milestones (session.reporting bridge notice) = [] :=
  filter_of_aside isMilestone_of_aside (isAside_reporting session bridge notice)

section

variable (same : milestones after = milestones history)

include same

theorem latest?_congr : latest? after = latest? history := by
  unfold latest?
  rw [same]

theorem Contacted.congr {bridge : BridgeId} {tag : Tag} (contacted : Contacted history bridge tag) :
    Contacted after bridge tag := by
  refine ⟨(latest?_congr same).trans contacted.latest, ?_⟩
  rw [same]
  exact contacted.connected

theorem contacts_congr {stage : Stage} {call : CallId}
    (contacts : stage.Contacts history call) : stage.Contacts after call := by
  cases stage with
  | queued | transmitting => trivial
  | detecting | resting => exact (latest?_congr same).trans contacts
  | connecting goal bridge tag =>
      refine ⟨(latest?_congr same).trans contacts.1, ?_⟩
      rw [same]
      exact contacts.2

theorem Point.Contacts.congr (contacts : point.Contacts history) : point.Contacts after := by
  cases point with
  | beginning | tuning | repolling | polling => exact (latest?_congr same).trans contacts
  | attaching => exact Contacted.congr same contacts
  | _ => trivial

end

theorem latest?_opened (history : List SessionEvent) (bridge : BridgeId) :
    latest? (history ++ [.opened bridge]) = some bridge := by
  simp [latest?, milestones, SessionEvent.isMilestone, SessionEvent.opening?]

theorem latest?_connecting (history : List SessionEvent) (call : CallId) (bridge : BridgeId)
    (tag : Tag) : latest? (history ++ [.connecting call bridge tag]) = latest? history := by
  simp [latest?, milestones, SessionEvent.isMilestone, SessionEvent.opening?]

theorem Stage.contacted {goal : Goal} {call : CallId} {bridge : BridgeId} {tag : Tag}
    (contacts : (Stage.connecting goal bridge tag).Contacts history call) :
    Contacted (history ++ [.connectEnded call tag none]) bridge tag := by
  obtain ⟨latest, start, told⟩ := contacts
  refine ⟨?_, call, start, ?_⟩
  · rw [← latest]
    simp [latest?, milestones, SessionEvent.isMilestone, SessionEvent.opening?]
  · rw [milestones_append, ← told, List.append_assoc]
    rfl

/-- Nobody waits past the line while another call holds the lock. -/
theorem Lined.queued (lined : Lined point session) {call other : CallId}
    (held : session.lock.holder = some call) (apart : other ≠ call) {stage : Stage}
    (pending : session.stage? other = some stage) : ∃ job, stage = .queued job := by
  refine Classical.byContradiction fun working => apart ?_
  have holds := lined.holder_of_stage pending fun job same => working ⟨job, same⟩
  exact Option.some.inj (holds.symm.trans held)

theorem Contact.act {call : CallId} (lined : Lined point session)
    (held : session.lock.holder = some call)
    (stages : ∀ other, other ≠ call → final.stage? other = session.stage? other)
    (own : ∀ stage, final.stage? call = some stage → last.worker? ≠ some call →
      stage.Contacts final.history call)
    (connected : final.phase = .connected → ∀ connection bridge,
      final.connection = some connection → final.held = some bridge →
        Contacted final.history bridge connection.tag)
    (running : last.Contacts final.history) : Contact last final := by
  refine ⟨connected, ?_, running⟩
  intro other stage pending idle
  by_cases same : other = call
  · rw [same] at pending idle ⊢
    exact own stage pending idle
  · rw [stages other same] at pending
    obtain ⟨job, rfl⟩ := lined.queued held same pending
    trivial

theorem Contact.quiet (contact : Contact point session)
    (same : milestones final.history = milestones session.history)
    (kept : final.phase = .connected → session.phase = .connected ∧
      final.connection = session.connection ∧ final.held = session.held)
    (stage : ∀ call stage, final.stage? call = some stage → last.worker? ≠ some call →
      stage.Contacts session.history call)
    (running : last.Contacts session.history) : Contact last final := by
  refine ⟨?_, fun call place pending idle => contacts_congr same (stage call place pending idle),
    running.congr same⟩
  intro connected connection bridge attached held
  obtain ⟨before, kept, reads⟩ := kept connected
  rw [kept] at attached
  rw [reads] at held
  exact (contact.connected before connection bridge attached held).congr same

theorem Contact.still (contact : Contact point session)
    (same : milestones final.history = milestones session.history)
    (kept : final.phase = .connected → session.phase = .connected ∧
      final.connection = session.connection ∧ final.held = session.held)
    (stages : ∀ call, final.stage? call = session.stage? call)
    (working : point.worker? = none ∨ point.worker? = last.worker?)
    (running : last.Contacts session.history) : Contact last final := by
  refine contact.quiet same kept ?_ running
  intro call stage pending idle
  rw [stages] at pending
  refine contact.stage call stage pending ?_
  rcases working with nobody | same
  · simp [nobody]
  · rw [same]
    exact idle

theorem Contact.leave (contact : Contact point session) (call : CallId)
    (same : milestones final.history = milestones session.history)
    (kept : final.phase = .connected → session.phase = .connected ∧
      final.connection = session.connection ∧ final.held = session.held)
    (idle : point.worker? = none ∨ point.worker? = some call)
    (stages : ∀ other, final.stage? other =
      if other = call then none else session.stage? other) : Contact .outside final := by
  refine contact.quiet same kept ?_ trivial
  intro other stage pending _
  rw [stages] at pending
  by_cases gone : other = call
  · rw [if_pos gone] at pending
    cases pending
  · rw [if_neg gone] at pending
    refine contact.stage other stage pending ?_
    rcases idle with nobody | alone
    · simp [nobody]
    · simpa [alone] using Ne.symm gone

theorem Contact.park {call : CallId} (contact : Contact point session) (lined : Lined point session)
    (working : point.worker? = some call)
    (same : milestones final.history = milestones session.history)
    (kept : final.phase = .connected → session.phase = .connected ∧
      final.connection = session.connection ∧ final.held = session.held)
    (stage : Stage) (stages : ∀ other, final.stage? other =
      if other = call then some stage else session.stage? other)
    (contacts : stage.Contacts session.history call) : Contact .outside final := by
  refine contact.quiet same kept ?_ trivial
  intro other place pending _
  rw [stages] at pending
  by_cases own : other = call
  · rw [if_pos own, Option.some.injEq] at pending
    rw [own, ← pending]
    exact contacts
  · rw [if_neg own] at pending
    obtain ⟨job, rfl⟩ := lined.queued (lined.worker call working) own pending
    trivial

theorem Sound.not_connected {goal : Goal} {bridge : BridgeId} (sound : Sound point session)
    (detecting : point.place session = .detecting goal bridge) : session.phase ≠ .connected := by
  have fits := sound.fits
  rw [detecting] at fits
  rw [fits.1]
  cases goal <;> simp [Goal.phase]

/-- The history tells at every point whom the session is in contact with. -/
theorem Contact.move (lined : Lined point session) (sound : Sound point session)
    (contact : Contact point session) (move : Move point session last final) :
    Contact last final := by
  have running := contact.running
  have kept := fun (elsewhere : point.attaches = false) connected =>
    (kept_of_move move connected).resolve_right (by simp [elsewhere])
  cases move with
  | ask | refuseRadio | refuseLive | refuseEmpty | lineStart | lineExchange | lineLook | alert
  | take | turn | reject | answerLost | answerShort | answerLast | answerFault | answerNext =>
      exact contact.still (by simp [milestones, SessionEvent.isMilestone]) (kept rfl)
        (fun _ => rfl) (.inl rfl) trivial
  | deny | look | unconnected | stale | unattached | keep | tooLate | lost | interrupted
  | exhaust | halt =>
      exact contact.still rfl (kept rfl) (fun _ => rfl) (.inr rfl) trivial
  | beginRefused | beginCut | foreign =>
      exact contact.still (by simp [milestones, SessionEvent.isMilestone]) (kept rfl)
        (fun _ => rfl) (.inr rfl) trivial
  | begin | begun | repolled =>
      exact contact.still (by simp [milestones, SessionEvent.isMilestone]) (kept rfl)
        (fun _ => rfl) (.inr rfl) running
  | lineFinish | finish | fail =>
      exact contact.still (by simp [milestones_append]) (kept rfl) (by simp) (.inr rfl) trivial
  | restart =>
      exact contact.still (by simp [milestones_append]) (kept rfl)
        (fun other => stage?_hangUp _ none other) (.inr rfl) trivial
  | report bridge notice hears =>
      have elsewhere : point.attaches = false := by
        cases point <;> first
          | rfl
          | cases hears
      exact contact.still (by simp [milestones_append]) (kept elsewhere) (by simp)
        (.inr rfl) running
  | rested call bridge chain pending =>
      have awaiting := contact.stage call _ pending (by simp [Point.worker?])
      exact contact.still rfl (kept rfl) (fun _ => rfl) (.inl rfl) awaiting
  | poll call goal bridge pending =>
      have awaiting := contact.stage call _ pending (by simp [Point.worker?])
      exact contact.still rfl (kept rfl) (fun _ => rfl) (.inl rfl) awaiting
  | renew call chain bridge connection ready now old =>
      have contacted := contact.connected ready.phase connection bridge ready.connection ready.held
      exact contact.still (by simp [milestones, SessionEvent.isMilestone]) (kept rfl)
        (fun _ => rfl) (.inr rfl) contacted.latest
  | wait call holder job held =>
      refine contact.quiet (by simp [milestones, SessionEvent.isMilestone]) (kept rfl) ?_ trivial
      intro other stage pending _
      have pending := (stage?_park _ other call (.queued job)).symm.trans pending
      by_cases own : other = call
      · rw [if_pos own, Option.some.injEq] at pending
        rw [← pending]
        trivial
      · rw [if_neg own] at pending
        exact contact.stage other stage pending (by simp [Point.worker?])
  | start call purpose dead =>
      have empty : session.slot = none := sound.coherent.dead dead
      refine .act lined (lined.worker call rfl) (fun other _ => stage?_openBridge _ other)
        (fun _ _ idle => absurd rfl idle) (by simp) ?_
      refine (congrArg latest? ?_).trans (latest?_opened session.history session.nextBridge)
      exact history_openBridge _ empty
  | pause call chain =>
      have empty := sound.slot_of_reopening
      have phase : session.phase = .restarting := sound.fits.1
      refine .act lined (lined.worker call rfl) (fun other apart => by simp [stage?_park, apart])
        ?_ (by simp [phase]) trivial
      intro stage pending _
      obtain rfl : .resting session.nextBridge chain = stage := by
        simpa [stage?_park] using pending
      refine (latest?_congr ?_).trans (latest?_opened session.history session.nextBridge)
      simp [history_openBridge session empty, milestones, SessionEvent.isMilestone]
  | pend call goal bridge found here nothing =>
      exact contact.park lined rfl rfl (kept rfl) (.detecting goal bridge)
        (by simp [stage?_park]) running
  | pick call goal bridge found here tags polled tag wallet =>
      refine .act lined (lined.worker call rfl) (fun other apart => by simp [stage?_park, apart])
        ?_ (fun connected => absurd connected (sound.not_connected rfl)) trivial
      intro stage pending _
      obtain rfl : .connecting goal bridge tag = stage := by simpa [stage?_park] using pending
      refine ⟨?_, milestones session.history, ?_⟩
      · refine (latest?_congr ?_).trans ((latest?_connecting session.history call bridge tag).trans
          running)
        simp [milestones, SessionEvent.isMilestone]
      · simp [milestones, SessionEvent.isMilestone]
  | desert call goal bridge tag pending =>
      have held := lined.holder_of_stage pending (by simp)
      exact .act lined held (fun _ _ => rfl) (fun _ _ idle => absurd rfl idle)
        (fun connected => absurd connected (sound.not_connected (place_of_stage held pending)))
        trivial
  | accept call goal bridge tag pending =>
      have held := lined.holder_of_stage pending (by simp)
      have contacted := Stage.contacted (contact.stage call _ pending (by simp [Point.worker?]))
      refine .act lined held (fun _ _ => rfl) (fun _ _ idle => absurd rfl idle)
        (fun connected => absurd connected (sound.not_connected (place_of_stage held pending)))
        (Contacted.congr ?_ contacted)
      simp [milestones, SessionEvent.isMilestone]
  | attachStart call bridge tag now | attachRestart call chain bridge tag now =>
      refine .act lined (lined.worker call rfl) (fun _ _ => rfl) (fun _ _ idle => absurd rfl idle)
        ?_ trivial
      rintro _ connection other ⟨⟩ ⟨⟩
      exact Contacted.congr (by simp [connect, milestones, SessionEvent.isMilestone]) running
  | attachRenew call chain bridge tag now =>
      refine .act lined (lined.worker call rfl) (fun _ _ => rfl) (fun _ _ idle => absurd rfl idle)
        ?_ trivial
      intro _ connection other attached held
      obtain ⟨_, _, reads⟩ : session.phase = .renewing ∧ session.Uses bridge ∧
        (Phase.renewing.hasCard = true → session.held = some bridge) := sound.fits
      obtain rfl : bridge = other := Option.some.inj ((reads rfl).symm.trans held)
      obtain ⟨older, _, rfl⟩ := Option.map_eq_some_iff.mp attached
      exact Contacted.congr (by simp [reconnect, milestones, SessionEvent.isMilestone]) running
  | send call tag chain =>
      exact contact.park lined rfl (by simp [milestones, SessionEvent.isMilestone]) (kept rfl)
        (.transmitting tag chain.rest) (by simp [Session.send, stage?_park]) trivial
  | leave call outcome =>
      exact contact.leave call (by simp [milestones_append]; rfl) (kept rfl) (.inr rfl) (by simp)
  | dropHanded call job queued handed =>
      exact contact.leave call (by simp [milestones_append]; rfl) (kept rfl) (.inl rfl)
        (by simp [stage?_forget])
  | dropWaiting call job queued waiting =>
      exact contact.leave call (by simp [milestones_append]; rfl) (kept rfl) (.inl rfl)
        (fun other => stage?_forget _ other call)
  | dropHolder call stage pending working =>
      exact contact.leave call (by simp [milestones_append]; rfl) (kept rfl) (.inl rfl)
        (by simp [stage?_forget])

theorem Contact.initial (policy : Policy) : Contact .outside (Session.initial policy) := by
  refine ⟨?_, ?_, trivial⟩
  · intro impossible
    cases impossible
  · intro call stage pending _
    simp [Session.initial, stage?] at pending

theorem Reached.contact (reached : Reached point session) : Contact point session :=
  reached.induction Contact.initial fun _ _ _ _ reached contact move =>
    contact.move reached.lined reached.sound move

/-- Commands go to the tag that was connected last, over the bridge that was opened last. -/
theorem Reached.contacted_of_sending {call : CallId} {tag : Tag} {chain : Chain}
    (reached : Reached (.sending call tag chain) session) :
    ∃ bridge, session.held = some bridge ∧ Contacted session.history bridge tag := by
  obtain ⟨connected, attached⟩ : session.phase = .connected ∧
    session.connection.map (·.tag) = some tag := reached.sound.fits
  obtain ⟨connection, here, rfl⟩ := Option.map_eq_some_iff.mp attached
  have carded := reached.sound.coherent.held
  rw [connected] at carded
  obtain ⟨bridge, held⟩ := Option.isSome_iff_exists.mp carded
  exact ⟨bridge, held, reached.contact.connected connected connection bridge here held⟩

end Session

end Contactless
