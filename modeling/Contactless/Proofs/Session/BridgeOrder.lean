import Contactless.Proofs.Session.Ending
import Contactless.Proofs.Session.Outcome

/-!
How bridges come and go.

One bridge after the other is opened, closed and taken out of the slot, and each of them once.
Whoever takes the bridge out of the slot dismisses the radio. There is one more dismissal: the
radio may close the bridge itself while it begins to poll, and then it is dismissed at once.
-/

set_option autoImplicit false

namespace Contactless

namespace SessionEvent

def closes : SessionEvent → Bool
  | .closed _ => true
  | _ => false

def isBridgeChange : SessionEvent → Bool
  | .opened _ | .closed _ | .dismissed _ => true
  | _ => false

/-- Whether the event may happen while the radio is asked to poll. -/
def isReport : SessionEvent → Bool
  | .closed _ | .noticed _ _ => true
  | _ => false

end SessionEvent

namespace Session

/-- After every event that asks for it there has been one that answers. -/
def FollowedBy (asks : List SessionEvent → SessionEvent → Prop) (answers : SessionEvent → Bool)
    (history : List SessionEvent) : Prop :=
  ∀ before event after, history = before ++ event :: after → asks before event →
    ∃ other ∈ after, answers other = true

def Opened (history : List SessionEvent) : Prop := ∃ event ∈ history, event.opens = true

/-- The radio has begun to poll, and meanwhile it has closed the bridge itself. -/
def CutShort (history : List SessionEvent) : Prop :=
  ∃ earlier call bridge prompt reports,
    history = earlier ++ .begun call bridge prompt :: (reports ++ [.beginEnded call bridge none]) ∧
      SessionEvent.closed bridge ∈ reports ∧ ∀ event ∈ reports, event.isReport = true

/-- Who takes the bridge out of the slot, with which text, where that leads, and what else is
recorded. -/
inductive ClosesSlot : Point → Option String → Point → List SessionEvent → Prop
  | ask (call : CallId) (cause : Option SessionError) :
      ClosesSlot (.asking call (.finish cause)) (cause.map (·.message))
        (.lining call (.finish (cause.map (·.message)))) []
  | finish (call : CallId) (farewell : Option String) :
      ClosesSlot (.holding call (.finish farewell)) farewell (.leaving call (.ok .done)) []
  | restart (call : CallId) (chain : Chain) :
      ClosesSlot (.holding call (.exchange chain)) none (.reopening call chain) []
  | fail (call : CallId) (error : SessionError) :
      ClosesSlot (.failing call error) error.farewell (.leaving call (.error error)) []
  | drop (call : CallId) (next : Option CallId) :
      ClosesSlot .outside none .outside (next.toList.map .granted ++ [.dropped call])

/-- What a move does to the bridges, and what it records of it. -/
inductive BridgeChange (point : Point) (session : Session) (last : Point) (final : Session) : Prop
  | quiet (new : List SessionEvent) (grown : final.history = session.history ++ new)
      (quiet : ∀ event ∈ new, event.isBridgeChange = false) (slot : final.slot = session.slot)
      (closed : ∀ bridge, final.isClosed bridge = session.isClosed bridge)
  | opened (after : List SessionEvent)
      (grown : final.history = session.history ++ .opened session.nextBridge :: after)
      (quiet : ∀ event ∈ after, event.isBridgeChange = false) (empty : session.slot = none)
      (slot : final.slot = some session.nextBridge)
      (unclosed : final.isClosed session.nextBridge = false)
  /-- The radio closes the bridge in the slot. -/
  | finished (bridge : BridgeId) (unclosed : session.isClosed bridge = false)
      (grown : final.history = session.history ++ [.closed bridge])
      (slot : final.slot = session.slot) (closed : final.isClosed bridge = true)
  | hungUp (bridge : BridgeId) (farewell : Option String) (after : List SessionEvent)
      (hangs : ClosesSlot point farewell last after) (filled : session.slot = some bridge)
      (grown : final.history =
        session.history ++ (session.closing bridge ++ .dismissed farewell :: after))
      (quiet : ∀ event ∈ after, event.isBridgeChange = false) (slot : final.slot = none)
  | cutShort (call : CallId) (goal : Goal) (bridge : BridgeId)
      (tuning : point = .tuning call goal bridge) (closed : session.isClosed bridge = true)
      (grown : final.history =
        session.history ++ [.beginEnded call bridge none, .dismissed none])
      (slot : final.slot = session.slot)
      (still : ∀ bridge, final.isClosed bridge = session.isClosed bridge)

def OpenedSinceClosings (history : List SessionEvent) : Prop :=
  FollowedBy (fun _ event => event.closes = true) (·.opens) history

def ClosedSinceOpenings (history : List SessionEvent) : Prop :=
  FollowedBy (fun _ event => event.opens = true) (·.closes) history

/-- After every dismissal a bridge has been opened, unless the radio had closed the bridge itself
while it began to poll. -/
def OpenedSinceDismissals (history : List SessionEvent) : Prop :=
  FollowedBy (fun before event => event.isDismissal = true ∧ ¬ CutShort before) (·.opens) history

def DismissedSinceOpenings (history : List SessionEvent) : Prop :=
  FollowedBy (fun _ event => event.opens = true) (·.isDismissal) history

/-- A bridge comes only after the one before it is gone, and goes only once. -/
def InBridgeOrder (before : List SessionEvent) : SessionEvent → Prop
  | .opened _ => ClosedSinceOpenings before ∧ DismissedSinceOpenings before
  | .closed _ => OpenedSinceClosings before
  | .dismissed _ => OpenedSinceDismissals before ∧ ClosedSinceOpenings before ∧ Opened before
  | _ => True

/-- The radio has begun over the bridge in the slot, and since then only the radio has closed it. -/
structure BegunOverSlot (session : Session) (call : CallId) (bridge : BridgeId) : Prop where
  filled : session.slot = some bridge
  begun : ∃ earlier prompt reports,
    session.history = earlier ++ .begun call bridge prompt :: reports ∧
      (∀ event ∈ reports, event.isReport = true) ∧
      (session.isClosed bridge = true → SessionEvent.closed bridge ∈ reports)

/-- What the bridges tell of the history. -/
structure BridgesMatch (session : Session) : Prop where
  renewed : ∀ bridge, session.isClosed bridge = false → OpenedSinceClosings session.history
  finished : (∀ bridge, session.isClosed bridge = true) → ClosedSinceOpenings session.history
  filledAgain : session.slot ≠ none → OpenedSinceDismissals session.history
  dismissed : session.slot = none → DismissedSinceOpenings session.history
  opened : session.slot ≠ none → Opened session.history

variable {point last : Point} {session final : Session} {history new : List SessionEvent}
  {asks : List SessionEvent → SessionEvent → Prop} {answers : SessionEvent → Bool}

theorem FollowedBy.append (answered : FollowedBy asks answers history)
    (calm : ∀ mid event rest, new = mid ++ event :: rest → ¬ asks (history ++ mid) event) :
    FollowedBy asks answers (history ++ new) := by
  intro before event after told asked
  rcases List.append_eq_append_iff.mp told with ⟨mid, rfl, split⟩ | ⟨rest, split, tail⟩
  · exact absurd asked (calm mid event after split)
  · rcases List.cons_eq_append_iff.mp tail with ⟨rfl, same⟩ | ⟨earlier, rfl, same⟩
    · rw [List.append_nil] at split
      subst split
      have here := calm [] event after same
      rw [List.append_nil] at here
      exact absurd asked here
    · obtain ⟨other, member, answer⟩ := answered before event earlier split asked
      exact ⟨other, by rw [same]; exact List.mem_append_left _ member, answer⟩

theorem followedBy_snoc {event : SessionEvent} (answer : answers event = true)
    (calm : ∀ before, ¬ asks before event) : FollowedBy asks answers (history ++ [event]) := by
  intro before asker after told asked
  rcases List.eq_nil_or_concat after with rfl | ⟨front, final, rfl⟩
  · obtain ⟨_, same⟩ := List.append_inj' told rfl
    rw [← List.singleton_inj.mp same] at asked
    exact absurd asked (calm before)
  · rw [List.concat_eq_append] at told ⊢
    rw [← List.cons_append, ← List.append_assoc] at told
    obtain ⟨_, same⟩ := List.append_inj' told rfl
    exact ⟨event, by simp [List.singleton_inj.mp same], answer⟩

theorem followedBy_nil : FollowedBy asks answers [] := by
  intro before event after impossible
  simp at impossible

theorem Opened.append (opened : Opened history) (new : List SessionEvent) :
    Opened (history ++ new) := by
  obtain ⟨event, member, opens⟩ := opened
  exact ⟨event, List.mem_append_left _ member, opens⟩

theorem isBridgeChange_granted (next : Option CallId) :
    ∀ event ∈ next.toList.map SessionEvent.granted, event.isBridgeChange = false := by
  intro event member
  obtain ⟨call, _, rfl⟩ := List.mem_map.mp member
  rfl

theorem mem_closing {bridge : BridgeId} {event : SessionEvent}
    (member : event ∈ session.closing bridge) : event = .closed bridge := by
  unfold closing at member
  split at member
  · cases member
  · exact List.mem_singleton.mp member

theorem BridgeChange.of_hangingUp {farewell : Option String} {after : List SessionEvent}
    (hangs : ClosesSlot point farewell last after)
    (grown : final.history = session.history ++ (session.hangingUp farewell ++ after))
    (quiet : ∀ event ∈ after, event.isBridgeChange = false) (slot : final.slot = none)
    (closed : ∀ bridge, final.isClosed bridge =
      (session.isClosed bridge || decide (session.slot = some bridge))) :
    BridgeChange point session last final := by
  cases filled : session.slot with
  | none =>
      refine .quiet after (by simpa [hangingUp, filled] using grown) quiet
        (slot.trans filled.symm) ?_
      simpa [filled] using closed
  | some bridge =>
      refine .hungUp bridge farewell after hangs filled ?_ quiet slot
      simpa [hangingUp, filled] using grown

theorem Sound.bridgeChange (sound : Sound point session) (move : Move point session last final) :
    BridgeChange point session last final := by
  have polled : ∀ {bridge : BridgeId} {found : TagBridge},
      session.bridges[bridge]? = some found → ∀ other,
        (session.update bridge fun _ => found.poll.2).isClosed other = session.isClosed other := by
    intro bridge found here other
    refine isClosed_update_of_kept session (fun there same => ?_) other
    obtain rfl : found = there := Option.some.inj (here.symm.trans same)
    exact Bridge.closed_poll found
  cases move with
  | lineFinish call cause =>
      exact .of_hangingUp (.ask call cause) (by simp) (by simp) (by simp) (by simp)
  | finish call farewell =>
      exact .of_hangingUp (.finish call farewell) (by simp) (by simp) (by simp) (by simp)
  | fail call error =>
      exact .of_hangingUp (.fail call error) (by simp) (by simp) (by simp) (by simp)
  | restart call chain bridge connection ready now aged =>
      refine .of_hangingUp (.restart call chain) ?_ (by simp) (by simp) (isClosed_hangUp _ none)
      rw [List.append_nil]
      exact history_hangUp _ none
  | dropHolder call stage pending working =>
      refine .of_hangingUp (.drop call session.lock.release.holder) (by simp) ?_ (by simp) (by simp)
      exact List.forall_mem_append.mpr
        ⟨isBridgeChange_granted _, by simp [SessionEvent.isBridgeChange]⟩
  | start call purpose dead =>
      have empty := sound.coherent.dead dead
      refine .opened [] (history_openBridge _ empty) (by simp) empty (by simp; rfl) ?_
      refine (isClosed_openBridge _ (by simpa using empty) _).trans ?_
      exact Bool.and_eq_false_iff.mpr (.inr (decide_eq_false fun apart => apart rfl))
  | pause call chain =>
      have empty := sound.slot_of_reopening
      refine .opened [.paused call session.policy.cooldown] ?_
        (by simp [SessionEvent.isBridgeChange]) empty
        (by simp) ?_
      · simp [history_openBridge session empty]
      · simp [isClosed_openBridge session empty]
  | report bridge notice hears =>
      cases shut : session.isClosed bridge with
      | true =>
          rw [report_of_closed session shut]
          exact .quiet [] (by simp) (by simp) rfl fun _ => rfl
      | false =>
          by_cases ends : notice = .finished
          · subst ends
            refine .finished bridge shut ?_ (by simp) (by simp [isClosed_report])
            simp [reporting, shut]
          · refine .quiet [.noticed bridge notice] ?_
              (by simp [SessionEvent.isBridgeChange]) (by simp) ?_
            · rw [history_report]
              unfold reporting
              cases notice <;> simp_all
            · intro other
              simp [isClosed_report, ends]
  | beginCut call goal bridge closed =>
      exact .cutShort call goal bridge rfl closed (by simp) (by simp) fun _ => rfl
  | interrupted call chain bridge found reason connected held here unclosed unread =>
      refine .quiet [] (by simp) (by simp) (by simp) fun other => ?_
      refine isClosed_update_of_kept session (fun there same => ?_) other
      obtain rfl : found = there := Option.some.inj (here.symm.trans same)
      rfl
  | renew call chain bridge connection ready now old =>
      refine .quiet [.drained call bridge, .repolled call bridge] (by simp)
        (by simp [SessionEvent.isBridgeChange]) (by simp) fun other => ?_
      have kept : ∀ found, session.bridges[bridge]? = some found →
          found.drainStale.closed = found.closed := fun _ _ => rfl
      exact isClosed_update_of_kept { session with phase := .renewing } kept other
  | pend call goal bridge found here nothing =>
      exact .quiet [] (by simp) (by simp) (by simp) (polled here)
  | exhaust call goal bridge found here | halt call goal bridge found here =>
      exact .quiet [] (by simp) (by simp) (by simp) (polled here)
  | foreign call goal bridge found here tags polled' unknown =>
      exact .quiet [.taken call bridge tags] (by simp)
        (by simp [SessionEvent.isBridgeChange]) (by simp)
        (polled here)
  | pick call goal bridge found here tags polled' tag wallet =>
      exact .quiet [.taken call bridge tags, .connecting call bridge tag] (by simp)
        (by simp [SessionEvent.isBridgeChange]) (by simp) (polled here)
  | leave call outcome =>
      refine .quiet (session.lock.release.holder.toList.map .granted ++ [.ended call outcome])
        (by simp) ?_ (by simp) (by simp)
      exact List.forall_mem_append.mpr
        ⟨isBridgeChange_granted _, by simp [SessionEvent.isBridgeChange]⟩
  | dropHanded call job queued handed =>
      refine .quiet (session.lock.release.holder.toList.map .granted ++ [.dropped call])
        (by simp) ?_ (by simp) (by simp)
      exact List.forall_mem_append.mpr
        ⟨isBridgeChange_granted _, by simp [SessionEvent.isBridgeChange]⟩
  | take call job free =>
      exact .quiet [.requested call, .granted call] (by simp)
        (by simp [SessionEvent.isBridgeChange]) rfl
        fun _ => rfl
  | desert call goal bridge tag | accept call goal bridge tag =>
      exact .quiet [.connectEnded call tag none, .acknowledged call] (by simp)
        (by simp [SessionEvent.isBridgeChange]) rfl fun _ => rfl
  | lineStart | lineExchange | lineLook | turn | deny | look | unconnected | stale | unattached
  | keep | rested | tooLate | repolled | poll | lost =>
      exact .quiet [] (by simp) (by simp) rfl fun _ => rfl
  | _ => exact .quiet [_] rfl (by simp [SessionEvent.isBridgeChange]) rfl fun _ => rfl

theorem BridgeChange.slot_of_opening (turn : BridgeChange point session last final)
    (grown : final.history = session.history ++ new) {event : SessionEvent}
    (member : event ∈ new) (opens : event.opens = true) : final.slot ≠ none := by
  obtain ⟨opened, rfl⟩ : ∃ opened, event = .opened opened := by
    cases event <;> first | exact ⟨_, rfl⟩ | cases opens
  have silent : ∀ {events : List SessionEvent}, (∀ other ∈ events, other.isBridgeChange = false) →
      SessionEvent.opened opened ∉ events := fun quiet within => by cases quiet _ within
  cases turn with
  | opened after told quiet empty slot => simp [slot]
  | quiet more told quiet =>
      rw [told, List.append_cancel_left_eq] at grown
      exact absurd (grown ▸ member) (silent quiet)
  | finished bridge unclosed told | cutShort call goal bridge tuning closed told =>
      rw [told, List.append_cancel_left_eq] at grown
      simp [← grown] at member
  | hungUp bridge farewell after hangs filled told quiet =>
      rw [told, List.append_cancel_left_eq] at grown
      rw [← grown] at member
      rcases List.mem_append.mp member with closing | dismissed
      · cases mem_closing closing
      · exact absurd ((List.mem_cons.mp dismissed).resolve_left (by simp)) (silent quiet)

theorem isReport_reporting (session : Session) (bridge : BridgeId) (notice : TagNotice) :
    ∀ event ∈ session.reporting bridge notice, event.isReport = true := by
  unfold reporting
  split
  · simp
  · cases notice <;> simp [SessionEvent.isReport]

theorem BegunOverSlot.report {call : CallId} {bridge : BridgeId}
    (begunOverSlot : BegunOverSlot session call bridge) (other : BridgeId) (notice : TagNotice) :
    BegunOverSlot (session.report other notice) call bridge := by
  obtain ⟨filled, earlier, prompt, reports, told, only, closed⟩ := begunOverSlot
  refine ⟨by simpa using filled, earlier, prompt, reports ++ session.reporting other notice,
    by simp [told], List.forall_mem_append.mpr ⟨only, isReport_reporting _ _ _⟩, fun shut => ?_⟩
  cases before : session.isClosed bridge with
  | true => exact List.mem_append_left _ (closed before)
  | false =>
      rw [isClosed_report, before, Bool.false_or, decide_eq_true_iff] at shut
      obtain ⟨rfl, rfl⟩ := shut
      simp [reporting, before]

theorem Reached.begunOverSlot {call : CallId} {goal : Goal} {bridge : BridgeId}
    (reached : Reached (.tuning call goal bridge) session) : BegunOverSlot session call bridge := by
  suffices every : ∀ point session, Reached point session → point = .tuning call goal bridge →
      BegunOverSlot session call bridge from every _ _ reached rfl
  intro point session reached
  refine reached.induction (motive := fun point session =>
    point = .tuning call goal bridge → BegunOverSlot session call bridge) ?_ ?_
  · intro policy impossible
    cases impossible
  · rintro point session last final before begunOverSlot move rfl
    cases move with
    | begin call goal bridge prompt unclosed =>
        refine ⟨before.sound.coherent.unclosed bridge unclosed, session.history, prompt, [], rfl,
          by simp, fun closed => ?_⟩
        rw [isClosed_emit, unclosed] at closed
        cases closed
    | report other notice hears => exact (begunOverSlot rfl).report other notice

/-- Ending the radio session at once is due to the radio. -/
theorem Reached.cutShort {call : CallId} {goal : Goal} {bridge : BridgeId}
    (reached : Reached (.tuning call goal bridge) session)
    (closed : session.isClosed bridge = true) :
    CutShort (session.history ++ [.beginEnded call bridge none]) := by
  obtain ⟨_, earlier, prompt, reports, told, only, shut⟩ := reached.begunOverSlot
  refine ⟨earlier, call, bridge, prompt, reports, ?_, shut closed, only⟩
  rw [told, List.append_assoc, List.cons_append]

theorem FollowedBy.quiet (answered : FollowedBy asks answers history)
    (quiet : ∀ event ∈ new, event.isBridgeChange = false)
    (turns : ∀ before event, asks before event → event.isBridgeChange = true) :
    FollowedBy asks answers (history ++ new) := by
  refine answered.append ?_
  rintro mid event rest rfl asked
  have turn := turns _ event asked
  rw [quiet event (by simp)] at turn
  cases turn

section

variable (calm : ∀ event ∈ new, event.isBridgeChange = false)

include calm

theorem OpenedSinceClosings.quiet (renewed : OpenedSinceClosings history) :
    OpenedSinceClosings (history ++ new) :=
  FollowedBy.quiet renewed calm fun _ event asked => by cases event <;> first | rfl | cases asked

theorem ClosedSinceOpenings.quiet (finished : ClosedSinceOpenings history) :
    ClosedSinceOpenings (history ++ new) :=
  FollowedBy.quiet finished calm fun _ event asked => by cases event <;> first | rfl | cases asked

theorem OpenedSinceDismissals.quiet (filledAgain : OpenedSinceDismissals history) :
    OpenedSinceDismissals (history ++ new) :=
  FollowedBy.quiet filledAgain calm fun _ event asked => by
    cases event <;> first | rfl | cases asked.1

theorem DismissedSinceOpenings.quiet (dismissed : DismissedSinceOpenings history) :
    DismissedSinceOpenings (history ++ new) :=
  FollowedBy.quiet dismissed calm fun _ event asked => by cases event <;> first | rfl | cases asked

theorem along_quiet (before : List SessionEvent) : Along InBridgeOrder before new := by
  induction new generalizing before with
  | nil => trivial
  | cons event rest ih =>
      refine ⟨?_, ih (fun other member => calm other (List.mem_cons_of_mem _ member)) _⟩
      have silent := calm event (by simp)
      cases event <;> trivial

end

theorem openedSinceClosings_opened (history : List SessionEvent) (bridge : BridgeId) :
    OpenedSinceClosings (history ++ [.opened bridge]) :=
  followedBy_snoc rfl fun _ impossible => by cases impossible

theorem openedSinceDismissals_opened (history : List SessionEvent) (bridge : BridgeId) :
    OpenedSinceDismissals (history ++ [.opened bridge]) :=
  followedBy_snoc rfl fun _ impossible => by cases impossible.1

theorem closedSinceOpenings_closed (history : List SessionEvent) (bridge : BridgeId) :
    ClosedSinceOpenings (history ++ [.closed bridge]) :=
  followedBy_snoc rfl fun _ impossible => by cases impossible

theorem dismissedSinceOpenings_dismissed (history : List SessionEvent) (farewell : Option String) :
    DismissedSinceOpenings (history ++ [.dismissed farewell]) :=
  followedBy_snoc rfl fun _ impossible => by cases impossible

theorem OpenedSinceDismissals.closed (filledAgain : OpenedSinceDismissals history)
    (bridge : BridgeId) :
    OpenedSinceDismissals (history ++ [.closed bridge]) := by
  refine FollowedBy.append filledAgain ?_
  intro mid event rest split asked
  obtain ⟨rfl, rfl, rfl⟩ : mid = [] ∧ .closed bridge = event ∧ [] = rest := by
    cases mid <;> simp_all
  cases asked.1

theorem ClosedSinceOpenings.dismissed (finished : ClosedSinceOpenings history)
    (farewell : Option String) :
    ClosedSinceOpenings (history ++ [.dismissed farewell]) := by
  refine FollowedBy.append finished ?_
  intro mid event rest split asked
  obtain ⟨rfl, rfl, rfl⟩ : mid = [] ∧ .dismissed farewell = event ∧ [] = rest := by
    cases mid <;> simp_all
  cases asked

theorem Coherent.all_closed (coherent : Coherent session) {bridge : BridgeId}
    (slot : session.slot = none ∨ session.slot = some bridge)
    (closed : session.isClosed bridge = true) (other : BridgeId) :
    session.isClosed other = true := by
  cases shut : session.isClosed other with
  | true => rfl
  | false =>
      have filled := coherent.unclosed other shut
      rcases slot with empty | same
      · rw [empty] at filled
        cases filled
      · rw [same, Option.some.injEq] at filled
        rw [← filled, closed] at shut
        cases shut

theorem BridgesMatch.emptied (bridgesMatch : BridgesMatch session) (coherent : Coherent session)
    {bridge : BridgeId} (filled : session.slot = some bridge) :
    ClosedSinceOpenings (session.history ++ session.closing bridge) ∧
      OpenedSinceDismissals (session.history ++ session.closing bridge) ∧
      Along InBridgeOrder session.history (session.closing bridge) := by
  have filledAgain := bridgesMatch.filledAgain (by simp [filled])
  unfold closing
  split
  · rename_i closed
    rw [List.append_nil]
    exact ⟨bridgesMatch.finished (coherent.all_closed (.inr filled) closed), filledAgain, trivial⟩
  · rename_i unclosed
    have unclosed : session.isClosed bridge = false := by simpa using unclosed
    exact ⟨closedSinceOpenings_closed _ bridge, filledAgain.closed bridge,
      bridgesMatch.renewed bridge unclosed, trivial⟩

theorem BridgesMatch.still (bridgesMatch : BridgesMatch session)
    (grown : final.history = session.history ++ new)
    (quiet : ∀ event ∈ new, event.isBridgeChange = false) (slot : final.slot = session.slot)
    (closed : ∀ bridge, final.isClosed bridge = session.isClosed bridge) : BridgesMatch final := by
  refine ⟨?_, ?_, ?_, ?_, ?_⟩ <;> rw [grown]
  · intro bridge unclosed
    exact (bridgesMatch.renewed bridge ((closed bridge).symm.trans unclosed)).quiet quiet
  · intro all
    exact (bridgesMatch.finished fun bridge => (closed bridge).symm.trans (all bridge)).quiet quiet
  · intro filled
    exact (bridgesMatch.filledAgain (slot ▸ filled)).quiet quiet
  · intro empty
    exact (bridgesMatch.dismissed (slot ▸ empty)).quiet quiet
  · intro filled
    exact (bridgesMatch.opened (slot ▸ filled)).append new

theorem BridgesMatch.opening (bridgesMatch : BridgesMatch session) (coherent : Coherent session)
    (grown : final.history = session.history ++ .opened session.nextBridge :: new)
    (quiet : ∀ event ∈ new, event.isBridgeChange = false) (empty : session.slot = none)
    (slot : final.slot = some session.nextBridge)
    (unclosed : final.isClosed session.nextBridge = false) :
    BridgesMatch final ∧
      Along InBridgeOrder session.history (.opened session.nextBridge :: new) := by
  have split : session.history ++ .opened session.nextBridge :: new =
      session.history ++ [.opened session.nextBridge] ++ new := by simp
  have shut : ∀ bridge, session.isClosed bridge = true := fun bridge =>
    coherent.finished (by simp [empty])
  refine ⟨⟨?_, ?_, ?_, ?_, ?_⟩, ⟨bridgesMatch.finished shut, bridgesMatch.dismissed empty⟩,
    along_quiet quiet _⟩ <;> rw [grown, split]
  · exact fun _ _ => (openedSinceClosings_opened _ _).quiet quiet
  · intro all
    rw [all] at unclosed
    cases unclosed
  · exact fun _ => (openedSinceDismissals_opened _ _).quiet quiet
  · intro none
    rw [slot] at none
    cases none
  · exact fun _ => ⟨.opened session.nextBridge, by simp, rfl⟩

theorem BridgesMatch.finishing {bridge : BridgeId} (bridgesMatch : BridgesMatch session)
    (before : Coherent session) (coherent : Coherent final)
    (unclosed : session.isClosed bridge = false)
    (grown : final.history = session.history ++ [.closed bridge])
    (slot : final.slot = session.slot) (closed : final.isClosed bridge = true) :
    BridgesMatch final := by
  have filled := before.unclosed bridge unclosed
  refine ⟨?_, ?_, ?_, ?_, ?_⟩ <;> rw [grown]
  · intro other open'
    rw [coherent.all_closed (.inr (slot.trans filled)) closed other] at open'
    cases open'
  · exact fun _ => closedSinceOpenings_closed _ bridge
  · exact fun full => (bridgesMatch.filledAgain (slot ▸ full)).closed bridge
  · intro empty
    rw [slot, filled] at empty
    cases empty
  · exact fun full => (bridgesMatch.opened (slot ▸ full)).append _

/-- Nobody has dismissed the radio before who takes the bridge out of the slot. -/
theorem BridgesMatch.hangingUp {bridge : BridgeId} {farewell : Option String}
    (bridgesMatch : BridgesMatch session)
    (before : Coherent session) (coherent : Coherent final) (filled : session.slot = some bridge)
    (grown : final.history =
      session.history ++ (session.closing bridge ++ .dismissed farewell :: new))
    (quiet : ∀ event ∈ new, event.isBridgeChange = false) (slot : final.slot = none) :
    BridgesMatch final ∧
      Along InBridgeOrder session.history
        (session.closing bridge ++ .dismissed farewell :: new) := by
  have split : session.history ++ (session.closing bridge ++ .dismissed farewell :: new) =
      session.history ++ session.closing bridge ++ [.dismissed farewell] ++ new := by simp
  obtain ⟨finished, filledAgain, timely⟩ := bridgesMatch.emptied before filled
  have opened := (bridgesMatch.opened (by simp [filled])).append (session.closing bridge)
  refine ⟨⟨?_, ?_, ?_, ?_, ?_⟩, ?_⟩
  · intro other open'
    rw [coherent.finished (by simp [slot])] at open'
    cases open'
  · intro _
    rw [grown, split]
    exact (finished.dismissed farewell).quiet quiet
  · exact fun full => absurd slot full
  · intro _
    rw [grown, split]
    exact (dismissedSinceOpenings_dismissed _ farewell).quiet quiet
  · exact fun full => absurd slot full
  · rw [along_append]
    exact ⟨timely, ⟨filledAgain, finished, opened⟩, along_quiet quiet _⟩

/-- The radio is dismissed at once if it has closed the bridge itself. -/
theorem BridgesMatch.cutShort {call : CallId} {goal : Goal} {bridge : BridgeId}
    (reached : Reached (.tuning call goal bridge) session) (bridgesMatch : BridgesMatch session)
    (closed : session.isClosed bridge = true)
    (grown : final.history = session.history ++ [.beginEnded call bridge none, .dismissed none])
    (slot : final.slot = session.slot)
    (still : ∀ bridge, final.isClosed bridge = session.isClosed bridge) :
    BridgesMatch final ∧
      Along InBridgeOrder session.history [.beginEnded call bridge none, .dismissed none] := by
  have begunOverSlot := reached.begunOverSlot
  have filled : session.slot ≠ none := by simp [begunOverSlot.filled]
  have shut := reached.sound.coherent.all_closed (.inr begunOverSlot.filled) closed
  have began :
      ∀ event ∈ [SessionEvent.beginEnded call bridge none], event.isBridgeChange = false := by
    simp [SessionEvent.isBridgeChange]
  have split : session.history ++ [.beginEnded call bridge none, .dismissed none] =
      session.history ++ [.beginEnded call bridge none] ++ [.dismissed none] := by simp
  have opened := (bridgesMatch.opened filled).append [.beginEnded call bridge none]
  have finished := (bridgesMatch.finished shut).quiet began
  have filledAgain := (bridgesMatch.filledAgain filled).quiet began
  refine ⟨⟨?_, ?_, ?_, ?_, ?_⟩, trivial, ⟨filledAgain, finished, opened⟩, trivial⟩ <;>
    rw [grown, split]
  · intro other open'
    rw [still, shut] at open'
    cases open'
  · exact fun _ => finished.dismissed none
  · intro _
    refine FollowedBy.append filledAgain ?_
    intro mid event rest same asked
    obtain ⟨rfl, rfl, rfl⟩ : mid = [] ∧ .dismissed none = event ∧ [] = rest := by
      cases mid <;> simp_all
    rw [List.append_nil] at asked
    exact asked.2 (reached.cutShort closed)
  · exact fun empty => absurd (slot ▸ empty) filled
  · exact fun _ => opened.append _

theorem BridgesMatch.bridgeChange (reached : Reached point session) (coherent : Coherent final)
    (bridgesMatch : BridgesMatch session) (turn : BridgeChange point session last final) :
    BridgesMatch final ∧ ∃ new, final.history = session.history ++ new ∧
      Along InBridgeOrder session.history new := by
  have before := reached.sound.coherent
  cases turn with
  | quiet new grown quiet slot closed =>
      exact ⟨bridgesMatch.still grown quiet slot closed, new, grown, along_quiet quiet _⟩
  | opened after grown quiet empty slot unclosed =>
      obtain ⟨bridgesMatch', timely⟩ := bridgesMatch.opening before grown quiet empty slot unclosed
      exact ⟨bridgesMatch', _, grown, timely⟩
  | finished bridge unclosed grown slot closed =>
      exact ⟨bridgesMatch.finishing before coherent unclosed grown slot closed, _, grown,
        bridgesMatch.renewed bridge unclosed, trivial⟩
  | hungUp bridge farewell after hangs filled grown quiet slot =>
      obtain ⟨bridgesMatch', timely⟩ :=
        bridgesMatch.hangingUp before coherent filled grown quiet slot
      exact ⟨bridgesMatch', _, grown, timely⟩
  | cutShort call goal bridge tuning closed grown slot still =>
      subst tuning
      obtain ⟨bridgesMatch', timely⟩ :=
        BridgesMatch.cutShort reached bridgesMatch closed grown slot still
      exact ⟨bridgesMatch', _, grown, timely⟩

theorem Reached.bridgesMatch (reached : Reached point session) :
    BridgesMatch session ∧ Along InBridgeOrder [] session.history := by
  refine reached.induction
    (motive := fun _ session => BridgesMatch session ∧ Along InBridgeOrder [] session.history) ?_ ?_
  · intro policy
    refine ⟨⟨?_, fun _ => followedBy_nil, ?_, fun _ => followedBy_nil, ?_⟩, trivial⟩
    · exact fun _ _ => followedBy_nil
    · exact fun filled => absurd rfl filled
    · exact fun filled => absurd rfl filled
  · rintro point session last final before ⟨bridgesMatch, timely⟩ move
    have coherent := (before.trans (.single move)).sound.coherent
    obtain ⟨bridgesMatch', new, grown, along⟩ :=
      bridgesMatch.bridgeChange before coherent (before.sound.bridgeChange move)
    rw [grown, along_append]
    exact ⟨bridgesMatch', timely, along⟩

end Session

end Contactless
