import Contactless.Proofs.Session.Queue

set_option autoImplicit false

namespace Contactless

def SessionEvent.interruption? (bridge : BridgeId) : SessionEvent → Option Interruption
  | .noticed other (.interrupted reason) => if other = bridge then some reason else none
  | _ => none

theorem SessionEvent.interruption?_eq_some {bridge : BridgeId} {event : SessionEvent}
    {reason : Interruption} :
    event.interruption? bridge = some reason ↔ event = .noticed bridge (.interrupted reason) := by
  cases event with
  | noticed other notice => cases notice <;> simp [SessionEvent.interruption?]
  | _ => simp [SessionEvent.interruption?]

namespace Bridge

variable {α : Type}

theorem interruptions_poll (bridge : Bridge α) :
    (∃ reason, bridge.poll.1 = .interrupted reason ∧
      bridge.interruptions = reason :: bridge.poll.2.interruptions) ∨
    ((∀ reason, bridge.poll.1 ≠ .interrupted reason) ∧ bridge.interruptions = [] ∧
      bridge.poll.2.interruptions = []) := by
  cases waiting : bridge.interruptions with
  | cons reason rest => exact .inl ⟨reason, by simp [poll, waiting], by simp [poll, waiting]⟩
  | nil =>
      refine .inr ⟨fun reason => ?_, rfl, ?_⟩
      · cases batches : bridge.batches <;> cases closed : bridge.closed <;>
          simp [poll, waiting, batches, closed]
      · cases batches : bridge.batches <;> simp [poll, waiting, batches]

end Bridge

namespace Session

def reported (history : List SessionEvent) (bridge : BridgeId) : List Interruption :=
  history.filterMap (·.interruption? bridge)

def unread (session : Session) (bridge : BridgeId) : List Interruption :=
  session.queue (·.interruptions) bridge

/-- The bridge that the session reads from while the running call is here. -/
def Point.reads? (session : Session) (point : Point) : Option BridgeId :=
  (point.place session).bridge?.or session.held

/-- What becomes of the bridge that a session reads from. -/
inductive ReadBridgeChange (point : Point) (session : Session) (last : Point) (final : Session) :
    Prop
  | same (same : last.reads? final = point.reads? session)
  | opened (nothing : point.reads? session = none)
      (reads : last.reads? final = some session.nextBridge)
  | failing (call : CallId) (error : SessionError) (fails : last = .failing call error)
  | failed (call : CallId) (error : SessionError) (fails : point = .failing call error)
      (nothing : last.reads? final = none)
  | finished (call : CallId) (farewell : Option String)
      (finishes : point = .holding call (.finish farewell))
      (leaves : last = .leaving call (.ok .done))
      (down : final = session.shutDown farewell)
  /-- A bridge that is given up for the next one is empty. -/
  | restarted (call : CallId) (chain : Chain) (bridge : BridgeId)
      (holds : point = .holding call (.exchange chain)) (reads : session.held = some bridge)
      (empty : session.unread bridge = []) (reopens : last = .reopening call chain)
      (nothing : last.reads? final = none)
  | dropped (call : CallId) (stage : Stage) (outside : point = .outside) (rests : last = .outside)
      (pending : session.stage? call = some stage) (working : ∀ job, stage ≠ .queued job)
      (left : final = ((session.shutDown none).release.forget call).emit (.dropped call))
      (nothing : last.reads? final = none)

variable {point last : Point} {session final : Session} {bridge : BridgeId}

@[simp] theorem reported_append (first second : List SessionEvent) (bridge : BridgeId) :
    reported (first ++ second) bridge = reported first bridge ++ reported second bridge :=
  List.filterMap_append ..

@[simp] theorem reported_hangingUp (session : Session) (farewell : Option String)
    (bridge : BridgeId) : reported (session.hangingUp farewell) bridge = [] := by
  unfold hangingUp closing reported
  split
  · rfl
  · split <;> simp [SessionEvent.interruption?]

@[simp] theorem reported_granted (next : Option CallId) (bridge : BridgeId) :
    reported (next.toList.map .granted) bridge = [] := by
  cases next <;> rfl

theorem mem_reported {history : List SessionEvent} {reason : Interruption} :
    reason ∈ reported history bridge ↔
      SessionEvent.noticed bridge (.interrupted reason) ∈ history := by
  simp [reported, SessionEvent.interruption?_eq_some]

theorem unread_congr (same : final.bridges = session.bridges) :
    final.unread bridge = session.unread bridge := queue_congr same

@[simp] theorem unread_hangUp (session : Session) (farewell : Option String) (bridge : BridgeId) :
    (session.hangUp farewell).unread bridge = session.unread bridge :=
  queue_hangUp (fun _ => rfl) session farewell bridge

@[simp] theorem unread_shutDown (session : Session) (farewell : Option String)
    (bridge : BridgeId) : (session.shutDown farewell).unread bridge = session.unread bridge :=
  unread_hangUp session farewell bridge

theorem unread_openBridge (session : Session) (empty : session.slot = none) (bridge : BridgeId) :
    session.openBridge.unread bridge = session.unread bridge :=
  queue_openBridge rfl session empty bridge

theorem unread_report (session : Session) (bridge : BridgeId) (notice : TagNotice)
    (other : BridgeId) :
    (session.report bridge notice).unread other =
      session.unread other ++ reported (session.reporting bridge notice) other := by
  refine (queue_report (fun _ => rfl) session bridge notice other).trans ?_
  by_cases here : session.isClosed bridge = false ∧ other = bridge
  · rw [if_pos here]
    obtain ⟨unclosed, rfl⟩ := here
    obtain ⟨found, present, listens⟩ := exists_bridge_of_open unclosed
    cases notice <;>
      simp [reporting, Bridge.receive, Bridge.close, listens, unclosed, unread, queue, present,
        reported, SessionEvent.interruption?]
  · rw [if_neg here]
    have nothing : reported (session.reporting bridge notice) other = [] := by
      unfold reporting
      split
      · rfl
      · rename_i unclosed
        have apart : ¬ bridge = other := fun same =>
          here ⟨by simpa using unclosed, same.symm⟩
        cases notice <;> simp [reported, SessionEvent.interruption?, apart]
    rw [nothing, List.append_nil]
    rfl

theorem unread_poll {found : TagBridge} (here : session.bridges[bridge]? = some found)
    (other : BridgeId) :
    (session.update bridge fun _ => found.poll.2).unread other = session.unread other ∨
      ∃ reason, other = bridge ∧ found.poll.1 = .interrupted reason ∧
        session.unread bridge =
          reason :: (session.update bridge fun _ => found.poll.2).unread bridge := by
  rcases found.interruptions_poll with ⟨reason, polled, waiting⟩ | ⟨_, none, still⟩
  · by_cases same : other = bridge
    · subst same
      refine .inr ⟨reason, rfl, polled, ?_⟩
      rw [unread, unread, queue_update, queue_of_some here]
      simpa [here] using waiting
    · exact .inl ((queue_update ..).trans (if_neg same))
  · left
    apply queue_update_of_kept
    intro other there
    obtain rfl : found = other := by simpa [here] using there
    exact still.trans none.symm

/-- What waits on a bridge grows by what is reported over it. Only a call that is about to fail
takes an interruption, the oldest one. -/
theorem Sound.unread_move (sound : Sound point session) (move : Move point session last final)
    (bridge : BridgeId) :
    ∃ new, final.history = session.history ++ new ∧
      (final.unread bridge = session.unread bridge ++ reported new bridge ∨
        ∃ call reason, last = .failing call (.interrupted reason) ∧ reported new bridge = [] ∧
          session.unread bridge = reason :: final.unread bridge) := by
  have quiet : ∀ {last : Point} {final : Session} (new : List SessionEvent),
      final.history = session.history ++ new → final.unread bridge = session.unread bridge →
      reported new bridge = [] → ∃ new, final.history = session.history ++ new ∧
        (final.unread bridge = session.unread bridge ++ reported new bridge ∨
          ∃ call reason, last = .failing call (.interrupted reason) ∧ reported new bridge = [] ∧
            session.unread bridge = reason :: final.unread bridge) := by
    intro last final new grown same none
    exact ⟨new, grown, .inl (by rw [none, List.append_nil, same])⟩
  cases move with
  | lineFinish | finish | fail => exact quiet _ (by simp; rfl) (by simp) (by simp)
  | report other notice =>
      exact ⟨_, history_report session other notice,
        .inl (unread_report session other notice bridge)⟩
  | start call purpose dead =>
      have empty := sound.coherent.dead dead
      refine quiet _ (history_openBridge _ empty) ?_ rfl
      rw [unread_openBridge _ (by exact empty)]
      rfl
  | pause call chain =>
      have empty := sound.slot_of_reopening
      refine quiet [.opened session.nextBridge, .paused call session.policy.cooldown]
        (by simp [history_openBridge session empty]) ?_ rfl
      exact unread_openBridge session empty bridge
  | restart => exact quiet _ (history_hangUp _ none) (unread_hangUp _ none bridge) (by simp)
  | renew call chain other connection ready now old =>
      refine quiet [.drained call other, .repolled call other] (by simp) ?_ rfl
      exact queue_update_of_kept (fun found _ => Bridge.interruptions_drainStale found) bridge
  | interrupted call chain other found reason connected held here unclosed unread =>
      by_cases same : bridge = other
      · subst same
        refine ⟨[], by simp, .inr ⟨call, reason, rfl, rfl, ?_⟩⟩
        rw [Session.unread, Session.unread, queue_update, queue_of_some here]
        cases waiting : found.interruptions with
        | nil => simp [Bridge.takeInterruption, waiting] at unread
        | cons oldest rest =>
            obtain rfl : oldest = reason := by simpa [Bridge.takeInterruption, waiting] using unread
            simp [here, Bridge.takeInterruption, waiting]
      · exact quiet [] (by simp) ((queue_update ..).trans (if_neg same)) rfl
  | halt call goal other found here reason polled =>
      rcases unread_poll here bridge with same | ⟨oldest, rfl, found', waiting⟩
      · exact quiet [] (by simp) same rfl
      · rw [polled, Polled.interrupted.injEq] at found'
        subst found'
        exact ⟨[], by simp, .inr ⟨call, reason, rfl, rfl, waiting⟩⟩
  | pend call goal other found here polled | exhaust call goal other found here polled =>
      rcases unread_poll here bridge with same | ⟨reason, _, found', _⟩
      · exact quiet [] (by simp) same rfl
      · rw [polled] at found'
        cases found'
  | foreign call goal other found here tags polled =>
      rcases unread_poll here bridge with same | ⟨reason, _, found', _⟩
      · exact quiet [.taken call other tags] (by simp) same rfl
      · rw [polled] at found'
        cases found'
  | pick call goal other found here tags polled tag =>
      rcases unread_poll here bridge with same | ⟨reason, _, found', _⟩
      · exact quiet [.taken call other tags, .connecting call other tag] (by simp) same rfl
      · rw [polled] at found'
        cases found'
  | take call job free => exact quiet [.requested call, .granted call] (by simp) rfl rfl
  | wait call holder job held => exact quiet [.requested call] (by simp) rfl rfl
  | beginCut call goal other =>
      exact quiet [.beginEnded call other none, .dismissed none] (by simp) rfl rfl
  | desert call goal other tag | accept call goal other tag =>
      exact quiet [.connectEnded call tag none, .acknowledged call] (by simp) rfl rfl
  | leave call outcome =>
      exact quiet (session.lock.release.holder.toList.map .granted ++ [.ended call outcome])
        (by simp) (unread_congr (by simp)) (by simp; rfl)
  | dropHanded call job =>
      exact quiet (session.lock.release.holder.toList.map .granted ++ [.dropped call])
        (by simp) (unread_congr (by simp)) (by simp; rfl)
  | dropHolder call stage =>
      exact quiet (session.hangingUp none ++ (session.lock.release.holder.toList.map .granted ++
        [.dropped call])) (by simp)
        ((unread_congr (by simp)).trans (unread_shutDown session none bridge)) (by simp; rfl)
  | ask | refuseRadio | refuseLive | refuseEmpty | alert | begin | begun | beginRefused | reject
  | answerLost | answerShort | answerLast | answerFault | answerNext | dropWaiting | send
  | attachStart | attachRestart | attachRenew => exact quiet [_] rfl rfl rfl
  | _ => exact quiet [] (by simp) rfl rfl

theorem Ready.empty {connection : Connection} (ready : session.Ready bridge connection) :
    session.unread bridge = [] := by
  unfold Session.unread queue
  cases here : session.bridges[bridge]? with
  | none => rfl
  | some found => exact ready.unread found here

theorem reads?_congr (place : last.place final = point.place session)
    (held : final.held = session.held) : last.reads? final = point.reads? session := by
  unfold Point.reads?
  rw [place, held]

theorem Sound.readBridgeChange (lined : Lined point session) (sound : Sound point session)
    (move : Move point session last final) : ReadBridgeChange point session last final := by
  have fits := sound.fits
  have reach : ∀ {call : CallId} {stage : Stage}, point = .outside →
      session.stage? call = some stage → (∀ job, stage ≠ .queued job) →
      point.place session = placeOf stage := by
    rintro call stage rfl pending working
    exact place_of_stage (lined.holder_of_stage pending working) pending
  cases move with
  | ask | refuseRadio | refuseLive | refuseEmpty | lineStart | lineExchange | lineLook | deny | look
  | unconnected | keep | begin | begun | repolled | alert => exact .same rfl
  | lineFinish => exact .same (reads?_congr (place_hangUp ..) (by simp))
  | take call job free =>
      have here : session.place = .rest := by simp [place, free]
      exact .same (reads?_congr here.symm rfl)
  | wait call holder job held =>
      exact .same (reads?_congr
        (place_wait lined held (by simp) (fun other => stage?_park _ other call _)) rfl)
  | turn call job queued handed =>
      exact .same (reads?_congr (place_of_stage handed queued).symm rfl)
  | start call purpose dead =>
      refine .opened ?_ rfl
      have bare : session.phase.hasCard = false := by
        cases phase : session.phase <;> simp [phase, Phase.isLive, Phase.hasCard] at dead ⊢
      have held := sound.coherent.held
      rw [bare] at held
      simpa [Point.reads?, Point.place, Place.bridge?] using held
  | finish call farewell => exact .finished call farewell rfl rfl rfl
  | stale | interrupted | unattached | tooLate | lost | beginRefused | beginCut | exhaust | halt
  | foreign | reject | desert | answerLost | answerShort => exact .failing _ _ rfl
  | renew call chain other connection ready now old =>
      refine .same ?_
      simp [Point.reads?, Point.place, Place.bridge?, ready.held]
  | restart call chain other connection ready now aged =>
      refine .restarted call chain other rfl ready.held ready.empty rfl ?_
      simp [Point.reads?, Point.place, Place.bridge?]
  | pause call chain =>
      refine .opened ?_ ?_
      · have held := sound.coherent.held
        rw [fits.1] at held
        simpa [Point.reads?, Point.place, Place.bridge?, Phase.hasCard] using held
      · rw [Point.reads?, Point.place, place_park (by simpa using lined.worker call rfl)]
        rfl
  | rested call other chain resting =>
      exact .same (reads?_congr (reach rfl resting (by simp)).symm rfl)
  | report other notice hears =>
      exact .same (reads?_congr (point.place_report session other notice) (by simp))
  | poll call goal other detecting =>
      exact .same (reads?_congr (reach rfl detecting (by simp)).symm rfl)
  | pend call goal other found here nothing =>
      exact .same (reads?_congr (place_park (by simpa using lined.worker call rfl) _) (by simp))
  | pick call goal other found here tags polled tag wallet =>
      exact .same (reads?_congr (place_park (by simpa using lined.worker call rfl) _) (by simp))
  | accept call goal other tag connecting =>
      exact .same (reads?_congr (reach rfl connecting (by simp)).symm rfl)
  | attachStart call other tag now | attachRestart call chain other tag now => exact .same rfl
  | attachRenew call chain other tag now =>
      have held : session.held = some other := fits.2.2 rfl
      exact .same held
  | send call tag chain =>
      exact .same (reads?_congr (place_park (by simpa using lined.worker call rfl) _) rfl)
  | answerLast call tag bytes response pending
  | answerFault call tag chain bytes response fault pending
  | answerNext call tag chain bytes response pending =>
      refine .same ?_
      rw [Point.reads?, Point.reads?, reach rfl pending (by simp)]
      rfl
  | fail call error =>
      refine .failed call error rfl ?_
      simp [Point.reads?, Point.place, Place.bridge?]
  | leave call outcome =>
      refine .same (reads?_congr ?_ (by simp))
      exact lined.place_release (lined.worker call rfl) (by simp) (by simp)
  | dropHanded call job queued handed =>
      refine .same (reads?_congr ?_ (by simp))
      rw [Point.place, Point.place, place_of_stage handed queued]
      exact lined.place_release handed (by simp) (by simp [stage?_forget])
  | dropWaiting call job queued waiting => exact .same (reads?_congr (place_leave waiting) rfl)
  | dropHolder call stage pending working =>
      refine .dropped call stage rfl rfl pending working rfl ?_
      rw [Point.reads?, Point.place, lined.place_release (lined.holder_of_stage pending working)
        (by simp) (by simp [stage?_forget])]
      simp [Place.bridge?]

/-- A call that is about to fail by an interruption has taken the oldest one. -/
theorem oldest_of_failing {call : CallId} {reason : Interruption}
    (move : Move point session (.failing call (.interrupted reason)) final) :
    ∃ bridge, point.reads? session = some bridge ∧
      (session.unread bridge).head? = some reason := by
  cases move with
  | interrupted call chain bridge found reason connected held here unclosed unread =>
      refine ⟨bridge, ?_, ?_⟩
      · simp [Point.reads?, Point.place, Place.bridge?, held]
      · simpa [Session.unread, queue, here, Bridge.takeInterruption] using unread
  | halt call goal bridge found here reason polled =>
      refine ⟨bridge, rfl, ?_⟩
      rcases found.interruptions_poll with ⟨first, polled', waiting⟩ | ⟨none, _⟩
      · rw [polled, Polled.interrupted.injEq] at polled'
        simp [Session.unread, queue, here, waiting, polled']
      · exact absurd polled (none reason)
  | report bridge notice hears => cases hears

/-- Nothing was reported over a bridge that is not open yet, and what was reported over the bridge
that is read waits on it. -/
structure UnreadComplete (point : Point) (session : Session) : Prop where
  fresh : ∀ bridge, session.bridges.length ≤ bridge → reported session.history bridge = []
  whole : ∀ bridge, (∀ call error, point ≠ .failing call error) →
    point.reads? session = some bridge →
      session.unread bridge = reported session.history bridge

theorem Sound.heard (sound : Sound point session) (move : Move point session last final)
    {new : List SessionEvent} (grown : final.history = session.history ++ new)
    (some : reported new bridge ≠ []) : session.isClosed bridge = false ∧ point.hears = true := by
  obtain ⟨reason, member⟩ := List.exists_mem_of_ne_nil _ some
  obtain ⟨front, back, rfl⟩ := List.append_of_mem (mem_reported.mp member)
  exact sound.moment move grown

theorem UnreadComplete.move (lined : Lined point session) (sound : Sound point session)
    (unreadComplete : UnreadComplete point session) (move : Move point session last final) :
    UnreadComplete last final := by
  refine ⟨fun bridge beyond => ?_, fun bridge calm reads => ?_⟩
  · obtain ⟨new, grown, _⟩ := sound.moments move
    have before := Nat.le_trans (length_of_move move) beyond
    rw [grown, reported_append, unreadComplete.fresh bridge before, List.nil_append]
    refine Classical.byContradiction fun some => ?_
    have unclosed := (sound.heard move grown some).1
    simp [isClosed, List.getElem?_eq_none before] at unclosed
  · obtain ⟨new, grown, waits | ⟨call, reason, fails, _⟩⟩ := sound.unread_move move bridge
    · rw [waits, grown, reported_append]
      congr 1
      cases sound.readBridgeChange lined move with
      | same same =>
          refine unreadComplete.whole bridge ?_ (same.symm.trans reads)
          -- Whoever fails leaves nothing to read.
          rintro call error rfl
          cases move with
          | fail => simp [Point.reads?, Point.place, Place.bridge?] at reads
          | report bridge notice hears => cases hears
      | opened nothing now =>
          obtain rfl := Option.some.inj (now.symm.trans reads)
          rw [unreadComplete.fresh session.nextBridge (Nat.le_refl _)]
          simp [Session.unread, queue, nextBridge]
      | failing call error fails => exact absurd fails (calm call error)
      | finished call farewell finishes leaves down =>
          subst leaves down
          simp [Point.reads?, Point.place, Place.bridge?] at reads
      | failed call error fails nothing => simp [nothing] at reads
      | restarted call chain other holds held empty reopens nothing => simp [nothing] at reads
      | dropped call stage outside rests pending working left nothing => simp [nothing] at reads
    · exact absurd fails (calm call _)

/-- Whatever was reported over the bridge that is read waits there. -/
theorem Reached.unreadComplete (reached : Reached point session) :
    UnreadComplete point session := by
  refine reached.induction (motive := UnreadComplete) ?_ ?_
  · exact fun policy => ⟨fun _ _ => rfl, fun _ _ _ => rfl⟩
  · exact fun point session last final before unreadComplete move =>
      unreadComplete.move before.lined before.sound move

theorem Sound.reads?_eq (sound : Sound point session)
    (reads : session.Reads (point.place session) bridge) : point.reads? session = some bridge := by
  have fits := sound.fits
  unfold Point.reads?
  rcases reads with held | looks
  · have carded : session.phase.hasCard = true := by
      rw [← sound.coherent.held, held]
      rfl
    cases place : point.place session with
    | opening goal other =>
        rw [place] at fits
        rw [fits.1, fits.2.1] at carded
        cases carded
    | detecting goal other =>
        rw [place] at fits
        rw [fits.1] at carded
        exact (fits.2.2 carded).symm.trans held
    | rest | transmitting | reopening | broken => exact held
  · rw [looks]
    rfl

theorem reads_of_reads? (reads : point.reads? session = some bridge) :
    session.Reads (point.place session) bridge :=
  (Option.or_eq_some_iff.mp reads).symm.imp (·.2) id

theorem Sound.reads?_of_open (sound : Sound point session) (hears : point.hears = true)
    (unclosed : session.isClosed bridge = false) : point.reads? session = some bridge := by
  refine sound.reads?_eq (sound.reads_of_slot ?_ (sound.coherent.unclosed bridge unclosed))
  cases point with
  | outside => exact place_intact session
  | tuning | repolling => simp [Point.place]
  | _ => cases hears

/-- Nothing is reported over a closed bridge. -/
theorem Reached.reported_closed (reached : Reached point session)
    (moves : Moves point session last final) (opened : bridge < session.bridges.length)
    (closed : session.isClosed bridge = true) :
    reported final.history bridge = reported session.history bridge := by
  induction moves with
  | refl => rfl
  | tail before move ih =>
      have between := reached.trans before
      obtain ⟨new, grown, _⟩ := between.sound.moments move
      have still := (reached.closed_moves before opened closed).2
      have nothing : reported new bridge = [] := by
        refine Classical.byContradiction fun some => ?_
        rw [(between.sound.heard move grown some).1] at still
        cases still
      rw [grown, reported_append, ih, nothing, List.append_nil]

end Session

end Contactless
