import Contactless.Proofs.Session.Outcome

/-!
Who owns the radio.

A start looks twice whether a session is live: at a flag before it asks for the lock, and at the
phase when it has the lock. Of the starts that have passed the flag the first one to get the lock
opens the session, and whoever comes while it is live is turned away untouched. Nobody but such a
start and the exchange that restarts the radio ever opens a bridge.
-/

set_option autoImplicit false

namespace Contactless

namespace Session

/-- With this stimulus a start looks whether a session is live. One that finds the flag down and the
lock free looks at the phase in the same step. -/
inductive Checks (session : Session) (call : CallId) : Stimulus → Prop
  | flag (purpose : Purpose) (around : Surroundings) (available : around.available = true)
      (made : session.issued = call) : Checks session call (.call (.start purpose) around)
  | phase (purpose : Purpose) (around : Surroundings)
      (queued : session.stage? call = some (.queued (.start purpose)))
      (handed : session.lock.holder = some call) : Checks session call (.wake call .look around)

/-- With this stimulus a start gets the lock. -/
inductive StartAcquires (session : Session) (call : CallId) (purpose : Purpose) : Stimulus → Prop
  | made (around : Surroundings) (available : around.available = true)
      (dead : session.live = false) (free : session.lock.holder = none)
      (made : session.issued = call) :
        StartAcquires session call purpose (.call (.start purpose) around)
  | handed (around : Surroundings)
      (queued : session.stage? call = some (.queued (.start purpose)))
      (handed : session.lock.holder = some call) :
      StartAcquires session call purpose (.wake call .look around)

/-- A session has been started with the purpose and a bridge of its own. -/
structure Started (session started : Session) (purpose : Purpose) : Prop where
  phase : started.phase = .starting
  live : started.live = true
  purpose : started.purpose = some purpose
  connection : started.connection = none
  held : started.held = none
  slot : started.slot = some session.nextBridge
  bridges : started.bridges = session.bridges ++ [({} : TagBridge)]

/-- The call has started a session, and it is at work for it or has failed. -/
structure BeginsSession (session final : Session) (call : CallId) (purpose : Purpose) : Prop where
  started : ∃ started, Started session started purpose ∧
    Moves .outside session (.beginning call .start session.nextBridge purpose.prompt) started ∧
    Pass (.beginning call .start session.nextBridge purpose.prompt) started final
  opened : ∃ new, final.history = session.history ++ new ∧
    SessionEvent.opened session.nextBridge ∈ new
  purpose : final.purpose = some purpose
  outcome : (final.phase = .starting ∧ final.lock.holder = some call) ∨
    (Down final ∧ ∃ error, Concludes session final call (.error error) ∧ error.isRefusal = false)

/-- The radio has one owner, whatever happens before and after. -/
structure SingleLiveSession (policy : Policy) (before : List Stimulus) (stimulus : Stimulus)
    (after : List Stimulus) : Prop where
  sole : ∀ bridge other, ((initial policy).run before).isClosed bridge = false →
    ((initial policy).run before).isClosed other = false → bridge = other
  opener : ∀ bridge new, ((initial policy).run (before ++ [stimulus])).history =
      ((initial policy).run before).history ++ new → SessionEvent.opened bridge ∈ new →
    (∃ call purpose, StartAcquires ((initial policy).run before) call purpose stimulus ∧
      ((initial policy).run before).phase.isLive = false) ∨
    ∃ call, Acquires ((initial policy).run before) call stimulus ∧
      ((initial policy).run before).phase = .connected
  first : ∀ call purpose, StartAcquires ((initial policy).run before) call purpose stimulus →
    ((initial policy).run before).phase.isLive = false →
      BeginsSession ((initial policy).run before) ((initial policy).run (before ++ [stimulus]))
          call purpose ∧
        ∀ outcome, Outcome.isRefusal outcome = true → SessionEvent.ended call outcome ∉
          ((initial policy).run (before ++ stimulus :: after)).history
  /-- The session is its own as long as it is live. -/
  keepsPurpose : ∀ call purpose, StartAcquires ((initial policy).run before) call purpose stimulus →
    ((initial policy).run before).phase.isLive = false →
      (∀ front back, after = front ++ back →
        ((initial policy).run (before ++ stimulus :: front)).phase.isLive = true) →
      ((initial policy).run (before ++ stimulus :: after)).purpose = some purpose
  later : ∀ call, Checks ((initial policy).run before) call stimulus →
    ((initial policy).run before).phase.isLive = true →
      Untouched ((initial policy).run before) ((initial policy).run (before ++ [stimulus])) ∧
        Concludes ((initial policy).run before) ((initial policy).run (before ++ [stimulus]))
          call (.error .alreadyActive)
  refused : ∀ call, SessionEvent.ended call (.error .alreadyActive) ∈
      ((initial policy).run (before ++ stimulus :: after)).history ↔
    ∃ front own back, before ++ stimulus :: after = front ++ own :: back ∧
      Checks ((initial policy).run front) call own ∧
        ((initial policy).run front).phase.isLive = true
  untouched : ∀ call error, error = .alreadyActive ∨ error = .radioUnavailable →
    SessionEvent.ended call (.error error) ∈
      ((initial policy).run (before ++ stimulus :: after)).history →
    stimulus.drives ((initial policy).run before) call →
      Untouched ((initial policy).run before) ((initial policy).run (before ++ [stimulus]))
  fresh : ∀ purpose around, stimulus = .call (.start purpose) around → around.available = true →
    ((initial policy).run before).lock.holder = none →
    ((initial policy).run before).phase = .idle ∨
        ((initial policy).run before).phase = .invalidated →
      BeginsSession ((initial policy).run before) ((initial policy).run (before ++ [stimulus]))
          ((initial policy).run before).issued purpose ∧
        ∀ outcome, Outcome.isRefusal outcome = true →
          SessionEvent.ended ((initial policy).run before).issued outcome ∉
            ((initial policy).run (before ++ stimulus :: after)).history

/-- The call is on the way to this job and has not begun it. -/
def Point.ComesBefore (call : CallId) (job : Job) : Point → Prop
  | .asking caller request => caller = call ∧ request.job? = some job
  | .lining caller other | .holding caller other => caller = call ∧ other = job
  | _ => False

def Point.StartsDetecting (call : CallId) : Point → Prop
  | .beginning caller _ _ _ | .tuning caller _ _ | .polling caller _ _ => caller = call
  | _ => False

variable {point last : Point} {session final : Session} {new : List SessionEvent} {call : CallId}

/-- Until a call begins its job the phase stays what it was, and it gets there only if the lock was
free or in its hand. -/
theorem comesBefore_of_move {job : Job} (move : Move point session last final)
    (nears : last.ComesBefore call job) (runs : point.rests = false) :
    point.ComesBefore call job ∧ final.phase = session.phase ∧
      ((last.worker? = none → final.lock.holder = none) →
        point.worker? = none → session.lock.holder = none) := by
  cases move with
  | ask | turn => cases runs
  | lineStart | lineExchange | lineLook =>
      obtain ⟨rfl, rfl⟩ := nears
      exact ⟨⟨rfl, rfl⟩, rfl, fun free _ => free rfl⟩
  | lineFinish =>
      obtain ⟨rfl, rfl⟩ := nears
      exact ⟨⟨rfl, rfl⟩, by simp, fun free _ => by simpa using free rfl⟩
  | take call job free =>
      obtain ⟨rfl, rfl⟩ := nears
      exact ⟨⟨rfl, rfl⟩, rfl, fun _ _ => free⟩
  | report bridge notice hears => cases point <;> first | cases hears; done | cases nears
  | _ => cases nears

/-- The call is on the way to this job, and nobody else holds the lock. -/
def BoundFor (point : Point) (session : Session) (call : CallId) (job : Job) : Prop :=
  point.ComesBefore call job ∧ (point.worker? = none → session.lock.holder = none)

theorem BoundFor.back {job : Job} (bound : BoundFor last final call job)
    (move : Move point session last final) (runs : point.rests = false) :
    BoundFor point session call job ∧ final.phase = session.phase := by
  obtain ⟨nears, same, free⟩ := comesBefore_of_move move bound.1 runs
  exact ⟨⟨nears, free bound.2⟩, same⟩

theorem not_comesBefore_of_works {job : Job} (works : point.works = true) :
    ¬ point.ComesBefore call job := by
  intro nears
  cases point <;> first | cases works; done | cases nears

/-- The call is about to be told that it is one too many, or it is a start and a session is live. -/
def Refusing (call : CallId) (point : Point) (session : Session) : Prop :=
  point = .leaving call (.error .alreadyActive) ∨
    (session.phase.isLive = true ∧ ∃ purpose, point.ComesBefore call (.start purpose))

theorem refusing_of_ended (reached : Reached point session) (move : Move point session last final)
    (told : final.history = session.history ++ new)
    (ended : SessionEvent.ended call (.error .alreadyActive) ∈ new) :
    Refusing call point session := by
  obtain ⟨front, back, rfl⟩ := List.append_of_mem ended
  refine (reached.sound.moment move told).imp_right ?_
  rintro ⟨request, error, rfl, _⟩
  obtain ⟨live, purpose, rfl⟩ := (refused_of_asking move told).2.2 rfl
  rw [reached.sound.coherent.live] at live
  exact ⟨live, purpose, rfl, rfl⟩

theorem Refusing.back (reached : Reached point session) (runs : point.rests = false)
    (move : Move point session last final) (refusing : Refusing call last final) :
    Refusing call point session := by
  rcases refusing with rfl | ⟨live, purpose, nears⟩
  · cases move with
    | deny call purpose live => exact .inr ⟨live, purpose, rfl, rfl⟩
    | fail call error =>
        have accepted := reached.failing.1
        cases accepted
    | report bridge notice hears => cases hears
  · obtain ⟨before, same, _⟩ := comesBefore_of_move move nears runs
    exact .inr ⟨same ▸ live, purpose, before⟩

theorem available_of_recorded {purpose : Purpose} {around : Surroundings} {event : SessionEvent}
    (told : (session.step (.call (.start purpose) around)).history = session.history ++ new)
    (member : event ∈ new) (other : event ≠ .called session.issued (.start purpose))
    (apart : event ≠ .ended session.issued (.error .radioUnavailable)) :
    around.available = true := by
  refine eq_true_of_ne_false fun unavailable => ?_
  simp only [Session.step, Session.ask, unavailable, Bool.not_false, ↓reduceIte, history_emit,
    List.append_assoc, List.append_cancel_left_eq] at told
  subst told
  simp [other, apart] at member

theorem Concludes.checks (reached : Reached .outside session) {stimulus : Stimulus}
    (concludes : Concludes session (session.step stimulus) call (.error .alreadyActive)) :
    Checks session call stimulus ∧ session.phase.isLive = true := by
  obtain ⟨new, grown, ended⟩ := concludes
  have available : ∀ purpose around, stimulus = .call (.start purpose) around →
      around.available = true := by
    rintro purpose around rfl
    exact available_of_recorded grown ended (by simp) (by simp)
  cases reached.origin refusing_of_ended Refusing.back grown ended with
  | aside refusing => rcases refusing with impossible | ⟨_, _, impossible⟩ <;> cases impossible
  | @ask request around refusing =>
      rcases refusing with impossible | ⟨live, purpose, rfl, job⟩
      · cases impossible
      · obtain rfl := Request.eq_start job
        exact ⟨.flag purpose around (available purpose around rfl) rfl, live⟩
  | turn queued handed refusing =>
      rcases refusing with impossible | ⟨live, purpose, rfl, rfl⟩
      · cases impossible
      · exact ⟨.phase purpose _ queued handed, live⟩
  | proceed move works refusing =>
      rcases refusing with rfl | ⟨_, _, nears⟩
      · cases move
      · exact (not_comesBefore_of_works works nears).elim

/-- A start that finds a live session is turned away, and nothing has changed. -/
theorem Checks.turnedAway (reached : Reached .outside session) {stimulus : Stimulus}
    (checks : Checks session call stimulus) (live : session.phase.isLive = true) :
    Untouched session (session.step stimulus) ∧
      Concludes session (session.step stimulus) call (.error .alreadyActive) := by
  cases checks with
  | flag purpose around available made =>
      subst made
      have flag : session.live = true := reached.sound.coherent.live.trans live
      have left : session.step (.call (.start purpose) around) =
          ({ session with issued := session.issued + 1 }.emit
            (.called session.issued (.start purpose))).emit
              (.ended session.issued (.error .alreadyActive)) := by
        simp [Session.step, Session.ask, available, flag]
      rw [left]
      exact ⟨(untouched_ask session _).trans (untouched_ended ..),
        [.called session.issued (.start purpose), .ended session.issued (.error .alreadyActive)],
        by simp, by simp⟩
  | phase purpose around queued handed =>
      have left : session.step (.wake call .look around) =
          session.conclude call (.error .alreadyActive) := by
        simp [Session.step, Session.wake, queued, handed, Session.enter, runStart, live]
      rw [left]
      exact ⟨untouched_conclude .., concludes_conclude ..⟩

/-- A bridge is about to be opened between two radio sessions, or a start is on its way while no
session is live, or an exchange while one is connected. -/
def Opening (point : Point) (session : Session) : Prop :=
  (∃ call chain, point = .reopening call chain) ∨
    (∃ call purpose, session.phase.isLive = false ∧ BoundFor point session call (.start purpose)) ∨
    ∃ call chain, session.phase = .connected ∧ BoundFor point session call (.exchange chain)

theorem opening_of_opened {bridge : BridgeId} (reached : Reached point session)
    (move : Move point session last final) (told : final.history = session.history ++ new)
    (opened : SessionEvent.opened bridge ∈ new) : Opening point session := by
  obtain ⟨front, back, rfl⟩ := List.append_of_mem opened
  obtain ⟨_, _, _, ⟨call, purpose, rfl⟩ | reopening⟩ := reached.sound.moment move told
  · refine .inr (.inl ⟨call, purpose, ?_, ⟨rfl, rfl⟩, fun idle => by cases idle⟩)
    cases move with
    | start call purpose dead => exact dead
    | deny call purpose live => simp at told
    | report bridge notice hears => cases hears
  · exact .inl reopening

theorem Opening.back (runs : point.rests = false) (move : Move point session last final)
    (opening : Opening last final) : Opening point session := by
  rcases opening with ⟨call, chain, rfl⟩ | ⟨call, purpose, dead, bound⟩ | ⟨call, chain, connected,
    bound⟩
  · cases move with
    | restart call chain bridge connection ready =>
        exact .inr (.inr ⟨call, chain, ready.phase, ⟨rfl, rfl⟩, fun idle => by cases idle⟩)
    | report bridge notice hears => cases hears
  · obtain ⟨before, same⟩ := bound.back move runs
    exact .inr (.inl ⟨call, purpose, same ▸ dead, before⟩)
  · obtain ⟨before, same⟩ := bound.back move runs
    exact .inr (.inr ⟨call, chain, same ▸ connected, before⟩)

/-- A step that opens a bridge is one in which a start gets the lock while no session is live, or an
exchange while one is connected. -/
theorem Reached.opening_step {bridge : BridgeId} {stimulus : Stimulus}
    (reached : Reached .outside session)
    (grown : (session.step stimulus).history = session.history ++ new)
    (opened : SessionEvent.opened bridge ∈ new) :
    (∃ call purpose, StartAcquires session call purpose stimulus ∧ session.phase.isLive = false) ∨
      ∃ call, Acquires session call stimulus ∧ session.phase = .connected := by
  have available : ∀ purpose around, stimulus = .call (.start purpose) around →
      around.available = true := by
    rintro purpose around rfl
    exact available_of_recorded grown opened (by simp) (by simp)
  cases reached.origin opening_of_opened (fun _ => Opening.back) grown opened with
  | aside opening =>
      rcases opening with ⟨_, _, impossible⟩ | ⟨_, _, _, impossible, _⟩ | ⟨_, _, _, impossible, _⟩
        <;> cases impossible
  | @ask request around opening =>
      rcases opening with ⟨_, _, impossible⟩ | ⟨call, purpose, dead, ⟨rfl, job⟩, free⟩ |
        ⟨call, chain, connected, ⟨rfl, job⟩, free⟩
      · cases impossible
      · obtain rfl := Request.eq_start job
        have flag : session.live = false := reached.sound.coherent.live.trans dead
        exact .inl ⟨_, purpose, .made around (available purpose around rfl) flag (free rfl) rfl,
          dead⟩
      · obtain rfl := Request.eq_exchange job
        exact .inr ⟨_, .made chain.toList around (by simp [Chain.toList]) (free rfl) rfl, connected⟩
  | turn queued handed opening =>
      rcases opening with ⟨_, _, impossible⟩ | ⟨call, purpose, dead, ⟨rfl, rfl⟩, _⟩ |
        ⟨call, chain, connected, ⟨rfl, rfl⟩, _⟩
      · cases impossible
      · exact .inl ⟨_, purpose, .handed _ queued handed, dead⟩
      · exact .inr ⟨_, .handed chain _ queued handed, connected⟩
  | proceed move works opening =>
      rcases opening with ⟨_, _, rfl⟩ | ⟨_, _, _, nears, _⟩ | ⟨_, _, _, nears, _⟩
      · cases works
      · exact (not_comesBefore_of_works works nears).elim
      · exact (not_comesBefore_of_works works nears).elim

theorem StartAcquires.ready {purpose : Purpose} {stimulus : Stimulus}
    (enters : StartAcquires session call purpose stimulus) :
    ∃ ready around, Moves .outside session (.holding call (.start purpose)) ready ∧
      Untouched session ready ∧
      session.step stimulus = ready.enter call (.start purpose) around := by
  cases enters with
  | made around available dead free made =>
      subst made
      refine ⟨_, around, .tail (.tail (.tail .refl (.ask (.start purpose)))
        (.lineStart session.issued purpose dead)) (.take session.issued _ free),
        (untouched_ask session _).trans (untouched_take ..), ?_⟩
      simp [Session.step, Session.ask, available, dead, Session.acquire, free]
  | handed around queued handed =>
      refine ⟨session, around, .single (.turn call _ queued handed), .refl session, ?_⟩
      simp [Session.step, Session.wake, queued, handed]

/-- The first steps of a detection leave the session as it was started, or the call fails. -/
theorem startsDetecting_move (move : Move point session last final)
    (launching : point.StartsDetecting call) :
    (final.phase = session.phase ∧ final.purpose = session.purpose ∧ final.lock = session.lock) ∧
      (last = .outside ∨ last.StartsDetecting call ∨ ∃ error, last = .failing call error) := by
  cases move with
  | begin | begun =>
      obtain rfl := launching
      exact ⟨⟨rfl, rfl, rfl⟩, .inr (.inl rfl)⟩
  | report bridge notice => exact ⟨by simp, .inr (.inl launching)⟩
  | tooLate | lost | exhaust | halt | foreign | beginRefused | beginCut =>
      obtain rfl := launching
      exact ⟨⟨rfl, rfl, rfl⟩, .inr (.inr ⟨_, rfl⟩)⟩
  | pend | pick => exact ⟨⟨rfl, rfl, rfl⟩, .inl rfl⟩
  | _ => cases launching

theorem Pass.beginsSession (pass : Pass point session final)
    (launching : point.StartsDetecting call) :
    (final.phase = session.phase ∧ final.purpose = session.purpose ∧ final.lock = session.lock) ∨
      ∃ broken error, Moves point session (.failing call error) broken ∧
        broken.purpose = session.purpose ∧ final = broken.fail call error := by
  induction pass with
  | last move => exact .inl (startsDetecting_move move launching).1
  | head move runs rest ih =>
      obtain ⟨⟨phase, purpose, lock⟩, rfl | onwards | ⟨error, rfl⟩⟩ :=
        startsDetecting_move move launching
      · cases runs
      · rcases ih onwards with ⟨phase', purpose', lock'⟩ | ⟨broken, error, moves, same, failed⟩
        · exact .inl ⟨phase'.trans phase, purpose'.trans purpose, lock'.trans lock⟩
        · exact .inr ⟨broken, error, .head move moves, same.trans purpose, failed⟩
      · exact .inr ⟨_, error, .single move, purpose, rest.of_failing⟩

def startedFor (session : Session) (purpose : Purpose) : Session :=
  { session with
    phase := .starting
    live := true
    purpose := some purpose
    connection := none
    held := none }.openBridge

theorem started_startedFor (empty : session.slot = none) (purpose : Purpose) :
    Started session (session.startedFor purpose) purpose :=
  ⟨by simp [startedFor], by simp [startedFor], by simp [startedFor], by simp [startedFor],
    by simp [startedFor], by simp [startedFor, nextBridge], by simp [startedFor, openBridge, empty]⟩

theorem history_startedFor (empty : session.slot = none) (purpose : Purpose) :
    (session.startedFor purpose).history = session.history ++ [.opened session.nextBridge] :=
  history_openBridge _ empty

/-- A start that gets the lock while no session is live starts one. -/
theorem StartAcquires.beginsSession {purpose : Purpose} {stimulus : Stimulus}
    (reached : Reached .outside session) (enters : StartAcquires session call purpose stimulus)
    (dead : session.phase.isLive = false) :
    BeginsSession session (session.step stimulus) call purpose := by
  obtain ⟨ready, around, moves, untouched, same⟩ := enters.ready
  have holding := reached.trans moves
  rw [← untouched.phase] at dead
  have empty := holding.sound.coherent.dead dead
  have start : Move (.holding call (.start purpose)) ready
      (.beginning call .start ready.nextBridge purpose.prompt) (ready.startedFor purpose) :=
    .start call purpose dead
  have number : ready.nextBridge = session.nextBridge := congrArg List.length untouched.bridges
  have entered : session.step stimulus =
      (ready.startedFor purpose).beginPolling call .start ready.nextBridge purpose.prompt
        around := by
    rw [same, Session.enter, runStart, dead]
    rfl
  have pass := beginPolling_pass (ready.startedFor purpose) call .start ready.nextBridge
    purpose.prompt around
  rw [← entered] at pass
  have beginning := holding.trans (.single start)
  have started := started_startedFor empty purpose
  obtain ⟨rest, told⟩ := beginning.grows pass.moves
  obtain ⟨first, here, _⟩ := untouched.bookkeeping
  rw [history_startedFor empty, here, List.append_assoc, List.append_assoc] at told
  rw [number] at pass
  refine ⟨⟨_, ?_, number ▸ moves.trans (.single start), pass⟩, ⟨_, told.symm, ?_⟩, ?_, ?_⟩
  · exact ⟨started.phase, started.live, started.purpose, started.connection, started.held,
      started.slot.trans (congrArg some number), started.bridges.trans (by rw [untouched.bridges])⟩
  · simp [nextBridge, untouched.bridges]
  · rcases pass.beginsSession rfl with ⟨_, same, _⟩ | ⟨broken, error, _, same, failed⟩
    · exact same.trans started.purpose
    · rw [failed]
      simpa [Session.fail] using same.trans started.purpose
  · rcases pass.beginsSession rfl with ⟨phase, _, lock⟩ | ⟨broken, error, onwards, _, failed⟩
    · refine .inl ⟨phase.trans started.phase, ?_⟩
      rw [lock]
      exact beginning.lined.worker call rfl
    · have failing := beginning.trans (number ▸ onwards)
      have grows := (reached.grows (moves.trans (.single start))).trans
        (beginning.grows (number ▸ onwards))
      rw [failed]
      exact .inr ⟨down_fail failing.failing.2.2, error,
        (concludes_fail broken call error).of_grows grows, failing.failing.1⟩

theorem StartAcquires.unrefused {purpose : Purpose} {stimulus : Stimulus}
    (reached : Reached .outside session) (enters : StartAcquires session call purpose stimulus)
    (dead : session.phase.isLive = false)
    (later : Moves .outside (session.step stimulus) .outside final) {outcome : Outcome}
    (refusal : Outcome.isRefusal outcome = true) :
    SessionEvent.ended call outcome ∉ final.history := by
  obtain ⟨ready, around, moves, untouched, same⟩ := enters.ready
  have holding := reached.trans moves
  rw [← untouched.phase] at dead
  have pass := enter_pass ready call (.start purpose) around
  rw [same] at later
  have fate := pass.engaged holding dead
  have after := holding.trans pass.moves
  exact (after.trans later).unrefused (Engaged.moves after fate later) refusal

theorem purpose_of_move (move : Move point session last final) :
    final.purpose = session.purpose ∨
      ∃ call purpose, session.phase.isLive = false ∧ point = .holding call (.start purpose) := by
  cases move with
  | start call purpose dead => exact .inr ⟨call, purpose, dead, rfl⟩
  | _ => exact .inl (by simp [connect, reconnect])

/-- Only a start that has found no live session gives the session another purpose. -/
theorem Pass.purpose (pass : Pass point session final) (runs : point.rests = false) :
    final.purpose = session.purpose ∨
      ∃ call purpose, session.phase.isLive = false ∧ point.ComesBefore call (.start purpose) := by
  induction pass with
  | last move =>
      refine (purpose_of_move move).imp_right ?_
      rintro ⟨call, purpose, dead, rfl⟩
      exact ⟨call, purpose, dead, rfl, rfl⟩
  | head move goes rest ih =>
      rcases purpose_of_move move with same | ⟨call, purpose, dead, rfl⟩
      · refine (ih goes).imp (·.trans same) ?_
        rintro ⟨call, purpose, dead, nears⟩
        obtain ⟨before, phase, _⟩ := comesBefore_of_move move nears runs
        exact ⟨call, purpose, phase ▸ dead, before⟩
      · exact .inr ⟨call, purpose, dead, rfl, rfl⟩

theorem purpose_of_live (live : session.phase.isLive = true) (stimulus : Stimulus) :
    (session.step stimulus).purpose = session.purpose := by
  have course := step_course session stimulus
  generalize session.step stimulus = final at course
  have alive : session.phase.isLive ≠ false := by simp [live]
  cases course with
  | idle => rfl
  | aside move => exact (purpose_of_move move).resolve_right fun ⟨_, _, dead, _⟩ => alive dead
  | ask pass => exact (pass.purpose rfl).resolve_right fun ⟨_, _, dead, _⟩ => alive dead
  | turn queued handed pass =>
      exact (pass.purpose rfl).resolve_right fun ⟨_, _, dead, _⟩ => alive dead
  | proceed pending past proceeds =>
      obtain ⟨point, middle, move, works, pass⟩ := proceeds
      have first := (purpose_of_move move).resolve_right fun ⟨_, _, dead, _⟩ => alive dead
      refine ((pass.purpose (rests_of_works works)).resolve_right ?_).trans first
      exact fun ⟨_, _, _, nears⟩ => not_comesBefore_of_works works nears

/-- The session that a start opens keeps its purpose as long as it is live. -/
theorem BeginsSession.keepsPurpose {purpose : Purpose}
    (launches : BeginsSession session final call purpose) (stimuli : List Stimulus)
    (live : ∀ front back, stimuli = front ++ back → (final.run front).phase.isLive = true) :
    (final.run stimuli).purpose = some purpose := by
  induction stimuli using List.reverseRecOn with
  | nil => exact launches.purpose
  | append_singleton front stimulus ih =>
      have alive := live front [stimulus] rfl
      rw [run_append, run_cons, run_nil, purpose_of_live alive]
      refine ih fun first rest split => live first (rest ++ [stimulus]) ?_
      rw [split, List.append_assoc]

theorem Concludes.usesCard {stimulus : Stimulus} {outcome : Outcome}
    (reached : Reached .outside session)
    (concludes : Concludes session (session.step stimulus) call outcome)
    (refusal : Outcome.isRefusal outcome = true) :
    ∃ request, SessionEvent.called call request ∈ (session.step stimulus).history ∧
      request.usesCard = true := by
  rcases concludes.leaves reached with ⟨_, request, made, uses⟩ | ⟨before, working, leaving, moves,
    move, same⟩
  · exact ⟨request, called_mem.mpr (by rw [made]; exact List.mem_singleton_self _), uses⟩
  have there := reached.trans moves
  have running := there.served.running
  have grows : working.history <+: (session.step stimulus).history := by
    rw [same]
    exact there.grows (.tail (.single move) (.leave call outcome))
  cases move with
  | deny | unconnected =>
      obtain ⟨request, fresh, serves⟩ := running
      refine ⟨request, grows.subset (called_mem.mpr ?_), ?_⟩
      · rw [fresh.asked]
        exact List.mem_singleton_self _
      · cases request <;> first | rfl | cases serves
  | finish | look | attachStart | answerLast | answerFault => cases refusal
  | fail call error =>
      have accepted : error.isRefusal = false := there.failing.1
      have refused : error.isRefusal = true := refusal
      rw [accepted] at refused
      cases refused
  | report bridge notice hears => cases hears

/-- Under every interleaving the radio has one owner. -/
theorem run_single_live_session (policy : Policy) (before : List Stimulus) (stimulus : Stimulus)
    (after : List Stimulus) : SingleLiveSession policy before stimulus after := by
  have reached := Reached.run policy before
  have last : (initial policy).run (before ++ [stimulus]) =
      ((initial policy).run before).step stimulus := run_append ..
  have all : ∀ rest, (initial policy).run (before ++ stimulus :: rest) =
      (((initial policy).run before).step stimulus).run rest := fun rest => by
    rw [run_append, run_cons]
  have first : ∀ call purpose, StartAcquires ((initial policy).run before) call purpose stimulus →
      ((initial policy).run before).phase.isLive = false →
        BeginsSession ((initial policy).run before) ((initial policy).run (before ++ [stimulus]))
            call purpose ∧
          ∀ outcome, Outcome.isRefusal outcome = true → SessionEvent.ended call outcome ∉
            ((initial policy).run (before ++ stimulus :: after)).history := by
    intro call purpose enters dead
    rw [last, all]
    exact ⟨enters.beginsSession reached dead,
      fun outcome refusal => enters.unrefused reached dead (run_moves _ after) refusal⟩
  refine ⟨?_, ?_, first, ?_, ?_, ?_, ?_, ?_⟩
  · intro bridge other one two
    have slot := reached.sound.coherent.unclosed
    exact Option.some.inj ((slot bridge one).symm.trans (slot other two))
  · intro bridge new grown opened
    rw [last] at grown
    exact reached.opening_step grown opened
  · intro call purpose enters dead live
    simp only [all] at live ⊢
    exact (enters.beginsSession reached dead).keepsPurpose after live
  · intro call checks live
    rw [last]
    exact checks.turnedAway reached live
  · intro call
    constructor
    · intro ended
      obtain ⟨earlier, later, told⟩ := List.append_of_mem ended
      obtain ⟨front, own, back, mid, rest, _, split, grown, _⟩ := run_split policy _ told
      exact ⟨front, own, back, split,
        Concludes.checks (Reached.run policy front) ⟨_, grown, by simp⟩⟩
    · rintro ⟨front, own, back, split, checks, live⟩
      have there := Reached.run policy front
      obtain ⟨_, new, grown, ended⟩ := checks.turnedAway there live
      have later := (there.trans (step_moves _ own)).grows
        (run_moves (((initial policy).run front).step own) back)
      rw [split, run_append, run_cons]
      refine later.subset ?_
      rw [grown]
      exact List.mem_append_right _ ended
  · intro call error turned ended drives
    have refusal : error.isRefusal = true := by
      rcases turned with rfl | rfl <;> rfl
    obtain ⟨_, _, told⟩ := List.append_of_mem ended
    obtain ⟨front, own, back, mid, rest, _, split, grown, _⟩ := run_split policy _ told
    have there := Reached.run policy front
    have concludes : Concludes ((initial policy).run front)
        (((initial policy).run front).step own) call (.error error) := ⟨_, grown, by simp⟩
    obtain ⟨request, made, uses⟩ := concludes.usesCard there refusal
    have later := (there.trans (step_moves _ own)).grows
      (run_moves (((initial policy).run front).step own) back)
    rw [← run_cons, ← run_append, ← split] at later
    rw [last]
    rw [all] at later ended
    exact reached.turnedAway (run_moves _ after) drives (later.subset made) uses ended refusal
  · rintro purpose around rfl available free phase
    have dead : ((initial policy).run before).phase.isLive = false := by
      rcases phase with idle | invalidated
      · rw [idle]
        rfl
      · rw [invalidated]
        rfl
    have flag := reached.sound.coherent.live.trans dead
    exact first _ purpose (.made around available flag free rfl) dead

end Session

end Contactless
