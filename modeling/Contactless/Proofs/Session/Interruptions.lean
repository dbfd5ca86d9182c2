import Contactless.Proofs.Session.Dropping
import Contactless.Proofs.Session.Ownership
import Contactless.Proofs.Session.Unread
import Mathlib.Data.List.Induction

/-!
No interruption is lost.

What the radio has reported over the bridge of a session is kept there until the session ends. An
exchange that finds an interruption fails by it before it does anything, and so does a detection,
whatever else is there. Neither the upkeep of a connection nor the change to another bridge ever
discards one.
-/

set_option autoImplicit false

namespace Contactless

/-- Whether something that waits on a bridge is discarded: what nobody waited for before a renewal,
or a whole bridge before a restart. -/
def SessionEvent.discards : SessionEvent → Bool
  | .drained _ _ | .paused _ _ => true
  | _ => false

namespace Session

/-- The session reads from the bridge, and every interruption that was reported over it waits
there. -/
structure ReadsAllReported (session : Session) (bridge : BridgeId) : Prop where
  reads : session.Reads session.place bridge
  whole : session.unread bridge = reported session.history bridge

/-- The session ends between the two: by the failure of a call, by a call that ends it, or by one
that is abandoned at work. If the failure is an interruption it is the oldest one. -/
inductive EndsSession (session final : Session) (bridge : BridgeId) : Prop
  | failed (call : CallId) (error : SessionError)
      (concludes : Concludes session final call (.error error))
      (fatal : error.isRefusal = false ∧ error.keepsConnection = false)
      (oldest : ∀ reason, error = .interrupted reason →
        (reported final.history bridge).head? = some reason) (down : Down final)
  | finished (call : CallId) (cause : Option SessionError)
      (concludes : Concludes session final call (.ok .done))
      (asked : SessionEvent.called call (.finish cause) ∈ final.history) (down : Down final)
  | dropped (call : CallId) (stage : Stage) (pending : session.stage? call = some stage)
      (working : ∀ job, stage ≠ .queued job)
      (recorded : ∃ new, final.history = session.history ++ new ∧
        SessionEvent.dropped call ∈ new) (down : Down final)

/-- The call fails by the interruption and does nothing else. -/
structure FailsInterrupted (session final : Session) (call : CallId) (reason : Interruption) :
    Prop where
  down : Down final
  told : ∃ new, final.history = session.history ++
      (new ++ [.ended call (.error (.interrupted reason))]) ∧
    ∀ event ∈ new, event.isBookkeeping = true ∨ event.isAside = true

/-- No interruption is lost in a run nor in the step that follows. -/
structure InterruptionsReported (policy : Policy) (before : List Stimulus) (stimulus : Stimulus) :
    Prop where
  kept : ∀ bridge reason, SessionEvent.noticed bridge (.interrupted reason) ∈
      ((initial policy).run before).history →
    (ReadsAllReported ((initial policy).run before) bridge ∧
      reason ∈ ((initial policy).run before).unread bridge) ∨
    ∃ front own back, before = front ++ own :: back ∧
      SessionEvent.noticed bridge (.interrupted reason) ∈
        ((initial policy).run (front ++ [own])).history ∧
      EndsSession ((initial policy).run front) ((initial policy).run (front ++ [own])) bridge ∧
        ∀ first rest, front = first ++ rest →
          SessionEvent.noticed bridge (.interrupted reason) ∈
              ((initial policy).run first).history →
            ReadsAllReported ((initial policy).run first) bridge ∧
              reason ∈ ((initial policy).run first).unread bridge
  exchange : ∀ call bridge reason rest, Acquires ((initial policy).run before) call stimulus →
    ((initial policy).run before).phase = .connected →
    ((initial policy).run before).held = some bridge →
    ((initial policy).run before).isClosed bridge = false →
    ((initial policy).run before).unread bridge = reason :: rest →
      FailsInterrupted ((initial policy).run before)
        ((initial policy).run (before ++ [stimulus])) call reason
  /-- A detection is a start, a renewal or a restart, with any batches on its bridge. -/
  detection : ∀ call goal bridge looking reason rest,
    Moves .outside ((initial policy).run before) (.polling call goal bridge) looking →
    looking.unread bridge = reason :: rest →
      FailsInterrupted looking (looking.detect call goal bridge) call reason
  discarded : ∀ event new, ((initial policy).run (before ++ [stimulus])).history =
      ((initial policy).run before).history ++ new → event ∈ new → event.discards = true →
    ∃ bridge, ((initial policy).run before).held = some bridge ∧
      ((initial policy).run before).unread bridge = [] ∧
      reported ((initial policy).run before).history bridge = [] ∧
        ∀ call other, event = .drained call other → other = bridge

/-- How a step ends that comes from here, for a bridge over which interruptions were reported. -/
inductive StepAfterReport (point : Point) (session final : Session) (bridge : BridgeId) : Prop
  | kept (reads : Point.outside.reads? final = some bridge)
  | failed (call : CallId) (error : SessionError) (broken : Session)
      (moves : Moves point session (.failing call error) broken)
      (left : final = broken.fail call error)
      (oldest : ∀ reason, error = .interrupted reason →
        (reported broken.history bridge).head? = some reason)
  | finished (call : CallId) (farewell : Option String) (working : Session)
      (moves : Moves point session (.holding call (.finish farewell)) working)
      (held : working.held = some bridge)
      (left : final = (working.shutDown farewell).conclude call (.ok .done))
  | dropped (call : CallId) (stage : Stage) (outside : point = .outside)
      (pending : session.stage? call = some stage) (working : ∀ job, stage ≠ .queued job)
      (left : final = ((session.shutDown none).release.forget call).emit (.dropped call))

variable {point last : Point} {session final : Session} {bridge : BridgeId}

/-- A bridge is read before a move after which something was reported over it, if it was read ever
since something was reported over it. -/
theorem Reached.reads_before (reached : Reached point session)
    (move : Move point session last final)
    (reads : reported session.history bridge ≠ [] → point.reads? session = some bridge)
    (loaded : reported final.history bridge ≠ []) : point.reads? session = some bridge := by
  by_cases old : reported session.history bridge = []
  · obtain ⟨new, grown, _⟩ := reached.sound.moments move
    rw [grown, reported_append, old, List.nil_append] at loaded
    obtain ⟨unclosed, hears⟩ := reached.sound.heard move grown loaded
    exact reached.sound.reads?_of_open hears unclosed
  · exact reads old

theorem StepAfterReport.head {between : Point} {middle : Session}
    (move : Move point session between middle)
    (runs : between.rests = false) (settles : StepAfterReport between middle final bridge) :
    StepAfterReport point session final bridge := by
  cases settles with
  | kept reads => exact .kept reads
  | failed call error broken moves left oldest =>
      exact .failed call error broken (.head move moves) left oldest
  | finished call farewell working moves held left =>
      exact .finished call farewell working (.head move moves) held left
  | dropped call stage outside =>
      subst outside
      cases runs

theorem reported_fail (session : Session) (call : CallId) (error : SessionError)
    (bridge : BridgeId) :
    reported (session.fail call error).history bridge = reported session.history bridge := by
  simp only [Session.fail, conclude_fields, shutDown_fields, reported_append, reported_hangingUp,
    reported_granted, List.append_nil]
  exact List.append_nil _

/-- A call that is about to fail has read nothing but the oldest interruption. -/
theorem Reached.failing_oldest {call : CallId} {error : SessionError}
    (reached : Reached point session) (calm : ∀ call error, point ≠ .failing call error)
    (move : Move point session (.failing call error) final)
    (reads : reported session.history bridge ≠ [] → point.reads? session = some bridge)
    (loaded : reported final.history bridge ≠ []) (reason : Interruption)
    (same : error = .interrupted reason) :
    (reported final.history bridge).head? = some reason := by
  subst same
  have here := reached.reads_before move reads loaded
  obtain ⟨other, there, oldest⟩ := oldest_of_failing move
  obtain rfl : bridge = other := Option.some.inj (here.symm.trans there)
  obtain ⟨new, grown, _⟩ := reached.sound.moments move
  rw [reached.unreadComplete.whole bridge calm here] at oldest
  rw [grown, reported_append, List.head?_append, oldest]
  rfl

/-- From where a bridge is read a step ends with the bridge still read, or with the session. -/
theorem Pass.stepAfterReport (reached : Reached point session) (pass : Pass point session final)
    (calm : ∀ call error, point ≠ .failing call error)
    (reads : reported session.history bridge ≠ [] → point.reads? session = some bridge)
    (loaded : reported final.history bridge ≠ []) : StepAfterReport point session final bridge := by
  induction pass with
  | last move =>
      have here := reached.reads_before move reads loaded
      cases reached.sound.readBridgeChange reached.lined move with
      | same same => exact .kept (same.trans here)
      | opened nothing =>
          rw [nothing] at here
          cases here
      | failing call error fails => cases fails
      | failed call error fails => exact absurd fails (calm call error)
      | finished call farewell finishes leaves => cases leaves
      | restarted call chain other holds held empty reopens => cases reopens
      | dropped call stage outside _ pending working left =>
          exact .dropped call stage outside pending working left
  | @head point between session middle final move runs rest ih =>
      have after := reached.trans (.single move)
      by_cases failing : ∃ call error, between = .failing call error
      · obtain ⟨call, error, rfl⟩ := failing
        have left := rest.of_failing
        rw [left, reported_fail] at loaded
        exact .failed call error middle (.single move) left
          (reached.failing_oldest calm move reads loaded)
      have calm' : ∀ call error, between ≠ .failing call error :=
        fun call error same => failing ⟨call, error, same⟩
      by_cases old : reported middle.history bridge = []
      · exact (ih after calm' (fun some => absurd old some) loaded).head move runs
      have here := reached.reads_before move reads old
      cases reached.sound.readBridgeChange reached.lined move with
      | same same => exact (ih after calm' (fun _ => same.trans here) loaded).head move runs
      | opened nothing =>
          rw [nothing] at here
          cases here
      | failing call error fails => exact absurd fails (calm' call error)
      | failed call error fails => exact absurd fails (calm call error)
      | finished call farewell finishes leaves down =>
          subst finishes leaves down
          exact .finished call farewell session .refl here rest.of_leaving
      | restarted call chain other holds held empty =>
          -- Nothing was reported over a bridge that is given up.
          subst holds
          obtain rfl : bridge = other := Option.some.inj (here.symm.trans held)
          obtain ⟨new, grown, _⟩ := reached.sound.moments move
          rw [grown, reported_append, ← reached.unreadComplete.whole bridge calm here, empty,
            List.nil_append] at old
          cases (reached.sound.heard move grown old).2
      | dropped call stage outside rests =>
          subst rests
          cases runs

theorem StepAfterReport.result (reached : Reached .outside session) (later : Reached .outside final)
    (settles : StepAfterReport .outside session final bridge) :
    ReadsAllReported final bridge ∨ EndsSession session final bridge := by
  cases settles with
  | kept reads =>
      exact .inl ⟨reads_of_reads? reads, later.unreadComplete.whole bridge (by simp) reads⟩
  | failed call error broken moves left oldest =>
      have failing := (reached.trans moves).failing
      rw [← reported_fail broken call error bridge] at oldest
      subst left
      exact .inr (.failed call error
        ((concludes_fail broken call error).of_grows (reached.grows moves))
        ⟨failing.1, failing.2.1⟩ oldest (down_fail failing.2.2))
  | finished call farewell working moves held left =>
      have there := reached.trans moves
      have started : working.phase ≠ .idle := by
        intro idle
        have carded := there.sound.coherent.held
        rw [held, idle] at carded
        cases carded
      obtain ⟨request, fresh, serves⟩ := there.served.running
      have grows : working.history <+: final.history := by
        rw [left]
        simp
      subst left
      cases request with
      | finish cause =>
          refine .inr (.finished call cause ((concludes_conclude _ call _).of_grows ?_) ?_
            (down_conclude started farewell call _))
          · exact (reached.grows moves).trans (by simp)
          · refine grows.subset (called_mem.mpr ?_)
            rw [fresh.asked]
            exact List.mem_singleton_self _
      | start purpose | exchange commands | look => cases serves
  | dropped call stage outside pending working left =>
      have started := reached.started_of_stage pending working
      subst left
      exact .inr (.dropped call stage pending working ⟨_, by simp; rfl, by simp⟩
        (down_drop started call))

/-- What a session keeps it keeps over a step, unless the step ends it. -/
theorem Reached.readsAllReported_step (reached : Reached .outside session) (stimulus : Stimulus)
    (keeps : reported session.history bridge ≠ [] → ReadsAllReported session bridge)
    (loaded : reported (session.step stimulus).history bridge ≠ []) :
    ReadsAllReported (session.step stimulus) bridge ∨
      EndsSession session (session.step stimulus) bridge := by
  rcases step_pass session stimulus with same | pass
  · rw [same] at loaded ⊢
    exact .inl (keeps loaded)
  · have settles := pass.stepAfterReport reached (by simp)
      (fun old => reached.sound.reads?_eq (keeps old).reads) loaded
    exact settles.result reached (reached.trans pass.moves)

/-- From the first report over a bridge on the session keeps what is reported. -/
def ReadsAllSince (policy : Policy) (stimuli : List Stimulus) (bridge : BridgeId) : Prop :=
  ∀ first rest, stimuli = first ++ rest →
    reported ((initial policy).run first).history bridge ≠ [] →
      ReadsAllReported ((initial policy).run first) bridge

theorem run_readsAllSince (policy : Policy) (stimuli : List Stimulus) (bridge : BridgeId) :
    ReadsAllSince policy stimuli bridge ∨ ∃ front own back, stimuli = front ++ own :: back ∧
      ReadsAllSince policy front bridge ∧
        reported ((initial policy).run (front ++ [own])).history bridge ≠ [] ∧
          EndsSession ((initial policy).run front)
            ((initial policy).run (front ++ [own])) bridge := by
  induction stimuli using List.reverseRecOn with
  | nil =>
      refine .inl fun first rest split loaded => ?_
      obtain ⟨rfl, _⟩ := List.nil_eq_append_iff.mp split
      exact absurd rfl loaded
  | append_singleton front stimulus ih =>
      rcases ih with kept | ⟨first, own, back, rfl, kept, loaded, ends⟩
      · have last : (initial policy).run (front ++ [stimulus]) =
            ((initial policy).run front).step stimulus := run_append ..
        by_cases survives :
            reported ((initial policy).run (front ++ [stimulus])).history bridge ≠ [] →
              ReadsAllReported ((initial policy).run (front ++ [stimulus])) bridge
        · left
          intro first rest split loaded
          rcases List.eq_nil_or_concat rest with rfl | ⟨rest, other, rfl⟩
          · rw [List.append_nil] at split
            subst split
            exact survives loaded
          · rw [List.concat_eq_append, ← List.append_assoc] at split
            exact kept first rest (List.append_inj_left' split rfl) loaded
        · obtain ⟨loaded, lost⟩ := Classical.not_imp.mp survives
          refine .inr ⟨front, stimulus, [], rfl, kept, loaded, ?_⟩
          rw [last] at loaded lost ⊢
          have reached := Reached.run policy front
          exact (reached.readsAllReported_step stimulus (kept front [] (by simp))
            loaded).resolve_left lost
      · exact .inr ⟨first, own, back ++ [stimulus], by simp, kept, loaded, ends⟩

theorem EndsSession.down (ends : EndsSession session final bridge) : Down final := by
  cases ends <;> assumption

/-- When the session ends everything has been reported that ever is over its bridge. -/
theorem EndsSession.reported_all (reached : Reached .outside final)
    (ends : EndsSession session final bridge)
    (loaded : reported final.history bridge ≠ []) (stimuli : List Stimulus) :
    reported (final.run stimuli).history bridge = reported final.history bridge := by
  have opened : bridge < final.bridges.length := by
    refine Nat.lt_of_not_le fun beyond => ?_
    exact loaded (reached.unreadComplete.fresh bridge beyond)
  have closed : final.isClosed bridge = true :=
    reached.sound.coherent.finished (by simp [ends.down.slot])
  exact reached.reported_closed (run_moves final stimuli) opened closed

theorem Acquires.interrupted {call : CallId} {stimulus : Stimulus} {reason : Interruption}
    {rest : List Interruption} (acquires : Acquires session call stimulus)
    (connected : session.phase = .connected) (held : session.held = some bridge)
    (unclosed : session.isClosed bridge = false) (waits : session.unread bridge = reason :: rest) :
    ∃ (broken : Session) (first : List SessionEvent),
      session.step stimulus = broken.fail call (.interrupted reason) ∧
        broken.phase = .connected ∧ broken.history = session.history ++ first ∧
          ∀ event ∈ first, event.isBookkeeping = true := by
  obtain ⟨ready, chain, around, _, moves, untouched, same⟩ := acquires.ready
  obtain ⟨first, grown, bookkeeping⟩ := untouched.bookkeeping
  rw [← untouched.phase] at connected
  rw [← untouched.held] at held
  cases here : session.bridges[bridge]? with
  | none => simp [unread, queue, here] at waits
  | some found =>
      have listens : found.closed = false := by simpa [isClosed, here] using unclosed
      have oldest : found.interruptions = reason :: rest := by
        simpa [unread, queue, here] using waits
      rw [← untouched.bridges] at here
      refine ⟨ready.update bridge fun _ => found.takeInterruption.2, first, ?_, ?_, ?_, bookkeeping⟩
      · rw [same]
        simp [Session.enter, runExchange, connected, held, here, listens, Bridge.takeInterruption,
          oldest]
      · simpa using connected
      · simpa using grown

theorem detect_interrupted {reason : Interruption} {rest : List Interruption}
    (waits : session.unread bridge = reason :: rest) (call : CallId) (goal : Goal) :
    ∃ broken : Session, session.detect call goal bridge = broken.fail call (.interrupted reason) ∧
      broken.phase = session.phase ∧ broken.history = session.history := by
  cases here : session.bridges[bridge]? with
  | none => simp [unread, queue, here] at waits
  | some found =>
      have oldest : found.interruptions = reason :: rest := by
        simpa [unread, queue, here] using waits
      refine ⟨session.update bridge fun _ => found.poll.2, ?_, by simp, by simp⟩
      simp [detect, here, Bridge.poll, oldest]

/-- A bridge is about to be given up, or an exchange is on its way to upkeep over an empty one. -/
def AboutToDiscard (event : SessionEvent) (point : Point) (session : Session) : Prop :=
  ((∃ call chain, point = .reopening call chain) ∧ ∀ call other, event ≠ .drained call other) ∨
    ∃ call chain bridge, point.ComesBefore call (.exchange chain) ∧ session.held = some bridge ∧
      session.unread bridge = [] ∧ ∀ caller other, event = .drained caller other → other = bridge

theorem aboutToDiscard_of_discards {event : SessionEvent} {new : List SessionEvent}
    (discards : event.discards = true) (reached : Reached point session)
    (move : Move point session last final) (told : final.history = session.history ++ new)
    (member : event ∈ new) : AboutToDiscard event point session := by
  obtain ⟨front, back, rfl⟩ := List.append_of_mem member
  have moment := reached.sound.moment move told
  cases event with
  | drained call bridge =>
      obtain ⟨chain, connection, rfl, ready, _⟩ := moment
      refine .inr ⟨call, chain, bridge, ⟨rfl, rfl⟩, ready.held, ready.empty, ?_⟩
      intro caller other same
      exact (SessionEvent.drained.inj same).2.symm
  | paused call length =>
      obtain ⟨chain, rfl⟩ := moment
      exact .inl ⟨⟨call, chain, rfl⟩, by simp⟩
  | _ => cases discards

/-- Until an exchange begins its job the bridges stay what they were. -/
theorem held_of_comesBefore {call : CallId} {chain : Chain} (move : Move point session last final)
    (nears : last.ComesBefore call (.exchange chain)) (runs : point.rests = false) :
    final.held = session.held ∧ ∀ bridge, final.unread bridge = session.unread bridge := by
  cases move with
  | ask | turn => cases runs
  | lineStart | lineExchange | lineLook | take => exact ⟨rfl, fun _ => rfl⟩
  | lineFinish => cases nears.2
  | report bridge notice hears => cases point <;> first | cases hears; done | cases nears
  | _ => cases nears

theorem AboutToDiscard.back {event : SessionEvent} (runs : point.rests = false)
    (move : Move point session last final) (discarding : AboutToDiscard event last final) :
    AboutToDiscard event point session := by
  rcases discarding with ⟨⟨call, chain, rfl⟩, kept⟩ | ⟨call, chain, bridge, nears, held, empty, own⟩
  · cases move with
    | restart call chain bridge connection ready =>
        refine .inr ⟨call, chain, bridge, ⟨rfl, rfl⟩, ready.held, ready.empty, ?_⟩
        exact fun caller other same => absurd same (kept caller other)
    | report bridge notice hears => cases hears
  · obtain ⟨same, still⟩ := held_of_comesBefore move nears runs
    exact .inr ⟨call, chain, bridge, (comesBefore_of_move move nears runs).1, same ▸ held,
      (still bridge) ▸ empty, own⟩

/-- Nothing is discarded but what waits on a bridge without interruptions. -/
theorem Reached.aboutToDiscard_step {event : SessionEvent} {new : List SessionEvent}
    {stimulus : Stimulus} (reached : Reached .outside session)
    (grown : (session.step stimulus).history = session.history ++ new) (member : event ∈ new)
    (discards : event.discards = true) :
    ∃ bridge, session.held = some bridge ∧ session.unread bridge = [] ∧
      reported session.history bridge = [] ∧
        ∀ caller other, event = .drained caller other → other = bridge := by
  have found : ∀ {bridge : BridgeId}, session.held = some bridge → session.unread bridge = [] →
      reported session.history bridge = [] := by
    intro bridge held empty
    have reads := reached.sound.reads?_eq (.inl held)
    rw [← reached.unreadComplete.whole bridge (by simp) reads, empty]
  cases reached.origin (aboutToDiscard_of_discards discards)
    (fun _ => AboutToDiscard.back) grown member with
  | aside discarding =>
      rcases discarding with ⟨⟨_, _, impossible⟩, _⟩ | ⟨_, _, _, impossible, _⟩ <;>
        cases impossible
  | ask discarding =>
      rcases discarding with ⟨⟨_, _, impossible⟩, _⟩ | ⟨_, _, bridge, _, held, empty, own⟩
      · cases impossible
      · exact ⟨bridge, held, empty, found held empty, own⟩
  | turn queued handed discarding =>
      rcases discarding with ⟨⟨_, _, impossible⟩, _⟩ | ⟨_, _, bridge, _, held, empty, own⟩
      · cases impossible
      · exact ⟨bridge, held, empty, found held empty, own⟩
  | proceed move works discarding =>
      rcases discarding with ⟨⟨_, _, rfl⟩, _⟩ | ⟨_, _, _, nears, _⟩
      · cases works
      · exact (not_comesBefore_of_works works nears).elim

theorem failsInterrupted_of_fail {broken : Session} {call : CallId} {reason : Interruption}
    {first : List SessionEvent} (started : broken.phase ≠ .idle)
    (left : final = broken.fail call (.interrupted reason))
    (grown : broken.history = session.history ++ first)
    (bookkeeping : ∀ event ∈ first, event.isBookkeeping = true) :
    FailsInterrupted session final call reason := by
  obtain ⟨mid, told, aside⟩ := history_fail broken call (.interrupted reason)
  rw [left]
  refine ⟨down_fail started, first ++ mid, by rw [told, grown]; simp, ?_⟩
  exact List.forall_mem_append.mpr ⟨fun event member => .inl (bookkeeping event member),
    fun event member => .inr (aside event member)⟩

/-- No interruption that the radio reports is lost. -/
theorem run_interruptions_reported (policy : Policy) (before : List Stimulus)
    (stimulus : Stimulus) :
    InterruptionsReported policy before stimulus := by
  have reached := Reached.run policy before
  have last : (initial policy).run (before ++ [stimulus]) =
      ((initial policy).run before).step stimulus := run_append ..
  have waits : ∀ {session : Session} {bridge : BridgeId} {reason : Interruption},
      SessionEvent.noticed bridge (.interrupted reason) ∈ session.history →
      (reported session.history bridge ≠ [] → ReadsAllReported session bridge) →
        ReadsAllReported session bridge ∧ reason ∈ session.unread bridge := by
    intro session bridge reason noticed keeps
    have member := mem_reported.mpr noticed
    have kept := keeps (List.ne_nil_of_mem member)
    exact ⟨kept, kept.whole ▸ member⟩
  refine ⟨?_, ?_, ?_, ?_⟩
  · intro bridge reason noticed
    rcases run_readsAllSince policy before bridge with
      kept | ⟨front, own, back, split, kept, loaded, ends⟩
    · exact .inl (waits noticed (kept before [] (by simp)))
    · refine .inr ⟨front, own, back, split, ?_, ends, fun first rest cut noticed =>
        waits noticed (kept first rest cut)⟩
      have all := ends.reported_all (Reached.run policy _) loaded back
      have same : (initial policy).run before =
          ((initial policy).run (front ++ [own])).run back := by
        rw [split, ← run_append, List.append_assoc, List.singleton_append]
      rw [← mem_reported, ← all, ← same]
      exact mem_reported.mpr noticed
  · intro call bridge reason rest acquires connected held unclosed unread
    rw [last]
    obtain ⟨broken, first, left, phase, grown, bookkeeping⟩ :=
      acquires.interrupted connected held unclosed unread
    exact failsInterrupted_of_fail (by simp [phase]) left grown bookkeeping
  · intro call goal bridge looking reason rest moves unread
    obtain ⟨broken, left, phase, same⟩ := detect_interrupted unread call goal
    have fits := (reached.trans moves).sound.fits
    have grown : broken.history = looking.history ++ [] := same.trans (List.append_nil _).symm
    refine failsInterrupted_of_fail ?_ left grown (by simp)
    rw [phase, fits.1]
    cases goal <;> simp [Goal.phase]
  · intro event new grown member discards
    rw [last] at grown
    exact reached.aboutToDiscard_step grown member discards

end Session

end Contactless
