import Contactless.Proofs.Session.Ending

/-!
What ending a session does to the exchanges that are in line.

None of them sends anything. The first one that gets the lock while the phase is connected finds
its bridge closed, is cancelled and takes the session down, so the others find it not connected.
-/

set_option autoImplicit false

namespace Contactless

namespace Session

def inLine (session : Session) (call : CallId) : Bool :=
  match session.stage? call with
  | some (.queued (.exchange _)) => true
  | _ => false

/-- How the exchanges that were in line have ended, in this order. -/
def queuedOutcomes (session : Session) (events : List SessionEvent) : List Outcome :=
  events.filterMap fun
    | .ended call outcome => if session.inLine call then some outcome else none
    | _ => none

/-- At most one is cancelled, and it is the first; all others are turned away. -/
def OnlyFirstCancelled (outcomes : List Outcome) : Prop :=
  ∃ count, outcomes = .replicate count (.error .notConnected) ∨
    outcomes = .error .cancelled :: .replicate count (.error .notConnected)

/-- What has become of the exchanges that were in line when the session was ended. -/
structure QueuedRejected (session final : Session) (new : List SessionEvent) : Prop where
  unsent : ∀ call, session.inLine call = true → sentBy new call = []
  orderly : OnlyFirstCancelled (queuedOutcomes session new)
  down : queuedOutcomes session new ≠ [] → final.phase ≠ .connected
  fate : ∀ call, session.inLine call = true → final.inLine call = true ∨
    SessionEvent.dropped call ∈ new ∨
      ∃ outcome ∈ queuedOutcomes session new, SessionEvent.ended call outcome ∈ new
  turn : ∀ call, final.inLine call = true → final.lock.holder = some call → ∀ around,
    SessionEvent.ended call
      (.error (if final.phase = .connected then .cancelled else .notConnected)) ∈
        (final.step (.wake call .look around)).history

variable {base session final : Session} {point last : Point} {call : CallId}
  {new more : List SessionEvent}

theorem inLine_iff : session.inLine call = true ↔
    ∃ chain, session.stage? call = some (.queued (.exchange chain)) := by
  unfold inLine
  split
  · rename_i chain queued
    exact iff_of_true rfl ⟨chain, queued⟩
  · rename_i other
    exact iff_of_false (by simp) fun ⟨chain, queued⟩ => other chain queued

theorem queuedOutcomes_append (session : Session) (first second : List SessionEvent) :
    queuedOutcomes session (first ++ second) =
      queuedOutcomes session first ++ queuedOutcomes session second :=
  List.filterMap_append

theorem queuedOutcomes_of_aside (session : Session) (aside : ∀ event ∈ new, event.isAside = true) :
    queuedOutcomes session new = [] := by
  refine filterMap_of_aside (fun event silent => ?_) aside
  cases event <;> first | rfl | cases silent

theorem mem_queuedOutcomes {outcome : Outcome} (waited : session.inLine call = true)
    (ended : SessionEvent.ended call outcome ∈ new) : outcome ∈ queuedOutcomes session new :=
  List.mem_filterMap.mpr ⟨_, ended, by simp [waited]⟩

theorem OnlyFirstCancelled.nil : OnlyFirstCancelled [] := ⟨0, .inl rfl⟩

theorem OnlyFirstCancelled.turnedAway {outcomes : List Outcome}
    (orderly : OnlyFirstCancelled outcomes) :
    OnlyFirstCancelled (outcomes ++ [.error .notConnected]) := by
  obtain ⟨count, rfl | rfl⟩ := orderly
  · exact ⟨count + 1, .inl List.replicate_succ'.symm⟩
  · exact ⟨count + 1, .inr (by rw [List.replicate_succ']; rfl)⟩

/-- A call stays at its stage unless it acts itself or comes to its end. -/
theorem stage?_of_move (move : Move point session last final) (call : CallId) :
    final.stage? call = session.stage? call ∨ call ∈ departures final.history ∨
      last = .outside ∧ (point.worker? = some call ∨ point.asker? = some call) := by
  have acts : ∀ other,
      last = .outside ∧ (point.worker? = some other ∨ point.asker? = some other) →
      (call ≠ other → final.stage? call = session.stage? call) →
      final.stage? call = session.stage? call ∨ call ∈ departures final.history ∨
        last = .outside ∧ (point.worker? = some call ∨ point.asker? = some call) := by
    intro other runs still
    by_cases same : call = other
    · exact .inr (.inr (same ▸ runs))
    · exact .inl (still same)
  have gone : ∀ other event, event ∈ final.history → event.leaver? = some other →
      (call ≠ other → final.stage? call = session.stage? call) →
      final.stage? call = session.stage? call ∨ call ∈ departures final.history ∨
        last = .outside ∧ (point.worker? = some call ∨ point.asker? = some call) := by
    intro other event recorded leaves still
    by_cases same : call = other
    · exact .inr (.inl (List.mem_filterMap.mpr ⟨event, recorded, same ▸ leaves⟩))
    · exact .inl (still same)
  cases move with
  | wait other holder job held =>
      exact acts other ⟨rfl, .inr rfl⟩ fun apart =>
        (stage?_park _ call other _).trans (if_neg apart)
  | pause other chain | pend other goal bridge found here nothing
  | pick other goal bridge found here tags polled tag wallet =>
      exact acts other ⟨rfl, .inl rfl⟩ fun apart => by simp [stage?_park, apart]
  | send other tag chain =>
      exact acts other ⟨rfl, .inl rfl⟩ fun apart => by simp [Session.send, stage?_park, apart]
  | leave other outcome =>
      exact gone other (.ended other outcome) (by simp) rfl fun apart => by simp [apart]
  | dropHanded other job queued handed | dropHolder other stage pending working =>
      exact gone other (.dropped other) (by simp) rfl fun apart => by
        simp [stage?_forget, apart]
  | dropWaiting other job queued waiting =>
      exact gone other (.dropped other) (by simp) rfl fun apart =>
        (stage?_forget _ call other).trans (if_neg apart)
  | start other purpose dead => exact .inl (stage?_openBridge _ call)
  | restart other chain bridge connection ready now aged => exact .inl (stage?_hangUp _ none call)
  | lineFinish | report | finish | fail => exact .inl (by simp)
  | _ => exact .inl rfl

/-- A call that was in line is turned away or cancelled once it works. -/
def Point.RejectsQueued (base : Session) (new : List SessionEvent) (session : Session) :
    Point → Prop
  | .holding call job => base.inLine call = true → ∃ chain, job = .exchange chain
  | .failing call error =>
    base.inLine call = true → error = .cancelled ∧ queuedOutcomes base new = []
  | .leaving call outcome =>
    base.inLine call = true → session.phase ≠ .connected ∧
      (outcome = .error .notConnected ∨ outcome = .error .cancelled ∧ queuedOutcomes base new = [])
  | point => ∀ call, point.worker? = some call → base.inLine call = false

/-- The slot has been empty since, and the exchanges that were in line get nowhere. -/
structure RejectingQueued (base : Session) (new : List SessionEvent) (point : Point)
    (session : Session) : Prop where
  window : SlotEmptySince base new point session
  orderly : OnlyFirstCancelled (queuedOutcomes base new)
  down : queuedOutcomes base new ≠ [] → session.phase ≠ .connected
  running : point.RejectsQueued base new session
  waits : ∀ call, base.inLine call = true →
    session.inLine call = true ∨ call ∈ departures session.history

theorem RejectingQueued.inLine (reached : Reached point session)
    (revoking : RejectingQueued base new point session) (waited : base.inLine call = true)
    (within : call ∈ session.lock.line) : session.inLine call = true := by
  rcases revoking.waits call waited with waits | departed
  · exact waits
  · exact absurd within (reached.departed.2 call departed).line

theorem RejectingQueued.not_asker (reached : Reached point session)
    (revoking : RejectingQueued base new point session) (waited : base.inLine call = true) :
    point.asker? ≠ some call := by
  intro asking
  rcases revoking.waits call waited with waits | departed
  · obtain ⟨chain, queued⟩ := inLine_iff.mp waits
    have within := reached.lined.pending call _ queued
    exact Nat.lt_irrefl call ((reached.lined.asker call asking).2 call within)
  · exact (reached.departed.2 call departed).asker asking

theorem RejectingQueued.past_line (reached : Reached point session)
    (revoking : RejectingQueued base new point session) {stage : Stage}
    (pending : session.stage? call = some stage) (working : ∀ job, stage ≠ .queued job) :
    base.inLine call = false := by
  refine Bool.eq_false_iff.mpr fun waited => ?_
  obtain ⟨chain, queued⟩ :=
    inLine_iff.mp (revoking.inLine reached waited (reached.lined.pending call stage pending))
  rw [pending, Option.some.injEq] at queued
  exact working _ queued

theorem RejectingQueued.not_parked (revoking : RejectingQueued base new point session)
    (move : Move point session .outside final) (working : point.worker? = some call)
    (stays : ∀ call outcome, point ≠ .leaving call outcome) : base.inLine call = false := by
  have running := revoking.running
  cases point with
  | outside | asking | lining => cases working
  | holding | failing => cases move
  | leaving other outcome => exact absurd rfl (stays other outcome)
  | _ => exact running call working

/-- A call that was in line is cancelled if it finds the session connected and nobody was before
it. -/
theorem RejectingQueued.running_move (reached : Reached point session)
    (revoking : RejectingQueued base new point session) (move : Move point session last final)
    (empty : final.slot = none)
    (same : queuedOutcomes base (new ++ more) = queuedOutcomes base new) :
    last.RejectsQueued base (new ++ more) final := by
  have closed := revoking.window.closed reached.sound
  have running := revoking.running
  have past : ∀ {call : CallId} {stage : Stage}, session.stage? call = some stage →
      (∀ job, stage ≠ .queued job) → base.inLine call = true → False := by
    intro call stage pending working waited
    rw [revoking.past_line reached pending working] at waited
    cases waited
  have idle : ∀ {call : CallId}, (∀ other, some call = some other → base.inLine other = false) →
      base.inLine call = true → False := by
    intro call apart waited
    rw [apart call rfl] at waited
    cases waited
  cases move with
  | take call job free => exact fun waited => absurd rfl (revoking.not_asker reached waited)
  | turn call job queued handed =>
      intro waited
      obtain ⟨chain, pending⟩ := inLine_iff.mp
        (revoking.inLine reached waited (Lock.mem_line.mpr (.inl handed)))
      rw [queued, Option.some.injEq, Stage.queued.injEq] at pending
      exact ⟨chain, pending⟩
  | deny | finish | look =>
      intro waited
      obtain ⟨chain, other⟩ := running waited
      cases other
  | start call purpose dead => simp at empty
  | unconnected call chain elsewhere => exact fun _ => ⟨elsewhere, .inl rfl⟩
  | stale call chain connected severed =>
      refine fun _ => ⟨rfl, ?_⟩
      rw [same]
      exact Classical.byContradiction fun some => revoking.down some connected
  | interrupted call chain bridge found reason connected held here unclosed unread =>
      have shut := closed bridge
      simp [isClosed, here, unclosed] at shut
  | unattached call chain connected bare =>
      have carded := reached.sound.coherent.connection
      rw [connected, bare] at carded
      cases carded
  | keep call chain bridge connection ready | renew call chain bridge connection ready
  | restart call chain bridge connection ready =>
      have unclosed := ready.unclosed
      rw [closed bridge] at unclosed
      cases unclosed
  | tooLate | beginRefused | beginCut | lost | exhaust | halt | foreign | attachStart =>
      exact fun waited => (idle running waited).elim
  | begin | begun | repolled | attachRestart | attachRenew => exact running
  | rested call bridge chain pending | poll call goal bridge pending
  | answerNext call tag chain bytes response pending =>
      intro other working
      obtain rfl := Option.some.inj working
      exact revoking.past_line reached pending (by simp)
  | accept call goal bridge tag connecting unclosed =>
      rw [closed bridge] at unclosed
      cases unclosed
  | reject call goal bridge tag fault pending | desert call goal bridge tag pending
  | answerLost call tag rest fault pending | answerShort call tag rest bytes fault pending
  | answerLast call tag bytes response pending
  | answerFault call tag chain bytes response fault pending =>
      exact fun waited => (past pending (by simp) waited).elim
  | fail call error =>
      intro waited
      obtain ⟨rfl, nothing⟩ := running waited
      refine ⟨?_, .inr ⟨rfl, same.trans nothing⟩⟩
      rw [phase_shutDown]
      cases session.phase <;> simp [Phase.shut]
  | report bridge notice hears =>
      cases point <;> first
        | exact running
        | cases hears
  | _ =>
      intro other working
      cases working

theorem RejectingQueued.queuedOutcomes_move (reached : Reached point session)
    (revoking : RejectingQueued base new point session) (move : Move point session last final)
    (grown : final.history = session.history ++ more)
    (stays : ∀ call outcome, point ≠ .leaving call outcome) : queuedOutcomes base more = [] := by
  obtain ⟨events, told, moments⟩ := reached.sound.moments move
  rw [grown, List.append_cancel_left_eq] at told
  subst told
  refine List.filterMap_eq_nil_iff.mpr fun event member => ?_
  obtain ⟨mid, moment⟩ := moments.of_mem member
  cases event with
  | ended caller outcome =>
      rcases moment with leaves | ⟨request, error, rfl, _⟩
      · exact absurd leaves (stays caller outcome)
      · refine if_neg fun waited => ?_
        exact revoking.not_asker reached waited rfl
  | _ => rfl

theorem RejectingQueued.still (reached : Reached point session)
    (revoking : RejectingQueued base new point session) (move : Move point session last final)
    (window : SlotEmptySince base (new ++ more) last final)
    (grown : final.history = session.history ++ more)
    (stays : ∀ call outcome, point ≠ .leaving call outcome) :
    RejectingQueued base (new ++ more) last final := by
  have same : queuedOutcomes base (new ++ more) = queuedOutcomes base new := by
    rw [queuedOutcomes_append, revoking.queuedOutcomes_move reached move grown stays,
      List.append_nil]
  refine ⟨window, ?_, ?_, revoking.running_move reached move window.empty same, ?_⟩
  · rw [same]
    exact revoking.orderly
  · intro some connected
    rw [same] at some
    have leavesRadio := revoking.window.leavesRadio
    rcases kept_of_move move connected with ⟨before, _⟩ | attaches
    · exact revoking.down some before
    · cases point <;> first
        | exact leavesRadio
        | cases attaches
  · intro call waited
    rcases revoking.waits call waited with waits | departed
    · rcases stage?_of_move move call with kept | gone | ⟨rfl, working | asking⟩
      · refine .inl ?_
        unfold Session.inLine at waits ⊢
        rw [kept]
        exact waits
      · exact .inr gone
      · rw [revoking.not_parked move working stays] at waited
        cases waited
      · exact absurd asking (revoking.not_asker reached waited)
    · refine .inr ?_
      rw [grown, departures_append]
      exact List.mem_append_left _ departed

/-- A call that was in line ends cancelled or turned away. -/
theorem RejectingQueued.leave {outcome : Outcome}
    (reached : Reached (.leaving call outcome) session)
    (revoking : RejectingQueued base new (.leaving call outcome) session)
    (window : SlotEmptySince base (new ++ more) .outside (session.conclude call outcome))
    (grown : (session.conclude call outcome).history = session.history ++ more) :
    RejectingQueued base (new ++ more) .outside (session.conclude call outcome) := by
  have came : queuedOutcomes base more = if base.inLine call then [outcome] else [] := by
    simp only [conclude_fields, List.append_cancel_left_eq] at grown
    rw [← grown, queuedOutcomes_append, queuedOutcomes_of_aside base (isAside_granted _),
      List.nil_append]
    cases waited : base.inLine call <;> simp [queuedOutcomes, waited]
  refine ⟨window, ?_, ?_, (fun _ working => by cases working), ?_⟩
  · rw [queuedOutcomes_append, came]
    split
    · rename_i waited
      obtain ⟨_, rfl | ⟨rfl, nothing⟩⟩ := revoking.running waited
      · exact revoking.orderly.turnedAway
      · rw [nothing]
        exact ⟨0, .inr rfl⟩
    · rw [List.append_nil]
      exact revoking.orderly
  · intro some
    rw [(conclude_fields ..).2.1]
    by_cases waited : base.inLine call = true
    · exact (revoking.running waited).1
    · refine revoking.down ?_
      rwa [queuedOutcomes_append, came, if_neg waited, List.append_nil] at some
  · intro other waited
    by_cases same : other = call
    · refine .inr (List.mem_filterMap.mpr ⟨.ended call outcome, by simp, ?_⟩)
      rw [same]
      rfl
    · refine (revoking.waits other waited).imp ?_ ?_
      · unfold Session.inLine
        simp [same]
      · rw [grown, departures_append]
        exact List.mem_append_left _

/-- The exchanges that were in line get nowhere until the next bridge is opened. -/
theorem RejectingQueued.move (reached : Reached point session)
    (revoking : RejectingQueued base new point session) (move : Move point session last final) :
    (∃ more, RejectingQueued base (new ++ more) last final) ∨
      ∃ bridge, final.history = session.history ++ [.opened bridge] := by
  rcases revoking.window.move reached move with ⟨more, window⟩ | ⟨call, purpose, rfl, opened⟩
  · have grown : final.history = session.history ++ more := by
      rw [window.grown, revoking.window.grown, List.append_assoc]
    refine .inl ⟨more, ?_⟩
    by_cases leaves : ∃ call outcome, point = .leaving call outcome
    · obtain ⟨call, outcome, rfl⟩ := leaves
      cases move with
      | leave call outcome => exact revoking.leave reached window grown
      | report bridge notice hears => cases hears
    · exact revoking.still reached move window grown fun call outcome here =>
        leaves ⟨call, outcome, here⟩
  · exact .inr ⟨_, opened⟩

theorem RejectingQueued.moves (reached : Reached point session)
    (revoking : RejectingQueued base new point session) (moves : Moves point session last final) :
    (∃ more, RejectingQueued base (new ++ more) last final) ∨
      ∃ more bridge rest, final.history = session.history ++ more ++ .opened bridge :: rest := by
  induction moves with
  | refl => exact .inl ⟨[], by rw [List.append_nil]; exact revoking⟩
  | tail before move ih =>
      have between := reached.trans before
      rcases ih with ⟨more, still⟩ | ⟨more, bridge, rest, told⟩
      · rcases still.move between move with ⟨longer, further⟩ | ⟨bridge, opened⟩
        · exact .inl ⟨more ++ longer, by rw [← List.append_assoc]; exact further⟩
        · obtain ⟨extra, grown⟩ := reached.grows before
          refine .inr ⟨extra, bridge, [], ?_⟩
          rw [opened, ← grown]
      · obtain ⟨extra, grown⟩ := between.grows (.single move)
        refine .inr ⟨more, bridge, rest ++ extra, ?_⟩
        rw [← grown, told, List.append_assoc, List.cons_append]

theorem RejectingQueued.finish (session : Session) (cause : Option SessionError) :
    RejectingQueued session (session.hungUpEvents cause) (session.ender cause)
      (session.hungUp cause) := by
  have nobody : queuedOutcomes session (session.hungUpEvents cause) = [] := by
    change queuedOutcomes session (session.hangingUp _) = []
    exact queuedOutcomes_of_aside session (isAside_hangingUp session _)
  refine ⟨SlotEmptySince.finish session cause, ?_, fun some => absurd nobody some,
    (fun _ working => by cases working), ?_⟩
  · rw [nobody]
    exact .nil
  · intro call waited
    refine .inl ?_
    unfold Session.inLine
    rw [stage?_hungUp]
    exact waited

theorem ended_of_fail (session : Session) (call : CallId) (error : SessionError) :
    SessionEvent.ended call (.error error) ∈ (session.fail call error).history := by
  simp [Session.fail]

/-- While the slot is empty an exchange ends as soon as it is its turn. -/
theorem ended_in_turn (closed : ∀ bridge, session.isClosed bridge = true)
    (waits : session.inLine call = true) (held : session.lock.holder = some call)
    (around : Surroundings) :
    SessionEvent.ended call
      (.error (if session.phase = .connected then .cancelled else .notConnected)) ∈
        (session.step (.wake call .look around)).history := by
  obtain ⟨chain, queued⟩ := inLine_iff.mp waits
  simp only [Session.step, wake, queued, held, ↓reduceIte, enter, runExchange]
  by_cases connected : session.phase = .connected
  · rw [if_pos connected, if_neg (not_not_intro connected)]
    split
    · exact ended_of_fail ..
    · rename_i bridge attached
      split
      · exact ended_of_fail ..
      · rename_i found here
        have shut : found.closed = true := by simpa [isClosed, here] using closed bridge
        rw [if_pos shut]
        exact ended_of_fail ..
  · rw [if_neg connected, if_pos connected]
    simp

theorem RejectingQueued.unsent (revoking : RejectingQueued base new point session)
    (waited : base.inLine call = true) : sentBy new call = [] := by
  refine List.filterMap_eq_nil_iff.mpr fun event dealt => ?_
  obtain ⟨member, concerned⟩ := List.mem_filter.mp dealt
  cases event with
  | sent caller tag command =>
      obtain rfl : caller = call := by simpa [SessionEvent.concerns] using concerned
      obtain ⟨rest, transmitting, _⟩ := revoking.window.sent caller tag command member
      obtain ⟨chain, queued⟩ := inLine_iff.mp waited
      rw [transmitting] at queued
      cases queued
  | _ => rfl

/-- An exchange that was in line still is, was dropped or has ended. -/
theorem RejectingQueued.inLine_or_ended (reached : Reached .outside base)
    (revoking : RejectingQueued base new point session) (waited : base.inLine call = true) :
    session.inLine call = true ∨ SessionEvent.dropped call ∈ new ∨
      ∃ outcome ∈ queuedOutcomes base new, SessionEvent.ended call outcome ∈ new := by
  refine (revoking.waits call waited).imp_right fun departed => ?_
  obtain ⟨chain, queued⟩ := inLine_iff.mp waited
  rw [revoking.window.grown, departures_append, List.mem_append] at departed
  rcases departed with before | since
  · exact absurd (reached.lined.pending call _ queued) (reached.departed.2 call before).line
  · obtain ⟨event, member, leaves⟩ := List.mem_filterMap.mp since
    cases event with
    | ended caller outcome =>
        obtain rfl : caller = call := Option.some.inj leaves
        exact .inr ⟨outcome, mem_queuedOutcomes waited member, member⟩
    | dropped caller =>
        obtain rfl : caller = call := Option.some.inj leaves
        exact .inl member
    | _ => cases leaves

theorem Reached.queuedRejected (reached : Reached .outside session) (cause : Option SessionError)
    (around : Surroundings) (stimuli : List Stimulus) {new : List SessionEvent}
    (grown : ((session.step (.call (.finish cause) around)).run stimuli).history =
      session.history ++ new)
    (unopened : ∀ event ∈ new, event.opens = false) :
    QueuedRejected session ((session.step (.call (.finish cause) around)).run stimuli) new := by
  have here := reached.trans (hungUp_moves session cause)
  have moves := (finish_moves session cause around).trans (run_moves _ stimuli)
  rcases (RejectingQueued.finish session cause).moves here moves with
    ⟨more, revoking⟩ | ⟨more, bridge, rest, told⟩
  · rw [revoking.window.grown, List.append_cancel_left_eq] at grown
    subst grown
    have closed := revoking.window.closed (here.trans moves).sound
    exact ⟨fun call => revoking.unsent, revoking.orderly, revoking.down,
      fun call => revoking.inLine_or_ended reached, fun call => ended_in_turn closed⟩
  · -- A bridge was opened, but none was recorded.
    rw [told, history_hungUp, List.append_assoc, List.append_assoc,
      List.append_cancel_left_eq] at grown
    have opened := unopened (.opened bridge) (by simp [← grown])
    cases opened

/-- Until a start opens the next bridge after the end of a session, the exchanges that were in line
send nothing. The first one is cancelled if the session is connected still when it gets the lock;
all others are told that it is not. -/
theorem run_finish_rejects_queued (policy : Policy) (before after : List Stimulus)
    (cause : Option SessionError) (around : Surroundings) (new : List SessionEvent)
    (grown : ((initial policy).run (before ++ .call (.finish cause) around :: after)).history =
      ((initial policy).run before).history ++ new)
    (unopened : ∀ event ∈ new, event.opens = false) :
    QueuedRejected ((initial policy).run before)
      ((initial policy).run (before ++ .call (.finish cause) around :: after)) new := by
  rw [run_append, run_cons] at grown ⊢
  exact (Reached.run policy before).queuedRejected cause around after grown unopened

/-- An exchange waits for its answer, and two more are in line. -/
def threeExchanges : List Stimulus :=
  [.call (.start .identify) {}, .notice 0 (.detected [⟨0, .iso7816, some walletAid⟩]),
    .wake 0 .look {}, .wake 0 (.connected none) {}, .call (.send []) {}, .call (.send []) {},
    .call (.send []) {}]

/-- The answer comes after the end of the session, and the exchanges in line take their turns. -/
def threeTurns : List Stimulus :=
  [.wake 1 (.replied (.ok [0x90, 0])) {}, .wake 2 .look {}, .wake 3 .look {}]

def afterFinish : List SessionEvent :=
  ((initial {}).run (threeExchanges ++ .call (.finish none) {} :: threeTurns)).history.drop
    ((initial {}).run threeExchanges).history.length

theorem second_and_third_rejected :
    (((initial {}).run (threeExchanges ++ .call (.finish none) {} :: threeTurns)).history =
        ((initial {}).run threeExchanges).history ++ afterFinish ∧
      ∀ event ∈ afterFinish, event.opens = false) ∧
    QueuedRejected ((initial {}).run threeExchanges)
      ((initial {}).run (threeExchanges ++ .call (.finish none) {} :: threeTurns)) afterFinish :=
  ⟨⟨by decide +kernel, by decide +kernel⟩,
    run_finish_rejects_queued {} threeExchanges threeTurns none {} afterFinish (by decide +kernel)
      (by decide +kernel)⟩

/-- The session was connected, and of the two exchanges in line only the first is cancelled. -/
theorem second_in_line_not_cancelled :
    ((initial {}).run threeExchanges).phase = .connected ∧
      ((initial {}).run threeExchanges).inLine 2 = true ∧
      ((initial {}).run threeExchanges).inLine 3 = true ∧
      queuedOutcomes ((initial {}).run threeExchanges) afterFinish =
        [.error .cancelled, .error .notConnected] ∧
      SessionEvent.ended 3 (.error .notConnected) ∈ afterFinish := by
  decide +kernel

end Session

end Contactless
