import Contactless.Proofs.Session.Ending
import Contactless.Proofs.Session.Outcome
import Contactless.Proofs.Session.PhaseConsistency

/-!
Sessions that are not live.

While no session is live there is nothing to do under the lock but to start one. The slot is empty,
so whatever the radio reports is lost, and to end the session once more changes nothing. A session
that is not live therefore stays as it is until a start opens the next bridge, and until then no
start is told that another session is active.
-/

set_option autoImplicit false

namespace Contactless

/-- Whether the event tells of calls, of the lock or of the text in front of the user only. -/
def SessionEvent.isIdle : SessionEvent → Bool
  | .called _ _ | .requested _ | .granted _ | .ended _ _ | .dropped _ | .alerted _ => true
  | _ => false

theorem Goal.isLive_phase (goal : Goal) : goal.phase.isLive = true := by
  cases goal <;> rfl

namespace Session

/-- A session that was not live has stayed as it was until a start opened the next bridge. -/
structure UnchangedUntilOpened (session final : Session) (new : List SessionEvent) : Prop where
  grown : final.history = session.history ++ new
  idle : ∀ event ∈ untilOpened new, event.isIdle = true
  unrefused : ∀ call, SessionEvent.ended call (.error .alreadyActive) ∉ untilOpened new
  unchanged : (∀ event ∈ new, event.opens = false) → Unchanged session final
  opener : ∀ bridge after, new = untilOpened new ++ .opened bridge :: after →
    ∃ call purpose, (grants (session.history ++ untilOpened new)).getLast? = some call ∧
      SessionEvent.called call (.start purpose) ∈ session.history ++ untilOpened new

variable {base : Session} {new : List SessionEvent} {point last : Point} {session final : Session}

/-- To take a session down that is not live changes nothing. -/
theorem Coherent.shutDown_of_dead (coherent : Coherent session)
    (dead : session.phase.isLive = false) (farewell : Option String) :
    session.shutDown farewell = session := by
  have bare : session.phase.hasCard = false := by
    cases phase : session.phase <;> simp [phase, Phase.isLive, Phase.hasCard] at dead ⊢
  have shut : session.phase.shut = session.phase := by
    cases phase : session.phase <;> simp [phase, Phase.isLive, Phase.shut] at dead ⊢
  have live : session.live = false := coherent.live.trans dead
  obtain ⟨connection, held, empty⟩ := coherent.nothing_of_dead dead bare
  simp only [Session.shutDown, hangUp_of_empty empty, shut, ← connection, ← held, ← live]

/-- A call past the line works for a session that is live. -/
theorem Sound.queued_of_dead {call : CallId} {stage : Stage} (lined : Lined .outside session)
    (sound : Sound .outside session) (dead : session.phase.isLive = false)
    (pending : session.stage? call = some stage) : ∃ job, stage = .queued job := by
  refine Classical.byContradiction fun working => ?_
  have past : ∀ job, stage ≠ .queued job := fun job same => working ⟨job, same⟩
  have fits := sound.fits
  rw [Point.place, place_of_stage (lined.holder_of_stage pending past) pending] at fits
  cases stage with
  | queued job => exact past job rfl
  | detecting goal bridge | connecting goal bridge tag =>
      rw [fits.1, Goal.isLive_phase] at dead
      cases dead
  | resting bridge chain | transmitting tag rest =>
      rw [fits.1] at dead
      cases dead

/-- A move of a session that is not live changes nothing, unless a start opens a bridge. -/
theorem Sound.dead_move (lined : Lined point session) (sound : Sound point session)
    (dead : session.phase.isLive = false) (move : Move point session last final) :
    (Unchanged session final ∧ ∃ new, final.history = session.history ++ new ∧
      ∀ event ∈ new, event.isIdle = true) ∨
    ∃ call purpose, point = .holding call (.start purpose) ∧
      final.history = session.history ++ [.opened session.nextBridge] := by
  have empty := sound.coherent.dead dead
  have closed : ∀ bridge, session.isClosed bridge = true :=
    fun bridge => sound.coherent.finished (by simp [empty])
  have shut := sound.coherent.shutDown_of_dead dead
  have fits := sound.fits
  -- Everybody waits in line, and no call is at work for a session.
  have waits : ∀ {call : CallId} {stage : Stage}, point = .outside →
      session.stage? call = some stage → (∀ job, stage ≠ .queued job) → False := by
    rintro call stage rfl pending working
    obtain ⟨job, queued⟩ := sound.queued_of_dead lined dead pending
    exact working job queued
  have elsewhere : ∀ {phase : Phase}, phase.isLive = true → session.phase ≠ phase := by
    rintro phase live rfl
    rw [live] at dead
    cases dead
  have same : Unchanged session session ∧ ∃ new, session.history = session.history ++ new ∧
      ∀ event ∈ new, event.isIdle = true := ⟨.refl session, [], by simp, by simp⟩
  have idle : ∀ event : SessionEvent, event.isIdle = true →
      ∀ other ∈ session.lock.release.holder.toList.map SessionEvent.granted ++ [event],
        other.isIdle = true := by
    intro event quiet other member
    rcases List.mem_append.mp member with granted | same
    · obtain ⟨call, _, rfl⟩ := List.mem_map.mp granted
      rfl
    · rw [List.mem_singleton.mp same]
      exact quiet
  cases move with
  | lineStart | lineExchange | lineLook | turn | deny | look | unconnected => exact .inl same
  | ask | refuseRadio | refuseLive | refuseEmpty | alert =>
      exact .inl ⟨.recorded session _ _ _ _, [_], rfl, by simp [SessionEvent.isIdle]⟩
  | lineFinish call cause =>
      rw [hangUp_of_empty empty]
      exact .inl same
  | take call job free =>
      exact .inl ⟨.recorded session _ _ _ _, [.requested call, .granted call], by simp,
        by simp [SessionEvent.isIdle]⟩
  | wait call holder job held =>
      exact .inl ⟨.recorded session _ _ _ _, [.requested call], by simp,
        by simp [SessionEvent.isIdle]⟩
  | report bridge notice hears =>
      rw [report_of_closed session (closed bridge)]
      exact .inl same
  | start call purpose => exact .inr ⟨call, purpose, rfl, history_openBridge _ empty⟩
  | finish | fail =>
      rw [shut]
      exact .inl same
  | stale call chain connected | interrupted call chain bridge found reason connected
  | unattached call chain connected => exact absurd connected (elsewhere rfl)
  | keep call chain bridge connection ready | renew call chain bridge connection ready
  | restart call chain bridge connection ready => exact absurd ready.phase (elsewhere rfl)
  | pause => exact absurd fits.1 (elsewhere rfl)
  | tooLate call goal | begin call goal | beginRefused call goal | beginCut call goal
  | begun call goal | lost call goal | pend call goal | exhaust call goal | halt call goal
  | foreign call goal | pick call goal =>
      exact absurd fits.1 (elsewhere (Goal.isLive_phase goal))
  | repolled | attachStart | attachRestart | attachRenew | send =>
      exact absurd fits.1 (elsewhere rfl)
  | rested call bridge chain pending | poll call goal bridge pending
  | reject call goal bridge tag fault pending | desert call goal bridge tag pending
  | accept call goal bridge tag pending
  | answerLost call tag rest fault pending | answerShort call tag rest bytes fault pending
  | answerLast call tag bytes response pending
  | answerFault call tag chain bytes response fault pending
  | answerNext call tag chain bytes response pending => exact (waits rfl pending (by simp)).elim
  | leave call outcome =>
      refine .inl ⟨.trans (.release session) (.recorded _ _ _ _ _), _, ?_,
        idle (.ended call outcome) rfl⟩
      simp
  | dropHanded call job queued handed =>
      refine .inl ⟨.trans (.release session) (.recorded _ _ _ _ _), _, ?_,
        idle (.dropped call) rfl⟩
      simp
  | dropWaiting call job queued waiting =>
      exact .inl ⟨.recorded session _ _ _ _, [_], rfl, by simp [SessionEvent.isIdle]⟩
  | dropHolder call stage pending working => exact (waits rfl pending working).elim

/-- Nothing has happened since to a session that was not live. -/
structure UnchangedSince (base : Session) (new : List SessionEvent) (point : Point)
    (session : Session) :
    Prop where
  grown : session.history = base.history ++ new
  unchanged : Unchanged base session
  idle : ∀ event ∈ new, event.isIdle = true
  unrefused : ∀ call, SessionEvent.ended call (.error .alreadyActive) ∉ new
  running : ∀ call, point ≠ .leaving call (.error .alreadyActive)

theorem UnchangedSince.dead (dormant : UnchangedSince base new point session)
    (dead : base.phase.isLive = false) : session.phase.isLive = false := by
  rw [dormant.unchanged.phase]
  exact dead

theorem UnchangedSince.unopened (dormant : UnchangedSince base new point session) :
    ∀ event ∈ new, event.opens = false := by
  intro event member
  have quiet := dormant.idle event member
  cases event <;> first | rfl | cases quiet

theorem UnchangedSince.running_move (reached : Reached point session)
    (dormant : UnchangedSince base new point session) (dead : base.phase.isLive = false)
    (move : Move point session last final) (call : CallId) :
    last ≠ .leaving call (.error .alreadyActive) := by
  rintro rfl
  cases move with
  | deny call purpose live =>
      rw [dormant.dead dead] at live
      cases live
  | fail call =>
      have accepted := reached.failing.1
      cases accepted
  | report bridge notice hears => cases hears

theorem UnchangedSince.unrefused_move (reached : Reached point session)
    (dormant : UnchangedSince base new point session) (dead : base.phase.isLive = false)
    (move : Move point session last final) {more : List SessionEvent}
    (grown : final.history = session.history ++ more) (call : CallId) :
    SessionEvent.ended call (.error .alreadyActive) ∉ more := by
  intro member
  obtain ⟨before, after, rfl⟩ := List.append_of_mem member
  rcases reached.sound.moment move grown with leaving | ⟨request, error, rfl, _⟩
  · exact dormant.running call leaving
  · have live := ((refused_of_asking move grown).2.2 rfl).1
    rw [reached.sound.coherent.live, dormant.dead dead] at live
    cases live

theorem UnchangedSince.move (reached : Reached point session)
    (dormant : UnchangedSince base new point session) (dead : base.phase.isLive = false)
    (move : Move point session last final) :
    (∃ more, UnchangedSince base (new ++ more) last final) ∨
      ∃ call purpose, point = .holding call (.start purpose) ∧
        final.history = session.history ++ [.opened session.nextBridge] := by
  refine (reached.sound.dead_move reached.lined (dormant.dead dead) move).imp_left ?_
  rintro ⟨unchanged, more, grown, idle⟩
  refine ⟨more, ?_, dormant.unchanged.trans unchanged, ?_, ?_,
    dormant.running_move reached dead move⟩
  · rw [grown, dormant.grown, List.append_assoc]
  · exact List.forall_mem_append.mpr ⟨dormant.idle, idle⟩
  · intro call member
    rcases List.mem_append.mp member with old | recent
    · exact dormant.unrefused call old
    · exact dormant.unrefused_move reached dead move grown call recent

theorem UnchangedSince.refl (session : Session)
    (running : ∀ call, point ≠ .leaving call (.error .alreadyActive)) :
    UnchangedSince session [] point session :=
  ⟨by simp, .refl session, by simp, by simp, running⟩

/-- A session that is not live stays as it is until a start opens the next bridge. -/
theorem Reached.unchangedUntilOpened (reached : Reached .outside session)
    (dead : session.phase.isLive = false) (moves : Moves .outside session .outside final) :
    ∃ new, UnchangedUntilOpened session final new := by
  have first : UnchangedSince session [] .outside session := .refl session (by simp)
  rcases reached.lasting (fun reached dormant move => UnchangedSince.move reached dormant dead move)
    first moves with ⟨new, still⟩ | ⟨new, call, purpose, middle, bridge, rest, still, before, later,
      told⟩ <;> rw [List.nil_append] at still
  · have all := untilOpened_of_unopened still.unopened
    refine ⟨new, still.grown, ?_, ?_, fun _ => still.unchanged, ?_⟩
    · rw [all]
      exact still.idle
    · rw [all]
      exact still.unrefused
    · intro bridge after impossible
      rw [all] at impossible
      cases List.self_eq_append_right.mp impossible
  · have all := untilOpened_append still.unopened bridge rest
    refine ⟨new ++ .opened bridge :: rest, ?_, ?_, ?_, ?_, ?_⟩
    · rw [told, still.grown, List.append_assoc]
    · rw [all]
      exact still.idle
    · rw [all]
      exact still.unrefused
    · intro unopened
      cases unopened (.opened bridge) (by simp)
    · intro _ _ _
      rw [all, ← still.grown]
      exact ⟨call, purpose, (reached.trans before).opener⟩

end Session

end Contactless
