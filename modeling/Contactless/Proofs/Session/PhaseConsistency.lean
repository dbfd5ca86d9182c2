import Contactless.Proofs.Session.Record

/-!
What anybody finds who looks at a session while all pending calls wait.

The fields agree at every suspension point. Only a call at work under the lock can leave the
session in the middle of starting, renewing or restarting, so a caller who holds the lock sees a
session that is idle, connected or invalidated.
-/

set_option autoImplicit false

namespace Contactless

/-- A snapshot reports a connection and its clock readings exactly in the connected phase. -/
structure Snapshot.MatchesPhase (view : Snapshot) : Prop where
  connected : view.connected = true ↔ view.phase = .connected
  startedAt : view.startedAt.isSome = true ↔ view.phase = .connected
  renewedAt : view.renewedAt.isSome = true ↔ view.phase = .connected

theorem Phase.isSettled_iff {phase : Phase} :
    phase.isSettled = true ↔ phase = .idle ∨ phase = .connected ∨ phase = .invalidated := by
  cases phase <;> decide

theorem Phase.hasCard_of_isSettled {phase : Phase} (settled : phase.isSettled = true) :
    phase.hasCard = true ↔ phase = .connected := by
  cases phase with
  | idle | connected | invalidated => decide
  | starting | renewing | restarting => cases settled

namespace Session

/-- A call is at work under the lock: it holds it and is no longer in line. -/
def Owned (session : Session) : Prop :=
  ∃ call stage, session.lock.holder = some call ∧ session.stage? call = some stage ∧
    ∀ job, stage ≠ .queued job

/-- What holds of a session whenever all pending calls wait. -/
structure PhaseConsistent (session : Session) : Prop where
  unowned : ¬ session.Owned →
    session.phase = .idle ∨ session.phase = .connected ∨ session.phase = .invalidated
  connected : session.phase = .connected →
    session.connection.isSome = true ∧
      ∃ bridge found, session.held = some bridge ∧ session.bridges[bridge]? = some found ∧
        (session.slot = some bridge ∨ session.slot = none ∧ found.closed = true)
  ended : session.phase = .idle ∨ session.phase = .invalidated →
    session.connection = none ∧ session.held = none ∧ session.slot = none
  views : ∀ call view, SessionEvent.ended call (.ok (.snapshot view)) ∈ session.history →
    view.MatchesPhase
  live : session.live = session.phase.isLive

variable {session : Session}

/-- While nobody is at work the holder is at rest. -/
theorem Lined.place_of_unowned (lined : Lined .outside session) (unowned : ¬ session.Owned) :
    session.place = .rest := by
  cases held : session.lock.holder with
  | none => simp [place, held]
  | some call =>
      obtain ⟨stage, pending⟩ := lined.holder call held (by simp [Point.worker?])
      rw [place_of_stage held pending]
      cases stage with
      | queued job => rfl
      | _ => exact absurd ⟨call, _, held, pending, by simp⟩ unowned

/-- A connected session reads from a bridge that is in the slot, or that has been closed. -/
theorem Coherent.bridge_of_connected (coherent : Coherent session)
    (connected : session.phase = .connected) :
    ∃ bridge found, session.held = some bridge ∧ session.bridges[bridge]? = some found ∧
      (session.slot = some bridge ∨ session.slot = none ∧ found.closed = true) := by
  have held := coherent.held
  rw [connected] at held
  obtain ⟨bridge, held⟩ := Option.isSome_iff_exists.mp held
  have uses := coherent.uses bridge held
  obtain ⟨found, here⟩ : ∃ found, session.bridges[bridge]? = some found :=
    ⟨_, List.getElem?_eq_getElem uses.opened⟩
  refine ⟨bridge, found, held, here, ?_⟩
  rcases uses.slot with empty | filled
  · -- The session was ended without the lock, which closed the bridge.
    right
    refine ⟨empty, ?_⟩
    cases closed : found.closed with
    | true => rfl
    | false =>
        have filled := coherent.unclosed bridge (by simp [isClosed, here, closed])
        rw [empty] at filled
        cases filled
  · exact .inl filled

theorem Coherent.nothing_of_dead (coherent : Coherent session)
    (dead : session.phase.isLive = false) (bare : session.phase.hasCard = false) :
    session.connection = none ∧ session.held = none ∧ session.slot = none := by
  have connection := coherent.connection
  have held := coherent.held
  rw [bare] at connection held
  exact ⟨Option.isSome_eq_false_iff.mp connection |> Option.isNone_iff_eq_none.mp,
    Option.isSome_eq_false_iff.mp held |> Option.isNone_iff_eq_none.mp, coherent.dead dead⟩

theorem Coherent.matchesPhase (coherent : Coherent session)
    (settled : session.phase.isSettled = true) : session.view.MatchesPhase := by
  have carded : session.connection.isSome = true ↔ session.phase = .connected := by
    rw [coherent.connection]
    exact Phase.hasCard_of_isSettled settled
  refine ⟨carded, ?_, ?_⟩
  · simpa [view] using carded
  · simpa [view] using carded

/-- A call is about to return a snapshot only if the snapshot is true. -/
def ReturnsMatching (point : Point) : Prop :=
  ∀ call view, point = .leaving call (.ok (.snapshot view)) → view.MatchesPhase

theorem Reached.returnsMatching {point : Point} (reached : Reached point session) :
    ReturnsMatching point := by
  refine reached.induction (motive := fun point _ => ReturnsMatching point) ?_ ?_
  · intro policy call view impossible
    cases impossible
  · intro point session last final before returnsMatching move call view leaving
    cases move with
    | look call =>
        have settled : session.phase.isSettled = true := before.sound.fits
        injection leaving with _ returned
        injection returned with returned
        injection returned with same
        rw [← same]
        exact before.sound.coherent.matchesPhase settled
    | report bridge notice hears => exact returnsMatching call view leaving
    | _ => cases leaving

/-- Every snapshot that a call returned is true. -/
theorem Reached.matchesPhase {point : Point} (reached : Reached point session) {call : CallId}
    {view : Snapshot}
    (returned : SessionEvent.ended call (.ok (.snapshot view)) ∈ session.history) :
    view.MatchesPhase := by
  obtain ⟨before, after, here⟩ := List.append_of_mem returned
  have lawful : Along (fun _ event => ∀ call view, event = .ended call (.ok (.snapshot view)) →
      view.MatchesPhase) [] session.history := by
    refine Reached.along ?_ reached
    rintro point session last before _ reached moment call view rfl
    rcases moment with leaving | ⟨_, _, _, failed⟩
    · exact reached.returnsMatching call view leaving
    · cases failed
  exact lawful.at here call view rfl

/-- Wherever a run stands, the session is settled: calls, reports of the radio, abandoned calls
and clock readings may come in any order. -/
theorem run_phase_consistent (policy : Policy) (stimuli : List Stimulus) :
    PhaseConsistent ((initial policy).run stimuli) := by
  have reached := Reached.run policy stimuli
  have coherent := reached.sound.coherent
  have fits := reached.sound.fits
  refine ⟨?_, ?_, ?_, ?_, coherent.live⟩
  · intro unowned
    rw [Point.place, reached.lined.place_of_unowned unowned] at fits
    exact Phase.isSettled_iff.mp fits
  · intro connected
    refine ⟨?_, coherent.bridge_of_connected connected⟩
    rw [coherent.connection, connected]
    rfl
  · intro settled
    rcases settled with idle | invalidated
    · exact coherent.nothing_of_dead (by rw [idle]; rfl) (by rw [idle]; rfl)
    · exact coherent.nothing_of_dead (by rw [invalidated]; rfl) (by rw [invalidated]; rfl)
  · exact fun call view returned => reached.matchesPhase returned

end Session

end Contactless
