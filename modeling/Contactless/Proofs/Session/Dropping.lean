import Contactless.Proofs.Session.AfterEnding
import Contactless.Proofs.Session.Overtaking
import Contactless.Proofs.Session.Reading

/-!
What is left when a call is abandoned.

A call that is abandoned in line only leaves the line. One that is abandoned at work takes the
session down before the lock passes on, so whoever gets the lock next finds a session that is over,
and the next start is not turned away. The first half of ending a session is not undone by
abandoning the second one.
-/

set_option autoImplicit false

namespace Contactless

namespace Session

/-- The call is gone from the line, and a lock in its hand has gone to the next in line. -/
structure RemovedFromLine (session final : Session) (call : CallId) : Prop where
  unchanged : Unchanged session final
  stages : ∀ other, final.stage? other = if other = call then none else session.stage? other
  handed : session.lock.holder = some call →
    final.lock = ⟨session.lock.waiting.head?, session.lock.waiting.tail⟩ ∧
      final.history = session.history ++
        (session.lock.waiting.head?.toList.map .granted ++ [.dropped call])
  waiting : session.lock.holder ≠ some call →
    final.lock = ⟨session.lock.holder, session.lock.waiting.erase call⟩ ∧
      final.history = session.history ++ [.dropped call]

/-- The call is gone, and before it passed the lock on it has taken the session down. -/
structure DownAndReleased (session final : Session) (call : CallId) : Prop where
  down : Down final
  stages : ∀ other, final.stage? other = if other = call then none else session.stage? other
  lock : final.lock = ⟨session.lock.waiting.head?, session.lock.waiting.tail⟩
  history : final.history = session.history ++ (session.hangingUp none ++
    (session.lock.waiting.head?.toList.map .granted ++ [.dropped call]))
  /-- The radio is dismissed without a text if there is a bridge in the slot. -/
  dismissed : (session.hangingUp none).filter (·.isDismissal) =
    (session.slot.map fun _ => SessionEvent.dismissed none).toList

/-- To abandon a call where it waits is safe, whatever happens before and after. -/
structure DropCleansUp (policy : Policy) (before after : List Stimulus) (call : CallId) : Prop where
  queued : ∀ job, ((initial policy).run before).stage? call = some (.queued job) →
    RemovedFromLine ((initial policy).run before)
      ((initial policy).run (before ++ [.drop call])) call
  working : ∀ stage, ((initial policy).run before).stage? call = some stage →
    (∀ job, stage ≠ .queued job) →
      DownAndReleased ((initial policy).run before)
        ((initial policy).run (before ++ [.drop call])) call ∧
        ∃ new, UnchangedUntilOpened ((initial policy).run (before ++ [.drop call]))
          ((initial policy).run (before ++ .drop call :: after)) new
  settled : ¬ ((initial policy).run (before ++ .drop call :: after)).Owned →
    ((initial policy).run (before ++ .drop call :: after)).phase.isSettled = true
  ended : ∀ first cause around middle job,
    before = first ++ .call (.finish cause) around :: middle →
    call = ((initial policy).run first).issued →
    ((initial policy).run before).stage? call = some (.queued job) →
      (∀ bridge, ((initial policy).run first).slot = some bridge →
        ((initial policy).run (before ++ .drop call :: after)).isClosed bridge = true) ∧
      (((initial policy).run (before ++ [.drop call])).slot = none ∨
        OpenedByQueued ((initial policy).run first)
          ((initial policy).run (before ++ [.drop call]))) ∧
      Stopped ((initial policy).run first) ((initial policy).run (before ++ .drop call :: after))

variable {point last : Point} {session final : Session} {call : CallId}

/-- A call past the line works for a session that was started once. -/
theorem Reached.started_of_stage {stage : Stage} (reached : Reached .outside session)
    (pending : session.stage? call = some stage) (working : ∀ job, stage ≠ .queued job) :
    session.phase ≠ .idle := by
  have fits := reached.sound.fits
  rw [Point.place, place_of_stage (reached.lined.holder_of_stage pending working) pending] at fits
  have live : session.phase.isLive = true := by
    cases stage with
    | queued job => exact absurd rfl (working job)
    | detecting goal bridge | connecting goal bridge tag | resting bridge chain =>
        rw [fits.1]
        exact Goal.isLive_phase _
    | transmitting tag rest =>
        rw [fits.1]
        rfl
  intro idle
  rw [idle] at live
  cases live

theorem removedFromLine_drop {job : Job} (queued : session.stage? call = some (.queued job)) :
    RemovedFromLine session (session.step (.drop call)) call := by
  by_cases held : session.lock.holder = some call
  · have left : session.step (.drop call) = (session.release.forget call).emit (.dropped call) := by
      simp [Session.step, Session.drop, queued, held]
    rw [left]
    refine ⟨.trans (.release session) (.recorded _ _ _ _ _), by simp [stage?_forget],
      fun _ => ⟨by simp [Lock.release], by simp [Lock.release]⟩, fun waits => absurd held waits⟩
  · have left : session.step (.drop call) =
        ({ session with lock := session.lock.leave call }.forget call).emit (.dropped call) := by
      simp [Session.step, Session.drop, queued, held]
    rw [left]
    exact ⟨.recorded session _ _ _ _, fun other => stage?_forget _ other call,
      fun handed => absurd handed held, fun _ => ⟨rfl, rfl⟩⟩

theorem Reached.downAndReleased {stage : Stage} (reached : Reached .outside session)
    (pending : session.stage? call = some stage) (working : ∀ job, stage ≠ .queued job) :
    DownAndReleased session (session.step (.drop call)) call := by
  have left : session.step (.drop call) =
      ((session.shutDown none).release.forget call).emit (.dropped call) := by
    cases stage with
    | queued job => exact absurd rfl (working job)
    | _ => simp [Session.step, Session.drop, pending]
  have started := reached.started_of_stage pending working
  rw [left]
  exact ⟨down_drop started call, by simp [stage?_forget], by simp [Lock.release],
    by simp [Lock.release], dismissals_hangingUp session none⟩

theorem OpenedByQueued.mono {base : Session} (openedByQueued : OpenedByQueued base session)
    (grows : session.history <+: final.history) : OpenedByQueued base final := by
  obtain ⟨starter, purpose, mid, bridge, rest, queued, told, unopened, owner⟩ := openedByQueued
  obtain ⟨more, grown⟩ := grows
  refine ⟨starter, purpose, mid, bridge, rest ++ more, queued, ?_, unopened, owner⟩
  rw [← grown, told, List.append_assoc, List.cons_append]

/-- Ending a session closes the bridge in the slot for good. -/
theorem Reached.closed_of_finish (reached : Reached .outside session) (cause : Option SessionError)
    (around : Surroundings) (stimuli : List Stimulus) {bridge : BridgeId}
    (filled : session.slot = some bridge) :
    ((session.step (.call (.finish cause) around)).run stimuli).isClosed bridge = true := by
  have here := reached.trans (hungUp_moves session cause)
  have moves := (finish_moves session cause around).trans (run_moves _ stimuli)
  have uses := reached.sound.uses_of_reads (reached.sound.reads_of_slot (place_intact _) filled)
  exact (here.closed_moves moves (by simpa [hungUp] using uses.opened)
    (by simp [hungUp, filled])).2

/-- Wherever a call is abandoned the session is left in order. -/
theorem run_drop_cleans_up (policy : Policy) (before after : List Stimulus) (call : CallId) :
    DropCleansUp policy before after call := by
  have reached := Reached.run policy before
  have last : (initial policy).run (before ++ [.drop call]) =
      ((initial policy).run before).step (.drop call) := run_append ..
  have all : (initial policy).run (before ++ .drop call :: after) =
      ((initial policy).run (before ++ [.drop call])).run after := by
    rw [last, run_append, run_cons]
  refine ⟨?_, ?_, ?_, ?_⟩
  · intro job queued
    rw [last]
    exact removedFromLine_drop queued
  · intro stage pending working
    have taken := reached.downAndReleased pending working
    rw [all, last]
    refine ⟨taken, ?_⟩
    refine (reached.trans (step_moves _ _)).unchangedUntilOpened ?_ (run_moves _ after)
    rw [taken.down.phase]
    rfl
  · intro unowned
    have later := Reached.run policy (before ++ .drop call :: after)
    have fits := later.sound.fits
    rw [Point.place, later.lined.place_of_unowned unowned] at fits
    exact fits
  · rintro first cause around middle job rfl rfl queued
    have here := Reached.run policy first
    have split : ∀ rest, (initial policy).run (first ++ .call (.finish cause) around :: middle ++
        .drop ((initial policy).run first).issued :: rest) =
        (((initial policy).run first).step (.call (.finish cause) around)).run
          (middle ++ .drop ((initial policy).run first).issued :: rest) := by
      intro rest
      rw [List.append_assoc, run_append]
      rfl
    rw [split after]
    refine ⟨fun bridge filled => here.closed_of_finish cause around _ filled, ?_,
      here.stopped cause around _⟩
    rw [run_append, run_cons] at queued
    rw [last]
    have grows := reached.grows (step_moves _ (.drop ((initial policy).run first).issued))
    rw [run_append, run_cons] at grows ⊢
    rcases here.unobstructed cause around middle queued with clear | openedByQueued
    · exact .inl ((removedFromLine_drop queued).unchanged.slot.trans clear.empty)
    · exact .inr (openedByQueued.mono grows)

/-- Two starts stand in line when a session is ended. The first one is cancelled, and the second
one begins the next radio session while the end of the old one waits behind it. -/
def succession : List Stimulus :=
  [.call (.start .identify) {}, .call (.send []) {}, .drop 0, .call (.start .identify) {},
    .call (.start .identify) {}, .wake 1 .look {}, .wake 2 .look {}, .call (.finish none) {},
    .wake 2 .look {}, .wake 3 .look {}]

/-- The end of the session has closed its bridge before it is abandoned in line. The bridge of the
start that has overtaken it stays in the slot. -/
theorem successor_survives_drop :
    ((initial {}).run (succession.take 7)).slot = some 1 ∧
      ((initial {}).run succession).stage? 4 = some (.queued (.finish none)) ∧
      ((initial {}).run (succession ++ [.drop 4])).isClosed 1 = true ∧
      ((initial {}).run (succession ++ [.drop 4])).slot = some 2 ∧
      ((initial {}).run (succession ++ [.drop 4])).isClosed 2 = false := by
  decide +kernel

end Session

end Contactless
