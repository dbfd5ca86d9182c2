import Contactless.Proofs.Session.Ending
import Contactless.Proofs.Session.Engagement
import Contactless.Proofs.Session.Order

/-!
Who comes between the two halves of ending a session.

Ending a session empties the slot at once and then waits in line. Nobody who makes a call later
gets the lock before, but a start can be in line already. It does not look at the live flag again,
so it begins the next radio session while the end of the old one is still waiting.
-/

set_option autoImplicit false

namespace Contactless

namespace Session

/-- There is no bridge in the slot, and nobody waits for tags on a bridge that is open. -/
structure Unobstructed (session : Session) : Prop where
  empty : session.slot = none
  detecting : ∀ call goal bridge, session.stage? call = some (.detecting goal bridge) →
    session.isClosed bridge = true

/-- The first bridge since then was opened by a start that was in line then. -/
def OpenedByQueued (session final : Session) : Prop :=
  ∃ starter purpose mid bridge rest,
    session.stage? starter = some (.queued (.start purpose)) ∧
      final.history = session.history ++ mid ++ .opened bridge :: rest ∧
      (∀ event ∈ mid, event.opens = false) ∧
      (grants (session.history ++ mid)).getLast? = some starter

variable {base session final : Session} {point : Point} {call : CallId}
  {new : List SessionEvent}

theorem SlotEmptySince.unobstructed (window : SlotEmptySince base new point session)
    (sound : Sound point session) :
    Unobstructed session :=
  ⟨window.empty, fun _ _ bridge _ => window.closed sound bridge⟩

theorem Reached.not_engaged {job : Job} (reached : Reached (.holding call job) session) :
    ¬ (Engaged call (.holding call job) session ∨ EndedUnrefused session.history call) := by
  rintro (engaged | discharged)
  · exact engaged.point
  · have gone : call ∈ departures session.history := by
      rcases discharged with dropped | ⟨outcome, ended, _⟩
      · exact List.mem_filterMap.mpr ⟨_, dropped, rfl⟩
      · exact mem_departures ended
    have held := reached.lined.worker call rfl
    exact (reached.departed.2 call gone).line (Lock.mem_line.mpr (.inl held))

/-- A call that gets to work later was in line already, or had yet to be made. -/
theorem Reached.queued_of_holding {job : Job} (reached : Reached .outside session)
    (moves : Moves .outside session (.holding call job) final) (issued : call < session.issued) :
    session.stage? call = some (.queued job) := by
  have later := reached.trans moves
  have within : call ∈ session.lock.line := by
    refine line_of_pending .outside issued (fun apart => ?_) (by simp [Point.asker?])
    exact (apart.moves reached moves).line
      (Lock.mem_line.mpr (.inl (later.lined.worker call rfl)))
  obtain ⟨stage, pending⟩ := reached.lined.stage_of_line within
  cases stage with
  | queued other =>
      obtain ⟨request, fresh, serves⟩ :=
        reached.served.stage call _ pending (by simp [Point.worker?])
      obtain ⟨request', fresh', serves'⟩ := later.served.running
      have same := asked_of_prefix fresh.asked (later.served.fair call) (reached.grows moves)
      rw [fresh'.asked, List.singleton_inj] at same
      have served := serves'.job?
      rw [same, serves.job?, Option.some.injEq] at served
      rw [pending, served]
  | _ =>
      have held := reached.lined.holder_of_stage pending (by simp)
      have engaged : Engaged call .outside session := ⟨held, _, pending, by simp⟩
      exact absurd (Engaged.moves reached (.inl engaged) moves) later.not_engaged

theorem Reached.ender_in_line {starter : CallId} {job : Job} (reached : Reached .outside session)
    {cause : Option SessionError} {middle : Session}
    (before : Moves (session.ender cause) (session.hungUp cause) (.holding starter job) middle)
    (later : Moves (.holding starter job) middle .outside final) {stage : Stage}
    (pending : final.stage? session.issued = some stage) :
    session.issued ∈ middle.lock.line := by
  have between := (reached.trans (hungUp_moves session cause)).trans before
  have made : session.issued < (session.hungUp cause).issued := by simp [hungUp]
  have issued := Nat.lt_of_lt_of_le made (issued_le_of_moves before)
  refine line_of_pending (.holding starter job) issued ?_ (by simp [Point.asker?])
  intro apart
  exact (apart.moves between later).line ((between.trans later).lined.pending _ _ pending)

/-- A start that opens a bridge while the end is in line was in line before. -/
theorem Reached.openedByQueued {starter : CallId} {purpose : Purpose}
    (reached : Reached .outside session) {cause : Option SessionError} {middle : Session}
    (before : Moves (session.ender cause) (session.hungUp cause)
      (.holding starter (.start purpose)) middle)
    (within : session.issued ∈ middle.lock.line) :
    session.stage? starter = some (.queued (.start purpose)) := by
  have moves := (hungUp_moves session cause).trans before
  have between := reached.trans moves
  have ahead := between.lined.holder_le (between.lined.worker starter rfl) within
  refine reached.queued_of_holding moves (Nat.lt_of_le_of_ne ahead ?_)
  -- The end of the session is no start.
  rintro rfl
  obtain ⟨request, fresh, serves⟩ := between.served.running
  have called : SessionEvent.called session.issued (.finish cause) ∈ middle.history := by
    refine ((reached.trans (hungUp_moves session cause)).grows before).subset ?_
    rw [history_hungUp]
    simp [hungUpEvents]
  rw [called_mem, fresh.asked, List.mem_singleton] at called
  have started := serves.job?
  rw [← called] at started
  cases started

theorem Reached.unobstructed (reached : Reached .outside session) (cause : Option SessionError)
    (around : Surroundings) (stimuli : List Stimulus) {job : Job}
    (pending : ((session.step (.call (.finish cause) around)).run stimuli).stage? session.issued =
      some (.queued job)) :
    Unobstructed ((session.step (.call (.finish cause) around)).run stimuli) ∨
      OpenedByQueued session ((session.step (.call (.finish cause) around)).run stimuli) := by
  have here := reached.trans (hungUp_moves session cause)
  have moves := (finish_moves session cause around).trans (run_moves _ stimuli)
  rcases (SlotEmptySince.finish session cause).until_opened here moves with ⟨more, still⟩ | breached
  · exact .inl (still.unobstructed (here.trans moves).sound)
  · obtain ⟨more, starter, purpose, middle, bridge, rest, still, before, later, told⟩ := breached
    have within := reached.ender_in_line before later pending
    refine .inr ⟨starter, purpose, session.hungUpEvents cause ++ more, bridge, rest,
      reached.openedByQueued before within, ?_, still.unopened, ?_⟩
    · rw [told, still.grown]
    · rw [← still.grown]
      exact (here.trans before).opener.1

/-- While the end of a session waits in line the slot is empty and nobody waits for tags on an open
bridge, unless a start that was in line already has got the lock before it. -/
theorem run_finish_unobstructed (policy : Policy) (before after : List Stimulus)
    (cause : Option SessionError) (around : Surroundings) (job : Job)
    (pending : ((initial policy).run (before ++ .call (.finish cause) around :: after)).stage?
      ((initial policy).run before).issued = some (.queued job)) :
    Unobstructed ((initial policy).run (before ++ .call (.finish cause) around :: after)) ∨
      OpenedByQueued ((initial policy).run before)
        ((initial policy).run (before ++ .call (.finish cause) around :: after)) := by
  rw [run_append, run_cons] at pending ⊢
  exact (Reached.run policy before).unobstructed cause around after pending

/-- The end of a session waits for a start that looks for a card. -/
theorem finish_behind_detection :
    ((initial {}).run [.call (.start .identify) {}, .call (.finish none) {}]).stage? 1 =
        some (.queued (.finish none)) ∧
      (Unobstructed ((initial {}).run [.call (.start .identify) {}, .call (.finish none) {}]) ∨
        OpenedByQueued ((initial {}).run [.call (.start .identify) {}])
          ((initial {}).run [.call (.start .identify) {}, .call (.finish none) {}])) :=
  ⟨by decide +kernel, run_finish_unobstructed {} [.call (.start .identify) {}] [] none {}
    (.finish none) (by decide +kernel)⟩

/-- A start is abandoned while an exchange is in line. The next start joins the line as well,
because no session is live then, and the end of the session stands behind it. -/
def overtaking : List Stimulus :=
  [.call (.start .identify) {}, .call (.send []) {}, .drop 0, .call (.start .identify) {},
    .call (.finish none) {}, .wake 1 .look {}, .wake 2 .look {}]

/-- The start has opened a bridge and waits for tags, and the end of the session waits for it. -/
theorem start_overtakes_finish :
    ((initial {}).run overtaking).stage? 3 = some (.queued (.finish none)) ∧
      ((initial {}).run overtaking).stage? 2 = some (.detecting .start 1) ∧
      ((initial {}).run overtaking).isClosed 1 = false ∧
      ((initial {}).run overtaking).slot = some 1 := by
  decide +kernel

end Session

end Contactless
