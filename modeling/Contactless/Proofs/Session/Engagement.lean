import Contactless.Proofs.Session.Departure

set_option autoImplicit false

namespace Contactless

/-- Whether a call that ends by this error was turned away before it did anything. -/
def SessionError.isRefusal : SessionError → Bool
  | .radioUnavailable | .alreadyActive | .notConnected | .emptyChain => true
  | _ => false

def Outcome.isRefusal : Outcome → Bool
  | .error error => error.isRefusal
  | .ok _ => false

namespace Session

/-- The holder of the lock is past the point where it can be turned away. -/
def Point.Engages (session : Session) (call : CallId) : Point → Prop
  | .outside | .asking _ _ | .lining _ _ =>
    ∃ stage, session.stage? call = some stage ∧ ∀ job, stage ≠ .queued job
  | .holding _ _ => False
  | .failing _ error => error.isRefusal = false
  | .leaving _ outcome => Outcome.isRefusal outcome = false
  | _ => True

/-- The call holds the lock and has begun its work. -/
structure Engaged (call : CallId) (point : Point) (session : Session) : Prop where
  held : session.lock.holder = some call
  point : point.Engages session call

/-- The call was dropped, or it has ended without being turned away. -/
def EndedUnrefused (history : List SessionEvent) (call : CallId) : Prop :=
  SessionEvent.dropped call ∈ history ∨
    ∃ outcome, SessionEvent.ended call outcome ∈ history ∧ Outcome.isRefusal outcome = false

variable {call : CallId} {point last : Point} {session final : Session}

/-- Whoever holds the lock keeps it until it ends or is dropped. It stays where it waits while
nobody works, and after its work it does not wait in line again. -/
theorem Lined.holder_move (lined : Lined point session) (held : session.lock.holder = some call)
    (move : Move point session last final) :
    (final.lock.holder = some call ∧ (last.worker? = none →
      (point.worker? = none ∧ final.stage? call = session.stage? call) ∨
        ∃ stage, final.stage? call = some stage ∧ ∀ job, stage ≠ .queued job)) ∨
    SessionEvent.dropped call ∈ final.history ∨
      ∃ outcome, point = .leaving call outcome ∧
        SessionEvent.ended call outcome ∈ final.history := by
  have same : ∀ {other : CallId}, point.worker? = some other → call = other := fun working =>
    Option.some.inj (held.symm.trans (lined.worker _ working))
  cases move with
  | take other job free =>
      rw [free] at held
      cases held
  | wait other holder job taken =>
      have before := (lined.asker other rfl).2 call (Lock.mem_line.mpr (.inl held))
      refine .inl ⟨by simpa [Lock.request_of_held taken] using held, fun _ => .inl ⟨rfl, ?_⟩⟩
      exact (stage?_park _ call other _).trans (if_neg (Nat.ne_of_lt before))
  | pause other chain =>
      obtain rfl := same rfl
      exact .inl ⟨by simpa using held,
        fun _ => .inr ⟨.resting session.nextBridge chain, by simp [stage?_park], by simp⟩⟩
  | pend other goal bridge found here nothing =>
      obtain rfl := same rfl
      exact .inl ⟨by simpa using held,
        fun _ => .inr ⟨.detecting goal bridge, by simp [stage?_park], by simp⟩⟩
  | pick other goal bridge found here tags polled tag wallet =>
      obtain rfl := same rfl
      exact .inl ⟨by simpa using held,
        fun _ => .inr ⟨.connecting goal bridge tag, by simp [stage?_park], by simp⟩⟩
  | send other tag chain =>
      obtain rfl := same rfl
      exact .inl ⟨by simpa using held,
        fun _ => .inr ⟨.transmitting tag chain.rest, by simp [Session.send, stage?_park], by simp⟩⟩
  | leave other outcome =>
      obtain rfl := same rfl
      exact .inr (.inr ⟨outcome, rfl, by simp⟩)
  | dropHanded other job queued handed =>
      obtain rfl : call = other := Option.some.inj (held.symm.trans handed)
      exact .inr (.inl (by simp))
  | dropWaiting other job queued waiting =>
      have apart : call ≠ other := by
        rintro rfl
        exact waiting held
      exact .inl ⟨held, fun _ => .inl ⟨rfl, (stage?_forget _ call other).trans (if_neg apart)⟩⟩
  | dropHolder other stage pending working =>
      obtain rfl : call = other :=
        Option.some.inj (held.symm.trans (lined.holder_of_stage pending working))
      exact .inr (.inl (by simp))
  | lineFinish | report =>
      exact .inl ⟨by simpa using held, fun idle => .inl ⟨idle, by simp⟩⟩
  | ask | refuseRadio | refuseLive | refuseEmpty | lineStart | lineExchange | lineLook | alert =>
      exact .inl ⟨by simpa using held, fun _ => .inl ⟨rfl, rfl⟩⟩
  | _ => exact .inl ⟨by simpa [connect, reconnect] using held, fun idle => by cases idle⟩

/-- An engaged call stays engaged until it ends, and then it is not turned away. -/
theorem Engaged.move (lined : Lined point session) (engaged : Engaged call point session)
    (move : Move point session last final) :
    Engaged call last final ∨ EndedUnrefused final.history call := by
  have here := engaged.point
  rcases lined.holder_move engaged.held move with ⟨held, waits⟩ | dropped | ⟨outcome, rfl, ended⟩
  · refine .inl ⟨held, ?_⟩
    -- The call waits where it did or past the line, or it works and has not been turned away.
    cases last with
    | outside | asking | lining =>
        rcases waits rfl with ⟨idle, still⟩ | parked
        · have pending : ∃ stage, session.stage? call = some stage ∧
              ∀ job, stage ≠ .queued job := by
            cases point <;> first
              | exact here
              | cases idle
          rw [← still] at pending
          exact pending
        · exact parked
    | holding other job =>
        cases move with
        | take other job free =>
            have nobody := engaged.held
            rw [free] at nobody
            cases nobody
        | turn other job queued handed =>
            obtain ⟨stage, pending, working⟩ := here
            obtain rfl : call = other := Option.some.inj (engaged.held.symm.trans handed)
            exact absurd (Option.some.inj (pending.symm.trans queued)) (working job)
        | report bridge notice hears => cases hears
    | failing other error =>
        cases move with
        | stale | interrupted | unattached => cases here
        | report bridge notice hears => cases hears
        | _ => rfl
    | leaving other outcome =>
        cases move with
        | deny | finish | look | unconnected => cases here
        | report bridge notice hears => cases hears
        | fail => exact here
        | _ => rfl
    | _ => trivial
  · exact .inr (.inl dropped)
  · exact .inr (.inr ⟨outcome, ended, here⟩)

theorem EndedUnrefused.mono {before after : List SessionEvent}
    (discharged : EndedUnrefused before call)
    (grows : before <+: after) : EndedUnrefused after call := by
  rcases discharged with dropped | ⟨outcome, ended, accepted⟩
  · exact .inl (grows.subset dropped)
  · exact .inr ⟨outcome, grows.subset ended, accepted⟩

theorem Engaged.moves (reached : Reached point session)
    (fate : Engaged call point session ∨ EndedUnrefused session.history call)
    (moves : Moves point session last final) :
    Engaged call last final ∨ EndedUnrefused final.history call := by
  induction moves with
  | refl => exact fate
  | tail before move ih =>
      have between := reached.trans before
      rcases ih with engaged | discharged
      · exact engaged.move between.lined move
      · exact .inr (discharged.mono (between.grows (.single move)))

theorem Reached.unrefused (reached : Reached point session)
    (fate : Engaged call point session ∨ EndedUnrefused session.history call) {outcome : Outcome}
    (refusal : Outcome.isRefusal outcome = true) :
    SessionEvent.ended call outcome ∉ session.history := by
  intro ended
  rcases fate with engaged | dropped | ⟨other, recorded, accepted⟩
  · have apart := reached.departed.2 call (mem_departures ended)
    exact apart.line (Lock.mem_line.mpr (.inl engaged.held))
  · have same := reached.leaves_once dropped ended rfl rfl
    cases same
  · have same := reached.leaves_once recorded ended rfl rfl
    injection same with _ same
    rw [same, refusal] at accepted
    cases accepted

def Admits (session : Session) : Job → Prop
  | .start _ => session.phase.isLive = false
  | .exchange _ => session.phase = .connected
  | .finish _ | .look => True

/-- The first move of a call that is admitted engages it. -/
theorem engaged_of_holding {job : Job} (lined : Lined (.holding call job) session)
    (sound : Sound (.holding call job) session) (admits : session.Admits job)
    (move : Move (.holding call job) session last final) : Engaged call last final := by
  have held := lined.worker call rfl
  cases move with
  | deny call purpose live =>
      have dead : session.phase.isLive = false := admits
      rw [live] at dead
      cases dead
  | unconnected call chain elsewhere => exact absurd admits elsewhere
  | unattached call chain connected bare =>
      have carded := sound.coherent.connection
      rw [connected, bare] at carded
      cases carded
  | start | finish | interrupted | renew | restart =>
      exact ⟨by simpa using held, by trivial⟩
  | look | stale | keep => exact ⟨held, by trivial⟩
  | report bridge notice hears => cases hears

/-- A call that is admitted is engaged after its turn, or it has ended without a refusal. -/
theorem Pass.engaged {job : Job} (reached : Reached (.holding call job) session)
    (admits : session.Admits job) (pass : Pass (.holding call job) session final) :
    Engaged call .outside final ∨ EndedUnrefused final.history call := by
  cases pass with
  | last move => exact .inl (engaged_of_holding reached.lined reached.sound admits move)
  | head move _ rest =>
      have engaged := engaged_of_holding reached.lined reached.sound admits move
      exact Engaged.moves (reached.trans (.single move)) (.inl engaged) rest.moves

end Session

end Contactless
