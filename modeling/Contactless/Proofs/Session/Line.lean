import Contactless.Proofs.Session.Refinement

set_option autoImplicit false

namespace Contactless

namespace Lock

theorem line_request {lock : Lock} (free : lock.holder = none → lock.waiting = [])
    (call : CallId) : (lock.request call).line = lock.line ++ [call] := by
  cases held : lock.holder with
  | none => simp [line, request_of_free held, held, free held]
  | some holder => simp [line, request_of_held held, held]

@[simp] theorem line_release (lock : Lock) : lock.release.line = lock.waiting := by
  obtain ⟨holder, waiting⟩ := lock
  cases waiting <;> rfl

theorem line_leave_sublist (lock : Lock) (call : CallId) :
    (lock.leave call).line.Sublist lock.line :=
  List.Sublist.append_left List.erase_sublist lock.holder.toList

theorem mem_line {lock : Lock} {call : CallId} :
    call ∈ lock.line ↔ lock.holder = some call ∨ call ∈ lock.waiting := by
  simp [line]

end Lock

namespace Session

/-- What the lock, the pending calls and the running call have to do with each other. -/
structure Lined (point : Point) (session : Session) : Prop where
  sorted : session.lock.line.Pairwise (· < ·)
  issued : ∀ call ∈ session.lock.line, call < session.issued
  free : session.lock.holder = none → session.lock.waiting = []
  waiting : ∀ call ∈ session.lock.waiting, ∃ job, session.stage? call = some (.queued job)
  pending : ∀ call stage, session.stage? call = some stage → call ∈ session.lock.line
  holder : ∀ call, session.lock.holder = some call → point.worker? ≠ some call →
    ∃ stage, session.stage? call = some stage
  worker : ∀ call, point.worker? = some call → session.lock.holder = some call
  asker : ∀ call, point.asker? = some call →
    call < session.issued ∧ ∀ other ∈ session.lock.line, other < call

variable {point last : Point} {session final : Session}

namespace Lined

/-- A call that waits anywhere but in line holds the lock. -/
theorem holder_of_stage (lined : Lined point session) {call : CallId} {stage : Stage}
    (pending : session.stage? call = some stage) (working : ∀ job, stage ≠ .queued job) :
    session.lock.holder = some call := by
  rcases Lock.mem_line.mp (lined.pending call stage pending) with held | waits
  · exact held
  · obtain ⟨job, queued⟩ := lined.waiting call waits
    rw [pending, Option.some.injEq] at queued
    exact absurd queued (working job)

theorem stage_of_line (lined : Lined .outside session) {call : CallId}
    (within : call ∈ session.lock.line) : ∃ stage, session.stage? call = some stage := by
  rcases Lock.mem_line.mp within with held | waits
  · exact lined.holder call held (by simp [Point.worker?])
  · obtain ⟨job, queued⟩ := lined.waiting call waits
    exact ⟨.queued job, queued⟩

theorem not_waiting (lined : Lined point session) {call : CallId}
    (held : session.lock.holder = some call) : call ∉ session.lock.waiting := by
  intro waits
  have sorted := lined.sorted
  simp only [Lock.line, held, Option.toList_some, List.singleton_append,
    List.pairwise_cons] at sorted
  exact Nat.lt_irrefl call (sorted.1 call waits)

theorem nodup_waiting (lined : Lined point session) : session.lock.waiting.Nodup :=
  (List.pairwise_append.mp lined.sorted).2.1.imp fun below => Nat.ne_of_lt below

theorem outside (sorted : session.lock.line.Pairwise (· < ·))
    (issued : ∀ call ∈ session.lock.line, call < session.issued)
    (free : session.lock.holder = none → session.lock.waiting = [])
    (waiting : ∀ call ∈ session.lock.waiting, ∃ job, session.stage? call = some (.queued job))
    (pending : ∀ call stage, session.stage? call = some stage → call ∈ session.lock.line)
    (holder : ∀ call, session.lock.holder = some call →
      ∃ stage, session.stage? call = some stage) : Lined .outside session := by
  refine ⟨sorted, issued, free, waiting, pending, fun call held _ => holder call held, ?_, ?_⟩
  · intro call impossible
    cases impossible
  · intro call impossible
    cases impossible

theorem congr (lined : Lined point session) (lock : final.lock = session.lock)
    (issued : final.issued = session.issued)
    (stages : ∀ call, final.stage? call = session.stage? call)
    (worker : ∀ call, last.worker? = some call → session.lock.holder = some call)
    (keeps : ∀ call, point.worker? = some call → last.worker? = some call)
    (asker : ∀ call, last.asker? = some call → point.asker? = some call) :
    Lined last final := by
  refine ⟨?_, ?_, ?_, ?_, ?_, ?_, ?_, ?_⟩
  · rw [lock]
    exact lined.sorted
  · rw [lock, issued]
    exact lined.issued
  · rw [lock]
    exact lined.free
  · simp only [lock, stages]
    exact lined.waiting
  · simp only [lock, stages]
    exact lined.pending
  · intro call held idle
    rw [stages]
    exact lined.holder call (lock ▸ held) (fun working => idle (keeps call working))
  · intro call working
    rw [lock]
    exact worker call working
  · intro call asking
    rw [lock, issued]
    exact lined.asker call (asker call asking)

theorem park {call : CallId} (lined : Lined point session) (working : point.worker? = some call)
    (stage : Stage) (lock : final.lock = session.lock) (issued : final.issued = session.issued)
    (stages : ∀ other, final.stage? other =
      if other = call then some stage else session.stage? other) :
    Lined .outside final := by
  have held := lined.worker call working
  refine .outside ?_ ?_ ?_ ?_ ?_ ?_
  · rw [lock]
    exact lined.sorted
  · rw [lock, issued]
    exact lined.issued
  · rw [lock]
    exact lined.free
  · intro other waits
    rw [lock] at waits
    have apart : other ≠ call := by
      rintro rfl
      exact lined.not_waiting held waits
    rw [stages, if_neg apart]
    exact lined.waiting other waits
  · intro other place pending
    rw [stages] at pending
    rw [lock]
    by_cases same : other = call
    · rw [same]
      exact Lock.mem_line.mpr (.inl held)
    · rw [if_neg same] at pending
      exact lined.pending other place pending
  · intro other holds
    rw [lock, held, Option.some.injEq] at holds
    exact ⟨stage, by rw [stages, if_pos holds.symm]⟩

theorem release {call : CallId} (lined : Lined point session)
    (held : session.lock.holder = some call) (lock : final.lock = session.lock.release)
    (issued : final.issued = session.issued)
    (stages : ∀ other, final.stage? other =
      if other = call then none else session.stage? other) :
    Lined .outside final := by
  have behind : ∀ other ∈ session.lock.waiting, other ≠ call := by
    rintro other waits rfl
    exact lined.not_waiting held waits
  have within : ∀ other ∈ session.lock.waiting, other ∈ session.lock.line :=
    fun other waits => Lock.mem_line.mpr (.inr waits)
  refine .outside ?_ ?_ ?_ ?_ ?_ ?_
  · rw [lock, Lock.line_release]
    exact (List.pairwise_append.mp lined.sorted).2.1
  · rw [lock, Lock.line_release, issued]
    exact fun other waits => lined.issued other (within other waits)
  · intro free
    rw [lock] at free ⊢
    simp only [Lock.release, List.head?_eq_none_iff] at free ⊢
    simp [free]
  · intro other waits
    rw [lock] at waits
    have before : other ∈ session.lock.waiting := List.mem_of_mem_tail waits
    rw [stages, if_neg (behind other before)]
    exact lined.waiting other before
  · intro other stage pending
    rw [stages] at pending
    by_cases same : other = call
    · rw [if_pos same] at pending
      cases pending
    · rw [if_neg same] at pending
      rw [lock, Lock.line_release]
      rcases Lock.mem_line.mp (lined.pending other stage pending) with holds | waits
      · rw [held, Option.some.injEq] at holds
        exact absurd holds.symm same
      · exact waits
  · intro other holds
    rw [lock] at holds
    have before : other ∈ session.lock.waiting := List.mem_of_mem_head? holds
    obtain ⟨job, queued⟩ := lined.waiting other before
    exact ⟨.queued job, by rw [stages, if_neg (behind other before), queued]⟩

theorem leave {call : CallId} (lined : Lined .outside session)
    (unheld : session.lock.holder ≠ some call) (lock : final.lock = session.lock.leave call)
    (issued : final.issued = session.issued)
    (stages : ∀ other, final.stage? other =
      if other = call then none else session.stage? other) :
    Lined .outside final := by
  have sublist := Lock.line_leave_sublist session.lock call
  have nodup := lined.nodup_waiting
  refine .outside ?_ ?_ ?_ ?_ ?_ ?_
  · rw [lock]
    exact lined.sorted.sublist sublist
  · rw [lock, issued]
    exact fun other within => lined.issued other (sublist.subset within)
  · intro free
    rw [lock] at free ⊢
    simp [Lock.leave, lined.free free]
  · intro other waits
    rw [lock] at waits
    have both := (nodup.mem_erase_iff).mp waits
    rw [stages, if_neg both.1]
    exact lined.waiting other both.2
  · intro other stage pending
    rw [stages] at pending
    by_cases same : other = call
    · rw [if_pos same] at pending
      cases pending
    · rw [if_neg same] at pending
      rw [lock]
      rcases Lock.mem_line.mp (lined.pending other stage pending) with holds | waits
      · exact Lock.mem_line.mpr (.inl holds)
      · exact Lock.mem_line.mpr (.inr ((nodup.mem_erase_iff).mpr ⟨same, waits⟩))
  · intro other holds
    rw [lock, Lock.holder_leave] at holds
    have apart : other ≠ call := by
      rintro rfl
      exact unheld holds
    rw [stages, if_neg apart]
    exact lined.holder other holds (by simp [Point.worker?])

theorem ask (lined : Lined .outside session) (request : Request)
    (lock : final.lock = session.lock) (issued : final.issued = session.issued + 1)
    (stages : ∀ other, final.stage? other = session.stage? other) :
    Lined (.asking session.issued request) final := by
  refine ⟨?_, ?_, ?_, ?_, ?_, ?_, ?_, ?_⟩
  · rw [lock]
    exact lined.sorted
  · rw [lock, issued]
    exact fun other within => Nat.lt_succ_of_lt (lined.issued other within)
  · rw [lock]
    exact lined.free
  · simp only [lock, stages]
    exact lined.waiting
  · simp only [lock, stages]
    exact lined.pending
  · intro other holds _
    rw [stages]
    exact lined.holder other (lock ▸ holds) (by simp [Point.worker?])
  · intro other impossible
    cases impossible
  · intro other asking
    obtain rfl : session.issued = other := by simpa [Point.asker?] using asking
    rw [lock, issued]
    exact ⟨Nat.lt_succ_self _, lined.issued⟩

theorem sorted_request {call : CallId} {job : Job} (lined : Lined (.lining call job) session) :
    (session.lock.request call).line.Pairwise (· < ·) := by
  rw [Lock.line_request lined.free]
  refine List.pairwise_append.mpr ⟨lined.sorted, List.pairwise_singleton _ _, ?_⟩
  intro other within last member
  rw [List.mem_singleton.mp member]
  exact (lined.asker call rfl).2 other within

theorem issued_request {call : CallId} {job : Job} (lined : Lined (.lining call job) session) :
    ∀ other ∈ (session.lock.request call).line, other < session.issued := by
  intro other within
  rw [Lock.line_request lined.free, List.mem_append, List.mem_singleton] at within
  rcases within with within | same
  · exact lined.issued other within
  · rw [same]
    exact (lined.asker call rfl).1

theorem take {call : CallId} {job : Job} (lined : Lined (.lining call job) session)
    (free : session.lock.holder = none) (lock : final.lock = session.lock.request call)
    (issued : final.issued = session.issued)
    (stages : ∀ other, final.stage? other = session.stage? other) :
    Lined (.holding call job) final := by
  have alone : session.lock.request call = ⟨some call, []⟩ := by
    rw [Lock.request_of_free free, lined.free free]
  refine ⟨?_, ?_, ?_, ?_, ?_, ?_, ?_, ?_⟩
  · rw [lock]
    exact lined.sorted_request
  · rw [lock, issued]
    exact lined.issued_request
  · simp [lock, alone]
  · simp [lock, alone]
  · intro other stage pending
    rw [stages] at pending
    rw [lock, Lock.line_request lined.free]
    exact List.mem_append_left _ (lined.pending other stage pending)
  · intro other holds idle
    rw [lock, alone] at holds
    exact absurd holds idle
  · intro other working
    rw [lock, alone]
    exact working
  · intro other impossible
    cases impossible

theorem wait {call holder : CallId} {job : Job} (lined : Lined (.lining call job) session)
    (held : session.lock.holder = some holder) (lock : final.lock = session.lock.request call)
    (issued : final.issued = session.issued)
    (stages : ∀ other, final.stage? other =
      if other = call then some (.queued job) else session.stage? other) :
    Lined .outside final := by
  have behind : session.lock.request call =
      { session.lock with waiting := session.lock.waiting ++ [call] } :=
    Lock.request_of_held held call
  have apart : ∀ other ∈ session.lock.line, other ≠ call :=
    fun other within => Nat.ne_of_lt ((lined.asker call rfl).2 other within)
  refine .outside ?_ ?_ ?_ ?_ ?_ ?_
  · rw [lock]
    exact lined.sorted_request
  · rw [lock, issued]
    exact lined.issued_request
  · simp [lock, behind, held]
  · intro other waits
    rw [lock, behind, List.mem_append, List.mem_singleton] at waits
    rw [stages]
    rcases waits with waits | same
    · rw [if_neg (apart other (Lock.mem_line.mpr (.inr waits)))]
      exact lined.waiting other waits
    · exact ⟨job, if_pos same⟩
  · intro other stage pending
    rw [stages] at pending
    rw [lock, Lock.line_request lined.free, List.mem_append, List.mem_singleton]
    by_cases same : other = call
    · exact .inr same
    · rw [if_neg same] at pending
      exact .inl (lined.pending other stage pending)
  · intro other holds
    rw [lock, behind] at holds
    rw [stages, if_neg (apart other (Lock.mem_line.mpr (.inl holds)))]
    exact lined.holder other holds (by simp [Point.worker?])

theorem initial (policy : Policy) : Lined .outside (Session.initial policy) := by
  refine ⟨?_, ?_, ?_, ?_, ?_, ?_, ?_, ?_⟩ <;>
    simp [Session.initial, Lock.line, stage?, Point.worker?, Point.asker?]

/-- Every move keeps the line in order. -/
theorem move (lined : Lined point session) (move : Move point session last final) :
    Lined last final := by
  cases move with
  | ask request => exact lined.ask request (by simp) (by simp) (fun _ => rfl)
  | take call job free => exact lined.take free (by simp) (by simp) (fun _ => rfl)
  | wait call holder job held =>
      exact lined.wait held (by simp) (by simp) (fun other => stage?_park _ other call _)
  | pause call chain =>
      exact lined.park rfl (.resting session.nextBridge chain) (by simp) (by simp)
        (by simp [stage?_park])
  | pend call goal bridge found here nothing =>
      exact lined.park rfl (.detecting goal bridge) (by simp) (by simp) (by simp [stage?_park])
  | pick call goal bridge found here tags polled tag wallet =>
      exact lined.park rfl (.connecting goal bridge tag) (by simp) (by simp)
        (by simp [stage?_park])
  | send call tag chain =>
      exact lined.park rfl (.transmitting tag chain.rest) (by simp) (by simp)
        (by simp [Session.send, stage?_park])
  | leave call outcome =>
      exact lined.release (lined.worker call rfl) (by simp) (by simp) (by simp)
  | dropHanded call job queued handed =>
      exact lined.release handed (by simp) (by simp) (by simp [stage?_forget])
  | dropWaiting call job queued waiting =>
      exact lined.leave waiting (by simp) (by simp) (fun other => stage?_forget _ other call)
  | dropHolder call stage pending working =>
      exact lined.release (lined.holder_of_stage pending working) (by simp) (by simp)
        (by simp [stage?_forget])
  | turn call job queued handed =>
      exact lined.congr rfl rfl (fun _ => rfl) (by simpa [Point.worker?] using handed)
        (by simp [Point.worker?]) (by simp [Point.asker?])
  | rested call bridge chain pending | poll call goal bridge pending
  | reject call goal bridge tag fault pending | desert call goal bridge tag pending closed
  | accept call goal bridge tag pending unclosed
  | answerLost call tag rest fault pending
  | answerShort call tag rest bytes fault pending short
  | answerLast call tag bytes response pending read
  | answerFault call tag chain bytes response fault pending read failed
  | answerNext call tag chain bytes response pending read succeeded =>
      have held := lined.holder_of_stage pending (by simp)
      exact lined.congr (by simp) (by simp) (fun _ => rfl) (by simpa [Point.worker?] using held)
        (by simp [Point.worker?]) (by simp [Point.asker?])
  | report bridge notice hears =>
      exact lined.congr (by simp) (by simp) (by simp) lined.worker (fun _ working => working)
        (fun _ asking => asking)
  | refuseRadio | refuseLive | refuseEmpty | lineStart | lineExchange | lineLook | alert =>
      exact lined.congr (by simp) (by simp) (fun _ => rfl) (by simp [Point.worker?])
        (by simp [Point.worker?]) (by simp [Point.asker?])
  | lineFinish =>
      exact lined.congr (by simp) (by simp) (by simp) (by simp [Point.worker?])
        (by simp [Point.worker?]) (by simp [Point.asker?])
  | start =>
      exact lined.congr (by simp) (by simp) (fun other => stage?_openBridge _ other)
        lined.worker (fun _ working => working) (by simp [Point.asker?])
  | restart =>
      exact lined.congr (by simp) (by simp) (fun other => stage?_hangUp _ none other)
        lined.worker (fun _ working => working) (by simp [Point.asker?])
  | finish | fail =>
      exact lined.congr (by simp) (by simp) (by simp) lined.worker (fun _ working => working)
        (by simp [Point.asker?])
  | _ =>
      exact lined.congr (by simp [connect, reconnect]) (by simp [connect, reconnect])
        (fun _ => rfl) lined.worker (fun _ working => working) (by simp [Point.asker?])

end Lined

theorem Reached.lined (reached : Reached point session) : Lined point session :=
  reached.induction Lined.initial fun _ _ _ _ _ lined move => lined.move move

theorem Lined.line_of_move (lined : Lined point session) (move : Move point session last final)
    {call : CallId} (within : call ∈ final.lock.line) :
    call ∈ session.lock.line ∨ point.asker? = some call := by
  cases move with
  | take asker job free | wait asker holder job held =>
      have joined : call ∈ (session.lock.request asker).line := by simpa using within
      rw [Lock.line_request lined.free, List.mem_append, List.mem_singleton] at joined
      exact joined.imp id (fun same => congrArg some same.symm)
  | leave asker outcome | dropHanded asker job queued handed
  | dropHolder asker stage pending working =>
      have behind : call ∈ session.lock.waiting := by simpa using within
      exact .inl (Lock.mem_line.mpr (.inr behind))
  | dropWaiting asker job queued waiting =>
      have left : call ∈ (session.lock.leave asker).line := by simpa using within
      exact .inl ((Lock.line_leave_sublist session.lock asker).subset left)
  | _ => exact .inl (by simpa [connect, reconnect] using within)

theorem asker_of_move (move : Move point session last final) {call : CallId}
    (asking : last.asker? = some call) :
    point.asker? = some call ∨ point = .outside ∧ call = session.issued := by
  cases move with
  | ask request => exact .inr ⟨rfl, by simpa [Point.asker?] using asking.symm⟩
  | report bridge notice hears => exact .inl asking
  | lineStart | lineFinish | lineExchange | lineLook => exact .inl asking
  | _ => simp [Point.asker?] at asking

theorem issued_le_of_move (move : Move point session last final) :
    session.issued ≤ final.issued := by
  cases move with
  | ask request => exact Nat.le_succ _
  | _ => exact Nat.le_of_eq (by simp [connect, reconnect])

theorem issued_le_of_moves (moves : Moves point session last final) :
    session.issued ≤ final.issued := by
  induction moves with
  | refl => exact Nat.le_refl _
  | tail _ move ih => exact Nat.le_trans ih (issued_le_of_move move)

end Session

end Contactless
