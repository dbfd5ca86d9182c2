import Contactless.Proofs.Session.Ending

set_option autoImplicit false

namespace Contactless

/-- Whether a call waits here for nothing but time. -/
def Stage.sleeps : Stage → Bool
  | .connecting _ _ _ | .resting _ _ | .transmitting _ _ => true
  | .queued _ | .detecting _ _ => false

theorem Stage.turnsLeft_pos {stage : Stage} (sleeps : stage.sleeps = true) :
    0 < stage.turnsLeft := by
  cases stage with
  | connecting goal bridge tag => exact Nat.lt_of_lt_of_le Nat.one_pos (Nat.le_add_right ..)
  | resting bridge chain | transmitting tag rest => exact Nat.succ_pos _
  | queued job | detecting goal bridge => cases sleeps

/-- What a call that waits for time is woken with when the time is over. -/
inductive Stage.Ends : Stage → Signal → Prop
  | connecting (goal : Goal) (bridge : BridgeId) (tag : Tag) (refusal : Option LinkFault) :
      Ends (.connecting goal bridge tag) (.connected refusal)
  | resting (bridge : BridgeId) (chain : Chain) : Ends (.resting bridge chain) .rested
  | transmitting (tag : Tag) (rest : List Bytes) (answer : Except LinkFault Bytes) :
      Ends (.transmitting tag rest) (.replied answer)

namespace Session

/-- How many more turns the running call can take after this one. -/
def Point.turnsLeft : Point → Nat
  | .holding _ job => (Stage.queued job).turnsLeft
  | .beginning _ goal _ _ | .tuning _ goal _ | .polling _ goal _ => 1 + goal.toSend
  | .repolling _ chain _ => 1 + chain.toList.length
  | .attaching _ goal _ _ => goal.toSend
  | .reopening _ chain => chain.toList.length + 2
  | .sending _ _ chain => chain.toList.length
  | .outside | .asking _ _ | .lining _ _ | .failing _ _ | .leaving _ _ => 0

/-- Lock, pending calls and the order of holding the lock are the same. -/
structure SameLine (session final : Session) : Prop where
  lock : final.lock = session.lock
  granted : grants final.history = grants session.history
  stages : ∀ other, final.stage? other = session.stage? other

/-- The turn of a call is over. The call waits again, with at most so many turns left, or it has
passed the lock on. -/
inductive Turned (session : Session) (call : CallId) (turns : Nat) (final : Session) : Prop
  | parked (stage : Stage) (fewer : stage.turnsLeft ≤ turns) (lock : final.lock = session.lock)
      (granted : grants final.history = grants session.history)
      (stages : ∀ other, final.stage? other =
        if other = call then some stage else session.stage? other)
  | left (lock : final.lock = session.lock.release)
      (granted : grants final.history =
        grants session.history ++ session.lock.waiting.head?.toList)
      (stages : ∀ other, final.stage? other =
        if other = call then none else session.stage? other)

variable {point last : Point} {session middle final : Session} {call other : CallId}
  {stage : Stage} {turns more : Nat}

theorem SameLine.turned (same : SameLine session middle) (fewer : turns ≤ more)
    (turned : Turned middle call turns final) : Turned session call more final := by
  cases turned with
  | parked stage within lock granted stages =>
      refine .parked stage (Nat.le_trans within fewer) (lock.trans same.lock)
        (granted.trans same.granted) fun other => ?_
      rw [stages, same.stages]
  | left lock granted stages =>
      rw [same.lock] at lock granted
      refine .left lock (granted.trans (by rw [same.granted])) fun other => ?_
      rw [stages, same.stages]

/-- The call that runs with the lock goes on without more turns than before, or its turn is over. -/
theorem Sound.turn_move (sound : Sound point session) (move : Move point session last final)
    (works : point.worker? = some call) :
    (last.worker? = some call ∧ last.turnsLeft ≤ point.turnsLeft ∧ SameLine session final) ∨
      last = .outside ∧ Turned session call point.turnsLeft final := by
  cases move with
  | start worker purpose dead =>
      have empty : session.slot = none := sound.coherent.dead dead
      refine .inl ⟨works, Nat.le_refl _, by simp, ?_, fun other => stage?_openBridge _ other⟩
      simp [history_openBridge, empty, grants, SessionEvent.grantee?]
  | pause worker chain =>
      obtain rfl := Option.some.inj works
      have empty := sound.slot_of_reopening
      refine .inr ⟨rfl, .parked (.resting session.nextBridge chain) (Nat.le_refl _) (by simp) ?_
        (by simp [stage?_park])⟩
      simp [history_openBridge, empty, grants, SessionEvent.grantee?]
  | pend worker goal bridge found here nothing =>
      obtain rfl := Option.some.inj works
      exact .inr ⟨rfl, .parked (.detecting goal bridge) (Nat.le_refl _) (by simp)
        (by simp [grants]) (by simp [stage?_park])⟩
  | pick worker goal bridge found here tags polled tag wallet =>
      obtain rfl := Option.some.inj works
      exact .inr ⟨rfl, .parked (.connecting goal bridge tag) (Nat.le_refl _) (by simp)
        (by simp [grants, SessionEvent.grantee?]) (by simp [stage?_park])⟩
  | send worker tag chain =>
      obtain rfl := Option.some.inj works
      exact .inr ⟨rfl, .parked (.transmitting tag chain.rest) (Nat.le_refl _) (by simp)
        (by simp [grants, SessionEvent.grantee?]) (by simp [Session.send, stage?_park])⟩
  | leave worker outcome =>
      obtain rfl := Option.some.inj works
      refine .inr ⟨rfl, .left (by simp) ?_ (by simp)⟩
      simp [grants_append, Lock.release]
      simp [grants, SessionEvent.grantee?]
  | finish worker farewell =>
      exact .inl ⟨works, Nat.zero_le _, by simp, by simp [grants_append], by simp⟩
  | fail => exact .inl ⟨works, Nat.le_refl _, by simp, by simp [grants_append], by simp⟩
  | restart worker chain =>
      exact .inl ⟨works, Nat.le_refl _, by simp, by simp [grants_append],
        fun other => stage?_hangUp _ none other⟩
  | report bridge notice hears =>
      exact .inl ⟨works, Nat.le_refl _, by simp, by simp [grants_append], by simp⟩
  | renew worker chain bridge connection ready now old =>
      refine .inl ⟨works, ?_, by simp, by simp [grants, SessionEvent.grantee?], fun _ => rfl⟩
      simp only [Point.turnsLeft, Stage.turnsLeft]
      omega
  | keep =>
      refine .inl ⟨works, ?_, rfl, rfl, fun _ => rfl⟩
      simp only [Point.turnsLeft, Stage.turnsLeft]
      omega
  | deny | look | unconnected | stale | interrupted | unattached | tooLate | beginRefused
  | beginCut | lost | exhaust | halt | foreign | attachStart =>
      exact .inl ⟨works, Nat.zero_le _, rfl,
        by simp [grants, SessionEvent.grantee?, Session.connect], fun _ => rfl⟩
  | begin | begun | repolled | attachRestart | attachRenew =>
      exact .inl ⟨works, Nat.le_refl _, rfl,
        by simp [grants, SessionEvent.grantee?, Session.connect, Session.reconnect],
        fun _ => rfl⟩
  | _ => cases works

/-- The running call waits again or leaves in the end. -/
theorem Pass.turned (reached : Reached point session) (pass : Pass point session final)
    (works : point.worker? = some call) : Turned session call point.turnsLeft final := by
  induction pass with
  | last move =>
      rcases reached.sound.turn_move move works with ⟨impossible, -, -⟩ | ⟨-, turned⟩
      · cases impossible
      · exact turned
  | head move runs rest ih =>
      rcases reached.sound.turn_move move works with ⟨still, fewer, same⟩ | ⟨rfl, -⟩
      · exact same.turned fewer (ih (reached.trans (.single move)) still)
      · cases runs

/-- Whoever goes on with its work had turns left for it. -/
theorem Lined.works_of_move (lined : Lined .outside session)
    (move : Move .outside session point middle) (works : point.works = true)
    (pending : session.stage? call = some stage) (working : ∀ job, stage ≠ .queued job) :
    point.worker? = some call ∧ point.turnsLeft ≤ stage.turnsLeft - stage.sleeps.toNat ∧
      SameLine session middle := by
  -- Only the holder of the lock waits at a stage past the line.
  have own : ∀ {worker : CallId} {found : Stage}, session.stage? worker = some found →
      (∀ job, found ≠ .queued job) → worker = call ∧ found = stage := by
    intro worker found parked past
    have same := (lined.holder_of_stage parked past).symm.trans
      (lined.holder_of_stage pending working)
    obtain rfl := Option.some.inj same
    exact ⟨rfl, Option.some.inj (parked.symm.trans pending)⟩
  cases move with
  | rested worker bridge chain parked =>
      obtain ⟨rfl, rfl⟩ := own parked (by simp)
      refine ⟨rfl, ?_, rfl, rfl, fun _ => rfl⟩
      simp only [Point.turnsLeft, Stage.turnsLeft, Stage.sleeps, Goal.toSend, Bool.toNat_true]
      omega
  | poll worker goal bridge parked =>
      obtain ⟨rfl, rfl⟩ := own parked (by simp)
      exact ⟨rfl, Nat.le_refl _, rfl, rfl, fun _ => rfl⟩
  | reject worker goal bridge tag fault parked | desert worker goal bridge tag parked
  | answerLost worker tag rest fault parked | answerShort worker tag rest bytes fault parked
  | answerLast worker tag bytes response parked
  | answerFault worker tag chain bytes response fault parked =>
      obtain ⟨rfl, rfl⟩ := own parked (by simp)
      exact ⟨rfl, Nat.zero_le _, rfl, by simp [grants, SessionEvent.grantee?], fun _ => rfl⟩
  | accept worker goal bridge tag parked unclosed =>
      obtain ⟨rfl, rfl⟩ := own parked (by simp)
      refine ⟨rfl, ?_, rfl, by simp [grants, SessionEvent.grantee?], fun _ => rfl⟩
      simp only [Point.turnsLeft, Stage.turnsLeft, Stage.sleeps, Bool.toNat_true]
      omega
  | answerNext worker tag chain bytes response parked =>
      obtain ⟨rfl, rfl⟩ := own parked (by simp)
      exact ⟨rfl, Nat.le_refl _, rfl, by simp [grants, SessionEvent.grantee?], fun _ => rfl⟩
  | _ => cases works

theorem Proceeds.turned (reached : Reached .outside session) (proceeds : Proceeds session final)
    (pending : session.stage? call = some stage) (working : ∀ job, stage ≠ .queued job) :
    Turned session call (stage.turnsLeft - stage.sleeps.toNat) final := by
  obtain ⟨point, middle, move, works, pass⟩ := proceeds
  obtain ⟨own, fewer, same⟩ := reached.lined.works_of_move move works pending working
  exact same.turned fewer (pass.turned (reached.trans (.single move)) own)

/-- A call whose time is over has a turn less than before. -/
theorem Reached.turned_of_ends (reached : Reached .outside session)
    (pending : session.stage? call = some stage) {signal : Signal} (ends : stage.Ends signal)
    (around : Surroundings) :
    Turned session call (stage.turnsLeft - 1) (session.wake call signal around) := by
  cases ends with
  | connecting goal bridge tag refusal =>
      have proceeds :=
        finishConnect_proceeds session call goal bridge tag pending refusal around.now
      simp only [Session.wake, pending]
      exact proceeds.turned reached pending (by simp)
  | resting bridge chain =>
      have proceeds := resume_proceeds session call bridge chain pending around
      simp only [Session.wake, pending]
      exact proceeds.turned reached pending (by simp)
  | transmitting tag rest answer =>
      have proceeds := receive_proceeds session call tag rest pending answer
      simp only [Session.wake, pending]
      exact proceeds.turned reached pending (by simp)

theorem Reached.turned_of_wake (reached : Reached .outside session)
    (pending : session.stage? call = some stage) (signal : Signal) (around : Surroundings) :
    session.wake call signal around = session ∨
      Turned session call stage.turnsLeft (session.wake call signal around) := by
  rcases wake_cases session call signal around with
    same | ⟨job, -, queued, handed, pass⟩ | ⟨found, parked, working, proceeds⟩
  · exact .inl same
  · obtain rfl := Option.some.inj (queued.symm.trans pending)
    exact .inr (pass.turned (reached.trans (.single (.turn call job queued handed))) rfl)
  · obtain rfl := Option.some.inj (parked.symm.trans pending)
    have same : SameLine session session := ⟨rfl, rfl, fun _ => rfl⟩
    exact .inr (same.turned (Nat.sub_le ..) (proceeds.turned reached pending working))

theorem turnsLeft_of_stage (pending : session.stage? call = some stage) :
    session.turnsLeft call = stage.turnsLeft := by
  simp [Session.turnsLeft, pending]

theorem Turned.turnsLeft_le (turned : Turned session call turns final) :
    final.turnsLeft call ≤ turns := by
  cases turned with
  | parked stage fewer lock granted stages => simpa [Session.turnsLeft, stages] using fewer
  | left lock granted stages => simp [Session.turnsLeft, stages]

theorem turnsOfAll_of_holder (held : session.lock.holder = some call) :
    session.turnsOfAll =
      session.turnsLeft call + (session.lock.waiting.map session.turnsLeft).foldr (· + ·) 0 := by
  simp [turnsOfAll, Lock.line, held]

/-- A turn changes nothing for those who wait behind the running call. -/
theorem Turned.turnsOfAll_le (turned : Turned session call turns final)
    (lined : Lined .outside session) (held : session.lock.holder = some call) :
    final.turnsOfAll + session.turnsLeft call ≤ session.turnsOfAll + turns := by
  have apart : ∀ other ∈ session.lock.waiting, other ≠ call := by
    rintro other waits rfl
    exact lined.not_waiting held waits
  have same : session.lock.waiting.map final.turnsLeft =
      session.lock.waiting.map session.turnsLeft := by
    refine List.map_congr_left fun other waits => ?_
    cases turned with
    | parked stage fewer lock granted stages =>
        rw [Session.turnsLeft, stages, if_neg (apart other waits)]
        rfl
    | left lock granted stages =>
        rw [Session.turnsLeft, stages, if_neg (apart other waits)]
        rfl
  have left := turned.turnsLeft_le
  rw [turnsOfAll_of_holder held]
  cases turned with
  | parked stage fewer lock granted stages =>
      rw [turnsOfAll_of_holder (lock ▸ held), lock, same]
      omega
  | left lock granted stages =>
      rw [Session.turnsOfAll, lock, Lock.line_release, same]
      omega

theorem Turned.granted (turned : Turned session call turns final) :
    ∃ new, grants final.history = grants session.history ++ new ∧
      new.length + final.lock.waiting.length = session.lock.waiting.length := by
  cases turned with
  | parked stage fewer lock granted stages =>
      exact ⟨[], by simpa using granted, by simp [lock]⟩
  | left lock granted stages =>
      refine ⟨_, granted, ?_⟩
      rw [lock, Lock.release]
      cases session.lock.waiting with
      | nil => rfl
      | cons first rest => simp [Nat.add_comm]

theorem Turned.working (turned : Turned session call turns final) (lined : Lined .outside session)
    (held : session.lock.holder = some call) (holds : final.lock.holder = some other) :
    other = call ∨ ∃ job, final.stage? other = some (.queued job) := by
  cases turned with
  | parked stage fewer lock granted stages =>
      rw [lock, held, Option.some.injEq] at holds
      exact .inl holds.symm
  | left lock granted stages =>
      rw [lock] at holds
      have waits : other ∈ session.lock.waiting := List.mem_of_mem_head? holds
      have apart : other ≠ call := by
        rintro rfl
        exact lined.not_waiting held waits
      obtain ⟨job, queued⟩ := lined.waiting other waits
      exact .inr ⟨job, by rw [stages, if_neg apart, queued]⟩

theorem stage?_of_runner (move : Move point session last final)
    (runs : point.worker? = some call ∨ point.asker? = some call) (apart : other ≠ call) :
    final.stage? other = session.stage? other ∧
      (last.rests = false → last.worker? = some call ∨ last.asker? = some call) := by
  cases move with
  | start => exact ⟨stage?_openBridge _ other, fun _ => runs⟩
  | restart => exact ⟨stage?_hangUp _ none other, fun _ => runs⟩
  | take worker job free =>
      refine ⟨rfl, fun _ => .inl ?_⟩
      simpa [Point.worker?, Point.asker?] using runs
  | wait worker holder job held =>
      obtain rfl : worker = call := by simpa [Point.worker?, Point.asker?] using runs
      exact ⟨(stage?_park _ other worker _).trans (if_neg apart), fun runs => by cases runs⟩
  | pause worker chain | pend worker goal bridge found here nothing
  | pick worker goal bridge found here tags polled tag wallet =>
      obtain rfl : worker = call := by simpa [Point.worker?, Point.asker?] using runs
      exact ⟨by simp [stage?_park, apart], fun runs => by cases runs⟩
  | send worker tag chain =>
      obtain rfl : worker = call := by simpa [Point.worker?, Point.asker?] using runs
      exact ⟨by simp [Session.send, stage?_park, apart], fun runs => by cases runs⟩
  | leave worker outcome =>
      obtain rfl : worker = call := by simpa [Point.worker?, Point.asker?] using runs
      exact ⟨by simp [apart], fun runs => by cases runs⟩
  | refuseRadio | refuseLive | refuseEmpty => exact ⟨rfl, fun runs => by cases runs⟩
  | finish | fail | lineFinish | report => exact ⟨by simp, fun _ => runs⟩
  | ask | turn | rested | poll | reject | desert | accept | answerLost | answerShort | answerLast
  | answerFault | answerNext | dropHanded | dropWaiting | dropHolder | alert =>
      simp [Point.worker?, Point.asker?] at runs
  | _ => exact ⟨rfl, fun _ => runs⟩

theorem Pass.stage?_of_other (pass : Pass point session final)
    (runs : point.worker? = some call ∨ point.asker? = some call) (apart : other ≠ call) :
    final.stage? other = session.stage? other := by
  induction pass with
  | last move => exact (stage?_of_runner move runs apart).1
  | head move works rest ih =>
      obtain ⟨same, still⟩ := stage?_of_runner move runs apart
      exact (ih (still works)).trans same

/-- A stimulus changes nothing for the calls that it is not about. -/
theorem Reached.stage?_step (reached : Reached .outside session) {stimulus : Stimulus}
    (apart : stimulus.subject? session ≠ some other) :
    (session.step stimulus).stage? other = session.stage? other := by
  cases stimulus with
  | call request around =>
      exact (asking_pass session request around).stage?_of_other (.inr rfl)
        fun same => apart (congrArg some same.symm)
  | wake call signal around =>
      have others : other ≠ call := fun same => apart (congrArg some same.symm)
      rcases wake_cases session call signal around with
        same | ⟨job, -, queued, handed, pass⟩ | ⟨stage, pending, working, point, middle, move,
          works, pass⟩
      · rw [Session.step, same]
      · exact pass.stage?_of_other (.inl rfl) others
      · obtain ⟨own, -, same⟩ := reached.lined.works_of_move move works pending working
        exact (pass.stage?_of_other (.inl own) others).trans (same.stages other)
  | notice bridge notice => simp [Session.step]
  | drop call =>
      have others : other ≠ call := fun same => apart (congrArg some same.symm)
      rw [Session.step, Session.drop]
      split
      · rfl
      · dsimp only
        rw [stage?_emit, stage?_forget, if_neg others]
        split
        · exact stage?_release session other
        · rfl
      · simp [stage?_forget, others]
  | alert text => rfl

end Session

end Contactless
