import Contactless.Proofs.Session.TagSelection

set_option autoImplicit false

namespace Contactless

/-- Whether the event is work of the call that holds the lock: with a bridge, the radio or a tag. -/
def SessionEvent.isWork : SessionEvent → Bool
  | .called _ _ | .requested _ | .granted _ | .ended _ _ | .dropped _ | .closed _ | .noticed _ _
  | .beginEnded _ _ _ | .dismissed _ | .alerted _ => false
  | _ => true

inductive Progress where
  /-- The bridge is open, and the radio has not begun over it. -/
  | opened (goal : Goal) (bridge : BridgeId)
  /-- The radio polls, and no batch has been taken since. -/
  | looking (goal : Goal) (bridge : BridgeId)
  | picked (goal : Goal) (bridge : BridgeId) (tag : Tag)
  | linked (goal : Goal) (bridge : BridgeId) (tag : Tag)
  | sending (tag : Tag) (chain : Chain)

def Stage.progress? : Stage → Option Progress
  | .resting bridge chain => some (.opened (.restart chain) bridge)
  | .detecting goal bridge => some (.looking goal bridge)
  | .connecting goal bridge tag => some (.picked goal bridge tag)
  | .queued _ | .transmitting _ _ => none

namespace Session

def Point.running? : Point → Option Progress
  | .beginning _ goal bridge _ => some (.opened goal bridge)
  | .tuning _ goal bridge | .polling _ goal bridge => some (.looking goal bridge)
  | .repolling _ chain bridge => some (.looking (.renew chain) bridge)
  | .attaching _ goal bridge tag => some (.linked goal bridge tag)
  | .sending _ tag chain => some (.sending tag chain)
  | _ => none

def Point.progress? (session : Session) (call : CallId) (point : Point) : Option Progress :=
  match point.worker? with
  | some worker => if worker = call then point.running? else none
  | none => (session.stage? call).bind Stage.progress?

/-- How a call gets on from where it was, if it was on its way, and what is recorded of it. -/
inductive ProgressStep (session : Session) (call : CallId) :
    Option Progress → List SessionEvent → Progress → Prop
  | start : ProgressStep session call none [.opened session.nextBridge]
      (.opened .start session.nextBridge)
  | rest (chain : Chain) : ProgressStep session call none
      [.opened session.nextBridge, .paused call session.policy.cooldown]
      (.opened (.restart chain) session.nextBridge)
  | begin (goal : Goal) (bridge : BridgeId) (prompt : String) :
      ProgressStep session call (some (.opened goal bridge)) [.begun call bridge prompt]
        (.looking goal bridge)
  | repoll (chain : Chain) (bridge : BridgeId) : ProgressStep session call none
      [.drained call bridge, .repolled call bridge] (.looking (.renew chain) bridge)
  | pick (goal : Goal) (bridge : BridgeId) (batch : List Tag) (tag : Tag)
      (first : FirstCard session.policy.aid tag batch) :
      ProgressStep session call (some (.looking goal bridge))
        [.taken call bridge batch, .connecting call bridge tag] (.picked goal bridge tag)
  | link (goal : Goal) (bridge : BridgeId) (tag : Tag) :
      ProgressStep session call (some (.picked goal bridge tag))
        [.connectEnded call tag none, .acknowledged call] (.linked goal bridge tag)
  | attach (goal : Goal) (bridge : BridgeId) (tag : Tag) (now : Int) (chain : Chain) :
      ProgressStep session call (some (.linked goal bridge tag))
        [.attached call goal bridge tag now]
        (.sending tag chain)
  | reuse (tag : Tag) (chain : Chain) (new : List SessionEvent) :
      ProgressStep session call none new (.sending tag chain)

/-- What is recorded of a move besides the progress of a call. -/
structure SideEvents (point last : Point) (final : Session) (new : List SessionEvent) : Prop where
  idle : ∀ event ∈ new, event.isWork = false
  /-- Where nobody but the call can do anything, nothing is recorded. -/
  alone : new = [] ∨ point.worker? = none ∨ point.hears = true
  /-- Whoever dismisses the radio leaves the slot empty. -/
  dismissed : (∀ farewell, .dismissed farewell ∉ new) ∨ last.worker? = none ∧ final.slot = none

variable {point last : Point} {session final : Session} {call : CallId} {progress : Progress}

theorem sideEvents_nil (point last : Point) (final : Session) : SideEvents point last final [] :=
  ⟨by simp, .inl rfl, .inl (by simp)⟩

theorem isWork_of_aside {events : List SessionEvent}
    (aside : ∀ event ∈ events, event.isAside = true) (event : SessionEvent)
    (member : event ∈ events) : event.isWork = false := by
  have beside := aside event member
  cases event <;> first | rfl | cases beside

theorem dismissed_not_mem_reporting (session : Session) (bridge : BridgeId) (notice : TagNotice)
    (farewell : Option String) :
    SessionEvent.dismissed farewell ∉ session.reporting bridge notice := by
  unfold reporting
  split
  · simp
  · cases notice <;> simp

theorem progress?_of_running {worker : CallId} (runs : point.worker? = some worker)
    (there : point.progress? session call = some progress) :
    worker = call ∧ point.running? = some progress := by
  simp only [Point.progress?, runs] at there
  split at there
  · exact ⟨‹_›, there⟩
  · cases there

theorem progress?_own (runs : point.worker? = some call) :
    point.progress? session call = point.running? := by
  simp only [Point.progress?, runs, ↓reduceIte]

theorem progress?_of_idle (idle : point.worker? = none) :
    point.progress? session call = (session.stage? call).bind Stage.progress? := by
  simp only [Point.progress?, idle]

theorem progress?_of_stage (idle : point.worker? = none) {stage : Stage}
    (pending : session.stage? call = some stage) :
    point.progress? session call = stage.progress? := by
  rw [progress?_of_idle idle, pending]
  rfl

/-- Where the holder of the lock parks is where it has come; nobody else has come anywhere. -/
theorem Lined.progress?_park {worker : CallId} (lined : Lined point session)
    (place : Option Stage) (runs : point.worker? = some worker)
    (parked : ∀ other, final.stage? other =
      if other = worker then place else session.stage? other)
    (there : Point.outside.progress? final call = some progress) :
    worker = call ∧ place.bind Stage.progress? = some progress := by
  rw [progress?_of_idle rfl, parked] at there
  split at there
  · rename_i same
    exact ⟨same.symm, there⟩
  · rename_i apart
    obtain ⟨waiting, pending, come⟩ := Option.bind_eq_some_iff.mp there
    obtain ⟨job, rfl⟩ := lined.queued (lined.worker worker runs) apart pending
    cases come

/-- Whoever leaves, or joins the line, has not come anywhere, and the others are where they were. -/
theorem progress?_of_others (gone : CallId) (place : Option Stage) (idle : point.worker? = none)
    (parked : ∀ other, final.stage? other = if other = gone then place else session.stage? other)
    (nowhere : place.bind Stage.progress? = none)
    (there : Point.outside.progress? final call = some progress) :
    point.progress? session call = some progress := by
  rw [progress?_of_idle rfl, parked] at there
  rw [progress?_of_idle idle]
  split at there
  · rw [nowhere] at there
    cases there
  · exact there

/-- A call that has come somewhere was there before, and only what happens besides is recorded, or
it has got on by one step. -/
theorem Sound.progressStep (lined : Lined point session) (sound : Sound point session)
    (move : Move point session last final)
    (there : last.progress? final call = some progress) :
    (point.progress? session call = some progress ∧ ∃ new,
      final.history = session.history ++ new ∧ SideEvents point last final new) ∨
    ∃ new, final.history = session.history ++ new ∧
      ProgressStep session call (point.progress? session call) new progress := by
  cases move with
  | ask | refuseRadio | refuseLive | refuseEmpty | alert =>
      exact .inl ⟨there, [_], rfl, by simp [SessionEvent.isWork], .inr (.inl rfl), .inl (by simp)⟩
  | lineStart | lineExchange | lineLook =>
      exact .inl ⟨there, [], by simp, sideEvents_nil ..⟩
  | lineFinish other cause =>
      refine .inl ⟨?_, _, history_hangUp session _,
        isWork_of_aside (isAside_hangingUp session _), .inr (.inl rfl), .inr ⟨rfl, by simp⟩⟩
      rw [progress?_of_idle rfl, stage?_hangUp] at there
      exact there
  | wait other holder job held =>
      have parked := fun caller => stage?_park
        { session.emit (.requested other) with lock := session.lock.request other } caller other
        (.queued job)
      exact .inl ⟨progress?_of_others other (some (.queued job)) rfl parked rfl there,
        [.requested other], by simp, by simp [SessionEvent.isWork], .inr (.inl rfl), .inl (by simp)⟩
  | report bridge notice hears =>
      refine .inl ⟨?_, _, history_report session bridge notice,
        isWork_of_aside (isAside_reporting session bridge notice), .inr (.inr hears),
        .inl (dismissed_not_mem_reporting session bridge notice)⟩
      simpa [Point.progress?] using there
  | rested other bridge chain pending =>
      obtain ⟨rfl, come⟩ := progress?_of_running rfl there
      exact .inl ⟨(progress?_of_stage rfl pending).trans come, [], by simp, sideEvents_nil ..⟩
  | poll other goal bridge pending =>
      obtain ⟨rfl, come⟩ := progress?_of_running rfl there
      exact .inl ⟨(progress?_of_stage rfl pending).trans come, [], by simp, sideEvents_nil ..⟩
  | begun other goal bridge unclosed =>
      exact .inl ⟨there, [_], rfl, by simp [SessionEvent.isWork], .inr (.inr rfl), .inl (by simp)⟩
  | repolled => exact .inl ⟨there, [], by simp, sideEvents_nil ..⟩
  | pend other goal bridge found here nothing =>
      obtain ⟨rfl, come⟩ := lined.progress?_park (some (.detecting goal bridge)) rfl
        (fun caller => by simp [stage?_park]) there
      exact .inl ⟨(progress?_own rfl).trans come, [], by simp, sideEvents_nil ..⟩
  | leave other outcome =>
      obtain ⟨-, nowhere⟩ := lined.progress?_park none rfl (by simp) there
      cases nowhere
  | dropHanded other job queued handed =>
      exact .inl ⟨progress?_of_others other none rfl (by simp [stage?_forget]) rfl there,
        session.lock.release.holder.toList.map .granted ++ [.dropped other], by simp,
        by simp [or_imp, forall_and, SessionEvent.isWork], .inr (.inl rfl), .inl (by simp)⟩
  | dropWaiting other job queued waiting =>
      have left := fun caller => stage?_forget
        { session with lock := session.lock.leave other } caller other
      exact .inl ⟨progress?_of_others other none rfl left rfl there, [_], rfl,
        by simp [SessionEvent.isWork], .inr (.inl rfl), .inl (by simp)⟩
  | dropHolder other stage pending working =>
      have aside := isWork_of_aside (isAside_hangingUp session none)
      refine .inl ⟨progress?_of_others other none rfl (by simp [stage?_forget]) rfl there,
        session.hangingUp none ++ (session.lock.release.holder.toList.map .granted ++
          [.dropped other]), by simp, ?_, .inr (.inl rfl), .inr ⟨rfl, by simp⟩⟩
      simpa [or_imp, forall_and, SessionEvent.isWork] using aside
  | start other purpose dead =>
      obtain ⟨rfl, come⟩ := progress?_of_running rfl there
      obtain rfl := Option.some.inj come
      refine .inr ⟨[.opened session.nextBridge],
        history_openBridge _ (sound.coherent.dead dead), ?_⟩
      rw [progress?_own rfl]
      exact .start
  | keep other chain bridge connection ready now fresh =>
      obtain ⟨rfl, come⟩ := progress?_of_running rfl there
      obtain rfl := Option.some.inj come
      refine .inr ⟨[], by simp, ?_⟩
      rw [progress?_own rfl]
      exact .reuse ..
  | renew other chain bridge connection ready now old =>
      obtain ⟨rfl, come⟩ := progress?_of_running rfl there
      obtain rfl := Option.some.inj come
      refine .inr ⟨[.drained other bridge, .repolled other bridge], by simp, ?_⟩
      rw [progress?_own rfl]
      exact .repoll ..
  | pause other chain =>
      obtain ⟨rfl, come⟩ := lined.progress?_park (some (.resting session.nextBridge chain)) rfl
        (fun caller => by simp [stage?_park]) there
      obtain rfl := Option.some.inj come
      refine .inr ⟨[.opened session.nextBridge, .paused other session.policy.cooldown],
        by simp [history_openBridge session sound.slot_of_reopening], ?_⟩
      rw [progress?_own rfl]
      exact .rest ..
  | begin other goal bridge prompt unclosed =>
      obtain ⟨rfl, come⟩ := progress?_of_running rfl there
      obtain rfl := Option.some.inj come
      refine .inr ⟨[_], rfl, ?_⟩
      rw [progress?_own rfl]
      exact .begin ..
  | pick other goal bridge found here tags polled tag wallet =>
      obtain ⟨rfl, come⟩ := lined.progress?_park (some (.connecting goal bridge tag)) rfl
        (fun caller => by simp [stage?_park]) there
      obtain rfl := Option.some.inj come
      refine .inr ⟨[.taken other bridge tags, .connecting other bridge tag], by simp, ?_⟩
      rw [progress?_own rfl]
      exact .pick _ _ _ _ (firstWallet?_eq_some.mp wallet)
  | accept other goal bridge tag pending unclosed =>
      obtain ⟨rfl, come⟩ := progress?_of_running rfl there
      obtain rfl := Option.some.inj come
      refine .inr ⟨[.connectEnded other tag none, .acknowledged other], by simp, ?_⟩
      rw [progress?_of_stage rfl pending]
      exact .link ..
  | attachRestart other chain bridge tag now | attachRenew other chain bridge tag now =>
      obtain ⟨rfl, come⟩ := progress?_of_running rfl there
      obtain rfl := Option.some.inj come
      refine .inr ⟨[_], rfl, ?_⟩
      rw [progress?_own rfl]
      exact .attach ..
  | answerNext other tag chain bytes response pending read succeeded =>
      obtain ⟨rfl, come⟩ := progress?_of_running rfl there
      obtain rfl := Option.some.inj come
      refine .inr ⟨[_], rfl, ?_⟩
      rw [progress?_of_stage rfl pending]
      exact .reuse ..
  | send other tag chain =>
      obtain ⟨-, nowhere⟩ := lined.progress?_park (some (.transmitting tag chain.rest)) rfl
        (fun caller => by simp [Session.send, stage?_park]) there
      cases nowhere
  | _ =>
      obtain ⟨-, nowhere⟩ := progress?_of_running rfl there
      cases nowhere

theorem Lined.holder_of_progress (lined : Lined point session)
    (there : point.progress? session call = some progress) :
    session.lock.holder = some call := by
  cases runs : point.worker? with
  | some worker =>
      obtain ⟨rfl, -⟩ := progress?_of_running runs there
      exact lined.worker worker runs
  | none =>
      rw [progress?_of_idle runs] at there
      obtain ⟨stage, pending, come⟩ := Option.bind_eq_some_iff.mp there
      refine lined.holder_of_stage pending ?_
      rintro job rfl
      cases come

/-- A call loses its way only by failing, by being dropped, by completing a start or by handing its
first command to the tag. -/
theorem Lined.progress_lost (lined : Lined point session) (move : Move point session last final)
    (there : point.progress? session call = some progress)
    (gone : last.progress? final call = none) :
    (∃ error, last = .failing call error) ∨ .dropped call ∈ final.history ∨
      (∃ bridge tag, progress = .linked .start bridge tag) ∨
      ∃ tag chain, progress = .sending tag chain := by
  have held := lined.holder_of_progress there
  -- Whoever else waits past the line would hold the lock.
  have own : ∀ {other : CallId} {stage : Stage}, session.stage? other = some stage →
      (∀ job, stage ≠ .queued job) → other = call := fun pending working =>
    Option.some.inj ((lined.holder_of_stage pending working).symm.trans held)
  have clash : ∀ {came : Option Progress}, came = none → ¬ came = some progress := by
    rintro _ rfl impossible
    cases impossible
  cases move with
  | ask | refuseRadio | refuseLive | refuseEmpty | lineStart | lineExchange | lineLook | alert =>
      exact absurd there (clash gone)
  | lineFinish other cause =>
      rw [progress?_of_idle rfl, stage?_hangUp] at gone
      exact absurd there (clash gone)
  | take other job free =>
      rw [free] at held
      cases held
  | wait other holder job blocked =>
      have before := (lined.asker other rfl).2 call (Lock.mem_line.mpr (.inl held))
      have stays := (stage?_park { session.emit (.requested other) with
        lock := session.lock.request other } call other (.queued job)).trans
          (if_neg (Nat.ne_of_lt before))
      rw [progress?_of_idle rfl, stays] at gone
      exact absurd there (clash gone)
  | turn other job queued handed =>
      obtain rfl : other = call := Option.some.inj (handed.symm.trans held)
      rw [progress?_of_stage rfl queued] at there
      cases there
  | report bridge notice hears =>
      have same : point.progress? (session.report bridge notice) call =
          point.progress? session call := by simp [Point.progress?]
      exact absurd (same.trans there) (clash gone)
  | rested other bridge chain pending | poll other goal bridge pending
  | accept other goal bridge tag pending =>
      obtain rfl := own pending (by simp)
      rw [progress?_own rfl] at gone
      cases gone
  | reject other goal bridge tag fault pending | desert other goal bridge tag pending =>
      obtain rfl := own pending (by simp)
      exact .inl ⟨_, rfl⟩
  | answerLost other tag rest fault pending | answerShort other tag rest bytes fault pending
  | answerLast other tag bytes response pending
  | answerFault other tag chain bytes response fault pending
  | answerNext other tag chain bytes response pending =>
      obtain rfl := own pending (by simp)
      rw [progress?_of_stage rfl pending] at there
      cases there
  | dropHanded other job queued handed =>
      obtain rfl : other = call := Option.some.inj (handed.symm.trans held)
      exact .inr (.inl (by simp))
  | dropWaiting other job queued waiting =>
      have apart : call ≠ other := by
        rintro rfl
        exact waiting held
      have stays := (stage?_forget { session with lock := session.lock.leave other } call
        other).trans (if_neg apart)
      rw [progress?_of_idle rfl] at gone
      exact absurd there (clash ((congrArg (·.bind Stage.progress?) stays).symm.trans gone))
  | dropHolder other stage pending working =>
      obtain rfl := own pending working
      exact .inr (.inl (by simp))
  | tooLate | beginRefused | beginCut | lost | exhaust | halt | foreign =>
      obtain ⟨rfl, -⟩ := progress?_of_running rfl there
      exact .inl ⟨_, rfl⟩
  | begin | begun | repolled | attachRestart | attachRenew =>
      obtain ⟨rfl, -⟩ := progress?_of_running rfl there
      rw [progress?_own rfl] at gone
      cases gone
  | pend other goal bridge found here nothing | pick other goal bridge found here tags polled tag =>
      obtain ⟨rfl, -⟩ := progress?_of_running rfl there
      rw [progress?_of_idle rfl, stage?_park, if_pos rfl] at gone
      cases gone
  | attachStart other bridge tag now =>
      obtain ⟨-, come⟩ := progress?_of_running rfl there
      exact .inr (.inr (.inl ⟨bridge, tag, (Option.some.inj come).symm⟩))
  | send other tag chain =>
      obtain ⟨-, come⟩ := progress?_of_running rfl there
      exact .inr (.inr (.inr ⟨tag, chain, (Option.some.inj come).symm⟩))
  | _ =>
      obtain ⟨-, nowhere⟩ := progress?_of_running rfl there
      cases nowhere

end Session

end Contactless
