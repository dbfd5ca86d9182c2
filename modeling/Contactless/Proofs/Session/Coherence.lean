import Contactless.Proofs.Session.Line

/-!
What phase, connection, bridges, slot and the live flag of a session have to do with each other.

The fields agree at every point of a running call. Where the call is decides the phase: nobody
ever finds a session in the middle of starting, renewing or restarting, except the call that is
doing it.
-/

set_option autoImplicit false

namespace Contactless

def Goal.phase : Goal → Phase
  | .start => .starting
  | .restart _ => .restarting
  | .renew _ => .renewing

def Phase.hasCard : Phase → Bool
  | .connected | .renewing => true
  | _ => false

/-- Whether a session can be left in this phase without a call to look after it. -/
def Phase.isSettled : Phase → Bool
  | .idle | .connected | .invalidated => true
  | _ => false

theorem Phase.isSettled_shut (phase : Phase) : phase.shut.isSettled = true := by
  cases phase <;> rfl

theorem Phase.hasCard_shut (phase : Phase) : phase.shut.hasCard = false := by
  cases phase <;> rfl

namespace Session

/-- What the holder of the lock is at. -/
inductive Place where
  | rest
  | opening (goal : Goal) (bridge : BridgeId)
  | detecting (goal : Goal) (bridge : BridgeId)
  | transmitting (tag : Tag)
  /-- Between two radio sessions, before the next bridge is open. -/
  | reopening
  | broken

def placeOf : Stage → Place
  | .queued _ => .rest
  | .detecting goal bridge | .connecting goal bridge _ => .detecting goal bridge
  | .resting bridge chain => .opening (.restart chain) bridge
  | .transmitting tag _ => .transmitting tag

/-- What the holder is at while everybody waits. -/
def place (session : Session) : Place :=
  match session.lock.holder with
  | none => .rest
  | some call =>
    match session.stage? call with
    | none => .rest
    | some stage => placeOf stage

def Point.place (session : Session) : Point → Place
  | .outside | .asking _ _ | .lining _ _ => session.place
  | .holding _ _ | .leaving _ _ => .rest
  | .beginning _ goal bridge _ | .tuning _ goal bridge => .opening goal bridge
  | .repolling _ chain bridge => .detecting (.renew chain) bridge
  | .polling _ goal bridge | .attaching _ goal bridge _ => .detecting goal bridge
  | .reopening _ _ => .reopening
  | .sending _ tag _ => .transmitting tag
  | .failing _ _ => .broken

/-- A bridge is in use: no other one is in the slot. -/
structure Uses (session : Session) (bridge : BridgeId) : Prop where
  opened : bridge < session.bridges.length
  slot : session.slot = none ∨ session.slot = some bridge

/-- The fields of a session agree. -/
structure Coherent (session : Session) : Prop where
  live : session.live = session.phase.isLive
  unclosed : ∀ bridge, session.isClosed bridge = false → session.slot = some bridge
  dead : session.phase.isLive = false → session.slot = none
  connection : session.connection.isSome = session.phase.hasCard
  held : session.held.isSome = session.phase.hasCard
  uses : ∀ bridge, session.held = some bridge → session.Uses bridge

/-- The session is in the phase that belongs to what the holder is at. -/
def Fits (session : Session) : Place → Prop
  | .rest => session.phase.isSettled = true
  | .opening goal bridge =>
    session.phase = goal.phase ∧ goal.phase.hasCard = false ∧ session.Uses bridge
  | .detecting goal bridge =>
    session.phase = goal.phase ∧ session.Uses bridge ∧
      (goal.phase.hasCard = true → session.held = some bridge)
  | .transmitting tag =>
    session.phase = .connected ∧ session.connection.map (·.tag) = some tag
  | .reopening => session.phase = .restarting ∧ session.slot = none
  | .broken => True

/-- Both sessions have the same fields, and no closed bridge has opened again. -/
structure Alike (session final : Session) : Prop where
  phase : final.phase = session.phase
  connection : final.connection = session.connection
  held : final.held = session.held
  slot : final.slot = session.slot
  live : final.live = session.live
  bridges : final.bridges.length = session.bridges.length
  closed : ∀ bridge, session.isClosed bridge = true → final.isClosed bridge = true

variable {session final : Session}

theorem Uses.congr {bridge : BridgeId} (uses : session.Uses bridge)
    (slot : final.slot = none ∨ final.slot = session.slot)
    (bridges : session.bridges.length ≤ final.bridges.length) : final.Uses bridge := by
  refine ⟨Nat.lt_of_lt_of_le uses.opened bridges, ?_⟩
  rcases slot with empty | same
  · exact .inl empty
  · rw [same]
    exact uses.slot

theorem Uses.eq_of_slot {bridge other : BridgeId} (uses : session.Uses other)
    (filled : session.slot = some bridge) : other = bridge := by
  rcases uses.slot with empty | there
  · rw [empty] at filled
    cases filled
  · exact Option.some.inj (there.symm.trans filled)

namespace Alike

theorem recorded (session : Session) (lock : Lock) (calls : List (CallId × Stage))
    (issued : Nat) (history : List SessionEvent) :
    Alike session
      { session with lock := lock, calls := calls, issued := issued, history := history } :=
  ⟨rfl, rfl, rfl, rfl, rfl, rfl, fun _ closed => closed⟩

theorem refl (session : Session) : Alike session session := .recorded session _ _ _ _

theorem coherent (alike : Alike session final) (coherent : Coherent session) :
    Coherent final := by
  refine ⟨?_, ?_, ?_, ?_, ?_, ?_⟩
  · rw [alike.live, alike.phase]
    exact coherent.live
  · intro bridge unclosed
    rw [alike.slot]
    apply coherent.unclosed
    cases before : session.isClosed bridge with
    | false => rfl
    | true =>
        rw [alike.closed bridge before] at unclosed
        cases unclosed
  · rw [alike.slot, alike.phase]
    exact coherent.dead
  · rw [alike.connection, alike.phase]
    exact coherent.connection
  · rw [alike.held, alike.phase]
    exact coherent.held
  · intro bridge held
    rw [alike.held] at held
    exact (coherent.uses bridge held).congr (.inr alike.slot) (Nat.le_of_eq alike.bridges.symm)

theorem fits (alike : Alike session final) {place : Place} (fits : session.Fits place) :
    final.Fits place := by
  have keeps : ∀ bridge, session.Uses bridge → final.Uses bridge :=
    fun bridge uses => uses.congr (.inr alike.slot) (Nat.le_of_eq alike.bridges.symm)
  cases place with
  | rest =>
      unfold Fits at fits ⊢
      rw [alike.phase]
      exact fits
  | opening goal bridge =>
      obtain ⟨phase, bare, uses⟩ := fits
      exact ⟨alike.phase.trans phase, bare, keeps bridge uses⟩
  | detecting goal bridge =>
      obtain ⟨phase, uses, held⟩ := fits
      exact ⟨alike.phase.trans phase, keeps bridge uses,
        fun carded => alike.held.trans (held carded)⟩
  | transmitting tag =>
      obtain ⟨phase, attached⟩ := fits
      refine ⟨alike.phase.trans phase, ?_⟩
      rw [alike.connection]
      exact attached
  | reopening =>
      obtain ⟨phase, empty⟩ := fits
      exact ⟨alike.phase.trans phase, alike.slot.trans empty⟩
  | broken => trivial

end Alike

theorem Coherent.finished (coherent : Coherent session) {bridge : BridgeId}
    (elsewhere : session.slot ≠ some bridge) : session.isClosed bridge = true := by
  cases closed : session.isClosed bridge with
  | true => rfl
  | false => exact absurd (coherent.unclosed bridge closed) elsewhere

theorem Coherent.hangUp (coherent : Coherent session) (farewell : Option String) :
    Coherent (session.hangUp farewell) := by
  refine ⟨?_, ?_, ?_, ?_, ?_, ?_⟩
  · simpa using coherent.live
  · intro bridge unclosed
    rw [isClosed_hangUp, Bool.or_eq_false_iff] at unclosed
    have filled := coherent.unclosed bridge unclosed.1
    simp [filled] at unclosed
  · simp
  · simpa using coherent.connection
  · simpa using coherent.held
  · intro bridge held
    simp only [hangUp_fields] at held
    exact (coherent.uses bridge held).congr (.inl (by simp)) (by simp)

theorem Fits.hangUp {place : Place} (fits : session.Fits place) (farewell : Option String) :
    (session.hangUp farewell).Fits place := by
  have keeps : ∀ bridge, session.Uses bridge → (session.hangUp farewell).Uses bridge :=
    fun bridge uses => uses.congr (.inl (by simp)) (by simp)
  cases place with
  | rest => simpa [Fits] using fits
  | opening goal bridge =>
      obtain ⟨phase, bare, uses⟩ := fits
      exact ⟨by simpa using phase, bare, keeps bridge uses⟩
  | detecting goal bridge =>
      obtain ⟨phase, uses, held⟩ := fits
      exact ⟨by simpa using phase, keeps bridge uses, by simpa using held⟩
  | transmitting tag => simpa [Fits] using fits
  | reopening => exact ⟨by simpa using fits.1, by simp⟩
  | broken => trivial

/-- A session that was shut down is in order, whatever it was before. -/
theorem Coherent.shutDown
    (unclosed : ∀ bridge, session.isClosed bridge = false → session.slot = some bridge)
    (farewell : Option String) : Coherent (session.shutDown farewell) := by
  refine ⟨?_, ?_, ?_, ?_, ?_, ?_⟩
  · simp
  · intro bridge closed
    rw [isClosed_shutDown, Bool.or_eq_false_iff] at closed
    have filled := unclosed bridge closed.1
    simp [filled] at closed
  · simp
  · simp [Phase.hasCard_shut]
  · simp [Phase.hasCard_shut]
  · simp

theorem fits_shutDown (session : Session) (farewell : Option String) :
    (session.shutDown farewell).Fits .rest := by
  simp [Fits, Phase.isSettled_shut]

/-- Nothing is left of the session. -/
structure Down (session : Session) : Prop where
  phase : session.phase = .invalidated
  connection : session.connection = none
  held : session.held = none
  slot : session.slot = none
  live : session.live = false

theorem down_conclude (started : session.phase ≠ .idle) (farewell : Option String) (call : CallId)
    (outcome : Outcome) : Down ((session.shutDown farewell).conclude call outcome) := by
  refine ⟨?_, by simp, by simp, by simp, by simp⟩
  simp only [conclude_fields, phase_shutDown]
  cases phase : session.phase <;> simp [Phase.shut]
  exact absurd phase started

theorem down_fail {call : CallId} {error : SessionError} (started : session.phase ≠ .idle) :
    Down (session.fail call error) :=
  down_conclude started error.farewell call (.error error)

theorem down_drop (started : session.phase ≠ .idle) (call : CallId) :
    Down (((session.shutDown none).release.forget call).emit (.dropped call)) := by
  refine ⟨?_, by simp, by simp, by simp, by simp⟩
  simp only [emit_fields, forget_fields, release_fields, phase_shutDown]
  cases phase : session.phase <;> first | rfl | exact absurd phase started

theorem place_congr (holder : final.lock.holder = session.lock.holder)
    (stages : ∀ call, session.lock.holder = some call →
      final.stage? call = session.stage? call) : final.place = session.place := by
  unfold place
  rw [holder]
  cases held : session.lock.holder with
  | none => rfl
  | some call => simp only [stages call held]

theorem place_of_stage {call : CallId} {stage : Stage}
    (held : session.lock.holder = some call) (pending : session.stage? call = some stage) :
    session.place = placeOf stage := by
  simp [place, held, pending]

theorem place_park {call : CallId} (held : session.lock.holder = some call) (stage : Stage) :
    (session.park call stage).place = placeOf stage :=
  place_of_stage (by simpa using held) (by simp [stage?_park])

/-- Whoever is handed the lock has not done anything with it. -/
theorem Lined.place_release {point : Point} {call : CallId} (lined : Lined point session)
    (held : session.lock.holder = some call) (lock : final.lock = session.lock.release)
    (stages : ∀ other, final.stage? other =
      if other = call then none else session.stage? other) : final.place = .rest := by
  unfold place
  rw [lock]
  cases next : session.lock.release.holder with
  | none => rfl
  | some other =>
      have waits : other ∈ session.lock.waiting := List.mem_of_mem_head? next
      have apart : other ≠ call := by
        rintro rfl
        exact lined.not_waiting held waits
      obtain ⟨job, queued⟩ := lined.waiting other waits
      simp only [stages, if_neg apart, queued, placeOf]

theorem place_wait {call holder : CallId} {job : Job} (lined : Lined (.lining call job) session)
    (held : session.lock.holder = some holder) (lock : final.lock = session.lock.request call)
    (stages : ∀ other, final.stage? other =
      if other = call then some (.queued job) else session.stage? other) :
    final.place = session.place := by
  apply place_congr
  · rw [lock, Lock.request_of_held held]
  · intro other holds
    have before := (lined.asker call rfl).2 other (Lock.mem_line.mpr (.inl holds))
    rw [stages, if_neg (Nat.ne_of_lt before)]

theorem place_hangUp (session : Session) (farewell : Option String) :
    (session.hangUp farewell).place = session.place :=
  place_congr (by simp) (by simp)

theorem Point.place_report (point : Point) (session : Session) (bridge : BridgeId)
    (notice : TagNotice) : point.place (session.report bridge notice) = point.place session := by
  cases point <;> first
    | rfl
    | exact place_congr (by simp) (by simp)

theorem place_leave {call : CallId} (waiting : session.lock.holder ≠ some call) :
    (({ session with lock := session.lock.leave call }.forget call).emit (.dropped call)).place =
      session.place := by
  refine place_congr (by simp) fun other held => ?_
  have apart : other ≠ call := by
    rintro rfl
    exact waiting held
  exact (stage?_forget _ other call).trans (if_neg apart)

/-- The fields of a session agree with each other and with what the holder is at. -/
structure Sound (point : Point) (session : Session) : Prop where
  coherent : Coherent session
  fits : session.Fits (point.place session)

/-- Between two radio sessions there is no bridge in the slot. -/
theorem Sound.slot_of_reopening {call : CallId} {chain : Chain}
    (sound : Sound (.reopening call chain) session) : session.slot = none := by
  have fits : session.phase = .restarting ∧ session.slot = none := sound.fits
  exact fits.2

theorem Sound.congr {point last : Point} (sound : Sound point session)
    (alike : Alike session final) (place : last.place final = point.place session) :
    Sound last final := by
  refine ⟨alike.coherent sound.coherent, ?_⟩
  rw [place]
  exact alike.fits sound.fits

theorem Sound.broken {point : Point} {call : CallId} {error : SessionError}
    (sound : Sound point session) (alike : Alike session final) :
    Sound (.failing call error) final :=
  ⟨alike.coherent sound.coherent, trivial⟩

theorem Alike.emit (session : Session) (event : SessionEvent) :
    Alike session (session.emit event) :=
  .recorded session _ _ _ _

theorem Alike.trans {middle : Session} (first : Alike session middle)
    (second : Alike middle final) : Alike session final :=
  ⟨second.phase.trans first.phase, second.connection.trans first.connection,
    second.held.trans first.held, second.slot.trans first.slot, second.live.trans first.live,
    second.bridges.trans first.bridges,
    fun bridge closed => second.closed bridge (first.closed bridge closed)⟩

theorem Alike.park (session : Session) (call : CallId) (stage : Stage) :
    Alike session (session.park call stage) :=
  .recorded session _ _ _ _

theorem Alike.release (session : Session) : Alike session session.release := by
  rw [release_eq]
  exact .recorded session _ _ _ _

theorem Alike.report (session : Session) (bridge : BridgeId) (notice : TagNotice) :
    Alike session (session.report bridge notice) := by
  refine ⟨by simp, by simp, by simp, by simp, by simp, by simp, ?_⟩
  intro other closed
  simp [isClosed_report, closed]

theorem Alike.update (session : Session) {bridge : BridgeId} {change : TagBridge → TagBridge}
    (kept : ∀ found, session.bridges[bridge]? = some found →
      (change found).closed = found.closed) : Alike session (session.update bridge change) := by
  refine ⟨by simp, by simp, by simp, by simp, by simp, by simp, ?_⟩
  intro other closed
  rw [isClosed_update_of_kept session kept]
  exact closed

theorem Alike.poll {bridge : BridgeId} {found : TagBridge}
    (here : session.bridges[bridge]? = some found) :
    Alike session (session.update bridge fun _ => found.poll.2) := by
  apply Alike.update
  intro other there
  obtain rfl : found = other := by simpa [here] using there
  exact Bridge.closed_poll found

theorem Alike.takeInterruption {bridge : BridgeId} {found : TagBridge}
    (here : session.bridges[bridge]? = some found) :
    Alike session (session.update bridge fun _ => found.takeInterruption.2) := by
  apply Alike.update
  intro other there
  obtain rfl : found = other := by simpa [here] using there
  rfl

theorem Coherent.openBridge (coherent : Coherent session) (empty : session.slot = none)
    (live : session.phase.isLive = true) (unheld : session.held = none) :
    Coherent session.openBridge := by
  refine ⟨?_, ?_, ?_, ?_, ?_, ?_⟩
  · simpa using coherent.live
  · intro bridge unclosed
    rw [isClosed_openBridge session empty, Bool.and_eq_false_iff] at unclosed
    rcases unclosed with before | same
    · have filled := coherent.unclosed bridge before
      rw [empty] at filled
      cases filled
    · have same : bridge = session.nextBridge := by simpa using same
      simp [same]
  · simp [live]
  · simpa using coherent.connection
  · simpa using coherent.held
  · simp [unheld]

theorem uses_openBridge (session : Session) : session.openBridge.Uses session.nextBridge :=
  ⟨by simp [nextBridge], .inr (by simp)⟩

/-- A start finds no bridge in the slot. -/
theorem Sound.start {call : CallId} {purpose : Purpose}
    (sound : Sound (.holding call (.start purpose)) session)
    (dead : session.phase.isLive = false) :
    Sound (.beginning call .start session.nextBridge purpose.prompt)
      { session with
        phase := .starting
        live := true
        purpose := some purpose
        connection := none
        held := none }.openBridge := by
  have empty := sound.coherent.dead dead
  have bare : Coherent { session with
      phase := .starting
      live := true
      purpose := some purpose
      connection := none
      held := none } := by
    refine ⟨rfl, sound.coherent.unclosed, ?_, rfl, rfl, ?_⟩
    · intro impossible
      cases impossible
    · intro bridge held
      cases held
  exact ⟨bare.openBridge empty rfl rfl, by simp [Goal.phase], rfl, uses_openBridge _⟩

/-- Between two radio sessions the next bridge is opened before the pause. -/
theorem Sound.pause {call : CallId} {chain : Chain}
    (sound : Sound (.reopening call chain) session) :
    Coherent session.openBridge ∧
      session.openBridge.Fits (.opening (.restart chain) session.nextBridge) := by
  have empty := sound.slot_of_reopening
  have phase : session.phase = .restarting := sound.fits.1
  have unheld : session.held = none := by
    have held := sound.coherent.held
    rw [phase] at held
    exact Option.isNone_iff_eq_none.mp (by simpa [Phase.hasCard] using held)
  refine ⟨sound.coherent.openBridge empty (by rw [phase]; rfl) unheld, ?_, rfl,
    uses_openBridge _⟩
  show session.openBridge.phase = .restarting
  simpa using phase

theorem Sound.connect {point : Point} {goal : Goal} {bridge : BridgeId}
    (sound : Sound point session) (detecting : point.place session = .detecting goal bridge)
    (tag : Tag) (now : Int) : Coherent (session.connect bridge tag now) := by
  have fits := sound.fits
  rw [detecting] at fits
  obtain ⟨phase, uses, _⟩ := fits
  refine ⟨?_, sound.coherent.unclosed, ?_, rfl, rfl, ?_⟩
  · have live := sound.coherent.live
    rw [phase] at live
    cases goal <;> exact live
  · intro dead
    cases dead
  · intro other held
    obtain rfl : bridge = other := by simpa [Session.connect] using held
    exact uses.congr (.inr rfl) (Nat.le_refl _)

theorem Sound.reconnect {call : CallId} {chain : Chain} {bridge : BridgeId} {tag : Tag}
    (sound : Sound (.attaching call (.renew chain) bridge tag) session) (now : Int) :
    Coherent (session.reconnect tag now) ∧
      (session.reconnect tag now).Fits (.transmitting tag) := by
  obtain ⟨phase, uses, held⟩ : session.phase = .renewing ∧ session.Uses bridge ∧
    (Phase.renewing.hasCard = true → session.held = some bridge) := sound.fits
  have carded := sound.coherent.connection
  have kept := sound.coherent.held
  have live := sound.coherent.live
  rw [phase] at carded kept live
  refine ⟨⟨live, sound.coherent.unclosed, ?_, ?_, kept, ?_⟩, rfl, ?_⟩
  · intro dead
    cases dead
  · rw [Session.reconnect, Option.isSome_map]
    exact carded
  · intro other same
    exact (sound.coherent.uses other same).congr (.inr rfl) (Nat.le_refl _)
  · obtain ⟨connection, attached⟩ := Option.isSome_iff_exists.mp carded
    simp [Session.reconnect, attached, Connection.renewed]

theorem Sound.renew {call : CallId} {chain : Chain} {bridge : BridgeId} {connection : Connection}
    (sound : Sound (.holding call (.exchange chain)) session)
    (ready : session.Ready bridge connection) :
    Sound (.repolling call chain bridge) { session with phase := .renewing } := by
  have coherent := sound.coherent
  refine ⟨⟨?_, coherent.unclosed, ?_, ?_, ?_, ?_⟩, rfl, ?_, fun _ => ready.held⟩
  · have live := coherent.live
    rw [ready.phase] at live
    exact live
  · intro dead
    cases dead
  · simp [ready.connection, Phase.hasCard]
  · simp [ready.held, Phase.hasCard]
  · intro other held
    exact (coherent.uses other held).congr (.inr rfl) (Nat.le_refl _)
  · exact (coherent.uses bridge ready.held).congr (.inr rfl) (Nat.le_refl _)

theorem Sound.restart {call : CallId} {chain : Chain} {bridge : BridgeId}
    {connection : Connection} (sound : Sound (.holding call (.exchange chain)) session)
    (ready : session.Ready bridge connection) :
    Sound (.reopening call chain)
      ({ session with phase := .restarting, connection := none, held := none }.hangUp none) := by
  have bare : Coherent { session with phase := .restarting, connection := none, held := none } := by
    refine ⟨?_, sound.coherent.unclosed, ?_, rfl, rfl, ?_⟩
    · have live := sound.coherent.live
      rw [ready.phase] at live
      exact live
    · intro dead
      cases dead
    · intro other held
      cases held
  exact ⟨bare.hangUp none, by simp, by simp⟩

/-- Every move keeps the fields of a session in agreement. -/
theorem Sound.move {point last : Point} (lined : Lined point session)
    (sound : Sound point session) (move : Move point session last final) : Sound last final := by
  have coherent := sound.coherent
  have fits := sound.fits
  -- A call past the line holds the lock, so its stage tells what the holder is at.
  have reach : ∀ {call : CallId} {stage : Stage}, point = .outside →
      session.stage? call = some stage → (∀ job, stage ≠ .queued job) →
      session.Fits (placeOf stage) := by
    rintro call stage rfl pending working
    rw [← place_of_stage (lined.holder_of_stage pending working) pending]
    exact fits
  cases move with
  | ask request | refuseRadio | refuseLive | refuseEmpty | alert =>
      exact sound.congr (.recorded session _ _ _ _) rfl
  | lineStart | lineExchange | lineLook | repolled => exact ⟨coherent, fits⟩
  | lineFinish call cause =>
      refine ⟨coherent.hangUp _, ?_⟩
      simp only [Point.place, place_hangUp] at fits ⊢
      exact fits.hangUp _
  | take call job free =>
      have same : session.place = .rest := by simp [place, free]
      exact sound.congr (.recorded session _ _ _ _) same.symm
  | wait call holder job held =>
      exact sound.congr (.recorded session _ _ _ _)
        (place_wait lined held (by simp) (fun other => stage?_park _ other call _))
  | turn call job queued handed =>
      exact sound.congr (.refl session) (place_of_stage handed queued).symm
  | deny | look | unconnected => exact ⟨coherent, fits⟩
  | begin => exact sound.congr (.emit session _) rfl
  | start call purpose dead => exact sound.start dead
  | finish call farewell =>
      exact ⟨.shutDown coherent.unclosed farewell, fits_shutDown session farewell⟩
  | stale | unattached | tooLate | lost => exact sound.broken (.refl session)
  | interrupted call chain bridge found reason connected held here unclosed unread =>
      exact sound.broken (.takeInterruption here)
  | keep call chain bridge connection ready now fresh =>
      exact ⟨coherent, ready.phase, by simp [ready.connection]⟩
  | renew call chain bridge connection ready now old =>
      refine (sound.renew ready).congr
        (.trans (.update _ ?_) (.trans (.emit _ _) (.emit _ _))) rfl
      exact fun _ _ => rfl
  | restart call chain bridge connection ready now aged => exact sound.restart ready
  | pause call chain =>
      obtain ⟨opened, opening⟩ := sound.pause
      have alike := Alike.trans (.emit session.openBridge (.paused call session.policy.cooldown))
        (.park _ call (.resting session.nextBridge chain))
      refine ⟨alike.coherent opened, ?_⟩
      rw [Point.place, place_park (by simpa using lined.worker call rfl)]
      exact alike.fits opening
  | rested call bridge chain resting => exact ⟨coherent, reach rfl resting (by simp)⟩
  | report bridge notice hears =>
      exact sound.congr (.report session bridge notice) (point.place_report session bridge notice)
  | beginRefused | beginCut =>
      exact sound.broken (.recorded session _ _ _ _)
  | begun call goal bridge unclosed =>
      obtain ⟨phase, bare, uses⟩ := (Alike.emit session _).fits fits
      exact ⟨(Alike.emit session _).coherent coherent, phase, uses, by simp [bare]⟩
  | poll call goal bridge detecting => exact ⟨coherent, reach rfl detecting (by simp)⟩
  | pend call goal bridge found here nothing =>
      refine sound.congr (.trans (.poll here) (.park _ _ _)) ?_
      exact place_park (by simpa using lined.worker call rfl) _
  | exhaust call goal bridge found here | halt call goal bridge found here =>
      exact sound.broken (.poll here)
  | foreign call goal bridge found here =>
      exact sound.broken (.trans (.poll here) (.emit _ _))
  | pick call goal bridge found here tags polled tag wallet =>
      refine sound.congr (.trans (.poll here) (.trans (.emit _ _)
        (.trans (.emit _ _) (.park _ _ _)))) ?_
      exact place_park (by simpa using lined.worker call rfl) _
  | reject | desert | answerLost | answerShort =>
      exact sound.broken (.recorded session _ _ _ _)
  | accept call goal bridge tag connecting unclosed =>
      have alike := Alike.trans (.emit session (.connectEnded call tag none))
        (.emit _ (.acknowledged call))
      exact ⟨alike.coherent coherent, alike.fits (reach rfl connecting (by simp))⟩
  | attachStart call bridge tag now =>
      have emitted : Sound (.attaching call .start bridge tag) _ :=
        sound.congr (.emit session (.attached call .start bridge tag now)) rfl
      exact ⟨emitted.connect rfl tag now, rfl⟩
  | attachRestart call chain bridge tag now =>
      have emitted : Sound (.attaching call (.restart chain) bridge tag) _ :=
        sound.congr (.emit session (.attached call (.restart chain) bridge tag now)) rfl
      exact ⟨emitted.connect rfl tag now, rfl, rfl⟩
  | attachRenew call chain bridge tag now =>
      have emitted : Sound (.attaching call (.renew chain) bridge tag) _ :=
        sound.congr (.emit session (.attached call (.renew chain) bridge tag now)) rfl
      obtain ⟨reconnected, transmitting⟩ := emitted.reconnect now
      exact ⟨reconnected, transmitting⟩
  | send call tag chain =>
      refine sound.congr (.trans (.emit session _) (.park _ _ _)) ?_
      exact place_park (by simpa using lined.worker call rfl) _
  | answerLast call tag bytes response transmitting read
  | answerFault call tag chain bytes response fault transmitting read failed =>
      have alike := Alike.emit session (.answered call tag (.ok bytes))
      obtain ⟨phase, _⟩ := alike.fits (reach rfl transmitting (by simp))
      refine ⟨alike.coherent coherent, ?_⟩
      simp only [Point.place, Fits, phase]
      rfl
  | answerNext call tag chain bytes response transmitting read succeeded =>
      have alike := Alike.emit session (.answered call tag (.ok bytes))
      exact ⟨alike.coherent coherent, alike.fits (reach rfl transmitting (by simp))⟩
  | fail call error =>
      exact ⟨.shutDown coherent.unclosed error.farewell, fits_shutDown session error.farewell⟩
  | leave call outcome =>
      refine sound.congr (.trans (.release session) (.recorded _ _ _ _ _)) ?_
      exact lined.place_release (lined.worker call rfl) (by simp) (by simp)
  | dropHanded call job queued handed =>
      refine sound.congr (.trans (.release session) (.recorded _ _ _ _ _)) ?_
      rw [Point.place, Point.place, place_of_stage handed queued]
      exact lined.place_release handed (by simp) (by simp [stage?_forget])
  | dropWaiting call job queued waiting =>
      exact sound.congr (.recorded session _ _ _ _) (place_leave waiting)
  | dropHolder call stage pending working =>
      have down : Coherent (session.shutDown none) := .shutDown coherent.unclosed none
      have alike : Alike (session.shutDown none)
          (((session.shutDown none).release.forget call).emit (.dropped call)) :=
        .trans (.release _) (.recorded _ _ _ _ _)
      refine ⟨alike.coherent down, ?_⟩
      rw [Point.place, lined.place_release (lined.holder_of_stage pending working) (by simp)
        (by simp [stage?_forget])]
      exact alike.fits (fits_shutDown session none)

theorem Sound.initial (policy : Policy) : Sound .outside (Session.initial policy) := by
  refine ⟨⟨rfl, ?_, fun _ => rfl, rfl, rfl, ?_⟩, rfl⟩
  · intro bridge unclosed
    simp [Session.initial, isClosed] at unclosed
  · intro bridge held
    cases held

theorem Reached.sound {point : Point} (reached : Reached point session) : Sound point session :=
  reached.induction Sound.initial fun _ _ _ _ reached sound move => sound.move reached.lined move

end Session

end Contactless
