import Contactless.Bench.Run
import Contactless.Proofs.Desk.Operations
import Contactless.Proofs.Session.Turns

set_option autoImplicit false

namespace Contactless.Bench

variable {bench next last : Bench} {call : CallId} {stage : Stage} {running : Option CallId}
  {fuel used more : Nat}

@[simp] theorem awaken_fields (bench : Bench) (call : CallId) :
    (bench.awaken call).desk = bench.desk ∧ (bench.awaken call).timers = bench.timers := by
  unfold awaken
  split <;> exact ⟨rfl, rfl⟩

theorem length_ready_awaken (bench : Bench) (call : CallId) :
    (bench.awaken call).ready.length ≤ bench.ready.length + 1 := by
  unfold awaken
  split
  · exact Nat.le_succ _
  · simp

@[simp] theorem note_fields (running : Option CallId) (bench : Bench) (event : DeskEvent) :
    (note running bench event).desk = bench.desk ∧
    (note running bench event).timers = bench.timers := by
  unfold note
  dsimp only
  split
  · split
    · exact awaken_fields ..
    · exact ⟨rfl, rfl⟩
  all_goals exact ⟨rfl, rfl⟩

/-- Where nobody waits for tags, an event wakes only a call that is granted the lock. -/
theorem length_ready_note (unwatched : ∀ bridge, bench.watcher? bridge running = none)
    (event : DeskEvent) :
    (note running bench event).ready.length ≤
      bench.ready.length + (Session.grants event.session?.toList).length := by
  cases event with
  | session event =>
      have observed : ∀ call, ({ bench.write (.session event) with
          radio := bench.radio.observe event }.awaken call).ready.length ≤
            bench.ready.length + 1 := fun call => length_ready_awaken _ call
      cases event with
      | granted call =>
          simp only [note, awakened?]
          split
          · rename_i woken
            exact observed _
          · exact Nat.le_add_right ..
      | noticed bridge notice | closed bridge =>
          have unseen : ∀ told, (bench.write told).watcher? bridge running = none :=
            fun _ => unwatched bridge
          simp only [note, awakened?, unseen]
          exact Nat.le_refl _
      | _ => exact Nat.le_refl _
  | appointed outcome => cases outcome <;> exact Nat.le_refl _
  | vendor | closed | abandoned => exact Nat.le_refl _

@[simp] theorem notes_fields (running : Option CallId) (bench : Bench) (events : List DeskEvent) :
    (events.foldl (note running) bench).desk = bench.desk ∧
    (events.foldl (note running) bench).timers = bench.timers := by
  induction events generalizing bench with
  | nil => exact ⟨rfl, rfl⟩
  | cons event rest ih => simp [ih]

theorem watcher?_congr (same : next.desk = bench.desk) (bridge : BridgeId) :
    next.watcher? bridge running = bench.watcher? bridge running := by
  simp only [watcher?, same]

theorem length_ready_notes (running : Option CallId) (bench : Bench)
    (unwatched : ∀ bridge, bench.watcher? bridge running = none) (events : List DeskEvent) :
    (events.foldl (note running) bench).ready.length ≤
      bench.ready.length + (Session.grants (events.filterMap DeskEvent.session?)).length := by
  induction events generalizing bench with
  | nil => exact Nat.le_refl _
  | cons event rest ih =>
      have here := length_ready_note unwatched event
      have later := ih (note running bench event) fun bridge =>
        (watcher?_congr (note_fields running bench event).1 bridge).trans (unwatched bridge)
      have split : (event :: rest).filterMap DeskEvent.session? =
          event.session?.toList ++ rest.filterMap DeskEvent.session? := by
        cases told : event.session? <;> simp [told]
      rw [List.foldl_cons, split, Session.grants_append, List.length_append]
      omega

@[simp] theorem act_fields (bench : Bench) (running : Option CallId) (action : DeskAction) :
    (bench.act running action).desk = bench.desk.step bench.simulator.kit action ∧
    (bench.act running action).timers = bench.timers := notes_fields ..

/-- The session of the bench can be brought about, the desk has heard of all that it did, and
whoever has a timer waits for time. -/
structure Invariant (bench : Bench) : Prop where
  reached : Session.Reached .outside bench.desk.session
  hears : bench.desk.heard = bench.desk.session.history
  sleeping : ∀ timer ∈ bench.timers, ∃ stage,
    bench.desk.session.stage? timer.call = some stage ∧ stage.sleeps = true

def HasNoTimer (bench : Bench) (call : CallId) : Prop := ∀ timer ∈ bench.timers, timer.call ≠ call

theorem Invariant.congr (invariant : bench.Invariant) (desk : next.desk = bench.desk)
    (timers : next.timers ⊆ bench.timers) : next.Invariant := by
  refine ⟨?_, ?_, fun timer set => ?_⟩ <;> rw [desk]
  · exact invariant.reached
  · exact invariant.hears
  · exact invariant.sleeping timer (timers set)

theorem Invariant.sleeping_act (invariant : bench.Invariant) (running : Option CallId)
    (action : DeskAction) {timer : Timer} (set : timer ∈ bench.timers)
    (apart : action.subject? bench.desk.session ≠ some timer.call) :
    ∃ stage, (bench.act running action).desk.session.stage? timer.call = some stage ∧
      stage.sleeps = true := by
  obtain ⟨stage, pending, sleeps⟩ := invariant.sleeping timer set
  refine ⟨stage, ?_, sleeps⟩
  rw [(act_fields ..).1]
  rcases bench.desk.session_step bench.simulator.kit action with same | ⟨stimulus, same, subject⟩
  · rw [same, pending]
  · rw [same, invariant.reached.stage?_step (subject ▸ apart), pending]

theorem Invariant.act (invariant : bench.Invariant) (running : Option CallId) (action : DeskAction)
    (apart : ∀ timer ∈ bench.timers, action.subject? bench.desk.session ≠ some timer.call) :
    (bench.act running action).Invariant := by
  refine ⟨?_, ?_, fun timer set => ?_⟩
  · rw [(act_fields ..).1]
    exact Desk.reached_step invariant.reached _ action
  · rw [(act_fields ..).1]
    exact Desk.heard_step invariant.reached invariant.hears _ action
  · rw [(act_fields ..).2] at set
    exact invariant.sleeping_act running action set (apart timer set)

/-- Where nobody waits for tags, an action wakes nobody but those that are granted the lock. -/
theorem Invariant.length_ready_act (invariant : bench.Invariant) (running : Option CallId)
    (action : DeskAction)
    (unwatched : ∀ bridge, (bench.act running action).watcher? bridge running = none)
    {new : List SessionEvent} (grown : (bench.act running action).desk.session.history =
      bench.desk.session.history ++ new) :
    (bench.act running action).ready.length ≤
      bench.ready.length + (Session.grants new).length := by
  obtain ⟨told, history, -⟩ := Desk.settlesCalls_step bench.simulator.kit invariant.reached action
  have hears := Desk.heard_step invariant.reached invariant.hears bench.simulator.kit action
  have before : bench.desk.history.filterMap DeskEvent.session? =
      bench.desk.session.history := invariant.hears
  rw [(act_fields ..).1, ← hears, Desk.heard, history, List.filterMap_append, before,
    List.append_cancel_left_eq] at grown
  have woken := length_ready_notes running
    { bench with desk := bench.desk.step bench.simulator.kit action }
    (fun bridge => (watcher?_congr (act_fields bench running action).1.symm bridge).trans
      (unwatched bridge)) told
  rw [← grown, Bench.act, history, List.drop_left]
  exact woken

/-- The turns led here and used up so many of those that were left. -/
structure UsesTurns (bench next : Bench) (used : Nat) : Prop where
  invariant : next.Invariant
  due : next.turnsDue ≤ bench.turnsDue
  all : next.desk.session.turnsOfAll + used ≤ bench.desk.session.turnsOfAll

/-- The turns were those of one call, and used up so many of its own. -/
structure UsesOwnTurns (bench next : Bench) (call : CallId) (used : Nat) : Prop
    extends UsesTurns bench next used where
  timers : next.timers = bench.timers
  left : next.desk.session.turnsLeft call + used ≤ bench.desk.session.turnsLeft call

theorem UsesTurns.trans (first : UsesTurns bench next used) (second : UsesTurns next last more) :
    UsesTurns bench last (used + more) := by
  refine ⟨second.invariant, Nat.le_trans second.due first.due, ?_⟩
  have one := first.all
  have two := second.all
  omega

theorem UsesOwnTurns.trans (first : UsesOwnTurns bench next call used)
    (second : UsesOwnTurns next last call more) :
    UsesOwnTurns bench last call (used + more) := by
  refine ⟨first.toUsesTurns.trans second.toUsesTurns, second.timers.trans first.timers, ?_⟩
  have one := first.left
  have two := second.left
  omega

theorem UsesOwnTurns.weaken (goes : UsesOwnTurns bench next call used) (fewer : more ≤ used) :
    UsesOwnTurns bench next call more := by
  refine ⟨⟨goes.invariant, goes.due, ?_⟩, goes.timers, ?_⟩
  · exact Nat.le_trans (Nat.add_le_add_left fewer _) goes.all
  · exact Nat.le_trans (Nat.add_le_add_left fewer _) goes.left

theorem UsesOwnTurns.awake (goes : UsesOwnTurns bench next call used)
    (awake : bench.HasNoTimer call) :
    next.HasNoTimer call := by
  intro timer set
  exact awake timer (goes.timers ▸ set)

theorem Invariant.usesOwnTurns_of_same (invariant : bench.Invariant) (call : CallId)
    (desk : next.desk = bench.desk) (ready : next.ready = bench.ready)
    (timers : next.timers = bench.timers) : UsesOwnTurns bench next call 0 := by
  refine ⟨⟨invariant.congr desk (by rw [timers]; exact List.Subset.refl _), ?_, ?_⟩, timers, ?_⟩
  · rw [turnsDue, turnsDue, desk, ready]
  · rw [desk]
    exact Nat.le_refl _
  · rw [desk]
    exact Nat.le_refl _

/-- Nobody waits for tags but the running call, which is not woken. -/
theorem watcher?_eq_none (idle : ∀ other, bench.desk.session.lock.holder = some other →
      other = call ∨ ∃ job, bench.desk.session.stage? other = some (.queued job))
    (bridge : BridgeId) : bench.watcher? bridge (some call) = none := by
  unfold watcher?
  cases held : bench.desk.session.lock.holder with
  | none => rfl
  | some other =>
      rcases idle other held with rfl | ⟨job, queued⟩
      · dsimp only
        split
        · simp
        · rfl
      · simp [queued]

/-- The running call has come to the end of its turn. -/
theorem Invariant.usesOwnTurns_wake (invariant : bench.Invariant) (awake : bench.HasNoTimer call)
    (held : bench.desk.session.lock.holder = some call) {signal : Signal} {around : Surroundings}
    {turns : Nat} (within : turns + used ≤ bench.desk.session.turnsLeft call)
    (turned : Session.Turned bench.desk.session call turns
      (bench.desk.session.wake call signal around)) :
    UsesOwnTurns bench (bench.act (some call) (.wake call signal around)) call used := by
  have lined := invariant.reached.lined
  have final : (bench.act (some call) (.wake call signal around)).desk.session =
      bench.desk.session.wake call signal around := by
    rw [(act_fields ..).1]
    exact (Desk.advance_fields ..).1
  have apart : ∀ timer ∈ bench.timers, (DeskAction.wake call signal around).subject?
      bench.desk.session ≠ some timer.call := fun timer set same =>
    awake timer set (Option.some.inj same).symm
  refine ⟨⟨invariant.act (some call) _ apart, ?_, ?_⟩, (act_fields ..).2, ?_⟩
  · obtain ⟨new, grown⟩ := invariant.reached.grows
      (Session.step_moves bench.desk.session (.wake call signal around))
    obtain ⟨more, granted, waiting⟩ := turned.granted
    have same : Session.grants new = more := by
      rw [Session.step] at grown
      rw [← grown, Session.grants_append] at granted
      exact List.append_cancel_left granted
    have ready := invariant.length_ready_act (some call) (.wake call signal around)
      (watcher?_eq_none fun other holds => by
        rw [final] at holds ⊢
        exact turned.working lined held holds)
      (by rw [final]; exact grown.symm)
    rw [turnsDue, turnsDue, final]
    rw [same] at ready
    omega
  · have all := turned.turnsOfAll_le lined held
    rw [final]
    omega
  · have left := turned.turnsLeft_le
    rw [final]
    omega

theorem act_wake_of_same {signal : Signal} {around : Surroundings}
    (same : bench.desk.session.wake call signal around = bench.desk.session) :
    bench.act (some call) (.wake call signal around) = bench := by
  have desk : bench.desk.step bench.simulator.kit (.wake call signal around) = bench.desk := by
    simp [Desk.step, Desk.advance, Session.step, same]
  simp [act, desk]

/-- Reports of the radio take no turns of the call that connects a tag. -/
theorem Invariant.usesOwnTurns_deliver (invariant : bench.Invariant)
    (held : bench.desk.session.lock.holder = some call) (bridge : BridgeId)
    (happening : Happening) :
    UsesOwnTurns bench (bench.deliver (some call) bridge happening) call 0 ∧
      (bench.deliver (some call) bridge happening).desk.session.lock = bench.desk.session.lock ∧
      ∀ other, (bench.deliver (some call) bridge happening).desk.session.stage? other =
        bench.desk.session.stage? other := by
  have final : (bench.deliver (some call) bridge happening).desk.session =
      bench.desk.session.report bridge (bench.radio.notice bench.tags happening) := by
    rw [deliver, (act_fields ..).1]
    exact (Desk.advance_fields ..).1
  have grown : (bench.deliver (some call) bridge happening).desk.session.history =
      bench.desk.session.history ++
        bench.desk.session.reporting bridge (bench.radio.notice bench.tags happening) := by
    rw [final]
    exact Session.history_report ..
  have lock : (bench.deliver (some call) bridge happening).desk.session.lock =
      bench.desk.session.lock := by simp [final]
  have stages : ∀ other, (bench.deliver (some call) bridge happening).desk.session.stage? other =
      bench.desk.session.stage? other := by simp [final]
  have left : (bench.deliver (some call) bridge happening).desk.session.turnsLeft =
      bench.desk.session.turnsLeft := by
    funext other
    simp [Session.turnsLeft, stages]
  refine ⟨⟨⟨invariant.act _ _ fun _ _ => by simp [DeskAction.subject?], ?_, ?_⟩,
    (act_fields ..).2, ?_⟩, lock, stages⟩
  · have own : ∀ other, (bench.deliver (some call) bridge happening).desk.session.lock.holder =
        some other → other = call := by
      intro other holds
      rw [lock, held, Option.some.injEq] at holds
      exact holds.symm
    have ready := invariant.length_ready_act (some call)
      (.notice bridge (bench.radio.notice bench.tags happening))
      (watcher?_eq_none fun other holds => .inl (own other holds)) grown
    rw [Session.grants_reporting] at ready
    rw [turnsDue, turnsDue, lock]
    exact Nat.add_le_add_right ready _
  · simp [Session.turnsOfAll, lock, left]
  · simp [left]

theorem Invariant.usesOwnTurns_play (invariant : bench.Invariant)
    (held : bench.desk.session.lock.holder = some call) (happenings : List Happening) :
    UsesOwnTurns bench (bench.play (some call) happenings) call 0 ∧
      (bench.play (some call) happenings).desk.session.lock = bench.desk.session.lock ∧
      ∀ other, (bench.play (some call) happenings).desk.session.stage? other =
        bench.desk.session.stage? other := by
  have refl : UsesOwnTurns bench bench call 0 := invariant.usesOwnTurns_of_same call rfl rfl rfl
  unfold play
  split
  · exact ⟨refl, rfl, fun _ => rfl⟩
  · rename_i bridge current
    clear current
    induction happenings generalizing bench with
    | nil => exact ⟨refl, rfl, fun _ => rfl⟩
    | cons happening rest ih =>
        obtain ⟨goes, lock, stages⟩ := invariant.usesOwnTurns_deliver held bridge happening
        obtain ⟨later, lock', stages'⟩ := ih goes.invariant (lock ▸ held)
          (goes.invariant.usesOwnTurns_of_same call rfl rfl rfl)
        exact ⟨goes.trans later, lock'.trans lock,
          fun other => (stages' other).trans (stages other)⟩

/-- The turn of a sleeper leaves it one turn less. -/
theorem Invariant.usesOwnTurns_turn_of_sleeps (invariant : bench.Invariant)
    (awake : bench.HasNoTimer call)
    (pending : bench.desk.session.stage? call = some stage) (sleeps : stage.sleeps = true) :
    UsesOwnTurns bench (bench.turn call) call 1 := by
  have working : ∀ job, stage ≠ .queued job := by
    rintro job rfl
    cases sleeps
  have held := invariant.reached.lined.holder_of_stage pending working
  have left := Session.turnsLeft_of_stage pending
  have positive := Stage.turnsLeft_pos sleeps
  -- Whatever the bench does first, the session is where it was when the call is woken.
  have woken : ∀ {next : Bench}, UsesOwnTurns bench next call 0 →
      next.desk.session.lock = bench.desk.session.lock →
      (∀ other, next.desk.session.stage? other = bench.desk.session.stage? other) →
      ∀ signal around, stage.Ends signal →
        UsesOwnTurns bench (next.act (some call) (.wake call signal around)) call 1 := by
    intro next goes lock stages signal around ends
    have there : next.desk.session.stage? call = some stage := (stages call).trans pending
    have turned := goes.invariant.reached.turned_of_ends there ends around
    have within : stage.turnsLeft - 1 + 1 ≤ next.desk.session.turnsLeft call := by
      rw [Session.turnsLeft_of_stage there]
      omega
    have last := goes.invariant.usesOwnTurns_wake (goes.awake awake) (lock ▸ held) within turned
    exact (goes.trans last).weaken (Nat.le_add_left ..)
  unfold turn
  cases stage with
  | queued job | detecting goal bridge => cases sleeps
  | connecting goal bridge tag =>
      simp only [pending]
      have let_go : UsesOwnTurns bench (bench.letGo call) call 0 :=
        invariant.usesOwnTurns_of_same call rfl rfl rfl
      have kept : (bench.letGo call).desk.session.lock.holder = some call := held
      obtain ⟨played, lock, stages⟩ :=
        let_go.invariant.usesOwnTurns_play kept (bench.entryOf call).happenings
      exact woken (let_go.trans played) lock stages _ _ (.connecting ..)
  | resting bridge chain =>
      simp only [pending]
      exact woken (invariant.usesOwnTurns_of_same call rfl rfl rfl) rfl
        (fun _ => rfl) _ _ (.resting ..)
  | transmitting tag rest =>
      simp only [pending]
      have spent : UsesOwnTurns bench (bench.spendAnswer tag) call 0 :=
        invariant.usesOwnTurns_of_same call rfl rfl rfl
      exact woken spent rfl (fun _ => rfl) _ _ (.transmitting ..)

/-- Who looks whether it can go on has no more turns afterwards. -/
theorem Invariant.usesOwnTurns_look (invariant : bench.Invariant) (awake : bench.HasNoTimer call)
    (pending : bench.desk.session.stage? call = some stage) :
    UsesOwnTurns bench (bench.act (some call) (.wake call .look bench.around)) call 0 := by
  have refl : UsesOwnTurns bench bench call 0 := invariant.usesOwnTurns_of_same call rfl rfl rfl
  rcases invariant.reached.turned_of_wake pending .look bench.around with same | turned
  · rw [act_wake_of_same same]
    exact refl
  · by_cases held : bench.desk.session.lock.holder = some call
    · have within := (Session.turnsLeft_of_stage pending).symm
      exact invariant.usesOwnTurns_wake awake held (Nat.le_of_eq within) turned
    · have queued : ∃ job, stage = .queued job := by
        by_contra working
        exact held (invariant.reached.lined.holder_of_stage pending fun job same =>
          working ⟨job, same⟩)
      obtain ⟨job, rfl⟩ := queued
      rw [act_wake_of_same (by simp [Session.wake, pending, held])]
      exact refl

/-- A turn of a call takes nobody's turns but its own. -/
theorem Invariant.usesOwnTurns_turn (invariant : bench.Invariant) (awake : bench.HasNoTimer call) :
    UsesOwnTurns bench (bench.turn call) call 0 := by
  cases pending : bench.desk.session.stage? call with
  | none =>
      simp only [turn, pending]
      exact invariant.usesOwnTurns_of_same call rfl rfl rfl
  | some stage =>
      cases stage with
      | queued job | detecting goal bridge =>
          simp only [turn, pending]
          exact invariant.usesOwnTurns_look awake pending
      | connecting goal bridge tag | resting bridge chain | transmitting tag rest =>
          exact (invariant.usesOwnTurns_turn_of_sleeps awake pending rfl).weaken (Nat.zero_le _)

theorem Invariant.usesOwnTurns_prepare (invariant : bench.Invariant) (call : CallId) :
    UsesOwnTurns bench (bench.prepare call) call 0 := by
  unfold prepare takeEntry
  split
  · split <;> exact invariant.usesOwnTurns_of_same call rfl rfl rfl
  · exact invariant.usesOwnTurns_of_same call rfl rfl rfl

theorem sleeps_of_sleepOf {milliseconds : Nat} (sleeps : bench.sleepOf call = some milliseconds) :
    ∃ stage, bench.desk.session.stage? call = some stage ∧ stage.sleeps = true := by
  unfold sleepOf at sleeps
  split at sleeps
  · exact ⟨_, ‹_›, rfl⟩
  · exact ⟨_, ‹_›, rfl⟩
  · exact ⟨_, ‹_›, rfl⟩
  · cases sleeps

theorem Invariant.usesTurns_arm (invariant : bench.Invariant) {milliseconds : Nat}
    (sleeps : bench.sleepOf call = some milliseconds) :
    UsesTurns bench (bench.arm call milliseconds) 0 := by
  refine ⟨⟨invariant.reached, invariant.hears, fun timer set => ?_⟩, Nat.le_refl _, Nat.le_refl _⟩
  rcases List.mem_append.mp set with old | new
  · exact invariant.sleeping timer old
  · rw [List.mem_singleton.mp new]
    exact sleeps_of_sleepOf sleeps

/-- A call that runs on waits, goes to sleep, or has another turn at once. -/
theorem proceed_cases (bench : Bench) (call : CallId) :
    (∀ fuel, proceed fuel bench call = bench.prepare call) ∨
    (∃ milliseconds, (bench.prepare call).sleepOf call = some milliseconds ∧
      ∀ fuel, proceed fuel bench call = (bench.prepare call).arm call milliseconds) ∨
    (bench.prepare call).sleepOf call = some 0 ∧ proceed 0 bench call = bench.prepare call ∧
      ∀ fuel, proceed (fuel + 1) bench call =
        proceed fuel ((bench.prepare call).turn call) call := by
  cases sleeps : (bench.prepare call).sleepOf call with
  | none =>
      refine .inl fun fuel => ?_
      cases fuel <;> simp only [proceed, sleeps]
  | some milliseconds =>
      cases milliseconds with
      | zero =>
          refine .inr (.inr ⟨rfl, ?_, fun fuel => ?_⟩) <;> simp only [proceed, sleeps]
      | succ milliseconds =>
          refine .inr (.inl ⟨_, rfl, fun fuel => ?_⟩)
          cases fuel <;> simp only [proceed, sleeps]

theorem Invariant.usesTurns_proceed (invariant : bench.Invariant) (awake : bench.HasNoTimer call)
    (fuel : Nat) : UsesTurns bench (proceed fuel bench call) 0 := by
  induction fuel generalizing bench with
  | zero =>
      have prepared := invariant.usesOwnTurns_prepare call
      rcases proceed_cases bench call with waits | ⟨_, sleeps, rests⟩ | ⟨-, stops, -⟩
      · exact waits 0 ▸ prepared.toUsesTurns
      · exact rests 0 ▸ prepared.toUsesTurns.trans (prepared.invariant.usesTurns_arm sleeps)
      · exact stops ▸ prepared.toUsesTurns
  | succ fuel ih =>
      have prepared := invariant.usesOwnTurns_prepare call
      rcases proceed_cases bench call with waits | ⟨_, sleeps, rests⟩ | ⟨-, -, goes_on⟩
      · exact waits (fuel + 1) ▸ prepared.toUsesTurns
      · exact rests (fuel + 1) ▸
          prepared.toUsesTurns.trans (prepared.invariant.usesTurns_arm sleeps)
      · have goes := prepared.trans (prepared.invariant.usesOwnTurns_turn (prepared.awake awake))
        exact goes_on fuel ▸ goes.toUsesTurns.trans (ih goes.invariant (goes.awake awake))

/-- A call has no more turns than the fuel with which it runs on, so more fuel changes nothing. -/
theorem Invariant.proceed_eq (invariant : bench.Invariant) (awake : bench.HasNoTimer call)
    (enough : bench.desk.session.turnsLeft call ≤ fuel)
    (plenty : bench.desk.session.turnsLeft call ≤ more) :
    proceed fuel bench call = proceed more bench call := by
  induction fuel generalizing bench more with
  | zero =>
      rcases proceed_cases bench call with waits | ⟨_, sleeps, rests⟩ | ⟨sleeps, stops, goes_on⟩
      · rw [waits, waits]
      · rw [rests, rests]
      · -- A sleeper has a turn left.
        obtain ⟨stage, pending, asleep⟩ := sleeps_of_sleepOf sleeps
        have prepared := (invariant.usesOwnTurns_prepare call).left
        have left := Session.turnsLeft_of_stage pending
        have positive := Stage.turnsLeft_pos asleep
        omega
  | succ fuel ih =>
      rcases proceed_cases bench call with waits | ⟨_, sleeps, rests⟩ | ⟨sleeps, stops, goes_on⟩
      · rw [waits, waits]
      · rw [rests, rests]
      · obtain ⟨stage, pending, asleep⟩ := sleeps_of_sleepOf sleeps
        have prepared := invariant.usesOwnTurns_prepare call
        have goes := prepared.trans
          (prepared.invariant.usesOwnTurns_turn_of_sleeps (prepared.awake awake) pending asleep)
        have left := goes.left
        obtain ⟨rest, rfl⟩ : ∃ rest, more = rest + 1 := ⟨more - 1, by omega⟩
        rw [goes_on, goes_on]
        exact ih goes.invariant (goes.awake awake) (by omega) (by omega)

end Contactless.Bench
