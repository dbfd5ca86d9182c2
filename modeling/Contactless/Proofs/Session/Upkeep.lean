import Contactless.Proofs.Session.Progress
import Contactless.Proofs.Session.Prompting
import Contactless.Proofs.Session.Timekeeping

/-!
What an exchange has done for its connection before it sends anything.

By the age of the connection its tag is used as it is, detected anew, or looked for in another radio
session after a rest. Whoever else calls in the meantime adds nothing to that: a radio session that
is ended under the hands of the call takes it along, so that it never gets to send.
-/

set_option autoImplicit false

namespace Contactless

/-- Whether the session has the radio or a tag do something, or rests. -/
def SessionEvent.isRadioCall : SessionEvent → Bool
  | .begun _ _ _ | .repolled _ _ | .connecting _ _ _ | .acknowledged _ | .dismissed _
  | .paused _ _ | .sent _ _ _ => true
  | _ => false

namespace Session

/-- All that the session has had the radio and the tags do, with its rests. -/
def radioCalls (history : List SessionEvent) : List SessionEvent := history.filter (·.isRadioCall)

/-- What a call has had done when it has come so far on its way to the first command, if it began
by a rest or by having the radio poll anew. -/
inductive RadioCallsTo (call : CallId) (pause : Duration) (prompt : String) :
    Goal → BridgeId → Progress → List SessionEvent → Prop
  | rested (chain : Chain) (bridge : BridgeId) :
      RadioCallsTo call pause prompt (.restart chain) bridge (.opened (.restart chain) bridge)
        [.dismissed none, .paused call pause]
  | begun {goal : Goal} {bridge : BridgeId} {events : List SessionEvent}
      (opened : RadioCallsTo call pause prompt goal bridge (.opened goal bridge) events) :
      RadioCallsTo call pause prompt goal bridge (.looking goal bridge)
        (events ++ [.begun call bridge prompt])
  | repolled (chain : Chain) (bridge : BridgeId) :
      RadioCallsTo call pause prompt (.renew chain) bridge (.looking (.renew chain) bridge)
        [.repolled call bridge]
  | picked {goal : Goal} {bridge : BridgeId} {events : List SessionEvent}
      (looking : RadioCallsTo call pause prompt goal bridge (.looking goal bridge) events)
        (tag : Tag) :
      RadioCallsTo call pause prompt goal bridge (.picked goal bridge tag)
        (events ++ [.connecting call bridge tag])
  | linked {goal : Goal} {bridge : BridgeId} {tag : Tag} {events : List SessionEvent}
      (picked : RadioCallsTo call pause prompt goal bridge (.picked goal bridge tag) events) :
      RadioCallsTo call pause prompt goal bridge (.linked goal bridge tag)
        (events ++ [.acknowledged call])
  | attached {goal : Goal} {bridge : BridgeId} {tag : Tag} {events : List SessionEvent}
      (linked : RadioCallsTo call pause prompt goal bridge (.linked goal bridge tag) events)
      (chain : Chain) : RadioCallsTo call pause prompt goal bridge (.sending tag chain) events

variable {point last : Point} {session final base : Session} {call : CallId} {goal : Goal}
  {bridge : BridgeId} {progress : Progress} {prompt : String} {pause : Duration}
  {events : List SessionEvent}

theorem radioCalls_append (first second : List SessionEvent) :
    radioCalls (first ++ second) = radioCalls first ++ radioCalls second :=
  List.filter_append ..

theorem RadioCallsTo.goal_ne_start
    (route : RadioCallsTo call pause prompt goal bridge progress events) : goal ≠ .start := by
  induction route with
  | rested | repolled => simp
  | begun _ ih | picked _ _ ih | linked _ ih | attached _ _ ih => exact ih

theorem RadioCallsTo.ne_start (route : RadioCallsTo call pause prompt goal bridge progress events)
    (other : BridgeId) (tag : Tag) : progress ≠ .linked .start other tag := by
  rintro rfl
  have begins := route.goal_ne_start
  cases route
  exact begins rfl

theorem RadioCallsTo.progressStep {new : List SessionEvent} {next : Progress}
    (route : RadioCallsTo call pause prompt goal bridge progress events)
    (progressStep : ProgressStep session call (some progress) new next)
    (prompted : ∀ other text, .begun call other text ∈ new → text = prompt) :
    RadioCallsTo call pause prompt goal bridge next (events ++ radioCalls new) := by
  cases progressStep with
  | begin other next text =>
      obtain rfl := prompted next text (List.mem_singleton_self _)
      cases route with
      | rested chain => exact .begun (.rested chain _)
  | pick other next batch tag first =>
      cases route with
      | begun opened => exact .picked (.begun opened) tag
      | repolled chain => exact .picked (.repolled chain _) tag
  | link other next tag =>
      cases route with
      | picked looking => exact .linked (.picked looking tag)
  | attach other next tag now chain =>
      cases route with
      | linked picked =>
          rw [show radioCalls [.attached call goal bridge tag now] = [] from rfl, List.append_nil]
          exact .attached (.linked picked) chain

/-- After a rest the radio begins before anything else is done. -/
theorem RadioCallsTo.opened_or_begun {chain : Chain}
    (route : RadioCallsTo call pause prompt (.restart chain) bridge progress events) :
    progress = .opened (.restart chain) bridge ∨ .begun call bridge prompt ∈ events := by
  generalize begins : Goal.restart chain = goal at route
  induction route with
  | rested other bridge =>
      obtain rfl := Goal.restart.inj begins
      exact .inl rfl
  | begun => exact .inr (by simp)
  | repolled => cases begins
  | picked looking tag ih => exact .inr (by simpa using ih begins)
  | linked picked ih => exact .inr (by simpa using ih begins)
  | attached linked rest ih => exact .inr (by simpa using ih begins)

theorem RadioCallsTo.detected {rest : Chain} {tag : Tag}
    (route : RadioCallsTo call pause prompt goal bridge (.sending tag rest) events) :
    ∃ earlier, RadioCallsTo call pause prompt goal bridge (.looking goal bridge) earlier ∧
      events = earlier ++ [.connecting call bridge tag, .acknowledged call] := by
  cases route with
  | attached linked =>
      cases linked with
      | linked picked =>
          cases picked with
          | picked looking => exact ⟨_, looking, by simp⟩

theorem RadioCallsTo.restarted {chain rest : Chain} {tag : Tag}
    (route : RadioCallsTo call pause prompt (.restart chain) bridge (.sending tag rest) events) :
    events = [.dismissed none, .paused call pause, .begun call bridge prompt,
      .connecting call bridge tag, .acknowledged call] := by
  obtain ⟨earlier, looking, rfl⟩ := route.detected
  cases looking with
  | begun opened =>
      cases opened with
      | rested => rfl

theorem RadioCallsTo.renewed {chain rest : Chain} {tag : Tag}
    (route : RadioCallsTo call pause prompt (.renew chain) bridge (.sending tag rest) events) :
    events = [.repolled call bridge, .connecting call bridge tag, .acknowledged call] := by
  obtain ⟨earlier, looking, rfl⟩ := route.detected
  cases looking with
  | begun opened => cases opened
  | repolled => rfl

/-- This is the text for the radio session that comes next. -/
structure Prompts (prompt : String) (point : Point) (session : Session) : Prop where
  purpose : (session.purpose.map (·.prompt)).getD "" = prompt
  beginning : ∀ call goal bridge text, point = .beginning call goal bridge text → text = prompt

/-- The call is on its way since the session was at its base, and has sent nothing since. -/
structure OnTheWay (base : Session) (call : CallId) (prompt : String) (goal : Goal)
    (bridge : BridgeId) (point : Point) (session : Session) : Prop where
  come : ∃ span progress, session.history = base.history ++ span ∧ sentBy span call = [] ∧
    point.progress? session call = some progress ∧
    RadioCallsTo call base.policy.cooldown prompt goal bridge progress (radioCalls span)
  prompts : Prompts prompt point session

def Dispatched (base : Session) (call : CallId) (prompt : String) (goal : Goal)
    (bridge : BridgeId) (history : List SessionEvent) : Prop :=
  ∃ span tag chain later,
    history = base.history ++ (span ++ .sent call tag chain.first :: later) ∧
    sentBy span call = [] ∧
    RadioCallsTo call base.policy.cooldown prompt goal bridge (.sending tag chain) (radioCalls span)

/-- The call has sent nothing since the session was at its base, and it is about to fail or bound
to. -/
inductive Failing (base : Session) (call : CallId) : Point → Session → Prop
  | here {session : Session} (error : SessionError)
      (unsent : sentBy session.history call = sentBy base.history call) :
      Failing base call (.failing call error) session
  | fated {point : Point} {session : Session} (fated : UnsentAndFailing base call point session) :
      Failing base call point session

theorem Failing.unsent (failing : Failing base call point session) :
    sentBy session.history call = sentBy base.history call := by
  cases failing with
  | here error unsent => exact unsent
  | fated fated => exact fated.unsent

theorem Failing.move (reached : Reached point session) (failing : Failing base call point session)
    (move : Move point session last final) : Failing base call last final := by
  cases failing with
  | fated fated => exact .fated (fated.move reached move)
  | here error unsent =>
      cases move with
      | fail =>
          have held := reached.lined.worker call rfl
          refine .fated ⟨?_, .inl ⟨by simpa using held, by simp, rfl⟩⟩
          simpa [sentBy] using unsent
      | report bridge notice hears => cases hears

theorem Failing.moves (reached : Reached point session) (failing : Failing base call point session)
    (moves : Moves point session last final) : Failing base call last final := by
  induction moves with
  | refl => exact failing
  | tail before move ih => exact ih.move (reached.trans before) move

theorem Dispatched.mono {before after : List SessionEvent}
    (dispatched : Dispatched base call prompt goal bridge before) (grows : before <+: after) :
    Dispatched base call prompt goal bridge after := by
  obtain ⟨span, tag, chain, later, rfl, unsent, route⟩ := dispatched
  obtain ⟨more, rfl⟩ := grows
  exact ⟨span, tag, chain, later ++ more, by simp, unsent, route⟩

theorem OnTheWay.unsent (underway : OnTheWay base call prompt goal bridge point session) :
    sentBy session.history call = sentBy base.history call := by
  obtain ⟨span, progress, told, unsent, -, -⟩ := underway.come
  rw [told, sentBy_append, unsent, List.append_nil]

theorem sending_of_progress {tag : Tag} {chain : Chain}
    (there : point.progress? session call = some (.sending tag chain)) :
    point = .sending call tag chain := by
  cases runs : point.worker? with
  | none =>
      rw [progress?_of_idle runs] at there
      obtain ⟨stage, -, come⟩ := Option.bind_eq_some_iff.mp there
      cases stage <;> cases come
  | some worker =>
      obtain ⟨rfl, come⟩ := progress?_of_running runs there
      cases point <;> cases come
      obtain rfl := Option.some.inj runs
      rfl

theorem Lined.dealings_of_progress (lined : Lined point session) (sound : Sound point session)
    (move : Move point session last final)
    (there : point.progress? session call = some progress)
    (elsewhere : ∀ tag chain, progress ≠ .sending tag chain) :
    dealings final.history call = dealings session.history call := by
  have held := lined.holder_of_progress there
  refine dealings_of_move sound move (lined.issued call (Lock.mem_line.mpr (.inl held))) ?_ ?_
  · rintro tag chain rfl
    rw [progress?_own rfl] at there
    exact elsewhere tag chain (Option.some.inj there).symm
  · rintro rfl tag rest transmitting
    rw [progress?_of_stage rfl transmitting] at there
    cases there

/-- A call on its way is bound to fail when somebody else empties the slot. -/
theorem Lined.boundToFail_of_progress (lined : Lined point session) (idle : point.worker? = none)
    (empty : session.slot = none) (there : point.progress? session call = some progress) :
    BoundToFail call point session := by
  refine ⟨lined.holder_of_progress there, empty, ?_⟩
  rw [progress?_of_idle idle] at there
  obtain ⟨stage, pending, come⟩ := Option.bind_eq_some_iff.mp there
  have bound : stage.BoundToFail := by cases stage <;> first | cases come; done | trivial
  cases point <;> first | exact ⟨stage, pending, bound⟩ | cases idle

/-- Only a start gives the session another purpose, and so another text. -/
theorem Prompts.move (prompts : Prompts prompt point session)
    (move : Move point session last final)
    (elsewhere : ∀ call purpose, point ≠ .holding call (.start purpose)) :
    Prompts prompt last final := by
  obtain ⟨same, beginning⟩ := prompts
  have kept : final.purpose = session.purpose :=
    (purpose_of_move move).resolve_right fun ⟨_, _, _, starts⟩ => elsewhere _ _ starts
  refine ⟨by rw [kept, same], ?_⟩
  rintro call goal bridge text rfl
  cases move with
  | start other purpose dead => exact absurd rfl (elsewhere call purpose)
  | rested => exact same
  | report other notice hears => cases hears

theorem radioCalls_of_sideEvents {new : List SessionEvent}
    (besides : SideEvents point last final new)
    (kept : ∀ farewell, .dismissed farewell ∉ new) : radioCalls new = [] := by
  refine List.filter_eq_nil_iff.mpr fun event member errand => ?_
  have idle := besides.idle event member
  cases event with
  | dismissed farewell => exact kept farewell member
  | _ => first | cases idle; done | cases errand

/-- A call on its way stays on it until it sends or is bound to fail. -/
theorem OnTheWay.move (reached : Reached point session)
    (underway : OnTheWay base call prompt goal bridge point session)
    (move : Move point session last final) :
    OnTheWay base call prompt goal bridge last final ∨
      Dispatched base call prompt goal bridge final.history ∨ Failing base call last final := by
  have unsent := underway.unsent
  obtain ⟨⟨span, progress, told, silent, there, route⟩, prompts⟩ := underway
  by_cases sends : ∃ tag chain, progress = .sending tag chain
  · obtain ⟨tag, chain, rfl⟩ := sends
    obtain rfl := sending_of_progress there
    cases move with
    | send => exact .inr (.inl ⟨span, tag, chain, [], by simp [told], silent, route⟩)
    | report bridge notice hears => cases hears
  have still : sentBy final.history call = sentBy session.history call :=
    sentBy_congr (reached.lined.dealings_of_progress reached.sound move there
      fun tag chain here => sends ⟨tag, chain, here⟩)
  -- No start is at work while the call holds the lock.
  have prompts' : Prompts prompt last final := prompts.move move fun other purpose starts => by
    subst starts
    cases (progress?_of_running rfl there).2
  have onward : ∀ {new : List SessionEvent} {next : Progress},
      final.history = session.history ++ new → last.progress? final call = some next →
      RadioCallsTo call base.policy.cooldown prompt goal bridge next
        (radioCalls span ++ radioCalls new) →
      OnTheWay base call prompt goal bridge last final := by
    intro new next grown here route
    rw [grown, sentBy_append, List.append_right_eq_self] at still
    refine ⟨⟨span ++ new, next, by rw [grown, told, List.append_assoc], ?_, here, ?_⟩, prompts'⟩
    · rw [sentBy_append, silent, still]
      rfl
    · rwa [radioCalls_append]
  cases later : last.progress? final call with
  | none =>
      rcases reached.lined.progress_lost move there later with
        ⟨error, rfl⟩ | dropped | ⟨_, _, rfl⟩ | sending
      · exact .inr (.inr (.here error (still.trans unsent)))
      · exact .inr (.inr (.fated ⟨still.trans unsent, .inr (.inl dropped)⟩))
      · exact absurd rfl (route.ne_start _ _)
      · exact absurd sending sends
  | some next =>
      rcases reached.sound.progressStep reached.lined move later with
        ⟨before, new, grown, besides⟩ | ⟨new, grown, progressStep⟩
      · obtain rfl := Option.some.inj (before.symm.trans there)
        rcases besides.dismissed with kept | ⟨idle, empty⟩
        · refine .inl (onward grown later ?_)
          rwa [radioCalls_of_sideEvents besides kept, List.append_nil]
        · have lost := (reached.lined.move move).boundToFail_of_progress idle empty later
          exact .inr (.inr (.fated ⟨still.trans unsent, .inl lost⟩))
      · rw [there] at progressStep
        refine .inl
          (onward grown later (route.progressStep progressStep fun other text begun => ?_))
        obtain ⟨front, back, rfl⟩ := List.append_of_mem begun
        obtain ⟨⟨here, rfl⟩, -⟩ := reached.sound.moment move grown
        exact prompts.beginning call here other text rfl

theorem OnTheWay.moves (reached : Reached point session)
    (underway : OnTheWay base call prompt goal bridge point session)
    (moves : Moves point session last final) :
    OnTheWay base call prompt goal bridge last final ∨
      Dispatched base call prompt goal bridge final.history ∨ Failing base call last final := by
  induction moves with
  | refl => exact .inl underway
  | tail before move ih =>
      have there := reached.trans before
      rcases ih with underway | dispatched | failing
      · exact underway.move there move
      · exact .inr (.inl (dispatched.mono (there.grows (.single move))))
      · exact .inr (.inr (failing.move there move))

theorem radioCalls_of_bookkeeping (bookkeeping : ∀ event ∈ events, event.isBookkeeping = true) :
    radioCalls events = [] := by
  refine List.filter_eq_nil_iff.mpr fun event member => ?_
  have only := bookkeeping event member
  cases event <;> first | cases only; done | simp [SessionEvent.isRadioCall]

theorem sentBy_of_bookkeeping (bookkeeping : ∀ event ∈ events, event.isBookkeeping = true) :
    sentBy events call = [] := by
  refine List.filterMap_eq_nil_iff.mpr fun event member => ?_
  have only := bookkeeping event (List.mem_filter.mp member).1
  cases event <;> first | cases only; done | rfl

variable {stimulus : Stimulus} {connection : Connection} {now : Int}

theorem Acquires.reuses (acquires : Acquires session call stimulus)
    (ready : session.Ready bridge connection) (read : stimulus.reading? = some now)
    (fresh : session.policy.upkeep (elapsed connection.startedAt now)
      (elapsed connection.renewedAt now) = .keep) :
    ∃ new command, (session.step stimulus).history =
        session.history ++ (new ++ [.sent call connection.tag command]) ∧
      sentBy new call = [] ∧ radioCalls new = [] := by
  obtain ⟨entered, chain, around, moves, untouched, reading, final⟩ := acquires.enters
  obtain rfl : now = around.now := Option.some.inj (read.symm.trans reading)
  obtain ⟨new, grown, bookkeeping⟩ := untouched.bookkeeping
  rw [final, (ready.congr untouched).runExchange, policy_of_moves moves, fresh]
  exact ⟨new, chain.first, by simp [grown], sentBy_of_bookkeeping bookkeeping,
    radioCalls_of_bookkeeping bookkeeping⟩

theorem Acquires.renews (reached : Reached .outside session)
    (acquires : Acquires session call stimulus) (ready : session.Ready bridge connection)
    (read : stimulus.reading? = some now)
    (old : session.policy.upkeep (elapsed connection.startedAt now)
      (elapsed connection.renewedAt now) = .renew) :
    ∃ chain middle, Reached (.repolling call chain bridge) middle ∧
      OnTheWay session call ((session.purpose.map (·.prompt)).getD "") (.renew chain) bridge
        (.repolling call chain bridge) middle ∧
      Moves (.repolling call chain bridge) middle .outside (session.step stimulus) := by
  obtain ⟨entered, chain, around, moves, untouched, reading, final⟩ := acquires.enters
  obtain rfl : now = around.now := Option.some.inj (read.symm.trans reading)
  obtain ⟨new, grown, bookkeeping⟩ := untouched.bookkeeping
  have there := ready.congr untouched
  rw [final, there.runExchange, policy_of_moves moves, old]
  rw [← policy_of_moves moves] at old
  refine ⟨chain, _, reached.trans (.tail moves (.renew call chain bridge connection there _ old)),
    ⟨⟨new ++ [.drained call bridge, .repolled call bridge], .looking (.renew chain) bridge, ?_, ?_,
      progress?_own rfl, ?_⟩, ?_, nofun⟩, (renew_pass ..).moves⟩
  · simp [grown]
  · rw [sentBy_append, sentBy_of_bookkeeping bookkeeping]
    rfl
  · rw [radioCalls_append, radioCalls_of_bookkeeping bookkeeping]
    exact .repolled chain bridge
  · simp [untouched.purpose]

theorem hangingUp_of_open (filled : session.slot = some bridge)
    (unclosed : session.isClosed bridge = false) (farewell : Option String) :
    session.hangingUp farewell = [.closed bridge, .dismissed farewell] := by
  simp [hangingUp, filled, closing, unclosed]

theorem history_restart (filled : session.slot = some bridge)
    (unclosed : session.isClosed bridge = false) (call : CallId) (chain : Chain) :
    (session.restart call chain).history = session.history ++ [.closed bridge, .dismissed none,
      .opened session.nextBridge, .paused call session.policy.cooldown] := by
  have hung : Session.hangingUp
      { session with phase := .restarting, connection := none, held := none } none =
        [.closed bridge, .dismissed none] := hangingUp_of_open filled unclosed none
  simp [Session.restart, history_openBridge, hung, nextBridge]

theorem Acquires.restarts (reached : Reached .outside session)
    (acquires : Acquires session call stimulus) (ready : session.Ready bridge connection)
    (read : stimulus.reading? = some now)
    (aged : session.policy.upkeep (elapsed connection.startedAt now)
      (elapsed connection.renewedAt now) = .restart) :
    ∃ chain, OnTheWay session call ((session.purpose.map (·.prompt)).getD "") (.restart chain)
      session.nextBridge .outside (session.step stimulus) := by
  obtain ⟨entered, chain, around, moves, untouched, reading, final⟩ := acquires.enters
  obtain rfl : now = around.now := Option.some.inj (read.symm.trans reading)
  obtain ⟨new, grown, bookkeeping⟩ := untouched.bookkeeping
  have there := ready.congr untouched
  have filled := (reached.trans moves).sound.coherent.unclosed bridge there.unclosed
  have same := policy_of_moves moves
  rw [final, there.runExchange, same, aged]
  refine ⟨chain, ⟨new ++ [.closed bridge, .dismissed none, .opened session.nextBridge,
    .paused call session.policy.cooldown], .opened (.restart chain) session.nextBridge, ?_, ?_, ?_,
    ?_⟩, ?_, nofun⟩
  · rw [history_restart filled there.unclosed, grown, same, nextBridge, untouched.bridges,
      List.append_assoc]
    rfl
  · rw [sentBy_append, sentBy_of_bookkeeping bookkeeping]
    rfl
  · refine (progress?_of_stage rfl (stage?_park _ call call _ |>.trans (if_pos rfl))).trans ?_
    simp [Stage.progress?, nextBridge, untouched.bridges]
  · rw [radioCalls_append, radioCalls_of_bookkeeping bookkeeping]
    exact .rested chain session.nextBridge
  · simp [Session.restart, untouched.purpose]

theorem sentBy_ne_nil (front later : List SessionEvent) (tag : Tag) (command : Bytes) :
    sentBy (front ++ .sent call tag command :: later) call ≠ [] := by
  simp [sentBy, SessionEvent.concerns, SessionEvent.command?]

theorem first_sent {span other later after : List SessionEvent} {tag tag' : Tag}
    {command command' : Bytes}
    (same : span ++ .sent call tag command :: later = other ++ .sent call tag' command' :: after)
    (silent : sentBy span call = []) (silent' : sentBy other call = []) :
    span = other ∧ tag = tag' := by
  -- If one span goes on where the other ends, it goes on with a command of the call.
  rcases List.append_eq_append_iff.mp same with ⟨more, rfl, cut⟩ | ⟨more, rfl, cut⟩
  · cases more with
    | nil => exact ⟨(List.append_nil _).symm, by cases cut; rfl⟩
    | cons event rest =>
        cases cut
        exact absurd silent' (sentBy_ne_nil span rest tag command)
  · cases more with
    | nil => exact ⟨List.append_nil _, by cases cut; rfl⟩
    | cons event rest =>
        cases cut
        exact absurd silent (sentBy_ne_nil other rest tag' command')

theorem sentBy_ne_of_sent {history span later : List SessionEvent} {tag : Tag} {command : Bytes}
    (told : history = base.history ++ (span ++ .sent call tag command :: later)) :
    sentBy history call ≠ sentBy base.history call := by
  rw [told, sentBy_append, Ne, List.append_right_eq_self]
  exact sentBy_ne_nil span later tag command

/-- A call on its way that has sent its first command in the end has gone the whole route. -/
theorem OnTheWay.arrived (reached : Reached point session)
    (underway : OnTheWay base call prompt goal bridge point session)
    (moves : Moves point session last final) {span later : List SessionEvent} {tag : Tag}
    {command : Bytes}
    (told : final.history = base.history ++ (span ++ .sent call tag command :: later))
    (silent : sentBy span call = []) :
    ∃ chain, RadioCallsTo call base.policy.cooldown prompt goal bridge (.sending tag chain)
      (radioCalls span) := by
  rcases underway.moves reached moves with still | dispatched | failing
  · exact absurd still.unsent (sentBy_ne_of_sent told)
  · obtain ⟨other, tag', chain, after, same, silent', route⟩ := dispatched
    rw [told, List.append_cancel_left_eq] at same
    obtain ⟨rfl, rfl⟩ := first_sent same silent silent'
    exact ⟨chain, route⟩
  · exact absurd failing.unsent (sentBy_ne_of_sent told)

/-- While a call rests there is no connection. -/
theorem Reached.bare_of_resting {chain : Chain} (reached : Reached .outside session)
    (resting : session.stage? call = some (.resting bridge chain)) : session.connection = none := by
  have fits := reached.sound.fits
  rw [Point.place, place_of_stage (reached.lined.holder_of_stage resting (by simp)) resting] at fits
  have carded := reached.sound.coherent.connection
  rw [fits.1] at carded
  exact Option.not_isSome_iff_eq_none.mp (by simp [carded, Goal.phase, Phase.hasCard])

/-- Until the radio begins again there is no connection, if the call gets to send after all. -/
theorem OnTheWay.bare {chain : Chain} {middle : Session} (reached : Reached .outside session)
    (underway : OnTheWay base call prompt (.restart chain) bridge .outside session)
    (before : Moves .outside session .outside middle) (after : Moves .outside middle .outside final)
    (unbegun : .begun call bridge prompt ∉ middle.history) {span later : List SessionEvent}
    {tag : Tag} {command : Bytes}
    (told : final.history = base.history ++ (span ++ .sent call tag command :: later)) :
    middle.connection = none := by
  have there := reached.trans before
  have untold : ∀ {span more : List SessionEvent}, middle.history = base.history ++ (span ++ more) →
      .begun call bridge prompt ∉ radioCalls span := fun grown begun =>
    unbegun (by simp [grown, (List.mem_filter.mp begun).1])
  rcases underway.moves reached before with still | dispatched | failing
  · obtain ⟨front, progress, grown, -, come, route⟩ := still.come
    have grown : middle.history = base.history ++ (front ++ []) := by rw [grown, List.append_nil]
    obtain rfl := route.opened_or_begun.resolve_right (untold grown)
    rw [progress?_of_idle rfl] at come
    obtain ⟨stage, pending, rests⟩ := Option.bind_eq_some_iff.mp come
    cases stage <;> cases rests
    exact there.bare_of_resting pending
  · obtain ⟨front, tag', other, more, grown, -, route⟩ := dispatched
    rcases route.opened_or_begun with impossible | begun
    · cases impossible
    · exact absurd begun (untold grown)
  · exact absurd (failing.moves there after).unsent (sentBy_ne_of_sent told)

/-- The exchange gets to work over a connection that is ready, and gets to send after this span. -/
structure SendsAfter (policy : Policy) (before : List Stimulus) (stimulus : Stimulus)
    (after : List Stimulus) (call : CallId) (bridge : BridgeId) (connection : Connection)
    (now : Int) (span : List SessionEvent) (tag : Tag) : Prop where
  acquires : Acquires ((initial policy).run before) call stimulus
  ready : ((initial policy).run before).Ready bridge connection
  read : stimulus.reading? = some now
  told : ∃ command later, ((initial policy).run (before ++ stimulus :: after)).history =
    ((initial policy).run before).history ++ (span ++ .sent call tag command :: later)
  first : sentBy span call = []

/-- What the session has done between the stimulus with which an exchange gets to work and its first
command is a matter of the age of the connection. -/
structure UpkeepByAge (policy : Policy) (before : List Stimulus) (stimulus : Stimulus)
    (after : List Stimulus) : Prop where
  restarted : ∀ call bridge connection now span tag,
    SendsAfter policy before stimulus after call bridge connection now span tag →
    policy.restartAfter ≤ (now - connection.startedAt).toNat →
    ∃ purpose, ((initial policy).run before).purpose = some purpose ∧
      radioCalls span = [.dismissed none, .paused call policy.cooldown,
        .begun call ((initial policy).run before).nextBridge purpose.prompt,
        .connecting call ((initial policy).run before).nextBridge tag, .acknowledged call]
  /-- From the dismissal until then there is no connection. -/
  bare : ∀ call bridge connection now span tag,
    SendsAfter policy before stimulus after call bridge connection now span tag →
    policy.restartAfter ≤ (now - connection.startedAt).toNat →
    ∀ front back, after = front ++ back →
      (∀ prompt, .begun call ((initial policy).run before).nextBridge prompt ∉
        ((initial policy).run (before ++ stimulus :: front)).history) →
      ((initial policy).run (before ++ stimulus :: front)).connection = none
  renewed : ∀ call bridge connection now span tag,
    SendsAfter policy before stimulus after call bridge connection now span tag →
    (now - connection.startedAt).toNat < policy.restartAfter →
    policy.renewAfter ≤ (now - connection.renewedAt).toNat →
    radioCalls span = [.repolled call bridge, .connecting call bridge tag, .acknowledged call]
  reused : ∀ call bridge connection now span tag,
    SendsAfter policy before stimulus after call bridge connection now span tag →
    (now - connection.startedAt).toNat < policy.restartAfter →
    (now - connection.renewedAt).toNat < policy.renewAfter →
    tag = connection.tag ∧ radioCalls span = []

section

variable {policy : Policy} {before after : List Stimulus} {span : List SessionEvent} {tag : Tag}

theorem SendsAfter.restarts
    (sends : SendsAfter policy before stimulus after call bridge connection now span tag)
    (aged : policy.restartAfter ≤ elapsed connection.startedAt now) :
    ∃ purpose chain, ((initial policy).run before).purpose = some purpose ∧
      OnTheWay ((initial policy).run before) call purpose.prompt (.restart chain)
        ((initial policy).run before).nextBridge .outside
        (((initial policy).run before).step stimulus) := by
  have live : ((initial policy).run before).phase.isLive = true := by
    rw [sends.ready.phase]
    rfl
  obtain ⟨purpose, kept, -⟩ := run_openedFor policy before live
  have due : ((initial policy).run before).policy.upkeep (elapsed connection.startedAt now)
      (elapsed connection.renewedAt now) = .restart := by
    rw [policy_of_moves (run_moves (initial policy) before)]
    exact if_pos aged
  obtain ⟨chain, underway⟩ :=
    sends.acquires.restarts (Reached.run policy before) sends.ready sends.read due
  rw [kept] at underway
  exact ⟨purpose, chain, kept, underway⟩

theorem SendsAfter.restarted
    (sends : SendsAfter policy before stimulus after call bridge connection now span tag)
    (aged : policy.restartAfter ≤ elapsed connection.startedAt now) :
    ∃ purpose, ((initial policy).run before).purpose = some purpose ∧
      radioCalls span = [.dismissed none, .paused call policy.cooldown,
        .begun call ((initial policy).run before).nextBridge purpose.prompt,
        .connecting call ((initial policy).run before).nextBridge tag, .acknowledged call] := by
  obtain ⟨purpose, chain, kept, underway⟩ := sends.restarts aged
  obtain ⟨command, later, told⟩ := sends.told
  rw [run_append, run_cons] at told
  have stepped := (Reached.run policy before).trans (step_moves _ stimulus)
  obtain ⟨rest, route⟩ := underway.arrived stepped (run_moves _ after) told sends.first
  rw [policy_of_moves (run_moves (initial policy) before)] at route
  exact ⟨purpose, kept, route.restarted⟩

theorem SendsAfter.renewed
    (sends : SendsAfter policy before stimulus after call bridge connection now span tag)
    (young : elapsed connection.startedAt now < policy.restartAfter)
    (old : policy.renewAfter ≤ elapsed connection.renewedAt now) :
    radioCalls span = [.repolled call bridge, .connecting call bridge tag, .acknowledged call] := by
  have due : ((initial policy).run before).policy.upkeep (elapsed connection.startedAt now)
      (elapsed connection.renewedAt now) = .renew := by
    rw [policy_of_moves (run_moves (initial policy) before)]
    exact (if_neg (Nat.not_le.mpr young)).trans (if_pos old)
  obtain ⟨chain, middle, there, underway, moves⟩ :=
    sends.acquires.renews (Reached.run policy before) sends.ready sends.read due
  obtain ⟨command, later, told⟩ := sends.told
  rw [run_append, run_cons] at told
  obtain ⟨rest, route⟩ := underway.arrived there (moves.trans (run_moves _ after)) told sends.first
  exact route.renewed

theorem SendsAfter.reused
    (sends : SendsAfter policy before stimulus after call bridge connection now span tag)
    (young : elapsed connection.startedAt now < policy.restartAfter)
    (fresh : elapsed connection.renewedAt now < policy.renewAfter) :
    tag = connection.tag ∧ radioCalls span = [] := by
  have due : ((initial policy).run before).policy.upkeep (elapsed connection.startedAt now)
      (elapsed connection.renewedAt now) = .keep := by
    rw [policy_of_moves (run_moves (initial policy) before)]
    exact (if_neg (Nat.not_le.mpr young)).trans (if_neg (Nat.not_le.mpr fresh))
  obtain ⟨new, first, grown, silent, idle⟩ :=
    sends.acquires.reuses sends.ready sends.read due
  obtain ⟨command, later, told⟩ := sends.told
  have stepped := (Reached.run policy before).trans (step_moves _ stimulus)
  obtain ⟨more, grows⟩ := stepped.grows (run_moves _ after)
  rw [run_append, run_cons, ← grows, grown, List.append_assoc, List.append_cancel_left_eq,
    List.append_assoc, List.singleton_append] at told
  obtain ⟨rfl, rfl⟩ := first_sent told silent sends.first
  exact ⟨rfl, idle⟩

end

/-- Before an exchange sends anything its connection is kept up as the policy has it. -/
theorem run_upkeep_by_age (policy : Policy) (before : List Stimulus) (stimulus : Stimulus)
    (after : List Stimulus) : UpkeepByAge policy before stimulus after := by
  refine ⟨fun call bridge connection now span tag => SendsAfter.restarted, ?_,
    fun call bridge connection now span tag => SendsAfter.renewed,
    fun call bridge connection now span tag => SendsAfter.reused⟩
  rintro call bridge connection now span tag sends aged front back rfl unbegun
  obtain ⟨purpose, chain, -, underway⟩ := sends.restarts aged
  obtain ⟨command, later, told⟩ := sends.told
  rw [run_append, run_cons, run_append] at told
  rw [run_append, run_cons] at unbegun ⊢
  have stepped := (Reached.run policy before).trans (step_moves _ stimulus)
  exact underway.bare stepped (run_moves _ front) (run_moves _ back) (unbegun _) told

/-- The bounds are inclusive, and a restart goes before a renewal: with both bounds at zero every
exchange begins another radio session, at whatever time. -/
example (now : Int) : radioCalls ((initial { renewAfter := 0, restartAfter := 0 }).run
    [.call (.start .identify) { onBegin := [.detected [⟨0, .iso7816, some walletAid⟩]] },
      .wake 0 (.connected none) { now := 9 }, .call (.send []) { now := now },
      .wake 1 .rested { onBegin := [.detected [⟨1, .iso7816, some walletAid⟩]] },
      .wake 1 (.connected none) {}]).history =
    [.begun 0 0 Purpose.identify.prompt, .connecting 0 0 ⟨0, .iso7816, some walletAid⟩,
      .acknowledged 0, .dismissed none, .paused 1 (Duration.ofSeconds 5),
      .begun 1 1 Purpose.identify.prompt, .connecting 1 1 ⟨1, .iso7816, some walletAid⟩,
      .acknowledged 1, .sent 1 ⟨1, .iso7816, some walletAid⟩ []] := by
  rfl

end Session

end Contactless
