import Contactless.Proofs.Session.Cancellation
import Contactless.Proofs.Session.Contact
import Contactless.Proofs.Session.Outcome

/-!
The clock readings that a connection carries.

A reading is taken when a detection is complete, right after the radio connected the tag. The one
that completes the beginning of a radio session counts as its start; every renewal replaces the
other reading and leaves the start alone. So however often a session is renewed, it grows old.
-/

set_option autoImplicit false

namespace Contactless

def Goal.begins : Goal → Bool
  | .start | .restart _ => true
  | .renew _ => false

/-- A completed detection with the clock reading after it. -/
structure Attachment where
  goal : Goal
  bridge : BridgeId
  tag : Tag
  now : Int

def SessionEvent.attachment? : SessionEvent → Option Attachment
  | .attached _ goal bridge tag now => some ⟨goal, bridge, tag, now⟩
  | _ => none

/-- What the clock shows at a stimulus that can have it read. -/
def Stimulus.reading? : Stimulus → Option Int
  | .call _ around | .wake _ _ around => some around.now
  | .notice _ _ | .drop _ | .alert _ => none

namespace Session

def attachments (history : List SessionEvent) : List Attachment :=
  history.filterMap (·.attachment?)

def readings (stimuli : List Stimulus) : List Int := stimuli.filterMap (·.reading?)

/-- The connection carries the reading of the detection that began its radio session, and the tag
and the reading of the last renewal since. -/
def Dated (session : Session) (connection : Connection) : Prop :=
  ∃ earlier first renewals,
    attachments session.history = earlier ++ first :: renewals ∧
    first.goal.begins = true ∧ session.held = some first.bridge ∧
    (∀ renewal ∈ renewals, renewal.goal.begins = false ∧ renewal.bridge = first.bridge) ∧
    connection.startedAt = first.now ∧
    connection.tag = (renewals.getLastD first).tag ∧
    connection.renewedAt = (renewals.getLastD first).now

variable {point last : Point} {session final : Session} {new : List SessionEvent}

theorem attachments_append (first second : List SessionEvent) :
    attachments (first ++ second) = attachments first ++ attachments second :=
  List.filterMap_append

theorem attachments_of_aside {events : List SessionEvent}
    (aside : ∀ event ∈ events, event.isAside = true) : attachments events = [] :=
  filterMap_of_aside (by intro event aside; cases event <;> first | rfl | cases aside) aside

theorem attaches_of_recorded (sound : Sound point session) (move : Move point session last final)
    (told : final.history = session.history ++ new) {attachment : Attachment}
    (member : attachment ∈ attachments new) : point.attaches = true := by
  obtain ⟨events, grown, moments⟩ := sound.moments move
  rw [told, List.append_cancel_left_eq] at grown
  obtain ⟨event, recorded, attached⟩ := List.mem_filterMap.mp member
  obtain ⟨mid, moment⟩ := moments.of_mem (grown ▸ recorded)
  cases event with
  | attached => exact moment.1 ▸ rfl
  | _ => cases attached

theorem attachments_of_move (sound : Sound point session) (move : Move point session last final)
    (elsewhere : point.attaches = false) :
    attachments final.history = attachments session.history := by
  obtain ⟨new, grown, _⟩ := sound.moments move
  have nothing : attachments new = [] := List.eq_nil_iff_forall_not_mem.mpr fun _ member => by
    rw [attaches_of_recorded sound move grown member] at elsewhere
    cases elsewhere
  rw [grown, attachments_append, nothing, List.append_nil]

theorem attachments_attached (session : Session) (call : CallId) (goal : Goal)
    (bridge : BridgeId) (tag : Tag) (now : Int) :
    attachments (session.history ++ [.attached call goal bridge tag now]) =
      attachments session.history ++ [⟨goal, bridge, tag, now⟩] :=
  attachments_append _ _

theorem attachments_of_attaching (move : Move point session last final)
    (attaches : point.attaches = true) :
    ∃ attachment, attachments final.history = attachments session.history ++ [attachment] := by
  cases move with
  | attachStart call bridge tag now =>
      exact ⟨_, attachments_attached session call .start bridge tag now⟩
  | attachRestart call chain bridge tag now =>
      exact ⟨_, attachments_attached session call (.restart chain) bridge tag now⟩
  | attachRenew call chain bridge tag now =>
      exact ⟨_, attachments_attached session call (.renew chain) bridge tag now⟩
  | report bridge notice hears => cases point <;> first | cases hears; done | cases attaches
  | _ => cases attaches

/-- Elsewhere a connection is kept as it is, or given up. -/
theorem connection_of_move (move : Move point session last final)
    (elsewhere : point.attaches = false) :
    final.connection = none ∨
      (final.connection = session.connection ∧ final.held = session.held) := by
  cases move with
  | attachStart | attachRestart | attachRenew => cases elsewhere
  | start | restart | finish | fail | dropHolder => exact .inl (by simp)
  | _ => exact .inr (by simp)

theorem Dated.congr {connection : Connection} (dated : session.Dated connection)
    (same : attachments final.history = attachments session.history)
    (held : final.held = session.held) : final.Dated connection := by
  obtain ⟨earlier, first, renewals, told, begins, bridge, renewed, dates⟩ := dated
  exact ⟨earlier, first, renewals, same.trans told, begins, held.trans bridge, renewed, dates⟩

theorem dated_begun {goal : Goal} {bridge : BridgeId} {tag : Tag} {now : Int}
    (told : attachments final.history =
      attachments session.history ++ [⟨goal, bridge, tag, now⟩])
    (begins : goal.begins = true) (held : final.held = some bridge) :
    final.Dated ⟨tag, now, now⟩ :=
  ⟨_, _, [], told, begins, held, by simp, rfl, rfl, rfl⟩

theorem Dated.renewed {connection : Connection} (dated : session.Dated connection)
    {chain : Chain} {bridge : BridgeId} {tag : Tag} {now : Int}
    (told : attachments final.history =
      attachments session.history ++ [⟨.renew chain, bridge, tag, now⟩])
    (held : session.held = some bridge) (kept : final.held = session.held) :
    final.Dated (connection.renewed tag now) := by
  obtain ⟨earlier, first, renewals, before, begins, owned, renewed, started, _, _⟩ := dated
  obtain rfl : first.bridge = bridge := Option.some.inj (owned.symm.trans held)
  refine ⟨earlier, first, renewals ++ [⟨.renew chain, first.bridge, tag, now⟩], ?_, begins,
    kept.trans owned, ?_, started, by simp [Connection.renewed], by simp [Connection.renewed]⟩
  · rw [told, before, List.append_assoc]
    rfl
  · intro renewal member
    rcases List.mem_append.mp member with old | fresh
    · exact renewed renewal old
    · rw [List.mem_singleton.mp fresh]
      exact ⟨rfl, rfl⟩

theorem Reached.dated (reached : Reached point session) :
    ∀ connection, session.connection = some connection → session.Dated connection := by
  refine reached.induction (motive := fun _ session =>
    ∀ connection, session.connection = some connection → session.Dated connection) ?_ ?_
  · intro policy connection impossible
    cases impossible
  · intro point session last final reached dated move connection attached
    cases elsewhere : point.attaches with
    | false =>
        rcases connection_of_move move elsewhere with gone | ⟨same, held⟩
        · rw [gone] at attached
          cases attached
        · exact (dated connection (same ▸ attached)).congr
            (attachments_of_move reached.sound move elsewhere) held
    | true =>
        cases move with
        | attachStart call bridge tag now =>
            obtain rfl := Option.some.inj attached
            exact dated_begun (attachments_attached session call .start bridge tag now) rfl rfl
        | attachRestart call chain bridge tag now =>
            obtain rfl := Option.some.inj attached
            exact dated_begun (attachments_attached session call (.restart chain) bridge tag now)
              rfl rfl
        | attachRenew call chain bridge tag now =>
            obtain ⟨_, _, reads⟩ : session.phase = .renewing ∧ session.Uses bridge ∧
              (Phase.renewing.hasCard = true → session.held = some bridge) := reached.sound.fits
            obtain ⟨older, before, rfl⟩ := Option.map_eq_some_iff.mp attached
            exact (dated older before).renewed
              (attachments_attached session call (.renew chain) bridge tag now) (reads rfl) rfl
        | report bridge notice hears => cases point <;> first | cases hears; done | cases elsewhere
        | _ => cases elsewhere

theorem history_attach (session : Session) (call : CallId) (goal : Goal) (bridge : BridgeId)
    (tag : Tag) (now : Int) :
    ∃ rest, (session.attach call goal bridge tag now).history =
      session.history ++ .attached call goal bridge tag now :: rest ∧ attachments rest = [] := by
  cases goal with
  | start =>
      refine ⟨session.lock.release.holder.toList.map .granted ++ [.ended call (.ok .done)], ?_, ?_⟩
      · simp [attach, connect]
      · rw [attachments_append, attachments_of_aside (isAside_granted _)]
        rfl
  | restart chain => exact ⟨[.sent call tag chain.first], by simp [attach, connect], rfl⟩
  | renew chain => exact ⟨[.sent call tag chain.first], by simp [attach, reconnect], rfl⟩

theorem finishConnect_of_open {call : CallId} {goal : Goal} {bridge : BridgeId} {tag : Tag}
    (unclosed : session.isClosed bridge = false) (now : Int) :
    session.finishConnect call goal bridge tag none now =
      ((session.emit (.connectEnded call tag none)).emit (.acknowledged call)).attach call goal
        bridge tag now := by
  simp [finishConnect, unclosed]

theorem finishConnect_of_refused (session : Session) (call : CallId) (goal : Goal)
    (bridge : BridgeId) (tag : Tag) (fault : LinkFault) (now : Int) :
    session.finishConnect call goal bridge tag (some fault) now =
      (session.emit (.connectEnded call tag (some fault))).fail call (.link fault) := rfl

/-- In this step a detection is completed, right after the radio connected the tag. -/
structure Completes (session : Session) (stimulus : Stimulus) (call : CallId)
    (attachment : Attachment) (around : Surroundings) : Prop where
  woken : stimulus = .wake call (.connected none) around
  stage : session.stage? call = some (.connecting attachment.goal attachment.bridge attachment.tag)
  now : attachment.now = around.now
  final : session.step stimulus =
    ((session.emit (.connectEnded call attachment.tag none)).emit (.acknowledged call)).attach call
      attachment.goal attachment.bridge attachment.tag around.now

theorem Completes.history {call : CallId} {attachment : Attachment} {stimulus : Stimulus}
    {around : Surroundings} (completes : Completes session stimulus call attachment around) :
    ∃ rest, (session.step stimulus).history = session.history ++
        (.connectEnded call attachment.tag none :: .acknowledged call ::
          .attached call attachment.goal attachment.bridge attachment.tag attachment.now :: rest) ∧
      attachments rest = [] := by
  obtain ⟨rest, told, silent⟩ := history_attach
    ((session.emit (.connectEnded call attachment.tag none)).emit (.acknowledged call)) call
    attachment.goal attachment.bridge attachment.tag around.now
  refine ⟨rest, ?_, silent⟩
  rw [completes.final, told, completes.now]
  simp

theorem Lined.wake_of_other (lined : Lined .outside session) {call holder : CallId}
    (held : session.lock.holder = some holder) (apart : call ≠ holder) (signal : Signal)
    (around : Surroundings) : session.wake call signal around = session := by
  unfold wake
  cases pending : session.stage? call with
  | none => rfl
  | some stage =>
      obtain ⟨job, rfl⟩ := lined.queued held apart pending
      cases signal with
      | look => simp [held, Ne.symm apart]
      | _ => rfl

/-- A call that waits for the radio to connect a tag completes its detection only if it hears that
the tag is connected. -/
theorem completes_of_connecting {call : CallId} {goal : Goal} {bridge : BridgeId} {tag : Tag}
    (connecting : session.stage? call = some (.connecting goal bridge tag))
    (unclosed : session.isClosed bridge = false) {signal : Signal} {around : Surroundings}
    (told : (session.step (.wake call signal around)).history = session.history ++ new)
    {attachment : Attachment} (member : attachment ∈ attachments new) :
    Completes session (.wake call signal around) call attachment around := by
  cases signal with
  | look | rested | replied =>
      have silent : new = [] := by simpa [Session.step, wake, connecting] using told
      rw [silent] at member
      cases member
  | connected refusal =>
      have finished : session.step (.wake call (.connected refusal) around) =
          session.finishConnect call goal bridge tag refusal around.now :=
        wake_connecting connecting refusal around
      cases refusal with
      | some fault =>
          obtain ⟨mid, grown, aside⟩ := history_fail
            (session.emit (.connectEnded call tag (some fault))) call (.link fault)
          rw [finished, finishConnect_of_refused, grown, history_emit, List.append_assoc,
            List.append_cancel_left_eq] at told
          rw [← told, attachments_append, attachments_append, attachments_of_aside aside] at member
          cases member
      | none =>
          have completes : Completes session (.wake call (.connected none) around) call
              ⟨goal, bridge, tag, around.now⟩ around :=
            ⟨rfl, connecting, rfl, finished.trans (finishConnect_of_open unclosed _)⟩
          obtain ⟨rest, grown, silent⟩ := completes.history
          rw [told, List.append_cancel_left_eq] at grown
          have only : attachments new = [⟨goal, bridge, tag, around.now⟩] := by
            rw [grown]
            exact congrArg (_ :: ·) silent
          rw [only, List.mem_singleton] at member
          exact member ▸ completes

/-- Whatever completes a detection is the answer of the radio to the call that waits for it. -/
theorem Reached.completes (reached : Reached .outside session) {stimulus : Stimulus}
    (told : (session.step stimulus).history = session.history ++ new) {attachment : Attachment}
    (member : attachment ∈ attachments new) :
    ∃ call around, Completes session stimulus call attachment around := by
  have origin : Origin (fun point _ => point.attaches = true) session stimulus := by
    obtain ⟨event, recorded, attached⟩ := List.mem_filterMap.mp member
    refine reached.origin ?_ ?_ told recorded
    · intro new point last session final reached move told here
      exact attaches_of_recorded reached.sound move told
        (List.mem_filterMap.mpr ⟨event, here, attached⟩)
    · intro point last session final reached runs move attaches
      cases move with
      | accept => cases runs
      | report => exact attaches
      | _ => cases attaches
  cases origin with
  | aside attaches | ask attaches | turn _ _ attaches => cases attaches
  | @proceed call signal around _ _ move works attaches =>
      cases move with
      | accept caller goal bridge tag connecting unclosed =>
          have held := reached.lined.holder_of_stage connecting (by simp)
          by_cases own : call = caller
          · subst own
            exact ⟨call, around, completes_of_connecting connecting unclosed told member⟩
          · rw [Session.step, reached.lined.wake_of_other held own,
              List.self_eq_append_right] at told
            rw [told] at member
            cases member
      | _ => cases attaches

theorem Reached.connection_of_moves (reached : Reached point session)
    (moves : Moves point session last final)
    (silent : attachments final.history = attachments session.history) :
    final.connection = none ∨ final.connection = session.connection := by
  induction moves with
  | refl => exact .inr rfl
  | tail before move ih =>
      rename_i between _ middle _
      have there := reached.trans before
      obtain ⟨one, first⟩ := reached.grows before
      obtain ⟨two, second⟩ := there.grows (.single move)
      have empty : attachments one = [] ∧ attachments two = [] := by
        rw [← second, ← first, attachments_append, attachments_append, List.append_assoc] at silent
        exact List.append_eq_nil_iff.mp (List.self_eq_append_right.mp silent.symm)
      have early : attachments middle.history = attachments session.history := by
        rw [← first, attachments_append, empty.1, List.append_nil]
      cases elsewhere : between.attaches with
      | false =>
          rcases connection_of_move move elsewhere with gone | ⟨same, _⟩
          · exact .inl gone
          · exact (ih early).imp same.trans same.trans
      | true =>
          obtain ⟨attachment, more⟩ := attachments_of_attaching move elsewhere
          rw [← second, attachments_append, empty.2, List.append_nil, List.self_eq_append_right]
            at more
          cases more

/-- A step completes at most one detection, with the reading that comes with the step. -/
theorem Reached.attachments_step (reached : Reached .outside session) (stimulus : Stimulus) :
    attachments (session.step stimulus).history = attachments session.history ∨
      ∃ attachment, attachments (session.step stimulus).history =
          attachments session.history ++ [attachment] ∧
        stimulus.reading? = some attachment.now := by
  obtain ⟨new, grown⟩ := reached.grows (step_moves session stimulus)
  cases found : attachments new with
  | nil =>
      left
      rw [← grown, attachments_append, found, List.append_nil]
  | cons attachment others =>
      right
      obtain ⟨call, around, completes⟩ := reached.completes grown.symm
        (found ▸ List.mem_cons_self : attachment ∈ attachments new)
      obtain ⟨rest, told, silent⟩ := completes.history
      refine ⟨attachment, ?_, ?_⟩
      · rw [told, attachments_append]
        exact congrArg (attachments session.history ++ attachment :: ·) silent
      · rw [completes.woken, completes.now]
        rfl

/-- The readings that detections carry are readings of the run, in their order. -/
theorem attachments_sublist (policy : Policy) (stimuli : List Stimulus) :
    ((attachments ((initial policy).run stimuli).history).map (·.now)).Sublist
      (readings stimuli) := by
  induction stimuli using List.reverseRecOn with
  | nil => exact List.Sublist.refl _
  | append_singleton front stimulus ih =>
      rw [run_append, run_cons, run_nil, readings, List.filterMap_append]
      rcases (Reached.run policy front).attachments_step stimulus with
        same | ⟨attachment, one, read⟩
      · rw [same]
        exact ih.trans (List.sublist_append_left _ _)
      · rw [one, List.map_append]
        refine ih.append ?_
        simp [read]

/-- If the clock never goes back, a connection was begun before it was renewed, and renewed before
any later reading. -/
theorem Dated.ordered {connection : Connection} (dated : session.Dated connection)
    {readings : List Int} {now : Int}
    (taken : ((attachments session.history).map (·.now)).Sublist readings)
    (monotone : (readings ++ [now]).Pairwise (· ≤ ·)) :
    connection.startedAt ≤ connection.renewedAt ∧ connection.renewedAt ≤ now := by
  obtain ⟨earlier, first, renewals, told, _, _, _, started, _, renewed⟩ := dated
  have ordered := monotone.sublist (taken.append (List.Sublist.refl [now]))
  rw [told, List.map_append, List.append_assoc] at ordered
  obtain ⟨within, _, until_now⟩ := List.pairwise_append.mp (List.pairwise_append.mp ordered).2.1
  rw [started, renewed]
  refine ⟨?_, until_now _ (List.mem_map_of_mem (List.getLastD_mem_cons ..)) now (by simp)⟩
  rcases List.mem_cons.mp (List.getLastD_mem_cons (l := renewals) (a := first)) with same | member
  · exact Int.le_of_eq (congrArg Attachment.now same.symm)
  · exact (List.pairwise_cons.mp within).1 _ (List.mem_map_of_mem member)

theorem Ready.congr {bridge : BridgeId} {connection : Connection}
    (ready : session.Ready bridge connection) (untouched : Untouched session final) :
    final.Ready bridge connection := by
  obtain ⟨phase, held, unclosed, unread, attached⟩ := ready
  refine ⟨untouched.phase.trans phase, untouched.held.trans held, ?_, ?_,
    untouched.connection.trans attached⟩
  · rw [isClosed, untouched.bridges]
    exact unclosed
  · rw [untouched.bridges]
    exact unread

/-- What an exchange does with a connection that is ready is a matter of its age alone. -/
theorem Ready.runExchange {bridge : BridgeId} {connection : Connection}
    (ready : session.Ready bridge connection) (call : CallId) (chain : Chain)
    (around : Surroundings) :
    session.runExchange call chain around =
      match session.policy.upkeep (elapsed connection.startedAt around.now)
          (elapsed connection.renewedAt around.now) with
      | .keep => session.send call connection.tag chain
      | .renew => session.renew call bridge chain around
      | .restart => session.restart call chain := by
  obtain ⟨phase, held, unclosed, unread, attached⟩ := ready
  cases here : session.bridges[bridge]? with
  | none => simp [isClosed, here] at unclosed
  | some found =>
      have quiet := unread found here
      have untaken := update_takeInterruption here quiet
      have nothing : found.takeInterruption.1 = none := by simp [Bridge.takeInterruption, quiet]
      have listens : found.closed = false := by simpa [isClosed, here] using unclosed
      cases due : session.policy.upkeep (elapsed connection.startedAt around.now)
          (elapsed connection.renewedAt around.now) <;>
        simp [Session.runExchange, phase, held, here, listens, untaken, nothing, attached, due]

theorem Acquires.enters {call : CallId} {stimulus : Stimulus}
    (acquires : Acquires session call stimulus) :
    ∃ entered chain around, Moves .outside session (.holding call (.exchange chain)) entered ∧
      Untouched session entered ∧ stimulus.reading? = some around.now ∧
      session.step stimulus = entered.runExchange call chain around := by
  obtain ⟨entered, chain, around, made, moves, untouched, final⟩ := acquires.ready
  refine ⟨entered, chain, around, moves, untouched, ?_, final⟩
  rcases made with rfl | rfl <;> rfl

/-- A stimulus with which nobody gets to change the connection. -/
inductive Passive (session : Session) : Stimulus → Prop
  | alert (text : String) : Passive session (.alert text)
  | notice (bridge : BridgeId) (notice : TagNotice) : Passive session (.notice bridge notice)
  | look (around : Surroundings) : Passive session (.call .look around)
  | looked (call : CallId) (around : Surroundings)
      (queued : session.stage? call = some (.queued .look)) :
      Passive session (.wake call .look around)
  | wait (request : Request) (around : Surroundings) (holder : CallId)
      (held : session.lock.holder = some holder) : Passive session (.call request around)
  | leave (call : CallId) (job : Job) (queued : session.stage? call = some (.queued job)) :
      Passive session (.drop call)
  | refused (purpose : Purpose) (around : Surroundings)
      (refused : around.available = false ∨ session.live = true) :
      Passive session (.call (.start purpose) around)
  | denied (call : CallId) (purpose : Purpose) (around : Surroundings)
      (queued : session.stage? call = some (.queued (.start purpose)))
      (live : session.phase.isLive = true) : Passive session (.wake call .look around)
  | fresh (call : CallId) (bridge : BridgeId) (connection : Connection) (now : Int)
      (stimulus : Stimulus) (acquires : Acquires session call stimulus)
      (ready : session.Ready bridge connection) (read : stimulus.reading? = some now)
      (fresh : session.policy.upkeep (elapsed connection.startedAt now)
        (elapsed connection.renewedAt now) = .keep) : Passive session stimulus
  | answered (call : CallId) (tag : Tag) (rest : List Bytes) (bytes : Bytes)
      (response : Response) (around : Surroundings)
      (transmitting : session.stage? call = some (.transmitting tag rest))
      (read : Response.decode bytes = .ok response) :
      Passive session (.wake call (.replied (.ok bytes)) around)

theorem Passive.connection {stimulus : Stimulus} (passive : Passive session stimulus) :
    (session.step stimulus).connection = session.connection := by
  cases passive with
  | alert text => rfl
  | notice bridge notice => exact (report_fields session bridge notice).2.2.2.1
  | look around =>
      simp only [Session.step, ask, acquire]
      split <;> simp [enter]
  | looked call around queued =>
      simp only [Session.step, wake, queued]
      split <;> simp [enter]
  | wait request around holder held =>
      cases request with
      | start purpose =>
          simp only [Session.step, ask]
          split
          · simp
          · split <;> simp [acquire, held]
      | finish cause => simp [Session.step, ask, acquire, held]
      | exchange commands =>
          simp only [Session.step, ask]
          split <;> simp [acquire, held]
      | look => simp [Session.step, ask, acquire, held]
  | leave call job queued =>
      simp only [Session.step, drop, queued]
      split <;> simp
  | refused purpose around refused =>
      rcases refused with unavailable | live
      · simp [Session.step, ask, unavailable]
      · simp only [Session.step, ask]
        split <;> simp [live]
  | denied call purpose around queued live =>
      simp only [Session.step, wake, queued]
      split <;> simp [enter, runStart, live]
  | fresh call bridge connection now stimulus acquires ready read fresh =>
      obtain ⟨entered, chain, around, moves, untouched, reading, final⟩ := acquires.enters
      obtain rfl : now = around.now := Option.some.inj (read.symm.trans reading)
      rw [final, (ready.congr untouched).runExchange, policy_of_moves moves, fresh]
      exact untouched.connection
  | answered call tag rest bytes response around transmitting read =>
      simp only [Session.step, wake, transmitting, receive, read]
      split
      · simp
      · split <;> simp

/-- The session goes on with the tag that was detected again; the start of its radio session is
what it was. -/
structure Continues (session final : Session) (tag : Tag) (now : Int) : Prop where
  connection : ∃ older, session.connection = some older ∧
    final.connection = some { older with tag := tag, renewedAt := now }
  purpose : final.purpose = session.purpose
  held : final.held = session.held
  slot : final.slot = session.slot
  live : final.live = session.live
  bridges : final.bridges = session.bridges

/-- The radio session is over, and the call rests before the next one. -/
structure Restarts (session final : Session) (call : CallId) : Prop where
  phase : final.phase = .restarting
  connection : final.connection = none
  rests : ∃ new, final.history = session.history ++ new ∧
    SessionEvent.paused call session.policy.cooldown ∈ new

theorem Completes.begun {stimulus : Stimulus} {call : CallId} {attachment : Attachment}
    {around : Surroundings} (completes : Completes session stimulus call attachment around)
    (begins : attachment.goal.begins = true) :
    (session.step stimulus).connection =
      some ⟨attachment.tag, attachment.now, attachment.now⟩ := by
  rw [completes.final, completes.now]
  cases goal : attachment.goal with
  | start | restart chain => simp [attach, connect]
  | renew chain =>
      rw [goal] at begins
      cases begins

theorem Completes.continues (reached : Reached .outside session) {stimulus : Stimulus}
    {call : CallId} {attachment : Attachment} {around : Surroundings}
    (completes : Completes session stimulus call attachment around)
    (again : attachment.goal.begins = false) :
    Continues session (session.step stimulus) attachment.tag attachment.now := by
  cases goal : attachment.goal with
  | start | restart chain =>
      rw [goal] at again
      cases again
  | renew chain =>
      have pending := completes.stage
      rw [goal] at pending
      have fits := reached.sound.fits
      rw [Point.place, place_of_stage (reached.lined.holder_of_stage pending (by simp)) pending]
        at fits
      obtain ⟨older, before⟩ : ∃ older, session.connection = some older := by
        rw [← Option.isSome_iff_exists, reached.sound.coherent.connection, fits.1]
        rfl
      rw [completes.final, completes.now, goal]
      exact ⟨⟨older, before, by simp [attach, reconnect, before, Connection.renewed]⟩,
        by simp [attach, reconnect], by simp [attach, reconnect], by simp [attach, reconnect],
        by simp [attach, reconnect], by simp [attach, reconnect]⟩

theorem restarts_restart (untouched : Untouched session final)
    (policy : final.policy = session.policy) (call : CallId) (chain : Chain) :
    Restarts session (final.restart call chain) call := by
  obtain ⟨new, grown, _⟩ := untouched.bookkeeping
  refine ⟨by simp [restart], by simp [restart], ?_⟩
  simp only [restart, park_fields, hangUp_fields, history_emit]
  rw [history_openBridge _ (slot_hangUp _ _), history_hangUp, grown]
  simp only [List.append_assoc]
  exact ⟨_, rfl, by simp [policy]⟩

/-- Until its last stimulus the run has brought the session to where the clauses on single steps
look at it. -/
structure ReadingsOfAttachments (policy : Policy) (before : List Stimulus) (stimulus : Stimulus) :
    Prop where
  dated : ∀ connection, ((initial policy).run before).connection = some connection →
    ((initial policy).run before).Dated connection
  /-- Detections are completed in steps of their own, which read the clock. -/
  read : ∀ new attachment, ((initial policy).run (before ++ [stimulus])).history =
      ((initial policy).run before).history ++ new → attachment ∈ attachments new →
    ∃ call around rest, stimulus = .wake call (.connected none) around ∧
      attachment.now = around.now ∧ attachments rest = [] ∧
      new = .connectEnded call attachment.tag none :: .acknowledged call ::
        .attached call attachment.goal attachment.bridge attachment.tag attachment.now :: rest
  begun : ∀ attachment, attachments ((initial policy).run (before ++ [stimulus])).history =
      attachments ((initial policy).run before).history ++ [attachment] →
    attachment.goal.begins = true →
      ((initial policy).run (before ++ [stimulus])).connection =
        some ⟨attachment.tag, attachment.now, attachment.now⟩
  renewed : ∀ attachment, attachments ((initial policy).run (before ++ [stimulus])).history =
      attachments ((initial policy).run before).history ++ [attachment] →
    attachment.goal.begins = false →
      Continues ((initial policy).run before) ((initial policy).run (before ++ [stimulus]))
        attachment.tag attachment.now
  kept : attachments ((initial policy).run (before ++ [stimulus])).history =
      attachments ((initial policy).run before).history →
    ∀ connection, ((initial policy).run (before ++ [stimulus])).connection = some connection →
      ((initial policy).run before).connection = some connection
  passive : Passive ((initial policy).run before) stimulus →
    ((initial policy).run (before ++ [stimulus])).connection =
      ((initial policy).run before).connection
  ordered : ∀ connection now, ((initial policy).run before).connection = some connection →
    (readings before ++ [now]).Pairwise (· ≤ ·) →
      connection.startedAt ≤ connection.renewedAt ∧ connection.renewedAt ≤ now
  /-- Only the reading of the beginning counts for a restart. -/
  aged : ∀ connection bridge call now,
    ((initial policy).run before).Ready bridge connection →
    Acquires ((initial policy).run before) call stimulus → stimulus.reading? = some now →
    policy.restartAfter ≤ (now - connection.startedAt).toNat →
      Restarts ((initial policy).run before) ((initial policy).run (before ++ [stimulus])) call

/-- The readings of a connection tell when its radio session began and when its tag was detected
last. -/
theorem run_readings_of_attachments (policy : Policy) (before : List Stimulus)
    (stimulus : Stimulus) :
    ReadingsOfAttachments policy before stimulus := by
  have reached := Reached.run policy before
  have same : ((initial policy).run before).policy = policy :=
    policy_of_moves (run_moves (initial policy) before)
  have stepped : (initial policy).run (before ++ [stimulus]) =
      ((initial policy).run before).step stimulus := by
    rw [run_append, run_cons, run_nil]
  -- Each completed detection that the last step adds is found again as a wake of its call.
  have completed : ∀ attachment, attachments (((initial policy).run before).step stimulus).history =
      attachments ((initial policy).run before).history ++ [attachment] →
      ∃ call around,
        Completes ((initial policy).run before) stimulus call attachment around := by
    intro attachment more
    obtain ⟨new, grown⟩ := reached.grows (step_moves _ stimulus)
    rw [← grown, attachments_append, List.append_cancel_left_eq] at more
    exact reached.completes grown.symm (by rw [more]; exact List.mem_singleton_self _)
  refine ⟨reached.dated, ?_, ?_, ?_, ?_, ?_, ?_, ?_⟩
  · intro new attachment told member
    rw [stepped] at told
    obtain ⟨call, around, completes⟩ := reached.completes told member
    obtain ⟨rest, grown, silent⟩ := completes.history
    rw [told, List.append_cancel_left_eq] at grown
    exact ⟨call, around, rest, completes.woken, completes.now, silent, grown⟩
  · intro attachment more begins
    rw [stepped] at more ⊢
    obtain ⟨call, around, completes⟩ := completed attachment more
    exact completes.begun begins
  · intro attachment more again
    rw [stepped] at more ⊢
    obtain ⟨call, around, completes⟩ := completed attachment more
    exact completes.continues reached again
  · intro silent connection attached
    rw [stepped] at silent attached
    rcases reached.connection_of_moves (step_moves _ stimulus) silent with gone | kept
    · rw [gone] at attached
      cases attached
    · exact kept ▸ attached
  · intro passive
    rw [stepped]
    exact passive.connection
  · intro connection now attached monotone
    exact (reached.dated connection attached).ordered (attachments_sublist policy before) monotone
  · intro connection bridge call now ready acquires read aged
    obtain ⟨entered, chain, around, moves, untouched, reading, final⟩ := acquires.enters
    have policy' := policy_of_moves moves
    obtain rfl : now = around.now := Option.some.inj (read.symm.trans reading)
    have due : policy.upkeep (elapsed connection.startedAt around.now)
        (elapsed connection.renewedAt around.now) = .restart := if_pos aged
    rw [stepped, final, (ready.congr untouched).runExchange, policy', same, due]
    exact restarts_restart untouched policy' call chain

end Session

end Contactless
