import Contactless.Proofs.Session.Cancellation
import Mathlib.Data.List.TakeWhile

/-!
What ending a session stops.

Whoever ends a session empties the slot without asking for the lock. Until a start opens the next
bridge the radio is left alone, and nobody sends anything but the exchange that waited for an
answer then. Calls that wait for a card, and exchanges that get the lock meanwhile, fail.
-/

set_option autoImplicit false

namespace Contactless

namespace SessionEvent

def opens : SessionEvent → Bool
  | .opened _ => true
  | _ => false

def grantee? : SessionEvent → Option CallId
  | .granted call => some call
  | _ => none

end SessionEvent

namespace Session

/-- What happens before the next bridge is opened. -/
def untilOpened (events : List SessionEvent) : List SessionEvent :=
  events.takeWhile fun event => !event.opens

def grants (history : List SessionEvent) : List CallId := history.filterMap (·.grantee?)

/-- The call holds the lock and waits for a card, for the next radio session, or as an exchange for
its turn. -/
def HoldsUnsent (session : Session) (call : CallId) : Prop :=
  session.lock.holder = some call ∧ ∃ stage, session.stage? call = some stage ∧ stage.BoundToFail

/-- After a session the radio is left alone and only what was waiting for an answer goes on, until a
start opens the next bridge. -/
structure RadioLeftAlone (session : Session) (new : List SessionEvent) : Prop where
  begun : ∀ call bridge prompt, SessionEvent.begun call bridge prompt ∉ untilOpened new
  repolled : ∀ call bridge, SessionEvent.repolled call bridge ∉ untilOpened new
  sent : ∀ call tag command, SessionEvent.sent call tag command ∈ untilOpened new →
    ∃ rest, session.stage? call = some (.transmitting tag rest) ∧
      sentBy (untilOpened new) call <+: rest
  alone : ∀ first second tag other rest left,
    session.stage? first = some (.transmitting tag rest) →
      session.stage? second = some (.transmitting other left) → first = second
  opener : ∀ bridge after, new = untilOpened new ++ .opened bridge :: after →
    ∃ call purpose, (grants (session.history ++ untilOpened new)).getLast? = some call ∧
      SessionEvent.called call (.start purpose) ∈ session.history ++ untilOpened new

/-- The call sends nothing more and does not succeed; it has failed, or it fails when it is woken by
what it waits for. -/
structure NeverSucceeds (session final : Session) (call : CallId) : Prop where
  unsent : sentBy final.history call = sentBy session.history call
  unsuccessful : ∀ value, SessionEvent.ended call (.ok value) ∉ final.history
  ends : Failed final.history call ∨
    (∃ stage, final.stage? call = some stage) ∧
      ∀ refusal first second third,
        (final.run (wakes call refusal first second third)).Ended call

/-- The session was ended, and everything stopped that was not waiting for an answer already. -/
def Stopped (session final : Session) : Prop :=
  ∃ new, final.history = session.history ++ new ∧ RadioLeftAlone session new ∧
    (∀ call, session.HoldsUnsent call → NeverSucceeds session final call) ∧
    ∀ call commands, SessionEvent.granted call ∈ untilOpened new →
      SessionEvent.called call (.exchange commands) ∈ final.history →
        NeverSucceeds session final call

variable {base : Session} {point last : Point} {session final : Session} {call : CallId}

theorem grants_append (first second : List SessionEvent) :
    grants (first ++ second) = grants first ++ grants second :=
  List.filterMap_append

@[simp] theorem grants_granted (next : Option CallId) :
    grants (next.toList.map .granted) = next.toList := by
  cases next <;> rfl

@[simp] theorem grants_hangingUp (session : Session) (farewell : Option String) :
    grants (session.hangingUp farewell) = [] := by
  unfold hangingUp closing
  split
  · rfl
  · split <;> rfl

@[simp] theorem grants_reporting (session : Session) (bridge : BridgeId) (notice : TagNotice) :
    grants (session.reporting bridge notice) = [] := by
  unfold reporting
  split
  · rfl
  · cases notice <;> rfl

theorem grants_of_move (lined : Lined point session) (sound : Sound point session)
    (move : Move point session last final) :
    (grants final.history = grants session.history ∧
      final.lock.holder = session.lock.holder) ∨
    (grants final.history = grants session.history ++ final.lock.holder.toList ∧
      ((last = .outside ∧ final.place = .rest) ∨ ∃ call job, last = .holding call job)) := by
  cases move with
  | take call job free =>
      refine .inr ⟨?_, .inr ⟨call, job, rfl⟩⟩
      simp [grants, SessionEvent.grantee?, Lock.request_of_free free]
  | leave call outcome =>
      refine .inr ⟨?_, .inl ⟨rfl, lined.place_release (lined.worker call rfl) (by simp) (by simp)⟩⟩
      simp [grants_append]
      simp [grants, SessionEvent.grantee?]
  | dropHanded call job queued handed =>
      refine .inr ⟨?_, .inl ⟨rfl, lined.place_release handed (by simp) (by simp [stage?_forget])⟩⟩
      simp [grants_append]
      simp [grants, SessionEvent.grantee?]
  | dropHolder call stage pending working =>
      have held := lined.holder_of_stage pending working
      refine .inr ⟨?_, .inl ⟨rfl, lined.place_release held (by simp) (by simp [stage?_forget])⟩⟩
      simp [grants_append]
      simp [grants, SessionEvent.grantee?]
  | start call purpose dead =>
      have empty : session.slot = none := sound.coherent.dead dead
      exact .inl ⟨by simp [history_openBridge, empty, grants, SessionEvent.grantee?], by simp⟩
  | pause call chain =>
      have empty := sound.slot_of_reopening
      exact .inl ⟨by simp [history_openBridge, empty, grants, SessionEvent.grantee?], by simp⟩
  | wait call holder job held =>
      exact .inl ⟨by simp [grants, SessionEvent.grantee?], by simp [Lock.request_of_held held]⟩
  | lineFinish | finish | fail | restart | report =>
      exact .inl ⟨by simp [grants_append], by simp⟩
  | _ =>
      exact .inl ⟨by simp [grants, SessionEvent.grantee?, connect, reconnect],
        by simp [connect, reconnect]⟩

/-- The holder of the lock is the call that was granted it last. -/
theorem Reached.owner (reached : Reached point session) :
    ∀ call, session.lock.holder = some call → (grants session.history).getLast? = some call := by
  refine reached.induction (motive := fun _ session => ∀ call, session.lock.holder = some call →
    (grants session.history).getLast? = some call) ?_ ?_
  · intro policy call impossible
    cases impossible
  · intro point session last final before owned move call held
    rcases grants_of_move before.lined before.sound move with ⟨same, holder⟩ | ⟨grown, _⟩
    · rw [same]
      exact owned call (holder ▸ held)
    · rw [grown, held]
      simp

theorem slot_of_move (empty : session.slot = none) (move : Move point session last final) :
    final.slot = none ∨ (∃ call purpose, point = .holding call (.start purpose)) ∨
      ∃ call chain, point = .reopening call chain := by
  cases move with
  | start call purpose dead => exact .inr (.inl ⟨call, purpose, rfl⟩)
  | pause call chain => exact .inr (.inr ⟨call, chain, rfl⟩)
  | _ => exact .inl (by simp [connect, reconnect, empty])

theorem transmitting_of_move {tag : Tag} {rest : List Bytes}
    (move : Move point session last final)
    (pending : final.stage? call = some (.transmitting tag rest)) :
    session.stage? call = some (.transmitting tag rest) ∨
      ∃ chain, point = .sending call tag chain ∧ rest = chain.rest := by
  have parked : ∀ (other : CallId) (stage : Option Stage), stage ≠ some (.transmitting tag rest) →
      (if call = other then stage else session.stage? call) = some (.transmitting tag rest) →
        session.stage? call = some (.transmitting tag rest) := by
    intro other stage apart here
    by_cases same : call = other
    · rw [if_pos same] at here
      exact absurd here apart
    · rw [if_neg same] at here
      exact here
  cases move with
  | send other tag' chain =>
      by_cases same : call = other
      · subst same
        obtain ⟨rfl, rfl⟩ : tag' = tag ∧ chain.rest = rest := by
          simpa [Session.send, stage?_park] using pending
        exact .inr ⟨chain, rfl, rfl⟩
      · exact .inl (by simpa [Session.send, stage?_park, same] using pending)
  | wait other holder job held =>
      exact .inl (parked other (some (.queued job)) (by simp)
        ((stage?_park _ call other _).symm.trans pending))
  | pause other chain =>
      exact .inl (parked other (some (.resting session.nextBridge chain)) (by simp)
        (by simpa [stage?_park] using pending))
  | pend other goal bridge found here nothing =>
      exact .inl (parked other (some (.detecting goal bridge)) (by simp)
        (by simpa [stage?_park] using pending))
  | pick other goal bridge found here tags polled tag' wallet =>
      exact .inl (parked other (some (.connecting goal bridge tag')) (by simp)
        (by simpa [stage?_park] using pending))
  | leave other outcome => exact .inl (parked other none (by simp) (by simpa using pending))
  | dropHanded other job queued handed | dropHolder other stage there working =>
      exact .inl (parked other none (by simp) (by simpa [stage?_forget] using pending))
  | dropWaiting other job queued waiting =>
      exact .inl (parked other none (by simp) ((stage?_forget _ call other).symm.trans pending))
  | start other purpose dead =>
      rw [stage?_openBridge] at pending
      exact .inl pending
  | restart other chain bridge connection ready now aged =>
      rw [stage?_hangUp] at pending
      exact .inl pending
  | lineFinish | report | finish | fail => exact .inl (by simpa using pending)
  | _ => exact .inl pending

/-- Only a call that sends a command adds to what was sent. -/
theorem sentBy_new {new : List SessionEvent} (moments : Along (Moment point session last) [] new)
    (unsent : ∀ tag chain, point ≠ .sending call tag chain) : sentBy new call = [] := by
  refine List.filterMap_eq_nil_iff.mpr fun event dealt => ?_
  obtain ⟨member, concerned⟩ := List.mem_filter.mp dealt
  obtain ⟨mid, moment⟩ := moments.of_mem member
  cases event with
  | sent caller tag command =>
      obtain rfl : caller = call := by simpa [SessionEvent.concerns] using concerned
      obtain ⟨chain, sending, _⟩ := moment
      exact absurd sending (unsent tag chain)
  | _ => rfl

/-- Of what the call had left to send when the session was ended, this is left. -/
def Unfinished (base : Session) (new : List SessionEvent) (call : CallId) (tag : Tag)
    (rest : List Bytes) : Prop :=
  base.stage? call = some (.transmitting tag (sentBy new call ++ rest))

/-- Nobody gets to use the radio, and commands are sent only to go on with a transmission. -/
def Point.LeavesRadio (base : Session) (new : List SessionEvent) : Point → Prop
  | .tuning _ _ _ | .repolling _ _ _ | .reopening _ _ | .attaching _ _ _ _ => False
  | .sending call tag chain => Unfinished base new call tag chain.toList
  | _ => True

/-- The slot has been empty since the session was ended. -/
structure SlotEmptySince (base : Session) (new : List SessionEvent) (point : Point)
    (session : Session) :
    Prop where
  grown : session.history = base.history ++ new
  unopened : ∀ event ∈ new, event.opens = false
  empty : session.slot = none
  leavesRadio : point.LeavesRadio base new
  stage : ∀ call tag rest, session.stage? call = some (.transmitting tag rest) →
    Unfinished base new call tag rest
  begun : ∀ call bridge prompt, SessionEvent.begun call bridge prompt ∉ new
  repolled : ∀ call bridge, SessionEvent.repolled call bridge ∉ new
  sent : ∀ call tag command, SessionEvent.sent call tag command ∈ new →
    ∃ rest, base.stage? call = some (.transmitting tag rest) ∧ sentBy new call <+: rest
  granted : ∀ call ∈ grants new, UnsentAndFailing base call point session ∨
    ∃ request, asked session.history call = [request] ∧ ∀ commands, request ≠ .exchange commands

variable {new more : List SessionEvent}

/-- While the slot is empty an exchange that gets the lock is bound to fail. -/
theorem SlotEmptySince.holdsUnsent {request : Request} {job : Job}
    (window : SlotEmptySince base new point session)
    (grown : final.history = session.history ++ more)
    (fresh : Fresh final.history call request) (serves : job.Serves request)
    (lost : ∀ chain, job = .exchange chain → BoundToFail call last final) :
    UnsentAndFailing base call last final ∨
      ∃ request, asked final.history call = [request] ∧
        ∀ commands, request ≠ .exchange commands := by
  cases job with
  | exchange chain =>
      refine .inl ⟨?_, .inl (lost chain rfl)⟩
      have nothing := fresh.sentBy
      rw [grown, window.grown, sentBy_append, sentBy_append, List.append_assoc,
        List.append_eq_nil_iff] at nothing
      rw [fresh.sentBy, nothing.1]
  | start purpose | finish farewell | look =>
      refine .inr ⟨request, fresh.asked, ?_⟩
      rintro commands rfl
      cases serves

theorem SlotEmptySince.granted_move (reached : Reached point session)
    (window : SlotEmptySince base new point session) (move : Move point session last final)
    (grown : final.history = session.history ++ more) (empty : final.slot = none) :
    ∀ call ∈ grants (new ++ more), UnsentAndFailing base call last final ∨
      ∃ request, asked final.history call = [request] ∧
        ∀ commands, request ≠ .exchange commands := by
  have reached' := reached.trans (.single move)
  intro call member
  rw [grants_append, List.mem_append] at member
  rcases member with old | recent
  · rcases window.granted call old with fated | ⟨request, made, other⟩
    · exact .inl (fated.move reached move)
    · refine .inr ⟨request, ?_, other⟩
      exact asked_of_prefix made (reached'.served.fair call) (reached.grows (.single move))
  · have split : grants final.history = grants session.history ++ grants more := by
      rw [grown, grants_append]
    rcases grants_of_move reached.lined reached.sound move with ⟨same, _⟩ | ⟨given, settled⟩
    · rw [same, List.self_eq_append_right] at split
      rw [split] at recent
      cases recent
    · rw [given] at split
      rw [← List.append_cancel_left split, Option.mem_toList] at recent
      have held : final.lock.holder = some call := recent
      rcases settled with ⟨rfl, rests⟩ | ⟨other, job, rfl⟩
      · obtain ⟨stage, pending⟩ := reached'.lined.holder call held (by simp [Point.worker?])
        rw [place_of_stage held pending] at rests
        cases stage with
        | queued job =>
            obtain ⟨request, fresh, serves⟩ :=
              reached'.served.stage call _ pending (by simp [Point.worker?])
            refine window.holdsUnsent grown fresh serves ?_
            rintro chain rfl
            exact ⟨held, empty, _, pending, trivial⟩
        | _ => cases rests
      · obtain rfl : call = other :=
          Option.some.inj (held.symm.trans (reached'.lined.worker other rfl))
        obtain ⟨request, fresh, serves⟩ := reached'.served.running
        refine window.holdsUnsent grown fresh serves ?_
        rintro chain rfl
        exact ⟨held, empty, rfl⟩

theorem Unfinished.append {tag : Tag} {rest : List Bytes} (left : Unfinished base new call tag rest)
    (nothing : sentBy more call = []) : Unfinished base (new ++ more) call tag rest := by
  unfold Unfinished at left ⊢
  rw [sentBy_append, nothing, List.append_nil]
  exact left

theorem SlotEmptySince.closed (window : SlotEmptySince base new point session)
    (sound : Sound point session) (bridge : BridgeId) : session.isClosed bridge = true :=
  sound.coherent.finished (by simp [window.empty])

/-- While the slot is empty nobody gets to use the radio. -/
theorem SlotEmptySince.leavesRadio_move (window : SlotEmptySince base new point session)
    (sound : Sound point session) (move : Move point session last final)
    (nothing : ∀ call, sentBy more call = []) : last.LeavesRadio base (new ++ more) := by
  have closed := window.closed sound
  have leavesRadio := window.leavesRadio
  cases move with
  | keep call chain bridge connection ready | renew call chain bridge connection ready
  | restart call chain bridge connection ready =>
      have unclosed := ready.unclosed
      rw [closed bridge] at unclosed
      cases unclosed
  | begin call goal bridge prompt unclosed | accept call goal bridge tag connecting unclosed =>
      rw [closed bridge] at unclosed
      cases unclosed
  | attachRestart | attachRenew => cases leavesRadio
  | answerNext call tag chain bytes response transmitting read succeeded =>
      exact (window.stage call tag chain.toList transmitting).append (nothing call)
  | report bridge notice hears =>
      cases point with
      | outside => trivial
      | tuning call goal bridge | repolling call chain bridge => cases leavesRadio
      | _ => cases hears
  | _ => trivial

/-- A move that neither starts a session nor sends a command leaves the slot empty. -/
theorem SlotEmptySince.still (reached : Reached point session)
    (window : SlotEmptySince base new point session) (move : Move point session last final)
    (idle : ∀ call purpose, point ≠ .holding call (.start purpose))
    (unsent : ∀ call tag chain, point ≠ .sending call tag chain) :
    ∃ more, SlotEmptySince base (new ++ more) last final := by
  obtain ⟨more, grown, moments⟩ := reached.sound.moments move
  have closed := window.closed reached.sound
  have nothing : ∀ call, sentBy more call = [] := fun call => sentBy_new moments (unsent call)
  have empty : final.slot = none := by
    rcases slot_of_move window.empty move with still | ⟨call, purpose, starts⟩ | ⟨call, chain, rfl⟩
    · exact still
    · exact absurd starts (idle call purpose)
    · exact window.leavesRadio.elim
  refine ⟨more, ⟨?_, ?_, empty, window.leavesRadio_move reached.sound move nothing, ?_, ?_, ?_, ?_,
    window.granted_move reached move grown empty⟩⟩
  · rw [grown, window.grown, List.append_assoc]
  · intro event member
    rcases List.mem_append.mp member with old | recent
    · exact window.unopened event old
    · obtain ⟨mid, moment⟩ := moments.of_mem recent
      cases event with
      | opened bridge =>
          obtain ⟨_, _, _, ⟨call, purpose, starts⟩ | ⟨call, chain, rfl⟩⟩ := moment
          · exact absurd starts (idle call purpose)
          · exact window.leavesRadio.elim
      | _ => rfl
  · intro call tag rest pending
    rcases transmitting_of_move move pending with before | ⟨chain, sending, _⟩
    · exact (window.stage call tag rest before).append (nothing call)
    · exact absurd sending (unsent call tag chain)
  · intro call bridge prompt member
    rcases List.mem_append.mp member with old | recent
    · exact window.begun call bridge prompt old
    · obtain ⟨mid, _, unclosed, _⟩ := moments.of_mem recent
      rw [closed bridge] at unclosed
      cases unclosed
  · intro call bridge member
    rcases List.mem_append.mp member with old | recent
    · exact window.repolled call bridge old
    · obtain ⟨mid, chain, connection, _, ready, _⟩ := moments.of_mem recent
      have unclosed := ready.unclosed
      rw [closed bridge] at unclosed
      cases unclosed
  · intro call tag command member
    rcases List.mem_append.mp member with old | recent
    · rw [sentBy_append, nothing call, List.append_nil]
      exact window.sent call tag command old
    · obtain ⟨mid, chain, sending, _⟩ := moments.of_mem recent
      exact absurd sending (unsent call tag chain)

theorem sentBy_one_other {other : CallId} (apart : other ≠ call) (tag : Tag) (command : Bytes) :
    sentBy [.sent call tag command] other = [] := by
  have elsewhere : (call == other) = false := by simpa using Ne.symm apart
  simp [sentBy, SessionEvent.concerns, elsewhere]

/-- The command of a transmission that goes on is one that was left. -/
theorem SlotEmptySince.send {tag : Tag} {chain : Chain}
    (reached : Reached (.sending call tag chain) session)
    (window : SlotEmptySince base new (.sending call tag chain) session) :
    SlotEmptySince base (new ++ [.sent call tag chain.first]) .outside
      (session.send call tag chain) := by
  have left : Unfinished base new call tag chain.toList := window.leavesRadio
  have grown : (session.send call tag chain).history =
      session.history ++ [.sent call tag chain.first] := by simp
  have empty : (session.send call tag chain).slot = none := by simpa using window.empty
  have own : sentBy (new ++ [.sent call tag chain.first]) call =
      sentBy new call ++ [chain.first] := sentBy_sent new call tag chain.first
  have split : sentBy new call ++ chain.toList =
      (sentBy new call ++ [chain.first]) ++ chain.rest := by simp [Chain.toList]
  have others : ∀ other, other ≠ call →
      sentBy [SessionEvent.sent call tag chain.first] other = [] :=
    fun other apart => sentBy_one_other apart tag chain.first
  have only : ∀ event ∈ new ++ [SessionEvent.sent call tag chain.first],
      event ∈ new ∨ event = .sent call tag chain.first := by simp
  refine ⟨?_, ?_, empty, trivial, ?_, ?_, ?_, ?_,
    window.granted_move reached (.send call tag chain) grown empty⟩
  · rw [grown, window.grown, List.append_assoc]
  · intro event member
    rcases only event member with old | rfl
    · exact window.unopened event old
    · rfl
  · intro other tag' rest pending
    by_cases same : other = call
    · subst same
      obtain ⟨rfl, rfl⟩ : tag = tag' ∧ chain.rest = rest := by
        simpa [Session.send, stage?_park] using pending
      unfold Unfinished at left ⊢
      rw [own, ← split]
      exact left
    · have before : session.stage? other = some (.transmitting tag' rest) := by
        simpa [Session.send, stage?_park, same] using pending
      exact (window.stage other tag' rest before).append (others other same)
  · intro other bridge prompt member
    rcases only _ member with old | impossible
    · exact window.begun other bridge prompt old
    · cases impossible
  · intro other bridge member
    rcases only _ member with old | impossible
    · exact window.repolled other bridge old
    · cases impossible
  · have mine : ∃ rest, base.stage? call = some (.transmitting tag rest) ∧
        sentBy (new ++ [.sent call tag chain.first]) call <+: rest :=
      ⟨_, left, by rw [own, split]; exact List.prefix_append _ _⟩
    intro other tag' command member
    rcases only _ member with old | same
    · by_cases same : other = call
      · subst same
        obtain ⟨rest, before, _⟩ := window.sent other tag' command old
        obtain ⟨all, here, sent⟩ := mine
        rw [before, Option.some.injEq, Stage.transmitting.injEq] at here
        exact ⟨rest, before, here.2 ▸ sent⟩
      · rw [sentBy_append, others other same, List.append_nil]
        exact window.sent other tag' command old
    · injection same with first second third
      rw [first, second]
      exact mine

/-- The slot stays empty until a start opens the next bridge. -/
theorem SlotEmptySince.move (reached : Reached point session)
    (window : SlotEmptySince base new point session) (move : Move point session last final) :
    (∃ more, SlotEmptySince base (new ++ more) last final) ∨
      ∃ call purpose, point = .holding call (.start purpose) ∧
        final.history = session.history ++ [.opened session.nextBridge] := by
  -- Only a start can open a bridge and only a transmission can send.
  by_cases starts : ∃ call purpose, point = .holding call (.start purpose)
  · obtain ⟨call, purpose, rfl⟩ := starts
    cases move with
    | deny call purpose live =>
        refine .inl ⟨[], ?_⟩
        rw [List.append_nil]
        exact { window with
          leavesRadio := trivial
          granted := fun call member =>
            (window.granted call member).imp_left fun fated =>
              fated.move reached (.deny _ purpose live) }
    | start call purpose dead =>
        exact .inr ⟨call, purpose, rfl, history_openBridge _ window.empty⟩
    | report bridge notice hears => cases hears
  · have idle : ∀ call purpose, point ≠ .holding call (.start purpose) :=
      fun call purpose holds => starts ⟨call, purpose, holds⟩
    by_cases sends : ∃ call tag chain, point = .sending call tag chain
    · obtain ⟨call, tag, chain, rfl⟩ := sends
      cases move with
      | send call tag chain => exact .inl ⟨_, window.send reached⟩
      | report bridge notice hears => cases hears
    · exact .inl (window.still reached move idle fun call tag chain here =>
        sends ⟨call, tag, chain, here⟩)

/-- The slot was empty until a start opened the next bridge. -/
def ReopenedByStart (base : Session) (new : List SessionEvent) (last : Point) (final : Session) :
    Prop :=
  ∃ more call purpose middle bridge rest,
    SlotEmptySince base (new ++ more) (.holding call (.start purpose)) middle ∧
      Reached (.holding call (.start purpose)) middle ∧
      Moves (.holding call (.start purpose)) middle last final ∧
      final.history = middle.history ++ .opened bridge :: rest

/-- The slot stays empty until a start opens the next bridge, which is the first one since. -/
theorem SlotEmptySince.until_opened (reached : Reached point session)
    (window : SlotEmptySince base new point session) (moves : Moves point session last final) :
    (∃ more, SlotEmptySince base (new ++ more) last final) ∨
      ∃ more call purpose middle bridge rest,
        SlotEmptySince base (new ++ more) (.holding call (.start purpose)) middle ∧
          Moves point session (.holding call (.start purpose)) middle ∧
          Moves (.holding call (.start purpose)) middle last final ∧
          final.history = middle.history ++ .opened bridge :: rest :=
  reached.lasting (fun reached window move => window.move reached move) window moves

theorem SlotEmptySince.moves (reached : Reached point session)
    (window : SlotEmptySince base new point session) (moves : Moves point session last final) :
    (∃ more, SlotEmptySince base (new ++ more) last final) ∨
      ReopenedByStart base new last final := by
  refine (window.until_opened reached moves).imp_right ?_
  rintro ⟨more, call, purpose, middle, bridge, rest, stood, here, later, told⟩
  exact ⟨more, call, purpose, middle, bridge, rest, stood, reached.trans here, later, told⟩

theorem untilOpened_of_unopened (unopened : ∀ event ∈ new, event.opens = false) :
    untilOpened new = new :=
  List.takeWhile_eq_self_iff.mpr fun event member => by simp [unopened event member]

theorem untilOpened_append (unopened : ∀ event ∈ new, event.opens = false) (bridge : BridgeId)
    (rest : List SessionEvent) : untilOpened (new ++ .opened bridge :: rest) = new := by
  unfold untilOpened
  rw [List.takeWhile_append_of_pos fun event member => by simp [unopened event member]]
  simp [SessionEvent.opens]

/-- The session after its end was asked for and before the lock was. -/
def hungUp (session : Session) (cause : Option SessionError) : Session :=
  ({ session with issued := session.issued + 1 }.emit
    (.called session.issued (.finish cause))).hangUp (cause.map SessionError.message)

def ender (session : Session) (cause : Option SessionError) : Point :=
  .lining session.issued (.finish (cause.map SessionError.message))

theorem hungUp_moves (session : Session) (cause : Option SessionError) :
    Moves .outside session (session.ender cause) (session.hungUp cause) :=
  .head (.ask (.finish cause)) (.single (.lineFinish _ cause))

theorem finish_moves (session : Session) (cause : Option SessionError) (around : Surroundings) :
    Moves (session.ender cause) (session.hungUp cause) .outside
      (session.step (.call (.finish cause) around)) :=
  acquire_moves (session.hungUp cause) session.issued _ around

theorem stage?_hungUp (session : Session) (cause : Option SessionError) (call : CallId) :
    (session.hungUp cause).stage? call = session.stage? call :=
  stage?_hangUp _ _ call

def hungUpEvents (session : Session) (cause : Option SessionError) : List SessionEvent :=
  .called session.issued (.finish cause) :: session.hangingUp (cause.map SessionError.message)

theorem history_hungUp (session : Session) (cause : Option SessionError) :
    (session.hungUp cause).history = session.history ++ session.hungUpEvents cause := by
  unfold hungUp hungUpEvents
  rw [history_hangUp, history_emit, List.append_assoc]
  rfl

theorem SlotEmptySince.finish (session : Session) (cause : Option SessionError) :
    SlotEmptySince session (session.hungUpEvents cause) (session.ender cause)
      (session.hungUp cause) := by
  have events : ∀ event ∈ session.hungUpEvents cause,
      event = .called session.issued (.finish cause) ∨ event.isAside = true := by
    intro event member
    rcases List.mem_cons.mp member with same | aside
    · exact .inl same
    · exact .inr (isAside_hangingUp session _ event aside)
  have quiet : ∀ call, sentBy (session.hungUpEvents cause) call = [] := by
    intro call
    refine List.filterMap_eq_nil_iff.mpr fun event dealt => ?_
    rcases events event (List.mem_filter.mp dealt).1 with rfl | aside
    · rfl
    · cases event <;> first | rfl | cases aside
  have absent : ∀ event, event.isAside = false → (∀ call request, event ≠ .called call request) →
      event ∉ session.hungUpEvents cause := by
    intro event apart other member
    rcases events event member with same | aside
    · exact other _ _ same
    · rw [apart] at aside
      cases aside
  refine ⟨history_hungUp session cause, ?_, by simp [hungUp], trivial, ?_, ?_, ?_, ?_, ?_⟩
  · intro event member
    rcases events event member with rfl | aside
    · rfl
    · cases event <;> first | rfl | cases aside
  · intro call tag rest pending
    unfold Unfinished
    rw [quiet call]
    exact (stage?_hungUp session cause call).symm.trans pending
  · exact fun call bridge prompt => absent _ rfl (by simp)
  · exact fun call bridge => absent _ rfl (by simp)
  · exact fun call tag command member => absurd member (absent _ rfl (by simp))
  · intro call member
    have nobody : grants (session.hungUpEvents cause) = [] := grants_hangingUp session _
    rw [nobody] at member
    cases member

theorem HoldsUnsent.unsentAndFailing (lined : Lined .outside session)
    (holdsUnsent : session.HoldsUnsent call) (cause : Option SessionError) :
    UnsentAndFailing session call (session.ender cause) (session.hungUp cause) := by
  obtain ⟨held, stage, pending, bound⟩ := holdsUnsent
  have known := lined.issued call (Lock.mem_line.mpr (.inl held))
  have same : dealings (session.hungUp cause).history call = dealings session.history call := by
    have apart : (session.issued == call) = false := by
      simpa using Nat.ne_of_gt known
    rw [history_hungUp]
    simp [hungUpEvents, SessionEvent.concerns, apart]
  have there := (stage?_hungUp session cause call).trans pending
  exact ⟨sentBy_congr same, .inl ⟨by simpa [hungUp] using held, by simp [hungUp], stage, there,
    bound⟩⟩

/-- A call that is bound to fail does so at the latest when it is woken. -/
theorem UnsentAndFailing.neverSucceeds (reached : Reached .outside final)
    (fated : UnsentAndFailing session call .outside final) : NeverSucceeds session final call := by
  refine ⟨fated.unsent, reached.unsuccessful fated.fails, ?_⟩
  rcases fated.fails with lost | failed
  · obtain ⟨stage, pending, _⟩ := lost.point
    exact .inr ⟨⟨stage, pending⟩, fun refusal first second third =>
      lost.ends reached refusal first second third⟩
  · exact .inl failed

theorem Lined.transmitting_alone (lined : Lined .outside session) {first second : CallId}
    {tag other : Tag} {rest left : List Bytes}
    (one : session.stage? first = some (.transmitting tag rest))
    (two : session.stage? second = some (.transmitting other left)) : first = second := by
  have held := lined.holder_of_stage one (by simp)
  rw [lined.holder_of_stage two (by simp), Option.some.injEq] at held
  exact held.symm

/-- What an empty slot says of the time until the next bridge is opened. -/
theorem SlotEmptySince.radioLeftAlone (lined : Lined .outside base)
    (window : SlotEmptySince base new point session)
    {all : List SessionEvent} (cut : untilOpened all = new)
    (opener : ∀ bridge after, all = new ++ .opened bridge :: after →
      ∃ call purpose, (grants (base.history ++ new)).getLast? = some call ∧
        SessionEvent.called call (.start purpose) ∈ base.history ++ new) :
    RadioLeftAlone base all := by
  refine ⟨?_, ?_, ?_, fun _ _ _ _ _ _ => lined.transmitting_alone, ?_⟩ <;> rw [cut]
  · exact window.begun
  · exact window.repolled
  · exact window.sent
  · exact opener

theorem SlotEmptySince.granted_neverSucceeds (reached : Reached point session)
    (window : SlotEmptySince base new point session) (moves : Moves point session .outside final)
    {commands : List Bytes} (granted : SessionEvent.granted call ∈ new)
    (made : SessionEvent.called call (.exchange commands) ∈ final.history) :
    NeverSucceeds base final call := by
  have reached' := reached.trans moves
  rcases window.granted call (List.mem_filterMap.mpr ⟨_, granted, rfl⟩) with
    fated | ⟨request, asked, other⟩
  · exact (fated.moves reached moves).neverSucceeds reached'
  · have fair := reached'.served.fair call
    have same := asked_of_prefix asked fair (reached.grows moves)
    rw [(fair.own made).1, List.singleton_inj] at same
    exact absurd same.symm (other commands)

/-- A start that is about to open a bridge holds the lock and was asked for. -/
theorem Reached.opener {purpose : Purpose}
    (reached : Reached (.holding call (.start purpose)) session) :
    (grants session.history).getLast? = some call ∧
      SessionEvent.called call (.start purpose) ∈ session.history := by
  refine ⟨reached.owner call (reached.lined.worker call rfl), ?_⟩
  obtain ⟨request, fresh, serves⟩ := reached.served.running
  rw [called_mem, fresh.asked, List.mem_singleton]
  cases request with
  | start asked =>
      have same : purpose = asked := serves
      rw [same]
  | finish cause | exchange commands | look => cases serves

theorem Reached.stopped (reached : Reached .outside session) (cause : Option SessionError)
    (around : Surroundings) (stimuli : List Stimulus) :
    Stopped session ((session.step (.call (.finish cause) around)).run stimuli) := by
  have here := reached.trans (hungUp_moves session cause)
  have moves := (finish_moves session cause around).trans (run_moves _ stimuli)
  have holdsUnsent :
      ∀ call, session.HoldsUnsent call → NeverSucceeds session _ call := fun call holdsUnsent =>
    ((holdsUnsent.unsentAndFailing reached.lined cause).moves here moves).neverSucceeds
      (here.trans moves)
  have window := SlotEmptySince.finish session cause
  rcases window.moves here moves with ⟨more, still⟩ | reopened
  · have all := untilOpened_of_unopened still.unopened
    refine ⟨_, still.grown, still.radioLeftAlone reached.lined all ?_, holdsUnsent, ?_⟩
    · intro bridge after impossible
      have nothing := List.self_eq_append_right.mp impossible
      cases nothing
    · intro call commands granted made
      rw [all] at granted
      exact still.granted_neverSucceeds (here.trans moves) .refl granted made
  · obtain ⟨more, call, purpose, middle, bridge, rest, still, before, later, told⟩ := reopened
    have all := untilOpened_append still.unopened bridge rest
    refine ⟨_, ?_, still.radioLeftAlone reached.lined all ?_, holdsUnsent, ?_⟩
    · rw [told, still.grown, List.append_assoc]
    · intro _ _ _
      rw [← still.grown]
      exact ⟨call, purpose, before.opener⟩
    · intro call commands granted made
      rw [all] at granted
      exact still.granted_neverSucceeds before later granted made

/-- Wherever a session is ended, only what waits for an answer already goes on until a start opens
the next bridge. -/
theorem run_finish_stopped (policy : Policy) (before after : List Stimulus)
    (cause : Option SessionError) (around : Surroundings) :
    Stopped ((initial policy).run before)
      ((initial policy).run (before ++ .call (.finish cause) around :: after)) := by
  rw [run_append, run_cons]
  exact (Reached.run policy before).stopped cause around after

/-- A start fails that waits for a card, even if the card was reported before the session was
ended. -/
example : ((initial {}).run [.call (.start .identify) {},
    .notice 0 (.detected [⟨0, .iso7816, some walletAid⟩]), .call (.finish none) {},
    .wake 0 .look {}, .wake 0 (.connected none) {}]).history.filter (·.leaver?.isSome) =
      [.ended 0 (.error .cancelled)] := by
  decide +kernel

end Session

end Contactless
