import Contactless.Proofs.Session.Departure
import Contactless.Proofs.Session.Order
import Mathlib.Data.List.Basic
import Mathlib.Data.List.Induction

/-!
Exchanges do not get in each other's way.

What the radio and the tags are put to is a sequence of blocks, one for each call that asked for
the lock, in the order of asking. A call first prepares the card and then sends its own commands,
and a call that succeeds returns the answer to its own last command.
-/

set_option autoImplicit false

namespace Contactless

/-- The calls that wait for the answer of a tag, after one more event. -/
def SessionEvent.tally (calls : List CallId) : SessionEvent → List CallId
  | .sent call _ _ => calls ++ [call]
  | .answered call _ _ | .dropped call => calls.erase call
  | _ => calls

namespace Session

/-- The calls that wait for the answer of a tag. -/
def outstanding (history : List SessionEvent) : List CallId :=
  history.foldl SessionEvent.tally []

/-- All that the radio and the tags were put to. -/
def work (history : List SessionEvent) : List SessionEvent :=
  history.filter (·.worker?.isSome)

def preparations (history : List SessionEvent) (call : CallId) : List SessionEvent :=
  history.filter fun event => event.worker? = some call && !event.isSent

def block (history : List SessionEvent) (call : CallId) : List SessionEvent :=
  history.filter fun event => event.worker? = some call && event.isSent

/-- Exchanges are serialized, contiguous and answered by the right tag. -/
structure ExchangesSerialized (history : List SessionEvent) : Prop where
  /-- At any time at most one command waits for its answer. -/
  single : ∀ before, before <+: history → (outstanding before).length ≤ 1
  queue : (requests history).Nodup
  blocks : work history =
    (requests history).flatMap fun call => preparations history call ++ block history call
  own : ∀ call request, SessionEvent.called call request ∈ history →
    (block history call).filterMap (·.command?) <+: request.commands
  owned : ∀ call, block history call ≠ [] →
    ∃ commands, SessionEvent.called call (.exchange commands) ∈ history
  routed : ∀ call commands value, SessionEvent.called call (.exchange commands) ∈ history →
    SessionEvent.ended call (.ok value) ∈ history →
      (block history call).filterMap (·.command?) = commands ∧
        ∃ tag last bytes, value = .answer bytes ∧ commands.getLast? = some last ∧
          [.sent call tag last, .answered call tag (.ok bytes)] <:+ dealings history call

section

variable {α : Type} {key : α → Nat}

theorem eq_append_of_least {least : Nat} {items : List α}
    (sorted : items.Pairwise fun first second => key first ≤ key second)
    (lower : ∀ item ∈ items, least ≤ key item) :
    items = items.filter (fun item => key item = least) ++
      items.filter (fun item => key item ≠ least) := by
  induction items with
  | nil => rfl
  | cons item rest ih =>
      rw [List.pairwise_cons] at sorted
      have tail := ih sorted.2 fun other member => lower other (List.mem_cons_of_mem _ member)
      by_cases same : key item = least
      · rw [List.filter_cons_of_pos (by simpa using same),
          List.filter_cons_of_neg (by simpa using same), List.cons_append, ← tail]
      · have above : least < key item :=
          Nat.lt_of_le_of_ne (lower item List.mem_cons_self) (Ne.symm same)
        have apart : ∀ other ∈ item :: rest, key other ≠ least := by
          intro other member
          rcases List.mem_cons.mp member with rfl | later
          · exact same
          · exact Nat.ne_of_gt (Nat.lt_of_lt_of_le above (sorted.1 other later))
        have nothing : (item :: rest).filter (fun item => key item = least) = [] :=
          List.filter_eq_nil_iff.mpr fun other member => by simpa using apart other member
        have all : (item :: rest).filter (fun item => key item ≠ least) = item :: rest :=
          List.filter_eq_self.mpr fun other member => by simpa using apart other member
        rw [nothing, all, List.nil_append]

/-- A list sorted by a key is put together from what has the first key, the second and so on. -/
theorem eq_flatMap_of_sorted {keys : List Nat} {items : List α}
    (unique : keys.Pairwise (· < ·))
    (sorted : items.Pairwise fun first second => key first ≤ key second)
    (within : ∀ item ∈ items, key item ∈ keys) :
    items = keys.flatMap fun k => items.filter fun item => key item = k := by
  induction keys generalizing items with
  | nil =>
      cases items with
      | nil => rfl
      | cons item rest => exact absurd (within item List.mem_cons_self) List.not_mem_nil
  | cons least keys ih =>
      rw [List.pairwise_cons] at unique
      have lower : ∀ item ∈ items, least ≤ key item := by
        intro item member
        rcases List.mem_cons.mp (within item member) with same | later
        · exact Nat.le_of_eq same.symm
        · exact Nat.le_of_lt (unique.1 (key item) later)
      have left : ∀ item ∈ items.filter (fun item => key item ≠ least), key item ∈ keys := by
        intro item member
        obtain ⟨inside, apart⟩ := List.mem_filter.mp member
        exact (List.mem_cons.mp (within item inside)).resolve_left (by simpa using apart)
      have same : ∀ k ∈ keys,
          (items.filter fun item => key item ≠ least).filter (fun item => key item = k) =
            items.filter fun item => key item = k := by
        intro k later
        rw [List.filter_filter]
        refine List.filter_congr fun item _ => ?_
        have apart : k ≠ least := Ne.symm (Nat.ne_of_lt (unique.1 k later))
        by_cases here : key item = k
        · simp [here, apart]
        · simp [here]
      rw [List.flatMap_cons, ← List.flatMap_congr same,
        ← ih unique.2 (sorted.sublist List.filter_sublist) left]
      exact eq_append_of_least sorted lower

end

theorem workers_eq_map (history : List SessionEvent) :
    workers history = (work history).map fun event => event.worker?.getD 0 := by
  induction history with
  | nil => rfl
  | cons event rest ih =>
      unfold workers work at ih ⊢
      cases found : event.worker? with
      | none => simpa [List.filterMap_cons, found] using ih
      | some call => simpa [List.filterMap_cons, found] using ih

theorem filter_work (history : List SessionEvent) (call : CallId) :
    ((work history).filter fun event => event.worker?.getD 0 = call) =
      history.filter fun event => event.worker? = some call := by
  unfold work
  rw [List.filter_filter]
  refine List.filter_congr fun event _ => ?_
  cases event.worker? <;> simp

/-- Each call works in one go, and the calls work in the order in which they asked. -/
theorem Ordered.work_eq {point : Point} {session : Session} (ordered : Ordered point session) :
    work session.history = (requests session.history).flatMap fun call =>
      session.history.filter fun event => event.worker? = some call := by
  have mapped := workers_eq_map session.history
  have sorted := ordered.turns
  rw [mapped, List.pairwise_map] at sorted
  have within : ∀ event ∈ work session.history,
      event.worker?.getD 0 ∈ requests session.history := by
    intro event member
    refine (ordered.worked _ ?_).1
    rw [mapped]
    exact List.mem_map_of_mem member
  have parts := eq_flatMap_of_sorted ordered.sorted sorted within
  simp only [filter_work] at parts
  exact parts

/-- A call that has sent a command has the radio do nothing more for it. -/
def WorkBeforeSending (before : List SessionEvent) (event : SessionEvent) : Prop :=
  ∀ call, event.worker? = some call → event.isSent = false → sentBy before call = []

theorem Reached.workBeforeSending {point : Point} {session : Session}
    (reached : Reached point session) :
    Along WorkBeforeSending [] session.history := by
  refine Reached.along ?_ reached
  intro point session last mid event reached moment call works unsent
  have served := reached.served
  cases event with
  | begun caller bridge prompt =>
      obtain rfl : caller = call := by simpa [SessionEvent.worker?] using works
      obtain ⟨⟨goal, rfl⟩, _, rfl⟩ := moment
      obtain ⟨request, fresh, _⟩ := served.running
      simpa using fresh.sentBy
  | repolled caller bridge =>
      obtain rfl : caller = call := by simpa [SessionEvent.worker?] using works
      obtain ⟨chain, connection, rfl, _, rfl⟩ := moment
      obtain ⟨request, fresh, _⟩ := served.running
      rw [sentBy_append, fresh.sentBy]
      rfl
  | connecting caller bridge tag =>
      obtain rfl : caller = call := by simpa [SessionEvent.worker?] using works
      obtain ⟨goal, tags, rfl, _, rfl⟩ := moment
      obtain ⟨request, fresh, _⟩ := served.running
      rw [sentBy_append, fresh.sentBy]
      rfl
  | sent caller tag command => cases unsent
  | _ => cases works

theorem sentBy_eq (history : List SessionEvent) (call : CallId) :
    sentBy history call = (block history call).filterMap (·.command?) := by
  unfold sentBy dealings block
  rw [List.filterMap_filter, List.filterMap_filter]
  refine List.filterMap_congr fun event _ => ?_
  cases event <;> simp [SessionEvent.concerns, SessionEvent.worker?, SessionEvent.isSent,
    SessionEvent.command?]

theorem block_eq_nil {history : List SessionEvent} {call : CallId}
    (nothing : sentBy history call = []) : block history call = [] := by
  rw [sentBy_eq] at nothing
  refine List.eq_nil_iff_forall_not_mem.mpr fun event member => ?_
  have silent := List.filterMap_eq_nil_iff.mp nothing event member
  have sends := (List.mem_filter.mp member).2
  cases event with
  | sent caller tag command => cases silent
  | _ => simp [SessionEvent.isSent] at sends

/-- The work of a call is its preparations and then its block. -/
theorem filter_worker_eq {history : List SessionEvent}
    (prepared : Along WorkBeforeSending [] history) (call : CallId) :
    (history.filter fun event => event.worker? = some call) =
      preparations history call ++ block history call := by
  induction history using List.reverseRecOn with
  | nil => rfl
  | append_singleton earlier event ih =>
      rw [along_append] at prepared
      obtain ⟨before, now, _⟩ := prepared
      rw [List.nil_append] at now
      have split := ih before
      unfold preparations block at split ⊢
      rw [List.filter_append, List.filter_append, List.filter_append, split]
      by_cases works : event.worker? = some call
      · cases sends : event.isSent with
        | true => simp [works, sends]
        | false =>
            have empty := block_eq_nil (now call works sends)
            unfold block at empty
            simp [works, sends, empty]
      · simp [works]

/-- The holder of the lock if it waits for the answer of a tag. -/
def awaiting (session : Session) : List CallId :=
  match session.place with
  | .transmitting _ => session.lock.holder.toList
  | _ => []

def Point.awaiting (session : Session) (point : Point) : List CallId :=
  match point.worker? with
  | none => session.awaiting
  | some _ => []

variable {point last : Point} {session final : Session}

@[simp] theorem outstanding_append (first second : List SessionEvent) :
    outstanding (first ++ second) = second.foldl SessionEvent.tally (outstanding first) :=
  List.foldl_append

theorem foldl_tally_of_aside {events : List SessionEvent}
    (aside : ∀ event ∈ events, event.isAside = true) (calls : List CallId) :
    events.foldl SessionEvent.tally calls = calls := by
  induction events with
  | nil => rfl
  | cons event rest ih =>
      have stays : event.tally calls = calls := by
        have now := aside event List.mem_cons_self
        cases event <;> first | rfl | cases now
      rw [List.foldl_cons, stays]
      exact ih fun later member => aside later (List.mem_cons_of_mem _ member)

@[simp] theorem tally_hangingUp (session : Session) (farewell : Option String)
    (calls : List CallId) : (session.hangingUp farewell).foldl SessionEvent.tally calls = calls :=
  foldl_tally_of_aside (isAside_hangingUp session farewell) calls

@[simp] theorem tally_granted (next : Option CallId) (calls : List CallId) :
    (next.toList.map .granted).foldl SessionEvent.tally calls = calls :=
  foldl_tally_of_aside (isAside_granted next) calls

@[simp] theorem tally_reporting (session : Session) (bridge : BridgeId) (notice : TagNotice)
    (calls : List CallId) :
    (session.reporting bridge notice).foldl SessionEvent.tally calls = calls :=
  foldl_tally_of_aside (isAside_reporting session bridge notice) calls

theorem awaiting_congr (holder : final.lock.holder = session.lock.holder)
    (stages : ∀ call, session.lock.holder = some call →
      final.stage? call = session.stage? call) : final.awaiting = session.awaiting := by
  unfold Session.awaiting
  rw [place_congr holder stages, holder]

theorem awaiting_of_place {place : Place} (here : session.place = place)
    (idle : ∀ tag, place ≠ .transmitting tag) : session.awaiting = [] := by
  unfold Session.awaiting
  rw [here]
  cases place with
  | transmitting tag => exact absurd rfl (idle tag)
  | _ => rfl

theorem awaiting_parked (call : CallId) (stage : Stage) (held : session.lock.holder = some call)
    (pending : session.stage? call = some stage)
    (idle : ∀ tag, placeOf stage ≠ .transmitting tag) : session.awaiting = [] :=
  awaiting_of_place (place_of_stage held pending) idle

theorem awaiting_transmitting (call : CallId) (tag : Tag) (rest : List Bytes)
    (held : session.lock.holder = some call)
    (pending : session.stage? call = some (.transmitting tag rest)) :
    session.awaiting = [call] := by
  unfold Session.awaiting
  rw [place_of_stage held pending, held]
  rfl

theorem awaiting_erase {call : CallId} (held : session.lock.holder = some call) :
    session.awaiting.erase call = [] := by
  unfold Session.awaiting
  cases session.place with
  | transmitting tag => simp [held]
  | _ => rfl

theorem awaiting_erase_other {call : CallId} (unheld : session.lock.holder ≠ some call) :
    session.awaiting.erase call = session.awaiting := by
  unfold Session.awaiting
  cases session.place with
  | transmitting tag =>
      exact List.erase_of_not_mem fun member => unheld (Option.mem_toList.mp member)
  | _ => rfl

theorem outstanding_answered {call : CallId} {tag : Tag} {rest : List Bytes}
    (lined : Lined .outside session) (told : outstanding session.history = session.awaiting)
    (pending : session.stage? call = some (.transmitting tag rest))
    (answer : Except LinkFault Bytes) :
    outstanding (session.emit (.answered call tag answer)).history = [] := by
  have held := lined.holder_of_stage pending (by simp)
  rw [history_emit, outstanding_append, told, awaiting_transmitting call tag rest held pending]
  simp [SessionEvent.tally]

/-- The history tells who waits for an answer. -/
theorem outstanding_move (lined : Lined point session) (sound : Sound point session)
    (told : outstanding session.history = point.awaiting session)
    (move : Move point session last final) :
    outstanding final.history = last.awaiting final := by
  cases move with
  | ask | refuseRadio | refuseLive | refuseEmpty | alert =>
      exact (outstanding_append _ _).trans told
  | lineStart | lineExchange | lineLook => exact told
  | lineFinish call cause =>
      have same : (session.hangUp (cause.map (·.message))).awaiting = session.awaiting :=
        awaiting_congr (by simp) (by simp)
      rw [history_hangUp, outstanding_append, tally_hangingUp]
      exact told.trans same.symm
  | take call job free =>
      have rests : session.place = .rest := by simp [place, free]
      have quiet : outstanding (session.history ++ [.requested call] ++ [.granted call]) =
          outstanding session.history := by simp [SessionEvent.tally]
      exact quiet.trans (told.trans (awaiting_of_place rests (by simp)))
  | wait call holder job held =>
      have same : ({ session.emit (.requested call) with
          lock := session.lock.request call }.park call (.queued job)).awaiting =
            session.awaiting := by
        refine awaiting_congr (by simp [Lock.request_of_held held]) fun other holds => ?_
        have before := (lined.asker call rfl).2 other (Lock.mem_line.mpr (.inl holds))
        exact (stage?_park _ other call _).trans (if_neg (Nat.ne_of_lt before))
      exact (outstanding_append _ _).trans (told.trans same.symm)
  | turn call job queued handed =>
      exact told.trans (awaiting_parked call _ handed queued (by simp [placeOf]))
  | rested call bridge chain pending | poll call goal bridge pending =>
      exact told.trans (awaiting_parked call _ (lined.holder_of_stage pending (by simp)) pending
        (by simp [placeOf]))
  | reject call goal bridge tag fault pending | desert call goal bridge tag pending closed
  | accept call goal bridge tag pending unclosed =>
      have nobody := told.trans (awaiting_parked call _
        (lined.holder_of_stage pending (by simp)) pending (by simp [placeOf]))
      simpa [SessionEvent.tally, Point.awaiting, Point.worker?] using nobody
  | start call purpose dead =>
      have empty : session.slot = none := sound.coherent.dead dead
      simpa [history_openBridge, empty, SessionEvent.tally, Point.awaiting, Point.worker?]
        using told
  | pause call chain =>
      have empty := sound.slot_of_reopening
      have quiet : outstanding session.history = [] := told
      refine Eq.trans ?_ (awaiting_parked call (.resting session.nextBridge chain)
        (by simpa using lined.worker call rfl) (by simp [stage?_park]) (by simp [placeOf])).symm
      simpa [history_openBridge, empty, SessionEvent.tally] using quiet
  | report bridge notice hears =>
      have same : (session.report bridge notice).awaiting = session.awaiting :=
        awaiting_congr (by simp) (by simp)
      have quiet : outstanding (session.report bridge notice).history =
          outstanding session.history := by simp
      rw [quiet, told]
      unfold Point.awaiting
      split
      · exact same.symm
      · rfl
  | pend call goal bridge found here nothing =>
      have quiet : outstanding session.history = [] := told
      refine Eq.trans ?_ (awaiting_parked call (.detecting goal bridge)
        (by simpa using lined.worker call rfl) (by simp [stage?_park]) (by simp [placeOf])).symm
      simpa using quiet
  | pick call goal bridge found here tags polled tag wallet =>
      have quiet : outstanding session.history = [] := told
      refine Eq.trans ?_ (awaiting_parked call (.connecting goal bridge tag)
        (by simpa using lined.worker call rfl) (by simp [stage?_park]) (by simp [placeOf])).symm
      simpa [SessionEvent.tally] using quiet
  | send call tag chain =>
      have quiet : outstanding session.history = [] := told
      refine Eq.trans ?_ (awaiting_transmitting call tag chain.rest
        (by simpa using lined.worker call rfl) (by simp [Session.send, stage?_park])).symm
      simp [quiet, SessionEvent.tally]
  | answerLost call tag rest fault pending =>
      exact outstanding_answered lined told pending _
  | answerShort call tag rest bytes fault pending short =>
      exact outstanding_answered lined told pending _
  | answerLast call tag bytes response pending read =>
      exact outstanding_answered lined told pending _
  | answerFault call tag chain bytes response fault pending read failed =>
      exact outstanding_answered lined told pending _
  | answerNext call tag chain bytes response pending read succeeded =>
      exact outstanding_answered lined told pending _
  | leave call outcome =>
      have rests : (session.conclude call outcome).place = .rest :=
        lined.place_release (lined.worker call rfl) (by simp) (by simp)
      have quiet : outstanding session.history = [] := told
      refine Eq.trans ?_ (awaiting_of_place rests (by simp)).symm
      simpa [SessionEvent.tally] using quiet
  | dropHanded call job queued handed =>
      have rests : ((session.release.forget call).emit (.dropped call)).place = .rest :=
        lined.place_release handed (by simp) (by simp [stage?_forget])
      have waits : outstanding session.history = session.awaiting := told
      refine Eq.trans ?_ (awaiting_of_place rests (by simp)).symm
      simp [waits, SessionEvent.tally, awaiting_erase handed]
  | dropWaiting call job queued waiting =>
      have waits : outstanding session.history = session.awaiting := told
      have same : (({ session with lock := session.lock.leave call }.forget call).emit
          (.dropped call)).awaiting = session.awaiting := by
        refine awaiting_congr (by simp) fun other held => ?_
        have apart : other ≠ call := by
          rintro rfl
          exact waiting held
        exact (stage?_forget _ other call).trans (if_neg apart)
      refine Eq.trans ?_ same.symm
      simp [waits, SessionEvent.tally, awaiting_erase_other waiting]
  | dropHolder call stage pending working =>
      have held := lined.holder_of_stage pending working
      have rests : (((session.shutDown none).release.forget call).emit (.dropped call)).place =
          .rest := lined.place_release held (by simp) (by simp [stage?_forget])
      have waits : outstanding session.history = session.awaiting := told
      refine Eq.trans ?_ (awaiting_of_place rests (by simp)).symm
      simp [waits, SessionEvent.tally, awaiting_erase held]
  | restart call chain bridge connection ready now aged =>
      simpa [Point.awaiting, Point.worker?] using told
  | finish | fail =>
      simpa [Point.awaiting, Point.worker?] using told
  | _ => exact (by simp [SessionEvent.tally, connect, reconnect] :
      outstanding _ = outstanding session.history).trans told

theorem Reached.outstanding (reached : Reached point session) :
    outstanding session.history = point.awaiting session :=
  reached.induction (fun _ => rfl) fun _ _ _ _ before told move =>
    outstanding_move before.lined before.sound told move

/-- A command is handed to a tag only while nobody waits for an answer. -/
def SendsOneAtATime (before : List SessionEvent) (event : SessionEvent) : Prop :=
  event.isSent = true → Session.outstanding before = []

theorem Reached.sendsOneAtATime (reached : Reached point session) :
    Along SendsOneAtATime [] session.history := by
  refine Reached.along ?_ reached
  intro point session last mid event reached moment sends
  cases event with
  | sent call tag command =>
      obtain ⟨chain, rfl, _, rfl⟩ := moment
      rw [List.append_nil]
      exact reached.outstanding
  | _ => cases sends

theorem outstanding_le_one {history : List SessionEvent}
    (alone : Along SendsOneAtATime [] history) : (Session.outstanding history).length ≤ 1 := by
  induction history using List.reverseRecOn with
  | nil => exact Nat.zero_le 1
  | append_singleton earlier event ih =>
      rw [along_append] at alone
      obtain ⟨before, now, _⟩ := alone
      rw [List.nil_append] at now
      rw [outstanding_append]
      cases event with
      | sent call tag command => simp [now rfl, SessionEvent.tally]
      | answered call tag answer | dropped call =>
          exact Nat.le_trans List.length_erase_le (ih before)
      | _ => exact ih before

theorem SendsOwnCommands.exchange {history : List SessionEvent} {call : CallId}
    (fair : SendsOwnCommands history call) (sent : sentBy history call ≠ []) :
    ∃ commands, SessionEvent.called call (.exchange commands) ∈ history := by
  rcases fair with nothing | ⟨request, only, own⟩
  · unfold sentBy at sent
    rw [nothing] at sent
    exact absurd rfl sent
  · cases request with
    | exchange commands =>
        exact ⟨commands, called_mem.mpr (by rw [only]; exact List.mem_singleton_self _)⟩
    | start purpose | finish cause | look =>
        exact absurd (List.prefix_nil.mp own) sent

theorem getLast?_sentBy {history : List SessionEvent} {call : CallId} {tag : Tag} {last : Bytes}
    {bytes : Bytes}
    (ends : [.sent call tag last, .answered call tag (.ok bytes)] <:+ dealings history call) :
    (sentBy history call).getLast? = some last := by
  obtain ⟨earlier, told⟩ := ends
  unfold sentBy
  rw [← told, List.filterMap_append]
  simp [SessionEvent.command?]

/-- Along every run exchanges are serialized, contiguous and answered by the right tag. -/
theorem run_exchanges_serialized (policy : Policy) (stimuli : List Stimulus) :
    ExchangesSerialized ((initial policy).run stimuli).history := by
  have reached := Reached.run policy stimuli
  have fair := reached.served.fair
  refine ⟨?_, ?_, ?_, ?_, ?_, ?_⟩
  · rintro before ⟨after, told⟩
    have alone := reached.sendsOneAtATime
    rw [← told, along_append] at alone
    exact outstanding_le_one alone.1
  · exact reached.ordered.sorted.imp fun below => Nat.ne_of_lt below
  · rw [reached.ordered.work_eq]
    exact List.flatMap_congr fun call _ => filter_worker_eq reached.workBeforeSending call
  · intro call request made
    rw [← sentBy_eq]
    exact ((fair call).own made).2
  · intro call sends
    exact (fair call).exchange fun nothing => sends (block_eq_nil nothing)
  · intro call commands value made returned
    obtain ⟨request, only, fulfils⟩ := reached.fulfilled returned
    have same := ((fair call).own made).1
    rw [only, List.singleton_inj] at same
    subst same
    cases value with
    | answer bytes =>
        obtain ⟨all, tag, last, ends⟩ := fulfils
        refine ⟨(sentBy_eq _ call).symm.trans all, tag, last, bytes, rfl, ?_, ends⟩
        rw [← all]
        exact getLast?_sentBy ends
    | done | snapshot view => cases fulfils

end Session

end Contactless
