import Contactless.Proofs.Session.Record

set_option autoImplicit false

namespace Contactless

def Request.commands : Request → List Bytes
  | .exchange commands => commands
  | _ => []

/-- The job is the part of the request that is done under the lock. -/
def Job.Serves : Job → Request → Prop
  | .start purpose, .start asked => purpose = asked
  | .finish farewell, .finish cause => farewell = cause.map (·.message)
  | .exchange chain, .exchange commands => chain.toList = commands
  | .look, .look => True
  | _, _ => False

def Request.job? : Request → Option Job
  | .start purpose => some (.start purpose)
  | .finish cause => some (.finish (cause.map (·.message)))
  | .exchange commands => (Chain.ofList? commands).map .exchange
  | .look => some .look

theorem Job.Serves.job? {job : Job} {request : Request} (serves : job.Serves request) :
    request.job? = some job := by
  cases job <;> cases request <;> cases serves <;> rfl

theorem Request.eq_start {request : Request} {purpose : Purpose}
    (job : request.job? = some (.start purpose)) : request = .start purpose := by
  cases request with
  | start asked => simpa [Request.job?] using job
  | exchange commands => simp [Request.job?] at job
  | finish cause | look => cases job

theorem Request.eq_exchange {request : Request} {chain : Chain}
    (job : request.job? = some (.exchange chain)) : request = .exchange chain.toList := by
  cases request with
  | exchange commands =>
      have found : Chain.ofList? commands = some chain := by simpa [Request.job?] using job
      rw [Chain.toList_of_ofList? found]
  | start purpose | finish cause | look => cases job

def Goal.Serves : Goal → Request → Prop
  | .start, .start _ => True
  | .restart chain, .exchange commands => chain.toList = commands
  | .renew chain, .exchange commands => chain.toList = commands
  | _, _ => False

namespace SessionEvent

/-- Whether the event is the making of a call, a command that it sends or the answer to one. -/
def concerns (call : CallId) : SessionEvent → Bool
  | .called caller _ | .sent caller _ _ | .answered caller _ _ => caller == call
  | _ => false

def request? : SessionEvent → Option Request
  | .called _ request => some request
  | _ => none

def command? : SessionEvent → Option Bytes
  | .sent _ _ command => some command
  | _ => none

def leaver? : SessionEvent → Option CallId
  | .ended call _ | .dropped call => some call
  | _ => none

end SessionEvent

namespace Session

/-- What the history tells of the dealings between a call and the tags. -/
def dealings (history : List SessionEvent) (call : CallId) : List SessionEvent :=
  history.filter (·.concerns call)

def asked (history : List SessionEvent) (call : CallId) : List Request :=
  (dealings history call).filterMap (·.request?)

def sentBy (history : List SessionEvent) (call : CallId) : List Bytes :=
  (dealings history call).filterMap (·.command?)

/-- The call was made, and nothing was sent for it yet. -/
def Fresh (history : List SessionEvent) (call : CallId) (request : Request) : Prop :=
  dealings history call = [.called call request]

/-- The call is an exchange with these commands left to send. -/
def Owes (history : List SessionEvent) (call : CallId) (rest : List Bytes) : Prop :=
  asked history call = [.exchange (sentBy history call ++ rest)]

/-- The last that was done for the call is a command that the tag has not answered. -/
def Awaits (history : List SessionEvent) (call : CallId) (tag : Tag) : Prop :=
  ∃ command, [.sent call tag command] <:+ dealings history call

def Fulfils (history : List SessionEvent) (call : CallId) : Request → Value → Prop
  | .start _, .done | .finish _, .done | .look, .snapshot _ => True
  | .exchange commands, .answer bytes =>
    sentBy history call = commands ∧
      ∃ tag last, [.sent call tag last, .answered call tag (.ok bytes)] <:+ dealings history call
  | _, _ => False

/-- Nothing but commands of its one request was sent for a call, in their order. -/
def SendsOwnCommands (history : List SessionEvent) (call : CallId) : Prop :=
  dealings history call = [] ∨
    ∃ request, asked history call = [request] ∧ sentBy history call <+: request.commands

end Session

/-- A call that waits at the stage waits there for its request. -/
def Stage.Serves (history : List SessionEvent) (call : CallId) : Stage → Prop
  | .queued job => ∃ request, Session.Fresh history call request ∧ job.Serves request
  | .detecting goal _ | .connecting goal _ _ =>
    ∃ request, Session.Fresh history call request ∧ goal.Serves request
  | .resting _ chain => Session.Fresh history call (.exchange chain.toList)
  | .transmitting tag rest => Session.Owes history call rest ∧ Session.Awaits history call tag

namespace Session

def Point.Serves (history : List SessionEvent) : Point → Prop
  | .outside | .failing _ _ | .leaving _ (.error _) => True
  | .asking call request => Fresh history call request
  | .lining call job | .holding call job =>
    ∃ request, Fresh history call request ∧ job.Serves request
  | .beginning call goal _ _ | .tuning call goal _ | .polling call goal _
  | .attaching call goal _ _ => ∃ request, Fresh history call request ∧ goal.Serves request
  | .repolling call chain _ | .reopening call chain =>
    Fresh history call (.exchange chain.toList)
  | .sending call _ chain => Owes history call chain.toList
  | .leaving call (.ok value) =>
    ∃ request, asked history call = [request] ∧ Fulfils history call request value

/-- All pending calls are served. The stage of the running call is an old one. -/
structure Served (point : Point) (session : Session) : Prop where
  fair : ∀ call, SendsOwnCommands session.history call
  later : ∀ call, session.issued ≤ call → dealings session.history call = []
  stage : ∀ call stage, session.stage? call = some stage → point.worker? ≠ some call →
    stage.Serves session.history call
  running : point.Serves session.history

variable {point last : Point} {session final : Session} {history after : List SessionEvent}
  {call : CallId}

@[simp] theorem dealings_nil (call : CallId) : dealings [] call = [] := rfl

@[simp] theorem dealings_append (first second : List SessionEvent) (call : CallId) :
    dealings (first ++ second) call = dealings first call ++ dealings second call :=
  List.filter_append ..

@[simp] theorem dealings_cons (event : SessionEvent) (rest : List SessionEvent)
    (call : CallId) :
    dealings (event :: rest) call =
      if event.concerns call then event :: dealings rest call else dealings rest call := by
  simp [dealings, List.filter_cons]

theorem concerns_of_aside (call : CallId) (event : SessionEvent) (aside : event.isAside = true) :
    event.concerns call = false := by
  cases event <;> first | rfl | cases aside

@[simp] theorem dealings_hangingUp (session : Session) (farewell : Option String)
    (call : CallId) : dealings (session.hangingUp farewell) call = [] :=
  filter_of_aside (concerns_of_aside call) (isAside_hangingUp session farewell)

@[simp] theorem dealings_granted (next : Option CallId) (call : CallId) :
    dealings (next.toList.map .granted) call = [] :=
  filter_of_aside (concerns_of_aside call) (isAside_granted next)

@[simp] theorem dealings_reporting (session : Session) (bridge : BridgeId) (notice : TagNotice)
    (call : CallId) : dealings (session.reporting bridge notice) call = [] :=
  filter_of_aside (concerns_of_aside call) (isAside_reporting session bridge notice)

section

variable (same : dealings after call = dealings history call)

include same

theorem asked_congr : asked after call = asked history call := by
  unfold asked
  rw [same]

theorem sentBy_congr : sentBy after call = sentBy history call := by
  unfold sentBy
  rw [same]

theorem SendsOwnCommands.congr (fair : SendsOwnCommands history call) :
    SendsOwnCommands after call := by
  unfold SendsOwnCommands at fair ⊢
  rw [same, asked_congr same, sentBy_congr same]
  exact fair

theorem Fresh.congr {request : Request} (fresh : Fresh history call request) :
    Fresh after call request := by
  unfold Fresh at fresh ⊢
  rw [same]
  exact fresh

theorem Owes.congr {rest : List Bytes} (owes : Owes history call rest) :
    Owes after call rest := by
  unfold Owes at owes ⊢
  rw [asked_congr same, sentBy_congr same]
  exact owes

theorem Fulfils.congr {request : Request} {value : Value}
    (fulfils : Fulfils history call request value) : Fulfils after call request value := by
  cases request <;> cases value <;> try exact fulfils
  obtain ⟨all, answered⟩ := fulfils
  refine ⟨(sentBy_congr same).trans all, ?_⟩
  rw [same]
  exact answered

theorem Awaits.congr {tag : Tag} (awaits : Awaits history call tag) : Awaits after call tag := by
  unfold Awaits at awaits ⊢
  rw [same]
  exact awaits

theorem serves_congr {stage : Stage} (serves : stage.Serves history call) :
    stage.Serves after call := by
  cases stage with
  | queued job | detecting goal bridge | connecting goal bridge tag =>
      obtain ⟨request, fresh, made⟩ := serves
      exact ⟨request, fresh.congr same, made⟩
  | resting bridge chain => exact Fresh.congr same serves
  | transmitting tag rest => exact ⟨serves.1.congr same, serves.2.congr same⟩

end

theorem Point.Serves.congr (same : ∀ call, dealings after call = dealings history call)
    (serves : point.Serves history) : point.Serves after := by
  cases point with
  | outside | failing call error => trivial
  | asking call request => exact Fresh.congr (same call) serves
  | lining call job | holding call job | beginning call goal | tuning call goal
  | polling call goal | attaching call goal =>
      obtain ⟨request, fresh, made⟩ := serves
      exact ⟨request, fresh.congr (same call), made⟩
  | repolling call chain bridge | reopening call chain => exact Fresh.congr (same call) serves
  | sending call tag chain => exact Owes.congr (same call) serves
  | leaving call outcome =>
      cases outcome with
      | error error => trivial
      | ok value =>
          obtain ⟨request, made, fulfils⟩ := serves
          exact ⟨request, (asked_congr (same call)).trans made, fulfils.congr (same call)⟩

theorem Fresh.asked {request : Request} (fresh : Fresh history call request) :
    asked history call = [request] := by
  unfold Session.asked
  rw [fresh]
  rfl

theorem Fresh.sentBy {request : Request} (fresh : Fresh history call request) :
    sentBy history call = [] := by
  unfold Session.sentBy
  rw [fresh]
  rfl

theorem Fresh.owes {commands : List Bytes} (fresh : Fresh history call (.exchange commands)) :
    Owes history call commands := by
  unfold Owes
  rw [fresh.asked, fresh.sentBy]
  rfl

theorem eq_of_serves_exchange {request : Request} {chain : Chain}
    (serves : Job.Serves (.exchange chain) request) : request = .exchange chain.toList := by
  cases request with
  | exchange commands =>
      have same : chain.toList = commands := serves
      rw [same]
  | start purpose | finish cause | look => cases serves

theorem eq_of_serves_chain {goal : Goal} {request : Request} {chain : Chain}
    (made : goal = .restart chain ∨ goal = .renew chain) (serves : goal.Serves request) :
    request = .exchange chain.toList := by
  rcases made with rfl | rfl
  all_goals
    cases request with
    | exchange commands =>
        have same : chain.toList = commands := serves
        rw [same]
    | start purpose | finish cause | look => cases serves

theorem called_mem {history : List SessionEvent} {call : CallId} {request : Request} :
    SessionEvent.called call request ∈ history ↔ request ∈ asked history call := by
  unfold asked dealings
  constructor
  · intro made
    refine List.mem_filterMap.mpr ⟨_, List.mem_filter.mpr ⟨made, ?_⟩, rfl⟩
    simp [SessionEvent.concerns]
  · intro member
    obtain ⟨event, found, named⟩ := List.mem_filterMap.mp member
    obtain ⟨recorded, about⟩ := List.mem_filter.mp found
    cases event with
    | called caller other =>
        obtain rfl : caller = call := by simpa [SessionEvent.concerns] using about
        obtain rfl : other = request := by simpa [SessionEvent.request?] using named
        exact recorded
    | _ => simp [SessionEvent.request?] at named

theorem SendsOwnCommands.own {history : List SessionEvent} {call : CallId} {request : Request}
    (fair : SendsOwnCommands history call) (made : SessionEvent.called call request ∈ history) :
    asked history call = [request] ∧ sentBy history call <+: request.commands := by
  rw [called_mem] at made
  rcases fair with nothing | ⟨other, only, sent⟩
  · unfold asked at made
    rw [nothing] at made
    cases made
  · rw [only, List.mem_singleton] at made
    rw [made]
    exact ⟨only, sent⟩

theorem asked_of_prefix {before after : List SessionEvent} {request : Request}
    (made : asked before call = [request]) (fair : SendsOwnCommands after call)
    (grows : before <+: after) :
    asked after call = [request] := by
  have member : SessionEvent.called call request ∈ after :=
    grows.subset (called_mem.mpr (by rw [made]; exact List.mem_singleton_self _))
  exact (fair.own member).1

/-- A move in which one call acts. -/
theorem Served.act (served : Served point session) (call : CallId)
    (others : ∀ other, other ≠ call →
      dealings final.history other = dealings session.history other)
    (stages : ∀ other, other ≠ call → final.stage? other = session.stage? other)
    (idle : point.worker? = none ∨ point.worker? = some call)
    (issued : session.issued ≤ final.issued)
    (fair : SendsOwnCommands final.history call)
    (later : final.issued ≤ call → dealings final.history call = [])
    (stage : ∀ stage, final.stage? call = some stage → last.worker? ≠ some call →
      stage.Serves final.history call)
    (running : last.Serves final.history) : Served last final := by
  refine ⟨?_, ?_, ?_, running⟩
  · intro other
    by_cases same : other = call
    · rw [same]
      exact fair
    · exact (served.fair other).congr (others other same)
  · intro other beyond
    by_cases same : other = call
    · rw [same] at beyond ⊢
      exact later beyond
    · rw [others other same]
      exact served.later other (Nat.le_trans issued beyond)
  · intro other place pending apart
    by_cases same : other = call
    · rw [same] at pending apart ⊢
      exact stage place pending apart
    · rw [stages other same] at pending
      refine serves_congr (others other same) (served.stage other place pending ?_)
      rcases idle with nobody | alone
      · simp [nobody]
      · simpa [alone] using Ne.symm same

theorem Served.quiet (served : Served point session) (call : CallId)
    (same : ∀ other, dealings final.history other = dealings session.history other)
    (stages : ∀ other, other ≠ call → final.stage? other = session.stage? other)
    (idle : point.worker? = none ∨ point.worker? = some call)
    (issued : final.issued = session.issued)
    (stage : ∀ stage, final.stage? call = some stage → last.worker? ≠ some call →
      stage.Serves session.history call)
    (running : last.Serves session.history) : Served last final := by
  refine served.act call (fun other _ => same other) stages idle (Nat.le_of_eq issued.symm)
    ((served.fair call).congr (same call)) ?_ ?_ (running.congr same)
  · intro beyond
    rw [issued] at beyond
    rw [same]
    exact served.later call beyond
  · exact fun place pending apart => serves_congr (same call) (stage place pending apart)

theorem asked_append (first second : List SessionEvent) (call : CallId) :
    asked (first ++ second) call = asked first call ++ asked second call := by
  simp [asked]

theorem sentBy_append (first second : List SessionEvent) (call : CallId) :
    sentBy (first ++ second) call = sentBy first call ++ sentBy second call := by
  simp [sentBy]

theorem sentBy_sent (history : List SessionEvent) (call : CallId) (tag : Tag) (command : Bytes) :
    sentBy (history ++ [.sent call tag command]) call = sentBy history call ++ [command] := by
  rw [sentBy_append]
  simp [sentBy, SessionEvent.concerns, SessionEvent.command?]

theorem asked_sent (call : CallId) (tag : Tag) (command : Bytes) :
    asked (history ++ [.sent call tag command]) call = asked history call := by
  rw [asked_append]
  simp [asked, SessionEvent.concerns, SessionEvent.request?]

theorem sentBy_answered (call : CallId) (tag : Tag) (answer : Except LinkFault Bytes) :
    sentBy (history ++ [.answered call tag answer]) call = sentBy history call := by
  rw [sentBy_append]
  simp [sentBy, SessionEvent.concerns, SessionEvent.command?]

theorem asked_answered (call : CallId) (tag : Tag) (answer : Except LinkFault Bytes) :
    asked (history ++ [.answered call tag answer]) call = asked history call := by
  rw [asked_append]
  simp [asked, SessionEvent.concerns, SessionEvent.request?]

theorem Owes.sent {chain : Chain} (owes : Owes history call chain.toList) (tag : Tag) :
    Owes (history ++ [.sent call tag chain.first]) call chain.rest ∧
      Awaits (history ++ [.sent call tag chain.first]) call tag ∧
      SendsOwnCommands (history ++ [.sent call tag chain.first]) call := by
  have stays := (asked_sent call tag chain.first).trans owes
  have grown := sentBy_sent history call tag chain.first
  have split : sentBy history call ++ chain.toList =
      (sentBy history call ++ [chain.first]) ++ chain.rest := by simp [Chain.toList]
  refine ⟨?_, ⟨chain.first, ?_⟩, .inr ⟨_, stays, ?_⟩⟩
  · unfold Owes
    rw [stays, grown, split]
  · simp [SessionEvent.concerns]
  · rw [grown]
    exact ⟨chain.rest, split.symm⟩

theorem Owes.answered {tag : Tag} {rest : List Bytes} (owes : Owes history call rest)
    (answer : Except LinkFault Bytes) :
    Owes (history ++ [.answered call tag answer]) call rest := by
  unfold Owes at owes ⊢
  rw [asked_answered, sentBy_answered]
  exact owes

theorem SendsOwnCommands.answered {tag : Tag} {rest : List Bytes} (owes : Owes history call rest)
    (answer : Except LinkFault Bytes) :
    SendsOwnCommands (history ++ [.answered call tag answer]) call := by
  refine .inr ⟨_, (asked_answered call tag answer).trans owes, ?_⟩
  rw [sentBy_answered]
  exact ⟨rest, rfl⟩

theorem Owes.fulfils {tag : Tag} (owes : Owes history call []) (awaits : Awaits history call tag)
    (bytes : Bytes) :
    ∃ request, asked (history ++ [.answered call tag (.ok bytes)]) call = [request] ∧
      Fulfils (history ++ [.answered call tag (.ok bytes)]) call request (.answer bytes) := by
  obtain ⟨last, before, dealt⟩ := awaits
  refine ⟨_, (asked_answered call tag (.ok bytes)).trans owes, ?_, tag, last, before, ?_⟩
  · rw [sentBy_answered, List.append_nil]
  · rw [dealings_append, ← dealt]
    simp [SessionEvent.concerns]

theorem fresh_called {request : Request} (unknown : dealings history call = []) :
    Fresh (history ++ [.called call request]) call request := by
  unfold Fresh
  simp [unknown, SessionEvent.concerns]

theorem Fresh.fair {request : Request} (fresh : Fresh history call request) :
    SendsOwnCommands history call :=
  .inr ⟨request, fresh.asked, by rw [fresh.sentBy]; exact List.nil_prefix⟩

theorem dealings_other {event : SessionEvent} {other : CallId} (apart : other ≠ call)
    (about : event.concerns other = true → call = other) :
    dealings (history ++ [event]) other = dealings history other := by
  have elsewhere : event.concerns other = false := by
    cases concerned : event.concerns other with
    | false => rfl
    | true => exact absurd (about concerned).symm apart
  simp [elsewhere]

theorem Served.ask (lined : Lined .outside session) (served : Served .outside session)
    (request : Request) :
    Served (.asking session.issued request)
      ({ session with issued := session.issued + 1 }.emit (.called session.issued request)) := by
  have fresh : Fresh (session.history ++ [.called session.issued request]) session.issued request :=
    fresh_called (served.later _ (Nat.le_refl _))
  refine served.act session.issued ?_ (fun _ _ => rfl) (.inl rfl) (Nat.le_succ _) fresh.fair
    ?_ ?_ fresh
  · intro other apart
    exact dealings_other apart (by simp [SessionEvent.concerns])
  · intro beyond
    exact absurd beyond (Nat.not_succ_le_self session.issued)
  · intro stage pending _
    have before := lined.issued _ (lined.pending session.issued stage pending)
    exact absurd before (Nat.lt_irrefl session.issued)

theorem Served.send {tag : Tag} {chain : Chain}
    (lined : Lined (.sending call tag chain) session)
    (served : Served (.sending call tag chain) session) :
    Served .outside (session.send call tag chain) := by
  obtain ⟨owes, awaits, fair⟩ := Owes.sent served.running tag
  have held := Lock.mem_line.mpr (.inl (lined.worker call rfl))
  refine served.act call ?_ ?_ (.inr rfl) (by simp) (by simpa using fair) ?_
    ?_ trivial
  · intro other apart
    simp only [send_fields]
    exact dealings_other apart (by simp [SessionEvent.concerns])
  · intro other apart
    simp [Session.send, stage?_park, apart]
  · intro beyond
    exact absurd (lined.issued call held) (Nat.not_lt.mpr beyond)
  · intro stage pending _
    obtain rfl : .transmitting tag chain.rest = stage := by
      simpa [Session.send, stage?_park] using pending
    exact ⟨by simpa using owes, by simpa using awaits⟩

theorem Served.answer {tag : Tag} {rest : List Bytes} (lined : Lined .outside session)
    (served : Served .outside session)
    (transmitting : session.stage? call = some (.transmitting tag rest))
    (answer : Except LinkFault Bytes) (working : last.worker? = some call)
    (running : Owes session.history call rest → Awaits session.history call tag →
      last.Serves (session.history ++ [.answered call tag answer])) :
    Served last (session.emit (.answered call tag answer)) := by
  obtain ⟨owes, awaits⟩ := served.stage call _ transmitting (by simp [Point.worker?])
  refine served.act call ?_ (fun _ _ => rfl) (.inl rfl) (Nat.le_refl _)
    (SendsOwnCommands.answered owes answer) ?_ ?_ (running owes awaits)
  · intro other apart
    exact dealings_other apart (by simp [SessionEvent.concerns])
  · intro beyond
    have before := lined.issued call (lined.pending call _ transmitting)
    exact absurd before (Nat.not_lt.mpr beyond)
  · intro stage _ idle
    exact absurd working idle

theorem Served.work (served : Served point session)
    (working : last.worker? = some call)
    (idle : point.worker? = none ∨ point.worker? = some call)
    (same : ∀ other, dealings final.history other = dealings session.history other)
    (stages : ∀ other, final.stage? other = session.stage? other)
    (issued : final.issued = session.issued)
    (running : last.Serves session.history) : Served last final :=
  served.quiet call same (fun other _ => stages other) idle issued
    (fun _ _ apart => absurd working apart) running

theorem Served.pass (served : Served point session) (nobody : point.worker? = none)
    (same : ∀ other, dealings final.history other = dealings session.history other)
    (stages : ∀ other, final.stage? other = session.stage? other)
    (issued : final.issued = session.issued) (running : last.Serves session.history) :
    Served last final := by
  refine served.quiet 0 same (fun other _ => stages other) (.inl nobody) issued ?_ running
  intro stage pending _
  rw [stages] at pending
  exact served.stage 0 stage pending (by simp [nobody])

theorem Served.leave (served : Served point session) (call : CallId)
    (idle : point.worker? = none ∨ point.worker? = some call)
    (same : ∀ other, dealings final.history other = dealings session.history other)
    (stages : ∀ other, final.stage? other =
      if other = call then none else session.stage? other)
    (issued : final.issued = session.issued) : Served .outside final := by
  refine served.quiet call same ?_ idle issued ?_ trivial
  · intro other apart
    rw [stages, if_neg apart]
  · intro stage pending _
    rw [stages, if_pos rfl] at pending
    cases pending

theorem Served.park (served : Served point session) (call : CallId) (stage : Stage)
    (idle : point.worker? = none ∨ point.worker? = some call)
    (same : ∀ other, dealings final.history other = dealings session.history other)
    (stages : ∀ other, final.stage? other =
      if other = call then some stage else session.stage? other)
    (issued : final.issued = session.issued) (serves : stage.Serves session.history call) :
    Served .outside final := by
  refine served.quiet call same ?_ idle issued ?_ trivial
  · intro other apart
    rw [stages, if_neg apart]
  · intro place pending _
    rw [stages, if_pos rfl, Option.some.injEq] at pending
    rw [← pending]
    exact serves

theorem Served.report (served : Served point session) (bridge : BridgeId) (notice : TagNotice) :
    Served point (session.report bridge notice) := by
  have same : ∀ other, dealings (session.report bridge notice).history other =
      dealings session.history other := by simp
  have stages : ∀ other, (session.report bridge notice).stage? other = session.stage? other := by
    simp
  cases working : point.worker? with
  | none => exact served.pass working same stages (by simp) served.running
  | some call => exact served.work working (.inr working) same stages (by simp) served.running

/-- Every move serves the calls. -/
theorem Served.move (lined : Lined point session) (sound : Sound point session)
    (served : Served point session)
    (move : Move point session last final) : Served last final := by
  have running := served.running
  have waits : ∀ {call : CallId} {stage : Stage}, point = .outside →
      session.stage? call = some stage → stage.Serves session.history call := by
    rintro call stage rfl pending
    exact served.stage call stage pending (by simp [Point.worker?])
  cases move with
  | ask request => exact served.ask lined request
  | refuseRadio | refuseLive | refuseEmpty | alert =>
      exact served.pass rfl (by simp [SessionEvent.concerns]) (fun _ => rfl) rfl trivial
  | lineStart call purpose dead =>
      exact served.pass rfl (fun _ => rfl) (fun _ => rfl) rfl ⟨_, running, rfl⟩
  | lineFinish call cause =>
      exact served.pass rfl (by simp) (by simp) (by simp) ⟨_, running, rfl⟩
  | lineExchange call chain =>
      exact served.pass rfl (fun _ => rfl) (fun _ => rfl) rfl ⟨_, running, rfl⟩
  | lineLook call =>
      exact served.pass rfl (fun _ => rfl) (fun _ => rfl) rfl ⟨_, running, trivial⟩
  | take call job free =>
      exact served.pass rfl (by simp [SessionEvent.concerns]) (fun _ => rfl) rfl running
  | wait call holder job held =>
      exact served.park call (.queued job) (.inl rfl) (by simp [SessionEvent.concerns])
        (fun other => stage?_park _ other call _) (by simp) running
  | turn call job queued handed =>
      exact served.work rfl (.inl rfl) (fun _ => rfl) (fun _ => rfl) rfl (waits rfl queued)
  | deny | unconnected | stale | unattached | tooLate | lost =>
      exact served.work rfl (.inr rfl) (fun _ => rfl) (fun _ => rfl) rfl trivial
  | start call purpose dead =>
      obtain ⟨request, fresh, made⟩ := running
      have empty : session.slot = none := sound.coherent.dead dead
      have goal : Goal.start.Serves request := by
        cases request with
        | start asked => trivial
        | finish cause | exchange commands | look => cases made
      exact served.work rfl (.inr rfl) (by simp [history_openBridge, empty, SessionEvent.concerns])
        (fun other => stage?_openBridge _ other) (by simp) ⟨request, fresh, goal⟩
  | finish call farewell =>
      obtain ⟨request, fresh, made⟩ := running
      have fulfils : Fulfils session.history call request .done := by
        cases request with
        | finish cause => trivial
        | start purpose | exchange commands | look => cases made
      exact served.work rfl (.inr rfl) (by simp) (by simp) (by simp) ⟨request, fresh.asked, fulfils⟩
  | look call =>
      obtain ⟨request, fresh, made⟩ := running
      have fulfils : Fulfils session.history call request (.snapshot session.view) := by
        cases request with
        | look => trivial
        | start purpose | finish cause | exchange commands => cases made
      exact served.work rfl (.inr rfl) (fun _ => rfl) (fun _ => rfl) rfl
        ⟨request, fresh.asked, fulfils⟩
  | interrupted call chain bridge found reason connected held here unclosed unread =>
      exact served.work rfl (.inr rfl) (by simp) (fun _ => rfl) (by simp) trivial
  | keep call chain bridge connection ready now fresh =>
      obtain ⟨request, fresh, made⟩ := running
      rw [eq_of_serves_exchange made] at fresh
      exact served.work rfl (.inr rfl) (fun _ => rfl) (fun _ => rfl) rfl fresh.owes
  | renew call chain bridge connection ready now old =>
      obtain ⟨request, fresh, made⟩ := running
      rw [eq_of_serves_exchange made] at fresh
      exact served.work rfl (.inr rfl) (by simp [SessionEvent.concerns]) (fun _ => rfl) (by simp)
        fresh
  | restart call chain bridge connection ready now aged =>
      obtain ⟨request, fresh, made⟩ := running
      rw [eq_of_serves_exchange made] at fresh
      exact served.work rfl (.inr rfl) (by simp) (fun other => stage?_hangUp _ none other)
        (by simp) fresh
  | pause call chain =>
      have empty := sound.slot_of_reopening
      exact served.park call (.resting session.nextBridge chain) (.inr rfl)
        (by simp [history_openBridge, empty, SessionEvent.concerns]) (by simp [stage?_park])
        (by simp) running
  | rested call bridge chain resting =>
      exact served.work rfl (.inl rfl) (fun _ => rfl) (fun _ => rfl) rfl
        ⟨_, waits rfl resting, rfl⟩
  | begin | begun =>
      exact served.work rfl (.inr rfl) (by simp [SessionEvent.concerns]) (fun _ => rfl) rfl running
  | report bridge notice hears =>
      exact served.report bridge notice
  | beginRefused | beginCut =>
      exact served.work rfl (.inr rfl) (by simp [SessionEvent.concerns]) (fun _ => rfl) rfl trivial
  | repolled call chain bridge =>
      exact served.work rfl (.inr rfl) (fun _ => rfl) (fun _ => rfl) rfl ⟨_, running, rfl⟩
  | poll call goal bridge detecting =>
      exact served.work rfl (.inl rfl) (fun _ => rfl) (fun _ => rfl) rfl (waits rfl detecting)
  | pend call goal bridge found here nothing =>
      exact served.park call (.detecting goal bridge) (.inr rfl) (by simp) (by simp [stage?_park])
        (by simp) running
  | exhaust | halt | foreign =>
      exact served.work rfl (.inr rfl) (by simp [SessionEvent.concerns]) (fun _ => rfl) (by simp)
        trivial
  | pick call goal bridge found here tags polled tag wallet =>
      exact served.park call (.connecting goal bridge tag) (.inr rfl)
        (by simp [SessionEvent.concerns]) (by simp [stage?_park]) (by simp) running
  | reject | desert =>
      exact served.work rfl (.inl rfl) (by simp [SessionEvent.concerns]) (fun _ => rfl) rfl trivial
  | accept call goal bridge tag connecting unclosed =>
      exact served.work rfl (.inl rfl) (by simp [SessionEvent.concerns]) (fun _ => rfl) rfl
        (waits rfl connecting)
  | attachStart call bridge tag now =>
      obtain ⟨request, fresh, made⟩ := running
      have fulfils : Fulfils session.history call request .done := by
        cases request with
        | start purpose => trivial
        | finish cause | exchange commands | look => cases made
      exact served.work rfl (.inr rfl) (by simp [connect, SessionEvent.concerns]) (fun _ => rfl)
        rfl ⟨request, fresh.asked, fulfils⟩
  | attachRestart call chain bridge tag now =>
      obtain ⟨request, fresh, made⟩ := running
      rw [eq_of_serves_chain (.inl rfl) made] at fresh
      exact served.work rfl (.inr rfl) (by simp [connect, SessionEvent.concerns]) (fun _ => rfl)
        rfl fresh.owes
  | attachRenew call chain bridge tag now =>
      obtain ⟨request, fresh, made⟩ := running
      rw [eq_of_serves_chain (.inr rfl) made] at fresh
      exact served.work rfl (.inr rfl) (by simp [reconnect, SessionEvent.concerns]) (fun _ => rfl)
        rfl fresh.owes
  | send call tag chain => exact served.send lined
  | answerLost call tag rest fault transmitting =>
      exact served.answer lined transmitting _ rfl (fun _ _ => trivial)
  | answerShort call tag rest bytes fault transmitting short =>
      exact served.answer lined transmitting _ rfl (fun _ _ => trivial)
  | answerLast call tag bytes response transmitting read =>
      exact served.answer lined transmitting _ rfl (fun owes awaits => owes.fulfils awaits bytes)
  | answerFault call tag chain bytes response fault transmitting read failed =>
      exact served.answer lined transmitting _ rfl (fun _ _ => trivial)
  | answerNext call tag chain bytes response transmitting read succeeded =>
      exact served.answer lined transmitting _ rfl (fun owes _ => owes.answered _)
  | fail call error =>
      exact served.work rfl (.inr rfl) (by simp) (by simp) (by simp) trivial
  | leave call outcome =>
      exact served.leave call (.inr rfl) (by simp [SessionEvent.concerns]) (by simp) (by simp)
  | dropHanded call job queued handed =>
      exact served.leave call (.inl rfl) (by simp [SessionEvent.concerns])
        (by simp [stage?_forget]) (by simp)
  | dropWaiting call job queued waiting =>
      exact served.leave call (.inl rfl) (by simp [SessionEvent.concerns])
        (fun other => stage?_forget _ other call) (by simp)
  | dropHolder call stage pending working =>
      exact served.leave call (.inl rfl) (by simp [SessionEvent.concerns])
        (by simp [stage?_forget]) (by simp)

theorem Served.initial (policy : Policy) : Served .outside (Session.initial policy) := by
  refine ⟨fun _ => .inl rfl, fun _ _ => rfl, ?_, trivial⟩
  intro call stage pending _
  simp [Session.initial, stage?] at pending

theorem Reached.served (reached : Reached point session) : Served point session :=
  reached.induction Served.initial fun _ _ _ _ reached served move =>
    served.move reached.lined reached.sound move

end Session

end Contactless
