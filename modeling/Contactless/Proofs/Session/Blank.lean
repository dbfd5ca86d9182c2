import Contactless.Proofs.Session.Fields

set_option autoImplicit false

namespace Contactless

def Request.blank : Request → Request
  | .start _ => .start .identify
  | request => request

def Job.blank : Job → Job
  | .start _ => .start .identify
  | job => job

def Stage.blank : Stage → Stage
  | .queued job => .queued job.blank
  | stage => stage

def Value.blank : Value → Value
  | .snapshot view => .snapshot { view with purpose := none }
  | value => value

def Outcome.blank (outcome : Outcome) : Outcome := outcome.map Value.blank

/-- The event without the purpose of a request or of a snapshot, and without what the radio is told
when it begins. -/
def SessionEvent.blank : SessionEvent → SessionEvent
  | .called call request => .called call request.blank
  | .ended call outcome => .ended call (Outcome.blank outcome)
  | .begun call bridge _ => .begun call bridge ""
  | event => event

def Stimulus.blank : Stimulus → Stimulus
  | .call request around => .call request.blank around
  | stimulus => stimulus

@[simp] theorem Request.blank_blank (request : Request) : request.blank.blank = request.blank := by
  cases request <;> rfl

@[simp] theorem Job.blank_blank (job : Job) : job.blank.blank = job.blank := by
  cases job <;> rfl

@[simp] theorem Stage.blank_blank (stage : Stage) : stage.blank.blank = stage.blank := by
  cases stage <;> simp [Stage.blank]

@[simp] theorem Value.blank_blank (value : Value) : value.blank.blank = value.blank := by
  cases value <;> rfl

@[simp] theorem Outcome.blank_blank (outcome : Outcome) :
    Outcome.blank (Outcome.blank outcome) = Outcome.blank outcome := by
  cases outcome <;> simp [Outcome.blank, Except.map]

@[simp] theorem SessionEvent.blank_blank (event : SessionEvent) :
    event.blank.blank = event.blank := by
  cases event <;> simp [SessionEvent.blank]

@[simp] theorem Outcome.blank_error (error : SessionError) :
    Outcome.blank (.error error) = .error error := rfl

@[simp] theorem Outcome.blank_ok (value : Value) :
    Outcome.blank (.ok value) = .ok value.blank := rfl

namespace Session

/-- The session without anything that is known of purposes. -/
def blank (session : Session) : Session :=
  { session with
    purpose := none
    calls := session.calls.map fun pending => (pending.1, pending.2.blank)
    history := session.history.map (·.blank) }

variable (session : Session)

@[simp] theorem blank_blank : session.blank.blank = session.blank := by
  simp [blank, Function.comp_def]

@[simp] theorem blank_fields :
    session.blank.policy = session.policy ∧
    session.blank.phase = session.phase ∧
    session.blank.purpose = none ∧
    session.blank.connection = session.connection ∧
    session.blank.held = session.held ∧
    session.blank.slot = session.slot ∧
    session.blank.live = session.live ∧
    session.blank.bridges = session.bridges ∧
    session.blank.lock = session.lock ∧
    session.blank.issued = session.issued ∧
    session.blank.history = session.history.map (·.blank) := by
  simp [blank]

@[simp] theorem isClosed_blank (bridge : BridgeId) :
    session.blank.isClosed bridge = session.isClosed bridge := rfl

theorem lookup_blank (calls : List (CallId × Stage)) (call : CallId) :
    (calls.map fun pending => (pending.1, pending.2.blank)).lookup call =
      (calls.lookup call).map Stage.blank := by
  induction calls with
  | nil => rfl
  | cons pending rest ih =>
      obtain ⟨key, stage⟩ := pending
      cases here : call == key <;> simp [List.lookup_cons, here, ih]

@[simp] theorem stage?_blank (call : CallId) :
    session.blank.stage? call = (session.stage? call).map Stage.blank :=
  lookup_blank session.calls call

@[simp] theorem blank_emit (event : SessionEvent) :
    (session.emit event).blank = session.blank.emit event.blank := by
  simp [emit, blank]

@[simp] theorem blank_forget (call : CallId) :
    (session.forget call).blank = session.blank.forget call := by
  simp [forget, blank, List.filter_map, Function.comp_def]

@[simp] theorem blank_park (call : CallId) (stage : Stage) :
    (session.park call stage).blank = session.blank.park call stage.blank := by
  simp [park, blank, List.filter_map, Function.comp_def]

@[simp] theorem blank_release : session.release.blank = session.blank.release := by
  simp [release_eq, blank, Function.comp_def, SessionEvent.blank]

@[simp] theorem blank_conclude (call : CallId) (outcome : Outcome) :
    (session.conclude call outcome).blank =
      session.blank.conclude call (Outcome.blank outcome) := by
  simp [conclude, SessionEvent.blank]

@[simp] theorem blank_update (bridge : BridgeId) (change : TagBridge → TagBridge) :
    (session.update bridge change).blank = session.blank.update bridge change := rfl

@[simp] theorem blank_closeBridge (bridge : BridgeId) :
    (session.closeBridge bridge).blank = session.blank.closeBridge bridge := by
  cases shut : session.isClosed bridge <;> simp [closeBridge, shut, SessionEvent.blank]

@[simp] theorem blank_report (bridge : BridgeId) (notice : TagNotice) :
    (session.report bridge notice).blank = session.blank.report bridge notice := by
  cases shut : session.isClosed bridge <;> cases notice <;>
    simp [report, shut, SessionEvent.blank]

@[simp] theorem blank_reportAll (bridge : BridgeId) (notices : List TagNotice) :
    (session.reportAll bridge notices).blank = session.blank.reportAll bridge notices := by
  induction notices generalizing session with
  | nil => rfl
  | cons notice rest ih =>
      simp only [reportAll, List.foldl_cons, ← blank_report]
      exact ih (session.report bridge notice)

@[simp] theorem blank_openBridge : session.openBridge.blank = session.blank.openBridge := by
  cases filled : session.slot with
  | none => simp [openBridge, filled, blank, emit, nextBridge, SessionEvent.blank]
  | some stale =>
      have closed := blank_closeBridge session stale
      simp only [openBridge, filled, blank_fields, blank_emit, ← closed]
      rfl

@[simp] theorem blank_hangUp (farewell : Option String) :
    (session.hangUp farewell).blank = session.blank.hangUp farewell := by
  cases filled : session.slot with
  | none => simp [hangUp, filled]
  | some bridge =>
      simp only [hangUp, filled, blank_fields, blank_emit, blank_closeBridge]
      rfl

@[simp] theorem blank_shutDown (farewell : Option String) :
    (session.shutDown farewell).blank = session.blank.shutDown farewell := by
  simp only [shutDown, ← blank_hangUp]
  rfl

@[simp] theorem blank_fail (call : CallId) (error : SessionError) :
    (session.fail call error).blank = session.blank.fail call error := by
  simp [Session.fail]

theorem view_blank : session.blank.view = { session.view with purpose := none } := rfl

@[simp] theorem blank_send (call : CallId) (tag : Tag) (chain : Chain) :
    (session.send call tag chain).blank = session.blank.send call tag chain := by
  simp [send, SessionEvent.blank, Stage.blank]

@[simp] theorem blank_receive (call : CallId) (tag : Tag) (rest : List Bytes)
    (answer : Except LinkFault Bytes) :
    (session.receive call tag rest answer).blank =
      session.blank.receive call tag rest answer := by
  unfold receive
  dsimp only
  split
  · simp [SessionEvent.blank]
  · split
    · simp [SessionEvent.blank]
    · split
      · simp [SessionEvent.blank, Value.blank]
      · split <;> simp [SessionEvent.blank]

@[simp] theorem blank_connect (bridge : BridgeId) (tag : Tag) (now : Int) :
    (session.connect bridge tag now).blank = session.blank.connect bridge tag now := rfl

@[simp] theorem blank_reconnect (tag : Tag) (now : Int) :
    (session.reconnect tag now).blank = session.blank.reconnect tag now := rfl

@[simp] theorem blank_attach (call : CallId) (goal : Goal) (bridge : BridgeId) (tag : Tag)
    (now : Int) :
    (session.attach call goal bridge tag now).blank =
      session.blank.attach call goal bridge tag now := by
  cases goal <;> simp [attach, SessionEvent.blank, Value.blank]

@[simp] theorem blank_finishConnect (call : CallId) (goal : Goal) (bridge : BridgeId) (tag : Tag)
    (refusal : Option LinkFault) (now : Int) :
    (session.finishConnect call goal bridge tag refusal now).blank =
      session.blank.finishConnect call goal bridge tag refusal now := by
  cases refusal with
  | some fault => simp [finishConnect, SessionEvent.blank]
  | none =>
      cases shut : session.isClosed bridge <;> simp [finishConnect, shut, SessionEvent.blank]

@[simp] theorem blank_detect (call : CallId) (goal : Goal) (bridge : BridgeId) :
    (session.detect call goal bridge).blank = session.blank.detect call goal bridge := by
  cases here : session.bridges[bridge]? with
  | none => simp [detect, here]
  | some found =>
      cases polled : found.poll.1 with
      | pending | exhausted | interrupted reason => simp [detect, here, polled, Stage.blank]
      | batch tags =>
          cases wallet : firstWallet? session.policy.aid tags <;>
            simp [detect, here, polled, wallet, SessionEvent.blank, Stage.blank]

/-- Whatever the radio is told when it begins, it is asked for the same. -/
@[simp] theorem blank_beginPolling (call : CallId) (goal : Goal) (bridge : BridgeId)
    (prompt : String) (around : Surroundings) :
    (session.beginPolling call goal bridge prompt around).blank =
      session.blank.beginPolling call goal bridge "" around := by
  cases shut : session.isClosed bridge with
  | true => simp [beginPolling, shut]
  | false =>
      have same : ((session.emit (.begun call bridge prompt)).reportAll bridge
          around.onBegin).blank = (session.blank.emit (.begun call bridge "")).reportAll bridge
          around.onBegin := by
        simp [SessionEvent.blank]
      cases refused : around.refusal with
      | some fault => simp [beginPolling, shut, refused, SessionEvent.blank]
      | none =>
          simp only [beginPolling, shut, refused, isClosed_blank, isClosed_emit, ← same,
            Bool.false_eq_true, ↓reduceIte]
          split <;> simp [SessionEvent.blank]

@[simp] theorem blank_renew (call : CallId) (bridge : BridgeId) (chain : Chain)
    (around : Surroundings) :
    (session.renew call bridge chain around).blank =
      session.blank.renew call bridge chain around := by
  simp only [renew, blank_detect, blank_reportAll, blank_emit, blank_update, SessionEvent.blank]
  rfl

@[simp] theorem blank_restart (call : CallId) (chain : Chain) :
    (session.restart call chain).blank = session.blank.restart call chain := by
  simp only [restart, blank_park, blank_emit, blank_openBridge, blank_hangUp, SessionEvent.blank,
    Stage.blank, nextBridge, hangUp_fields]
  rfl

@[simp] theorem blank_resume (call : CallId) (bridge : BridgeId) (chain : Chain)
    (around : Surroundings) :
    (session.resume call bridge chain around).blank =
      session.blank.resume call bridge chain around := by
  simp [resume]

theorem blank_runStart (call : CallId) (purpose other : Purpose) (around : Surroundings) :
    (session.runStart call purpose around).blank =
      (session.blank.runStart call other around).blank := by
  cases live : session.phase.isLive with
  | true => simp [runStart, live]
  | false =>
      simp only [runStart, live, blank_fields, Bool.false_eq_true, ↓reduceIte, blank_beginPolling,
        blank_openBridge]
      simp [blank, nextBridge, Function.comp_def]

@[simp] theorem blank_runExchange (call : CallId) (chain : Chain) (around : Surroundings) :
    (session.runExchange call chain around).blank =
      session.blank.runExchange call chain around := by
  unfold runExchange
  simp only [blank_fields, update_fields]
  split
  · simp
  · split
    · simp
    · split
      · simp
      · split
        · simp
        · split
          · simp
          · simp
          · split <;> simp

theorem blank_enter (call : CallId) (job : Job) (around : Surroundings) :
    (session.enter call job around).blank =
      (session.blank.enter call job.blank around).blank := by
  cases job with
  | start purpose => exact blank_runStart session call purpose .identify around
  | finish farewell => simp [enter, Job.blank]
  | exchange chain => simp [enter, Job.blank]
  | look => simp [enter, Job.blank, Value.blank, view_blank]

theorem blank_acquire (call : CallId) (job : Job) (around : Surroundings) :
    (session.acquire call job around).blank =
      (session.blank.acquire call job.blank around).blank := by
  cases held : session.lock.holder with
  | none =>
      simp only [acquire, emit_fields, blank_fields, held]
      rw [blank_enter]
      simp [blank, emit, SessionEvent.blank]
  | some holder =>
      simp only [acquire, emit_fields, blank_fields, held, blank_park, Stage.blank]
      simp [blank, emit, Function.comp_def]

def answer (session : Session) (call : CallId) (request : Request) (around : Surroundings) :
    Session :=
  match request with
  | .start purpose =>
    if !around.available then session.emit (.ended call (.error .radioUnavailable))
    else if session.live then session.emit (.ended call (.error .alreadyActive))
    else session.acquire call (.start purpose) around
  | .finish cause =>
    let farewell := cause.map (·.message)
    (session.hangUp farewell).acquire call (.finish farewell) around
  | .exchange commands =>
    match Chain.ofList? commands with
    | none => session.emit (.ended call (.error .emptyChain))
    | some chain => session.acquire call (.exchange chain) around
  | .look => session.acquire call .look around

theorem ask_eq (request : Request) (around : Surroundings) :
    session.ask request around =
      ({ session with issued := session.issued + 1 }.emit
        (.called session.issued request)).answer session.issued request around := rfl

theorem blank_answer (call : CallId) (request : Request) (around : Surroundings) :
    (session.answer call request around).blank =
      (session.blank.answer call request.blank around).blank := by
  cases request with
  | start purpose =>
      simp only [answer, Request.blank, blank_fields]
      split
      · simp
      · split
        · simp
        · exact blank_acquire session call (.start purpose) around
  | finish cause =>
      simp only [answer, Request.blank, ← blank_hangUp]
      exact blank_acquire _ call (.finish _) around
  | exchange commands =>
      simp only [answer, Request.blank]
      split
      · simp
      · rename_i chain _
        exact blank_acquire session call (.exchange chain) around
  | look => exact blank_acquire session call .look around

theorem blank_ask (request : Request) (around : Surroundings) :
    (session.ask request around).blank = (session.blank.ask request.blank around).blank := by
  rw [ask_eq, ask_eq, blank_answer, blank_emit]
  rfl

theorem blank_wake (call : CallId) (signal : Signal) (around : Surroundings) :
    (session.wake call signal around).blank = (session.blank.wake call signal around).blank := by
  unfold wake
  rw [stage?_blank]
  cases pending : session.stage? call with
  | none => simp
  | some stage =>
      cases stage with
      | queued job =>
          cases signal with
          | look =>
              simp only [Option.map_some, Stage.blank, blank_fields]
              split
              · exact blank_enter session call job around
              · simp
          | _ => simp [Stage.blank]
      | _ => cases signal <;> simp [Stage.blank]

@[simp] theorem blank_drop (call : CallId) :
    (session.drop call).blank = session.blank.drop call := by
  unfold drop
  rw [stage?_blank]
  cases pending : session.stage? call with
  | none => rfl
  | some stage =>
      cases stage with
      | queued job =>
          simp only [Option.map_some, Stage.blank, blank_fields, blank_emit, blank_forget]
          split
          · rw [blank_release]
            rfl
          · rfl
      | _ => simp [Stage.blank, SessionEvent.blank]

/-- A step can be blanked out before it is taken. -/
theorem blank_step (stimulus : Stimulus) :
    (session.step stimulus).blank = (session.blank.step stimulus.blank).blank := by
  cases stimulus with
  | call request around => exact blank_ask session request around
  | wake call signal around => exact blank_wake session call signal around
  | notice bridge notice => simp [step, Stimulus.blank]
  | drop call => simp [step, Stimulus.blank]
  | alert text => simp [step, Stimulus.blank]

end Session

end Contactless
