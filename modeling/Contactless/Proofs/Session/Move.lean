import Contactless.Proofs.Session.Fields

/-!
The steps of a session taken apart into moves.

Between two waiting places a call passes through points. A move leads from one point to the next,
changes one thing and records at most what belongs to that change. Every step is a sequence of
moves, so what every move preserves holds along every run.
-/

set_option autoImplicit false

namespace Contactless

namespace Session

inductive Point where
  /-- Nobody runs: every pending call waits. -/
  | outside
  /-- The call was made and has not asked for the lock yet. -/
  | asking (call : CallId) (request : Request)
  | lining (call : CallId) (job : Job)
  /-- The call holds the lock and has not done anything with it. -/
  | holding (call : CallId) (job : Job)
  | beginning (call : CallId) (goal : Goal) (bridge : BridgeId) (prompt : String)
  /-- The radio begins and may report meanwhile. -/
  | tuning (call : CallId) (goal : Goal) (bridge : BridgeId)
  | repolling (call : CallId) (chain : Chain) (bridge : BridgeId)
  | polling (call : CallId) (goal : Goal) (bridge : BridgeId)
  | attaching (call : CallId) (goal : Goal) (bridge : BridgeId) (tag : Tag)
  /-- The old radio session is over and the next bridge is not open yet. -/
  | reopening (call : CallId) (chain : Chain)
  | sending (call : CallId) (tag : Tag) (chain : Chain)
  | failing (call : CallId) (error : SessionError)
  | leaving (call : CallId) (outcome : Outcome)

namespace Point

/-- The call that runs without the lock. -/
def asker? : Point → Option CallId
  | .asking call _ | .lining call _ => some call
  | _ => none

/-- The call that runs with the lock. -/
def worker? : Point → Option CallId
  | .holding call _ | .beginning call _ _ _ | .tuning call _ _ | .repolling call _ _
  | .polling call _ _ | .attaching call _ _ _ | .reopening call _ | .sending call _ _
  | .failing call _ | .leaving call _ => some call
  | .outside | .asking _ _ | .lining _ _ => none

def rests : Point → Bool
  | .outside => true
  | _ => false

/-- Whether the radio may report: while everybody waits, and while it is asked to poll. -/
def hears : Point → Bool
  | .outside | .tuning _ _ _ | .repolling _ _ _ => true
  | _ => false

end Point

/-- A connection that can be used as it is or be kept up: the phase is connected, the bridge is
open and no interruption waits on it. -/
structure Ready (session : Session) (bridge : BridgeId) (connection : Connection) : Prop where
  phase : session.phase = .connected
  held : session.held = some bridge
  unclosed : session.isClosed bridge = false
  unread : ∀ found, session.bridges[bridge]? = some found → found.interruptions = []
  connection : session.connection = some connection

/-- One move of a session. -/
inductive Move : Point → Session → Point → Session → Prop
  | ask {session : Session} (request : Request) :
      Move .outside session (.asking session.issued request)
        ({ session with issued := session.issued + 1 }.emit (.called session.issued request))
  | refuseRadio {session : Session} (call : CallId) (purpose : Purpose) :
      Move (.asking call (.start purpose)) session .outside
        (session.emit (.ended call (.error .radioUnavailable)))
  | refuseLive {session : Session} (call : CallId) (purpose : Purpose)
      (live : session.live = true) :
      Move (.asking call (.start purpose)) session .outside
        (session.emit (.ended call (.error .alreadyActive)))
  | refuseEmpty {session : Session} (call : CallId) :
      Move (.asking call (.exchange [])) session .outside
        (session.emit (.ended call (.error .emptyChain)))
  | lineStart {session : Session} (call : CallId) (purpose : Purpose)
      (dead : session.live = false) :
      Move (.asking call (.start purpose)) session (.lining call (.start purpose)) session
  | lineFinish {session : Session} (call : CallId) (cause : Option SessionError) :
      Move (.asking call (.finish cause)) session
        (.lining call (.finish (cause.map (·.message)))) (session.hangUp (cause.map (·.message)))
  | lineExchange {session : Session} (call : CallId) (chain : Chain) :
      Move (.asking call (.exchange chain.toList)) session (.lining call (.exchange chain)) session
  | lineLook {session : Session} (call : CallId) :
      Move (.asking call .look) session (.lining call .look) session
  | take {session : Session} (call : CallId) (job : Job) (free : session.lock.holder = none) :
      Move (.lining call job) session (.holding call job)
        ({ session.emit (.requested call) with
            lock := session.lock.request call }.emit (.granted call))
  | wait {session : Session} (call holder : CallId) (job : Job)
      (held : session.lock.holder = some holder) :
      Move (.lining call job) session .outside
        ({ session.emit (.requested call) with
            lock := session.lock.request call }.park call (.queued job))
  | turn {session : Session} (call : CallId) (job : Job)
      (queued : session.stage? call = some (.queued job))
      (handed : session.lock.holder = some call) :
      Move .outside session (.holding call job) session
  | deny {session : Session} (call : CallId) (purpose : Purpose)
      (live : session.phase.isLive = true) :
      Move (.holding call (.start purpose)) session
        (.leaving call (.error .alreadyActive)) session
  | start {session : Session} (call : CallId) (purpose : Purpose)
      (dead : session.phase.isLive = false) :
      Move (.holding call (.start purpose)) session
        (.beginning call .start session.nextBridge purpose.prompt)
        { session with
          phase := .starting
          live := true
          purpose := some purpose
          connection := none
          held := none }.openBridge
  | finish {session : Session} (call : CallId) (farewell : Option String) :
      Move (.holding call (.finish farewell)) session
        (.leaving call (.ok .done)) (session.shutDown farewell)
  | look {session : Session} (call : CallId) :
      Move (.holding call .look) session
        (.leaving call (.ok (.snapshot session.view))) session
  | unconnected {session : Session} (call : CallId) (chain : Chain)
      (elsewhere : session.phase ≠ .connected) :
      Move (.holding call (.exchange chain)) session
        (.leaving call (.error .notConnected)) session
  /-- The session was ended while the exchange was in line. -/
  | stale {session : Session} (call : CallId) (chain : Chain)
      (connected : session.phase = .connected)
      (severed : ∀ bridge, session.held = some bridge → session.isClosed bridge = true) :
      Move (.holding call (.exchange chain)) session (.failing call .cancelled) session
  | interrupted {session : Session} (call : CallId) (chain : Chain) (bridge : BridgeId)
      (found : TagBridge) (reason : Interruption)
      (connected : session.phase = .connected)
      (held : session.held = some bridge)
      (here : session.bridges[bridge]? = some found)
      (unclosed : found.closed = false)
      (unread : found.takeInterruption.1 = some reason) :
      Move (.holding call (.exchange chain)) session (.failing call (.interrupted reason))
        (session.update bridge fun _ => found.takeInterruption.2)
  | unattached {session : Session} (call : CallId) (chain : Chain)
      (connected : session.phase = .connected)
      (bare : session.connection = none) :
      Move (.holding call (.exchange chain)) session (.failing call .notConnected) session
  | keep {session : Session} (call : CallId) (chain : Chain) (bridge : BridgeId)
      (connection : Connection) (ready : session.Ready bridge connection) (now : Int)
      (fresh : session.policy.upkeep (elapsed connection.startedAt now)
        (elapsed connection.renewedAt now) = .keep) :
      Move (.holding call (.exchange chain)) session (.sending call connection.tag chain) session
  | renew {session : Session} (call : CallId) (chain : Chain) (bridge : BridgeId)
      (connection : Connection) (ready : session.Ready bridge connection) (now : Int)
      (old : session.policy.upkeep (elapsed connection.startedAt now)
        (elapsed connection.renewedAt now) = .renew) :
      Move (.holding call (.exchange chain)) session (.repolling call chain bridge)
        ((({ session with phase := .renewing }.update bridge Bridge.drainStale).emit
          (.drained call bridge)).emit (.repolled call bridge))
  | restart {session : Session} (call : CallId) (chain : Chain) (bridge : BridgeId)
      (connection : Connection) (ready : session.Ready bridge connection) (now : Int)
      (aged : session.policy.upkeep (elapsed connection.startedAt now)
        (elapsed connection.renewedAt now) = .restart) :
      Move (.holding call (.exchange chain)) session (.reopening call chain)
        ({ session with phase := .restarting, connection := none, held := none }.hangUp none)
  | pause {session : Session} (call : CallId) (chain : Chain) :
      Move (.reopening call chain) session .outside
        ((session.openBridge.emit (.paused call session.policy.cooldown)).park call
          (.resting session.nextBridge chain))
  | rested {session : Session} (call : CallId) (bridge : BridgeId) (chain : Chain)
      (resting : session.stage? call = some (.resting bridge chain)) :
      Move .outside session
        (.beginning call (.restart chain) bridge ((session.purpose.map (·.prompt)).getD "")) session
  | tooLate {session : Session} (call : CallId) (goal : Goal) (bridge : BridgeId)
      (prompt : String) (closed : session.isClosed bridge = true) :
      Move (.beginning call goal bridge prompt) session (.failing call .cancelled) session
  | begin {session : Session} (call : CallId) (goal : Goal) (bridge : BridgeId)
      (prompt : String) (unclosed : session.isClosed bridge = false) :
      Move (.beginning call goal bridge prompt) session (.tuning call goal bridge)
        (session.emit (.begun call bridge prompt))
  | report {point : Point} {session : Session} (bridge : BridgeId) (notice : TagNotice)
      (hears : point.hears = true) :
      Move point session point (session.report bridge notice)
  | beginRefused {session : Session} (call : CallId) (goal : Goal) (bridge : BridgeId)
      (fault : LinkFault) :
      Move (.tuning call goal bridge) session (.failing call (.link fault))
        (session.emit (.beginEnded call bridge (some fault)))
  /-- The bridge was closed while the radio began. -/
  | beginCut {session : Session} (call : CallId) (goal : Goal) (bridge : BridgeId)
      (closed : session.isClosed bridge = true) :
      Move (.tuning call goal bridge) session (.failing call .cancelled)
        ((session.emit (.beginEnded call bridge none)).emit (.dismissed none))
  | begun {session : Session} (call : CallId) (goal : Goal) (bridge : BridgeId)
      (unclosed : session.isClosed bridge = false) :
      Move (.tuning call goal bridge) session (.polling call goal bridge)
        (session.emit (.beginEnded call bridge none))
  | repolled {session : Session} (call : CallId) (chain : Chain) (bridge : BridgeId) :
      Move (.repolling call chain bridge) session (.polling call (.renew chain) bridge) session
  | poll {session : Session} (call : CallId) (goal : Goal) (bridge : BridgeId)
      (detecting : session.stage? call = some (.detecting goal bridge)) :
      Move .outside session (.polling call goal bridge) session
  | lost {session : Session} (call : CallId) (goal : Goal) (bridge : BridgeId)
      (missing : session.bridges[bridge]? = none) :
      Move (.polling call goal bridge) session (.failing call .cancelled) session
  | pend {session : Session} (call : CallId) (goal : Goal) (bridge : BridgeId)
      (found : TagBridge) (here : session.bridges[bridge]? = some found)
      (nothing : found.poll.1 = .pending) :
      Move (.polling call goal bridge) session .outside
        ((session.update bridge fun _ => found.poll.2).park call (.detecting goal bridge))
  | exhaust {session : Session} (call : CallId) (goal : Goal) (bridge : BridgeId)
      (found : TagBridge) (here : session.bridges[bridge]? = some found)
      (nothing : found.poll.1 = .exhausted) :
      Move (.polling call goal bridge) session (.failing call .cancelled)
        (session.update bridge fun _ => found.poll.2)
  | halt {session : Session} (call : CallId) (goal : Goal) (bridge : BridgeId)
      (found : TagBridge) (here : session.bridges[bridge]? = some found)
      (reason : Interruption) (polled : found.poll.1 = .interrupted reason) :
      Move (.polling call goal bridge) session (.failing call (.interrupted reason))
        (session.update bridge fun _ => found.poll.2)
  | foreign {session : Session} (call : CallId) (goal : Goal) (bridge : BridgeId)
      (found : TagBridge) (here : session.bridges[bridge]? = some found)
      (tags : List Tag) (polled : found.poll.1 = .batch tags)
      (unknown : firstWallet? session.policy.aid tags = none) :
      Move (.polling call goal bridge) session (.failing call .unknownTag)
        ((session.update bridge fun _ => found.poll.2).emit (.taken call bridge tags))
  | pick {session : Session} (call : CallId) (goal : Goal) (bridge : BridgeId)
      (found : TagBridge) (here : session.bridges[bridge]? = some found)
      (tags : List Tag) (polled : found.poll.1 = .batch tags)
      (tag : Tag) (wallet : firstWallet? session.policy.aid tags = some tag) :
      Move (.polling call goal bridge) session .outside
        ((((session.update bridge fun _ => found.poll.2).emit (.taken call bridge tags)).emit
          (.connecting call bridge tag)).park call (.connecting goal bridge tag))
  | reject {session : Session} (call : CallId) (goal : Goal) (bridge : BridgeId) (tag : Tag)
      (fault : LinkFault)
      (connecting : session.stage? call = some (.connecting goal bridge tag)) :
      Move .outside session (.failing call (.link fault))
        (session.emit (.connectEnded call tag (some fault)))
  /-- The session was ended while the radio connected the tag. -/
  | desert {session : Session} (call : CallId) (goal : Goal) (bridge : BridgeId) (tag : Tag)
      (connecting : session.stage? call = some (.connecting goal bridge tag))
      (closed : session.isClosed bridge = true) :
      Move .outside session (.failing call .cancelled)
        ((session.emit (.connectEnded call tag none)).emit (.acknowledged call))
  | accept {session : Session} (call : CallId) (goal : Goal) (bridge : BridgeId) (tag : Tag)
      (connecting : session.stage? call = some (.connecting goal bridge tag))
      (unclosed : session.isClosed bridge = false) :
      Move .outside session (.attaching call goal bridge tag)
        ((session.emit (.connectEnded call tag none)).emit (.acknowledged call))
  | attachStart {session : Session} (call : CallId) (bridge : BridgeId) (tag : Tag) (now : Int) :
      Move (.attaching call .start bridge tag) session (.leaving call (.ok .done))
        ((session.emit (.attached call .start bridge tag now)).connect bridge tag now)
  | attachRestart {session : Session} (call : CallId) (chain : Chain) (bridge : BridgeId)
      (tag : Tag) (now : Int) :
      Move (.attaching call (.restart chain) bridge tag) session (.sending call tag chain)
        ((session.emit (.attached call (.restart chain) bridge tag now)).connect bridge tag now)
  | attachRenew {session : Session} (call : CallId) (chain : Chain) (bridge : BridgeId)
      (tag : Tag) (now : Int) :
      Move (.attaching call (.renew chain) bridge tag) session (.sending call tag chain)
        ((session.emit (.attached call (.renew chain) bridge tag now)).reconnect tag now)
  | send {session : Session} (call : CallId) (tag : Tag) (chain : Chain) :
      Move (.sending call tag chain) session .outside (session.send call tag chain)
  | answerLost {session : Session} (call : CallId) (tag : Tag) (rest : List Bytes)
      (fault : LinkFault)
      (transmitting : session.stage? call = some (.transmitting tag rest)) :
      Move .outside session (.failing call (.link fault))
        (session.emit (.answered call tag (.error fault)))
  | answerShort {session : Session} (call : CallId) (tag : Tag) (rest : List Bytes)
      (bytes : Bytes) (fault : ResponseFault)
      (transmitting : session.stage? call = some (.transmitting tag rest))
      (short : Response.decode bytes = .error fault) :
      Move .outside session (.failing call (.response fault))
        (session.emit (.answered call tag (.ok bytes)))
  | answerLast {session : Session} (call : CallId) (tag : Tag) (bytes : Bytes)
      (response : Response)
      (transmitting : session.stage? call = some (.transmitting tag []))
      (read : Response.decode bytes = .ok response) :
      Move .outside session (.leaving call (.ok (.answer bytes)))
        (session.emit (.answered call tag (.ok bytes)))
  | answerFault {session : Session} (call : CallId) (tag : Tag) (chain : Chain) (bytes : Bytes)
      (response : Response) (fault : CardFault)
      (transmitting : session.stage? call = some (.transmitting tag chain.toList))
      (read : Response.decode bytes = .ok response)
      (failed : CardFault.ofStatus? response.status = some fault) :
      Move .outside session (.leaving call (.error (.card fault)))
        (session.emit (.answered call tag (.ok bytes)))
  | answerNext {session : Session} (call : CallId) (tag : Tag) (chain : Chain) (bytes : Bytes)
      (response : Response)
      (transmitting : session.stage? call = some (.transmitting tag chain.toList))
      (read : Response.decode bytes = .ok response)
      (succeeded : CardFault.ofStatus? response.status = none) :
      Move .outside session (.sending call tag chain)
        (session.emit (.answered call tag (.ok bytes)))
  | fail {session : Session} (call : CallId) (error : SessionError) :
      Move (.failing call error) session (.leaving call (.error error))
        (session.shutDown error.farewell)
  | leave {session : Session} (call : CallId) (outcome : Outcome) :
      Move (.leaving call outcome) session .outside (session.conclude call outcome)
  | dropHanded {session : Session} (call : CallId) (job : Job)
      (queued : session.stage? call = some (.queued job))
      (handed : session.lock.holder = some call) :
      Move .outside session .outside ((session.release.forget call).emit (.dropped call))
  | dropWaiting {session : Session} (call : CallId) (job : Job)
      (queued : session.stage? call = some (.queued job))
      (waiting : session.lock.holder ≠ some call) :
      Move .outside session .outside
        (({ session with lock := session.lock.leave call }.forget call).emit (.dropped call))
  | dropHolder {session : Session} (call : CallId) (stage : Stage)
      (pending : session.stage? call = some stage) (working : ∀ job, stage ≠ .queued job) :
      Move .outside session .outside
        (((session.shutDown none).release.forget call).emit (.dropped call))
  | alert {session : Session} (text : String) :
      Move .outside session .outside (session.emit (.alerted text))

inductive Moves (point : Point) (session : Session) : Point → Session → Prop
  | refl : Moves point session point session
  | tail {between last : Point} {middle final : Session} :
      Moves point session between middle → Move between middle last final →
      Moves point session last final

namespace Moves

theorem single {point last : Point} {session final : Session}
    (move : Move point session last final) : Moves point session last final :=
  .tail .refl move

theorem trans {point between last : Point} {session middle final : Session}
    (first : Moves point session between middle) (second : Moves between middle last final) :
    Moves point session last final := by
  induction second with
  | refl => exact first
  | tail _ move ih => exact .tail ih move

theorem head {point between last : Point} {session middle final : Session}
    (move : Move point session between middle) (rest : Moves between middle last final) :
    Moves point session last final :=
  (single move).trans rest

end Moves

/-- The moves of one step: from somewhere to the next place where everybody waits. -/
inductive Pass : Point → Session → Session → Prop
  | last {point : Point} {session final : Session} (move : Move point session .outside final) :
      Pass point session final
  | head {point between : Point} {session middle final : Session}
      (move : Move point session between middle) (runs : between.rests = false)
      (rest : Pass between middle final) : Pass point session final

namespace Pass

theorem moves {point : Point} {session final : Session} (pass : Pass point session final) :
    Moves point session .outside final := by
  induction pass with
  | last move => exact .single move
  | head move _ _ ih => exact .head move ih

/-- The radio may report several times before the running call goes on. -/
theorem reports {point : Point} {session final : Session} (bridge : BridgeId)
    (notices : List TagNotice) (hears : point.hears = true) (runs : point.rests = false)
    (rest : Pass point (session.reportAll bridge notices) final) : Pass point session final := by
  induction notices generalizing session with
  | nil => exact rest
  | cons notice later ih => exact .head (.report bridge notice hears) runs (ih rest)

end Pass

end Session

end Contactless
