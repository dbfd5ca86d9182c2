import Contactless.Session.State

/-!
How a session moves: one step for each thing that can happen to it.

A call runs without interruption from one waiting place to the next, and the places are the
stages: in line for the lock, waiting for tags, connecting, resting, transmitting. A run is any
list of stimuli, so every interleaving of callers, radio, clock and abandoned calls is a run. A
stimulus that does not fit the state changes nothing.
-/

set_option autoImplicit false

namespace Contactless

/-- What the surroundings answer when a session asks them in the course of one step. -/
structure Surroundings where
  available : Bool := true
  /-- The clock reading in nanoseconds. -/
  now : Int := 0
  onBegin : List TagNotice := []
  refusal : Option LinkFault := none
  onRepoll : List TagNotice := []
  deriving DecidableEq

inductive Signal where
  /-- The lock or a report may be there. -/
  | look
  | connected (refusal : Option LinkFault)
  | rested
  | replied (answer : Except LinkFault Bytes)
  deriving DecidableEq

inductive Stimulus where
  | call (request : Request) (around : Surroundings)
  | wake (call : CallId) (signal : Signal) (around : Surroundings)
  | notice (bridge : BridgeId) (notice : TagNotice)
  | drop (call : CallId)
  | alert (text : String)
  deriving DecidableEq

namespace Session

def send (session : Session) (call : CallId) (tag : Tag) (chain : Chain) : Session :=
  (session.emit (.sent call tag chain.first)).park call (.transmitting tag chain.rest)

/-- The tag answered. The answer to the last command is returned whatever its status word says; any
other one has to report success. -/
def receive (session : Session) (call : CallId) (tag : Tag) (rest : List Bytes)
    (answer : Except LinkFault Bytes) : Session :=
  let session := session.emit (.answered call tag answer)
  match answer with
  | .error fault => session.fail call (.link fault)
  | .ok bytes =>
    match Response.decode bytes with
    | .error fault => session.fail call (.response fault)
    | .ok response =>
      match Chain.ofList? rest with
      | none => session.conclude call (.ok (.answer bytes))
      | some chain =>
        match CardFault.ofStatus? response.status with
        | some fault => session.conclude call (.error (.card fault))
        | none => session.send call tag chain

/-- The connection made by the first detection of a radio session. -/
def connect (session : Session) (bridge : BridgeId) (tag : Tag) (now : Int) : Session :=
  { session with
    connection := some ⟨tag, now, now⟩
    held := some bridge
    phase := .connected }

def reconnect (session : Session) (tag : Tag) (now : Int) : Session :=
  { session with
    connection := session.connection.map (·.renewed tag now)
    phase := .connected }

/-- The card is connected; the call goes on with what the detection was for. -/
def attach (session : Session) (call : CallId) (goal : Goal) (bridge : BridgeId) (tag : Tag)
    (now : Int) : Session :=
  let session := session.emit (.attached call goal bridge tag now)
  match goal with
  | .start => (session.connect bridge tag now).conclude call (.ok .done)
  | .restart chain => (session.connect bridge tag now).send call tag chain
  | .renew chain => (session.reconnect tag now).send call tag chain

/-- The radio connected the tag or refused to. A bridge closed in the meantime means that the
session was ended, so the card is not used. -/
def finishConnect (session : Session) (call : CallId) (goal : Goal) (bridge : BridgeId) (tag : Tag)
    (refusal : Option LinkFault) (now : Int) : Session :=
  let session := session.emit (.connectEnded call tag refusal)
  match refusal with
  | some fault => session.fail call (.link fault)
  | none =>
    let session := session.emit (.acknowledged call)
    if session.isClosed bridge then session.fail call .cancelled
    else session.attach call goal bridge tag now

/-- Looks for a wallet card in the oldest batch, or waits for one. -/
def detect (session : Session) (call : CallId) (goal : Goal) (bridge : BridgeId) : Session :=
  match session.bridges[bridge]? with
  | none => session.fail call .cancelled
  | some found =>
    let session := session.update bridge fun _ => found.poll.2
    match found.poll.1 with
    | .pending => session.park call (.detecting goal bridge)
    | .exhausted => session.fail call .cancelled
    | .interrupted reason => session.fail call (.interrupted reason)
    | .batch tags =>
      let session := session.emit (.taken call bridge tags)
      match firstWallet? session.policy.aid tags with
      | none => session.fail call .unknownTag
      | some tag =>
        (session.emit (.connecting call bridge tag)).park call (.connecting goal bridge tag)

/-- Begins a radio session over a bridge and looks for the card. A bridge that is closed before
means that the session was ended, and the radio is left alone; one that is closed while the radio
begins leaves the radio to be ended here. -/
def beginPolling (session : Session) (call : CallId) (goal : Goal) (bridge : BridgeId)
    (prompt : String) (around : Surroundings) : Session :=
  if session.isClosed bridge then session.fail call .cancelled
  else
    let session := session.emit (.begun call bridge prompt)
    let session := session.reportAll bridge around.onBegin
    let session := session.emit (.beginEnded call bridge around.refusal)
    match around.refusal with
    | some fault => session.fail call (.link fault)
    | none =>
      if session.isClosed bridge then (session.emit (.dismissed none)).fail call .cancelled
      else session.detect call goal bridge

/-- Detects the card anew within the radio session, by a batch reported from now on. -/
def renew (session : Session) (call : CallId) (bridge : BridgeId) (chain : Chain)
    (around : Surroundings) : Session :=
  let session := { session with phase := .renewing }
  let session := (session.update bridge Bridge.drainStale).emit (.drained call bridge)
  let session := (session.emit (.repolled call bridge)).reportAll bridge around.onRepoll
  session.detect call (.renew chain) bridge

/-- Ends the radio session and rests before the next one. The next bridge is opened first, so
that ending the session in the meantime can close it. -/
def restart (session : Session) (call : CallId) (chain : Chain) : Session :=
  let session := { session with phase := .restarting, connection := none, held := none }
  let session := session.hangUp none
  let bridge := session.nextBridge
  let session := session.openBridge.emit (.paused call session.policy.cooldown)
  session.park call (.resting bridge chain)

def resume (session : Session) (call : CallId) (bridge : BridgeId) (chain : Chain)
    (around : Surroundings) : Session :=
  let prompt := match session.purpose with
    | some purpose => purpose.prompt
    | none => ""
  session.beginPolling call (.restart chain) bridge prompt around

/-- Starts a session, unless one has become live while the call was in line. -/
def runStart (session : Session) (call : CallId) (purpose : Purpose) (around : Surroundings) :
    Session :=
  if session.phase.isLive then session.conclude call (.error .alreadyActive)
  else
    let session := { session with
      phase := .starting
      live := true
      purpose := some purpose
      connection := none
      held := none }
    session.openBridge.beginPolling call .start session.nextBridge purpose.prompt around

/-- Sends commands over a connection that is fresh enough. An interruption that nobody has read
yet goes before any upkeep. -/
def runExchange (session : Session) (call : CallId) (chain : Chain) (around : Surroundings) :
    Session :=
  if session.phase ≠ .connected then session.conclude call (.error .notConnected)
  else match session.held with
    | none => session.fail call .cancelled
    | some bridge =>
      match session.bridges[bridge]? with
      | none => session.fail call .cancelled
      | some found =>
        if found.closed then session.fail call .cancelled
        else
          let session := session.update bridge fun _ => found.takeInterruption.2
          match found.takeInterruption.1, session.connection with
          | some reason, _ => session.fail call (.interrupted reason)
          | none, none => session.fail call .notConnected
          | none, some connection =>
            match session.policy.upkeep (elapsed connection.startedAt around.now)
                (elapsed connection.renewedAt around.now) with
            | .keep => session.send call connection.tag chain
            | .renew => session.renew call bridge chain around
            | .restart => session.restart call chain

def enter (session : Session) (call : CallId) (job : Job) (around : Surroundings) : Session :=
  match job with
  | .start purpose => session.runStart call purpose around
  | .finish farewell => (session.shutDown farewell).conclude call (.ok .done)
  | .exchange chain => session.runExchange call chain around
  | .look => session.conclude call (.ok (.snapshot session.view))

def acquire (session : Session) (call : CallId) (job : Job) (around : Surroundings) : Session :=
  let session := session.emit (.requested call)
  match session.lock.holder with
  | none =>
    ({ session with lock := session.lock.request call }.emit (.granted call)).enter call job around
  | some _ => { session with lock := session.lock.request call }.park call (.queued job)

/-- A caller asks for something. Ending the session closes the bridge before the lock is asked
for. -/
def ask (session : Session) (request : Request) (around : Surroundings) : Session :=
  let call := session.issued
  let session := { session with issued := call + 1 }.emit (.called call request)
  match request with
  | .start purpose =>
    if !around.available then session.emit (.ended call (.error .radioUnavailable))
    else if session.live then session.emit (.ended call (.error .alreadyActive))
    else session.acquire call (.start purpose) around
  | .finish cause =>
    let farewell := cause.map (·.message)
    (session.hangUp farewell).acquire call (.finish farewell) around
  | .exchange commands =>
    match Chain.ofList? commands with
    | none => session.emit (.ended call (.error .emptyChain))
    | some chain => session.acquire call (.exchange chain) around
  | .look => session.acquire call .look around

/-- A waiting call goes on, if the signal is the one it waits for. -/
def wake (session : Session) (call : CallId) (signal : Signal) (around : Surroundings) : Session :=
  match session.stage? call, signal with
  | some (.queued job), .look =>
    if session.lock.holder = some call then session.enter call job around else session
  | some (.detecting goal bridge), .look => session.detect call goal bridge
  | some (.connecting goal bridge tag), .connected refusal =>
    session.finishConnect call goal bridge tag refusal around.now
  | some (.resting bridge chain), .rested => session.resume call bridge chain around
  | some (.transmitting tag rest), .replied answer => session.receive call tag rest answer
  | _, _ => session

/-- A call is abandoned. In line it only leaves the line, passing on a lock that it was just
handed; holding the lock it takes the session down. -/
def drop (session : Session) (call : CallId) : Session :=
  match session.stage? call with
  | none => session
  | some (.queued _) =>
    let session := if session.lock.holder = some call then session.release
      else { session with lock := session.lock.leave call }
    (session.forget call).emit (.dropped call)
  | some _ => ((session.shutDown none).release.forget call).emit (.dropped call)

def step (session : Session) : Stimulus → Session
  | .call request around => session.ask request around
  | .wake call signal around => session.wake call signal around
  | .notice bridge notice => session.report bridge notice
  | .drop call => session.drop call
  | .alert text => session.emit (.alerted text)

def initial (policy : Policy) : Session := { policy := policy }

def run (session : Session) (stimuli : List Stimulus) : Session := stimuli.foldl step session

@[simp] theorem run_nil (session : Session) : session.run [] = session := rfl

@[simp] theorem run_cons (session : Session) (stimulus : Stimulus) (rest : List Stimulus) :
    session.run (stimulus :: rest) = (session.step stimulus).run rest := rfl

theorem run_append (session : Session) (first second : List Stimulus) :
    session.run (first ++ second) = (session.run first).run second := by
  simp [run, List.foldl_append]

end Session

end Contactless
