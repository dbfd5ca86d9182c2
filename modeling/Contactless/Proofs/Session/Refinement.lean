import Contactless.Proofs.Session.Move

set_option autoImplicit false

namespace Contactless

namespace Session

/-- Whether the running call is past the points where it decides what to do with the lock. -/
def Point.works : Point → Bool
  | .outside | .asking _ _ | .lining _ _ | .holding _ _ | .reopening _ _ => false
  | _ => true

theorem rests_of_works {point : Point} (works : point.works = true) : point.rests = false := by
  cases point <;> first | rfl | cases works

/-- A call that has begun its work before goes on with it. -/
def Proceeds (session final : Session) : Prop :=
  ∃ point middle, Move .outside session point middle ∧ point.works = true ∧
    Pass point middle final

/-- What a stimulus sets off. -/
inductive Course (session : Session) : Stimulus → Session → Prop
  /-- The stimulus does not fit the session. -/
  | idle {stimulus : Stimulus} : Course session stimulus session
  | aside {stimulus : Stimulus} {final : Session} (move : Move .outside session .outside final) :
      Course session stimulus final
  | ask {request : Request} {around : Surroundings} {final : Session}
      (pass : Pass (.asking session.issued request)
        ({ session with issued := session.issued + 1 }.emit (.called session.issued request))
        final) : Course session (.call request around) final
  | turn {call : CallId} {job : Job} {around : Surroundings} {final : Session}
      (queued : session.stage? call = some (.queued job))
      (handed : session.lock.holder = some call)
      (pass : Pass (.holding call job) session final) :
      Course session (.wake call .look around) final
  | proceed {call : CallId} {stage : Stage} {signal : Signal} {around : Surroundings}
      {final : Session} (pending : session.stage? call = some stage)
      (working : ∀ job, stage ≠ .queued job) (proceeds : Proceeds session final) :
      Course session (.wake call signal around) final

theorem Proceeds.pass {session final : Session} (proceeds : Proceeds session final) :
    Pass .outside session final := by
  obtain ⟨point, middle, move, works, pass⟩ := proceeds
  exact .head move (rests_of_works works) pass

/-- A stimulus that does not fit the session changes nothing; any other one is a pass. -/
theorem Course.pass {session final : Session} {stimulus : Stimulus}
    (course : Course session stimulus final) : final = session ∨ Pass .outside session final := by
  cases course with
  | idle => exact .inl rfl
  | aside move => exact .inr (.last move)
  | ask pass => exact .inr (.head (.ask _) rfl pass)
  | turn queued handed pass => exact .inr (.head (.turn _ _ queued handed) rfl pass)
  | proceed pending working proceeds => exact .inr proceeds.pass

theorem fail_pass (session : Session) (call : CallId) (error : SessionError) :
    Pass (.failing call error) session (session.fail call error) :=
  .head (.fail call error) rfl (.last (.leave call _))

theorem Pass.of_leaving {session final : Session} {call : CallId} {outcome : Outcome}
    (pass : Pass (.leaving call outcome) session final) :
    final = session.conclude call outcome := by
  cases pass with
  | last move =>
      cases move with
      | leave => rfl
  | head move runs rest =>
      cases move with
      | leave => cases runs
      | report bridge notice hears => cases hears

theorem Pass.of_failing {session final : Session} {call : CallId} {error : SessionError}
    (pass : Pass (.failing call error) session final) : final = session.fail call error := by
  cases pass with
  | last move => cases move
  | head move runs rest =>
      cases move with
      | fail => exact rest.of_leaving
      | report bridge notice hears => cases hears

theorem Pass.of_reopening {session final : Session} {call : CallId} {chain : Chain}
    (pass : Pass (.reopening call chain) session final) :
    final = (session.openBridge.emit (.paused call session.policy.cooldown)).park call
      (.resting session.nextBridge chain) := by
  cases pass with
  | last move =>
      cases move with
      | pause => rfl
  | head move runs rest =>
      cases move with
      | pause => cases runs
      | report bridge notice hears => cases hears

theorem detect_pass (session : Session) (call : CallId) (goal : Goal) (bridge : BridgeId) :
    Pass (.polling call goal bridge) session (session.detect call goal bridge) := by
  unfold detect
  split
  · rename_i missing
    exact .head (.lost call goal bridge missing) rfl (fail_pass ..)
  · rename_i found here
    dsimp only
    split
    · rename_i polled
      exact .last (.pend call goal bridge found here polled)
    · rename_i polled
      exact .head (.exhaust call goal bridge found here polled) rfl (fail_pass ..)
    · rename_i reason polled
      exact .head (.halt call goal bridge found here reason polled) rfl (fail_pass ..)
    · rename_i tags polled
      split
      · rename_i unknown
        exact .head (.foreign call goal bridge found here tags polled unknown) rfl
          (fail_pass ..)
      · rename_i tag wallet
        exact .last (.pick call goal bridge found here tags polled tag wallet)

theorem beginPolling_pass (session : Session) (call : CallId) (goal : Goal) (bridge : BridgeId)
    (prompt : String) (around : Surroundings) :
    Pass (.beginning call goal bridge prompt) session
      (session.beginPolling call goal bridge prompt around) := by
  unfold beginPolling
  split
  · rename_i closed
    exact .head (.tooLate call goal bridge prompt closed) rfl (fail_pass ..)
  · rename_i unclosed
    refine .head (.begin call goal bridge prompt (by simpa using unclosed)) rfl ?_
    dsimp only
    refine .reports bridge around.onBegin rfl rfl ?_
    split
    · rename_i fault refused
      simp only [refused]
      exact .head (.beginRefused call goal bridge fault) rfl (fail_pass ..)
    · rename_i accepted
      simp only [accepted]
      split
      · rename_i closed
        exact .head (.beginCut call goal bridge closed) rfl (fail_pass ..)
      · rename_i open'
        exact .head (.begun call goal bridge (by simpa using open')) rfl (detect_pass ..)

theorem attach_pass (session : Session) (call : CallId) (goal : Goal) (bridge : BridgeId)
    (tag : Tag) (now : Int) :
    Pass (.attaching call goal bridge tag) session
      (session.attach call goal bridge tag now) := by
  cases goal with
  | start => exact .head (.attachStart call bridge tag now) rfl (.last (.leave call _))
  | restart chain =>
      exact .head (.attachRestart call chain bridge tag now) rfl (.last (.send call tag chain))
  | renew chain =>
      exact .head (.attachRenew call chain bridge tag now) rfl (.last (.send call tag chain))

theorem finishConnect_proceeds (session : Session) (call : CallId) (goal : Goal)
    (bridge : BridgeId) (tag : Tag)
    (connecting : session.stage? call = some (.connecting goal bridge tag))
    (refusal : Option LinkFault) (now : Int) :
    Proceeds session (session.finishConnect call goal bridge tag refusal now) := by
  cases refusal with
  | some fault => exact ⟨_, _, .reject call goal bridge tag fault connecting, rfl, fail_pass ..⟩
  | none =>
      unfold finishConnect
      dsimp only
      split
      · rename_i closed
        exact ⟨_, _, .desert call goal bridge tag connecting closed, rfl, fail_pass ..⟩
      · rename_i unclosed
        exact ⟨_, _, .accept call goal bridge tag connecting (by simpa using unclosed), rfl,
          attach_pass ..⟩

theorem receive_proceeds (session : Session) (call : CallId) (tag : Tag) (rest : List Bytes)
    (transmitting : session.stage? call = some (.transmitting tag rest))
    (answer : Except LinkFault Bytes) :
    Proceeds session (session.receive call tag rest answer) := by
  cases answer with
  | error fault => exact ⟨_, _, .answerLost call tag rest fault transmitting, rfl, fail_pass ..⟩
  | ok bytes =>
      unfold receive
      dsimp only
      split
      · rename_i fault short
        exact ⟨_, _, .answerShort call tag rest bytes fault transmitting short, rfl, fail_pass ..⟩
      · rename_i response read
        split
        · rename_i nothing
          have last : rest = [] := by
            cases rest with
            | nil => rfl
            | cons first rest => simp [Chain.ofList?] at nothing
          subst last
          exact ⟨_, _, .answerLast call tag bytes response transmitting read, rfl,
            .last (.leave call _)⟩
        · rename_i chain more
          obtain rfl := Chain.toList_of_ofList? more
          split
          · rename_i fault failed
            exact ⟨_, _, .answerFault call tag chain bytes response fault transmitting read failed,
              rfl, .last (.leave call _)⟩
          · rename_i succeeded
            exact ⟨_, _, .answerNext call tag chain bytes response transmitting read succeeded, rfl,
              .last (.send call tag chain)⟩

theorem runStart_pass (session : Session) (call : CallId) (purpose : Purpose)
    (around : Surroundings) :
    Pass (.holding call (.start purpose)) session (session.runStart call purpose around) := by
  unfold runStart
  split
  · rename_i live
    exact .head (.deny call purpose live) rfl (.last (.leave call _))
  · rename_i dead
    exact .head (.start call purpose (by simpa using dead)) rfl (beginPolling_pass ..)

theorem renew_pass (session : Session) (call : CallId) (bridge : BridgeId) (chain : Chain)
    (around : Surroundings) :
    Pass (.repolling call chain bridge)
      ((({ session with phase := .renewing }.update bridge Bridge.drainStale).emit
        (.drained call bridge)).emit (.repolled call bridge))
      (session.renew call bridge chain around) :=
  .reports bridge around.onRepoll rfl rfl
    (.head (.repolled call chain bridge) rfl (detect_pass ..))

theorem update_takeInterruption {session : Session} {bridge : BridgeId} {found : TagBridge}
    (here : session.bridges[bridge]? = some found) (none : found.interruptions = []) :
    session.update bridge (fun _ => found.takeInterruption.2) = session := by
  have same : found.takeInterruption.2 = found := by
    obtain ⟨active, interruptions, batches, closed⟩ := found
    simp only at none
    simp [Bridge.takeInterruption, none]
  have kept : session.bridges.modify bridge (fun _ => found) = session.bridges := by
    apply List.ext_getElem?
    intro index
    rw [List.getElem?_modify]
    by_cases at_bridge : bridge = index
    · subst at_bridge
      simp [here]
    · simp [at_bridge]
  simp only [update, same, kept]

theorem runExchange_pass (session : Session) (call : CallId) (chain : Chain)
    (around : Surroundings) :
    Pass (.holding call (.exchange chain)) session (session.runExchange call chain around) := by
  unfold runExchange
  split
  · rename_i elsewhere
    exact .head (.unconnected call chain elsewhere) rfl (.last (.leave call _))
  · rename_i connected
    replace connected : session.phase = .connected := by simpa using connected
    split
    · rename_i unheld
      exact .head (.stale call chain connected (by simp [unheld])) rfl (fail_pass ..)
    · rename_i bridge held
      split
      · rename_i missing
        refine .head (.stale call chain connected ?_) rfl (fail_pass ..)
        simp [held, isClosed, missing]
      · rename_i found here
        split
        · rename_i closed
          refine .head (.stale call chain connected ?_) rfl (fail_pass ..)
          simp [held, isClosed, here, closed]
        · rename_i unclosed
          replace unclosed : found.closed = false := by simpa using unclosed
          dsimp only
          split
          · rename_i reason unread
            exact .head (.interrupted call chain bridge found reason connected held here
              unclosed unread) rfl (fail_pass ..)
          · rename_i read bare
            have nothing : found.interruptions = [] := by
              simpa [Bridge.takeInterruption] using read
            rw [update_takeInterruption here nothing] at bare ⊢
            exact .head (.unattached call chain connected bare) rfl (fail_pass ..)
          · rename_i connection read attached
            have nothing : found.interruptions = [] := by
              simpa [Bridge.takeInterruption] using read
            rw [update_takeInterruption here nothing] at attached ⊢
            have ready : session.Ready bridge connection := by
              refine ⟨connected, held, ?_, ?_, attached⟩
              · simp [isClosed, here, unclosed]
              · simp [here, nothing]
            split
            · rename_i fresh
              exact .head (.keep call chain bridge connection ready around.now fresh) rfl
                (.last (.send ..))
            · rename_i old
              exact .head (.renew call chain bridge connection ready around.now old) rfl
                (renew_pass ..)
            · rename_i aged
              exact .head (.restart call chain bridge connection ready around.now aged) rfl
                (.last (.pause call chain))

theorem enter_pass (session : Session) (call : CallId) (job : Job) (around : Surroundings) :
    Pass (.holding call job) session (session.enter call job around) := by
  cases job with
  | start purpose => exact runStart_pass session call purpose around
  | finish farewell =>
      exact .head (.finish call farewell) rfl (.last (.leave call _))
  | exchange chain => exact runExchange_pass session call chain around
  | look => exact .head (.look call) rfl (.last (.leave call _))

theorem acquire_pass (session : Session) (call : CallId) (job : Job) (around : Surroundings) :
    Pass (.lining call job) session (session.acquire call job around) := by
  unfold acquire
  dsimp only
  split
  · rename_i free
    exact .head (.take call job free) rfl (enter_pass ..)
  · rename_i holder held
    exact .last (.wait call holder job held)

theorem acquire_moves (session : Session) (call : CallId) (job : Job) (around : Surroundings) :
    Moves (.lining call job) session .outside (session.acquire call job around) :=
  (acquire_pass session call job around).moves

theorem asking_pass (session : Session) (request : Request) (around : Surroundings) :
    Pass (.asking session.issued request)
      ({ session with issued := session.issued + 1 }.emit (.called session.issued request))
      (session.ask request around) := by
  unfold ask
  cases request with
  | start purpose =>
      dsimp only
      split
      · exact .last (.refuseRadio _ purpose)
      · split
        · rename_i live
          exact .last (.refuseLive _ purpose live)
        · rename_i dead
          exact .head (.lineStart _ purpose (by simpa using dead)) rfl (acquire_pass ..)
  | finish cause => exact .head (.lineFinish _ cause) rfl (acquire_pass ..)
  | exchange commands =>
      dsimp only
      split
      · rename_i nothing
        have empty : commands = [] := by
          cases commands with
          | nil => rfl
          | cons first rest => simp [Chain.ofList?] at nothing
        subst empty
        exact .last (.refuseEmpty _)
      · rename_i chain found
        obtain rfl := Chain.toList_of_ofList? found
        exact .head (.lineExchange _ chain) rfl (acquire_pass ..)
  | look => exact .head (.lineLook _) rfl (acquire_pass ..)

theorem resume_proceeds (session : Session) (call : CallId) (bridge : BridgeId) (chain : Chain)
    (resting : session.stage? call = some (.resting bridge chain)) (around : Surroundings) :
    Proceeds session (session.resume call bridge chain around) := by
  have begun := beginPolling_pass session call (.restart chain) bridge
    ((session.purpose.map (·.prompt)).getD "") around
  refine ⟨_, _, .rested call bridge chain resting, rfl, ?_⟩
  unfold resume
  cases told : session.purpose with
  | none => simpa [told] using begun
  | some purpose => simpa [told] using begun

/-- A call that is woken goes on, unless the signal is not the one that it waits for. -/
theorem wake_cases (session : Session) (call : CallId) (signal : Signal)
    (around : Surroundings) :
    session.wake call signal around = session ∨
    (∃ job, signal = .look ∧ session.stage? call = some (.queued job) ∧
      session.lock.holder = some call ∧
      Pass (.holding call job) session (session.wake call signal around)) ∨
    ∃ stage, session.stage? call = some stage ∧ (∀ job, stage ≠ .queued job) ∧
      Proceeds session (session.wake call signal around) := by
  unfold wake
  split
  · rename_i job queued
    split
    · rename_i handed
      exact .inr (.inl ⟨job, rfl, queued, handed, enter_pass ..⟩)
    · exact .inl rfl
  · rename_i goal bridge detecting
    exact .inr (.inr ⟨_, detecting, by simp,
      _, _, .poll call goal bridge detecting, rfl, detect_pass ..⟩)
  · rename_i goal bridge tag refusal connecting
    exact .inr (.inr ⟨_, connecting, by simp,
      finishConnect_proceeds session call goal bridge tag connecting refusal around.now⟩)
  · rename_i bridge chain resting
    exact .inr (.inr ⟨_, resting, by simp,
      resume_proceeds session call bridge chain resting around⟩)
  · rename_i tag rest answer transmitting
    exact .inr (.inr ⟨_, transmitting, by simp,
      receive_proceeds session call tag rest transmitting answer⟩)
  · exact .inl rfl

theorem wake_course (session : Session) (call : CallId) (signal : Signal)
    (around : Surroundings) :
    Course session (.wake call signal around) (session.wake call signal around) := by
  rcases wake_cases session call signal around with
    same | ⟨job, rfl, queued, handed, pass⟩ | ⟨stage, pending, working, proceeds⟩
  · rw [same]
    exact .idle
  · exact .turn queued handed pass
  · exact .proceed pending working proceeds

theorem drop_course (session : Session) (call : CallId) :
    Course session (.drop call) (session.drop call) := by
  unfold drop
  split
  · exact .idle
  · rename_i job queued
    dsimp only
    split
    · rename_i handed
      exact .aside (.dropHanded call job queued handed)
    · rename_i waiting
      exact .aside (.dropWaiting call job queued waiting)
  · rename_i stage working pending
    exact .aside (.dropHolder call stage pending working)

theorem step_course (session : Session) (stimulus : Stimulus) :
    Course session stimulus (session.step stimulus) := by
  cases stimulus with
  | call request around => exact .ask (asking_pass session request around)
  | wake call signal around => exact wake_course session call signal around
  | notice bridge notice => exact .aside (.report bridge notice rfl)
  | drop call => exact drop_course session call
  | alert text => exact .aside (.alert text)

theorem step_pass (session : Session) (stimulus : Stimulus) :
    session.step stimulus = session ∨ Pass .outside session (session.step stimulus) :=
  (step_course session stimulus).pass

theorem step_moves (session : Session) (stimulus : Stimulus) :
    Moves .outside session .outside (session.step stimulus) := by
  rcases step_pass session stimulus with same | pass
  · rw [same]
    exact .refl
  · exact pass.moves

theorem run_moves (session : Session) (stimuli : List Stimulus) :
    Moves .outside session .outside (session.run stimuli) := by
  induction stimuli generalizing session with
  | nil => exact .refl
  | cons stimulus rest ih => exact (step_moves session stimulus).trans (ih (session.step stimulus))

/-- What can be reached from a session that nobody has called yet. -/
def Reached (point : Point) (session : Session) : Prop :=
  ∃ policy, Moves .outside (initial policy) point session

theorem Reached.run (policy : Policy) (stimuli : List Stimulus) :
    Reached .outside ((initial policy).run stimuli) :=
  ⟨policy, run_moves (initial policy) stimuli⟩

theorem Reached.trans {point last : Point} {session final : Session}
    (reached : Reached point session) (moves : Moves point session last final) :
    Reached last final := by
  obtain ⟨policy, before⟩ := reached
  exact ⟨policy, before.trans moves⟩

/-- What holds at first and is preserved by every move holds everywhere. -/
theorem Reached.induction {motive : Point → Session → Prop}
    (first : ∀ policy, motive .outside (initial policy))
    (next : ∀ point session last final, Reached point session → motive point session →
      Move point session last final → motive last final)
    {point : Point} {session : Session} (reached : Reached point session) :
    motive point session := by
  obtain ⟨policy, moves⟩ := reached
  induction moves with
  | refl => exact first policy
  | tail before move ih => exact next _ _ _ _ ⟨policy, before⟩ ih move

end Session

end Contactless
