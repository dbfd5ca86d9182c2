import Contactless.Proofs.Apdu.Answers
import Contactless.Proofs.Session.Timekeeping

set_option autoImplicit false

namespace Contactless

def SessionEvent.caller? : SessionEvent → Option CallId
  | .called call _ | .requested call | .granted call | .ended call _ | .dropped call
  | .drained call _ | .taken call _ _ | .begun call _ _ | .beginEnded call _ _
  | .repolled call _ | .connecting call _ _ | .connectEnded call _ _ | .acknowledged call
  | .attached call _ _ _ _ | .paused call _ | .sent call _ _ | .answered call _ _ => some call
  | .opened _ | .closed _ | .noticed _ _ | .dismissed _ | .alerted _ => none

/-- The answer to the last command halts an exchange that has these commands left to send. -/
inductive Halts (rest : List Bytes) : Except LinkFault Bytes → SessionError → Prop where
  | lost (fault : LinkFault) : Halts rest (.error fault) (.link fault)
  | short (bytes : Bytes) (short : bytes.length < 2) :
      Halts rest (.ok bytes) (.response (.incomplete bytes.length))
  /-- Only a command that is not the last has to be answered by success. -/
  | refused (payload : Bytes) (status : StatusWord) (fault : CardFault)
      (failed : status ≠ .success) (named : CardFault.ofStatus? status = some fault)
      (more : rest ≠ []) :
      Halts rest (.ok (payload ++ status.toBytes)) (.card fault)

/-- The answer lets the exchange go on, or ends it well. -/
def Passes (rest : List Bytes) (answer : Except LinkFault Bytes) : Prop :=
  ∀ error, ¬ Halts rest answer error

section

variable {rest : List Bytes} {answer : Except LinkFault Bytes} {error other : SessionError}

/-- An answer with a status word halts the exchange by nothing but the verdict of the card. -/
theorem Halts.of_status {payload : Bytes} {status : StatusWord}
    (halts : Halts rest (.ok (payload ++ status.toBytes)) error) :
    rest ≠ [] ∧ ∃ fault, CardFault.ofStatus? status = some fault ∧ error = .card fault := by
  generalize same : payload ++ status.toBytes = bytes at halts
  cases halts with
  | short bytes short =>
      have long := congrArg List.length same
      rw [List.length_append, StatusWord.toBytes_length] at long
      omega
  | refused other status' fault failed named more =>
      have read := congrArg Response.decode same
      simp only [Response.decode_append, Except.ok.injEq, Response.mk.injEq] at read
      exact ⟨more, fault, read.2 ▸ named, rfl⟩

theorem Halts.unique (halts : Halts rest answer error) (again : Halts rest answer other) :
    other = error := by
  cases halts with
  | lost fault =>
      cases again
      rfl
  | short bytes short =>
      cases again with
      | short => rfl
      | refused payload status =>
          rw [List.length_append, StatusWord.toBytes_length] at short
          omega
  | refused payload status fault failed named more =>
      obtain ⟨_, fault', named', rfl⟩ := again.of_status
      rw [named, Option.some.injEq] at named'
      rw [named']

/-- An answer that lets the exchange go on has a status word, and it reports success unless it was
the answer to the last command. -/
theorem passes_iff :
    Passes rest answer ↔ ∃ payload status, answer = .ok (payload ++ StatusWord.toBytes status) ∧
      (rest ≠ [] → status = .success) := by
  constructor
  · intro passes
    cases answer with
    | error fault => exact absurd (.lost fault) (passes _)
    | ok bytes =>
        by_cases short : bytes.length < 2
        · exact absurd (.short bytes short) (passes _)
        · obtain ⟨payload, status, rfl⟩ := exists_status short
          refine ⟨payload, status, rfl, fun more => ?_⟩
          by_contra failed
          obtain ⟨fault, named⟩ := CardFault.exists_of_failed failed
          exact passes _ (.refused payload status fault failed named more)
  · rintro ⟨payload, status, rfl, succeeds⟩ error halts
    obtain ⟨more, fault, named, _⟩ := halts.of_status
    rw [succeeds more] at named
    cases named

end

namespace Session

def records (history : List SessionEvent) (call : CallId) : List SessionEvent :=
  history.filter (·.caller? = some call)

variable {session final : Session} {call : CallId} {tag : Tag} {rest : List Bytes}

@[simp] theorem records_append (first second : List SessionEvent) (call : CallId) :
    records (first ++ second) call = records first call ++ records second call :=
  List.filter_append ..

@[simp] theorem records_nil (call : CallId) : records [] call = [] := rfl

@[simp] theorem records_cons (event : SessionEvent) (later : List SessionEvent) (call : CallId) :
    records (event :: later) call =
      if event.caller? = some call then event :: records later call else records later call := by
  simp [records, List.filter_cons]

theorem caller?_of_concerns {event : SessionEvent} (concerns : event.concerns call = true) :
    event.caller? = some call := by
  cases event <;> simp_all [SessionEvent.concerns, SessionEvent.caller?]

theorem dealings_records (history : List SessionEvent) (call : CallId) :
    dealings (records history call) call = dealings history call := by
  unfold dealings records
  rw [List.filter_filter]
  refine List.filter_congr fun event _ => ?_
  cases concerns : event.concerns call with
  | false => rfl
  | true => simp [caller?_of_concerns concerns]

@[simp] theorem records_hangingUp (session : Session) (farewell : Option String) (call : CallId) :
    records (session.hangingUp farewell) call = [] := by
  unfold hangingUp closing
  split
  · rfl
  · split <;> simp [SessionEvent.caller?]

@[simp] theorem records_reporting (session : Session) (bridge : BridgeId) (notice : TagNotice)
    (call : CallId) : records (session.reporting bridge notice) call = [] := by
  unfold reporting
  split
  · rfl
  · cases notice <;> simp [SessionEvent.caller?]

/-- A move does not record anything about a call that has no part in the session. -/
theorem NotPending.records_move {point last : Point} (apart : NotPending point session call)
    (lined : Lined point session) (sound : Sound point session)
    (move : Move point session last final) :
    records final.history call = records session.history call := by
  obtain ⟨new, grown, moments⟩ := sound.moments move
  have idle : point.worker? ≠ some call := fun working =>
    apart.line (Lock.mem_line.mpr (.inl (lined.worker call working)))
  have absent : ∀ stage, session.stage? call ≠ some stage := fun stage pending =>
    apart.line (lined.pending call stage pending)
  have nothing : records new call = [] := by
    refine List.filter_eq_nil_iff.mpr fun event member named => ?_
    have named : event.caller? = some call := by simpa using named
    obtain ⟨mid, moment⟩ := moments.of_mem member
    cases event <;> cases named
    case called request =>
      obtain ⟨_, _, rfl, _⟩ := moment
      exact Nat.lt_irrefl _ apart.issued
    case requested =>
      obtain ⟨⟨job, rfl⟩, _⟩ := moment
      exact apart.asker rfl
    case granted =>
      rcases moment with ⟨job, rfl, _⟩ | ⟨_, next⟩
      · exact apart.asker rfl
      · exact apart.line (Lock.mem_line.mpr (.inr (List.mem_of_mem_head? next)))
    case ended outcome =>
      rcases moment with rfl | ⟨request, error, rfl, _⟩
      · exact idle rfl
      · exact apart.asker rfl
    case dropped =>
      obtain ⟨_, stage, pending⟩ := moment
      exact absent stage pending
    case connectEnded tag refusal =>
      obtain ⟨_, ⟨goal, bridge, pending⟩, _⟩ := moment
      exact absent _ pending
    case acknowledged =>
      obtain ⟨goal, bridge, tag, _, pending, _⟩ := moment
      exact absent _ pending
    case answered tag answer =>
      obtain ⟨_, ⟨rest, pending⟩, _⟩ := moment
      exact absent _ pending
    case attached goal bridge tag now =>
      obtain ⟨rfl, _⟩ := moment
      exact idle rfl
    case drained bridge | repolled bridge =>
      obtain ⟨chain, connection, rfl, _⟩ := moment
      exact idle rfl
    case connecting bridge tag =>
      obtain ⟨goal, tags, rfl, _⟩ := moment
      exact idle rfl
    case paused length =>
      obtain ⟨chain, rfl⟩ := moment
      exact idle rfl
    case sent tag command =>
      obtain ⟨chain, rfl, _⟩ := moment
      exact idle rfl
    all_goals
      obtain ⟨⟨goal, rfl⟩, _⟩ := moment
      exact idle rfl
  rw [grown, records_append, nothing, List.append_nil]

theorem NotPending.records_moves {point last : Point} (reached : Reached point session)
    (apart : NotPending point session call) (moves : Moves point session last final) :
    records final.history call = records session.history call := by
  induction moves with
  | refl => rfl
  | tail before move ih =>
      have between := reached.trans before
      exact ((apart.moves reached before).records_move between.lined between.sound move).trans ih

theorem Reached.records_of_ended {outcome : Outcome} (reached : Reached .outside session)
    (ended : SessionEvent.ended call outcome ∈ session.history) (stimuli : List Stimulus) :
    records (session.run stimuli).history call = records session.history call :=
  (reached.departed.2 call (mem_departures ended)).records_moves reached (run_moves session stimuli)

/-- The call waits where it waited, and the connection is what it was. -/
structure Undisturbed (session final : Session) (call : CallId) : Prop where
  stage : final.stage? call = session.stage? call
  phase : final.phase = session.phase
  connection : final.connection = session.connection
  records : records final.history call = records session.history call

theorem Undisturbed.refl (session : Session) (call : CallId) : Undisturbed session session call :=
  ⟨rfl, rfl, rfl, rfl⟩

theorem undisturbed_acquire {asker : CallId} (held : session.lock.holder = some call)
    (apart : call ≠ asker) (job : Job) (around : Surroundings) :
    Undisturbed session (session.acquire asker job around) call := by
  have other : asker ≠ call := Ne.symm apart
  simp only [acquire, emit_fields, held]
  refine ⟨?_, by simp, by simp, ?_⟩
  · rw [stage?_park, if_neg apart]
    rfl
  · simp [SessionEvent.caller?, other]

theorem Undisturbed.trans {middle : Session} (first : Undisturbed session middle call)
    (second : Undisturbed middle final call) : Undisturbed session final call :=
  ⟨second.stage.trans first.stage, second.phase.trans first.phase,
    second.connection.trans first.connection, second.records.trans first.records⟩

theorem undisturbed_emit {event : SessionEvent} (other : event.caller? ≠ some call) :
    Undisturbed session (session.emit event) call :=
  ⟨rfl, rfl, rfl, by simp [other]⟩

theorem undisturbed_ask (held : session.lock.holder = some call) (issued : call < session.issued)
    (request : Request) (around : Surroundings) :
    Undisturbed session (session.ask request around) call := by
  have apart : call ≠ session.issued := Nat.ne_of_lt issued
  have made : Undisturbed session ({ session with issued := session.issued + 1 }.emit
      (.called session.issued request)) call :=
    ⟨rfl, rfl, rfl, by simp [SessionEvent.caller?, Ne.symm apart]⟩
  have ends : ∀ (middle : Session) (outcome : Outcome),
      Undisturbed middle (middle.emit (.ended session.issued outcome)) call :=
    fun _ _ => undisturbed_emit fun same => apart (Option.some.inj same).symm
  have waits : ∀ (middle : Session) (job : Job), middle.lock.holder = some call →
      Undisturbed middle (middle.acquire session.issued job around) call :=
    fun _ job taken => undisturbed_acquire taken apart job around
  refine made.trans ?_
  unfold Session.ask
  cases request with
  | start purpose =>
      dsimp only
      split
      · exact ends _ _
      · split
        · exact ends _ _
        · exact waits _ _ held
  | finish cause =>
      refine Undisturbed.trans ?_ (waits (Session.hangUp _ _) _ (by simpa using held))
      exact ⟨by simp, by simp, by simp, by simp⟩
  | exchange commands =>
      dsimp only
      split
      · exact ends _ _
      · exact waits _ _ held
  | look => exact waits _ _ held

/-- Only an answer of the tag, or abandoning the call, makes a difference to a call that waits for
the answer. -/
theorem Reached.undisturbed (reached : Reached .outside session)
    (transmitting : session.stage? call = some (.transmitting tag rest)) {stimulus : Stimulus}
    (stays : stimulus ≠ .drop call)
    (unanswered : ∀ answer around, stimulus ≠ .wake call (.replied answer) around) :
    Undisturbed session (session.step stimulus) call := by
  have lined := reached.lined
  have held := lined.holder_of_stage transmitting (by simp)
  cases stimulus with
  | call request around =>
      exact undisturbed_ask held (lined.issued call (lined.pending _ _ transmitting)) request around
  | wake caller signal around =>
      by_cases same : caller = call
      · subst same
        cases signal with
        | replied answer => exact absurd rfl (unanswered answer around)
        | look | connected | rested =>
            simp only [Session.step, wake, transmitting]
            exact .refl session caller
      · rw [Session.step, lined.wake_of_other held same]
        exact .refl session call
  | notice bridge notice => exact ⟨by simp [Session.step], by simp [Session.step],
      by simp [Session.step], by simp [Session.step]⟩
  | drop caller =>
      have apart : call ≠ caller := fun same => stays (by rw [same])
      cases pending : session.stage? caller with
      | none =>
          simp only [Session.step, drop, pending]
          exact .refl session call
      | some stage =>
          -- Nobody but the holder of the lock waits anywhere but in line.
          obtain ⟨job, rfl⟩ := lined.queued held (Ne.symm apart) pending
          have waits : session.lock.holder ≠ some caller := by simp [held, apart]
          simp only [Session.step, drop, pending, if_neg waits]
          refine ⟨(stage?_forget _ call caller).trans (if_neg apart), by simp, by simp, ?_⟩
          simp [SessionEvent.caller?, Ne.symm apart]
  | alert text => exact undisturbed_emit (by simp [SessionEvent.caller?])

theorem step_replied (transmitting : session.stage? call = some (.transmitting tag rest))
    (answer : Except LinkFault Bytes) (around : Surroundings) :
    session.step (.wake call (.replied answer) around) =
      session.receive call tag rest answer := by
  simp only [Session.step, wake, transmitting]

/-- The call comes to its end, and what else is recorded just comes along with that. -/
structure EndsCall (session final : Session) (call : CallId) (outcome : Outcome) : Prop where
  told : ∃ mid, final.history = session.history ++ (mid ++ [.ended call outcome]) ∧
    ∀ event ∈ mid, event.isAside = true ∧ event.caller? ≠ some call
  gone : final.stage? call = none

theorem EndsCall.records {outcome : Outcome} (closes : EndsCall session final call outcome) :
    records final.history call = records session.history call ++ [.ended call outcome] := by
  obtain ⟨mid, grown, others⟩ := closes.told
  have silent : Session.records mid call = [] :=
    List.filter_eq_nil_iff.mpr fun event member => by simpa using (others event member).2
  rw [grown, records_append, records_append, silent]
  simp [SessionEvent.caller?]

theorem EndsCall.records_run {outcome : Outcome} (closes : EndsCall session final call outcome)
    (reached : Reached .outside final) (stimuli : List Stimulus) :
    Session.records (final.run stimuli).history call =
      Session.records session.history call ++ [.ended call outcome] := by
  obtain ⟨mid, told, _⟩ := closes.told
  have ended : SessionEvent.ended call outcome ∈ final.history := by
    rw [told]
    simp
  rw [reached.records_of_ended ended stimuli, closes.records]

theorem endsCall_conclude (alone : call ∉ session.lock.waiting) (outcome : Outcome) :
    EndsCall session (session.conclude call outcome) call outcome := by
  refine ⟨⟨session.lock.release.holder.toList.map .granted, by simp, ?_⟩, by simp⟩
  intro event member
  refine ⟨isAside_granted _ event member, ?_⟩
  obtain ⟨next, granted, rfl⟩ := List.mem_map.mp member
  rintro same
  obtain rfl : next = call := Option.some.inj same
  exact alone (List.mem_of_mem_head? (Option.mem_toList.mp granted))

theorem endsCall_fail (alone : call ∉ session.lock.waiting) (error : SessionError) :
    EndsCall session (session.fail call error) call (.error error) := by
  have alone' : call ∉ (session.shutDown error.farewell).lock.waiting := by simpa using alone
  obtain ⟨⟨mid, grown, others⟩, gone⟩ := endsCall_conclude alone' (.error error)
  refine ⟨⟨session.hangingUp error.farewell ++ mid, ?_, ?_⟩, gone⟩
  · rw [fail, grown]
    simp
  · intro event member
    rcases List.mem_append.mp member with hung | along
    · have aside := isAside_hangingUp session _ event hung
      have silent : Session.records (session.hangingUp error.farewell) call = [] := by simp
      exact ⟨aside, by simpa using List.filter_eq_nil_iff.mp silent event hung⟩
    · exact others event along

/-- The phase is connected, and the connection is the one from before. -/
structure ConnectionKept (session final : Session) : Prop where
  phase : final.phase = .connected
  connection : final.connection = session.connection

theorem receive_of_halts {answer : Except LinkFault Bytes} {error : SessionError}
    (halts : Halts rest answer error) :
    session.receive call tag rest answer =
      if error.keepsConnection then
        (session.emit (.answered call tag answer)).conclude call (.error error)
      else (session.emit (.answered call tag answer)).fail call error := by
  cases halts with
  | lost fault => rfl
  | short bytes short =>
      simp [receive, Response.decode_of_short short, SessionError.keepsConnection]
  | refused payload status fault failed named more =>
      cases rest with
      | nil => exact absurd rfl more
      | cons next later =>
          simp [receive, Chain.ofList?, named, SessionError.keepsConnection]

theorem receive_last (payload : Bytes) (status : StatusWord) :
    session.receive call tag [] (.ok (payload ++ status.toBytes)) =
      (session.emit (.answered call tag (.ok (payload ++ status.toBytes)))).conclude call
        (.ok (.answer (payload ++ status.toBytes))) := by
  simp [receive, Chain.ofList?]

theorem receive_next (payload next : Bytes) (later : List Bytes) :
    session.receive call tag (next :: later) (.ok (payload ++ StatusWord.success.toBytes)) =
      (session.emit (.answered call tag (.ok (payload ++ StatusWord.success.toBytes)))).send call
        tag ⟨next, later⟩ := by
  simp [receive, Chain.ofList?]

section

variable (reached : Reached .outside session)
  (transmitting : session.stage? call = some (.transmitting tag rest)) (around : Surroundings)

include reached transmitting

theorem Reached.not_waiting : call ∉ session.lock.waiting :=
  reached.lined.not_waiting (reached.lined.holder_of_stage transmitting (by simp))

theorem Reached.connected_of_transmitting : session.phase = .connected := by
  have fits := reached.sound.fits
  rw [Point.place,
    place_of_stage (reached.lined.holder_of_stage transmitting (by simp)) transmitting] at fits
  exact fits.1

/-- An answer that halts the exchange ends the call at once. Unless it is a verdict of the card, the
session goes down. -/
theorem Reached.halted {answer : Except LinkFault Bytes} {error : SessionError}
    (halts : Halts rest answer error) :
    EndsCall (session.emit (.answered call tag answer))
        (session.step (.wake call (.replied answer) around)) call (.error error) ∧
      (error.keepsConnection = true →
        ConnectionKept session (session.step (.wake call (.replied answer) around))) ∧
      (error.keepsConnection = false →
        Down (session.step (.wake call (.replied answer) around))) := by
  have connected := reached.connected_of_transmitting transmitting
  have alone : call ∉ (session.emit (.answered call tag answer)).lock.waiting :=
    reached.not_waiting transmitting
  rw [step_replied transmitting, receive_of_halts halts]
  cases keepsConnection : error.keepsConnection with
  | true =>
      exact ⟨endsCall_conclude alone _, fun _ => ⟨by simpa using connected, by simp⟩, by simp⟩
  | false =>
      refine ⟨endsCall_fail alone error, by simp, fun _ => down_fail ?_⟩
      simp [connected]

/-- The answer to the last command ends the call, whatever its status word says. -/
theorem Reached.finished (last : rest = []) (payload : Bytes) (status : StatusWord) :
    EndsCall (session.emit (.answered call tag (.ok (payload ++ status.toBytes))))
        (session.step (.wake call (.replied (.ok (payload ++ status.toBytes))) around)) call
        (.ok (.answer (payload ++ status.toBytes))) ∧
      ConnectionKept session
        (session.step (.wake call (.replied (.ok (payload ++ status.toBytes))) around)) := by
  have connected := reached.connected_of_transmitting transmitting
  have alone : call ∉ (session.emit
      (.answered call tag (.ok (payload ++ status.toBytes)))).lock.waiting :=
    reached.not_waiting transmitting
  subst last
  rw [step_replied transmitting, receive_last]
  exact ⟨endsCall_conclude alone _, by simpa using connected, by simp⟩

end

theorem Reached.answer_long {point : Point} {bytes : Bytes} (reached : Reached point session)
    (ended : SessionEvent.ended call (.ok (.answer bytes)) ∈ session.history) :
    ¬ bytes.length < 2 := by
  have law : Along (fun _ event => event = .ended call (.ok (.answer bytes)) → ¬ bytes.length < 2)
      [] session.history := by
    refine reached.along ?_
    rintro point session last before _ reached moment rfl short
    rcases moment with rfl | ⟨_, _, _, failed⟩
    · obtain ⟨_, _, _, move⟩ := reached.last_move rfl
      cases move with
      | answerLast call tag bytes response pending read =>
          rw [Response.decode_of_short short] at read
          cases read
      | report bridge notice hears => cases hears
    · cases failed
  obtain ⟨_, holds⟩ := law.of_mem ended
  exact holds rfl

/-- All that an exchange can return is an answer with a status word. -/
theorem Reached.answer_of_exchange {point : Point} {commands : List Bytes} {value : Value}
    (reached : Reached point session) (made : asked session.history call = [.exchange commands])
    (ended : SessionEvent.ended call (.ok value) ∈ session.history) :
    ∃ payload status, value = .answer (payload ++ StatusWord.toBytes status) := by
  obtain ⟨request, only, fulfils⟩ := reached.fulfilled ended
  obtain rfl := List.singleton_inj.mp (made.symm.trans only)
  cases value with
  | answer bytes =>
      obtain ⟨payload, status, rfl⟩ := exists_status (reached.answer_long ended)
      exact ⟨payload, status, rfl⟩
  | done | snapshot => cases fulfils

theorem Reached.nothing_left {command : Bytes} (reached : Reached .outside session)
    (made : asked session.history call = [.exchange [command]])
    (transmitting : session.stage? call = some (.transmitting tag rest)) : rest = [] := by
  obtain ⟨owes, sent, before, grown⟩ :=
    reached.served.stage call _ transmitting (by simp [Point.worker?])
  have whole : sentBy session.history call ++ rest = [command] := by
    have same := made.symm.trans owes
    simpa using same.symm
  have some_sent : sentBy session.history call ≠ [] := by
    rw [sentBy, ← grown, List.filterMap_append]
    simp [SessionEvent.command?]
  cases started : sentBy session.history call with
  | nil => exact absurd started some_sent
  | cons first later =>
      rw [started, List.cons_append, List.cons.injEq, List.append_eq_nil_iff] at whole
      exact whole.2.2

theorem Sound.called_move {point last : Point} {new : List SessionEvent}
    (sound : Sound point session) (move : Move point session last final)
    (told : final.history = session.history ++ new) {caller : CallId} {request : Request}
    (member : .called caller request ∈ new) :
    point = .outside ∧ last = .asking caller request := by
  obtain ⟨recorded, grown, moments⟩ := sound.moments move
  rw [told, List.append_cancel_left_eq] at grown
  obtain ⟨mid, moment⟩ := moments.of_mem (grown ▸ member)
  exact ⟨moment.1, moment.2.1⟩

theorem Pass.uncalled {point : Point} {new : List SessionEvent} (reached : Reached point session)
    (pass : Pass point session final) (runs : point.rests = false)
    (told : final.history = session.history ++ new) (caller : CallId) (request : Request) :
    .called caller request ∉ new := by
  have running : point ≠ .outside := by
    rintro rfl
    cases runs
  induction pass generalizing new with
  | last move => exact fun member => running (reached.sound.called_move move told member).1
  | head move goes rest ih =>
      have between := reached.trans (.single move)
      obtain ⟨one, grown, _⟩ := reached.sound.moments move
      obtain ⟨two, more⟩ := between.grows rest.moves
      rw [← more, grown, List.append_assoc, List.append_cancel_left_eq] at told
      intro member
      rcases List.mem_append.mp (told ▸ member) with early | late
      · exact running (reached.sound.called_move move grown early).1
      · refine ih between goes more.symm ?_ late
        rintro rfl
        cases goes

theorem Reached.uncalled {stimulus : Stimulus} {new : List SessionEvent}
    (reached : Reached .outside session) (other : ∀ request around, stimulus ≠ .call request around)
    (told : (session.step stimulus).history = session.history ++ new) (caller : CallId)
    (request : Request) : .called caller request ∉ new := by
  have course := step_course session stimulus
  generalize session.step stimulus = final at course told
  have goes : ∀ {point : Point} {middle : Session}, Move .outside session point middle →
      point.rests = false → (∀ call request, point ≠ .asking call request) →
      Pass point middle final → .called caller request ∉ new := by
    intro point middle move runs apart pass member
    have between := reached.trans (.single move)
    obtain ⟨one, grown, _⟩ := reached.sound.moments move
    obtain ⟨two, more⟩ := between.grows pass.moves
    rw [← more, grown, List.append_assoc, List.append_cancel_left_eq] at told
    rcases List.mem_append.mp (told ▸ member) with early | late
    · exact apart _ _ (reached.sound.called_move move grown early).2
    · exact pass.uncalled between runs more.symm caller request late
  cases course with
  | idle =>
      rw [List.self_eq_append_right.mp told]
      exact List.not_mem_nil
  | aside move =>
      intro member
      cases (reached.sound.called_move move told member).2
  | ask pass => exact absurd rfl (other _ _)
  | turn queued handed pass => exact goes (.turn _ _ queued handed) rfl (by simp) pass
  | proceed pending working proceeds =>
      obtain ⟨point, middle, move, works, pass⟩ := proceeds
      refine goes move (rests_of_works works) ?_ pass
      rintro call request rfl
      cases works

end Session

end Contactless
