import Contactless.Proofs.Desk.Fields
import Contactless.Proofs.Session.Outcome
import Contactless.Proofs.Vendor.Balance

/-!
The dealings of a desk with the vendor's kit.

Whatever the desk asks the kit for is settled before anything else happens: a buffer goes back, and
a reply of nothing or a verdict ends the visit that it was asked for. No other visit ends by a fault
of the kit.
-/

set_option autoImplicit false

namespace Contactless

def DeskEvent.vendor? : DeskEvent → Option Vendor.Event
  | .vendor event => some event
  | _ => none

def DeskEvent.isPlain : DeskEvent → Bool
  | .vendor _ | .closed _ (.ok (.version _)) | .closed _ (.error (.session (.vendor _)))
  | .appointed (.error _) => false
  | .session _ | .closed _ _ | .abandoned _ | .appointed (.ok ()) => true

def versionIn (call : Vendor.BufferCall) (buffer : Bytes) : Except DeskError DeskValue :=
  match FirmwareVersion.ofField buffer with
  | .ok version => .ok (.version version)
  | .error cause => .error (.session (.vendor (.malformed call.name cause)))

def verdictOf (call : Vendor.CodeCall) (code : Int) : Except DeskError DeskValue :=
  if code = 0 then .ok (.value .done) else .error (.session (.vendor (.rejected call.name code)))

/-- What the kit makes of an answer that reported success: one call with the whole answer, and what
it gives settles the outcome of the visit. -/
inductive Interpreted (kit : Vendor.Kit) (answer : Bytes) :
    Operation → List Vendor.Event → Except DeskError DeskValue → Prop where
  | selected (aid : Bytes) :
      Interpreted kit answer (.selectWallet aid)
        [.judged (.selectResponse answer) (kit.code (.selectResponse answer))]
        (verdictOf (.selectResponse answer) (kit.code (.selectResponse answer)))
  | shaken :
      Interpreted kit answer .shakeHands
        [.judged (.handshakeResponse answer) (kit.code (.handshakeResponse answer))]
        (verdictOf (.handshakeResponse answer) (kit.code (.handshakeResponse answer)))
  | nothing (given : kit.buffer (.firmwareResponse answer) = none) :
      Interpreted kit answer .readFirmware [.handedOut (.firmwareResponse answer) none]
        (.error (.session (.vendor (.nothing (Vendor.BufferCall.firmwareResponse answer).name))))
  | version (buffer : Bytes) (given : kit.buffer (.firmwareResponse answer) = some buffer) :
      Interpreted kit answer .readFirmware
        [.handedOut (.firmwareResponse answer) (some buffer), .bufferReleased buffer.length]
        (versionIn (.firmwareResponse answer) buffer)

/-- A history in which all that the kit was asked for is settled. -/
inductive CallsSettled : List DeskEvent → Prop
  | nil : CallsSettled []
  | plain {event : DeskEvent} {rest : List DeskEvent} (plain : event.isPlain = true)
      (later : CallsSettled rest) : CallsSettled (event :: rest)
  | built {rest : List DeskEvent} (call : Vendor.BufferCall) (buffer : Bytes) (caller : CallId)
      (later : CallsSettled rest) :
      CallsSettled (.vendor (.handedOut call (some buffer)) ::
        .vendor (.bufferReleased buffer.length) ::
        .session (.called caller (.exchange [buffer])) :: rest)
  | nothing {rest : List DeskEvent} (call : Vendor.BufferCall) (visit : Nat)
      (later : CallsSettled rest) :
      CallsSettled (.vendor (.handedOut call none) ::
        .closed visit (.error (.session (.vendor (.nothing call.name)))) :: rest)
  | read {rest : List DeskEvent} (call : Vendor.BufferCall) (buffer : Bytes) (visit : Nat)
      (later : CallsSettled rest) :
      CallsSettled (.vendor (.handedOut call (some buffer)) ::
        .vendor (.bufferReleased buffer.length) :: .closed visit (versionIn call buffer) :: rest)
  | judged {rest : List DeskEvent} (call : Vendor.CodeCall) (code : Int) (visit : Nat)
      (later : CallsSettled rest) :
      CallsSettled (.vendor (.judged call code) :: .closed visit (verdictOf call code) :: rest)
  | granted {rest : List DeskEvent} (wallet : Nat) (later : CallsSettled rest) :
      CallsSettled (.vendor (.walletGranted wallet) :: rest)
  | released {rest : List DeskEvent} (wallet : Nat) (later : CallsSettled rest) :
      CallsSettled (.vendor (.walletReleased wallet) :: rest)
  | refused {rest : List DeskEvent} (later : CallsSettled rest) :
      CallsSettled
        (.vendor .walletRefused :: .appointed (.error (.nothing Vendor.walletCall)) :: rest)

namespace CallsSettled

variable {first second : List DeskEvent}

theorem append (one : CallsSettled first) (two : CallsSettled second) :
    CallsSettled (first ++ second) := by
  induction one with
  | nil => exact two
  | plain plain _ ih => exact .plain plain ih
  | built call buffer caller _ ih => exact .built call buffer caller ih
  | nothing call visit _ ih => exact .nothing call visit ih
  | read call buffer visit _ ih => exact .read call buffer visit ih
  | judged call code visit _ ih => exact .judged call code visit ih
  | granted wallet _ ih => exact .granted wallet ih
  | released wallet _ ih => exact .released wallet ih
  | refused _ ih => exact .refused ih

theorem vendor?_of_plain {event : DeskEvent} (plain : event.isPlain = true) :
    event.vendor? = none := by
  cases event <;> first | rfl | cases plain

theorem returned (dealt : CallsSettled first) : Vendor.BuffersReturned DeskEvent.vendor? first := by
  induction dealt with
  | nil => exact .nil
  | plain plain _ ih => exact .aside (by simp [vendor?_of_plain plain]) ih
  | built call buffer caller _ ih => exact .lent rfl rfl (.aside (by simp [DeskEvent.vendor?]) ih)
  | read call buffer visit _ ih => exact .lent rfl rfl (.aside (by simp [DeskEvent.vendor?]) ih)
  | nothing call visit _ ih | judged call code visit _ ih | refused _ ih =>
      refine .aside ?_ (.aside (by simp [DeskEvent.vendor?]) ih)
      simp [DeskEvent.vendor?, Vendor.Event.movesBuffer]
  | granted wallet _ ih | released wallet _ ih =>
      exact .aside (by simp [DeskEvent.vendor?, Vendor.Event.movesBuffer]) ih

end CallsSettled

namespace Session

variable {point last : Point} {session final : Session} {new : List SessionEvent}

/-- A call is about to end by a fault of the kit. -/
def FailsBy (fault : Vendor.Fault) : Point → Prop
  | .failing _ error => error = .vendor fault
  | .leaving _ outcome => outcome = .error (.vendor fault)
  | _ => False

theorem failsBy_of_ended {fault : Vendor.Fault} {call : CallId} (reached : Reached point session)
    (move : Move point session last final) (told : final.history = session.history ++ new)
    (ended : SessionEvent.ended call (.error (.vendor fault)) ∈ new) : FailsBy fault point := by
  obtain ⟨before, after, rfl⟩ := List.append_of_mem ended
  rcases reached.sound.moment move told with rfl | ⟨request, error, rfl, same⟩
  · rfl
  · obtain ⟨refusal, _⟩ := refused_of_asking move told
    cases refusal

theorem Reached.not_failsBy {fault : Vendor.Fault} (reached : Reached point session) :
    ¬ FailsBy fault point := by
  refine reached.induction (motive := fun point _ => ¬ FailsBy fault point) (fun _ => id) ?_
  intro point session last final _ before move blaming
  refine before ?_
  cases move with
  | fail call error => exact Except.error.inj blaming
  | report bridge notice hears => exact blaming
  | _ => cases blaming

theorem Reached.ended_not_vendor {fault : Vendor.Fault} {call : CallId}
    (reached : Reached point session) :
    SessionEvent.ended call (.error (.vendor fault)) ∉ session.history := by
  refine reached.induction (motive := fun _ session =>
    SessionEvent.ended call (.error (.vendor fault)) ∉ session.history) (by simp [initial]) ?_
  intro point session last final reached before move ended
  obtain ⟨new, grown, _⟩ := reached.sound.moments move
  rcases List.mem_append.mp (grown ▸ ended) with old | recent
  · exact before old
  · exact reached.not_failsBy (failsBy_of_ended reached move grown recent)

end Session

namespace Desk

/-- Between the two desks all that the kit was asked for is settled. -/
def SettlesCalls (desk final : Desk) : Prop :=
  ∃ new, final.history = desk.history ++ new ∧ CallsSettled new

variable {desk middle final : Desk} (kit : Vendor.Kit)

theorem SettlesCalls.refl (desk : Desk) : SettlesCalls desk desk := ⟨[], by simp, .nil⟩

theorem SettlesCalls.trans (first : SettlesCalls desk middle) (second : SettlesCalls middle final) :
    SettlesCalls desk final := by
  obtain ⟨one, grown, dealt⟩ := first
  obtain ⟨two, later, settled⟩ := second
  exact ⟨one ++ two, by rw [later, grown, List.append_assoc], dealt.append settled⟩

theorem settlesCalls_tell (desk : Desk) {new : List DeskEvent} (dealt : CallsSettled new) :
    SettlesCalls desk { desk with history := desk.history ++ new } := ⟨new, rfl, dealt⟩

theorem settlesCalls_emit (desk : Desk) {event : DeskEvent} (plain : event.isPlain = true) :
    SettlesCalls desk (desk.emit event) := settlesCalls_tell desk (.plain plain .nil)

theorem settlesCalls_settle (desk : Desk) (wallet : Option Nat) :
    SettlesCalls desk (desk.settle wallet) := by
  unfold settle
  split
  · exact .refl desk
  · split
    · exact .refl desk
    · exact settlesCalls_tell desk (.released _ .nil)

theorem settlesCalls_discharge (desk : Desk) (visit : Visit) :
    SettlesCalls desk (desk.discharge visit) :=
  settlesCalls_settle (desk.forget visit) _

theorem verdictOf_judge (call : Vendor.CodeCall) :
    ((((kit.judge call).map fun _ => DeskValue.value .done).result.mapError
      SessionError.vendor).mapError DeskError.session) = verdictOf call (kit.code call) := by
  by_cases accepted : kit.code call = 0 <;>
    simp [Vendor.Kit.judge, Vendor.Attempt.map, verdictOf, accepted, Except.map, Except.mapError]

theorem interpreted_interpret (operation : Operation) (answer : Bytes) :
    Interpreted kit answer operation (operation.interpret kit answer).events
      (((operation.interpret kit answer).result.mapError SessionError.vendor).mapError
        .session) := by
  cases operation with
  | selectWallet aid =>
      rw [Operation.interpret, verdictOf_judge]
      exact .selected aid
  | shakeHands =>
      rw [Operation.interpret, verdictOf_judge]
      exact .shaken
  | readFirmware =>
      cases given : kit.buffer (.firmwareResponse answer) with
      | none =>
          have nothing := Interpreted.nothing given
          simpa [Operation.interpret, Vendor.Kit.firmwareVersion, Vendor.Kit.copy_of_none given,
            Vendor.Attempt.map, Except.map, Except.mapError] using nothing
      | some buffer =>
          have version := Interpreted.version buffer given
          cases field : FirmwareVersion.ofField buffer <;>
            simpa [Operation.interpret, Vendor.Kit.firmwareVersion, Vendor.Kit.copy_of_some given,
              Vendor.Attempt.map, Except.map, Except.mapError, field, versionIn] using version

theorem callsSettled_of_interpreted {answer : Bytes} {operation : Operation}
    {events : List Vendor.Event} {result : Except DeskError DeskValue}
    (interpreted : Interpreted kit answer operation events result) (visit : Nat) :
    CallsSettled (events.map .vendor ++ [.closed visit result]) := by
  cases interpreted with
  | selected aid => exact .judged _ _ visit .nil
  | shaken => exact .judged _ _ visit .nil
  | nothing given => exact .nothing (.firmwareResponse answer) visit .nil
  | version buffer given => exact .read _ buffer visit .nil

/-- An operation that has got its answer either ends at once, or the kit has the last word. -/
theorem callsSettled_conclude (operation : Operation) (answer : Bytes) (visit : Nat) :
    CallsSettled ((operation.conclude kit answer).1.map .vendor ++
      [.closed visit ((operation.conclude kit answer).2.mapError .session)]) := by
  unfold Operation.conclude
  split
  · exact .plain rfl .nil
  · dsimp only
    split
    · exact .plain rfl .nil
    · exact callsSettled_of_interpreted kit (interpreted_interpret kit operation answer) visit

theorem callsSettled_closing {outcome : Outcome}
    (other : ∀ fault, outcome ≠ .error (.vendor fault)) (visit : Visit) :
    CallsSettled (closing kit visit outcome) := by
  obtain ⟨number, call, work⟩ := visit
  cases outcome with
  | ok value =>
      cases value with
      | answer bytes =>
          cases work with
          | none => exact .plain rfl .nil
          | some work => exact callsSettled_conclude kit work.2 bytes number
      | _ => exact .plain rfl .nil
  | error error =>
      cases error with
      | vendor fault => exact absurd rfl (other fault)
      | _ => exact .plain rfl .nil

theorem settlesCalls_note (desk : Desk) {event : SessionEvent}
    (other : ∀ call fault, event ≠ .ended call (.error (.vendor fault))) :
    SettlesCalls desk (desk.note kit event) := by
  have told : SettlesCalls desk (desk.emit (.session event)) := settlesCalls_emit desk rfl
  rcases note_cases desk kit event with plain | ⟨call, outcome, visit, _, ended, closed⟩
  · rw [plain]
    exact told
  · have sound : ∀ fault, outcome ≠ .error (.vendor fault) := fun fault same =>
      other call fault (by rw [ended, same])
    rw [closed, close_eq]
    exact told.trans
      ((settlesCalls_tell _ (callsSettled_closing kit sound visit)).trans
        (settlesCalls_discharge _ visit))

theorem settlesCalls_notes (desk : Desk) {events : List SessionEvent}
    (other : ∀ event ∈ events, ∀ call fault, event ≠ .ended call (.error (.vendor fault))) :
    SettlesCalls desk (events.foldl (·.note kit ·) desk) := by
  induction events generalizing desk with
  | nil => exact .refl desk
  | cons event rest ih =>
      obtain ⟨here, there⟩ := List.forall_mem_cons.mp other
      exact (settlesCalls_note kit desk here).trans (ih (desk.note kit event) there)

theorem settlesCalls_advance (reached : Session.Reached .outside desk.session)
    (stimulus : Stimulus) :
    SettlesCalls desk (desk.advance kit stimulus) := by
  have there := reached.trans (Session.step_moves desk.session stimulus)
  refine settlesCalls_notes kit { desk with session := desk.session.step stimulus } ?_
  rintro event member call fault rfl
  exact there.ended_not_vendor (List.mem_of_mem_drop member)

theorem settlesCalls_refuse (desk : Desk) {error : DeskError}
    (plain : (DeskEvent.closed desk.issued (.error error)).isPlain = true) :
    SettlesCalls desk (desk.refuse error) :=
  settlesCalls_emit { desk with issued := desk.issued + 1 } plain

/-- The desk hears of the request first, and then of what the session did about it. -/
theorem accept_eq (reached : Session.Reached .outside desk.session)
    (work : Option (Nat × Operation)) (request : Request) (around : Surroundings) :
    ∃ rest, (desk.session.step (.call request around)).history =
        desk.session.history ++ .called desk.session.issued request :: rest ∧
      desk.accept kit work request around =
        rest.foldl (·.note kit ·) (desk.greet work request around) := by
  have made := reached.trans (.single (.ask request))
  obtain ⟨rest, grown⟩ := made.grows (Session.asking_pass desk.session request around).moves
  rw [Session.history_emit, List.append_assoc] at grown
  refine ⟨rest, grown.symm, ?_⟩
  have recent : (desk.session.step (.call request around)).history.drop
      desk.session.history.length = .called desk.session.issued request :: rest := by
    rw [Session.step, ← grown, List.drop_left]
    rfl
  rw [accept, advance]
  dsimp only [enlist]
  rw [recent]
  rfl

theorem settlesCalls_accept (reached : Session.Reached .outside desk.session)
    (work : Option (Nat × Operation)) (request : Request) (around : Surroundings) :
    ∃ new, (desk.accept kit work request around).history =
      desk.history ++ .session (.called desk.session.issued request) :: new ∧ CallsSettled new := by
  have there := reached.trans (Session.step_moves desk.session (.call request around))
  obtain ⟨rest, grown, same⟩ := accept_eq kit reached work request around
  have later : ∀ event ∈ rest, ∀ call fault, event ≠ .ended call (.error (.vendor fault)) := by
    rintro event member call fault rfl
    have recorded : .ended call (.error (.vendor fault)) ∈
        (desk.session.step (.call request around)).history :=
      grown ▸ List.mem_append_right _ (List.mem_cons_of_mem _ member)
    exact there.ended_not_vendor recorded
  obtain ⟨new, told, dealt⟩ := settlesCalls_notes kit (desk.greet work request around) later
  refine ⟨new, ?_, dealt⟩
  rw [same, told]
  simp

theorem settlesCalls_operate (reached : Session.Reached .outside desk.session)
    (operation : Operation)
    (around : Surroundings) : SettlesCalls desk (desk.operate kit operation around) := by
  rcases operate_cases desk kit operation around with
    ⟨error, plain, same⟩ | ⟨_, same⟩ | ⟨wallet, buffer, _, _, same⟩
  · rw [same]
    rcases plain with rfl | rfl <;> exact settlesCalls_refuse desk rfl
  · have nothing := CallsSettled.nothing operation.request desk.issued .nil
    exact ⟨_, by simp [same, refuse], nothing⟩
  · have recorded : Session.Reached .outside (desk.record
        [.handedOut operation.request (some buffer), .bufferReleased buffer.length]).session :=
      reached
    obtain ⟨new, grown, dealt⟩ :=
      settlesCalls_accept kit recorded (some (wallet, operation)) (.exchange [buffer]) around
    exact ⟨_, by simpa [same] using grown, .built operation.request buffer _ dealt⟩

theorem settlesCalls_drop (reached : Session.Reached .outside desk.session) (call : CallId) :
    SettlesCalls desk (desk.drop kit call) := by
  rcases drop_cases desk kit call with same | ⟨visit, _, same⟩
  · rw [same]
    exact .refl desk
  · rw [same]
    exact ((settlesCalls_advance kit reached (.drop call)).trans (settlesCalls_emit _ rfl)).trans
      (settlesCalls_discharge _ _)

theorem settlesCalls_appoint (desk : Desk) : SettlesCalls desk (desk.appoint kit) := by
  unfold appoint
  split
  · have granted : SettlesCalls desk (desk.employ.record [.walletGranted desk.wallets]) :=
      settlesCalls_tell desk.employ (.granted desk.wallets .nil)
    exact (granted.trans (settlesCalls_settle _ _)).trans (settlesCalls_emit _ rfl)
  · exact ⟨_, by simp, .refused .nil⟩

/-- Whatever happens at the desk, what the kit was asked for is settled. -/
theorem settlesCalls_step (reached : Session.Reached .outside desk.session) (action : DeskAction) :
    SettlesCalls desk (desk.step kit action) := by
  cases action with
  | ask request around =>
      obtain ⟨new, grown, dealt⟩ := settlesCalls_accept kit reached none request around
      exact ⟨_, grown, .plain rfl dealt⟩
  | operate operation around => exact settlesCalls_operate kit reached operation around
  | wake call signal around => exact settlesCalls_advance kit reached (.wake call signal around)
  | drop call => exact settlesCalls_drop kit reached call
  | notice bridge notice => exact settlesCalls_advance kit reached (.notice bridge notice)
  | alert text => exact settlesCalls_advance kit reached (.alert text)
  | appoint => exact settlesCalls_appoint kit desk
  | dismiss => exact settlesCalls_settle desk.vacate desk.operator

end Desk

end Contactless
