import Contactless.Proofs.Desk.Balance
import Contactless.Proofs.Session.Reply

/-!
How the desk carries out operations.

Read from the first event on, the history of a desk tells which visits are open at any time. An
operation opens its visit by having the kit build the command, and by nothing else. The visit stays
open until its call has come to an end or is abandoned. The kit is asked to read an answer only
then, once, and only if the status word of the answer reports success.
-/

set_option autoImplicit false

namespace Contactless

/-- Whether the event neither opens nor closes a visit, and builds and reads nothing. -/
def DeskEvent.isIncidental : DeskEvent → Bool
  | .session (.called _ _) | .session (.ended _ _) => false
  | .session _ | .appointed _ => true
  | .vendor (.walletGranted _) | .vendor (.walletReleased _) | .vendor .walletRefused => true
  | .vendor (.handedOut _ _) | .vendor (.judged _ _) | .vendor (.bufferReleased _) => false
  | .closed _ (.error .noOperator) | .closed _ (.error .operatorBusy) => true
  | .closed _ (.error (.session _)) | .closed _ (.ok _) | .abandoned _ => false

/-- How a visit is closed whose call has come to this outcome, with the calls of the kit on the
way. -/
inductive VisitClosing (kit : Vendor.Kit) (visit : Visit) : Outcome → List DeskEvent → Prop where
  | plain (value : Value) (idle : visit.work = none) :
      VisitClosing kit visit (.ok value) [.closed visit.number (.ok (.value value))]
  /-- The failure of the exchange is passed on; the kit is not asked. -/
  | failed (error : SessionError) (own : ∀ fault, error ≠ .vendor fault) :
      VisitClosing kit visit (.error error) [.closed visit.number (.error (.session error))]
  /-- The verdict of the card comes before the kit. -/
  | refused (wallet : Nat) (operation : Operation) (payload : Bytes) (status : StatusWord)
      (fault : CardFault) (works : visit.work = some (wallet, operation))
      (named : CardFault.ofStatus? status = some fault) :
      VisitClosing kit visit (.ok (.answer (payload ++ status.toBytes)))
        [.closed visit.number (.error (.session (.card fault)))]
  | read (wallet : Nat) (operation : Operation) (payload : Bytes) (events : List Vendor.Event)
      (result : Except DeskError DeskValue) (works : visit.work = some (wallet, operation))
      (interpreted : Interpreted kit (payload ++ StatusWord.success.toBytes) operation events
        result) :
      VisitClosing kit visit (.ok (.answer (payload ++ StatusWord.success.toBytes)))
        (events.map .vendor ++ [.closed visit.number result])

/-- Histories between two moments at which these visits are open. Every call of a kit is one of
these kits'. -/
inductive VisitTrace (kits : List Vendor.Kit) :
    List Visit → List DeskEvent → List Visit → Prop where
  | nil (open_ : List Visit) : VisitTrace kits open_ [] open_
  | incidental {before after : List Visit} {event : DeskEvent} {rest : List DeskEvent}
      (incidental : event.isIncidental = true) (later : VisitTrace kits before rest after) :
      VisitTrace kits before (event :: rest) after
  | asked {before after : List Visit} {rest : List DeskEvent} (number : Nat) (call : CallId)
      (request : Request)
      (later : VisitTrace kits (before ++ [⟨number, call, none⟩]) rest after) :
      VisitTrace kits before (.session (.called call request) :: rest) after
  /-- An operation opens a visit: the kit builds the command, and exactly that is exchanged. -/
  | built {before after : List Visit} {rest : List DeskEvent} (kit : Vendor.Kit)
      (operation : Operation) (buffer : Bytes) (wallet number : Nat) (call : CallId)
      (known : kit ∈ kits) (given : kit.buffer operation.request = some buffer)
      (later : VisitTrace kits (before ++ [⟨number, call, some (wallet, operation)⟩]) rest after) :
      VisitTrace kits before
        (.vendor (.handedOut operation.request (some buffer)) ::
          .vendor (.bufferReleased buffer.length) ::
          .session (.called call (.exchange [buffer])) :: rest) after
  | unbuilt {before after : List Visit} {rest : List DeskEvent} (kit : Vendor.Kit)
      (operation : Operation) (number : Nat) (known : kit ∈ kits)
      (given : kit.buffer operation.request = none) (later : VisitTrace kits before rest after) :
      VisitTrace kits before
        (.vendor (.handedOut operation.request none) ::
          .closed number (.error (.session (.vendor (.nothing operation.request.name)))) :: rest)
        after
  | ended {before after : List Visit} {events rest : List DeskEvent} (kit : Vendor.Kit)
      (visit : Visit) (outcome : Outcome) (known : kit ∈ kits) (pending : visit ∈ before)
      (concluded : VisitClosing kit visit outcome events)
      (later : VisitTrace kits (before.filter (·.number ≠ visit.number)) rest after) :
      VisitTrace kits before (.session (.ended visit.call outcome) :: (events ++ rest)) after
  /-- A call has ended that no open visit waits for. -/
  | stray {before after : List Visit} {rest : List DeskEvent} (call : CallId) (outcome : Outcome)
      (nobody : ∀ visit ∈ before, visit.call ≠ call) (later : VisitTrace kits before rest after) :
      VisitTrace kits before (.session (.ended call outcome) :: rest) after
  | abandoned {before after : List Visit} {rest : List DeskEvent} (visit : Visit)
      (pending : visit ∈ before)
      (later : VisitTrace kits (before.filter (·.number ≠ visit.number)) rest after) :
      VisitTrace kits before (.abandoned visit.number :: rest) after

namespace VisitTrace

variable {kits : List Vendor.Kit} {before between after : List Visit}
  {first second : List DeskEvent}

theorem append (one : VisitTrace kits before first between)
    (two : VisitTrace kits between second after) :
    VisitTrace kits before (first ++ second) after := by
  induction one with
  | nil => exact two
  | incidental incidental _ ih => exact .incidental incidental (ih two)
  | asked number call request _ ih => exact .asked number call request (ih two)
  | built kit operation buffer wallet number call known given _ ih =>
      exact .built kit operation buffer wallet number call known given (ih two)
  | unbuilt kit operation number known given _ ih =>
      exact .unbuilt kit operation number known given (ih two)
  | ended kit visit outcome known pending concluded _ ih =>
      rw [List.cons_append, List.append_assoc]
      exact .ended kit visit outcome known pending concluded (ih two)
  | stray call outcome nobody _ ih => exact .stray call outcome nobody (ih two)
  | abandoned visit pending _ ih => exact .abandoned visit pending (ih two)

theorem of_incidental (incidental : ∀ event ∈ first, event.isIncidental = true) :
    VisitTrace kits before first before := by
  induction first with
  | nil => exact .nil before
  | cons event rest ih =>
      obtain ⟨here, there⟩ := List.forall_mem_cons.mp incidental
      exact .incidental here (ih there)

/-- With kits that accept every answer that reported success, nothing is rejected. -/
theorem unrejected (conducted : VisitTrace kits before first after)
    (obliging : ∀ kit ∈ kits, ∀ (call : Vendor.CodeCall) payload,
      call.argument = payload ++ StatusWord.success.toBytes → kit.code call = 0)
    (visit : Nat) (call : String) (code : Int) :
    .closed visit (.error (.session (.vendor (.rejected call code)))) ∉ first := by
  induction conducted with
  | nil => exact List.not_mem_nil
  | incidental incidental _ ih =>
      rw [List.mem_cons, not_or]
      refine ⟨?_, ih⟩
      rintro rfl
      cases incidental
  | asked _ _ _ _ ih | stray _ _ _ _ ih | abandoned _ _ _ ih => simpa using ih
  | built _ _ _ _ _ _ _ _ _ ih | unbuilt _ _ _ _ _ _ ih => simpa using ih
  | ended kit own outcome known pending concluded _ ih =>
      rw [List.mem_cons, List.mem_append, not_or, not_or]
      refine ⟨by simp, ?_, ih⟩
      cases concluded with
      | plain | refused => simp
      | failed error foreign =>
          simp only [List.mem_singleton, DeskEvent.closed.injEq, Except.error.injEq,
            DeskError.session.injEq, not_and]
          exact fun _ => Ne.symm (foreign _)
      | read wallet operation payload events result works interpreted =>
          have accepts := obliging kit known
          cases interpreted with
          | selected aid =>
              simp [verdictOf, accepts (.selectResponse _) payload rfl]
          | shaken =>
              simp [verdictOf, accepts (.handshakeResponse _) payload rfl]
          | nothing => simp
          | version buffer given =>
              cases field : FirmwareVersion.ofField buffer <;> simp [versionIn, field]

end VisitTrace

namespace Desk

variable {kits : List Vendor.Kit} {kit : Vendor.Kit} {desk middle final : Desk}

/-- The visits wait for calls of their own, and operations for the exchange of one command. -/
structure VisitsMatchCalls (desk : Desk) : Prop where
  calls : (desk.visits.map (·.call)).Nodup
  issued : ∀ visit ∈ desk.visits, visit.call < desk.session.issued
  commissioned : ∀ visit ∈ desk.visits, visit.work.isSome = true →
    ∃ buffer, Session.asked desk.session.history visit.call = [.exchange [buffer]]

theorem VisitsMatchCalls.of_sublist (booked : desk.VisitsMatchCalls)
    (visits : final.visits.Sublist desk.visits)
    (session : final.session = desk.session) : final.VisitsMatchCalls := by
  refine ⟨booked.calls.sublist (visits.map _), ?_, ?_⟩
  · rw [session]
    exact fun visit member => booked.issued visit (visits.subset member)
  · rw [session]
    exact fun visit member => booked.commissioned visit (visits.subset member)

theorem note_visits (desk : Desk) (kit : Vendor.Kit) (event : SessionEvent) :
    (desk.note kit event).visits.Sublist desk.visits := by
  rcases note_cases desk kit event with plain | ⟨call, outcome, visit, _, _, closed⟩
  · rw [plain]
    exact List.Sublist.refl _
  · rw [closed]
    simp

theorem VisitsMatchCalls.notes (booked : desk.VisitsMatchCalls) (kit : Vendor.Kit)
    (events : List SessionEvent) : (events.foldl (·.note kit ·) desk).VisitsMatchCalls := by
  induction events generalizing desk with
  | nil => exact booked
  | cons event rest ih =>
      exact ih (booked.of_sublist (note_visits desk kit event) (note_fields desk kit event).1)

theorem VisitsMatchCalls.step (booked : desk.VisitsMatchCalls)
    (reached : Session.Reached .outside desk.session)
    (stimulus : Stimulus) :
    VisitsMatchCalls { desk with session := desk.session.step stimulus } := by
  have moves := Session.step_moves desk.session stimulus
  refine ⟨booked.calls, ?_, ?_⟩
  · exact fun visit member =>
      Nat.lt_of_lt_of_le (booked.issued visit member) (Session.issued_le_of_moves moves)
  · intro visit member works
    obtain ⟨buffer, made⟩ := booked.commissioned visit member works
    exact ⟨buffer, Session.asked_of_prefix made ((reached.trans moves).served.fair visit.call)
      (reached.grows moves)⟩

theorem VisitsMatchCalls.greet (booked : desk.VisitsMatchCalls)
    (reached : Session.Reached .outside desk.session)
    {work : Option (Nat × Operation)} {request : Request} (around : Surroundings)
    (single : work.isSome = true → ∃ buffer, request = .exchange [buffer]) :
    (desk.greet work request around).VisitsMatchCalls := by
  have stepped := booked.step reached (.call request around)
  have there := reached.trans (Session.step_moves desk.session (.call request around))
  have made : .called desk.session.issued request ∈
      (desk.session.step (.call request around)).history := by
    have asking := reached.trans (.single (.ask request))
    exact (asking.grows (Session.asking_pass desk.session request around).moves).subset (by simp)
  have issued : desk.session.issued < (desk.session.step (.call request around)).issued :=
    Session.issued_le_of_moves (Session.asking_pass desk.session request around).moves
  refine ⟨?_, ?_, ?_⟩
  · have fresh : desk.session.issued ∉ desk.visits.map (·.call) := fun member => by
      obtain ⟨visit, pending, same⟩ := List.mem_map.mp member
      exact Nat.ne_of_lt (booked.issued visit pending) same
    simpa [List.nodup_append] using ⟨booked.calls, by simpa using fresh⟩
  · intro visit member
    rcases List.mem_append.mp member with old | new
    · exact stepped.issued visit old
    · rw [List.mem_singleton.mp new]
      exact issued
  · intro visit member works
    rcases List.mem_append.mp member with old | new
    · exact stepped.commissioned visit old works
    · rw [List.mem_singleton.mp new] at works ⊢
      obtain ⟨buffer, rfl⟩ := single works
      exact ⟨buffer, ((there.served.fair desk.session.issued).own made).1⟩

theorem VisitsMatchCalls.find (booked : desk.VisitsMatchCalls) {visit : Visit}
    (pending : visit ∈ desk.visits) :
    desk.visits.find? (·.call = visit.call) = some visit := by
  cases found : desk.visits.find? (·.call = visit.call) with
  | none => simpa using List.find?_eq_none.mp found visit pending
  | some other =>
      have same : other.call = visit.call := by simpa using List.find?_some found
      rw [List.inj_on_of_nodup_map booked.calls (List.mem_of_find?_eq_some found) pending same]

/-- Between the two desks visits are opened and closed by the rules. -/
def ExtendsVisits (kits : List Vendor.Kit) (desk final : Desk) : Prop :=
  ∃ new, final.history = desk.history ++ new ∧ VisitTrace kits desk.visits new final.visits

theorem ExtendsVisits.refl (desk : Desk) : ExtendsVisits kits desk desk := ⟨[], by simp, .nil _⟩

theorem ExtendsVisits.trans (first : ExtendsVisits kits desk middle)
    (second : ExtendsVisits kits middle final) :
    ExtendsVisits kits desk final := by
  obtain ⟨one, grown, conducted⟩ := first
  obtain ⟨two, later, more⟩ := second
  exact ⟨one ++ two, by rw [later, grown, List.append_assoc], conducted.append more⟩

theorem settle_history (desk : Desk) (wallet : Option Nat) :
    ∃ released, (desk.settle wallet).history = desk.history ++ released ∧
      ∀ event ∈ released, event.isIncidental = true := by
  unfold settle
  split
  · exact ⟨[], by simp, by simp⟩
  · rename_i wallet
    split
    · exact ⟨[], by simp, by simp⟩
    · exact ⟨[.vendor (.walletReleased wallet)], by simp, by simp [DeskEvent.isIncidental]⟩

theorem discharge_history (desk : Desk) (visit : Visit) :
    ∃ released, (desk.discharge visit).history = desk.history ++ released ∧
      ∀ event ∈ released, event.isIncidental = true :=
  settle_history (desk.forget visit) _

theorem close_history (desk : Desk) (kit : Vendor.Kit) (visit : Visit) (outcome : Outcome) :
    ∃ released, (desk.close kit visit outcome).history =
        desk.history ++ (closing kit visit outcome ++ released) ∧
      ∀ event ∈ released, event.isIncidental = true := by
  obtain ⟨released, grown, incidental⟩ :=
    discharge_history { desk with history := desk.history ++ closing kit visit outcome } visit
  rw [close_eq]
  exact ⟨released, grown.trans (List.append_assoc ..), incidental⟩

theorem extendsVisits_tell (kits : List Vendor.Kit) (desk : Desk) {new : List DeskEvent}
    (incidental : ∀ event ∈ new, event.isIncidental = true) :
    ExtendsVisits kits desk { desk with history := desk.history ++ new } :=
  ⟨new, rfl, .of_incidental incidental⟩

theorem extendsVisits_settle (desk : Desk) (wallet : Option Nat) :
    ExtendsVisits kits desk (desk.settle wallet) := by
  obtain ⟨released, grown, incidental⟩ := settle_history desk wallet
  exact ⟨released, grown, by simpa using VisitTrace.of_incidental incidental⟩

theorem visitClosing_closing (visit : Visit) {outcome : Outcome}
    (own : ∀ fault, outcome ≠ .error (.vendor fault))
    (answered : visit.work.isSome = true → ∀ value, outcome = .ok value →
      ∃ payload status, value = .answer (payload ++ StatusWord.toBytes status)) :
    VisitClosing kit visit outcome (closing kit visit outcome) := by
  cases outcome with
  | error error =>
      have told : closing kit visit (.error error) =
          [.closed visit.number (.error (.session error))] := by simp [closing]
      rw [told]
      exact .failed error fun fault same => own fault (by rw [same])
  | ok value =>
      cases works : visit.work with
      | none =>
          have told : closing kit visit (.ok value) =
              [.closed visit.number (.ok (.value value))] := by
            cases value <;> simp [closing, works]
          rw [told]
          exact .plain value works
      | some work =>
          obtain ⟨wallet, operation⟩ := work
          obtain ⟨payload, status, rfl⟩ := answered (by simp [works]) value rfl
          cases named : CardFault.ofStatus? status with
          | some fault =>
              have told : closing kit visit (.ok (.answer (payload ++ status.toBytes))) =
                  [.closed visit.number (.error (.session (.card fault)))] := by
                simp [closing, works, Operation.conclude, named, Except.mapError]
              rw [told]
              exact .refused wallet operation payload status fault works named
          | none =>
              obtain rfl := CardFault.ofStatus?_eq_none_iff.mp named
              have read := VisitClosing.read wallet operation payload _ _ works
                (interpreted_interpret kit operation _)
              simpa [closing, works, Operation.conclude] using read

/-- The session has told nothing but what the desk knows how to take. -/
structure EventExpected (desk : Desk) (event : SessionEvent) : Prop where
  uncalled : ∀ call request, event ≠ .called call request
  own : ∀ call fault, event ≠ .ended call (.error (.vendor fault))
  answered : ∀ call value, event = .ended call (.ok value) → ∀ visit ∈ desk.visits,
    visit.call = call → visit.work.isSome = true →
      ∃ payload status, value = .answer (payload ++ StatusWord.toBytes status)

/-- A call that has ended closes the visit that waits for it. -/
theorem note_ended (desk : Desk) (kit : Vendor.Kit) {visit : Visit} {outcome : Outcome}
    (found : desk.visits.find? (·.call = visit.call) = some visit) :
    ∃ released, (desk.note kit (.ended visit.call outcome)).history =
        desk.history ++ (.session (.ended visit.call outcome) ::
          (closing kit visit outcome ++ released)) ∧
      (∀ event ∈ released, event.isIncidental = true) ∧
      (desk.note kit (.ended visit.call outcome)).visits =
        desk.visits.filter (·.number ≠ visit.number) := by
  have same : desk.note kit (.ended visit.call outcome) =
      (desk.emit (.session (.ended visit.call outcome))).close kit visit outcome := by
    simp [note, found]
  obtain ⟨released, grown, incidental⟩ :=
    close_history (desk.emit (.session (.ended visit.call outcome))) kit visit outcome
  rw [same]
  exact ⟨released, grown.trans (by simp), incidental, by simp⟩

theorem extendsVisits_note (known : kit ∈ kits) {event : SessionEvent}
    (eventExpected : desk.EventExpected event) :
    ExtendsVisits kits desk (desk.note kit event) := by
  cases event with
  | called call request => exact absurd rfl (eventExpected.uncalled call request)
  | ended call outcome =>
      cases found : desk.visits.find? (·.call = call) with
      | none =>
          have same : desk.note kit (.ended call outcome) =
              desk.emit (.session (.ended call outcome)) := by simp [note, found]
          rw [same]
          refine ⟨[_], rfl, .stray call outcome ?_ (.nil _)⟩
          exact fun visit pending => by simpa using List.find?_eq_none.mp found visit pending
      | some visit =>
          obtain rfl : visit.call = call := by simpa using List.find?_some found
          have pending := List.mem_of_find?_eq_some found
          obtain ⟨released, grown, incidental, visits⟩ := note_ended desk kit found
          refine ⟨_, grown, ?_⟩
          rw [visits]
          refine .ended kit visit outcome known pending
            (visitClosing_closing visit
              (fun fault same => eventExpected.own _ fault (by rw [same])) ?_)
            (.of_incidental incidental)
          intro works value same
          exact eventExpected.answered visit.call value (by rw [same]) visit pending rfl works
  | _ => exact ⟨[_], rfl, .incidental rfl (.nil _)⟩

theorem extendsVisits_notes (known : kit ∈ kits) {events : List SessionEvent}
    (eventExpected : ∀ event ∈ events, desk.EventExpected event) :
    ExtendsVisits kits desk (events.foldl (·.note kit ·) desk) := by
  induction events generalizing desk with
  | nil => exact .refl desk
  | cons event rest ih =>
      obtain ⟨here, there⟩ := List.forall_mem_cons.mp eventExpected
      refine (extendsVisits_note known here).trans (ih fun later member => ?_)
      obtain ⟨uncalled, own, answered⟩ := there later member
      exact ⟨uncalled, own, fun call value same visit pending =>
        answered call value same visit ((note_visits desk kit event).subset pending)⟩

theorem VisitsMatchCalls.eventExpected (booked : desk.VisitsMatchCalls)
    (reached : Session.Reached .outside desk.session)
    {event : SessionEvent} (told : event ∈ desk.session.history)
    (uncalled : ∀ call request, event ≠ .called call request) : desk.EventExpected event := by
  refine ⟨uncalled, ?_, ?_⟩
  · rintro call fault rfl
    exact reached.ended_not_vendor told
  · rintro call value rfl visit pending rfl works
    obtain ⟨buffer, made⟩ := booked.commissioned visit pending works
    exact reached.answer_of_exchange made told

/-- The books stay in order, and visits are opened and closed by the rules. -/
structure VisitStep (kits : List Vendor.Kit) (desk final : Desk) : Prop where
  booked : final.VisitsMatchCalls
  conducts : ExtendsVisits kits desk final

theorem visitStep_appoint (booked : desk.VisitsMatchCalls) (kit : Vendor.Kit) :
    VisitStep kits desk (desk.appoint kit) := by
  unfold appoint
  split
  · refine ⟨booked.of_sublist (by simp [employ]) (by simp [employ]), ?_⟩
    have granted : ExtendsVisits kits desk (desk.employ.record [.walletGranted desk.wallets]) :=
      extendsVisits_tell kits desk.employ (by simp [DeskEvent.isIncidental])
    exact (granted.trans (extendsVisits_settle _ _)).trans
      (extendsVisits_tell kits _ (by simp [DeskEvent.isIncidental]))
  · refine ⟨booked.of_sublist (List.Sublist.refl _) rfl, ?_⟩
    have refused : ExtendsVisits kits desk (desk.record [.walletRefused]) :=
      extendsVisits_tell kits desk (by simp [DeskEvent.isIncidental])
    exact refused.trans (extendsVisits_tell kits _ (by simp [DeskEvent.isIncidental]))

section

variable (known : kit ∈ kits) (booked : desk.VisitsMatchCalls)
  (reached : Session.Reached .outside desk.session)

include known booked reached

theorem visitStep_advance {stimulus : Stimulus}
    (other : ∀ request around, stimulus ≠ .call request around) :
    VisitStep kits desk (desk.advance kit stimulus) := by
  have moves := Session.step_moves desk.session stimulus
  obtain ⟨new, grown⟩ := reached.grows moves
  have recent : (desk.session.step stimulus).history.drop desk.session.history.length = new := by
    rw [← grown, List.drop_left]
  have stepped := booked.step reached stimulus
  have noted : ExtendsVisits kits { desk with session := desk.session.step stimulus }
      (desk.advance kit stimulus) := by
    rw [advance, recent]
    refine extendsVisits_notes known fun event member =>
      stepped.eventExpected (reached.trans moves) ?_ ?_
    · exact grown ▸ List.mem_append_right _ member
    · rintro call request rfl
      exact reached.uncalled other grown.symm call request member
  exact ⟨stepped.notes kit _, noted⟩

/-- A request opens its visit, and after that the desk takes note of what the session does. -/
theorem visitTrace_accept (work : Option (Nat × Operation)) (request : Request)
    (around : Surroundings)
    (single : work.isSome = true → ∃ buffer, request = .exchange [buffer]) :
    (desk.accept kit work request around).VisitsMatchCalls ∧
      ∃ new, (desk.accept kit work request around).history =
        desk.history ++ .session (.called desk.session.issued request) :: new ∧
        VisitTrace kits (desk.visits ++ [⟨desk.issued, desk.session.issued, work⟩]) new
          (desk.accept kit work request around).visits := by
  have opened := booked.greet reached around single
  have there := reached.trans (Session.step_moves desk.session (.call request around))
  have asking := reached.trans (.single (.ask request))
  obtain ⟨rest, grown, same⟩ := accept_eq kit reached work request around
  have told : (desk.session.step (.call request around)).history =
      ({ desk.session with issued := desk.session.issued + 1 }.emit
        (.called desk.session.issued request)).history ++ rest := by
    rw [grown]
    simp
  -- By the time the desk is told of what the session did about the request, the visit is open.
  have eventExpected : ∀ event ∈ rest, (desk.greet work request around).EventExpected event := by
    intro event member
    have among : event ∈ (desk.session.step (.call request around)).history :=
      grown ▸ List.mem_append_right _ (List.mem_cons_of_mem _ member)
    refine opened.eventExpected there among ?_
    rintro call other rfl
    exact (Session.asking_pass desk.session request around).uncalled asking rfl told call other
      member
  obtain ⟨new, noted, conducted⟩ := extendsVisits_notes known eventExpected
  rw [same]
  exact ⟨opened.notes kit rest, new, by rw [noted]; simp, by simpa using conducted⟩

theorem visitStep_ask (request : Request) (around : Surroundings) :
    VisitStep kits desk (desk.accept kit none request around) := by
  obtain ⟨later, new, grown, conducted⟩ :=
    visitTrace_accept known booked reached none request around (by simp)
  exact ⟨later, _, grown, .asked _ _ _ conducted⟩

theorem visitStep_operate (operation : Operation) (around : Surroundings) :
    VisitStep kits desk (desk.operate kit operation around) := by
  rcases operate_cases desk kit operation around with
    ⟨error, idle, same⟩ | ⟨given, same⟩ | ⟨wallet, buffer, _, given, same⟩
  · rw [same]
    refine ⟨booked.of_sublist (List.Sublist.refl _) rfl, [_], rfl, .incidental ?_ (.nil _)⟩
    rcases idle with rfl | rfl <;> rfl
  · rw [same]
    exact ⟨booked.of_sublist (List.Sublist.refl _) rfl, _, by simp [refuse],
      .unbuilt kit operation desk.issued known given (.nil _)⟩
  · have recorded : VisitsMatchCalls (desk.record [.handedOut operation.request (some buffer),
        .bufferReleased buffer.length]) := booked.of_sublist (List.Sublist.refl _) rfl
    obtain ⟨later, new, grown, conducted⟩ := visitTrace_accept known recorded reached
      (some (wallet, operation)) (.exchange [buffer]) around fun _ => ⟨buffer, rfl⟩
    rw [same]
    exact ⟨later, _, by simpa using grown,
      .built kit operation buffer wallet desk.issued desk.session.issued known given conducted⟩

theorem visitStep_drop (call : CallId) : VisitStep kits desk (desk.drop kit call) := by
  rcases drop_cases desk kit call with same | ⟨visit, pending, same⟩
  · rw [same]
    exact ⟨booked, .refl desk⟩
  · have advanced : VisitStep kits desk (desk.advance kit (.drop call)) :=
      visitStep_advance known booked reached (by simp)
    have stays : (desk.advance kit (.drop call)).visits = desk.visits :=
      visits_notes _ kit (not_ended_of_drop reached call)
    obtain ⟨released, grown, incidental⟩ := discharge_history
      ((desk.advance kit (.drop call)).emit (.abandoned visit.number)) visit
    rw [same]
    refine ⟨advanced.booked.of_sublist (by simp) (by simp), advanced.conducts.trans ?_⟩
    refine ⟨.abandoned visit.number :: released, by simpa using grown, ?_⟩
    rw [(discharge_fields _ visit).2.2.2.1]
    exact .abandoned visit (stays.symm ▸ pending) (.of_incidental incidental)

theorem visitStep_step (action : DeskAction) : VisitStep kits desk (desk.step kit action) := by
  cases action with
  | ask request around => exact visitStep_ask known booked reached request around
  | operate operation around => exact visitStep_operate known booked reached operation around
  | wake call signal around => exact visitStep_advance known booked reached (by simp)
  | drop call => exact visitStep_drop known booked reached call
  | notice bridge notice => exact visitStep_advance known booked reached (by simp)
  | alert text => exact visitStep_advance known booked reached (by simp)
  | appoint => exact visitStep_appoint booked kit
  | dismiss =>
      exact ⟨booked.of_sublist (by simp [step, vacate]) (by simp [step, vacate]),
        extendsVisits_settle desk.vacate desk.operator⟩

end

theorem visitStep_run (reached : Session.Reached .outside desk.session)
    (booked : desk.VisitsMatchCalls)
    (actions : List (Vendor.Kit × DeskAction)) (known : ∀ action ∈ actions, action.1 ∈ kits) :
    VisitStep kits desk (desk.run actions) := by
  induction actions generalizing desk with
  | nil => exact ⟨booked, .refl desk⟩
  | cons action rest ih =>
      obtain ⟨here, there⟩ := List.forall_mem_cons.mp known
      have first := visitStep_step here booked reached action.2
      have later := ih (reached_step reached action.1 action.2) first.booked there
      exact ⟨later.booked, first.conducts.trans later.conducts⟩

end Desk

end Contactless
