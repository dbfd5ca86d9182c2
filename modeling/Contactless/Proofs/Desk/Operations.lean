import Contactless.Proofs.Desk.Visits
import Contactless.Vendor.Simulator

/-!
The verdict of the card comes before the kit.

An operation has its command built first, and without a command nobody else hears of it. The answer
of the card is judged by its status word, and the kit is not asked about an answer that the card has
refused. An answer with a status word, whatever becomes of it, leaves the session connected. Any
other takes the session down.
-/

set_option autoImplicit false

namespace Contactless

def DeskEvent.session? : DeskEvent → Option SessionEvent
  | .session event => some event
  | _ => none

/-- Without a script of codes a simulated kit accepts whatever the card reported as a success. -/
theorem Vendor.Simulator.code_of_success {simulator : Simulator} (unscripted : simulator.codes = [])
    {call : CodeCall} {payload : Bytes}
    (success : call.argument = payload ++ StatusWord.success.toBytes) :
    simulator.kit.code call = 0 := by
  simp [kit, unscripted, verdict, success, accepted?, Response.intoPayload, Except.toOption]

theorem isIncidental_of_isAside {event : SessionEvent} (aside : event.isAside = true) :
    (DeskEvent.session event).isIncidental = true := by
  cases event <;> first | rfl | cases aside

namespace Desk

variable {kits : List Vendor.Kit} {kit : Vendor.Kit} {desk : Desk} {visit : Visit}
  {outcome : Outcome}

def heard (desk : Desk) : List SessionEvent := desk.history.filterMap (·.session?)

@[simp] theorem heard_emit (desk : Desk) (event : DeskEvent) :
    (desk.emit event).heard = desk.heard ++ event.session?.toList := by
  cases told : event.session? <;> simp [heard, told]

@[simp] theorem heard_record (desk : Desk) (events : List Vendor.Event) :
    (desk.record events).heard = desk.heard := by
  simp [heard, List.filterMap_map, DeskEvent.session?]

@[simp] theorem heard_settle (desk : Desk) (wallet : Option Nat) :
    (desk.settle wallet).heard = desk.heard := by
  unfold settle
  split
  · rfl
  · split <;> simp

@[simp] theorem heard_discharge (desk : Desk) (visit : Visit) :
    (desk.discharge visit).heard = desk.heard :=
  heard_settle (desk.forget visit) _

@[simp] theorem heard_close (desk : Desk) (kit : Vendor.Kit) (visit : Visit) (outcome : Outcome) :
    (desk.close kit visit outcome).heard = desk.heard := by
  unfold close
  split <;> simp [DeskEvent.session?]

@[simp] theorem heard_note (desk : Desk) (kit : Vendor.Kit) (event : SessionEvent) :
    (desk.note kit event).heard = desk.heard ++ [event] := by
  rcases note_cases desk kit event with plain | ⟨call, outcome, visit, _, _, closed⟩
  · simp [plain, DeskEvent.session?]
  · simp [closed, DeskEvent.session?]

@[simp] theorem heard_notes (desk : Desk) (kit : Vendor.Kit) (events : List SessionEvent) :
    (events.foldl (·.note kit ·) desk).heard = desk.heard ++ events := by
  induction events generalizing desk with
  | nil => simp
  | cons event rest ih => simp [ih]

@[simp] theorem heard_refuse (desk : Desk) (error : DeskError) :
    (desk.refuse error).heard = desk.heard :=
  (heard_emit { desk with issued := desk.issued + 1 } _).trans (List.append_nil _)

@[simp] theorem heard_employ (desk : Desk) : desk.employ.heard = desk.heard := rfl

@[simp] theorem heard_vacate (desk : Desk) : desk.vacate.heard = desk.heard := rfl

section

variable (reached : Session.Reached .outside desk.session)
  (hears : desk.heard = desk.session.history) (kit : Vendor.Kit)

include reached hears

theorem heard_advance (stimulus : Stimulus) :
    (desk.advance kit stimulus).heard = (desk.advance kit stimulus).session.history := by
  obtain ⟨new, grown⟩ := reached.grows (Session.step_moves desk.session stimulus)
  have before : heard { desk with session := desk.session.step stimulus } =
      desk.session.history := hears
  rw [(advance_fields desk kit stimulus).1, advance, heard_notes, before, ← grown, List.drop_left]

theorem heard_accept (work : Option (Nat × Operation)) (request : Request)
    (around : Surroundings) :
    (desk.accept kit work request around).heard =
      (desk.accept kit work request around).session.history := by
  have enlisted : Session.Reached .outside (desk.enlist work).session := reached
  exact heard_advance enlisted hears kit (.call request around)

theorem heard_step (action : DeskAction) :
    (desk.step kit action).heard = (desk.step kit action).session.history := by
  cases action with
  | ask request around => exact heard_accept reached hears kit none request around
  | operate operation around =>
      rcases operate_cases desk kit operation around with
        ⟨error, _, same⟩ | ⟨_, same⟩ | ⟨wallet, buffer, _, _, same⟩
      · rw [step, same, heard_refuse]
        exact hears
      · rw [step, same, heard_refuse, heard_record]
        exact hears
      · have recorded : Session.Reached .outside (desk.record
            [.handedOut operation.request (some buffer), .bufferReleased buffer.length]).session :=
          reached
        rw [step, same]
        exact heard_accept recorded (by simpa using hears) kit _ _ around
  | wake call signal around => exact heard_advance reached hears kit (.wake call signal around)
  | drop call =>
      rcases drop_cases desk kit call with same | ⟨visit, _, same⟩
      · rw [step, same]
        exact hears
      · rw [step, same]
        simpa [DeskEvent.session?] using heard_advance reached hears kit (.drop call)
  | notice bridge notice => exact heard_advance reached hears kit (.notice bridge notice)
  | alert text => exact heard_advance reached hears kit (.alert text)
  | appoint =>
      have same : (desk.appoint kit).heard = desk.heard ∧
          (desk.appoint kit).session = desk.session := by
        unfold appoint
        split
        · exact ⟨by simp [DeskEvent.session?], by simp [employ]⟩
        · simp [DeskEvent.session?]
      rw [step, same.1, same.2]
      exact hears
  | dismiss =>
      rw [step, heard_settle, heard_vacate, (settle_fields ..).1]
      exact hears

end

/-- The visit is over, and the desk has told what there was to tell of its end. -/
structure ClosesVisit (kit : Vendor.Kit) (desk next : Desk) (visit : Visit) (outcome : Outcome) :
    Prop where
  told : ∃ earlier events later,
    next.history = desk.history ++
      (earlier ++ .session (.ended visit.call outcome) :: (events ++ later)) ∧
    VisitClosing kit visit outcome events ∧ ∀ event ∈ earlier ++ later, event.isIncidental = true
  visits : next.visits = desk.visits.filter (·.number ≠ visit.number)

theorem notes_incidental (desk : Desk) (kit : Vendor.Kit) {events : List SessionEvent}
    (incidental : ∀ event ∈ events, (DeskEvent.session event).isIncidental = true) :
    events.foldl (·.note kit ·) desk =
      { desk with history := desk.history ++ events.map .session } := by
  induction events generalizing desk with
  | nil => simp
  | cons event rest ih =>
      obtain ⟨here, there⟩ := List.forall_mem_cons.mp incidental
      have same : desk.note kit event = desk.emit (.session event) := by
        cases event <;> first | rfl | cases here
      rw [List.foldl_cons, same, ih _ there]
      simp [emit]

/-- What leads to the end of the call is told, and then the visit is closed that waits for it. -/
theorem closesVisit_notes (found : desk.visits.find? (·.call = visit.call) = some visit)
    (concluded : VisitClosing kit visit outcome (closing kit visit outcome))
    {events : List SessionEvent}
    (incidental : ∀ event ∈ events, (DeskEvent.session event).isIncidental = true) :
    ClosesVisit kit desk
      ((events ++ [SessionEvent.ended visit.call outcome]).foldl (·.note kit ·) desk) visit
      outcome := by
  obtain ⟨released, told, aside, visits⟩ :=
    note_ended { desk with history := desk.history ++ events.map .session } kit found
  rw [List.foldl_append, notes_incidental desk kit incidental]
  refine ⟨⟨events.map .session, _, released, by simpa using told, concluded, ?_⟩, visits⟩
  intro event member
  rcases List.mem_append.mp member with before | after
  · obtain ⟨plain, among, rfl⟩ := List.mem_map.mp before
    exact incidental plain among
  · exact aside event after

theorem closesVisit_of_closes {tag : Tag} {answer : Except LinkFault Bytes} {around : Surroundings}
    (booked : desk.VisitsMatchCalls) (pending : visit ∈ desk.visits)
    (closes : Session.EndsCall (desk.session.emit (.answered visit.call tag answer))
      (desk.session.step (.wake visit.call (.replied answer) around)) visit.call outcome)
    (concluded : VisitClosing kit visit outcome (closing kit visit outcome)) :
    ClosesVisit kit desk (desk.step kit (.wake visit.call (.replied answer) around)) visit
      outcome := by
  obtain ⟨mid, grown, others⟩ := closes.told
  have whole : (desk.session.step (.wake visit.call (.replied answer) around)).history =
      desk.session.history ++
        (.answered visit.call tag answer :: mid ++ [.ended visit.call outcome]) := by
    rw [grown]
    simp
  have incidental : ∀ event ∈ .answered visit.call tag answer :: mid,
      (DeskEvent.session event).isIncidental = true :=
    List.forall_mem_cons.mpr ⟨rfl, fun event member =>
      isIncidental_of_isAside (others event member).1⟩
  have found : List.find? (·.call = visit.call) (visits { desk with
      session := desk.session.step (.wake visit.call (.replied answer) around) }) = some visit :=
    booked.find pending
  obtain ⟨told, visits⟩ := closesVisit_notes found concluded incidental
  rw [step, advance, whole, List.drop_left]
  exact ⟨told, visits⟩

section

variable (booked : desk.VisitsMatchCalls) (reached : Session.Reached .outside desk.session)
  (pending : visit ∈ desk.visits) (works : visit.work.isSome = true) {tag : Tag}
  {rest : List Bytes}
  (transmitting : desk.session.stage? visit.call = some (.transmitting tag rest))
  (kit : Vendor.Kit) (around : Surroundings)

include booked reached pending works transmitting

/-- The card has given its verdict: the visit is over, and the session is as it was. -/
theorem closesVisit_answered (payload : Bytes) (status : StatusWord) :
    ClosesVisit kit desk
        (desk.step kit (.wake visit.call (.replied (.ok (payload ++ status.toBytes))) around)) visit
        (.ok (.answer (payload ++ status.toBytes))) ∧
      Session.ConnectionKept desk.session
        (desk.step kit (.wake visit.call (.replied (.ok (payload ++ status.toBytes)))
          around)).session := by
  -- An operation sends one command, so this is the answer to its last one.
  obtain ⟨buffer, made⟩ := booked.commissioned visit pending works
  have last := reached.nothing_left made transmitting
  obtain ⟨closes, spared⟩ := reached.finished transmitting around last payload status
  refine ⟨closesVisit_of_closes booked pending closes (visitClosing_closing visit (by simp) ?_), ?_⟩
  · rintro _ value same
    exact ⟨payload, status, (Except.ok.inj same).symm⟩
  · rw [step, (advance_fields ..).1]
    exact spared

/-- Without a verdict of the card the failure of the exchange is passed on, and the session goes
down. -/
theorem closesVisit_cut {answer : Except LinkFault Bytes} {error : SessionError}
    (halts : Halts [] answer error) :
    ClosesVisit kit desk (desk.step kit (.wake visit.call (.replied answer) around)) visit
        (.error error) ∧
      Session.Down (desk.step kit (.wake visit.call (.replied answer) around)).session := by
  obtain ⟨buffer, made⟩ := booked.commissioned visit pending works
  obtain rfl := reached.nothing_left made transmitting
  have spent : error.keepsConnection = false ∧ ∀ fault, error ≠ .vendor fault := by
    cases halts with
    | lost fault | short bytes short => exact ⟨rfl, fun _ => nofun⟩
    | refused payload status fault failed named more => exact absurd rfl more
  obtain ⟨closes, _, down⟩ := reached.halted transmitting around halts
  refine ⟨closesVisit_of_closes booked pending closes (visitClosing_closing visit ?_ (by simp)), ?_⟩
  · intro fault same
    exact spent.2 fault (Except.error.inj same)
  · rw [step, (advance_fields ..).1]
    exact down spent.1

end

/-- How operations on the card are carried out, whatever the kit and the card reply. -/
structure BuildsSendsParses (kits : List Vendor.Kit) (desk : Desk) : Prop where
  conducted : VisitTrace kits [] desk.history desk.visits
  heard : desk.heard = desk.session.history
  /-- No call comes to its end twice, so no answer is read twice. -/
  once : (Session.departures desk.heard).Nodup
  numbers : (desk.visits.map (·.number)).Nodup
  calls : (desk.visits.map (·.call)).Nodup
  unbuilt : ∀ kit operation around wallet, desk.operator = some wallet →
    desk.isBusy wallet = false → kit.buffer operation.request = none →
    desk.step kit (.operate operation around) =
        { desk with
          issued := desk.issued + 1
          history := desk.history ++
            [.vendor (.handedOut operation.request none),
              .closed desk.issued
                (.error (.session (.vendor (.nothing operation.request.name))))] } ∧
      (Vendor.Fault.nothing operation.request.name).isDefect = true
  built : ∀ kit operation around wallet buffer, desk.operator = some wallet →
    desk.isBusy wallet = false → kit.buffer operation.request = some buffer →
    (desk.step kit (.operate operation around)).session =
        desk.session.step (.call (.send buffer) around) ∧
      ∃ later, (desk.step kit (.operate operation around)).history =
        desk.history ++
          .vendor (.handedOut operation.request (some buffer)) ::
          .vendor (.bufferReleased buffer.length) ::
          .session (.called desk.session.issued (.send buffer)) :: later
  /-- An answer with a status word closes the visit by what the card and the kit make of it, over a
  connection that stays as it was. -/
  answered : ∀ kit visit tag rest payload status around, visit ∈ desk.visits →
    visit.work.isSome = true →
    desk.session.stage? visit.call = some (.transmitting tag rest) →
    ClosesVisit kit desk
        (desk.step kit
          (.wake visit.call (.replied (.ok (payload ++ StatusWord.toBytes status))) around))
        visit (.ok (.answer (payload ++ status.toBytes))) ∧
      Session.ConnectionKept desk.session
        (desk.step kit
          (.wake visit.call (.replied (.ok (payload ++ status.toBytes))) around)).session
  cut : ∀ kit visit tag rest answer error around, visit ∈ desk.visits →
    visit.work.isSome = true →
    desk.session.stage? visit.call = some (.transmitting tag rest) → Halts [] answer error →
    ClosesVisit kit desk (desk.step kit (.wake visit.call (.replied answer) around)) visit
        (.error error) ∧
      Session.Down (desk.step kit (.wake visit.call (.replied answer) around)).session
  /-- A simulated kit without a script of codes never rejects an answer. -/
  accepted : (∀ kit ∈ kits, ∃ simulator : Vendor.Simulator,
      kit = simulator.kit ∧ simulator.codes = []) →
    ∀ visit call code,
      .closed visit (.error (.session (.vendor (.rejected call code)))) ∉ desk.history

theorem heard_run (reached : Session.Reached .outside desk.session)
    (hears : desk.heard = desk.session.history) (actions : List (Vendor.Kit × DeskAction)) :
    Session.Reached .outside (desk.run actions).session ∧
      (desk.run actions).heard = (desk.run actions).session.history := by
  induction actions generalizing desk with
  | nil => exact ⟨reached, hears⟩
  | cons action rest ih =>
      exact ih (reached_step reached action.1 action.2) (heard_step reached hears action.1 action.2)

theorem visitsMatchCalls_initial (policy : Policy) : (initial policy).VisitsMatchCalls :=
  ⟨.nil, by simp [initial], by simp [initial]⟩

/-- Whatever happens at a desk, its operations have the card judge before the kit. -/
theorem run_builds_sends_parses (policy : Policy) (actions : List (Vendor.Kit × DeskAction)) :
    BuildsSendsParses (actions.map Prod.fst) ((initial policy).run actions) := by
  have start : Session.Reached .outside (initial policy).session := Session.Reached.run policy []
  obtain ⟨booked, new, grown, conducted⟩ :=
    visitStep_run start (visitsMatchCalls_initial policy) actions
    fun action member => List.mem_map_of_mem member
  obtain rfl : ((initial policy).run actions).history = new := by simpa [initial] using grown
  obtain ⟨reached, hears⟩ := heard_run start rfl actions
  obtain ⟨kept, _⟩ := invariant_run start (walletInvariant_initial policy) actions
  refine ⟨conducted, hears, hears ▸ reached.departed.1, kept.numbers, booked.calls, ?_, ?_, ?_, ?_,
    ?_⟩
  · intro kit operation around wallet employed free given
    refine ⟨?_, rfl⟩
    rw [step, operate_of_none employed free around given]
    simp [refuse, emit, record]
  · intro kit operation around wallet buffer employed free given
    have recorded : Session.Reached .outside (((initial policy).run actions).record
        [.handedOut operation.request (some buffer), .bufferReleased buffer.length]).session :=
      reached
    obtain ⟨later, told, _⟩ :=
      settlesCalls_accept kit recorded (some (wallet, operation)) (.exchange [buffer]) around
    rw [step, operate_of_some employed free around given]
    exact ⟨(advance_fields ..).1, later, by simpa [Request.send] using told⟩
  · intro kit visit tag rest payload status around pending works transmitting
    exact closesVisit_answered booked reached pending works transmitting kit around payload status
  · intro kit visit tag rest answer error around pending works transmitting halts
    exact closesVisit_cut booked reached pending works transmitting kit around halts
  · intro simulated
    refine conducted.unrejected fun kit known call payload success => ?_
    obtain ⟨simulator, rfl, unscripted⟩ := simulated kit known
    exact Vendor.Simulator.code_of_success unscripted success

end Desk

end Contactless
