import Contactless.Desk.Step
import Contactless.Proofs.Session.Fields

set_option autoImplicit false

namespace Contactless

def DeskAction.subject? (session : Session) : DeskAction → Option CallId
  | .ask _ _ | .operate _ _ => some session.issued
  | .wake call _ _ => some call
  | .drop call => some call
  | .notice _ _ | .alert _ | .appoint | .dismiss => none

namespace Desk

variable (desk : Desk) (kit : Vendor.Kit)

@[simp] theorem emit_fields (event : DeskEvent) :
    (desk.emit event).session = desk.session ∧
    (desk.emit event).operator = desk.operator ∧
    (desk.emit event).wallets = desk.wallets ∧
    (desk.emit event).visits = desk.visits ∧
    (desk.emit event).issued = desk.issued ∧
    (desk.emit event).history = desk.history ++ [event] := by
  simp [emit]

@[simp] theorem record_fields (events : List Vendor.Event) :
    (desk.record events).session = desk.session ∧
    (desk.record events).operator = desk.operator ∧
    (desk.record events).wallets = desk.wallets ∧
    (desk.record events).visits = desk.visits ∧
    (desk.record events).issued = desk.issued ∧
    (desk.record events).history = desk.history ++ events.map .vendor := by
  simp [record]

@[simp] theorem settle_fields (wallet : Option Nat) :
    (desk.settle wallet).session = desk.session ∧
    (desk.settle wallet).operator = desk.operator ∧
    (desk.settle wallet).wallets = desk.wallets ∧
    (desk.settle wallet).visits = desk.visits ∧
    (desk.settle wallet).issued = desk.issued := by
  unfold settle
  split
  · simp
  · split <;> simp

@[simp] theorem discharge_fields (visit : Visit) :
    (desk.discharge visit).session = desk.session ∧
    (desk.discharge visit).operator = desk.operator ∧
    (desk.discharge visit).wallets = desk.wallets ∧
    (desk.discharge visit).visits = desk.visits.filter (·.number ≠ visit.number) ∧
    (desk.discharge visit).issued = desk.issued := by
  simp [discharge, forget]

def closing (visit : Visit) (outcome : Outcome) : List DeskEvent :=
  match outcome, visit.work with
  | .ok (.answer bytes), some (_, operation) =>
    (operation.conclude kit bytes).1.map .vendor ++
      [.closed visit.number ((operation.conclude kit bytes).2.mapError .session)]
  | .ok value, _ => [.closed visit.number (.ok (.value value))]
  | .error error, _ => [.closed visit.number (.error (.session error))]

theorem close_eq (visit : Visit) (outcome : Outcome) :
    desk.close kit visit outcome =
      { desk with history := desk.history ++ closing kit visit outcome }.discharge visit := by
  cases outcome with
  | error error => simp [close, closing, emit]
  | ok value =>
      cases value with
      | answer bytes => cases work : visit.work <;> simp [close, closing, work, emit, record]
      | _ => simp [close, closing, emit]

@[simp] theorem close_fields (visit : Visit) (outcome : Outcome) :
    (desk.close kit visit outcome).session = desk.session ∧
    (desk.close kit visit outcome).operator = desk.operator ∧
    (desk.close kit visit outcome).wallets = desk.wallets ∧
    (desk.close kit visit outcome).visits = desk.visits.filter (·.number ≠ visit.number) ∧
    (desk.close kit visit outcome).issued = desk.issued := by
  simp [close_eq]

@[simp] theorem note_fields (event : SessionEvent) :
    (desk.note kit event).session = desk.session ∧
    (desk.note kit event).operator = desk.operator ∧
    (desk.note kit event).wallets = desk.wallets ∧
    (desk.note kit event).issued = desk.issued := by
  unfold note
  dsimp only
  split
  · split <;> simp
  · simp

@[simp] theorem notes_fields (events : List SessionEvent) :
    (events.foldl (·.note kit ·) desk).session = desk.session ∧
    (events.foldl (·.note kit ·) desk).operator = desk.operator ∧
    (events.foldl (·.note kit ·) desk).wallets = desk.wallets ∧
    (events.foldl (·.note kit ·) desk).issued = desk.issued := by
  induction events generalizing desk with
  | nil => simp
  | cons event rest ih => simp [ih]

@[simp] theorem advance_fields (stimulus : Stimulus) :
    (desk.advance kit stimulus).session = desk.session.step stimulus ∧
    (desk.advance kit stimulus).operator = desk.operator ∧
    (desk.advance kit stimulus).wallets = desk.wallets ∧
    (desk.advance kit stimulus).issued = desk.issued := by
  simp [advance]

/-- The desk with a new visit, told of the request and not yet of what the session did about it. -/
def greet (work : Option (Nat × Operation)) (request : Request) (around : Surroundings) : Desk :=
  { desk.enlist work with session := desk.session.step (.call request around) }.emit
    (.session (.called desk.session.issued request))

@[simp] theorem greet_fields (work : Option (Nat × Operation)) (request : Request)
    (around : Surroundings) :
    (desk.greet work request around).session = desk.session.step (.call request around) ∧
    (desk.greet work request around).visits =
      desk.visits ++ [⟨desk.issued, desk.session.issued, work⟩] ∧
    (desk.greet work request around).history =
      desk.history ++ [.session (.called desk.session.issued request)] := by
  simp [greet, enlist]

/-- An event of the session closes at most one visit, the one whose call has ended. -/
theorem note_cases (event : SessionEvent) :
    desk.note kit event = desk.emit (.session event) ∨
      ∃ call outcome, ∃ visit ∈ desk.visits, event = .ended call outcome ∧
        desk.note kit event = (desk.emit (.session event)).close kit visit outcome := by
  cases event with
  | ended call outcome =>
      cases found : desk.visits.find? (·.call = call) with
      | none => exact .inl (by simp [note, found])
      | some visit =>
          exact .inr ⟨call, outcome, visit, List.mem_of_find?_eq_some found, rfl,
            by simp [note, found]⟩
  | _ => exact .inl rfl

section

variable {desk kit} {wallet : Nat} (employed : desk.operator = some wallet)
  (free : desk.isBusy wallet = false) {operation : Operation} (around : Surroundings)

include employed free

theorem operate_of_none (given : kit.buffer operation.request = none) :
    desk.operate kit operation around =
      (desk.record [.handedOut operation.request none]).refuse
        (.session (.vendor (.nothing operation.request.name))) := by
  simp [operate, employed, free, Vendor.Kit.copy_of_none given]

theorem operate_of_some {buffer : Bytes} (given : kit.buffer operation.request = some buffer) :
    desk.operate kit operation around =
      (desk.record [.handedOut operation.request (some buffer),
        .bufferReleased buffer.length]).accept kit (some (wallet, operation))
          (.exchange [buffer]) around := by
  simp [operate, employed, free, Vendor.Kit.copy_of_some given]

end

/-- An operation finds no operator at leisure, or no command for it is handed out, or the command
goes to the session. -/
theorem operate_cases (operation : Operation) (around : Surroundings) :
    (∃ error, (error = .noOperator ∨ error = .operatorBusy) ∧
      desk.operate kit operation around = desk.refuse error) ∨
    (kit.buffer operation.request = none ∧
      desk.operate kit operation around =
        (desk.record [.handedOut operation.request none]).refuse
          (.session (.vendor (.nothing operation.request.name)))) ∨
    ∃ wallet buffer, desk.operator = some wallet ∧
      kit.buffer operation.request = some buffer ∧
      desk.operate kit operation around =
        (desk.record [.handedOut operation.request (some buffer),
          .bufferReleased buffer.length]).accept kit (some (wallet, operation))
            (.exchange [buffer]) around := by
  cases employed : desk.operator with
  | none => exact .inl ⟨_, .inl rfl, by simp [operate, employed]⟩
  | some wallet =>
      cases busy : desk.isBusy wallet with
      | true => exact .inl ⟨_, .inr rfl, by simp [operate, employed, busy]⟩
      | false =>
          cases given : kit.buffer operation.request with
          | none => exact .inr (.inl ⟨rfl, operate_of_none employed busy around given⟩)
          | some buffer =>
              exact .inr (.inr ⟨wallet, buffer, rfl, rfl,
                operate_of_some employed busy around given⟩)

theorem drop_cases (call : CallId) :
    desk.drop kit call = desk ∨
      ∃ visit ∈ desk.visits, desk.drop kit call =
        ((desk.advance kit (.drop call)).emit (.abandoned visit.number)).discharge visit := by
  cases found : desk.visits.find? (·.call = call) with
  | none => exact .inl (by simp [drop, found])
  | some visit =>
      exact .inr ⟨visit, List.mem_of_find?_eq_some found, by simp [drop, found]⟩

/-- The session takes at most one step at an action. -/
theorem session_step (action : DeskAction) :
    (desk.step kit action).session = desk.session ∨
      ∃ stimulus, (desk.step kit action).session = desk.session.step stimulus ∧
        stimulus.subject? desk.session = action.subject? desk.session := by
  cases action with
  | ask request around => exact .inr ⟨.call request around, (advance_fields ..).1, rfl⟩
  | operate operation around =>
      rcases operate_cases desk kit operation around with
        ⟨error, _, same⟩ | ⟨_, same⟩ | ⟨wallet, buffer, _, _, same⟩
      · exact .inl (by rw [step, same]; rfl)
      · exact .inl (by rw [step, same]; rfl)
      · refine .inr ⟨.call (.exchange [buffer]) around, ?_, rfl⟩
        rw [step, same]
        exact (advance_fields ..).1
  | wake call signal around => exact .inr ⟨.wake call signal around, (advance_fields ..).1, rfl⟩
  | drop call =>
      rcases drop_cases desk kit call with same | ⟨visit, _, same⟩
      · exact .inl (by rw [step, same])
      · exact .inr ⟨.drop call, by rw [step, same]; simp, rfl⟩
  | notice bridge notice => exact .inr ⟨.notice bridge notice, (advance_fields ..).1, rfl⟩
  | alert text => exact .inr ⟨.alert text, (advance_fields ..).1, rfl⟩
  | appoint =>
      refine .inl ?_
      simp only [step, appoint]
      split
      · simp [employ]
      · rfl
  | dismiss => exact .inl (by simp [step, vacate])

@[simp] theorem run_cons (action : Vendor.Kit × DeskAction)
    (rest : List (Vendor.Kit × DeskAction)) :
    desk.run (action :: rest) = (desk.step action.1 action.2).run rest := rfl

end Desk

end Contactless
