import Contactless.Proofs.Desk.Fields
import Contactless.Proofs.Session.Blank
import Contactless.Proofs.Session.Prompting

/-!
What comes of the purposes for which sessions are started: prompts and snapshots, and nothing else.

Two desks to which the same happens for different purposes stay the same in all other respects. That
holds even if the surroundings react to everything else that they see of the desk.
-/

set_option autoImplicit false

namespace Contactless

def DeskValue.blank : DeskValue → DeskValue
  | .value plain => .value plain.blank
  | .version read => .version read

/-- The event without the purpose of a request or of a snapshot, and without what the radio is told
when it begins. -/
def DeskEvent.blank : DeskEvent → DeskEvent
  | .session event => .session event.blank
  | .closed visit outcome => .closed visit (outcome.map DeskValue.blank)
  | event => event

def DeskAction.blank : DeskAction → DeskAction
  | .ask request around => .ask request.blank around
  | action => action

def DeskAction.withPurpose (purpose : Purpose) : DeskAction → DeskAction
  | .ask (.start _) around => .ask (.start purpose) around
  | action => action

@[simp] theorem DeskAction.blank_withPurpose (purpose : Purpose) (action : DeskAction) :
    (action.withPurpose purpose).blank = action.blank := by
  unfold DeskAction.withPurpose
  split <;> rfl

@[simp] theorem DeskValue.blank_blank (value : DeskValue) : value.blank.blank = value.blank := by
  cases value <;> simp [DeskValue.blank]

@[simp] theorem DeskEvent.blank_blank (event : DeskEvent) : event.blank.blank = event.blank := by
  cases event with
  | closed visit outcome => cases outcome <;> simp [DeskEvent.blank, Except.map]
  | _ => simp [DeskEvent.blank]

namespace Desk

def blank (desk : Desk) : Desk :=
  { desk with
    session := desk.session.blank
    history := desk.history.map (·.blank) }

/-- What happens to a desk in its surroundings. Kit, radio, cards and callers react to the number of
the turn and to all of the desk but purposes and prompts; those who start sessions have purposes. -/
def play (policy : Policy) (surroundings : Nat → Desk → Vendor.Kit × DeskAction)
    (purposes : Nat → Purpose) : Nat → Desk
  | 0 => initial policy
  | turn + 1 =>
    let desk := play policy surroundings purposes turn
    let next := surroundings turn desk.blank
    desk.step next.1 (next.2.withPurpose (purposes turn))

/-- The desks are the same but for purposes and prompts. -/
structure Agree (first second : Desk) : Prop where
  history : first.history.map (·.blank) = second.history.map (·.blank)
  visits : first.visits = second.visits
  issued : first.issued = second.issued
  operator : first.operator = second.operator
  wallets : first.wallets = second.wallets
  policy : first.session.policy = second.session.policy
  phase : first.session.phase = second.session.phase
  connection : first.session.connection = second.session.connection
  held : first.session.held = second.session.held
  slot : first.session.slot = second.session.slot
  live : first.session.live = second.session.live
  bridges : first.session.bridges = second.session.bridges
  lock : first.session.lock = second.session.lock
  calls : first.session.calls.map (fun pending => (pending.1, pending.2.blank)) =
    second.session.calls.map fun pending => (pending.1, pending.2.blank)
  asked : first.session.issued = second.session.issued
  events : first.session.history.map (·.blank) = second.session.history.map (·.blank)

/-- Purposes are told, and nothing depends on them. -/
structure PurposeOnlyPrompts (policy : Policy) : Prop where
  run : ∀ first second : List (Vendor.Kit × DeskAction),
    (first.map fun action => (action.1, action.2.blank)) =
      second.map (fun action => (action.1, action.2.blank)) →
    Agree ((initial policy).run first) ((initial policy).run second)
  play : ∀ surroundings first second turn,
    Agree (play policy surroundings first turn) (play policy surroundings second turn)
  prompted : ∀ before stimulus new call bridge prompt,
    ((Session.initial policy).run (before ++ [stimulus])).history =
        ((Session.initial policy).run before).history ++ new →
    SessionEvent.begun call bridge prompt ∈ new →
    ∃ purpose, Session.OpenedFor policy (before ++ [stimulus]) purpose ∧
      prompt = purpose.prompt ∧ prompt ≠ ""

variable (desk : Desk) (kit : Vendor.Kit)

@[simp] theorem blank_blank : desk.blank.blank = desk.blank := by
  simp [blank, Function.comp_def]

@[simp] theorem blank_fields :
    desk.blank.session = desk.session.blank ∧
    desk.blank.operator = desk.operator ∧
    desk.blank.wallets = desk.wallets ∧
    desk.blank.visits = desk.visits ∧
    desk.blank.issued = desk.issued ∧
    desk.blank.history = desk.history.map (·.blank) := by
  simp [blank]

@[simp] theorem needs_blank (wallet : Nat) : desk.blank.needs wallet = desk.needs wallet := rfl

@[simp] theorem isBusy_blank (wallet : Nat) : desk.blank.isBusy wallet = desk.isBusy wallet := rfl

@[simp] theorem blank_emit (event : DeskEvent) :
    (desk.emit event).blank = desk.blank.emit event.blank := by
  simp [emit, blank]

@[simp] theorem blank_record (events : List Vendor.Event) :
    (desk.record events).blank = desk.blank.record events := by
  simp [record, blank, Function.comp_def, DeskEvent.blank]

@[simp] theorem blank_settle (wallet : Option Nat) :
    (desk.settle wallet).blank = desk.blank.settle wallet := by
  cases wallet with
  | none => rfl
  | some wallet =>
      cases needed : desk.needs wallet <;> simp [settle, needed]

@[simp] theorem blank_discharge (visit : Visit) :
    (desk.discharge visit).blank = desk.blank.discharge visit := by
  simp only [discharge, blank_settle]
  rfl

theorem blank_conclude (operation : Operation) (answer : Bytes) :
    ((operation.conclude kit answer).2.mapError DeskError.session).map DeskValue.blank =
      (operation.conclude kit answer).2.mapError DeskError.session := by
  unfold Operation.conclude
  split
  · rfl
  · dsimp only
    split
    · rfl
    · cases operation with
      | selectWallet aid =>
          simp only [Operation.interpret, Vendor.Attempt.map]
          cases (kit.judge (.selectResponse answer)).result <;> rfl
      | readFirmware =>
          simp only [Operation.interpret, Vendor.Attempt.map]
          cases (kit.firmwareVersion answer).result <;> rfl
      | shakeHands =>
          simp only [Operation.interpret, Vendor.Attempt.map]
          cases (kit.judge (.handshakeResponse answer)).result <;> rfl

@[simp] theorem blank_close (visit : Visit) (outcome : Outcome) :
    (desk.close kit visit outcome).blank = desk.blank.close kit visit (Outcome.blank outcome) := by
  obtain ⟨number, call, work⟩ := visit
  cases outcome with
  | error error => cases work <;> simp [close, DeskEvent.blank, Except.map]
  | ok value =>
      cases value with
      | answer bytes =>
          cases work with
          | none => simp [close, DeskEvent.blank, Except.map, DeskValue.blank, Value.blank]
          | some work => simp [close, DeskEvent.blank, blank_conclude, Value.blank]
      | _ => cases work <;> simp [close, DeskEvent.blank, Except.map, DeskValue.blank, Value.blank]

@[simp] theorem blank_note (event : SessionEvent) :
    (desk.note kit event).blank = desk.blank.note kit event.blank := by
  cases event with
  | ended call outcome =>
      cases found : desk.visits.find? (·.call = call) <;>
        simp [note, DeskEvent.blank, SessionEvent.blank, found]
  | _ => simp [note, DeskEvent.blank, SessionEvent.blank]

theorem blank_notes (events : List SessionEvent) :
    (events.foldl (·.note kit ·) desk).blank =
      (events.map (·.blank)).foldl (·.note kit ·) desk.blank := by
  induction events generalizing desk with
  | nil => rfl
  | cons event rest ih => simp [ih]

theorem blank_advance (stimulus : Stimulus) :
    (desk.advance kit stimulus).blank = (desk.blank.advance kit stimulus.blank).blank := by
  have stepped := Session.blank_step desk.session stimulus
  have grown := congrArg Session.history stepped
  simp only [Session.blank_fields] at grown
  simp only [advance, blank_notes, List.map_drop, blank_fields, Session.blank_fields,
    List.length_map, grown]
  simp [blank, stepped, Function.comp_def]

theorem blank_accept (work : Option (Nat × Operation)) (request : Request)
    (around : Surroundings) :
    (desk.accept kit work request around).blank =
      (desk.blank.accept kit work request.blank around).blank :=
  blank_advance (desk.enlist work) kit (.call request around)

@[simp] theorem blank_refuse (error : DeskError) :
    (desk.refuse error).blank = desk.blank.refuse error := by
  simp only [refuse, blank_emit]
  rfl

theorem blank_operate (operation : Operation) (around : Surroundings) :
    (desk.operate kit operation around).blank =
      (desk.blank.operate kit operation around).blank := by
  cases employed : desk.operator with
  | none => simp [operate, employed]
  | some wallet =>
      cases busy : desk.isBusy wallet with
      | true => simp [operate, employed, busy]
      | false =>
          cases built : (kit.copy operation.request).result with
          | error fault => simp [operate, employed, busy, built]
          | ok command =>
              simp only [operate, employed, blank_fields, isBusy_blank, busy, built,
                Bool.false_eq_true, ↓reduceIte]
              rw [blank_accept, blank_record]
              rfl

theorem blank_drop (call : CallId) :
    (desk.drop kit call).blank = (desk.blank.drop kit call).blank := by
  simp only [drop, blank_fields]
  split
  · simp
  · simp only [blank_discharge, blank_emit, blank_advance desk kit (.drop call)]
    rfl

theorem blank_appoint : (desk.appoint kit).blank = desk.blank.appoint kit := by
  simp only [appoint]
  split
  · simp only [blank_emit, blank_settle, blank_record]
    rfl
  · simp only [blank_emit, blank_record]
    rfl

/-- A step of the desk can be blanked out before it is taken. -/
theorem blank_step (action : DeskAction) :
    (desk.step kit action).blank = (desk.blank.step kit action.blank).blank := by
  cases action with
  | ask request around => exact blank_accept desk kit none request around
  | operate operation around => exact blank_operate desk kit operation around
  | wake call signal around => exact blank_advance desk kit (.wake call signal around)
  | drop call => exact blank_drop desk kit call
  | notice bridge notice => exact blank_advance desk kit (.notice bridge notice)
  | alert text => exact blank_advance desk kit (.alert text)
  | appoint => simp [step, DeskAction.blank, blank_appoint]
  | dismiss =>
      simp only [step, DeskAction.blank, blank_settle]
      exact congrArg (·.settle desk.operator) (blank_blank desk.vacate).symm

theorem Agree.of_blank {first second : Desk} (same : first.blank = second.blank) :
    Agree first second where
  history := congrArg (·.history) same
  visits := congrArg (·.visits) same
  issued := congrArg (·.issued) same
  operator := congrArg (·.operator) same
  wallets := congrArg (·.wallets) same
  policy := congrArg (·.session.policy) same
  phase := congrArg (·.session.phase) same
  connection := congrArg (·.session.connection) same
  held := congrArg (·.session.held) same
  slot := congrArg (·.session.slot) same
  live := congrArg (·.session.live) same
  bridges := congrArg (·.session.bridges) same
  lock := congrArg (·.session.lock) same
  calls := congrArg (·.session.calls) same
  asked := congrArg (·.session.issued) same
  events := congrArg (·.session.history) same

theorem blank_step_congr {first second : Desk} {one two : DeskAction}
    (alike : first.blank = second.blank) (same : one.blank = two.blank) :
    (first.step kit one).blank = (second.step kit two).blank := by
  rw [blank_step, alike, same, ← blank_step]

theorem blank_run {first second : Desk} {actions others : List (Vendor.Kit × DeskAction)}
    (alike : first.blank = second.blank)
    (same : (actions.map fun action => (action.1, action.2.blank)) =
      others.map fun action => (action.1, action.2.blank)) :
    (first.run actions).blank = (second.run others).blank := by
  induction actions generalizing first second others with
  | nil =>
      rw [List.map_nil, eq_comm, List.map_eq_nil_iff] at same
      rw [same]
      exact alike
  | cons action rest ih =>
      cases others with
      | nil => cases same
      | cons other others =>
          simp only [List.map_cons, List.cons.injEq, Prod.mk.injEq] at same
          obtain ⟨⟨kit, first⟩, later⟩ := same
          rw [run_cons, run_cons, kit]
          exact ih (blank_step_congr _ alike first) later

/-- Whatever the purposes are, the surroundings see the same. -/
theorem blank_play (policy : Policy) (surroundings : Nat → Desk → Vendor.Kit × DeskAction)
    (first second : Nat → Purpose) (turn : Nat) :
    (play policy surroundings first turn).blank = (play policy surroundings second turn).blank := by
  induction turn with
  | zero => rfl
  | succ turn ih =>
      simp only [play]
      rw [ih]
      exact blank_step_congr _ ih (by simp)

/-- Nothing but prompts and snapshots depends on purposes, and every prompt is the one of the
purpose for which the session was opened. -/
theorem run_purpose_only_prompts (policy : Policy) : PurposeOnlyPrompts policy where
  run first second same := .of_blank (blank_run rfl same)
  play surroundings first second turn :=
    .of_blank (blank_play policy surroundings first second turn)
  prompted before stimulus new call bridge prompt grown begun := by
    obtain ⟨purpose, opened, rfl⟩ := Session.run_begun policy before stimulus grown begun
    exact ⟨purpose, opened, rfl, purpose.prompt_ne_empty⟩

end Desk

end Contactless
