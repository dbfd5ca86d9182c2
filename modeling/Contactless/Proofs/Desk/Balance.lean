import Contactless.Proofs.Desk.VendorCalls

/-!
The books of a desk.

An operator keeps its wallet as long as it is in office or at work for a visit, however the visit
comes to its end, and then the wallet is released once. No buffer is out whenever the desk waits.
-/

set_option autoImplicit false

namespace Contactless

namespace Desk

open Vendor (WalletsCounted)

/-- The visits have numbers of their own, and the books on the wallets are in order. -/
structure WalletInvariant (desk : Desk) : Prop where
  numbers : (desk.visits.map (·.number)).Nodup
  bounded : ∀ visit ∈ desk.visits, visit.number < desk.issued
  accounted : WalletsCounted desk.wallets desk.needs desk.vendorEvents

variable {desk : Desk}

theorem vendorEvents_eq (desk : Desk) :
    desk.vendorEvents = desk.history.filterMap DeskEvent.vendor? := by
  unfold vendorEvents
  congr

theorem needs_iff {wallet : Nat} :
    desk.needs wallet = true ↔ desk.operator = some wallet ∨
      ∃ visit ∈ desk.visits, visit.work.map Prod.fst = some wallet := by
  simp only [needs, isBusy, Bool.or_eq_true, decide_eq_true_eq, List.any_eq_true]
  refine or_congr_right (exists_congr fun visit => and_congr_right fun _ => ?_)
  cases visit.work <;> simp

/-- A wallet that was held for one more reason is given back if that was the last one. -/
theorem accounted_settle {wallet : Option Nat} {held : Nat → Bool}
    (accounted : WalletsCounted desk.wallets held desk.vendorEvents)
    (same : ∀ other, held other = (desk.needs other || decide (wallet = some other))) :
    WalletsCounted (desk.settle wallet).wallets (desk.settle wallet).needs
      (desk.settle wallet).vendorEvents := by
  cases wallet with
  | none => exact accounted.congr desk.needs fun other => by simp [same]
  | some left =>
      cases needed : desk.needs left with
      | true =>
          have kept : desk.settle (some left) = desk := by simp [settle, needed]
          rw [kept]
          refine accounted.congr _ fun other => ?_
          by_cases here : left = other
          · simp [same, ← here, needed]
          · simp [same, here]
      | false =>
          have left_over : desk.settle (some left) = desk.record [.walletReleased left] := by
            simp [settle, needed]
          rw [left_over, vendorEvents_eq, record, List.filterMap_append, ← vendorEvents_eq]
          refine accounted.release desk.needs (by simp [same]) fun other => ?_
          by_cases here : other = left
          · simp [here, needed]
          · simp [same, here, Ne.symm here]

theorem walletInvariant_settle (desk : Desk) {wallet : Option Nat} {held : Nat → Bool}
    (numbers : (desk.visits.map (·.number)).Nodup)
    (bounded : ∀ visit ∈ desk.visits, visit.number < desk.issued)
    (accounted : WalletsCounted desk.wallets held desk.vendorEvents)
    (same : ∀ other, held other = (desk.needs other || decide (wallet = some other))) :
    (desk.settle wallet).WalletInvariant :=
  ⟨by simpa using numbers, by simpa using bounded, accounted_settle accounted same⟩

theorem WalletInvariant.needs_forget (kept : desk.WalletInvariant) {visit : Visit}
    (member : visit ∈ desk.visits) (wallet : Nat) :
    desk.needs wallet = ((desk.forget visit).needs wallet ||
      decide (visit.work.map Prod.fst = some wallet)) := by
  rw [Bool.eq_iff_iff, Bool.or_eq_true, needs_iff, needs_iff, decide_eq_true_eq]
  simp only [forget, List.mem_filter, decide_eq_true_eq]
  constructor
  · rintro (office | ⟨other, pending, works⟩)
    · exact .inl (.inl office)
    · by_cases same : other.number = visit.number
      · obtain rfl := List.inj_on_of_nodup_map kept.numbers pending member same
        exact .inr works
      · exact .inl (.inr ⟨other, ⟨pending, same⟩, works⟩)
  · rintro ((office | ⟨other, ⟨pending, _⟩, works⟩) | works)
    · exact .inl office
    · exact .inr ⟨other, pending, works⟩
    · exact .inr ⟨visit, member, works⟩

theorem WalletInvariant.tell (kept : desk.WalletInvariant) {new : List DeskEvent}
    (still : ∀ event ∈ new.filterMap DeskEvent.vendor?, event.movesWallet = false) :
    WalletInvariant { desk with history := desk.history ++ new } := by
  refine ⟨kept.numbers, kept.bounded, ?_⟩
  have accounted := kept.accounted.still still
  rw [vendorEvents_eq, ← List.filterMap_append] at accounted
  rwa [vendorEvents_eq]

theorem WalletInvariant.discharge (kept : desk.WalletInvariant) {visit : Visit}
    (member : visit ∈ desk.visits) : (desk.discharge visit).WalletInvariant :=
  walletInvariant_settle (desk.forget visit) (kept.numbers.sublist (List.filter_sublist.map _))
    (fun other member => kept.bounded other (List.mem_of_mem_filter member)) kept.accounted
    (kept.needs_forget member)

theorem WalletInvariant.emit (kept : desk.WalletInvariant) {event : DeskEvent}
    (aside : event.vendor? = none) : (desk.emit event).WalletInvariant :=
  kept.tell (by simp [aside])

theorem filterMap_vendor (events : List Vendor.Event) :
    (events.map DeskEvent.vendor).filterMap DeskEvent.vendor? = events := by
  simp [List.filterMap_map, Function.comp_def, DeskEvent.vendor?]

theorem WalletInvariant.record (kept : desk.WalletInvariant) {events : List Vendor.Event}
    (still : ∀ event ∈ events, event.movesWallet = false) : (desk.record events).WalletInvariant :=
  kept.tell (by rwa [filterMap_vendor])

theorem still_conclude (operation : Operation) (kit : Vendor.Kit) (answer : Bytes) :
    ∀ event ∈ (operation.conclude kit answer).1, event.movesWallet = false := by
  unfold Operation.conclude
  split
  · simp
  · dsimp only
    split
    · simp
    · cases operation with
      | selectWallet aid =>
          simp [Operation.interpret, Vendor.Attempt.map, Vendor.Kit.judge, Vendor.Event.movesWallet]
      | readFirmware => exact Vendor.still_copy kit _
      | shakeHands =>
          simp [Operation.interpret, Vendor.Attempt.map, Vendor.Kit.judge, Vendor.Event.movesWallet]

theorem still_closing (kit : Vendor.Kit) (visit : Visit) (outcome : Outcome) :
    ∀ event ∈ (closing kit visit outcome).filterMap DeskEvent.vendor?,
      event.movesWallet = false := by
  unfold closing
  split
  · rw [List.filterMap_append, filterMap_vendor]
    simpa [DeskEvent.vendor?] using still_conclude _ kit _
  · simp [DeskEvent.vendor?]
  · simp [DeskEvent.vendor?]

theorem WalletInvariant.close (kept : desk.WalletInvariant) (kit : Vendor.Kit) {visit : Visit}
    (member : visit ∈ desk.visits) (outcome : Outcome) :
    (desk.close kit visit outcome).WalletInvariant := by
  rw [close_eq]
  exact (kept.tell (still_closing kit visit outcome)).discharge member

theorem WalletInvariant.note (kept : desk.WalletInvariant) (kit : Vendor.Kit)
    (event : SessionEvent) : (desk.note kit event).WalletInvariant := by
  have told : (desk.emit (.session event)).WalletInvariant := kept.emit rfl
  rcases note_cases desk kit event with plain | ⟨call, outcome, visit, member, _, closed⟩
  · rw [plain]
    exact told
  · rw [closed]
    exact told.close kit member outcome

theorem WalletInvariant.notes (kept : desk.WalletInvariant) (kit : Vendor.Kit)
    (events : List SessionEvent) : (events.foldl (·.note kit ·) desk).WalletInvariant := by
  induction events generalizing desk with
  | nil => exact kept
  | cons event rest ih => exact ih (kept.note kit event)

theorem WalletInvariant.advance (kept : desk.WalletInvariant) (kit : Vendor.Kit)
    (stimulus : Stimulus) : (desk.advance kit stimulus).WalletInvariant := by
  have stepped : WalletInvariant { desk with session := desk.session.step stimulus } :=
    ⟨kept.numbers, kept.bounded, kept.accounted⟩
  exact stepped.notes kit _

theorem WalletInvariant.enlist (kept : desk.WalletInvariant) {work : Option (Nat × Operation)}
    (office : ∀ wallet, work.map Prod.fst = some wallet → desk.operator = some wallet) :
    (desk.enlist work).WalletInvariant where
  numbers := by
    have fresh : desk.issued ∉ desk.visits.map (·.number) := fun member => by
      obtain ⟨visit, pending, same⟩ := List.mem_map.mp member
      exact Nat.ne_of_lt (kept.bounded visit pending) same
    simpa [Desk.enlist, List.nodup_append] using ⟨kept.numbers, by simpa using fresh⟩
  bounded := by
    intro visit member
    rcases List.mem_append.mp member with old | new
    · exact Nat.lt_succ_of_lt (kept.bounded visit old)
    · rw [List.mem_singleton.mp new]
      exact Nat.lt_succ_self _
  accounted := by
    refine kept.accounted.congr (desk.enlist work).needs fun wallet => ?_
    rw [Bool.eq_iff_iff, needs_iff, needs_iff]
    simp only [Desk.enlist, List.mem_append, List.mem_singleton]
    constructor
    · rintro (there | ⟨visit, pending | rfl, works⟩)
      · exact .inl there
      · exact .inr ⟨visit, pending, works⟩
      · exact .inl (office wallet works)
    · rintro (there | ⟨visit, pending, works⟩)
      · exact .inl there
      · exact .inr ⟨visit, .inl pending, works⟩

theorem WalletInvariant.accept (kept : desk.WalletInvariant) (kit : Vendor.Kit)
    {work : Option (Nat × Operation)}
    (office : ∀ wallet, work.map Prod.fst = some wallet → desk.operator = some wallet)
    (request : Request) (around : Surroundings) :
    (desk.accept kit work request around).WalletInvariant :=
  (kept.enlist office).advance kit (.call request around)

theorem WalletInvariant.refuse (kept : desk.WalletInvariant) (error : DeskError) :
    (desk.refuse error).WalletInvariant := by
  have issued : WalletInvariant { desk with issued := desk.issued + 1 } :=
    ⟨kept.numbers, fun visit member => Nat.lt_succ_of_lt (kept.bounded visit member),
      kept.accounted⟩
  exact issued.emit rfl

theorem WalletInvariant.operate (kept : desk.WalletInvariant) (kit : Vendor.Kit)
    (operation : Operation)
    (around : Surroundings) : (desk.operate kit operation around).WalletInvariant := by
  rcases operate_cases desk kit operation around with
    ⟨error, _, refused⟩ | ⟨_, nothing⟩ | ⟨wallet, buffer, employed, _, built⟩
  · rw [refused]
    exact kept.refuse error
  · rw [nothing]
    exact (kept.record (by simp [Vendor.Event.movesWallet])).refuse _
  · rw [built]
    refine (kept.record (by simp [Vendor.Event.movesWallet])).accept kit ?_ _ around
    rintro other same
    rw [← same]
    exact employed

theorem not_ended_of_drop {session : Session} (reached : Session.Reached .outside session)
    (call : CallId) : ∀ event ∈ (session.step (.drop call)).history.drop session.history.length,
      ∀ other outcome, event ≠ .ended other outcome := by
  rintro event member other outcome rfl
  have course := Session.step_course session (.drop call)
  generalize session.step (.drop call) = final at course member
  cases course with
  | idle => simp at member
  | aside move =>
      obtain ⟨new, grown, _⟩ := reached.sound.moments move
      rw [grown, List.drop_left] at member
      obtain ⟨before, after, rfl⟩ := List.append_of_mem member
      rcases reached.sound.moment move grown with impossible | ⟨_, _, impossible, _⟩ <;>
        cases impossible

theorem visits_notes (desk : Desk) (kit : Vendor.Kit) {events : List SessionEvent}
    (other : ∀ event ∈ events, ∀ call outcome, event ≠ .ended call outcome) :
    (events.foldl (·.note kit ·) desk).visits = desk.visits := by
  induction events generalizing desk with
  | nil => rfl
  | cons event rest ih =>
      obtain ⟨here, there⟩ := List.forall_mem_cons.mp other
      have same : (desk.note kit event).visits = desk.visits := by
        cases event with
        | ended call outcome => exact absurd rfl (here call outcome)
        | _ => rfl
      exact (ih (desk.note kit event) there).trans same

/-- However long its operation has been going on, a visit that is abandoned is discharged once. -/
theorem WalletInvariant.drop (kept : desk.WalletInvariant)
    (reached : Session.Reached .outside desk.session)
    (kit : Vendor.Kit) (call : CallId) : (desk.drop kit call).WalletInvariant := by
  rcases drop_cases desk kit call with unknown | ⟨visit, pending, gone⟩
  · rw [unknown]
    exact kept
  · rw [gone]
    have left : ((desk.advance kit (.drop call)).emit (.abandoned visit.number)).WalletInvariant :=
      (kept.advance kit (.drop call)).emit rfl
    have stays : (desk.advance kit (.drop call)).visits = desk.visits :=
      visits_notes _ kit (not_ended_of_drop reached call)
    exact left.discharge (stays.symm ▸ pending)

/-- The former operator keeps its wallet only for a visit. -/
theorem WalletInvariant.appoint (kept : desk.WalletInvariant) (kit : Vendor.Kit) :
    (desk.appoint kit).WalletInvariant := by
  unfold Desk.appoint
  split
  · have granted := kept.accounted.grant
      (fun wallet => decide (wallet = desk.wallets) || desk.needs wallet) fun _ => rfl
    have recorded : (desk.employ.record [.walletGranted desk.wallets]).vendorEvents =
        desk.vendorEvents ++ [.walletGranted desk.wallets] := by
      simp [vendorEvents_eq, DeskEvent.vendor?, employ]
    rw [← recorded] at granted
    refine (walletInvariant_settle (desk.employ.record _)
      kept.numbers kept.bounded granted ?_).emit rfl
    intro wallet
    rw [Bool.eq_iff_iff]
    simp only [Bool.or_eq_true, decide_eq_true_eq, needs_iff, record_fields, employ,
      Option.some.injEq, @eq_comm _ wallet desk.wallets]
    rw [or_assoc]
    exact or_congr_right or_comm
  · exact (kept.record (by simp [Vendor.Event.movesWallet])).emit rfl

theorem WalletInvariant.dismiss (kept : desk.WalletInvariant) :
    (desk.vacate.settle desk.operator).WalletInvariant := by
  refine walletInvariant_settle desk.vacate kept.numbers kept.bounded
    kept.accounted fun wallet => ?_
  rw [Bool.eq_iff_iff]
  simp only [Bool.or_eq_true, decide_eq_true_eq, needs_iff, vacate, reduceCtorEq, false_or]
  exact or_comm

theorem WalletInvariant.step (kept : desk.WalletInvariant)
    (reached : Session.Reached .outside desk.session)
    (kit : Vendor.Kit) (action : DeskAction) : (desk.step kit action).WalletInvariant := by
  cases action with
  | ask request around => exact kept.accept kit (by simp) request around
  | operate operation around => exact kept.operate kit operation around
  | wake call signal around => exact kept.advance kit (.wake call signal around)
  | drop call => exact kept.drop reached kit call
  | notice bridge notice => exact kept.advance kit (.notice bridge notice)
  | alert text => exact kept.advance kit (.alert text)
  | appoint => exact kept.appoint kit
  | dismiss => exact kept.dismiss

theorem walletInvariant_initial (policy : Policy) : (initial policy).WalletInvariant :=
  ⟨.nil, by simp [initial], .initial⟩

theorem reached_step (reached : Session.Reached .outside desk.session) (kit : Vendor.Kit)
    (action : DeskAction) : Session.Reached .outside (desk.step kit action).session := by
  rcases desk.session_step kit action with same | ⟨stimulus, same, _⟩
  · rw [same]
    exact reached
  · rw [same]
    exact reached.trans (Session.step_moves desk.session stimulus)

/-- Along every run the books are in order, and what the kit was asked for is settled. -/
theorem invariant_run (reached : Session.Reached .outside desk.session)
    (kept : desk.WalletInvariant) (actions : List (Vendor.Kit × DeskAction)) :
    (desk.run actions).WalletInvariant ∧ SettlesCalls desk (desk.run actions) := by
  induction actions generalizing desk with
  | nil => exact ⟨kept, .refl desk⟩
  | cons action rest ih =>
      obtain ⟨later, deals⟩ := ih (reached_step reached action.1 action.2)
        (kept.step reached action.1 action.2)
      exact ⟨later, (settlesCalls_step action.1 reached action.2).trans deals⟩

/-- Buffers and wallets of the kit are balanced, for codecs on a rack and for the operators of a
desk. -/
structure BuffersAndWalletsReleased : Prop where
  rack : ∀ requests, (({} : Vendor.Rack).run requests).Invariant
  codecs : ∀ requests, (({} : Vendor.Rack).run requests).ledger =
    ⟨(({} : Vendor.Rack).run requests).slots.length, 0⟩
  passes : ∀ (rack : Vendor.Rack) kit slot, rack.ServesCodec kit slot
  dealt : ∀ policy actions, CallsSettled ((initial policy).run actions).history
  returned : ∀ policy actions,
    Vendor.BuffersReturned DeskEvent.vendor? ((initial policy).run actions).history
  accounted : ∀ policy actions, WalletsCounted ((initial policy).run actions).wallets
    ((initial policy).run actions).needs ((initial policy).run actions).vendorEvents
  operators : ∀ policy actions, ((initial policy).run actions).ledger =
    ⟨(List.range ((initial policy).run actions).wallets).countP
      ((initial policy).run actions).needs, 0⟩

/-- Whatever happens and whatever the kit replies, nothing of it is leaked or given back twice. -/
theorem run_buffers_and_wallets_released : BuffersAndWalletsReleased := by
  have runs : ∀ policy actions, WalletsCounted ((initial policy).run actions).wallets
      ((initial policy).run actions).needs ((initial policy).run actions).vendorEvents ∧
      CallsSettled ((initial policy).run actions).history := by
    intro policy actions
    obtain ⟨kept, new, grown, dealt⟩ :=
      invariant_run (Session.Reached.run policy []) (walletInvariant_initial policy) actions
    have whole : ((initial policy).run actions).history = new := by simpa [initial] using grown
    exact ⟨kept.accounted, whole ▸ dealt⟩
  refine ⟨Vendor.Rack.invariant_run, fun requests => (Vendor.Rack.invariant_run requests).ledger,
    Vendor.Rack.passes, fun policy actions => (runs policy actions).2,
    fun policy actions => (runs policy actions).2.returned,
    fun policy actions => (runs policy actions).1, fun policy actions => ?_⟩
  obtain ⟨accounted, dealt⟩ := runs policy actions
  have buffers := Vendor.Ledger.buffers_of_returned dealt.returned
  rw [← vendorEvents_eq] at buffers
  exact Vendor.Ledger.mk.injEq .. ▸ ⟨accounted.live, buffers⟩

end Desk

end Contactless
