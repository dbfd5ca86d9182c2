import Contactless.Vendor.Rack
import Mathlib.Data.List.Nodup
import Mathlib.Data.List.Perm.Subperm

/-!
The books of the vendor's kit.

A buffer goes back right after it was handed out, with its length, and no other one ever goes back.
A wallet is granted once, and it is released once its holder has left and not before. Racks keep
such books under all replies of the kit.
-/

set_option autoImplicit false

namespace Contactless.Vendor

def Event.movesBuffer : Event → Bool
  | .handedOut _ (some _) | .bufferReleased _ => true
  | _ => false

def Event.movesWallet : Event → Bool
  | .walletGranted _ | .walletReleased _ => true
  | _ => false

/-- Every buffer goes back at once and with its length, and nothing else goes back. Some of the
things that happened are calls of the kit. -/
inductive BuffersReturned {α : Type} (call? : α → Option Event) : List α → Prop
  | nil : BuffersReturned call? []
  | aside {thing : α} {rest : List α}
      (still : ∀ event, call? thing = some event → event.movesBuffer = false)
      (later : BuffersReturned call? rest) : BuffersReturned call? (thing :: rest)
  | lent {thing other : α} {rest : List α} {call : BufferCall} {buffer : Bytes}
      (handed : call? thing = some (.handedOut call (some buffer)))
      (back : call? other = some (.bufferReleased buffer.length))
      (later : BuffersReturned call? rest) : BuffersReturned call? (thing :: other :: rest)

/-- The books on the wallets: which of those granted so far are held. -/
structure WalletsCounted (granted : Nat) (held : Nat → Bool) (events : List Event) : Prop where
  bounded : ∀ wallet, held wallet = true → wallet < granted
  grants : ∀ wallet, events.count (.walletGranted wallet) = if wallet < granted then 1 else 0
  releases : ∀ wallet, events.count (.walletReleased wallet) =
    if wallet < granted ∧ held wallet = false then 1 else 0
  live : (Ledger.ofEvents events).wallets = ((List.range granted).countP held : Nat)

namespace BuffersReturned

variable {α : Type} {call? : α → Option Event} {first second : List α}

theorem append (one : BuffersReturned call? first) (two : BuffersReturned call? second) :
    BuffersReturned call? (first ++ second) := by
  induction one with
  | nil => exact two
  | aside still _ ih => exact .aside still ih
  | lent handed back _ ih => exact .lent handed back ih

theorem of_aside (still : ∀ thing ∈ first, ∀ event, call? thing = some event →
    event.movesBuffer = false) : BuffersReturned call? first := by
  induction first with
  | nil => exact .nil
  | cons thing rest ih =>
      obtain ⟨here, there⟩ := List.forall_mem_cons.mp still
      exact .aside here (ih there)

end BuffersReturned

namespace Ledger

theorem ofEvents_append (first second : List Event) :
    ofEvents (first ++ second) = second.foldl record (ofEvents first) :=
  List.foldl_append

theorem buffers_record {event : Event} (still : event.movesBuffer = false) (ledger : Ledger) :
    (ledger.record event).buffers = ledger.buffers := by
  cases event with
  | handedOut call buffer => cases buffer <;> first | rfl | cases still
  | bufferReleased => cases still
  | _ => rfl

theorem wallets_record {event : Event} (still : event.movesWallet = false) (ledger : Ledger) :
    (ledger.record event).wallets = ledger.wallets := by
  cases event with
  | handedOut call buffer => cases buffer <;> rfl
  | walletGranted | walletReleased => cases still
  | _ => rfl

theorem wallets_foldl {events : List Event} (still : ∀ event ∈ events, event.movesWallet = false)
    (ledger : Ledger) : (events.foldl record ledger).wallets = ledger.wallets := by
  induction events generalizing ledger with
  | nil => rfl
  | cons event rest ih =>
      obtain ⟨here, there⟩ := List.forall_mem_cons.mp still
      rw [List.foldl_cons, ih there, wallets_record here]

theorem buffers_foldl {α : Type} {call? : α → Option Event} {history : List α}
    (returned : BuffersReturned call? history) (ledger : Ledger) :
    ((history.filterMap call?).foldl record ledger).buffers = ledger.buffers := by
  induction returned generalizing ledger with
  | nil => rfl
  | @aside thing rest still _ ih =>
      cases told : call? thing with
      | none => rw [List.filterMap_cons_none told, ih]
      | some event =>
          rw [List.filterMap_cons_some told, List.foldl_cons, ih, buffers_record (still event told)]
  | lent handed back _ ih =>
      rw [List.filterMap_cons_some handed, List.filterMap_cons_some back, List.foldl_cons,
        List.foldl_cons, ih]
      simp [record]

theorem buffers_of_returned {α : Type} {call? : α → Option Event} {history : List α}
    (returned : BuffersReturned call? history) : (ofEvents (history.filterMap call?)).buffers = 0 :=
  buffers_foldl returned {}

end Ledger

namespace WalletsCounted

variable {granted : Nat} {held : Nat → Bool} {events new : List Event}

theorem initial : WalletsCounted 0 (fun _ => false) [] :=
  ⟨by simp, by simp, by simp, rfl⟩

theorem congr (accounted : WalletsCounted granted held events) (later : Nat → Bool)
    (same : ∀ wallet, later wallet = held wallet) : WalletsCounted granted later events := by
  rw [funext same]
  exact accounted

theorem still (accounted : WalletsCounted granted held events)
    (aside : ∀ event ∈ new, event.movesWallet = false) :
    WalletsCounted granted held (events ++ new) := by
  have absent : ∀ event : Event, event.movesWallet = true → new.count event = 0 := by
    intro event moves
    refine List.count_eq_zero.mpr fun member => ?_
    rw [aside event member] at moves
    cases moves
  refine ⟨accounted.bounded, ?_, ?_, ?_⟩
  · intro wallet
    rw [List.count_append, absent _ rfl, accounted.grants, Nat.add_zero]
  · intro wallet
    rw [List.count_append, absent _ rfl, accounted.releases, Nat.add_zero]
  · rw [Ledger.ofEvents_append, Ledger.wallets_foldl aside, accounted.live]

theorem grant (accounted : WalletsCounted granted held events) (later : Nat → Bool)
    (same : ∀ wallet, later wallet = (decide (wallet = granted) || held wallet)) :
    WalletsCounted (granted + 1) later (events ++ [.walletGranted granted]) := by
  have unheld : held granted = false :=
    eq_false_of_ne_true fun held => Nat.lt_irrefl _ (accounted.bounded granted held)
  refine ⟨?_, ?_, ?_, ?_⟩
  · intro wallet held
    rw [same, Bool.or_eq_true, decide_eq_true_eq] at held
    rcases held with rfl | held
    · exact Nat.lt_succ_self wallet
    · exact Nat.lt_succ_of_lt (accounted.bounded wallet held)
  · intro wallet
    rw [List.count_append, accounted.grants, List.count_singleton]
    by_cases here : wallet = granted
    · simp [here]
    · have apart : ¬ granted = wallet := Ne.symm here
      have order : wallet < granted + 1 ↔ wallet < granted := by omega
      simp [apart, order]
  · intro wallet
    rw [List.count_append, accounted.releases, List.count_singleton, same]
    by_cases here : wallet = granted
    · simp [here]
    · have order : wallet < granted + 1 ↔ wallet < granted := by omega
      simp [here, order]
  · have others : (List.range granted).countP later = (List.range granted).countP held := by
      refine List.countP_congr fun wallet member => ?_
      have apart : wallet ≠ granted := Nat.ne_of_lt (List.mem_range.mp member)
      simp [same, apart]
    rw [Ledger.ofEvents_append, List.range_succ, List.countP_append, others]
    simp [Ledger.record, accounted.live, same]

/-- Somebody who holds a wallet leaves it and gives it back. -/
theorem release (accounted : WalletsCounted granted held events) (later : Nat → Bool) {left : Nat}
    (held' : held left = true)
    (same : ∀ wallet, later wallet = (held wallet && decide (wallet ≠ left))) :
    WalletsCounted granted later (events ++ [.walletReleased left]) := by
  have below := accounted.bounded left held'
  refine ⟨?_, ?_, ?_, ?_⟩
  · intro wallet kept
    rw [same, Bool.and_eq_true] at kept
    exact accounted.bounded wallet kept.1
  · intro wallet
    rw [List.count_append, accounted.grants, List.count_singleton]
    simp
  · intro wallet
    rw [List.count_append, accounted.releases, List.count_singleton, same]
    by_cases here : wallet = left
    · simp [here, held', below]
    · have apart : ¬ left = wallet := Ne.symm here
      simp [here, apart]
  · have kept : (List.range granted).countP later =
        ((List.range granted).filter fun wallet => decide (wallet ≠ left)).countP held := by
      rw [List.countP_filter]
      exact List.countP_congr fun wallet _ => by rw [same]
    have gone :
        ((List.range granted).filter fun wallet => !decide (wallet ≠ left)).countP held = 1 := by
      rw [List.countP_filter,
        ← List.count_eq_one_of_mem List.nodup_range (List.mem_range.mpr below)]
      refine List.countP_congr fun wallet _ => ?_
      by_cases here : wallet = left <;> simp [here, held']
    have split := List.countP_eq_countP_filter_add (List.range granted) held
      fun wallet => decide (wallet ≠ left)
    rw [← kept, gone] at split
    rw [Ledger.ofEvents_append]
    simp [Ledger.record, accounted.live, split]

end WalletsCounted

/-- The call that hands out a buffer for the operation; answers are else judged by a code. -/
def CodecRequest.call? : CodecRequest → Option BufferCall
  | .selectRequest aid => some (.selectRequest aid)
  | .firmwareRequest => some .firmwareRequest
  | .firmwareResponse answer => some (.firmwareResponse answer)
  | .handshakeRequest => some .handshakeRequest
  | .selectResponse _ | .handshakeResponse _ => none

/-- What the operation makes of the bytes of a buffer: a command is these bytes. -/
def BufferCall.read (call : BufferCall) (buffer : Bytes) : Except Fault CodecValue :=
  match call with
  | .selectRequest _ | .firmwareRequest | .handshakeRequest => .ok (.frame buffer)
  | .firmwareResponse _ =>
    match FirmwareVersion.ofField buffer with
    | .ok version => .ok (.version version)
    | .error cause => .error (.malformed call.name cause)

theorem returned_copy (kit : Kit) (call : BufferCall) :
    BuffersReturned some (kit.copy call).events := by
  cases given : kit.buffer call with
  | none =>
      rw [Kit.copy_of_none given]
      exact .of_aside (by simp [Event.movesBuffer])
  | some buffer =>
      rw [Kit.copy_of_some given]
      exact .lent rfl rfl .nil

theorem still_copy (kit : Kit) (call : BufferCall) :
    ∀ event ∈ (kit.copy call).events, event.movesWallet = false := by
  unfold Kit.copy
  split <;> simp [Event.movesWallet]

theorem perform_of_none (kit : Kit) {request : CodecRequest} (none' : request.call? = none) :
    ∃ call, (kit.perform request).events = [.judged call (kit.code call)] := by
  cases request with
  | selectResponse answer => exact ⟨.selectResponse answer, rfl⟩
  | handshakeResponse answer => exact ⟨.handshakeResponse answer, rfl⟩
  | _ => cases none'

theorem perform_of_some (kit : Kit) {request : CodecRequest} {call : BufferCall}
    (some' : request.call? = some call) :
    (kit.perform request).events = (kit.copy call).events ∧
      (kit.perform request).result = (match kit.buffer call with
        | none => .error (.nothing call.name)
        | some buffer => call.read buffer) := by
  cases request with
  | selectRequest | firmwareRequest | handshakeRequest =>
      obtain rfl := Option.some.inj some'
      refine ⟨rfl, ?_⟩
      cases given : kit.buffer _ <;>
        simp [Kit.perform, Attempt.map, Kit.copy, given, BufferCall.read, Except.map]
  | firmwareResponse answer =>
      obtain rfl := Option.some.inj some'
      refine ⟨rfl, ?_⟩
      cases given : kit.buffer (.firmwareResponse answer) with
      | none => simp [Kit.perform, Attempt.map, Kit.firmwareVersion, Kit.copy, given, Except.map]
      | some buffer =>
          cases read : FirmwareVersion.ofField buffer <;>
            simp [Kit.perform, Attempt.map, Kit.firmwareVersion, Kit.copy, given, read,
              BufferCall.read, Except.map]
  | selectResponse | handshakeResponse => cases some'

theorem returned_perform (kit : Kit) (request : CodecRequest) :
    BuffersReturned some (kit.perform request).events := by
  cases asked : request.call? with
  | none =>
      obtain ⟨call, told⟩ := perform_of_none kit asked
      rw [told]
      exact .of_aside (by simp [Event.movesBuffer])
  | some call =>
      rw [(perform_of_some kit asked).1]
      exact returned_copy kit call

theorem still_perform (kit : Kit) (request : CodecRequest) :
    ∀ event ∈ (kit.perform request).events, event.movesWallet = false := by
  cases asked : request.call? with
  | none =>
      obtain ⟨call, told⟩ := perform_of_none kit asked
      rw [told]
      simp [Event.movesWallet]
  | some call =>
      rw [(perform_of_some kit asked).1]
      exact still_copy kit call

namespace Rack

def holds (rack : Rack) (wallet : Nat) : Bool := rack.slots.any (·.2 = wallet)

/-- The books of a rack are in order: no slot has two codecs and no wallet two holders. -/
structure Invariant (rack : Rack) : Prop where
  returned : BuffersReturned some rack.history
  slots : (rack.slots.map (·.1)).Nodup
  wallets : (rack.slots.map (·.2)).Nodup
  accounted : WalletsCounted rack.issued rack.holds rack.history

variable {rack : Rack}

theorem holds_iff {wallet : Nat} :
    rack.holds wallet = true ↔ ∃ slot, (slot, wallet) ∈ rack.slots := by
  simp [holds]

theorem lookup_iff {slots : List (Nat × Nat)} (distinct : (slots.map (·.1)).Nodup)
    {slot wallet : Nat} : slots.lookup slot = some wallet ↔ (slot, wallet) ∈ slots := by
  induction slots with
  | nil => simp
  | cons codec rest ih =>
      obtain ⟨key, value⟩ := codec
      rw [List.map_cons, List.nodup_cons] at distinct
      have fresh : (key, wallet) ∉ rest := fun member =>
        distinct.1 (List.mem_map_of_mem (f := (·.1)) member)
      by_cases here : slot = key
      · subst here
        simp [fresh, eq_comm]
      · have apart : (slot == key) = false := by simpa using here
        simp [List.lookup_cons, apart, here, ih distinct.2]

theorem Invariant.wallet?_iff (balanced : rack.Invariant) {slot wallet : Nat} :
    rack.wallet? slot = some wallet ↔ (slot, wallet) ∈ rack.slots :=
  lookup_iff balanced.slots

/-- A wallet has one holder. -/
theorem Invariant.slot_unique (balanced : rack.Invariant) {slot other wallet : Nat}
    (one : (slot, wallet) ∈ rack.slots) (two : (other, wallet) ∈ rack.slots) : slot = other :=
  congrArg Prod.fst (List.inj_on_of_nodup_map balanced.wallets one two rfl)

/-- A slot that is emptied takes its wallet from its holder, and from nobody else. -/
theorem Invariant.holds_vacate (balanced : rack.Invariant) (slot wallet : Nat) :
    (rack.vacate slot).holds wallet =
      (rack.holds wallet && decide (rack.wallet? slot ≠ some wallet)) := by
  rw [Bool.eq_iff_iff, Bool.and_eq_true, holds_iff, holds_iff, decide_eq_true_eq, ne_eq,
    balanced.wallet?_iff]
  simp only [vacate, List.mem_filter, decide_eq_true_eq]
  constructor
  · rintro ⟨other, member, apart⟩
    exact ⟨⟨other, member⟩, fun here => apart (balanced.slot_unique member here)⟩
  · rintro ⟨⟨other, member⟩, elsewhere⟩
    exact ⟨other, member, fun here => elsewhere (here ▸ member)⟩

theorem holds_install (rack : Rack) (slot wallet : Nat) :
    (rack.install slot).holds wallet =
      (decide (wallet = rack.issued) || (rack.vacate slot).holds wallet) := by
  simp [holds, install, eq_comm]

theorem Invariant.record (balanced : rack.Invariant) {events : List Event}
    (returned : BuffersReturned some events) (still : ∀ event ∈ events, event.movesWallet = false) :
    (rack.record events).Invariant :=
  ⟨balanced.returned.append returned, balanced.slots, balanced.wallets,
    balanced.accounted.still still⟩

theorem returned_release (wallet : Option Nat) : BuffersReturned some (release wallet) :=
  .of_aside (by cases wallet <;> simp [release, Event.movesBuffer])

theorem Invariant.discard (balanced : rack.Invariant) {slot wallet : Nat}
    (found : rack.wallet? slot = some wallet) :
    ((rack.vacate slot).record (release (some wallet))).Invariant where
  returned := balanced.returned.append (returned_release _)
  slots := balanced.slots.sublist (List.filter_sublist.map _)
  wallets := balanced.wallets.sublist (List.filter_sublist.map _)
  accounted := by
    refine balanced.accounted.release _ (holds_iff.mpr ⟨slot, balanced.wallet?_iff.mp found⟩) ?_
    intro other
    refine (balanced.holds_vacate slot other).trans ?_
    rw [found]
    simp [eq_comm]

theorem Invariant.create (balanced : rack.Invariant) (slot : Nat) :
    ((rack.install slot).record
      (.walletGranted rack.issued :: release (rack.wallet? slot))).Invariant where
  returned := balanced.returned.append
    (.aside (by simp [Event.movesBuffer]) (returned_release _))
  slots := by
    refine List.nodup_cons.mpr ⟨?_, balanced.slots.sublist (List.filter_sublist.map _)⟩
    simp [vacate]
  wallets := by
    refine List.nodup_cons.mpr ⟨?_, balanced.wallets.sublist (List.filter_sublist.map _)⟩
    intro member
    obtain ⟨⟨other, wallet⟩, kept, same⟩ := List.mem_map.mp member
    obtain rfl : wallet = rack.issued := same
    have held := holds_iff.mpr ⟨other, List.mem_of_mem_filter kept⟩
    exact Nat.lt_irrefl _ (balanced.accounted.bounded _ held)
  accounted := by
    have granted := balanced.accounted.grant
      (fun wallet => decide (wallet = rack.issued) || rack.holds wallet) fun _ => rfl
    have installed := fun wallet =>
      (holds_install rack slot wallet).trans (by rw [balanced.holds_vacate])
    cases found : rack.wallet? slot with
    | none => exact granted.congr _ fun wallet => (installed wallet).trans (by simp [found])
    | some left =>
        have held := holds_iff.mpr ⟨slot, balanced.wallet?_iff.mp found⟩
        have old : left ≠ rack.issued := Nat.ne_of_lt (balanced.accounted.bounded left held)
        have released := granted.release (rack.install slot).holds
          (Bool.or_eq_true_iff.mpr (.inr held)) fun wallet => by
            rw [installed, found]
            by_cases here : wallet = rack.issued
            · simp [here, old.symm]
            · simp [here, eq_comm]
        rwa [List.append_assoc] at released

theorem Invariant.serve (balanced : rack.Invariant) (kit : Kit) (slot : Nat)
    (request : SlotRequest) : (rack.serve kit slot request).2.Invariant := by
  cases request with
  | create =>
      unfold Rack.serve
      dsimp only
      split
      · exact balanced.create slot
      · exact balanced.record (.of_aside (by simp [Event.movesBuffer]))
          (by simp [Event.movesWallet])
  | discard =>
      cases found : rack.wallet? slot with
      | none => simpa [Rack.serve, found] using balanced
      | some wallet => simpa [Rack.serve, found] using balanced.discard found
  | perform request =>
      cases found : rack.wallet? slot with
      | none => simpa [Rack.serve, found] using balanced
      | some wallet =>
          simpa [Rack.serve, found] using
            balanced.record (returned_perform kit request) (still_perform kit request)

/-- What becomes of the kit's replies to a slot that has a codec, or is to have one. -/
structure ServesCodec (rack : Rack) (kit : Kit) (slot : Nat) : Prop where
  nothing : ∀ request call wallet, rack.wallet? slot = some wallet →
    CodecRequest.call? request = some call → kit.buffer call = none →
      rack.serve kit slot (.perform request) =
        (.error (.vendor (.nothing call.name)), rack.record [.handedOut call none])
  /-- The buffer goes back whether or not a version can be read in its bytes. -/
  copied : ∀ request call wallet buffer, rack.wallet? slot = some wallet →
    CodecRequest.call? request = some call → kit.buffer call = some buffer →
      rack.serve kit slot (.perform request) = ((call.read buffer).mapError .vendor,
        rack.record [.handedOut call (some buffer), .bufferReleased buffer.length])
  judged : ∀ request wallet, rack.wallet? slot = some wallet →
    CodecRequest.call? request = none →
      ∃ call, (rack.serve kit slot (.perform request)).2 =
        rack.record [.judged call (kit.code call)]
  refused : kit.grantsWallet = false →
    rack.serve kit slot .create =
      (.error (.vendor (.nothing walletCall)), rack.record [.walletRefused])

theorem passes (rack : Rack) (kit : Kit) (slot : Nat) : rack.ServesCodec kit slot where
  nothing request call wallet found asked given := by
    obtain ⟨events, result⟩ := perform_of_some kit asked
    rw [Kit.copy_of_none given] at events
    rw [given] at result
    simp [Rack.serve, found, events, result, Except.mapError]
  copied request call wallet buffer found asked given := by
    obtain ⟨events, result⟩ := perform_of_some kit asked
    rw [Kit.copy_of_some given] at events
    rw [given] at result
    simp [Rack.serve, found, events, result]
  judged request wallet found asked := by
    obtain ⟨call, events⟩ := perform_of_none kit asked
    exact ⟨call, by simp [Rack.serve, found, events]⟩
  refused denied := by simp [Rack.serve, denied]

/-- The books of a rack are in order whatever is asked and whatever the kit replies. -/
theorem invariant_run (requests : List (Kit × Nat × SlotRequest)) :
    (({} : Rack).run requests).Invariant := by
  have first : ({} : Rack).Invariant := ⟨.nil, .nil, .nil, .initial⟩
  generalize ({} : Rack) = rack at first
  induction requests generalizing rack with
  | nil => exact first
  | cons request rest ih => exact ih _ (first.serve request.1 request.2.1 request.2.2)

/-- The ledger counts the codecs, and no buffer is out. -/
theorem Invariant.ledger (balanced : rack.Invariant) :
    rack.ledger = ⟨rack.slots.length, 0⟩ := by
  have same : ((List.range rack.issued).filter rack.holds).Perm (rack.slots.map (·.2)) := by
    refine (List.perm_ext_iff_of_nodup (List.nodup_range.filter _) balanced.wallets).mpr ?_
    intro wallet
    have iff : wallet ∈ rack.slots.map (·.2) ↔ rack.holds wallet = true := by simp [holds]
    rw [List.mem_filter, iff, List.mem_range, and_iff_right_iff_imp]
    exact balanced.accounted.bounded wallet
  have wallets := balanced.accounted.live
  rw [List.countP_eq_length_filter, same.length_eq, List.length_map] at wallets
  have buffers := Ledger.buffers_of_returned balanced.returned
  rw [List.filterMap_some] at buffers
  exact Ledger.mk.injEq .. ▸ ⟨wallets, buffers⟩

end Rack

end Contactless.Vendor
