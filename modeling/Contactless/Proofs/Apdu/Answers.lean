import Contactless.Apdu.Response

/-!
Answers read and written, for all answers and all buffers.

Every buffer of two bytes or more is an answer, and exactly one: its last two bytes are the status
word. A verdict of the card other than success can be told from the failure that it becomes, but for
the two status words of a lost link.
-/

set_option autoImplicit false

namespace Contactless

theorem splitTrailer_of_short {bytes : Bytes} (short : bytes.length < 2) :
    splitTrailer bytes = .error (.incomplete bytes.length) := by
  match bytes, short with
  | [], _ => rfl
  | [_], _ => rfl

theorem splitStatus_of_short {bytes : Bytes} (short : bytes.length < 2) :
    splitStatus bytes = .error (.incomplete bytes.length) := by
  rw [splitStatus, splitTrailer_of_short short]

theorem exists_status {bytes : Bytes} (long : ¬ bytes.length < 2) :
    ∃ payload status, bytes = payload ++ StatusWord.toBytes status := by
  have two : (bytes.drop (bytes.length - 2)).length = 2 := by
    rw [List.length_drop]
    omega
  obtain ⟨sw1, sw2, ends⟩ : ∃ sw1 sw2, bytes.drop (bytes.length - 2) = [sw1, sw2] := by
    match bytes.drop (bytes.length - 2), two with
    | [sw1, sw2], _ => exact ⟨sw1, sw2, rfl⟩
  refine ⟨bytes.take (bytes.length - 2), ⟨sw1, sw2⟩, ?_⟩
  show bytes = _ ++ [sw1, sw2]
  rw [← ends, List.take_append_drop]

/-- The failure was made of the status word, and which one that was can be seen from it. -/
inductive CardFault.RecordsStatus : CardFault → StatusWord → Prop where
  | kept {fault : CardFault} {status : StatusWord} (kept : fault.statusWord? = some status) :
      RecordsStatus fault status
  | counted (tries : UInt8) : RecordsStatus (.pinRefused tries) ⟨0x63, tries⟩
  | unlinked {status : StatusWord} (lost : status = ⟨0x68, 0x81⟩ ∨ status = ⟨0x68, 0x82⟩) :
      RecordsStatus .linkLost status

theorem CardFault.recordsStatus_of_ofStatus? {status : StatusWord} {fault : CardFault}
    (named : ofStatus? status = some fault) : fault.RecordsStatus status := by
  unfold ofStatus? at named
  split at named
  · cases named
  · split at named
    · rename_i refused
      obtain ⟨sw1, sw2⟩ := status
      obtain rfl : sw1 = 0x63 := refused
      obtain rfl := Option.some.inj named
      exact .counted sw2
    · split at named
      · obtain rfl := Option.some.inj named
        exact .kept rfl
      · split at named
        · obtain rfl := Option.some.inj named
          exact .kept rfl
        · split at named
          · rename_i lost
            obtain rfl := Option.some.inj named
            exact .unlinked (by simpa [lostLinks] using lost)
          · obtain rfl := Option.some.inj named
            exact .kept rfl

namespace Response

theorem decode_of_short {bytes : Bytes} (short : bytes.length < 2) :
    decode bytes = .error (.incomplete bytes.length) := by
  unfold decode
  rw [splitStatus_of_short short]

@[simp] theorem decode_append (payload : Bytes) (status : StatusWord) :
    decode (payload ++ status.toBytes) = .ok ⟨payload, status⟩ := by
  simp [decode]

theorem decode_eq_ok_iff {bytes : Bytes} {response : Response} :
    decode bytes = .ok response ↔ bytes = response.encode := by
  constructor
  · intro read
    by_cases short : bytes.length < 2
    · rw [decode_of_short short] at read
      cases read
    · obtain ⟨payload, status, rfl⟩ := exists_status short
      rw [decode_append, Except.ok.injEq] at read
      rw [← read]
      rfl
  · rintro rfl
    exact decode_append response.payload response.status

theorem intoPayload_eq_ok_iff {response : Response} {payload : Bytes} :
    response.intoPayload = .ok payload ↔ response = ⟨payload, .success⟩ := by
  obtain ⟨content, status⟩ := response
  unfold intoPayload
  cases named : CardFault.ofStatus? status with
  | none => simp [CardFault.ofStatus?_eq_none_iff.mp named]
  | some fault =>
      have failed : status ≠ .success := by
        rintro rfl
        cases named
      simp [failed]

theorem recordsStatus_of_intoPayload {response : Response} {fault : CardFault}
    (failed : response.intoPayload = .error fault) : fault.RecordsStatus response.status := by
  unfold intoPayload at failed
  cases named : CardFault.ofStatus? response.status with
  | none =>
      rw [named] at failed
      cases failed
  | some found =>
      rw [named, Except.error.injEq] at failed
      exact failed ▸ CardFault.recordsStatus_of_ofStatus? named

/-- Answers and buffers of two bytes or more are two forms of the same thing, on every way of
reading, and a verdict of the card is not lost when it becomes a failure. -/
structure AnswersRoundTrip : Prop where
  read : ∀ response : Response, decode response.encode = .ok response
  written : ∀ bytes : Bytes, 2 ≤ bytes.length →
    ∃ response, decode bytes = .ok response ∧ response.encode = bytes
  short : ∀ bytes : Bytes, bytes.length < 2 →
    decode bytes = .error (.incomplete bytes.length) ∧
    ofBorrowed bytes = .error (.incomplete bytes.length) ∧
    ofOwned bytes = .error (.incomplete bytes.length) ∧
    splitTrailer bytes = .error (.incomplete bytes.length) ∧
    splitStatus bytes = .error (.incomplete bytes.length)
  alike : ∀ bytes response, decode bytes = .ok response →
    ofBorrowed bytes = .ok response ∧ ofOwned bytes = .ok response ∧
    splitTrailer bytes = .ok ((response.status.sw1, response.status.sw2), response.payload) ∧
    splitStatus bytes = .ok (response.status, response.payload)
  accepted : ∀ bytes response payload, decode bytes = .ok response →
    (response.intoPayload = .ok payload ↔ bytes = payload ++ [0x90, 0x00])
  /-- Otherwise the last two bytes can be seen from the failure. -/
  refused : ∀ bytes response, decode bytes = .ok response → ¬ [0x90, 0x00] <:+ bytes →
    ∃ fault status, response.intoPayload = .error fault ∧
      [status.sw1, status.sw2] <:+ bytes ∧ fault.RecordsStatus status

theorem answers_round_trip : AnswersRoundTrip where
  read _ := decode_eq_ok_iff.mpr rfl
  written bytes long := by
    obtain ⟨payload, status, rfl⟩ := exists_status (Nat.not_lt.mpr long)
    exact ⟨⟨payload, status⟩, decode_append payload status, rfl⟩
  short _ short :=
    ⟨decode_of_short short, decode_of_short short, decode_of_short short,
      splitTrailer_of_short short, splitStatus_of_short short⟩
  alike bytes response read := by
    obtain rfl := decode_eq_ok_iff.mp read
    exact ⟨read, read, splitTrailer_append .., splitStatus_append ..⟩
  accepted bytes response payload read := by
    rw [intoPayload_eq_ok_iff]
    constructor
    · rintro rfl
      exact decode_eq_ok_iff.mp read
    · rintro rfl
      have again : decode (payload ++ [0x90, 0x00]) = .ok ⟨payload, .success⟩ :=
        decode_append payload .success
      exact Except.ok.inj (read.symm.trans again)
  refused bytes response read failed := by
    obtain rfl := decode_eq_ok_iff.mp read
    cases outcome : response.intoPayload with
    | ok payload =>
        rw [intoPayload_eq_ok_iff.mp outcome] at failed
        exact absurd (List.suffix_append payload _) failed
    | error fault =>
        exact ⟨fault, response.status, rfl, List.suffix_append response.payload _,
          recordsStatus_of_intoPayload outcome⟩

end Response

end Contactless
