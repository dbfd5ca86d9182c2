import Contactless.Proofs.Apdu.Answers
import Contactless.Proofs.Apdu.Fields
import Contactless.Vendor.Codec
import Contactless.Vendor.Simulator

/-!
From an answer of the card to a firmware version.

The kit puts the payload of the answer behind a length byte, and the version is read from that
field. The length byte is a remainder, so the reader sees the payload only up to there. What it
accepts is said here exactly, for fields from any kit and for answers of any length.
-/

set_option autoImplicit false

namespace Contactless

namespace FirmwareVersion

theorem ofField_of_parts {buffer rest : Bytes} {version : FirmwareVersion}
    (read : Field.decode buffer = .ok (version.parts, rest)) : ofField buffer = .ok version := by
  simp [ofField, read, parts]

theorem exists_parts {field : Bytes} (size : field.length = 4) :
    ∃ version : FirmwareVersion, version.parts = field := by
  match field, size with
  | [major, minor, patch, build], _ => exact ⟨⟨major, minor, patch, build⟩, rfl⟩

theorem ofField_of_size {buffer field rest : Bytes}
    (read : Field.decode buffer = .ok (field, rest)) (size : field.length ≠ 4) :
    ofField buffer = .error (.parse "firmware version must be 4 bytes") := by
  unfold ofField
  rw [read]
  match field, size with
  | [], _ => rfl
  | [_], _ => rfl
  | [_, _], _ => rfl
  | [_, _, _], _ => rfl
  | [_, _, _, _], size => exact absurd rfl size
  | _ :: _ :: _ :: _ :: _ :: _, _ => rfl

/-- A version stands behind its length, which is four, and anything may follow it. -/
theorem ofField_eq_ok_iff {buffer : Bytes} {version : FirmwareVersion} :
    ofField buffer = .ok version ↔ ∃ rest, buffer = 4 :: (version.parts ++ rest) := by
  constructor
  · intro given
    cases read : Field.decode buffer with
    | error fault =>
        rw [ofField, read] at given
        cases given
    | ok split =>
        obtain ⟨field, rest⟩ := split
        by_cases size : field.length = 4
        · obtain ⟨found, rfl⟩ := exists_parts size
          obtain rfl : found = version := by simpa [ofField_of_parts read] using given
          obtain ⟨length, counted, rfl⟩ := Field.decode_eq_ok_iff.mp read
          obtain rfl : length = 4 := UInt8.toNat_inj.mp (counted.trans size)
          exact ⟨rest, rfl⟩
        · rw [ofField_of_size read size] at given
          cases given
  · rintro ⟨rest, rfl⟩
    exact ofField_of_parts (Field.decode_eq_ok_iff.mpr ⟨4, rfl, rfl⟩)

theorem exists_text_of_ofField {buffer : Bytes} {fault : ResponseFault}
    (failed : ofField buffer = .error fault) : ∃ text, fault = .parse text := by
  cases read : Field.decode buffer with
  | error cause =>
      rw [ofField, read, Except.error.injEq] at failed
      exact failed ▸ Field.exists_text_of_decode read
  | ok split =>
      obtain ⟨field, rest⟩ := split
      by_cases size : field.length = 4
      · obtain ⟨version, rfl⟩ := exists_parts size
        rw [ofField_of_parts read] at failed
        cases failed
      · rw [ofField_of_size read size, Except.error.injEq] at failed
        exact ⟨_, failed.symm⟩

/-- A version is read exactly if the buffer begins with four and holds four bytes behind that. -/
theorem ofField_isOk_iff {buffer : Bytes} :
    (∃ version, ofField buffer = .ok version) ↔ 5 ≤ buffer.length ∧ buffer.head? = some 4 := by
  constructor
  · rintro ⟨version, read⟩
    obtain ⟨rest, rfl⟩ := ofField_eq_ok_iff.mp read
    refine ⟨?_, rfl⟩
    simp [parts]
  · rintro ⟨long, first⟩
    cases buffer with
    | nil => cases first
    | cons head tail =>
      obtain rfl := Option.some.inj first
      have size : (tail.take 4).length = 4 := by
        rw [List.length_cons] at long
        rw [List.length_take]
        omega
      obtain ⟨version, same⟩ := exists_parts size
      refine ⟨version, ofField_eq_ok_iff.mpr ⟨tail.drop 4, ?_⟩⟩
      rw [same, List.take_append_drop]

end FirmwareVersion

namespace Vendor

namespace Simulator

theorem accepted?_eq_some_iff {answer payload : Bytes} :
    accepted? answer = some payload ↔ answer = payload ++ [0x90, 0x00] := by
  have written : payload ++ [0x90, 0x00] = Response.encode ⟨payload, .success⟩ := rfl
  rw [written, ← Response.decode_eq_ok_iff, accepted?]
  cases read : Response.decode answer with
  | error fault => simp
  | ok response =>
      rw [Except.ok.injEq, ← Response.intoPayload_eq_ok_iff]
      cases outcome : response.intoPayload <;> simp [outcome, Except.toOption]

theorem accepted?_eq_none {answer : Bytes} (failed : ¬ [0x90, 0x00] <:+ answer) :
    accepted? answer = none := by
  cases found : accepted? answer with
  | none => rfl
  | some payload =>
      refine absurd ?_ failed
      rw [accepted?_eq_some_iff.mp found]
      exact List.suffix_append ..

/-- The simulator is neither told what to hand out for a version nor to hand out nothing. -/
structure Unscripted (simulator : Simulator) : Prop where
  unscripted : simulator.buffers.lookup "get_firmware_version_response" = none
  working : simulator.fails "get_firmware_version_response" = false

theorem Unscripted.buffer_eq {simulator : Simulator} (alone : simulator.Unscripted)
    (answer : Bytes) :
    simulator.kit.buffer (.firmwareResponse answer) = (accepted? answer).map Field.encode := by
  simp only [kit, BufferCall.name, alone.unscripted, alone.working]
  rfl

end Simulator

namespace Kit

variable {kit : Kit} {answer : Bytes}

theorem firmwareVersion_of_none (empty : kit.buffer (.firmwareResponse answer) = none) :
    (kit.firmwareVersion answer).result = .error (.nothing "get_firmware_version_response") := by
  simp only [firmwareVersion, copy_of_none empty]
  rfl

theorem firmwareVersion_of_some {buffer : Bytes}
    (present : kit.buffer (.firmwareResponse answer) = some buffer) :
    (kit.firmwareVersion answer).result =
      (FirmwareVersion.ofField buffer).mapError (.malformed "get_firmware_version_response") := by
  simp only [firmwareVersion, copy_of_some present]
  cases FirmwareVersion.ofField buffer <;> rfl

end Kit

namespace Simulator

variable {simulator : Simulator} {payload : Bytes}

theorem firmwareVersion_of_refused (alone : simulator.Unscripted) {answer : Bytes}
    (failed : ¬ [0x90, 0x00] <:+ answer) :
    (simulator.kit.firmwareVersion answer).result =
      .error (.nothing "get_firmware_version_response") := by
  apply Kit.firmwareVersion_of_none
  rw [alone.buffer_eq, accepted?_eq_none failed]
  rfl

theorem firmwareVersion_of_accepted (alone : simulator.Unscripted) (payload : Bytes) :
    (simulator.kit.firmwareVersion (payload ++ [0x90, 0x00])).result =
      (FirmwareVersion.ofField (Field.encode payload)).mapError
        (.malformed "get_firmware_version_response") := by
  apply Kit.firmwareVersion_of_some
  rw [alone.buffer_eq, accepted?_eq_some_iff.mpr rfl]
  rfl

theorem exists_firmwareVersion (alone : simulator.Unscripted) (size : payload.length % 256 = 4) :
    ∃ version : FirmwareVersion, version.parts = payload.take 4 ∧
      (simulator.kit.firmwareVersion (payload ++ [0x90, 0x00])).result = .ok version := by
  have read := Field.decode_encode payload
  rw [size] at read
  have whole : (payload.take 4).length = 4 := by
    have within := Nat.mod_le payload.length 256
    rw [List.length_take]
    omega
  obtain ⟨version, same⟩ := FirmwareVersion.exists_parts whole
  refine ⟨version, same, ?_⟩
  rw [← same] at read
  rw [firmwareVersion_of_accepted alone, FirmwareVersion.ofField_of_parts read]
  rfl

/-- The length byte never counts more than there is, so only the number of bytes can be wrong. -/
theorem firmwareVersion_of_size (alone : simulator.Unscripted) (size : payload.length % 256 ≠ 4) :
    (simulator.kit.firmwareVersion (payload ++ [0x90, 0x00])).result =
      .error (.malformed "get_firmware_version_response"
        (.parse "firmware version must be 4 bytes")) := by
  have counted : (payload.take (payload.length % 256)).length ≠ 4 := by
    rwa [List.length_take, Nat.min_eq_left (Nat.mod_le ..)]
  rw [firmwareVersion_of_accepted alone,
    FirmwareVersion.ofField_of_size (Field.decode_encode payload) counted]
  rfl

end Simulator

/-- Which fields and which answers give a version, which one they give, and how the others fail. -/
structure VersionsParsed : Prop where
  read : ∀ buffer, (∃ version, FirmwareVersion.ofField buffer = .ok version) ↔
    5 ≤ buffer.length ∧ buffer.head? = some 4
  /-- Whatever follows the four numbers is ignored. -/
  parts : ∀ buffer version, FirmwareVersion.ofField buffer = .ok version →
    version.parts = (buffer.drop 1).take 4
  unread : ∀ buffer, ¬ (5 ≤ buffer.length ∧ buffer.head? = some 4) →
    ∃ text, FirmwareVersion.ofField buffer = .error (.parse text)
  /-- For an answer that is no success the kit hands out nothing, which counts as a defect. -/
  rejected : ∀ (simulator : Simulator) answer, simulator.Unscripted →
    ¬ [0x90, 0x00] <:+ answer → ∃ fault,
      (simulator.kit.firmwareVersion answer).result = .error fault ∧
      fault = .nothing "get_firmware_version_response" ∧ fault.isDefect = true
  /-- Payloads that are longer by a multiple of 256 are cut off. -/
  accepted : ∀ (simulator : Simulator) (payload : Bytes), simulator.Unscripted →
    payload.length % 256 = 4 → ∃ version : FirmwareVersion,
      version.parts = payload.take 4 ∧
      (simulator.kit.firmwareVersion (payload ++ [0x90, 0x00])).result = .ok version
  refused : ∀ (simulator : Simulator) (payload : Bytes), simulator.Unscripted →
    payload.length % 256 ≠ 4 → ∃ fault cause,
      (simulator.kit.firmwareVersion (payload ++ [0x90, 0x00])).result = .error fault ∧
      fault = .malformed "get_firmware_version_response" cause ∧ fault.isDefect = false ∧
      cause ≠ .parse "length prefix exceeds buffer"
  short : ∀ (simulator : Simulator) (payload : Bytes), simulator.Unscripted →
    payload.length ≤ 256 →
    ((∃ version, (simulator.kit.firmwareVersion (payload ++ [0x90, 0x00])).result = .ok version) ↔
      payload.length = 4)

/-- Versions are read from the fields and the answers that hold one, and from no others. -/
theorem firmware_versions_parsed : VersionsParsed where
  read _ := FirmwareVersion.ofField_isOk_iff
  parts buffer version read := by
    obtain ⟨rest, rfl⟩ := FirmwareVersion.ofField_eq_ok_iff.mp read
    rfl
  unread buffer misfit := by
    cases read : FirmwareVersion.ofField buffer with
    | ok version => exact absurd (FirmwareVersion.ofField_isOk_iff.mp ⟨version, read⟩) misfit
    | error fault =>
        obtain ⟨text, rfl⟩ := FirmwareVersion.exists_text_of_ofField read
        exact ⟨text, rfl⟩
  rejected simulator answer alone failed :=
    ⟨_, Simulator.firmwareVersion_of_refused alone failed, rfl, rfl⟩
  accepted simulator payload alone size := Simulator.exists_firmwareVersion alone size
  refused simulator payload alone size :=
    ⟨_, _, Simulator.firmwareVersion_of_size alone size, rfl, rfl, by decide⟩
  short simulator payload alone bounded := by
    have counted : payload.length % 256 = 4 ↔ payload.length = 4 := by omega
    rw [← counted]
    constructor
    · rintro ⟨version, given⟩
      by_cases size : payload.length % 256 = 4
      · exact size
      · rw [Simulator.firmwareVersion_of_size alone size] at given
        cases given
    · intro size
      obtain ⟨version, -, given⟩ := Simulator.exists_firmwareVersion alone size
      exact ⟨version, given⟩

end Vendor

end Contactless
