import Contactless.Apdu.Response

/-!
Length-prefixed fields, for all buffers.

A field is read off the front of a buffer exactly if its length and all of its bytes are there. What
was written reads back up to the 256th byte, since the length byte counts no further. Fields of at
most 255 bytes can be written one behind the other: they are read back in order, whatever comes
after the last, and no two lists of them give the same bytes.
-/

set_option autoImplicit false

namespace Contactless.Field

theorem decode_cons (length : UInt8) (content : Bytes) :
    decode (length :: content) =
      if content.length < length.toNat then .error (.parse "length prefix exceeds buffer")
      else .ok (content.take length.toNat, content.drop length.toNat) := rfl

theorem decode_eq_ok_iff {bytes field rest : Bytes} :
    decode bytes = .ok (field, rest) ↔
      ∃ length : UInt8, length.toNat = field.length ∧ bytes = length :: (field ++ rest) := by
  constructor
  · intro read
    cases bytes with
    | nil => cases read
    | cons length content =>
      rw [decode_cons] at read
      split at read
      · cases read
      · rename_i fits
        obtain ⟨rfl, rfl⟩ :
            content.take length.toNat = field ∧ content.drop length.toNat = rest := by
          simpa using read
        refine ⟨length, ?_, ?_⟩
        · rw [List.length_take]
          omega
        · rw [List.take_append_drop]
  · rintro ⟨length, size, rfl⟩
    simp [decode, size]

/-- A buffer that gives no field ends too early: before the length byte, or within the field. -/
theorem decode_eq_error_iff {bytes : Bytes} {fault : ResponseFault} :
    decode bytes = .error fault ↔
      (bytes = [] ∧ fault = .parse "missing length prefix") ∨
      ∃ length content, bytes = length :: content ∧ content.length < length.toNat ∧
        fault = .parse "length prefix exceeds buffer" := by
  cases bytes with
  | nil => simp [eq_comm]
  | cons length content =>
    rw [decode_cons]
    constructor
    · intro failed
      split at failed
      · rename_i short
        exact .inr ⟨length, content, rfl, short, (Except.error.inj failed).symm⟩
      · cases failed
    · rintro (⟨empty, -⟩ | ⟨_, _, split, short, rfl⟩)
      · cases empty
      · cases split
        rw [if_pos short]

theorem exists_text_of_decode {bytes : Bytes} {fault : ResponseFault}
    (failed : decode bytes = .error fault) : ∃ text, fault = .parse text := by
  rcases decode_eq_error_iff.mp failed with ⟨-, rfl⟩ | ⟨_, _, -, -, rfl⟩
  · exact ⟨_, rfl⟩
  · exact ⟨_, rfl⟩

theorem decode_encode (field : Bytes) :
    decode (encode field) =
      .ok (field.take (field.length % 256), field.drop (field.length % 256)) := by
  have within : field.length % 256 ≤ field.length := Nat.mod_le ..
  apply decode_eq_ok_iff.mpr
  refine ⟨field.length.toUInt8, ?_, ?_⟩
  · simp [within]
  · rw [List.take_append_drop]
    rfl

/-- Reading undoes writing as long as the length byte can count the field, and it reads nothing that
was not written. -/
theorem decode_eq_ok_iff_encode {bytes field rest : Bytes} :
    decode bytes = .ok (field, rest) ↔ field.length ≤ 255 ∧ bytes = encode field ++ rest := by
  rw [decode_eq_ok_iff]
  constructor
  · rintro ⟨length, size, rfl⟩
    have bounded := length.toNat_lt
    have written : field.length.toUInt8 = length := by
      rw [← size]
      exact UInt8.ofNat_toNat
    refine ⟨by omega, ?_⟩
    rw [encode, written]
    rfl
  · rintro ⟨fits, rfl⟩
    refine ⟨field.length.toUInt8, ?_, rfl⟩
    exact Nat.mod_eq_of_lt (Nat.lt_succ_of_le fits)

variable {field other tail : Bytes} {fields others : List Bytes}

theorem decode_encode_append (fits : field.length ≤ 255) (rest : Bytes) :
    decode (encode field ++ rest) = .ok (field, rest) :=
  decode_eq_ok_iff_encode.mpr ⟨fits, rfl⟩

theorem encode_append_inj {rest : Bytes} (fits : field.length ≤ 255) (fitting : other.length ≤ 255)
    (same : encode field ++ rest = encode other ++ tail) : field = other ∧ rest = tail := by
  have read := decode_encode_append fits rest
  rw [same, decode_encode_append fitting tail] at read
  cases read
  exact ⟨rfl, rfl⟩

theorem decodeMany_succ_eq_ok_iff {count : Nat} {bytes : Bytes} :
    decodeMany (count + 1) bytes = .ok (fields, tail) ↔
      ∃ field rest others, decode bytes = .ok (field, rest) ∧
        decodeMany count rest = .ok (others, tail) ∧ fields = field :: others := by
  rw [decodeMany]
  constructor
  · intro read
    cases first : decode bytes with
    | error fault =>
      rw [first] at read
      cases read
    | ok split =>
      obtain ⟨field, rest⟩ := split
      cases more : decodeMany count rest with
      | error fault =>
        simp only [first, more] at read
        cases read
      | ok remaining =>
        simp only [first, more] at read
        cases read
        exact ⟨field, rest, remaining.1, rfl, more, rfl⟩
  · rintro ⟨field, rest, others, first, more, rfl⟩
    simp only [first, more]

/-- Reading so many fields succeeds exactly on that many fields and a tail. -/
theorem decodeMany_eq_ok_iff {count : Nat} {bytes : Bytes} :
    decodeMany count bytes = .ok (fields, tail) ↔
      fields.length = count ∧ (∀ field ∈ fields, field.length ≤ 255) ∧
        bytes = fields.flatMap encode ++ tail := by
  -- On how many fields are still to be read; the buffer that the first one leaves can be any.
  induction count generalizing bytes fields with
  | zero =>
    rw [decodeMany, List.length_eq_zero_iff]
    constructor
    · intro read
      cases read
      exact ⟨rfl, List.forall_mem_nil _, rfl⟩
    · rintro ⟨rfl, -, rfl⟩
      rfl
  | succ count ih =>
    rw [decodeMany_succ_eq_ok_iff]
    constructor
    · rintro ⟨field, rest, others, first, more, rfl⟩
      obtain ⟨fits, rfl⟩ := decode_eq_ok_iff_encode.mp first
      obtain ⟨rfl, fitting, rfl⟩ := ih.mp more
      refine ⟨rfl, List.forall_mem_cons.mpr ⟨fits, fitting⟩, ?_⟩
      rw [List.flatMap_cons, List.append_assoc]
    · rintro ⟨size, each, rfl⟩
      cases fields with
      | nil => cases size
      | cons field others =>
        obtain ⟨fits, fitting⟩ := List.forall_mem_cons.mp each
        refine ⟨field, others.flatMap encode ++ tail, others, ?_, ?_, rfl⟩
        · rw [List.flatMap_cons, List.append_assoc]
          exact decode_encode_append fits _
        · exact ih.mpr ⟨Nat.succ.inj size, fitting, rfl⟩

/-- An empty field is a byte of its own. -/
example : decodeMany 2 [0, 2, 0xAA, 0xBB, 0x07] = .ok ([[], [0xAA, 0xBB]], [0x07]) := rfl

/-- Fields written one behind the other can be told apart, also if nobody says how many they are. -/
theorem flatMap_encode_inj (each : ∀ field ∈ fields, field.length ≤ 255)
    (every : ∀ field ∈ others, field.length ≤ 255)
    (same : fields.flatMap encode = others.flatMap encode) : fields = others := by
  induction fields generalizing others with
  | nil =>
    cases others with
    | nil => rfl
    | cons other others => cases same
  | cons field fields ih =>
    cases others with
    | nil => cases same
    | cons other others =>
      rw [List.forall_mem_cons] at each every
      rw [List.flatMap_cons, List.flatMap_cons] at same
      obtain ⟨rfl, behind⟩ := encode_append_inj each.1 every.1 same
      rw [ih each.2 every.2 behind]

/-- Which buffers begin with a field and with which one, and that fields in a row stay apart. -/
structure FieldsDecodeUniquely : Prop where
  read : ∀ bytes field rest, decode bytes = .ok (field, rest) ↔
    field.length ≤ 255 ∧ bytes = field.length.toUInt8 :: (field ++ rest)
  unique : ∀ field rest other tail : Bytes, field.length ≤ 255 → other.length ≤ 255 →
    field.length.toUInt8 :: (field ++ rest) = other.length.toUInt8 :: (other ++ tail) →
    field = other ∧ rest = tail
  refused : ∀ bytes, (∃ fault, decode bytes = .error fault) ↔
    bytes = [] ∨ ∃ length content, bytes = length :: content ∧ content.length < length.toNat
  /-- Reading as often as there are fields gives all of them and leaves what follows the last. -/
  stream : ∀ fields tail, (∀ field ∈ fields, field.length ≤ 255) →
    decodeMany fields.length (fields.flatMap encode ++ tail) = .ok (fields, tail)
  exact : ∀ count bytes fields tail, decodeMany count bytes = .ok (fields, tail) →
    fields.length = count ∧ (∀ field ∈ fields, field.length ≤ 255) ∧
      bytes = fields.flatMap encode ++ tail
  unambiguous : ∀ fields others : List Bytes, (∀ field ∈ fields, field.length ≤ 255) →
    (∀ field ∈ others, field.length ≤ 255) →
    fields.flatMap encode = others.flatMap encode → fields = others

/-- A field ends where its length byte says, so nothing that follows is taken for a part of it. -/
theorem fields_decode_uniquely : FieldsDecodeUniquely where
  read _ _ _ := decode_eq_ok_iff_encode
  unique _ _ _ _ fits fitting same := encode_append_inj fits fitting same
  refused bytes := by
    constructor
    · rintro ⟨fault, failed⟩
      rcases decode_eq_error_iff.mp failed with ⟨empty, -⟩ | ⟨length, content, split, short, -⟩
      · exact .inl empty
      · exact .inr ⟨length, content, split, short⟩
    · rintro (empty | ⟨length, content, split, short⟩)
      · exact ⟨_, decode_eq_error_iff.mpr (.inl ⟨empty, rfl⟩)⟩
      · exact ⟨_, decode_eq_error_iff.mpr (.inr ⟨length, content, split, short, rfl⟩)⟩
  stream _ _ each := decodeMany_eq_ok_iff.mpr ⟨rfl, each, rfl⟩
  exact _ _ _ _ read := decodeMany_eq_ok_iff.mp read
  unambiguous _ _ each every same := flatMap_encode_inj each every same

end Contactless.Field
