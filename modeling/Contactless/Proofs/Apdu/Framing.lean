import Contactless.Vendor.Simulator

/-!
Frames read and written, for all commands and all buffers.

The grammar of what stands behind a header has three shapes. A frame is read if and only if its
body has one of them, and it is written back byte by byte, but for one spelling: a length byte of
zero in front of an expected length is not written again. The other way round, a command is read
back from its frame unless its data is present and empty.
-/

set_option autoImplicit false

namespace Contactless

namespace Command

/-- What may stand behind a header, and the data and expected length that it is read as. -/
inductive Body : Bytes → Option Bytes → Option UInt8 → Prop where
  | bare : Body [] none none
  | expecting (expected : UInt8) : Body [expected] none (some expected)
  /-- A length byte, so many bytes, and perhaps an expected length; something has to follow the
  length byte. -/
  | measured (length : UInt8) (content : Bytes) (expected : Option UInt8)
      (size : content.length = length.toNat) (filled : content ++ expected.toList ≠ []) :
      Body (length :: (content ++ expected.toList))
        (if length = 0 then none else some content) expected

variable {bytes rest : Bytes} {data : Option Bytes} {expected : Option UInt8}

theorem announced_append (length : UInt8) (content : Bytes) (tail : Bytes)
    (size : content.length = length.toNat) :
    announced length (content ++ tail) = if length = 0 then none else some content := by
  unfold announced
  rw [← size, List.take_left]

theorem Body.body?_eq (body : Body rest data expected) : body? rest = some (data, expected) := by
  cases body with
  | bare => rfl
  | expecting => rfl
  | measured length content expected size filled =>
      have behind : (content ++ expected.toList).drop length.toNat = expected.toList := by
        rw [← size, List.drop_left]
      obtain ⟨head, tail, grown⟩ := List.exists_cons_of_ne_nil filled
      rw [grown] at behind
      rw [← announced_append length content expected.toList size, grown, body?, behind]
      · cases expected with
        | none =>
            have whole : (head :: tail).length = length.toNat := by
              rw [← grown, ← size]
              simp
            simp [whole]
        | some expected => rfl
      · simp

theorem Body.of_body?_eq (read : body? rest = some (data, expected)) : Body rest data expected := by
  unfold body? at read
  split at read
  · cases read
    exact .bare
  · cases read
    exact .expecting _
  · rename_i length tail several
    have parted : tail.take length.toNat ++ tail.drop length.toNat = tail :=
      List.take_append_drop _ _
    have filled : tail ≠ [] := several
    split at read
    · rename_i behind
      split at read
      · rename_i exactly
        cases read
        have whole : tail.take length.toNat = tail := List.take_of_length_le (by omega)
        have body := Body.measured length tail none exactly (by simpa using filled)
        simpa [announced, whole] using body
      · cases read
    · rename_i last behind
      cases read
      rw [behind] at parted
      have size : (tail.take length.toNat).length = length.toNat := by
        have left := congrArg List.length behind
        rw [List.length_drop, List.length_singleton] at left
        rw [List.length_take]
        omega
      have body := Body.measured length (tail.take length.toNat) (some last) size (by simp)
      rw [Option.toList_some, parted] at body
      exact body
    · cases read

/-- A frame is read as a command if and only if it is the header of that command and a body of
its data and expected length. -/
theorem decode_eq_ok_iff {command : Command} :
    decode bytes = .ok command ↔
      ∃ rest, bytes = command.header ++ rest ∧ Body rest command.data command.expected := by
  constructor
  · intro read
    unfold decode at read
    split at read
    · split at read
      · rename_i found
        cases read
        exact ⟨_, rfl, .of_body?_eq found⟩
      · cases read
    · cases read
  · rintro ⟨rest, rfl, body⟩
    simp [header, decode, body.body?_eq]

theorem decode_eq_error {fault : CommandFault} (refused : decode bytes = .error fault) :
    fault = .badLength bytes.length := by
  unfold decode at refused
  split at refused
  · split at refused
    · cases refused
    · cases refused
      rfl
  · cases refused
    rfl

theorem encode_eq_ok_iff {command : Command} :
    command.encode = .ok bytes ↔
      ∃ field, dataField command.data = .ok field ∧
        bytes = command.header ++ (field ++ command.expected.toList) := by
  unfold encode
  cases dataField command.data with
  | error fault => simp
  | ok field => simp [eq_comm]

theorem dataField_eq_ok_iff {data field : Bytes} :
    dataField (some data) = .ok field ↔
      data.length < 256 ∧ field = data.length.toUInt8 :: data := by
  by_cases fits : data.length < 256
  · simp [dataField_some, fits, eq_comm]
  · simp [dataField_tooLong, fits]

/-- Data of more than 255 bytes is the only thing that cannot be written. -/
theorem encode_eq_error_iff {command : Command} {fault : CommandFault} :
    command.encode = .error fault ↔
      ∃ data, command.data = some data ∧ 255 < data.length ∧
        fault = .dataTooLong data.length := by
  unfold encode
  cases command.data with
  | none => simp
  | some data =>
      by_cases fits : data.length < 256
      · have short : ¬ 255 < data.length := by omega
        simp [dataField_some, fits, short]
      · have long : 255 < data.length := by omega
        simp [dataField_tooLong, fits, long, eq_comm]

theorem length_of_encode {command : Command} (written : command.encode = .ok bytes) :
    bytes.length = command.size := by
  obtain ⟨field, fits, rfl⟩ := encode_eq_ok_iff.mp written
  obtain ⟨cla, ins, p1, p2, data, expected⟩ := command
  cases data with
  | none =>
      cases fits
      cases expected <;> rfl
  | some data =>
      obtain ⟨-, rfl⟩ := dataField_eq_ok_iff.mp fits
      cases expected with
      | none =>
          simp only [header, size, Option.toList_none, List.append_nil, List.length_append,
            List.length_cons, List.length_nil, Option.isSome_none, Bool.false_eq_true, if_false]
          omega
      | some expected =>
          simp only [header, size, Option.toList_some, List.length_append, List.length_cons,
            List.length_nil, Option.isSome_some, if_true]
          omega

/-- What a reading makes of the frame of a command. Empty data does not survive: its length byte
is skipped in front of an expected length and is taken for one where it stands alone. -/
def asRead (command : Command) : Command :=
  if command.data = some [] then
    { command with data := none, expected := some (command.expected.getD 0) }
  else command

@[simp] theorem asRead_header (command : Command) : command.asRead.header = command.header := by
  unfold asRead
  split <;> rfl

theorem toNat_length {data : Bytes} (fits : data.length < 256) :
    data.length.toUInt8.toNat = data.length := by
  simp [Nat.mod_eq_of_lt fits]

theorem body_of_dataField {command : Command} {field : Bytes}
    (written : dataField command.data = .ok field) :
    Body (field ++ command.expected.toList) command.asRead.data command.asRead.expected := by
  obtain ⟨cla, ins, p1, p2, data, expected⟩ := command
  cases data with
  | none =>
      cases written
      cases expected with
      | none => exact .bare
      | some expected => exact .expecting expected
  | some data =>
      obtain ⟨fits, rfl⟩ := dataField_eq_ok_iff.mp written
      cases data with
      | nil =>
          cases expected with
          | none => exact .expecting 0
          | some expected => exact .measured 0 [] (some expected) rfl (by simp)
      | cons head tail =>
          have size := toNat_length fits
          have announcing : (head :: tail).length.toUInt8 ≠ 0 := by
            intro zero
            rw [zero] at size
            cases size
          have body := Body.measured _ (head :: tail) expected size.symm (by simp)
          rw [if_neg announcing] at body
          exact body

/-- Every frame that is written can be read. -/
theorem decode_of_encode {command : Command} (written : command.encode = .ok bytes) :
    decode bytes = .ok command.asRead := by
  obtain ⟨field, fits, rfl⟩ := encode_eq_ok_iff.mp written
  rw [decode_eq_ok_iff, asRead_header]
  exact ⟨_, rfl, body_of_dataField fits⟩

/-- A lone zero byte behind the header is an expected length. -/
example : decode Vendor.Simulator.firmwareFrame = .ok ⟨0x80, 0xF1, 0, 0, none, some 0⟩ := rfl

/-- A command with empty data and one without data that expects zero bytes, otherwise alike. -/
def SharesFrame (command other : Command) : Prop :=
  command.header = other.header ∧ command.data = some [] ∧ command.expected = none ∧
    other.data = none ∧ other.expected = some 0

theorem SharesFrame.encode_eq {command other : Command} (twins : SharesFrame command other) :
    command.encode = .ok (command.header ++ [0]) ∧ other.encode = .ok (command.header ++ [0]) := by
  obtain ⟨alike, empty, silent, absent, zero⟩ := twins
  simp only [encode_eq_ok_iff, empty, silent, absent, zero, ← alike]
  exact ⟨⟨[0], rfl, rfl⟩, [], rfl, rfl⟩

theorem asRead_of_ne {command : Command} (survives : command.data ≠ some []) :
    command.asRead = command := if_neg survives

theorem sharesFrame_of_asRead {command other : Command} (empty : command.data = some [])
    (read : command.asRead = other) (sizes : command.size = other.size) :
    SharesFrame command other := by
  obtain ⟨cla, ins, p1, p2, data, expected⟩ := command
  cases empty
  subst read
  cases expected with
  | none => exact ⟨rfl, rfl, rfl, rfl, rfl⟩
  | some expected => cases sizes

/-- Two different commands share a frame only if one has empty data and the other none. -/
theorem sharesFrame_of_encode {command other : Command} (differ : command ≠ other)
    (written : command.encode = .ok bytes) (again : other.encode = .ok bytes) :
    SharesFrame command other ∨ SharesFrame other command := by
  have read : command.asRead = other.asRead :=
    Except.ok.inj ((decode_of_encode written).symm.trans (decode_of_encode again))
  have sizes : command.size = other.size :=
    (length_of_encode written).symm.trans (length_of_encode again)
  by_cases empty : command.data = some []
  · by_cases blank : other.data = some []
    · -- With empty data in both, their sizes tell whether a length is expected.
      refine absurd ?_ differ
      obtain ⟨cla, ins, p1, p2, data, expected⟩ := command
      obtain ⟨cla', ins', p1', p2', data', expected'⟩ := other
      cases empty
      cases blank
      cases expected <;> cases expected' <;> simp_all [asRead, size]
    · rw [asRead_of_ne blank] at read
      exact .inl (sharesFrame_of_asRead empty read sizes)
  · rw [asRead_of_ne empty] at read
    by_cases blank : other.data = some []
    · exact .inr (sharesFrame_of_asRead blank read.symm sizes.symm)
    · rw [asRead_of_ne blank] at read
      exact absurd read differ

/-- The lengths that a readable buffer may have, given its fifth byte. -/
def Framed (bytes : Bytes) : Prop :=
  bytes.length = 4 ∨ bytes.length = 5 ∨ 6 ≤ bytes.length ∧
    ∃ length, bytes[4]? = some length ∧
      (bytes.length = 5 + length.toNat ∨ bytes.length = 6 + length.toNat)

theorem Body.framed {head : Bytes} (body : Body rest data expected) (four : head.length = 4) :
    Framed (head ++ rest) := by
  cases body with
  | bare => exact .inl (by simpa using four)
  | expecting => exact .inr (.inl (by simp [four]))
  | measured length content expected size filled =>
      have follows := List.length_pos_iff.mpr filled
      rw [List.length_append] at follows
      refine .inr (.inr ⟨?_, length, ?_, ?_⟩)
      · simp only [List.length_append, List.length_cons]
        omega
      · simp [← four]
      · cases expected with
        | none =>
            left
            simp only [Option.toList_none, List.append_nil, List.length_append, List.length_cons]
            omega
        | some expected =>
            right
            simp only [Option.toList_some, List.length_append, List.length_cons, List.length_nil]
            omega

/-- Any tail that is as long as its length byte says, or longer by one, is a body. -/
theorem exists_body_of_length {length : UInt8} {tail : Bytes} (filled : tail ≠ [])
    (fits : tail.length = length.toNat ∨ tail.length = length.toNat + 1) :
    ∃ data expected, Body (length :: tail) data expected := by
  rcases fits with exactly | longer
  · have body := Body.measured length tail none exactly (by simpa using filled)
    rw [Option.toList_none, List.append_nil] at body
    exact ⟨_, _, body⟩
  · have left : (tail.drop length.toNat).length = 1 := by
      rw [List.length_drop]
      omega
    obtain ⟨last, behind⟩ := List.length_eq_one_iff.mp left
    have size : (tail.take length.toNat).length = length.toNat := by
      rw [List.length_take]
      omega
    have body := Body.measured length (tail.take length.toNat) (some last) size (by simp)
    rw [Option.toList_some, ← behind, List.take_append_drop] at body
    exact ⟨_, _, body⟩

theorem exists_body_of_framed (head : Bytes) (four : head.length = 4)
    (framed : Framed (head ++ rest)) : ∃ data expected, Body rest data expected := by
  match rest with
  | [] => exact ⟨_, _, .bare⟩
  | [expected] => exact ⟨_, _, .expecting expected⟩
  | length :: next :: tail =>
      have long : (head ++ length :: next :: tail).length = 6 + tail.length := by
        simp only [List.length_append, List.length_cons]
        omega
      unfold Framed at framed
      rw [long] at framed
      rcases framed with short | short | ⟨-, announced, found, fits⟩
      · omega
      · omega
      · have same : length = announced := by simpa [← four] using found
        subst same
        apply exists_body_of_length (List.cons_ne_nil next tail)
        rw [List.length_cons]
        omega

/-- A buffer is read if and only if its length fits its fifth byte. -/
theorem decodes_iff : (∃ command, decode bytes = .ok command) ↔ Framed bytes := by
  constructor
  · rintro ⟨command, read⟩
    obtain ⟨rest, rfl, body⟩ := decode_eq_ok_iff.mp read
    exact body.framed rfl
  · intro framed
    have four : 4 ≤ bytes.length := by
      rcases framed with four | five | ⟨six, -⟩ <;> omega
    match bytes, four with
    | cla :: ins :: p1 :: p2 :: rest, _ =>
        obtain ⟨data, expected, body⟩ :=
          exists_body_of_framed [cla, ins, p1, p2] rfl framed
        exact ⟨⟨cla, ins, p1, p2, data, expected⟩, decode_eq_ok_iff.mpr ⟨rest, rfl, body⟩⟩

/-- Data that was read is not empty, fits a length byte and stands right behind the one it was
read with. -/
theorem Body.placed {content : Bytes} (body : Body rest (some content) expected) :
    ∃ length, rest.head? = some length ∧ 0 < content.length ∧
      content.length = length.toNat ∧ content <+: rest.tail := by
  generalize held : some content = data at body
  cases body with
  | bare => cases held
  | expecting => cases held
  | measured length whole expected size filled =>
      split at held
      · cases held
      · rename_i announcing
        cases held
        refine ⟨length, rfl, ?_, size, List.prefix_append _ _⟩
        rw [size]
        exact Nat.pos_of_ne_zero fun zero => announcing (UInt8.toNat_inj.mp zero)

theorem Body.closed {last : UInt8} (body : Body rest data (some last)) :
    rest.getLast? = some last := by
  generalize held : some last = expected at body
  cases body with
  | bare => cases held
  | expecting => rfl
  | measured length content expected size filled =>
      cases held
      rw [Option.toList_some, ← List.cons_append, List.getLast?_concat]

/-- What was read is written back, without a length byte of zero in front of an expected length. -/
theorem Body.rewritten (body : Body rest data expected) :
    ∃ field, dataField data = .ok field ∧ field ++ expected.toList =
      if rest.length = 2 ∧ rest.head? = some 0 then rest.tail else rest := by
  cases body with
  | bare => exact ⟨[], rfl, rfl⟩
  | expecting => exact ⟨[], rfl, rfl⟩
  | measured length content expected size filled =>
      by_cases zero : length = 0
      · subst zero
        cases List.eq_nil_of_length_eq_zero size
        cases expected with
        | none => exact absurd rfl filled
        | some expected => exact ⟨[], rfl, rfl⟩
      · have fits : content.length < 256 := size ▸ length.toNat_lt
        have byte : content.length.toUInt8 = length := by
          rw [size]
          exact UInt8.ofNat_toNat
        refine ⟨length :: content, ?_, ?_⟩
        · rw [if_neg zero, dataField_some fits, byte]
        · simp [zero]

/-- Whatever is read is written back, byte by byte, unless a zero is left out. -/
theorem encode_of_decode {command : Command} (read : decode bytes = .ok command) :
    command.encode = .ok (if bytes.length = 6 ∧ bytes[4]? = some 0 then bytes.eraseIdx 4
      else bytes) := by
  obtain ⟨rest, rfl, body⟩ := decode_eq_ok_iff.mp read
  obtain ⟨field, fits, same⟩ := body.rewritten
  refine encode_eq_ok_iff.mpr ⟨field, fits, ?_⟩
  rw [same]
  cases rest with
  | nil => rfl
  | cons head tail =>
    by_cases omitted : tail.length = 1 ∧ head = 0 <;> simp [header, omitted]

/-- Commands are read back from their frames, with the one ambiguity of the short format. -/
structure ReadsBack : Prop where
  refused : ∀ (command : Command) fault, command.encode = .error fault ↔
    ∃ data, command.data = some data ∧ 255 < data.length ∧ fault = .dataTooLong data.length
  sized : ∀ (command : Command) bytes, command.encode = .ok bytes → bytes.length = command.size
  read : ∀ (command : Command) bytes, command.encode = .ok bytes →
    decode bytes = .ok command.asRead
  /-- The reading is the command itself, unless its data is present and empty. -/
  exact : ∀ command : Command, command.data ≠ some [] → command.asRead = command
  emptied : ∀ cla ins p1 p2 expected,
    asRead ⟨cla, ins, p1, p2, some [], expected⟩ =
      ⟨cla, ins, p1, p2, none, some (expected.getD 0)⟩
  shared : ∀ command other : Command, command ≠ other →
    ((∃ bytes, command.encode = .ok bytes ∧ other.encode = .ok bytes) ↔
      SharesFrame command other ∨ SharesFrame other command)
  /-- The frame that an unscripted simulator builds selects exactly the given application. -/
  selects : ∀ (simulator : Vendor.Simulator) (aid : Bytes),
    simulator.buffers.lookup (Vendor.BufferCall.selectRequest aid).name = none →
    simulator.fails (Vendor.BufferCall.selectRequest aid).name = false →
    1 ≤ aid.length → aid.length ≤ 255 →
    ∃ frame, simulator.kit.buffer (.selectRequest aid) = some frame ∧
      decode frame = .ok ⟨0x00, 0xA4, 0x04, 0x00, some aid, none⟩

theorem decode_selectFrame {aid : Bytes} (filled : 1 ≤ aid.length) (fits : aid.length ≤ 255) :
    ∃ frame, Vendor.Simulator.selectFrame? aid = some frame ∧
      decode frame = .ok ⟨0x00, 0xA4, 0x04, 0x00, some aid, none⟩ := by
  have survives : (some aid) ≠ some [] := by
    intro empty
    cases empty
    exact absurd filled (by decide)
  cases written : encode ⟨0x00, 0xA4, 0x04, 0x00, some aid, none⟩ with
  | error fault =>
      obtain ⟨data, held, long, -⟩ := encode_eq_error_iff.mp written
      cases held
      omega
  | ok frame =>
      have read := decode_of_encode written
      rw [asRead_of_ne survives] at read
      exact ⟨frame, by rw [Vendor.Simulator.selectFrame?, written]; rfl, read⟩

/-- Writing and reading a command gives it back, except where its data is present and empty. -/
theorem commands_read_back : ReadsBack where
  refused _ _ := encode_eq_error_iff
  sized _ _ := length_of_encode
  read _ _ := decode_of_encode
  exact _ := asRead_of_ne
  emptied _ _ _ _ _ := rfl
  shared command other differ := by
    constructor
    · rintro ⟨bytes, written, again⟩
      exact sharesFrame_of_encode differ written again
    · rintro (twins | twins)
      · exact ⟨_, twins.encode_eq⟩
      · exact ⟨_, twins.encode_eq.symm⟩
  selects simulator aid unscripted working filled fits := by
    obtain ⟨frame, built, read⟩ := decode_selectFrame filled fits
    refine ⟨frame, ?_, read⟩
    simp only [Vendor.Simulator.kit, unscripted, working]
    exact built

/-- The reader accepts exactly its grammar, and what it reads is written back. -/
structure WritesBack : Prop where
  accepted : ∀ bytes, (∃ command, decode bytes = .ok command) ↔ Framed bytes
  refused : ∀ bytes, ¬ Framed bytes → decode bytes = .error (.badLength bytes.length)
  placed : ∀ bytes command data, decode bytes = .ok command → command.data = some data →
    ∃ length, bytes[4]? = some length ∧ 0 < data.length ∧ data.length = length.toNat ∧
      data <+: bytes.drop 5
  closed : ∀ bytes command expected, decode bytes = .ok command →
    command.expected = some expected → bytes.getLast? = some expected
  /-- What was read always fits, and is written as it stood there but for one spelling. -/
  written : ∀ bytes command, decode bytes = .ok command →
    command.encode = .ok (if bytes.length = 6 ∧ bytes[4]? = some 0 then bytes.eraseIdx 4
      else bytes)
  bounded : ∀ bytes command, decode bytes = .ok command →
    command.data ≠ some [] ∧ ∀ data, command.data = some data → data.length ≤ 255

/-- Reading accepts exactly the buffers whose length fits, and writing gives them back. -/
theorem buffers_write_back : WritesBack := by
  have placed : ∀ bytes command data, decode bytes = .ok command → command.data = some data →
      ∃ length, bytes[4]? = some length ∧ 0 < data.length ∧ data.length = length.toNat ∧
        data <+: bytes.drop 5 := by
    intro bytes command data read held
    obtain ⟨rest, rfl, body⟩ := decode_eq_ok_iff.mp read
    rw [held] at body
    obtain ⟨length, found, filled, size, within⟩ := body.placed
    refine ⟨length, ?_, filled, size, ?_⟩
    · rw [← found, List.head?_eq_getElem?]
      rfl
    · rw [← List.drop_one] at within
      exact within
  refine ⟨fun _ => decodes_iff, ?_, placed, ?_, fun _ _ => encode_of_decode, ?_⟩
  · intro bytes unframed
    cases read : decode bytes with
    | error fault => rw [decode_eq_error read]
    | ok command => exact absurd (decodes_iff.mp ⟨command, read⟩) unframed
  · intro bytes command expected read held
    obtain ⟨rest, rfl, body⟩ := decode_eq_ok_iff.mp read
    rw [held] at body
    rw [List.getLast?_append, body.closed]
    rfl
  · intro bytes command read
    constructor
    · intro empty
      obtain ⟨length, -, filled, -⟩ := placed bytes command [] read empty
      cases filled
    · intro data held
      obtain ⟨length, -, -, size, -⟩ := placed bytes command data read held
      have := length.toNat_lt
      omega

end Command

end Contactless
