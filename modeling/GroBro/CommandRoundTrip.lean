/-
GroBro/CommandRoundTrip.lean

Every command put on the wire decodes to itself.

The mask is an involution that works byte by byte, so unscrambling a scrambled
packet with anything behind it gives the packet back with something of the same
length behind it (`unscramble_scramble_append`); the checksum is such a tail.
What is left is reading back the fixed 42-byte command header
(`unpackCommandHeader_wire`) and the configuration layout, and, for the
converse, rebuilding a header from the fields read off it
(`commandWire_of_unpack`).
-/
import GroBro.Commands

namespace GroBro

open ByteCodec

/-! ### The mask -/

@[simp] theorem length_scrambleFrom (k : ℕ) (b : Bytes) :
    (scrambleFrom k b).length = b.length := by
  induction b generalizing k with
  | nil => rfl
  | cons x xs ih => simp [scrambleFrom, ih]

/-- Masking twice from the same index gives the bytes back. -/
theorem scrambleFrom_scrambleFrom (k : ℕ) (b : Bytes) :
    scrambleFrom k (scrambleFrom k b) = b := by
  induction b generalizing k with
  | nil => rfl
  | cons x xs ih =>
      rw [scrambleFrom, scrambleFrom, ih, UInt8.xor_assoc, UInt8.xor_self, UInt8.xor_zero]

/-- The mask does not look ahead: a tail is masked on its own. -/
theorem scrambleFrom_append (k : ℕ) (a t : Bytes) :
    ∃ k', scrambleFrom k (a ++ t) = scrambleFrom k a ++ scrambleFrom k' t := by
  induction a generalizing k with
  | nil => exact ⟨k, rfl⟩
  | cons x xs ih =>
      obtain ⟨k', hk'⟩ := ih (if k + 1 = scrambleMask.length then 0 else k + 1)
      refine ⟨k', ?_⟩
      rw [List.cons_append, scrambleFrom, hk', scrambleFrom, List.cons_append]

/-- Unscrambling undoes scrambling; what follows the packet keeps its length. -/
theorem unscramble_scramble_append {a : Bytes} (h : 8 ≤ a.length) (t : Bytes) :
    ∃ t' : Bytes, t'.length = t.length ∧ unscramble (scramble a ++ t) = a ++ t' := by
  have hhead : (a.take 8).length = 8 := by rw [List.length_take, Nat.min_eq_left h]
  -- the first eight bytes are never masked
  obtain ⟨k', hk'⟩ := scrambleFrom_append 0 (scrambleFrom 0 (a.drop 8)) t
  refine ⟨scrambleFrom k' t, length_scrambleFrom k' t, ?_⟩
  rw [unscramble, scramble, scramble, List.append_assoc]
  have htake : (a.take 8 ++ (scrambleFrom 0 (a.drop 8) ++ t)).take 8 = a.take 8 := by
    rw [List.take_append_of_le_length (by omega), List.take_take, Nat.min_self]
  have hdrop : (a.take 8 ++ (scrambleFrom 0 (a.drop 8) ++ t)).drop 8
      = scrambleFrom 0 (a.drop 8) ++ t := List.drop_left' hhead
  rw [htake, hdrop, hk', scrambleFrom_scrambleFrom, ← List.append_assoc, List.take_append_drop]

/-- A packet survives the mask, the checksum and the mask again, followed by two
bytes of trailer. -/
theorem unscramble_appendCrc (checksum : Bytes → UInt16) {a : Bytes} (h : 8 ≤ a.length) :
    ∃ t : Bytes, t.length = 2 ∧ unscramble (appendCrc checksum (scramble a)) = a ++ t := by
  obtain ⟨t, ht, e⟩ := unscramble_scramble_append h (u16Bytes (checksum (scramble a)).toNat)
  exact ⟨t, by rw [ht, length_u16Bytes], e⟩

/-! ### The command header -/

/-- The 42 bytes of a command header. -/
def commandWire (msgLen : ℕ) (function : GrowattModbusFunction) (deviceIdRaw : Bytes)
    (first second : ℕ) : Bytes :=
  u16Bytes 1 ++ (u16Bytes 7 ++ (u16Bytes msgLen ++ (u8Bytes 1 ++ (u8Bytes function.value ++
    (deviceIdRaw ++ (u16Bytes first ++ u16Bytes second))))))

section Header

variable {msgLen first second : ℕ} {function : GrowattModbusFunction}

theorem length_commandWire {deviceIdRaw : Bytes} (h : deviceIdRaw.length = 30) :
    (commandWire msgLen function deviceIdRaw first second).length = modbusCommandSize := by
  simp [commandWire, h, modbusCommandSize]

theorem packCommand_ok {deviceId : PyStr} (ha : IsAscii deviceId) (hl : deviceId.length ≤ 30)
    (hm : msgLen < 65536) (hfirst : first < 65536) (hsecond : second < 65536) :
    packCommand msgLen function deviceId first second =
      .ok (commandWire msgLen function (idField deviceId) first second) := by
  rw [packCommand, encodeModbusDeviceId_ok ha hl, packU16_ok (by decide), packU16_ok (by decide),
    packU16_ok hm, packU8_ok (by decide), packU8_ok function.value_lt, packU16_ok hfirst,
    packU16_ok hsecond]
  simp [commandWire]

/-- A packed command has an id that fits its field and numbers that fit theirs. -/
theorem packCommand_eq_ok {deviceId : PyStr} {raw : Bytes} (hm : msgLen < 65536)
    (h : packCommand msgLen function deviceId first second = .ok raw) :
    IsAscii deviceId ∧ deviceId.length ≤ 30 ∧ first < 65536 ∧ second < 65536 ∧
      raw = commandWire msgLen function (idField deviceId) first second := by
  have ha : IsAscii deviceId := by
    by_contra hn
    rw [packCommand, encodeModbusDeviceId, encodeAscii, if_neg hn] at h
    cases h
  have hl : deviceId.length ≤ 30 := by
    by_contra hn
    rw [packCommand, encodeModbusDeviceId, encodeAscii_ok ha, ok_bind, length_asciiBytes,
      if_pos (Nat.lt_of_not_le hn)] at h
    cases h
  have hhead : packCommand msgLen function deviceId first second =
      (do return (← pure (u16Bytes 1 ++ u16Bytes 7 ++ u16Bytes msgLen ++ u8Bytes 1 ++
        u8Bytes function.value ++ idField deviceId)) ++ (← packU16 first) ++ (← packU16 second)) := by
    rw [packCommand, encodeModbusDeviceId_ok ha hl, packU16_ok (by decide), packU16_ok (by decide),
      packU16_ok hm, packU8_ok (by decide), packU8_ok function.value_lt]
    rfl
  have hfirst : first < 65536 := by
    by_contra hn
    rw [hhead, packU16, if_neg hn] at h
    cases h
  have hsecond : second < 65536 := by
    by_contra hn
    rw [hhead, packU16_ok hfirst, packU16, if_neg hn] at h
    cases h
  rw [packCommand_ok ha hl hm hfirst hsecond] at h
  exact ⟨ha, hl, hfirst, hsecond, (Except.ok.inj h).symm⟩

/-- The fields of a command header at the front of a buffer. -/
structure CommandFields (w : Bytes) (msgLen : ℕ) (function : GrowattModbusFunction)
    (deviceIdRaw : Bytes) (first second : ℕ) : Prop where
  constant_1 : u16At w 0 = 1
  constant_7 : u16At w 2 = 7
  msgLen : u16At w 4 = msgLen
  deviceAddress : u8At w 6 = 1
  function : u8At w 7 = function.value
  deviceIdRaw : slice w 8 38 = deviceIdRaw
  first : u16At w 38 = first
  second : u16At w 40 = second

/-- A command header is read field by field, whatever follows it. -/
theorem read_commandWire {deviceIdRaw : Bytes} (hid : deviceIdRaw.length = 30)
    (hm : msgLen < 65536) (hfirst : first < 65536) (hsecond : second < 65536) (r : Bytes) :
    CommandFields (commandWire msgLen function deviceIdRaw first second ++ r)
      msgLen function deviceIdRaw first second := by
  have hw : commandWire msgLen function deviceIdRaw first second ++ r =
      u16Bytes 1 ++ (u16Bytes 7 ++ (u16Bytes msgLen ++ (u8Bytes 1 ++ (u8Bytes function.value ++
        (deviceIdRaw ++ (u16Bytes first ++ (u16Bytes second ++ r))))))) := by
    simp [commandWire]
  rw [hw]
  -- the fields one after the other, each behind those before it
  refine ⟨u16At_u16Bytes (by decide) _, ?_, ?_, ?_, ?_, ?_, ?_, ?_⟩
  · simp only [u16At_u16Bytes_skip]
    exact u16At_u16Bytes (by decide) _
  · simp only [u16At_u16Bytes_skip]
    exact u16At_u16Bytes hm _
  · simp only [u8At_u16Bytes_skip]
    exact u8At_u8Bytes (by decide) _
  · simp only [u8At_u16Bytes_skip, u8At_u8Bytes_skip]
    exact u8At_u8Bytes function.value_lt _
  · simp only [slice_u16Bytes_skip, slice_u8Bytes_skip]
    rw [slice_zero, ← hid, List.take_left]
  · simp only [u16At_u16Bytes_skip, u16At_u8Bytes_skip]
    exact (u16At_skip (i := 0) hid).trans (u16At_u16Bytes hfirst _)
  · simp only [u16At_u16Bytes_skip, u16At_u8Bytes_skip]
    refine (u16At_skip (i := 2) hid).trans ?_
    exact (u16At_u16Bytes_skip first _ 0).trans (u16At_u16Bytes hsecond _)

/-- A header of 42 bytes is read back, whatever follows it, if the length field
fits the buffer. -/
theorem unpackCommandHeader_wire {deviceIdRaw r : Bytes} (hid : deviceIdRaw.length = 30)
    (hm : msgLen < 65536) (hfirst : first < 65536) (hsecond : second < 65536)
    (hcore : 36 ≤ msgLen) (hr : r.length = msgLen - 36 ∨ r.length = msgLen - 36 + 2) :
    unpackCommandHeader (commandWire msgLen function deviceIdRaw first second ++ r) =
      some (⟨function, deviceIdRaw, first, second⟩, msgLen + 6) := by
  have hf : CommandFields (commandWire msgLen function deviceIdRaw first second)
      msgLen function deviceIdRaw first second := by
    rw [← List.append_nil (commandWire msgLen function deviceIdRaw first second)]
    exact read_commandWire hid hm hfirst hsecond []
  set w := commandWire msgLen function deviceIdRaw first second with hw
  have hlen : w.length = modbusCommandSize := length_commandWire hid
  have htotal : (w ++ r).length = modbusCommandSize + r.length := by
    rw [List.length_append, hlen]
  have hsize : modbusCommandSize = 42 := rfl
  have htrailer : trailerSize = 2 := rfl
  have hwindow : unpackFrom modbusCommandSize (w ++ r) 0 = .ok w := by
    rw [unpackFrom_ok (by omega), Nat.zero_add, slice_zero, ← hlen, List.take_left]
  -- the four checks of the header pass
  rw [unpackCommandHeader, if_neg (by omega), hwindow]
  simp only [hf.constant_1, hf.constant_7, hf.msgLen, hf.deviceAddress, hf.function,
    hf.deviceIdRaw, hf.first, hf.second, GrowattModbusFunction.ofValue?_value]
  rw [if_neg (by simp), if_neg (by omega), if_neg (by omega)]

/-- What an accepted header says about the buffer: its first 42 bytes are the
header rebuilt, and its length is the core length with or without a trailer. -/
theorem commandWire_of_unpack {buffer : Bytes} {header : CommandHeader} {coreLength : ℕ}
    (h : unpackCommandHeader buffer = some (header, coreLength)) :
    ∃ msgLen, coreLength = msgLen + 6 ∧ 36 ≤ msgLen ∧ msgLen < 65536 ∧
      coreLength ≤ buffer.length ∧ header.deviceIdRaw = slice buffer 8 38 ∧
      header.first < 65536 ∧ header.second < 65536 ∧
      commandWire msgLen header.function header.deviceIdRaw header.first header.second
        = buffer.take modbusCommandSize := by
  have hsize : modbusCommandSize = 42 := rfl
  unfold unpackCommandHeader at h
  by_cases hshort : buffer.length < modbusCommandSize
  · rw [if_pos hshort] at h
    cases h
  rw [if_neg hshort, unpackFrom_ok (by omega)] at h
  have hw : slice buffer 0 (0 + modbusCommandSize) = buffer.take modbusCommandSize := by
    rw [Nat.zero_add, slice_zero]
  set w := slice buffer 0 (0 + modbusCommandSize) with hwDef
  have hlen : w.length = 42 := by
    rw [hw, List.length_take]
    omega
  dsimp only at h
  by_cases hconst : u16At w 0 ≠ 1 ∨ u16At w 2 ≠ 7 ∨ u8At w 6 ≠ 1
  · rw [if_pos hconst] at h
    cases h
  rw [if_neg hconst] at h
  push Not at hconst
  obtain ⟨h1, h7, ha⟩ := hconst
  rcases hf : GrowattModbusFunction.ofValue? (u8At w 7) with - | function
  · rw [hf] at h
    cases h
  rw [hf] at h
  dsimp only at h
  split_ifs at h with hcore hfits
  obtain ⟨rfl, rfl⟩ := Prod.mk.inj (Option.some.inj h)
  refine ⟨u16At w 4, rfl, by omega, u16At_lt w 4, ?_, ?_, u16At_lt w 38, u16At_lt w 40, ?_⟩
  · by_contra hlt
    exact hfits ⟨by omega, by omega⟩
  · rw [hwDef]
    exact slice_slice buffer (by decide)
  · have hword : ∀ k, k + 2 ≤ 42 → u16Bytes (u16At w k) = slice w k (k + 2) := by
      intro k hk
      exact u16Bytes_u16At w (by omega)
    have hbyte : ∀ k, k < 42 → u8Bytes (u8At w k) = slice w k (k + 1) := by
      intro k hk
      exact u8Bytes_u8At w (by omega)
    have hone : u16Bytes 1 = slice w 0 2 := h1 ▸ hword 0 (by decide)
    have hseven : u16Bytes 7 = slice w 2 4 := h7 ▸ hword 2 (by decide)
    have haddress : u8Bytes 1 = slice w 6 7 := ha ▸ hbyte 6 (by decide)
    -- the neighbouring slices are joined from the front
    show commandWire (u16At w 4) function (slice w 8 38) (u16At w 38) (u16At w 40) = _
    rw [commandWire, hone, hseven, haddress, GrowattModbusFunction.value_of_ofValue? hf,
      hword 4 (by decide), hbyte 7 (by decide), hword 38 (by decide), hword 40 (by decide)]
    repeat rw [slice_append_slice w (by decide) (by decide)]
    rw [slice_zero, ← hw]
    exact List.take_of_length_le (by omega)

/-- An accepted header is what stands in the buffer. -/
theorem commandFields_of_unpack {buffer : Bytes} {header : CommandHeader} {coreLength : ℕ}
    (h : unpackCommandHeader buffer = some (header, coreLength)) :
    CommandFields buffer (coreLength - 6) header.function header.deviceIdRaw header.first
      header.second := by
  obtain ⟨msgLen, rfl, hmin, hm, hfits, hraw, hfirst, hsecond, hwire⟩ := commandWire_of_unpack h
  have hid : header.deviceIdRaw.length = 30 := by
    rw [hraw, length_slice_of_le (by omega)]
  rw [Nat.add_sub_cancel, ← List.take_append_drop modbusCommandSize buffer, ← hwire]
  exact read_commandWire hid hm hfirst hsecond _

/-- An accepted header with a padded id is packed again from its fields. -/
theorem packCommand_of_unpack {buffer : Bytes} {header : CommandHeader} {coreLength : ℕ}
    (h : unpackCommandHeader buffer = some (header, coreLength))
    (hid : IsPaddedId 30 (slice buffer 8 38)) :
    packCommand (coreLength - 6) header.function (stripNul (decodeIgnore header.deviceIdRaw))
      header.first header.second = .ok (buffer.take modbusCommandSize) := by
  obtain ⟨msgLen, rfl, -, hm, -, hraw, hfirst, hsecond, hwire⟩ := commandWire_of_unpack h
  obtain ⟨hascii, hlen, hfield⟩ := hid.encode
  rw [← hraw] at hascii hlen hfield
  rw [Nat.add_sub_cancel, packCommand_ok hascii hlen hm hfirst hsecond, idField, hfield, hwire]

end Header

/-! ### Register commands -/

/-- A single-register command the wire format can carry without loss. -/
structure GrowattModbusFunctionSingle.WellFormed (c : GrowattModbusFunctionSingle) : Prop where
  ascii : IsAscii c.deviceId
  idLength : c.deviceId.length ≤ 30
  trimmed : NulTrimmed c.deviceId
  registerNo : c.registerNo < 65536
  value : c.value < 65536

/-- A multiple-register command the wire format can carry without loss. -/
structure GrowattModbusFunctionMultiple.WellFormed (c : GrowattModbusFunctionMultiple) :
    Prop where
  ascii : IsAscii c.deviceId
  idLength : c.deviceId.length ≤ 30
  trimmed : NulTrimmed c.deviceId
  start_le : c.start ≤ c.end_
  end_lt : c.end_ < 65536
  length_values : c.values.length ≤ 65499
  preset : c.function = .presetMultipleRegister →
    c.values.length = 2 * (c.end_ - c.start + 1)

def GrowattModbusFunctionSingle.wire (c : GrowattModbusFunctionSingle) : Bytes :=
  commandWire 36 c.function (idField c.deviceId) c.registerNo c.value

def GrowattModbusFunctionMultiple.wire (c : GrowattModbusFunctionMultiple) : Bytes :=
  commandWire (36 + c.values.length) c.function (idField c.deviceId) c.start c.end_ ++ c.values

namespace GrowattModbusFunctionSingle

variable {c : GrowattModbusFunctionSingle}

theorem WellFormed.buildGrobro_eq (h : c.WellFormed) : c.buildGrobro = .ok c.wire :=
  packCommand_ok h.ascii h.idLength (by decide) h.registerNo h.value

theorem WellFormed.length_wire (h : c.WellFormed) : c.wire.length = modbusCommandSize :=
  length_commandWire (length_idField h.idLength)

/-- A single-register command is read back, with or without a trailer. -/
theorem WellFormed.parseGrobro_wire (h : c.WellFormed) {r : Bytes}
    (hr : r.length = 0 ∨ r.length = 2) : parseGrobro (c.wire ++ r) = some c := by
  have hheader : unpackCommandHeader (c.wire ++ r) =
      some (⟨c.function, idField c.deviceId, c.registerNo, c.value⟩, 36 + 6) :=
    unpackCommandHeader_wire (length_idField h.idLength) (by decide) h.registerNo h.value
      (le_refl 36) hr
  rw [parseGrobro, hheader]
  show some _ = some c
  rw [idField, stripNul_decodeIgnore_ljustNul h.ascii h.trimmed]

theorem header_of_parse {b : Bytes} (h : parseGrobro b = some c) :
    ∃ header, unpackCommandHeader b = some (header, modbusCommandSize) ∧
      c = { deviceId := stripNul (decodeIgnore header.deviceIdRaw), function := header.function,
            registerNo := header.first, value := header.second } := by
  unfold parseGrobro at h
  rcases hu : unpackCommandHeader b with - | ⟨header, coreLength⟩
  · rw [hu] at h
    cases h
  rw [hu] at h
  dsimp only at h
  split_ifs at h with hcore
  obtain rfl : coreLength = modbusCommandSize := not_not.mp hcore
  exact ⟨header, rfl, (Option.some.inj h).symm⟩

/-- A single-register command read off a buffer with a padded id rebuilds to the
first 42 bytes. -/
theorem buildGrobro_of_parse {b : Bytes} (h : parseGrobro b = some c)
    (hid : IsPaddedId 30 (slice b 8 38)) : c.buildGrobro = .ok (b.take 42) := by
  obtain ⟨header, hu, rfl⟩ := header_of_parse h
  exact packCommand_of_unpack hu hid

end GrowattModbusFunctionSingle

namespace GrowattModbusFunctionMultiple

variable {c : GrowattModbusFunctionMultiple}

theorem WellFormed.buildGrobro_eq (h : c.WellFormed) : c.buildGrobro = .ok c.wire := by
  have hlen := h.length_values
  have hstart := h.start_le
  have hend := h.end_lt
  rw [buildGrobro, packCommand_ok h.ascii h.idLength (by omega) (by omega) hend]
  rfl

theorem WellFormed.length_wire (h : c.WellFormed) :
    c.wire.length = modbusCommandSize + c.values.length := by
  rw [wire, List.length_append, length_commandWire (length_idField h.idLength)]

theorem WellFormed.unpackCommandHeader_wire (h : c.WellFormed) {r : Bytes}
    (hr : r.length = 0 ∨ r.length = 2) :
    unpackCommandHeader (c.wire ++ r) =
      some (⟨c.function, idField c.deviceId, c.start, c.end_⟩, c.values.length + 42) := by
  have hlen := h.length_values
  have hstart := h.start_le
  have hend := h.end_lt
  have hvalues : (c.values ++ r).length = c.values.length + r.length := List.length_append
  have hu : unpackCommandHeader (commandWire (36 + c.values.length) c.function
      (idField c.deviceId) c.start c.end_ ++ (c.values ++ r)) =
      some (⟨c.function, idField c.deviceId, c.start, c.end_⟩, 36 + c.values.length + 6) :=
    GroBro.unpackCommandHeader_wire (length_idField h.idLength) (by omega) (by omega) hend
      (by omega) (by omega)
  rw [wire, List.append_assoc, hu]
  congr 2
  omega

/-- A multiple-register command is read back, with or without a trailer. -/
theorem WellFormed.parseGrobro_wire (h : c.WellFormed) {r : Bytes}
    (hr : r.length = 0 ∨ r.length = 2) : parseGrobro (c.wire ++ r) = some c := by
  have hhead : (commandWire (36 + c.values.length) c.function (idField c.deviceId) c.start
      c.end_).length = modbusCommandSize := length_commandWire (length_idField h.idLength)
  have hsize : modbusCommandSize = 42 := rfl
  have hvalues : slice (c.wire ++ r) modbusCommandSize (c.values.length + 42) = c.values := by
    rw [wire, List.append_assoc]
    exact slice_append_mid _ _ _ hhead.symm (by omega)
  rw [parseGrobro, h.unpackCommandHeader_wire hr]
  dsimp only
  have hrange : ¬ c.end_ < c.start := Nat.not_lt.mpr h.start_le
  have hcount : ¬ (c.function = .presetMultipleRegister ∧
      c.values.length ≠ (c.end_ - c.start + 1) * 2) := by
    rintro ⟨hf, hne⟩
    have hp := h.preset hf
    omega
  rw [if_neg hrange, hvalues, if_neg hcount, idField,
    stripNul_decodeIgnore_ljustNul h.ascii h.trimmed]

/-- An accepted command is its header and the bytes up to the core length. -/
theorem header_of_parse {b : Bytes} (h : parseGrobro b = some c) :
    ∃ header, unpackCommandHeader b = some (header, c.values.length + 42) ∧
      c.deviceId = stripNul (decodeIgnore header.deviceIdRaw) ∧ c.function = header.function ∧
      c.start = header.first ∧ c.end_ = header.second ∧
      b.take modbusCommandSize ++ c.values = b.take (c.values.length + 42) := by
  unfold parseGrobro at h
  rcases hu : unpackCommandHeader b with - | ⟨header, coreLength⟩
  · rw [hu] at h
    cases h
  rw [hu] at h
  dsimp only at h
  split_ifs at h with hrange hcount
  obtain rfl := Option.some.inj h
  obtain ⟨msgLen, rfl, hmin, -, hfits, -⟩ := commandWire_of_unpack hu
  have hsize : modbusCommandSize = 42 := rfl
  have hcore : msgLen + 6 = (slice b modbusCommandSize (msgLen + 6)).length + 42 := by
    rw [length_slice_of_le hfits]
    omega
  refine ⟨header, ?_, rfl, rfl, rfl, rfl, ?_⟩
  · rw [← hcore]
  · rw [← hcore]
    exact take_append_slice b (by omega)

theorem coreLength_of_parse {b : Bytes} (h : parseGrobro b = some c) :
    (unpackCommandHeader b).map Prod.snd = some (c.values.length + 42) := by
  obtain ⟨header, hu, -⟩ := header_of_parse h
  rw [hu]
  rfl

/-- A multiple-register command read off a buffer with a padded id rebuilds to
the bytes up to the core length. -/
theorem buildGrobro_of_parse {b : Bytes} (h : parseGrobro b = some c)
    (hid : IsPaddedId 30 (slice b 8 38)) :
    c.buildGrobro = .ok (b.take (c.values.length + 42)) := by
  obtain ⟨header, hu, hdevice, hfunction, hstart, hend, htake⟩ := header_of_parse h
  have hpack := packCommand_of_unpack hu hid
  have hmsg : c.values.length + 42 - 6 = 36 + c.values.length := by omega
  rw [hmsg, ← hdevice, ← hfunction, ← hstart, ← hend] at hpack
  rw [buildGrobro, hpack, ← htake]
  rfl

end GrowattModbusFunctionMultiple

/-! ### Configuration packets -/

/-- The bytes of a configuration packet before the mask. -/
def configWire (messageType : ℕ) (deviceId : PyStr) (payload : Bytes) : Bytes :=
  configHeader ++ (u16Bytes (payload.length + 18) ++ (u16Bytes messageType ++
    (ljustNul 16 (asciiBytes deviceId) ++ payload)))

section Config

variable {checksum : Bytes → UInt16} {messageType : ℕ} {deviceId : PyStr}

theorem finalizeConfigPacket_ok {payload : Bytes} (ha : IsAscii deviceId)
    (hl : deviceId.length ≤ 16) (ht : messageType < 65536) (hp : payload.length ≤ 65517) :
    finalizeConfigPacket checksum messageType deviceId payload =
      .ok (appendCrc checksum (scramble (configWire messageType deviceId payload))) := by
  have hfield : configDeviceField deviceId = .ok (ljustNul 16 (asciiBytes deviceId)) := by
    rw [configDeviceField, encodeAscii_ok ha]
    simp [Nat.not_lt.mpr hl]
  have hsize : ¬ payload.length + 18 > 0xFFFF := by omega
  rw [finalizeConfigPacket, packU16_ok (by omega), packU16_ok ht, hfield]
  simp [if_neg hsize, configWire]

theorem length_configDeviceField (hl : deviceId.length ≤ 16) :
    (ljustNul 16 (asciiBytes deviceId)).length = 16 :=
  length_ljustNul (by rwa [length_asciiBytes])

/-- The fields of a configuration packet followed by anything. -/
theorem read_configWire (ht : messageType < 65536) (hl : deviceId.length ≤ 16)
    (payload r : Bytes) :
    u16At (configWire messageType deviceId payload ++ r) 6 = messageType ∧
      slice (configWire messageType deviceId payload ++ r) 8 24
        = ljustNul 16 (asciiBytes deviceId) ∧
      (configWire messageType deviceId payload ++ r).drop 24 = payload ++ r := by
  have hid := length_configDeviceField hl
  set id := ljustNul 16 (asciiBytes deviceId) with hidDef
  have hw : configWire messageType deviceId payload ++ r =
      (configHeader ++ u16Bytes (payload.length + 18)) ++
        (u16Bytes messageType ++ (id ++ (payload ++ r))) := by
    simp [configWire, hidDef]
  have hsix : (configHeader ++ u16Bytes (payload.length + 18)).length = 6 := rfl
  rw [hw]
  refine ⟨u16At_mid _ _ ht hsix.symm, ?_, ?_⟩
  · rw [← List.append_assoc]
    exact slice_append_mid _ _ _ rfl (by rw [hid]; rfl)
  · rw [← List.append_assoc, ← List.append_assoc]
    exact List.drop_left' (by simp [hid, configHeader])

theorem length_configWire (hl : deviceId.length ≤ 16) (payload : Bytes) :
    (configWire messageType deviceId payload).length = 24 + payload.length := by
  have hid := length_configDeviceField hl
  simp only [configWire, List.length_append, length_u16Bytes, hid, configHeader,
    List.length_cons, List.length_nil]
  omega

theorem noahDeviceId_configWire (ht : messageType < 65536) (ha : IsAscii deviceId)
    (hl : deviceId.length ≤ 16) (hlast : ∀ c ∈ deviceId.getLast?, c ≠ nul) (payload r : Bytes) :
    noahDeviceId (configWire messageType deviceId payload ++ r) = deviceId := by
  have hlong : ¬ (configWire messageType deviceId payload ++ r).length < 24 := by
    rw [List.length_append, length_configWire hl]
    omega
  obtain ⟨-, hfield, -⟩ := read_configWire ht hl payload r
  rw [noahDeviceId, if_neg hlong, hfield, decodeReplace_rstripNul_ljustNul ha hlast]

theorem configWriteType_lt : configWriteType < 65536 := by decide

theorem configReadType_lt : configReadType < 65536 := by decide

/-- The record of a configuration write. -/
def configWrite (deviceId : PyStr) (registerNo : ℕ) (value : PyStr) : ConfigWriteCommand where
  deviceId
  configType := 1
  tlvLength := value.length + 4
  register := registerNo
  valueLength := value.length
  value
  valueEncoding := .ascii

/-- What follows the device field of a configuration write. -/
def configWritePayload (registerNo : ℕ) (value : PyStr) : Bytes :=
  List.replicate 14 0 ++ (u16Bytes 1 ++ (u16Bytes (value.length + 4) ++ (u16Bytes registerNo ++
    (u16Bytes value.length ++ asciiBytes value))))

/-- What follows the device field of a configuration read. -/
def configReadPayload (registerNo : ℕ) : Bytes :=
  List.replicate 14 0 ++ (u16Bytes 1 ++ u16Bytes registerNo)

variable {registerNo : ℕ} {value : PyStr}

theorem length_configWritePayload (registerNo : ℕ) (value : PyStr) :
    (configWritePayload registerNo value).length = value.length + 22 := by
  simp only [configWritePayload, List.length_append, List.length_replicate, length_u16Bytes,
    length_asciiBytes]
  omega

theorem buildConfigWritePacket_ok (ha : IsAscii deviceId) (hl : deviceId.length ≤ 16)
    (hr : registerNo < 65536) (hv : IsAscii value) (hvl : value.length ≤ 65495) :
    buildConfigWritePacket checksum deviceId registerNo value =
      .ok (appendCrc checksum (scramble (configWire configWriteType deviceId
        (configWritePayload registerNo value)))) := by
  have hreg : ¬ ¬ registerNo ≤ 0xFFFF := by omega
  have hlong : ¬ (asciiBytes value).length > 0xFFFF - 40 := by
    rw [length_asciiBytes]
    omega
  have hpayload := length_configWritePayload registerNo value
  rw [buildConfigWritePacket, if_neg hreg, encodeAscii_ok hv]
  rw [ok_bind, if_neg hlong, length_asciiBytes, packU16_ok (by decide), packU16_ok (by omega),
    packU16_ok hr, packU16_ok (by omega)]
  simp only [ok_bind, List.append_assoc]
  have hfit : (configWritePayload registerNo value).length ≤ 65517 := by omega
  exact finalizeConfigPacket_ok ha hl configWriteType_lt hfit

theorem buildConfigReadPacket_ok (ha : IsAscii deviceId) (hl : deviceId.length ≤ 16)
    (hr : registerNo < 65536) :
    buildConfigReadPacket checksum deviceId registerNo =
      .ok (appendCrc checksum (scramble (configWire configReadType deviceId
        (configReadPayload registerNo)))) := by
  have hreg : ¬ ¬ registerNo ≤ 0xFFFF := by omega
  rw [buildConfigReadPacket, if_neg hreg, packU16_ok (by decide), packU16_ok hr]
  have hfit : (configReadPayload registerNo).length ≤ 65517 := by
    show 18 ≤ 65517
    decide
  exact finalizeConfigPacket_ok ha hl configReadType_lt hfit

/-- The TLV of a configuration write, read at offset 38 of the packet. -/
theorem drop_configWire_write (hl : deviceId.length ≤ 16) (registerNo : ℕ) (value : PyStr)
    (r : Bytes) :
    (configWire configWriteType deviceId (configWritePayload registerNo value) ++ r).drop 38 =
      u16Bytes 1 ++ (u16Bytes (value.length + 4) ++ (u16Bytes registerNo ++
        (u16Bytes value.length ++ (asciiBytes value ++ r)))) := by
  obtain ⟨-, -, hdrop⟩ := read_configWire configWriteType_lt hl
    (configWritePayload registerNo value) r
  have hsplit : 38 = 24 + 14 := rfl
  rw [hsplit, ← List.drop_drop, hdrop]
  simp only [configWritePayload, List.append_assoc]
  exact List.drop_left' List.length_replicate

/-- The bytes of a configuration write with a two-byte trailer decode to what
was written. -/
theorem decode0118_configWire (ha : IsAscii deviceId) (hl : deviceId.length ≤ 16)
    (hlast : ∀ c ∈ deviceId.getLast?, c ≠ nul) (hr : registerNo < 65536) (hv : IsAscii value)
    (hvl : value.length ≤ 65495) {t : Bytes} (ht : t.length = 2) :
    decode0118 (configWire configWriteType deviceId (configWritePayload registerNo value) ++ t)
      = some (configWrite deviceId registerNo value) := by
  -- everything is read from offset 38, where the TLV starts
  have htlv := drop_configWire_write hl registerNo value t
  set data := configWire configWriteType deviceId (configWritePayload registerNo value) ++ t
    with hdata
  obtain ⟨htype, -, -⟩ := read_configWire configWriteType_lt hl
    (configWritePayload registerNo value) t
  rw [← hdata] at htype
  have hlen : data.length = value.length + 48 := by
    rw [hdata, List.length_append, length_configWire hl, length_configWritePayload, ht]
    omega
  have h38 : u16At data 38 = 1 := by
    rw [← u16At_drop data 38 0, htlv]
    exact u16At_u16Bytes (by decide) _
  have h40 : u16At data (38 + 2) = value.length + 4 := by
    rw [← u16At_drop data 38 2, htlv, u16At_u16Bytes_skip _ _ 0]
    exact u16At_u16Bytes (by omega) _
  have h42 : u16At data (38 + 4) = registerNo := by
    rw [← u16At_drop data 38 4, htlv, u16At_u16Bytes_skip _ _ 2, u16At_u16Bytes_skip _ _ 0]
    exact u16At_u16Bytes hr _
  have h44 : u16At data (38 + 6) = value.length := by
    rw [← u16At_drop data 38 6, htlv, u16At_u16Bytes_skip _ _ 4, u16At_u16Bytes_skip _ _ 2,
      u16At_u16Bytes_skip _ _ 0]
    exact u16At_u16Bytes (by omega) _
  have hvalue : slice data (38 + 8) (38 + 8 + value.length) = asciiBytes value := by
    rw [Nat.add_assoc 38, ← slice_drop, htlv]
    simp only [← List.append_assoc]
    rw [List.append_assoc]
    exact slice_append_mid _ _ _ rfl (by rw [length_asciiBytes]; rfl)
  have hid : noahDeviceId data = deviceId :=
    noahDeviceId_configWire (by decide) ha hl hlast _ _
  have htype' : u16At data 6 = 0x0118 := htype
  rw [decode0118, if_neg (by omega), if_neg (by omega)]
  simp only [h38, h40, h42, h44, hvalue, decodeAscii_asciiBytes hv, hid]
  rw [if_neg (by omega)]
  rfl

/-- **Configuration writes decode to themselves.** -/
theorem decode0118_write (ha : IsAscii deviceId) (hl : deviceId.length ≤ 16)
    (hlast : ∀ c ∈ deviceId.getLast?, c ≠ nul) (hr : registerNo < 65536) (hv : IsAscii value)
    (hvl : value.length ≤ 65495) :
    ∃ p, buildConfigWritePacket checksum deviceId registerNo value = .ok p ∧
      decode0118 (unscramble p) = some (configWrite deviceId registerNo value) := by
  refine ⟨_, buildConfigWritePacket_ok ha hl hr hv hvl, ?_⟩
  have hlong : 8 ≤ (configWire configWriteType deviceId
      (configWritePayload registerNo value)).length := by
    rw [length_configWire hl]
    omega
  obtain ⟨t, ht, he⟩ := unscramble_appendCrc checksum hlong
  rw [he, decode0118_configWire ha hl hlast hr hv hvl ht]

/-- **Configuration reads ask for their register**: the cloud-to-device path
reads back the register the packet was built for. -/
theorem cloudRegister_read (ha : IsAscii deviceId) (hl : deviceId.length ≤ 16)
    (hr : registerNo < 65536) :
    ∃ p, buildConfigReadPacket checksum deviceId registerNo = .ok p ∧
      cloudRegister (unscramble p) = some registerNo := by
  refine ⟨_, buildConfigReadPacket_ok ha hl hr, ?_⟩
  have hlen : (configWire configReadType deviceId (configReadPayload registerNo)).length = 42 :=
    length_configWire hl _
  obtain ⟨t, ht, he⟩ := unscramble_appendCrc checksum (hlen ▸ (by decide : 8 ≤ 42))
  obtain ⟨htype, -, hdrop⟩ := read_configWire configReadType_lt hl
    (configReadPayload registerNo) t
  have hreg : u16At (configWire configReadType deviceId (configReadPayload registerNo) ++ t) 40
      = registerNo := by
    rw [show 40 = 24 + 16 from rfl, ← u16At_drop, hdrop, configReadPayload, List.append_assoc,
      List.append_assoc, show 16 = 14 + 2 from rfl, u16At_skip List.length_replicate,
      u16At_u16Bytes_skip _ _ 0]
    exact u16At_u16Bytes hr t
  rw [he, cloudRegister, if_pos, hreg]
  refine ⟨htype, ?_⟩
  rw [List.length_append, hlen]
  omega

end Config

/-! ### Every command decodes to itself -/

/-- A register command and what the parser makes of its bytes, bare and after
the mask, the checksum and the mask again. -/
theorem GrowattModbusFunctionSingle.WellFormed.round_trip (checksum : Bytes → UInt16)
    {c : GrowattModbusFunctionSingle} (h : c.WellFormed) :
    ∃ b, c.buildGrobro = .ok b ∧ parseGrobro b = some c ∧
      parseGrobro (unscramble (appendCrc checksum (scramble b))) = some c := by
  have hlen := h.length_wire
  have hsize : modbusCommandSize = 42 := rfl
  obtain ⟨t, ht, he⟩ := unscramble_appendCrc checksum (a := c.wire) (by omega)
  refine ⟨c.wire, h.buildGrobro_eq, ?_, ?_⟩
  · have hbare := h.parseGrobro_wire (r := []) (Or.inl rfl)
    rwa [List.append_nil] at hbare
  · rw [he]
    exact h.parseGrobro_wire (Or.inr ht)

theorem GrowattModbusFunctionMultiple.WellFormed.round_trip (checksum : Bytes → UInt16)
    {c : GrowattModbusFunctionMultiple} (h : c.WellFormed) :
    ∃ b, c.buildGrobro = .ok b ∧
      (unpackCommandHeader b).map Prod.snd = some (c.values.length + 42) ∧
      parseGrobro b = some c ∧
      parseGrobro (unscramble (appendCrc checksum (scramble b))) = some c := by
  have hlen := h.length_wire
  have hsize : modbusCommandSize = 42 := rfl
  obtain ⟨t, ht, he⟩ := unscramble_appendCrc checksum (a := c.wire) (by omega)
  refine ⟨c.wire, h.buildGrobro_eq, ?_, ?_, ?_⟩
  · have hu := h.unpackCommandHeader_wire (r := []) (Or.inl rfl)
    rw [List.append_nil] at hu
    rw [hu]
    rfl
  · have hbare := h.parseGrobro_wire (r := []) (Or.inl rfl)
    rwa [List.append_nil] at hbare
  · rw [he]
    exact h.parseGrobro_wire (Or.inr ht)

/-- **Every command put on the wire decodes to itself**, whatever the checksum:
single and multiple register commands in both directions, configuration writes
and configuration reads. -/
theorem command_round_trip (checksum : Bytes → UInt16) :
    (∀ c : GrowattModbusFunctionSingle, c.WellFormed → ∃ b, c.buildGrobro = .ok b ∧
      GrowattModbusFunctionSingle.parseGrobro b = some c ∧
      GrowattModbusFunctionSingle.parseGrobro
        (unscramble (appendCrc checksum (scramble b))) = some c) ∧
    (∀ b c, GrowattModbusFunctionSingle.parseGrobro b = some c →
      IsPaddedId 30 (slice b 8 38) → c.buildGrobro = .ok (b.take 42)) ∧
    (∀ c : GrowattModbusFunctionMultiple, c.WellFormed → ∃ b, c.buildGrobro = .ok b ∧
      (unpackCommandHeader b).map Prod.snd = some (c.values.length + 42) ∧
      GrowattModbusFunctionMultiple.parseGrobro b = some c ∧
      GrowattModbusFunctionMultiple.parseGrobro
        (unscramble (appendCrc checksum (scramble b))) = some c) ∧
    (∀ b c, GrowattModbusFunctionMultiple.parseGrobro b = some c →
      IsPaddedId 30 (slice b 8 38) →
      (unpackCommandHeader b).map Prod.snd = some (c.values.length + 42) ∧
      c.buildGrobro = .ok (b.take (c.values.length + 42))) ∧
    (∀ deviceId registerNo value, IsAscii deviceId → deviceId.length ≤ 16 →
      (∀ c ∈ deviceId.getLast?, c ≠ nul) → registerNo < 65536 →
      IsAscii value → value.length ≤ 65495 →
      ∃ p, buildConfigWritePacket checksum deviceId registerNo value = .ok p ∧
        decode0118 (unscramble p) = some (configWrite deviceId registerNo value)) ∧
    (∀ deviceId registerNo, IsAscii deviceId → deviceId.length ≤ 16 → registerNo < 65536 →
      ∃ p, buildConfigReadPacket checksum deviceId registerNo = .ok p ∧
        cloudRegister (unscramble p) = some registerNo) := by
  refine ⟨?_, ?_, ?_, ?_, ?_, ?_⟩
  · intro c h
    exact h.round_trip checksum
  · intro b c h hid
    exact GrowattModbusFunctionSingle.buildGrobro_of_parse h hid
  · intro c h
    exact h.round_trip checksum
  · intro b c h hid
    exact ⟨GrowattModbusFunctionMultiple.coreLength_of_parse h,
      GrowattModbusFunctionMultiple.buildGrobro_of_parse h hid⟩
  · intro deviceId registerNo value ha hl hlast hr hv hvl
    exact decode0118_write ha hl hlast hr hv hvl
  · intro deviceId registerNo ha hl hr
    exact cloudRegister_read ha hl hr

/-- The time is written, under a checksum that is the packet's length. -/
theorem command_round_trip_clock :
    let value := "2026-01-31 12:30:00".toList
    ∃ p, buildConfigWritePacket (fun b => UInt16.ofNat b.length) ['Q', 'M'] 31 value = .ok p ∧
      decode0118 (unscramble p) = some (configWrite ['Q', 'M'] 31 value) := by
  intro value
  obtain ⟨-, -, -, -, hwrite, -⟩ := command_round_trip fun b => UInt16.ofNat b.length
  exact hwrite ['Q', 'M'] 31 value (by decide) (by decide) (by simp [nul]) (by decide) (by decide)
    (by decide)

end GroBro
