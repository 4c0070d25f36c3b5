/-
GroBro/ModbusRoundTrip.lean

Building a Modbus message and parsing it back, in both orders.

`Buildable` collects the range checks that `struct.pack`, the ASCII codec and
the fixed-size id field make; under it `build_grobro` returns the concatenation
`wire` of the message's parts (`buildGrobro_eq`).  Everything else is about
`wire`:

* a well-formed message followed by any two trailer bytes parses back to itself;
* an accepted buffer whose fields are canonical is the `wire` of its message,
  followed by the trailer.
-/
import GroBro.ModbusGrammar

namespace GroBro

open ByteCodec Framing

/-! ### The bytes of a message -/

/-- The seven timestamp bytes. -/
def DateTime.wire (t : DateTime) : Bytes :=
  u8Bytes (t.year - 2000) ++ u8Bytes t.month ++ u8Bytes t.day ++ u8Bytes t.hour ++
    u8Bytes t.minute ++ u8Bytes t.second ++ u8Bytes (t.microsecond / 1000)

def GrowattMetadata.wire (metadata : GrowattMetadata) : Bytes :=
  idField metadata.deviceSn ++ metadata.timestamp.elim [] DateTime.wire

def GrowattModbusWriteAck.wire (ack : GrowattModbusWriteAck) : Bytes :=
  u16Bytes ack.registerNo ++ (u8Bytes ack.status ++ u16Bytes ack.value)

/-- The part of a message after the header. -/
def GrowattModbusMessage.payloadWire (m : GrowattModbusMessage) : Bytes :=
  m.metadata.elim [] GrowattMetadata.wire ++
    (blockFormat.encodeAll m.registerBlocks ++ m.writeAck.elim [] GrowattModbusWriteAck.wire)

/-- The 38-byte header. -/
def GrowattModbusMessage.headerWire (m : GrowattModbusMessage) : Bytes :=
  u16Bytes m.unknown ++ (u16Bytes 7 ++ (u16Bytes m.msgLen ++
    (u8Bytes 1 ++ (u8Bytes m.function.value ++ idField m.deviceId))))

def GrowattModbusMessage.wire (m : GrowattModbusMessage) : Bytes := m.headerWire ++ m.payloadWire

/-! ### When building succeeds -/

/-- The timestamp and id of the metadata fit their fields. -/
structure GrowattMetadata.Buildable (metadata : GrowattMetadata) : Prop where
  ascii : IsAscii metadata.deviceSn
  idLength : metadata.deviceSn.length ≤ 30
  timestamp : ∃ t, metadata.timestamp = some t ∧ 2000 ≤ t.year ∧ t.year ≤ 2255 ∧
    t.microsecond / 1000 ≤ 255

/-- Every field of the acknowledgement fits its width. -/
structure GrowattModbusWriteAck.Buildable (ack : GrowattModbusWriteAck) : Prop where
  registerNo : ack.registerNo < 65536
  status : ack.status < 256
  value : ack.value < 65536

/-- Every field of the message fits its width. -/
structure GrowattModbusMessage.Buildable (m : GrowattModbusMessage) : Prop where
  unknown : m.unknown < 65536
  ascii : IsAscii m.deviceId
  idLength : m.deviceId.length ≤ 30
  msgLen : m.msgLen < 65536
  metadata : ∀ metadata ∈ m.metadata, metadata.Buildable
  blocks : ∀ block ∈ m.registerBlocks, block.OnWire
  writeAck : ∀ ack ∈ m.writeAck, ack.Buildable

theorem daysInMonth_le (year month : ℕ) : daysInMonth year month ≤ 31 := by
  unfold daysInMonth
  split_ifs <;> omega

theorem GrowattMetadata.Buildable.buildGrobro_eq {metadata : GrowattMetadata}
    (h : metadata.Buildable) : metadata.buildGrobro = .ok metadata.wire := by
  obtain ⟨t, ht, hlow, hhigh, hms⟩ := h.timestamp
  obtain ⟨-, -, -, hmonth, -, hday, hhour, hminute, hsecond, -⟩ := t.valid
  have hday' : t.day ≤ 31 := hday.trans (daysInMonth_le t.year t.month)
  unfold GrowattMetadata.buildGrobro GrowattMetadata.wire
  rw [ht, encodeModbusDeviceId_ok h.ascii h.idLength]
  simp only [ok_bind, if_neg (Nat.not_lt.mpr hlow)]
  rw [packU8_ok (by omega), packU8_ok (by omega), packU8_ok (by omega), packU8_ok (by omega),
    packU8_ok (by omega), packU8_ok (by omega), packU8_ok (by omega)]
  simp [DateTime.wire]

theorem GrowattModbusWriteAck.Buildable.buildGrobro_eq {ack : GrowattModbusWriteAck}
    (h : ack.Buildable) : ack.buildGrobro = .ok ack.wire := by
  unfold GrowattModbusWriteAck.buildGrobro GrowattModbusWriteAck.wire
  rw [packU16_ok h.registerNo, packU8_ok h.status, packU16_ok h.value]
  simp

theorem GrowattModbusBlock.OnWire.buildGrobro_eq {block : GrowattModbusBlock}
    (h : block.OnWire) : block.buildGrobro = .ok block.wire := by
  have hle := h.start_le
  have hlt := h.end_lt
  unfold GrowattModbusBlock.buildGrobro GrowattModbusBlock.wire
  rw [packU16_ok (by omega), packU16_ok hlt]
  simp

theorem GrowattModbusMessage.buildEach_ok {α : Type*} {build : α → Except PyError Bytes}
    (bytes : α → Bytes) {as : List α} (h : ∀ a ∈ as, build a = .ok (bytes a)) :
    buildEach build as = .ok (as.flatMap bytes) := by
  induction as with
  | nil => rfl
  | cons a as ih =>
      have ha := h a List.mem_cons_self
      have has := ih fun a' h' => h a' (List.mem_cons_of_mem _ h')
      rw [buildEach, ha, has]
      rfl

/-- Building a message whose fields fit writes its parts one after the other. -/
theorem GrowattModbusMessage.buildGrobro_eq {m : GrowattModbusMessage} (h : m.Buildable) :
    m.buildGrobro = .ok m.wire := by
  have hmeta : buildEach GrowattMetadata.buildGrobro m.metadata.toList
      = .ok (m.metadata.elim [] GrowattMetadata.wire) := by
    rw [buildEach_ok GrowattMetadata.wire]
    · cases m.metadata <;> simp
    · intro metadata hm
      exact (h.metadata metadata (by simpa using hm)).buildGrobro_eq
  have hack : buildEach GrowattModbusWriteAck.buildGrobro m.writeAck.toList
      = .ok (m.writeAck.elim [] GrowattModbusWriteAck.wire) := by
    rw [buildEach_ok GrowattModbusWriteAck.wire]
    · cases m.writeAck <;> simp
    · intro ack ha
      exact (h.writeAck ack (by simpa using ha)).buildGrobro_eq
  have hblocks : buildEach GrowattModbusBlock.buildGrobro m.registerBlocks
      = .ok (blockFormat.encodeAll m.registerBlocks) :=
    buildEach_ok GrowattModbusBlock.wire fun block hb => (h.blocks block hb).buildGrobro_eq
  have hfunction := m.function.value_lt
  unfold GrowattModbusMessage.buildGrobro
  rw [encodeModbusDeviceId_ok h.ascii h.idLength, packU16_ok h.unknown, packU16_ok (by decide),
    packU16_ok h.msgLen, packU8_ok (by decide), packU8_ok hfunction, hmeta, hblocks, hack]
  simp [wire, headerWire, payloadWire]

/-! ### Lengths -/

theorem GrowattMetadata.Buildable.length_wire {metadata : GrowattMetadata}
    (h : metadata.Buildable) : metadata.wire.length = metadataSize := by
  obtain ⟨t, ht, -⟩ := h.timestamp
  rw [GrowattMetadata.wire, ht, List.length_append, length_idField h.idLength]
  rfl

theorem GrowattModbusWriteAck.length_wire (ack : GrowattModbusWriteAck) :
    ack.wire.length = writeSingleAckSize := rfl

theorem length_encodeAll_blocks (blocks : List GrowattModbusBlock) :
    (blockFormat.encodeAll blocks).length = (blocks.map GrowattModbusBlock.size).sum := by
  induction blocks with
  | nil => rfl
  | cons block blocks ih =>
      rw [Format.encodeAll_cons, List.length_append, ih, List.map_cons, List.sum_cons]
      congr 1
      exact block.length_wire

theorem GrowattModbusMessage.length_headerWire {m : GrowattModbusMessage}
    (h : m.deviceId.length ≤ 30) : m.headerWire.length = headerSize := by
  simp [headerWire, length_idField h, headerSize]

/-- The length field counts the bytes from the address on. -/
theorem GrowattModbusMessage.msgLen_eq {m : GrowattModbusMessage}
    (h : ∀ metadata ∈ m.metadata, metadata.Buildable) :
    m.msgLen = 32 + m.payloadWire.length := by
  have hmeta : (m.metadata.elim [] GrowattMetadata.wire).length
      = m.metadata.elim 0 GrowattMetadata.size := by
    cases hm : m.metadata with
    | none => rfl
    | some metadata => exact (h metadata hm).length_wire
  have hack : (m.writeAck.elim [] GrowattModbusWriteAck.wire).length
      = m.writeAck.elim 0 GrowattModbusWriteAck.size := by
    cases m.writeAck <;> rfl
  rw [payloadWire, List.length_append, List.length_append, hmeta, hack,
    length_encodeAll_blocks, GrowattModbusMessage.msgLen]
  omega

/-! ### Reading the parts back -/

theorem decodeWriteAck_wire {ack : GrowattModbusWriteAck} (h : ack.Buildable) (r : Bytes) :
    decodeWriteAck (ack.wire ++ r) = ack := by
  have hw : ack.wire ++ r
      = u16Bytes ack.registerNo ++ (u8Bytes ack.status ++ (u16Bytes ack.value ++ r)) := by
    simp [GrowattModbusWriteAck.wire]
  have hreg : u16At (ack.wire ++ r) 0 = ack.registerNo := by
    rw [hw]
    exact u16At_u16Bytes h.registerNo _
  have hstatus : u8At (ack.wire ++ r) 2 = ack.status := by
    rw [hw]
    exact u8At_mid _ _ h.status rfl
  have hvalue : u16At (ack.wire ++ r) 3 = ack.value := by
    rw [hw, ← List.append_assoc]
    exact u16At_mid _ _ h.value rfl
  rw [decodeWriteAck, hreg, hstatus, hvalue]

/-- The timestamp bytes are the date they encode. -/
theorem DateTime.make_wire (t : DateTime) (hlow : 2000 ≤ t.year) (hhigh : t.year ≤ 2255)
    (hms : 1000 ∣ t.microsecond) (hms' : t.microsecond / 1000 ≤ 255) (r : Bytes) :
    DateTime.make (u8At (t.wire ++ r) 0 + 2000) (u8At (t.wire ++ r) 1) (u8At (t.wire ++ r) 2)
      (u8At (t.wire ++ r) 3) (u8At (t.wire ++ r) 4) (u8At (t.wire ++ r) 5)
      (u8At (t.wire ++ r) 6 * 1000) = .ok t := by
  obtain ⟨-, -, -, hmonth, -, hday, hhour, hminute, hsecond, -⟩ := t.valid
  have hday' : t.day ≤ 31 := hday.trans (daysInMonth_le t.year t.month)
  have hbyte : ∀ n, n < 256 → (UInt8.ofNat n).toNat = n := by
    intro n hn
    simp only [UInt8.toNat_ofNat']
    omega
  have h0 : u8At (t.wire ++ r) 0 + 2000 = t.year := by
    show (UInt8.ofNat (t.year - 2000)).toNat + 2000 = t.year
    rw [hbyte _ (by omega)]
    omega
  have h1 : u8At (t.wire ++ r) 1 = t.month := hbyte _ (by omega)
  have h2 : u8At (t.wire ++ r) 2 = t.day := hbyte _ (by omega)
  have h3 : u8At (t.wire ++ r) 3 = t.hour := hbyte _ (by omega)
  have h4 : u8At (t.wire ++ r) 4 = t.minute := hbyte _ (by omega)
  have h5 : u8At (t.wire ++ r) 5 = t.second := hbyte _ (by omega)
  have h6 : u8At (t.wire ++ r) 6 * 1000 = t.microsecond := by
    show (UInt8.ofNat (t.microsecond / 1000)).toNat * 1000 = t.microsecond
    rw [hbyte _ (by omega)]
    exact Nat.div_mul_cancel hms
  rw [h0, h1, h2, h3, h4, h5, h6, DateTime.make, dif_pos t.valid]

/-! ### Well-formed messages -/

/-- Metadata that the wire format can carry without loss. -/
structure GrowattMetadata.WellFormed (metadata : GrowattMetadata) : Prop where
  ascii : IsAscii metadata.deviceSn
  idLength : metadata.deviceSn.length ≤ 30
  trimmed : NulTrimmed metadata.deviceSn
  timestamp : ∃ t, metadata.timestamp = some t ∧ 2000 ≤ t.year ∧ t.year ≤ 2255 ∧
    1000 ∣ t.microsecond ∧ t.microsecond / 1000 ≤ 255

/-- A message that the wire format can carry without loss. -/
structure GrowattModbusMessage.WellFormed (m : GrowattModbusMessage) : Prop where
  unknown : m.unknown < 65536
  ascii : IsAscii m.deviceId
  idLength : m.deviceId.length ≤ 30
  trimmed : NulTrimmed m.deviceId
  msgLen : m.msgLen ≤ 65535
  metadata_iff : m.metadata.isSome ↔ m.function = .readInputRegister
  metadata : ∀ metadata ∈ m.metadata, metadata.WellFormed
  writeAck_iff : m.writeAck.isSome ↔ m.function = .presetSingleRegister
  writeAck : ∀ ack ∈ m.writeAck, ack.Buildable
  blocks_nil : m.function = .presetSingleRegister → m.registerBlocks = []
  blocks : ∀ block ∈ m.registerBlocks, block.OnWire

theorem GrowattMetadata.WellFormed.buildable {metadata : GrowattMetadata}
    (h : metadata.WellFormed) : metadata.Buildable := by
  obtain ⟨t, ht, hlow, hhigh, -, hms⟩ := h.timestamp
  exact ⟨h.ascii, h.idLength, t, ht, hlow, hhigh, hms⟩

theorem GrowattModbusMessage.WellFormed.buildable {m : GrowattModbusMessage}
    (h : m.WellFormed) : m.Buildable where
  unknown := h.unknown
  ascii := h.ascii
  idLength := h.idLength
  msgLen := Nat.lt_succ_of_le h.msgLen
  metadata := fun metadata hm => (h.metadata metadata hm).buildable
  blocks := h.blocks
  writeAck := h.writeAck

theorem decodeMetadata_wire {metadata : GrowattMetadata} (h : metadata.WellFormed) (r : Bytes) :
    decodeMetadata (metadata.wire ++ r) = metadata := by
  obtain ⟨t, ht, hlow, hhigh, hdvd, hms⟩ := h.timestamp
  have hid := length_idField h.idLength
  have hw : metadata.wire ++ r = idField metadata.deviceSn ++ (t.wire ++ r) := by
    rw [GrowattMetadata.wire, ht, List.append_assoc]
    rfl
  have hserial : slice (metadata.wire ++ r) 0 30 = idField metadata.deviceSn := by
    rw [hw, slice_zero, ← hid, List.take_left]
  have hbyte : ∀ k, u8At (metadata.wire ++ r) (30 + k) = u8At (t.wire ++ r) k := by
    intro k
    rw [hw, ← hid, u8At_append_right]
  -- the serial and the seven bytes of the timestamp
  unfold decodeMetadata
  rw [hserial, hbyte 0, hbyte 1, hbyte 2, hbyte 3, hbyte 4, hbyte 5, hbyte 6,
    t.make_wire hlow hhigh hdvd hms, idField,
    stripNul_decodeIgnore_ljustNul h.ascii h.trimmed]
  cases metadata
  simp_all [Except.toOption]

/-! ### Build, then parse -/

/-- The header fields of a message followed by anything. -/
theorem GrowattModbusMessage.Buildable.read_header {m : GrowattModbusMessage} (h : m.Buildable)
    (r : Bytes) :
    u16At (m.headerWire ++ r) 0 = m.unknown ∧ u16At (m.headerWire ++ r) 2 = 7 ∧
      u16At (m.headerWire ++ r) 4 = m.msgLen ∧ u8At (m.headerWire ++ r) 7 = m.function.value ∧
      slice (m.headerWire ++ r) 8 38 = idField m.deviceId := by
  set id := idField m.deviceId with hidDef
  have hid : id.length = 30 := length_idField h.idLength
  have hw : m.headerWire ++ r = u16Bytes m.unknown ++ (u16Bytes 7 ++ (u16Bytes m.msgLen ++
      (u8Bytes 1 ++ (u8Bytes m.function.value ++ (id ++ r))))) := by
    simp [headerWire, hidDef]
  rw [hw]
  refine ⟨u16At_u16Bytes h.unknown _, u16At_mid _ _ (by decide) rfl, ?_, ?_, ?_⟩
  · rw [← List.append_assoc (u16Bytes m.unknown)]
    exact u16At_mid _ _ h.msgLen rfl
  · rw [← List.append_assoc (u16Bytes m.unknown), ← List.append_assoc,
      ← List.append_assoc]
    exact u8At_mid _ _ m.function.value_lt rfl
  · rw [← List.append_assoc (u16Bytes m.unknown), ← List.append_assoc,
      ← List.append_assoc, ← List.append_assoc]
    exact slice_append_mid _ _ _ rfl (by rw [hid]; rfl)

/-- A well-formed message is read back from its bytes, whatever the trailer. -/
theorem decodeMessage_wire {m : GrowattModbusMessage} (h : m.WellFormed) {t : Bytes}
    (ht : t.length = trailerSize) : decodeMessage (m.wire ++ t) = some m := by
  have hb := h.buildable
  have hhead : m.headerWire.length = headerSize := m.length_headerWire h.idLength
  have hsplit : m.wire ++ t = m.headerWire ++ (m.payloadWire ++ t) := by
    rw [GrowattModbusMessage.wire, List.append_assoc]
  have hlen : (m.wire ++ t).length = 40 + m.payloadWire.length := by
    rw [hsplit, List.length_append, hhead, List.length_append, ht, headerSize, trailerSize]
    omega
  have hdrop : (m.wire ++ t).drop headerSize = m.payloadWire ++ t := by
    rw [hsplit, ← hhead, List.drop_left]
  -- the header passes the checks of the parser, whatever follows it
  obtain ⟨hunknown, hconst, hmsg, hfunction, hid⟩ := hb.read_header (m.payloadWire ++ t)
  rw [← hsplit] at hunknown hconst hmsg hfunction hid
  have hmsgLen := GrowattModbusMessage.msgLen_eq hb.metadata
  have hsize : headerSize = 38 := rfl
  unfold decodeMessage
  rw [hunknown, hconst, hmsg, hfunction, hid, idField,
    stripNul_decodeIgnore_ljustNul h.ascii h.trimmed, if_neg (by omega),
    if_neg (not_not.mpr rfl), if_neg (by omega), ← List.drop_drop, hdrop]
  simp only [GrowattModbusFunction.ofValue?_value, Option.bind_some]
  have htrailer : blockFormat.decode t = none :=
    decodeBlock_of_short (by rw [ht]; decide)
  by_cases hin : m.function = .readInputRegister
  · -- metadata, then blocks
    obtain ⟨metadata, hmeta⟩ := Option.isSome_iff_exists.mp (h.metadata_iff.mpr hin)
    have hack : m.writeAck = none := by
      by_contra hne
      have hf := h.writeAck_iff.mp (Option.isSome_iff_ne_none.mpr hne)
      rw [hin] at hf
      cases hf
    have hwf := h.metadata metadata hmeta
    have hml := hwf.buildable.length_wire
    have hpay : m.payloadWire ++ t
        = metadata.wire ++ (blockFormat.encodeAll m.registerBlocks ++ t) := by
      simp [GrowattModbusMessage.payloadWire, hmeta, hack]
    have hscan := blockFormat.scan_append h.blocks htrailer
    rw [if_pos hin, hpay, decodeMetadata_wire hwf,
      if_neg (by rw [List.length_append]; omega), ← hml, List.drop_left, decodePayload,
      if_neg (by rw [hin]; decide), hscan]
    dsimp only
    rw [if_pos (Or.inr ht)]
    cases m
    simp_all
  · have hmeta : m.metadata = none := by
      by_contra hne
      exact hin (h.metadata_iff.mp (Option.isSome_iff_ne_none.mpr hne))
    rw [if_neg hin, decodePayload]
    by_cases hset : m.function = .presetSingleRegister
    · -- an acknowledgement and nothing else
      obtain ⟨ack, hack⟩ := Option.isSome_iff_exists.mp (h.writeAck_iff.mpr hset)
      have hblocks := h.blocks_nil hset
      have hpay : m.payloadWire ++ t = ack.wire ++ t := by
        simp [GrowattModbusMessage.payloadWire, hmeta, hack, hblocks]
      have hack7 : (ack.wire ++ t).length = writeSingleAckSize + trailerSize := by
        rw [List.length_append, ack.length_wire, ht]
      rw [if_pos hset, hpay, if_pos (Or.inr hack7), decodeWriteAck_wire (h.writeAck ack hack)]
      cases m
      simp_all
    · -- blocks only
      have hack : m.writeAck = none := by
        by_contra hne
        exact hset (h.writeAck_iff.mp (Option.isSome_iff_ne_none.mpr hne))
      have hpay : m.payloadWire ++ t = blockFormat.encodeAll m.registerBlocks ++ t := by
        simp [GrowattModbusMessage.payloadWire, hmeta, hack]
      have hscan := blockFormat.scan_append h.blocks htrailer
      rw [if_neg hset, hpay, hscan]
      dsimp only
      rw [if_pos (Or.inr ht)]
      cases m
      simp_all

/-- **Round trip**: a well-formed message builds, and its bytes followed by any
two trailer bytes parse to the same message. -/
theorem GrowattModbusMessage.parseGrobro_buildGrobro (m : GrowattModbusMessage)
    (h : m.WellFormed) (t : Bytes) (ht : t.length = 2) :
    ∃ b, m.buildGrobro = .ok b ∧ GrowattModbusMessage.parseGrobro (b ++ t) = .ok (some m) := by
  refine ⟨m.wire, GrowattModbusMessage.buildGrobro_eq h.buildable, ?_⟩
  rw [GrowattModbusMessage.parseGrobro_eq, decodeMessage_wire h ht]

/-- An input-register message with two blocks, the second of one register. -/
def twoBlockMessage : GrowattModbusMessage where
  unknown := 1
  deviceId := ['Q', 'M', 'N']
  metadata := some
    { deviceSn := ['S', 'N']
      timestamp := some ⟨2024, 2, 29, 23, 59, 58, 255000, by decide⟩ }
  function := .readInputRegister
  registerBlocks := [⟨3000, 3001, [1, 2, 3, 4]⟩, ⟨7, 7, [5, 6]⟩]

theorem twoBlockMessage_wellFormed : twoBlockMessage.WellFormed := by
  refine ⟨by decide, by decide, by decide, by decide, by decide, by decide, ?_, by decide,
    by simp [twoBlockMessage], by decide, ?_⟩
  · intro metadata hm
    obtain rfl := Option.mem_some_iff.mp hm
    exact ⟨by decide, by decide, by decide, _, rfl, by decide, by decide, by decide, by decide⟩
  · intro block hb
    rcases List.mem_cons.mp hb with rfl | hb
    · exact ⟨by decide, by decide, rfl⟩
    · obtain rfl := List.mem_singleton.mp hb
      exact ⟨by decide, by decide, rfl⟩

theorem GrowattModbusMessage.parseGrobro_buildGrobro_twoBlocks :
    ∃ b, twoBlockMessage.buildGrobro = .ok b ∧
      GrowattModbusMessage.parseGrobro (b ++ [0xAB, 0xCD]) = .ok (some twoBlockMessage) :=
  GrowattModbusMessage.parseGrobro_buildGrobro twoBlockMessage twoBlockMessage_wellFormed
    [0xAB, 0xCD] rfl

/-! ### Parse, then build -/

/-- The fields of an accepted buffer are the ones a message is built with: the
address is 1, the ids are zero-padded ASCII and the timestamp is a date. -/
structure Canonical (b : Bytes) (function : GrowattModbusFunction) : Prop where
  address : u8At b 6 = 1
  deviceId : IsPaddedId 30 (slice b 8 38)
  deviceSn : function = .readInputRegister → IsPaddedId 30 (slice b 38 68)
  timestamp : function = .readInputRegister →
    ValidDateTime (u8At b 68 + 2000) (u8At b 69) (u8At b 70) (u8At b 71) (u8At b 72) (u8At b 73)
      (u8At b 74 * 1000)

/-- The buffer ends with two trailer bytes. -/
def HasTrailer (b : Bytes) (function : GrowattModbusFunction) : Prop :=
  if function = .presetSingleRegister then b.length = headerSize + 7
  else ∃ blocks trailer, BlockSplit (blockArea function b) blocks trailer ∧
    trailer.length = trailerSize

theorem wire_decodeWriteAck {w : Bytes} (h : writeSingleAckSize ≤ w.length) :
    (decodeWriteAck w).wire = w.take writeSingleAckSize := by
  have hsize : writeSingleAckSize = 5 := rfl
  have hvalue : u16Bytes (u16At w 3) = slice w 3 5 := u16Bytes_u16At w (by omega)
  have hstatus : u8Bytes (u8At w 2) = slice w 2 3 := u8Bytes_u8At w (by omega)
  have hreg : u16Bytes (u16At w 0) = slice w 0 2 := u16Bytes_u16At w (by omega)
  show u16Bytes (u16At w 0) ++ (u8Bytes (u8At w 2) ++ u16Bytes (u16At w 3)) = _
  rw [hreg, hstatus, hvalue, slice_append_slice w (by omega) (by omega),
    slice_append_slice w (by omega) (by omega), slice_zero, hsize]

theorem decodeWriteAck_buildable (w : Bytes) : (decodeWriteAck w).Buildable :=
  ⟨u16At_lt w 0, u8At_lt w 2, u16At_lt w 3⟩

/-- Canonical metadata is rebuilt byte for byte. -/
theorem wire_decodeMetadata {w : Bytes} (h : metadataSize ≤ w.length)
    (hid : IsPaddedId 30 (slice w 0 30))
    (ht : ValidDateTime (u8At w 30 + 2000) (u8At w 31) (u8At w 32) (u8At w 33) (u8At w 34)
      (u8At w 35) (u8At w 36 * 1000)) :
    (decodeMetadata w).Buildable ∧ (decodeMetadata w).wire = w.take metadataSize := by
  have hsize : metadataSize = 37 := rfl
  obtain ⟨hascii, hlen, hfield⟩ := hid.encode
  have hts : (decodeMetadata w).timestamp = some ⟨_, _, _, _, _, _, _, ht⟩ := by
    rw [decodeMetadata, DateTime.make, dif_pos ht]
    rfl
  have hyear := u8At_lt w 30
  have hms := u8At_lt w 36
  have hbuild : (decodeMetadata w).Buildable := by
    refine ⟨hascii, hlen, _, hts, ?_, ?_, ?_⟩
    · show 2000 ≤ u8At w 30 + 2000
      omega
    · show u8At w 30 + 2000 ≤ 2255
      omega
    · show u8At w 36 * 1000 / 1000 ≤ 255
      omega
  refine ⟨hbuild, ?_⟩
  have hbyte : ∀ k, k < metadataSize → u8Bytes (u8At w k) = slice w k (k + 1) := by
    intro k hk
    exact u8Bytes_u8At w (by omega)
  -- the year was read above 2000 and the milliseconds times 1000
  have htime : DateTime.wire ⟨_, _, _, _, _, _, _, ht⟩ = slice w 30 37 := by
    rw [DateTime.wire, Nat.add_sub_cancel, Nat.mul_div_cancel _ (by decide), hbyte 30 (by decide),
      hbyte 31 (by decide), hbyte 32 (by decide), hbyte 33 (by decide), hbyte 34 (by decide),
      hbyte 35 (by decide), hbyte 36 (by decide)]
    repeat rw [slice_append_slice w (by decide) (by decide)]
  have hserial : idField (decodeMetadata w).deviceSn = slice w 0 30 := hfield
  rw [GrowattMetadata.wire, hts, hserial]
  show slice w 0 30 ++ DateTime.wire _ = _
  rw [htime, slice_append_slice w (by decide) (by decide), slice_zero, hsize]

/-- The payload of a canonical buffer with a trailer is rebuilt, and the trailer
is what remains. -/
theorem payloadWire_of_fields {b : Bytes} {m : GrowattModbusMessage}
    (hg : WireGrammar b m.function) (hf : MessageFields b m) (hc : Canonical b m.function)
    (ht : HasTrailer b m.function) :
    (∀ metadata ∈ m.metadata, metadata.Buildable) ∧
      ∃ trailer : Bytes, trailer.length = trailerSize ∧
        b.drop headerSize = m.payloadWire ++ trailer := by
  have hdrop : ∀ n, (b.drop n).length = b.length - n := fun n => List.length_drop
  have hhead : headerSize = 38 := rfl
  have hms : metadataSize = 37 := rfl
  by_cases hset : m.function = .presetSingleRegister
  · -- an acknowledgement
    have hmeta : m.metadata = none := by
      rw [hf.metadata, hset]
      rfl
    obtain ⟨hblocks, hack⟩ := hf.ack hset
    rw [HasTrailer, if_pos hset] at ht
    refine ⟨by simp [hmeta], (b.drop headerSize).drop 5, ?_, ?_⟩
    · rw [List.length_drop, hdrop, ht]
      rfl
    · have hw := wire_decodeWriteAck (w := b.drop headerSize) (by
        rw [hdrop, ht]
        decide)
      rw [GrowattModbusMessage.payloadWire, hmeta, hblocks, hack]
      show _ = [] ++ ([] ++ (decodeWriteAck (b.drop headerSize)).wire) ++ _
      rw [hw, List.nil_append, List.nil_append]
      exact (List.take_append_drop 5 _).symm
  · obtain ⟨hack, trailer, hsplit⟩ := hf.blocks hset
    rw [HasTrailer, if_neg hset] at ht
    obtain ⟨blocks, trailer', hsplit', hlen⟩ := ht
    -- the trailer of the message is the one of two bytes: there is only one split
    obtain ⟨-, rfl⟩ := blockSplit_unique hsplit hsplit'
    by_cases hin : m.function = .readInputRegister
    · -- metadata and blocks
      have hmeta : m.metadata = some (decodeMetadata (b.drop headerSize)) := by
        rw [hf.metadata, if_pos hin]
      have hlong := hg.metadata hin
      have hid : IsPaddedId 30 (slice (b.drop headerSize) 0 30) := by
        rw [slice_drop]
        exact hc.deviceSn hin
      have hts := hc.timestamp hin
      obtain ⟨hbuild, hwire⟩ := wire_decodeMetadata (w := b.drop headerSize)
        (by rw [hdrop]; omega) hid (by simpa only [u8At_drop, hhead] using hts)
      refine ⟨?_, trailer, hlen, ?_⟩
      · intro metadata h
        rw [hmeta, Option.mem_some_iff] at h
        exact h ▸ hbuild
      · have hs := hsplit.split
        rw [blockArea, if_pos hin, ← List.drop_drop] at hs
        rw [GrowattModbusMessage.payloadWire, hmeta, hack]
        show _ = (decodeMetadata (b.drop headerSize)).wire ++
          (blockFormat.encodeAll m.registerBlocks ++ []) ++ trailer
        rw [hwire, List.append_nil, List.append_assoc, ← hs, List.take_append_drop]
    · have hmeta : m.metadata = none := by rw [hf.metadata, if_neg hin]
      refine ⟨by simp [hmeta], trailer, hlen, ?_⟩
      have hs := hsplit.split
      rw [blockArea, if_neg hin] at hs
      rw [GrowattModbusMessage.payloadWire, hmeta, hack, hs]
      simp

/-- The header of a canonical buffer is rebuilt from the fields read off it. -/
theorem headerWire_of_fields {b : Bytes} {m : GrowattModbusMessage}
    (hg : WireGrammar b m.function) (hf : MessageFields b m) (hc : Canonical b m.function)
    (hlen : m.msgLen = b.length - 8) : m.headerWire = b.take headerSize := by
  have hhead : headerSize = 38 := rfl
  have hlong := hg.header
  obtain ⟨-, -, hfield⟩ := hc.deviceId.encode
  have hid : idField m.deviceId = slice b 8 38 := by
    rw [hf.deviceId]
    exact hfield
  have hword : ∀ k, k + 2 ≤ headerSize → u16Bytes (u16At b k) = slice b k (k + 2) := by
    intro k hk
    exact u16Bytes_u16At b (by omega)
  have hbyte : ∀ k, k < headerSize → u8Bytes (u8At b k) = slice b k (k + 1) := by
    intro k hk
    exact u8Bytes_u8At b (by omega)
  -- the constants of the header are what the grammar asks for
  have hconst : u16Bytes 7 = slice b 2 4 := hg.constant ▸ hword 2 (by decide)
  have haddress : u8Bytes 1 = slice b 6 7 := hc.address ▸ hbyte 6 (by decide)
  rw [GrowattModbusMessage.headerWire, hid, hf.unknown, hconst, hlen, ← hg.length, haddress,
    GrowattModbusFunction.value_of_ofValue? hg.known, hword 0 (by decide), hword 4 (by decide),
    hbyte 7 (by decide)]
  repeat rw [slice_append_slice b (by decide) (by decide)]
  rw [slice_zero, hhead]

/-- A canonical buffer with a trailer is its message, built again. -/
theorem GrowattModbusMessage.buildGrobro_of_decode {b : Bytes} {m : GrowattModbusMessage}
    (h : decodeMessage b = some m) (hc : Canonical b m.function)
    (ht : HasTrailer b m.function) : m.buildGrobro = .ok (b.take (b.length - 2)) := by
  obtain ⟨hg, hf⟩ := decodeMessage_fields h
  obtain ⟨hmeta, trailer, htrailer, hpay⟩ := payloadWire_of_fields hg hf hc ht
  have hhead : headerSize = 38 := rfl
  have htwo : trailerSize = 2 := rfl
  have hlong := hg.header
  -- the length that the message counts is the one on the wire
  have hcount : b.length = headerSize + m.payloadWire.length + 2 := by
    have hl := congrArg List.length hpay
    rw [List.length_drop, List.length_append] at hl
    omega
  have hlen : m.msgLen = b.length - 8 := by
    rw [GrowattModbusMessage.msgLen_eq hmeta]
    omega
  have hheader := headerWire_of_fields hg hf hc hlen
  obtain ⟨hascii, hidLength, -⟩ := hc.deviceId.encode
  have hbuild : m.Buildable := by
    refine ⟨?_, ?_, ?_, ?_, hmeta, ?_, ?_⟩
    · rw [hf.unknown]
      exact u16At_lt b 0
    · rw [hf.deviceId]
      exact hascii
    · rw [hf.deviceId]
      exact hidLength
    · rw [hlen, ← hg.length]
      exact u16At_lt b 4
    · intro block hb
      by_cases hset : m.function = .presetSingleRegister
      · rw [(hf.ack hset).1] at hb
        cases hb
      · obtain ⟨-, trailer', hsplit⟩ := hf.blocks hset
        exact hsplit.onWire block hb
    · intro ack ha
      by_cases hset : m.function = .presetSingleRegister
      · rw [(hf.ack hset).2, Option.mem_some_iff] at ha
        exact ha ▸ decodeWriteAck_buildable _
      · rw [(hf.blocks hset).1] at ha
        cases ha
  -- header and payload are rebuilt, so only the trailer is missing
  have hwhole : b = m.wire ++ trailer :=
    calc b = b.take headerSize ++ b.drop headerSize := (List.take_append_drop _ b).symm
      _ = m.headerWire ++ (m.payloadWire ++ trailer) := by rw [hheader, hpay]
      _ = m.wire ++ trailer := by rw [GrowattModbusMessage.wire, List.append_assoc]
  have hcut : b.length - 2 = m.wire.length := by
    have hl := congrArg List.length hwhole
    rw [List.length_append, htrailer] at hl
    omega
  rw [GrowattModbusMessage.buildGrobro_eq hbuild, hcut]
  conv_rhs => rw [hwhole]
  rw [List.take_left]

/-- **The parser and its grammar.**  Parsing never raises; it accepts exactly
the buffers of the wire grammar; the blocks it returns are the only reading of
the bytes after the header, each byte in one block or in the trailer; and a
canonical buffer with a trailer is rebuilt without its last two bytes. -/
theorem GrowattModbusMessage.parseGrobro_iff_grammar (b : Bytes) :
    ∃ r, GrowattModbusMessage.parseGrobro b = .ok r ∧
      (r.isSome ↔ ∃ function, WireGrammar b function) ∧
      ∀ m ∈ r, WireGrammar b m.function ∧
        (m.function = .presetSingleRegister → m.registerBlocks = []) ∧
        (m.function ≠ .presetSingleRegister → ∃ trailer,
          BlockSplit (blockArea m.function b) m.registerBlocks trailer ∧
          ∀ blocks' trailer', BlockSplit (blockArea m.function b) blocks' trailer' →
            blocks' = m.registerBlocks ∧ trailer' = trailer) ∧
        (HasTrailer b m.function → Canonical b m.function →
          m.buildGrobro = .ok (b.take (b.length - 2))) := by
  refine ⟨decodeMessage b, GrowattModbusMessage.parseGrobro_eq b, decodeMessage_isSome_iff b, ?_⟩
  intro m hm
  obtain ⟨hg, hf⟩ := decodeMessage_fields hm
  refine ⟨hg, fun hset => (hf.ack hset).1, ?_, fun ht hc =>
    GrowattModbusMessage.buildGrobro_of_decode hm hc ht⟩
  intro hset
  obtain ⟨-, trailer, hsplit⟩ := hf.blocks hset
  refine ⟨trailer, hsplit, ?_⟩
  intro blocks' trailer' h'
  exact blockSplit_unique h' hsplit

end GroBro
