/-
GroBro/NoahDecoders.lean

The passive decoders of single-register traffic (`decode_0105` and `decode_0106`
of `grobro/grobro/noah_protocol_debug.py`) beside the parsers that act on it.

Each of them tells a request from an answer by a length of its own: the decoders
by 45 and 46 bytes, the message parser by what is left behind its 38-byte header,
the command parser by a length field of 36.  `CommandFields` and `MessageFields`
say what stands at which offset; what remains is to compare lengths.  The write
decoder agrees with the parsers on every packet; the read decoder takes 44 bytes
for a request, where the message parser, whose trailer is optional, sees a block
of one register.
-/
import GroBro.CommandRoundTrip
import GroBro.MessageDispatch
import GroBro.ModbusGrammar

namespace GroBro

open ByteCodec

/-! ### The decoders -/

inductive HoldingReadKind where
  | request
  | response (value : ℕ)
  deriving DecidableEq, Repr

/-- The fields `decode_0105` reports besides the constant message type and operation. -/
structure HoldingRegisterRead where
  deviceId : PyStr
  register : ℕ
  echoedRegister : ℕ
  kind : HoldingReadKind
  deriving DecidableEq, Repr

def decode0105 (data : Bytes) : Option HoldingRegisterRead :=
  if data.length < 44 ∨ u16At data 6 ≠ 0x0105 then none
  else
    let registerNo := u16At data 38
    let echoedRegister := u16At data 40
    -- requests are 44 bytes with their trailer; responses put a value before it
    let kind := if 46 ≤ data.length then .response (u16At data 42) else .request
    some { deviceId := noahDeviceId data, register := registerNo, echoedRegister, kind }

inductive HoldingWriteKind where
  | request (value : ℕ)
  | ack (status value : ℕ)
  deriving DecidableEq, Repr

/-- The fields `decode_0106` reports besides the constant message type and operation. -/
structure HoldingRegisterWrite where
  deviceId : PyStr
  register : ℕ
  kind : HoldingWriteKind
  deriving DecidableEq, Repr

def decode0106 (data : Bytes) : Option HoldingRegisterWrite :=
  if data.length < 44 ∨ u16At data 6 ≠ 0x0106 then none
  else
    let registerNo := u16At data 38
    -- acknowledgements put one status byte before the echoed value
    let kind := if 45 ≤ data.length then .ack (u8At data 40) (u16At data 41)
      else .request (u16At data 40)
    some { deviceId := noahDeviceId data, register := registerNo, kind }

/-! ### Sending a command -/

def makeModbusCommand (deviceId : PyStr) (func : GrowattModbusFunction) (registerNo : ℕ)
    (value : Option ℕ) : GrowattModbusFunctionSingle where
  deviceId := deviceId
  function := func
  registerNo := registerNo
  value := value.getD registerNo

/-- `send_command`: the topic and the payload handed to the broker.  `none` is a
gateway whose inverter is not known yet. -/
def sendCommand (checksum : Bytes → UInt16) (client : BridgeClient)
    (cmd : GrowattModbusFunctionSingle) : Except PyError (Option (PyStr × Bytes)) :=
  let publish (cmd : GrowattModbusFunctionSingle) := do
    let scrambled := scramble (← cmd.buildGrobro)
    let finalPayload := appendCrc checksum scrambled
    return some ("s/33/".toList ++ cmd.deviceId, finalPayload)
  if isGateway cmd.deviceId then
    match client.ptqForRaq.get? cmd.deviceId with
    | none | some [] => return none
    | some endpoint => publish { cmd with deviceId := endpoint }
  else publish cmd

/-! ### A command on the wire -/

/-- The type word of a packet is the modbus address and the function. -/
theorem u8At_of_type {b : Bytes} (function : ℕ) (hf : function < 256)
    (h : u16At b 6 = 0x0100 + function) : u8At b 6 = 1 ∧ u8At b 7 = function := by
  have h6 := u8At_lt b 6
  have h7 := u8At_lt b 7
  have hword : u8At b 6 * 256 + u8At b 7 = 0x0100 + function := h
  omega

theorem CommandFields.type {w deviceIdRaw : Bytes} {msgLen first second : ℕ}
    {function : GrowattModbusFunction}
    (h : CommandFields w msgLen function deviceIdRaw first second) :
    u16At w 6 = 0x0100 + function.value := by
  rw [u16At, h.deviceAddress, h.function]

/-- The front of a padded field. -/
theorem take_ljustNul {id : Bytes} {k n : ℕ} (hid : id.length ≤ k) (hk : k ≤ n) :
    (ljustNul n id).take k = ljustNul k id := by
  rw [ljustNul, ljustNul, List.take_append, List.take_of_length_le hid, List.take_replicate,
    Nat.min_eq_left (by omega)]

/-- The passive decoders read the id of a command if it fits their 16 bytes. -/
theorem CommandFields.noahDeviceId {w : Bytes} {deviceId : PyStr} {msgLen first second : ℕ}
    {function : GrowattModbusFunction}
    (h : CommandFields w msgLen function (idField deviceId) first second)
    (hw : 24 ≤ w.length) (ha : IsAscii deviceId) (hl : deviceId.length ≤ 16)
    (hlast : ∀ c ∈ deviceId.getLast?, c ≠ nul) : noahDeviceId w = deviceId := by
  have hfield : slice w 8 24 = ljustNul 16 (asciiBytes deviceId) := by
    have hwindow : slice (slice w 8 38) 0 16 = slice w 8 24 := slice_slice w (by decide)
    calc slice w 8 24 = slice (slice w 8 38) 0 16 := hwindow.symm
      _ = (idField deviceId).take 16 := by rw [h.deviceIdRaw, slice_zero]
      _ = ljustNul 16 (asciiBytes deviceId) :=
        take_ljustNul (by rwa [length_asciiBytes]) (by decide)
  rw [GroBro.noahDeviceId, if_neg (Nat.not_lt.mpr hw), hfield,
    decodeReplace_rstripNul_ljustNul ha hlast]

/-- What the device sees of a single-register command: 44 bytes with the fields
of the command in front. -/
structure SentCommand (c : GrowattModbusFunctionSingle) (data : Bytes) : Prop where
  ascii : IsAscii c.deviceId
  idLength : c.deviceId.length ≤ 30
  registerNo : c.registerNo < 65536
  length : data.length = modbusCommandSize + trailerSize
  fields : CommandFields data 36 c.function (idField c.deviceId) c.registerNo c.value

theorem sentCommand (checksum : Bytes → UInt16) {c : GrowattModbusFunctionSingle} {raw : Bytes}
    (h : c.buildGrobro = .ok raw) :
    SentCommand c (unscramble (appendCrc checksum (scramble raw))) := by
  obtain ⟨ha, hl, hr, hv, rfl⟩ := packCommand_eq_ok (by decide) h
  have hlen : (commandWire 36 c.function (idField c.deviceId) c.registerNo c.value).length
      = modbusCommandSize := length_commandWire (length_idField hl)
  have hsize : modbusCommandSize = 42 := rfl
  obtain ⟨t, ht, e⟩ := unscramble_appendCrc checksum
    (a := commandWire 36 c.function (idField c.deviceId) c.registerNo c.value) (by omega)
  rw [e]
  refine ⟨ha, hl, hr, ?_, read_commandWire (length_idField hl) (by decide) hr hv t⟩
  rw [List.length_append, hlen, ht]
  rfl

/-! ### Writes -/

/-- An acknowledgement with its trailer is reported as the message parser reads it. -/
theorem decode0106_writeAck {b : Bytes} {m : GrowattModbusMessage}
    (h : GrowattModbusMessage.parseGrobro b = .ok (some m)) (htype : u16At b 6 = 0x0106)
    (hlength : b.length = headerSize + writeSingleAckSize + trailerSize) :
    ∃ ack, m.writeAck = some ack ∧ decode0106 b =
      some { deviceId := noahDeviceId b, register := ack.registerNo,
             kind := .ack ack.status ack.value } := by
  obtain ⟨hg, hm⟩ := parseGrobro_fields h
  have hfunction : m.function = .presetSingleRegister :=
    hg.function_eq (u8At_of_type 6 (by decide) htype).2
  have hlen : b.length = 45 := hlength
  refine ⟨decodeWriteAck (b.drop headerSize), (hm.ack hfunction).2, ?_⟩
  rw [decode0106, if_neg (by omega), if_pos (by omega)]
  simp only [decodeWriteAck, u16At_drop, u8At_drop]
  rfl

/-- A write command is reported as the request it is. -/
theorem SentCommand.decode0106 {c : GrowattModbusFunctionSingle} {data : Bytes}
    (h : SentCommand c data) (hc : c.function = .presetSingleRegister)
    (hl : c.deviceId.length ≤ 16) (hlast : ∀ x ∈ c.deviceId.getLast?, x ≠ nul) :
    decode0106 data =
      some { deviceId := c.deviceId, register := c.registerNo, kind := .request c.value } := by
  have hlen : data.length = 44 := h.length
  have htype : u16At data 6 = 0x0106 := by
    rw [h.fields.type, hc]
    rfl
  rw [GroBro.decode0106, if_neg (by omega), if_neg (by omega), h.fields.first, h.fields.second,
    h.fields.noahDeviceId (by omega) h.ascii hl hlast]

/-- A command of 42 bytes has a length field that leaves six bytes behind the
message header, and an acknowledgement has five or seven. -/
theorem not_command_and_message {b : Bytes} {c : GrowattModbusFunctionSingle}
    {m : GrowattModbusMessage} (hc : GrowattModbusFunctionSingle.parseGrobro b = some c)
    (hfunction : c.function = .presetSingleRegister) :
    GrowattModbusMessage.parseGrobro b ≠ .ok (some m) := by
  intro h
  obtain ⟨hg, -⟩ := parseGrobro_fields h
  obtain ⟨header, hu, rfl⟩ := GrowattModbusFunctionSingle.header_of_parse hc
  have hf := commandFields_of_unpack hu
  have hack : m.function = .presetSingleRegister := (hg.function_eq hf.function).trans hfunction
  have hlength : b.length - 8 = 36 := hg.length.symm.trans hf.msgLen
  have hsize : b.length = 43 ∨ b.length = 45 := hg.ack hack
  omega

/-- **The two decoders of single-register writes agree.**  An acknowledgement with
its trailer is reported as the message parser reads it; a write request, whose id
fits 16 bytes and does not end in the padding, is reported as the command it was
built from; and no bytes are both a write command and a message. -/
theorem write_decoders_agree (checksum : Bytes → UInt16) :
    (∀ b m, GrowattModbusMessage.parseGrobro b = .ok (some m) → u16At b 6 = 0x0106 →
      b.length = headerSize + writeSingleAckSize + trailerSize →
      ∃ ack, m.writeAck = some ack ∧ decode0106 b =
        some { deviceId := noahDeviceId b, register := ack.registerNo,
               kind := .ack ack.status ack.value }) ∧
    (∀ c : GrowattModbusFunctionSingle, c.function = .presetSingleRegister →
      IsAscii c.deviceId → c.deviceId.length ≤ 16 → (∀ x ∈ c.deviceId.getLast?, x ≠ nul) →
      (c.registerNo < 65536 → c.value < 65536 → ∃ raw, c.buildGrobro = .ok raw) ∧
      ∀ raw, c.buildGrobro = .ok raw →
        decode0106 (unscramble (appendCrc checksum (scramble raw))) =
          some { deviceId := c.deviceId, register := c.registerNo, kind := .request c.value }) ∧
    (∀ b c m, GrowattModbusFunctionSingle.parseGrobro b = some c →
      c.function = .presetSingleRegister →
      GrowattModbusMessage.parseGrobro b ≠ .ok (some m)) := by
  refine ⟨?_, ?_, ?_⟩
  · intro b m h htype hlength
    exact decode0106_writeAck h htype hlength
  · intro c hc ha hl hlast
    refine ⟨fun hr hv => ⟨_, packCommand_ok ha (by omega) (by decide) hr hv⟩, fun raw hraw => ?_⟩
    exact (sentCommand checksum hraw).decode0106 hc hl hlast
  · intro b c m hc hfunction
    exact not_command_and_message hc hfunction

/-- A write command whose 16-character id fills the decoder's field. -/
theorem write_decoders_agree_fullId :
    ∃ raw, packCommand 36 .presetSingleRegister "0PVPABCDEFGH1234".toList 252 800 = .ok raw ∧
      decode0106 (unscramble (appendCrc (fun b => UInt16.ofNat b.length) (scramble raw))) =
        some { deviceId := "0PVPABCDEFGH1234".toList, register := 252, kind := .request 800 } := by
  obtain ⟨-, hrequest, -⟩ := write_decoders_agree fun b => UInt16.ofNat b.length
  obtain ⟨hbuild, hdecode⟩ :=
    hrequest ⟨"0PVPABCDEFGH1234".toList, .presetSingleRegister, 252, 800⟩ rfl (by decide)
      (by decide) (by simp [nul])
  obtain ⟨raw, hraw⟩ := hbuild (by decide) (by decide)
  exact ⟨raw, hraw, hdecode raw hraw⟩

/-- The decoder takes a NUL at the end of an id for padding. -/
theorem write_request_nulId :
    ¬ ∀ c : GrowattModbusFunctionSingle, c.function = .presetSingleRegister →
      IsAscii c.deviceId → c.deviceId.length ≤ 16 → ∀ raw, c.buildGrobro = .ok raw →
        decode0106 (unscramble (appendCrc (fun _ => 0) (scramble raw))) =
          some { deviceId := c.deviceId, register := c.registerNo, kind := .request c.value } := by
  intro h
  have hid := h ⟨['A', nul], .presetSingleRegister, 1, 2⟩ rfl (by decide) (by decide) _
    (packCommand_ok (by decide) (by decide) (by decide) (by decide) (by decide))
  revert hid
  decide

/-! ### Reads -/

/-- A 44-byte command that repeats its register number is, for the message parser,
one block whose value is the trailer. -/
theorem CommandFields.parseGrobro_trailer {data deviceIdRaw : Bytes} {registerNo : ℕ}
    (h : CommandFields data 36 .readSingleRegister deviceIdRaw registerNo registerNo)
    (hlength : data.length = modbusCommandSize + trailerSize) :
    ∃ m, GrowattModbusMessage.parseGrobro data = .ok (some m) ∧
      m.registerBlocks =
        [{ start := registerNo, end_ := registerNo, values := data.drop modbusCommandSize }] := by
  have hlen : data.length = 44 := hlength
  have hword : ∀ k, k + 2 ≤ 44 → u16Bytes (u16At data k) = slice data k (k + 2) := by
    intro k hk
    exact u16Bytes_u16At data (by omega)
  set block : GrowattModbusBlock :=
    { start := registerNo, end_ := registerNo, values := data.drop modbusCommandSize } with hblock
  have hsplit : BlockSplit (data.drop headerSize) [block] [] := by
    refine ⟨?_, ?_, Or.inl rfl⟩
    · intro x hx
      obtain rfl := List.mem_singleton.mp hx
      have hlt := u16At_lt data 38
      rw [h.first] at hlt
      refine ⟨le_refl _, hlt, ?_⟩
      rw [hblock, List.length_drop, hlen, Nat.sub_self]
      rfl
    · -- the register number twice, then the rest
      have hwire : block.wire = slice data 38 40 ++ (slice data 40 42 ++ data.drop 42) := by
        rw [GrowattModbusBlock.wire, ← hword 38 (by decide), ← hword 40 (by decide), h.first,
          h.second]
        rfl
      rw [slice_append_drop data (by decide), slice_append_drop data (by decide)] at hwire
      rw [Framing.Format.encodeAll_cons, Framing.Format.encodeAll_nil, List.append_nil,
        List.append_nil]
      exact hwire.symm
  have hg : WireGrammar data .readSingleRegister := by
    refine ⟨?_, h.constant_7, ?_, ?_, by simp, by simp, fun _ => ⟨[block], [], ?_⟩⟩
    · rw [hlen]
      decide
    · rw [h.msgLen, hlen]
    · rw [h.function]
      exact GrowattModbusFunction.ofValue?_value _
    · exact hsplit
  exact parseGrobro_of_split hg (by decide) hsplit

/-- A read command is reported as the request it is. -/
theorem SentCommand.decode0105 {c : GrowattModbusFunctionSingle} {data : Bytes}
    (h : SentCommand c data) (hc : c.function = .readSingleRegister) :
    decode0105 data =
      some { deviceId := noahDeviceId data, register := c.registerNo, echoedRegister := c.value,
             kind := .request } := by
  have hlen : data.length = 44 := h.length
  have htype : u16At data 6 = 0x0105 := by
    rw [h.fields.type, hc]
    rfl
  rw [GroBro.decode0105, if_neg (by omega), if_neg (by omega), h.fields.first, h.fields.second]

/-- A message of one register with its trailer is reported as a response. -/
theorem decode0105_response {b : Bytes} {m : GrowattModbusMessage} {block : GrowattModbusBlock}
    (h : GrowattModbusMessage.parseGrobro b = .ok (some m)) (htype : u16At b 6 = 0x0105)
    (hblocks : m.registerBlocks = [block]) (hone : block.start = block.end_)
    (hlength : b.length = headerSize + block.size + trailerSize) :
    decode0105 b =
      some { deviceId := noahDeviceId b, register := block.start, echoedRegister := block.start,
             kind := .response (u16At block.values 0) } := by
  obtain ⟨hg, hm⟩ := parseGrobro_fields h
  have hfunction : m.function = .readSingleRegister :=
    hg.function_eq (u8At_of_type 5 (by decide) htype).2
  obtain ⟨-, trailer, hs⟩ := hm.blocks (by rw [hfunction]; decide)
  rw [blockArea, if_neg (by rw [hfunction]; decide), hblocks] at hs
  have hw := hs.onWire block (List.mem_singleton_self block)
  have hvalues : block.values.length = 2 := by
    rw [hw.length_values, hone, Nat.sub_self]
  have hlen : b.length = 46 := by
    rw [hlength, GrowattModbusBlock.size, hvalues]
    rfl
  -- the block stands right behind the header
  have hdrop : b.drop 38 =
      u16Bytes block.start ++ (u16Bytes block.end_ ++ (block.values ++ trailer)) := by
    refine hs.split.trans ?_
    simp [blockFormat, GrowattModbusBlock.wire]
  have hword : ∀ k, u16At b (38 + k) = u16At (b.drop 38) k := fun k => (u16At_drop b 38 k).symm
  have h38 : u16At b 38 = block.start := by
    rw [hword 0, hdrop]
    exact u16At_u16Bytes (by have := hw.end_lt; omega) _
  have h40 : u16At b 40 = block.start := by
    rw [hword 2, hdrop, u16At_u16Bytes_skip, ← hone]
    exact u16At_u16Bytes (by have := hw.end_lt; omega) _
  have h42 : u16At b 42 = u16At block.values 0 := by
    rw [hword 4, hdrop, u16At_u16Bytes_skip, u16At_u16Bytes_skip]
    exact u16At_append_left _ _ (by omega)
  rw [decode0105, if_neg (by omega), if_pos (by omega), h38, h40, h42]

/-- Whom a command reaches: the device itself, or the inverter behind a gateway. -/
def commandEndpoint (client : BridgeClient) (deviceId : PyStr) : Option PyStr :=
  if isGateway deviceId then (client.ptqForRaq.get? deviceId).filter (· ≠ []) else some deviceId

/-- What reaches the broker is the command built for its endpoint. -/
theorem sendCommand_eq_some_iff {checksum : Bytes → UInt16} {client : BridgeClient}
    {cmd : GrowattModbusFunctionSingle} {topic : PyStr} {payload : Bytes} :
    sendCommand checksum client cmd = .ok (some (topic, payload)) ↔
      ∃ id raw, commandEndpoint client cmd.deviceId = some id ∧
        GrowattModbusFunctionSingle.buildGrobro { cmd with deviceId := id } = .ok raw ∧
        topic = "s/33/".toList ++ id ∧ payload = appendCrc checksum (scramble raw) := by
  have hbuilt : ∀ c : GrowattModbusFunctionSingle,
      (do
        let scrambled := scramble (← c.buildGrobro)
        return some ("s/33/".toList ++ c.deviceId, appendCrc checksum scrambled)) =
          Except.ok (some (topic, payload)) ↔
        ∃ raw, c.buildGrobro = .ok raw ∧ topic = "s/33/".toList ++ c.deviceId ∧
          payload = appendCrc checksum (scramble raw) := by
    intro c
    rcases hraw : c.buildGrobro with e | raw
    · constructor
      · intro h
        cases h
      · rintro ⟨raw, h, -⟩
        cases h
    · simp [eq_comm]
  unfold sendCommand commandEndpoint
  by_cases hg : isGateway cmd.deviceId
  · rw [if_pos hg, if_pos hg]
    rcases hget : client.ptqForRaq.get? cmd.deviceId with - | (- | ⟨x, endpoint⟩)
    · simp
    · simp
    · simpa using hbuilt { cmd with deviceId := x :: endpoint }
  · rw [if_neg hg, if_neg hg]
    simpa using hbuilt cmd

/-- **A read request and a response tell themselves apart by their length.**  What
is sent for a read is reported as a request; the message parser, whose trailer is
optional, takes it for a block of the one register with the unscrambled checksum
as its value.  A message of one register that carries its trailer is reported as
a response with the same register and value. -/
theorem read_decoders_agree (checksum : Bytes → UInt16) :
    (∀ client deviceId registerNo topic payload,
      sendCommand checksum client
        (makeModbusCommand deviceId .readSingleRegister registerNo none) =
          .ok (some (topic, payload)) →
      (unscramble payload).length = modbusCommandSize + trailerSize ∧
      decode0105 (unscramble payload) =
        some { deviceId := noahDeviceId (unscramble payload), register := registerNo,
               echoedRegister := registerNo, kind := .request } ∧
      ∃ m, GrowattModbusMessage.parseGrobro (unscramble payload) = .ok (some m) ∧
        m.registerBlocks = [{ start := registerNo, end_ := registerNo,
                              values := (unscramble payload).drop modbusCommandSize }]) ∧
    (∀ client deviceId id registerNo, commandEndpoint client deviceId = some id → IsAscii id →
      id.length ≤ 30 → registerNo < 65536 →
      ∃ payload, sendCommand checksum client
        (makeModbusCommand deviceId .readSingleRegister registerNo none) =
          .ok (some ("s/33/".toList ++ id, payload))) ∧
    (∀ b m block, GrowattModbusMessage.parseGrobro b = .ok (some m) → u16At b 6 = 0x0105 →
      m.registerBlocks = [block] → block.start = block.end_ →
      b.length = headerSize + block.size + trailerSize →
      decode0105 b =
        some { deviceId := noahDeviceId b, register := block.start,
               echoedRegister := block.start, kind := .response (u16At block.values 0) }) := by
  refine ⟨?_, ?_, ?_⟩
  · intro client deviceId registerNo topic payload h
    obtain ⟨id, raw, -, hraw, -, rfl⟩ := sendCommand_eq_some_iff.mp h
    have hs := sentCommand checksum hraw
    exact ⟨hs.length, hs.decode0105 rfl, hs.fields.parseGrobro_trailer hs.length⟩
  · intro client deviceId id registerNo hid ha hl hr
    exact ⟨_, sendCommand_eq_some_iff.mpr
      ⟨id, _, hid, packCommand_ok ha hl (by decide) hr hr, rfl, rfl⟩⟩
  · intro b m block h htype hblocks hone hlength
    exact decode0105_response h htype hblocks hone hlength

/-- A read that goes to the inverter behind a gateway. -/
theorem read_decoders_agree_gateway :
    ∃ payload m, sendCommand (fun b => UInt16.ofNat b.length)
        ⟨false, .ofList [("RAQ1".toList, "PTQ2".toList)]⟩
        (makeModbusCommand "RAQ1".toList .readSingleRegister 3 none) =
          .ok (some ("s/33/PTQ2".toList, payload)) ∧
      (decode0105 (unscramble payload)).map HoldingRegisterRead.kind = some .request ∧
      GrowattModbusMessage.parseGrobro (unscramble payload) = .ok (some m) ∧
      m.registerBlocks.map GrowattModbusBlock.start = [3] := by
  obtain ⟨hrequest, hsent, -⟩ := read_decoders_agree fun b => UInt16.ofNat b.length
  obtain ⟨payload, hpayload⟩ := hsent
    ⟨false, .ofList [("RAQ1".toList, "PTQ2".toList)]⟩ "RAQ1".toList "PTQ2".toList 3
    (by decide) (by decide) (by decide) (by decide)
  obtain ⟨-, hdecode, m, hm, hblocks⟩ := hrequest _ _ _ _ _ hpayload
  refine ⟨payload, m, hpayload, ?_, hm, ?_⟩
  · rw [hdecode]
    rfl
  · rw [hblocks]
    rfl

/-- The message parser takes the read request of register 3 for its value. -/
theorem read_request_accepted :
    ∃ topic payload m, sendCommand (fun _ => 0x1234) ⟨false, ∅⟩
        (makeModbusCommand "QMN1".toList .readSingleRegister 3 none) =
          .ok (some (topic, payload)) ∧
      GrowattModbusMessage.parseGrobro (unscramble payload) = .ok (some m) ∧
      m.registerBlocks = [{ start := 3, end_ := 3, values := [0x66, 0x73] }] ∧
      (decode0105 (unscramble payload)).map HoldingRegisterRead.kind = some .request := by
  have hraw : GrowattModbusFunctionSingle.buildGrobro
      (makeModbusCommand "QMN1".toList .readSingleRegister 3 none) =
        .ok (commandWire 36 .readSingleRegister (idField "QMN1".toList) 3 3) :=
    packCommand_ok (by decide) (by decide) (by decide) (by decide) (by decide)
  have hs := sentCommand (fun _ => 0x1234) hraw
  obtain ⟨m, hm, hblocks⟩ := hs.fields.parseGrobro_trailer hs.length
  refine ⟨_, _, m, sendCommand_eq_some_iff.mpr
    ⟨"QMN1".toList, _, by decide, hraw, rfl, rfl⟩, hm, ?_, ?_⟩
  · rw [hblocks]
    decide
  · rw [hs.decode0105 rfl]
    rfl

end GroBro
