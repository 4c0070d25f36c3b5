/-
GroBro/HaCommands.lean

`__handle_message` of `grobro/ha/client.py`: what a message from Home Assistant asks for.
A command topic names a kind of control, a device, a register and an action; the payload of
a setting is read as the kind of control says, not as the register does.  The handler either
fails, which is logged, or asks for nothing, or for one thing (`HaRequest`).

A setting is written and then read back (`on_command` twice, see `HaClient.onSet`), by the
bridge of the device side (`sendCommand`).  A Read All sends a read of every holding register
of the device, one after the other, until the broker does not accept one; the reads of config
registers that follow it have timers of their own (`ConfigReads`).  `messagePackets` is what
reaches the broker, and `message_packets_exact` says what that is for any message.
-/
import GroBro.ConfigReads
import GroBro.HomeAssistantRegisters
import GroBro.NoahDecoders
import GroBro.SupervisorOptions

namespace GroBro

open ByteCodec OrderedDict

/-! ### Topics -/

/-- The kinds of controls that are subscribed to. -/
inductive CommandType where
  | number
  | time
  | button
  | switch
  | select
  | config
  deriving DecidableEq, Repr

namespace CommandType

def all : List CommandType := [number, time, button, switch, select, config]

def text : CommandType → PyStr
  | number => "number".toList
  | time => "time".toList
  | button => "button".toList
  | switch => "switch".toList
  | select => "select".toList
  | config => "config".toList

def ofText? (s : PyStr) : Option CommandType := all.find? fun t => t.text = s

@[simp] theorem ofText?_text (t : CommandType) : ofText? t.text = some t := by
  cases t <;> decide

/-- No name of a kind has a slash. -/
theorem slash_not_mem_text (t : CommandType) : '/' ∉ t.text := by
  cases t <;> decide

end CommandType

structure CommandTopic where
  cmdType : CommandType
  deviceId : PyStr
  cmdName : PyStr
  action : PyStr
  deriving DecidableEq, Repr

/-- `s.removeprefix(start)` -/
def removePrefix (start s : PyStr) : PyStr := if start.isPrefixOf s then s.drop start.length else s

theorem removePrefix_append (start s : PyStr) : removePrefix start (start ++ s) = s := by
  have hprefix : start.isPrefixOf (start ++ s) = true :=
    List.isPrefixOf_iff_prefix.mpr (List.prefix_append start s)
  rw [removePrefix, if_pos hprefix, List.drop_left]

/-- The parts of a topic that are looked at; the second level is not. -/
def parseCommandTopic (base topic : PyStr) : Option CommandTopic :=
  match (removePrefix (base ++ ['/']) topic).splitOn '/' with
  | [cmdType, _, deviceId, cmdName, action] =>
      (CommandType.ofText? cmdType).map fun cmdType => ⟨cmdType, deviceId, cmdName, action⟩
  | _ => none

/-- The status topic is not a command topic. -/
theorem parseCommandTopic_status (base : PyStr) :
    parseCommandTopic base (base ++ "/status".toList) = none := by
  have hsplit : base ++ "/status".toList = (base ++ ['/']) ++ "status".toList := by
    rw [List.append_assoc]
    rfl
  rw [parseCommandTopic, hsplit, removePrefix_append]
  rfl

def setAction : PyStr := "set".toList
def readAction : PyStr := "read".toList

/-- `_command_subscriptions`, without the QoS. -/
def commandSubscriptions (base : PyStr) : List PyStr :=
  (CommandType.all.flatMap fun cmdType => [setAction, readAction].map fun action =>
      base ++ '/' :: cmdType.text ++ "/grobro/+/+/".toList ++ action) ++
    [base ++ "/status".toList]

/-! ### Payloads -/

/-- Whether `on_message` takes an exception of the handler for an invalid command, or logs
it with its trace. -/
inductive CommandFailure where
  | invalid
  | failed
  deriving DecidableEq, Repr

/-- `s.upper()` -/
def upper [PyUpper] (s : PyStr) : PyStr := s.flatMap PyUpper.upperChar

section Payloads

variable [PyUnicode] [PyUpper]

/-- `int(text)` -/
def intOrInvalid (text : PyStr) : Except CommandFailure ℤ :=
  match intOfText text with
  | some n => .ok n
  | none => .error .invalid

/-- `payload.decode().strip()` -/
def settingText (payload : Bytes) : Except CommandFailure PyStr :=
  match decodeUtf8 payload with
  | .ok s => .ok (strip s)
  | .error _ => .error .invalid

def parseSwitch (rawValue : PyStr) : Except CommandFailure ℤ :=
  if upper rawValue = "ON".toList then .ok 1
  else if upper rawValue = "OFF".toList then .ok 0
  else .error .invalid

def parseTime (rawValue : PyStr) : Except CommandFailure ℤ :=
  match (rawValue.splitOn ':').take 2 with
  | [hour, minute] => do
      let hour ← intOrInvalid hour
      let minute ← intOrInvalid minute
      if (0 ≤ hour ∧ hour ≤ 23) ∧ (0 ≤ minute ∧ minute ≤ 59) then return hour * 256 + minute
      else throw .invalid
  | _ => .error .invalid

/-- `{value: int(key) for key, value in options.items()}` -/
def reverseOptions (options : Dict PyStr PyStr) : Except CommandFailure (Dict PyStr ℤ) := do
  let pairs ← options.entries.mapM fun p => do return (p.2, ← intOrInvalid p.1)
  return .ofList pairs

/-- A register without options is set by number; `none` is a value that is not offered. -/
def parseSelect (options : Option (Dict PyStr PyStr)) (rawValue : PyStr) :
    Except CommandFailure (Option ℤ) :=
  match options.filter fun options => options.entries ≠ [] with
  | some options => do return (← reverseOptions options).get? rawValue
  | none => do return some (← intOrInvalid rawValue)

/-- The value of a setting. -/
def parseSetting (cmdType : CommandType) (register : HomeAssistantCommandRegister)
    (rawValue : PyStr) : Except CommandFailure (Option ℤ) :=
  match cmdType with
  | .switch => do return some (← parseSwitch rawValue)
  | .time => do return some (← parseTime rawValue)
  | .select => parseSelect register.options rawValue
  | _ => do return some (← intOrInvalid rawValue)

end Payloads

/-! ### Messages -/

/-- What a message asks for.  A setting may come with the switch state that is published if
its write is accepted. -/
inductive HaRequest where
  | homeAssistantOnline
  | readAll (deviceId : PyStr)
  | read (deviceId : PyStr) (registerNo : ℕ)
  | set (deviceId : PyStr) (registerNo : ℕ) (value : ℤ) (switchState : Option PyStr)
  | setConfig (deviceId : PyStr) (registerNo : ℤ) (value : PyStr)
  deriving DecidableEq, Repr

structure CommandSetup (F : Type*) where
  haBaseTopic : PyStr
  maxSlots : ℤ
  registers : FamilyKey → GroBroRegisterMap F

section Handler

variable {F : Type*} [PyUnicode] [PyUpper] (setup : CommandSetup F)

/-- `cmd_type in {"number", "switch", "time", "select"}` -/
def CommandType.isSetting : CommandType → Bool
  | number | switch | time | select => true
  | button | config => false

/-- The switch state that a setting of a NEO's inverter power is mirrored with. -/
def mirroredState (t : CommandTopic) (rawValue : PyStr) : Option PyStr :=
  if t.cmdType = .switch ∧ t.cmdName = "inverter_power".toList ∧
      getDeviceFamily t.deviceId = some .neo ∧
      (upper rawValue = "ON".toList ∨ upper rawValue = "OFF".toList) then some (upper rawValue)
  else none

/-- The branch for settings. -/
def handleSetting (known : GroBroRegisterMap F) (t : CommandTopic) (payload : Bytes) :
    Except CommandFailure (Option HaRequest) := do
  let rawValue ← settingText payload
  match known.holdingRegisters.get? t.cmdName with
  | none => return none
  | some register =>
      match ← parseSetting t.cmdType register.homeassistant rawValue with
      | none => return none
      | some value =>
          match register.growatt with
          | none => throw .failed
          | some growatt =>
              return some (.set t.deviceId growatt.position.registerNo value
                (mirroredState t rawValue))

/-- The branch for config registers; `now` is the time, which register 31 is set to. -/
def handleConfig (now : PyStr) (t : CommandTopic) (payload : Bytes) :
    Except CommandFailure (Option HaRequest) := do
  let registerNo ← intOrInvalid t.cmdName
  let rawValue ← settingText payload
  let value := if registerNo = 31 then now else rawValue
  return some (.setConfig t.deviceId registerNo value)

/-- The branch for a read of one register. -/
def handleRead (known : GroBroRegisterMap F) (t : CommandTopic) :
    Except CommandFailure (Option HaRequest) :=
  match known.holdingRegisters.get? t.cmdName with
  | none => .ok none
  | some register =>
      match register.growatt with
      | none => .error .failed
      | some growatt => .ok (some (.read t.deviceId growatt.position.registerNo))

/-- The handler of a command topic of a known device. -/
def handleCommand (now : PyStr) (known : GroBroRegisterMap F) (t : CommandTopic)
    (payload : Bytes) : Except CommandFailure (Option HaRequest) :=
  if t.cmdType = .button ∧ t.cmdName = "read_all".toList then .ok (some (.readAll t.deviceId))
  else if t.cmdType = .button ∧ t.action = readAction then handleRead known t
  else if t.cmdType.isSetting ∧ t.action = setAction then handleSetting known t payload
  else if t.cmdType = .config ∧ t.action = setAction then handleConfig now t payload
  else .ok none

/-- `__handle_message` -/
def handleMessage [PyLower] (now topic : PyStr) (payload : Bytes) :
    Except CommandFailure (Option HaRequest) :=
  if topic = setup.haBaseTopic ++ "/status".toList then
    .ok (if lower (strip (decodeUtf8Ignore payload)) = "online".toList then
      some .homeAssistantOnline else none)
  else match parseCommandTopic setup.haBaseTopic topic with
  | none => .ok none
  | some t =>
      match knownRegisterMap setup.registers t.deviceId with
      | none => .ok none
      | some known => handleCommand now known t payload

end Handler

/-! ### Sending -/

section Sending

variable (checksum : Bytes → UInt16) (client : BridgeClient)

/-- `send_command` of a command with any integer as its value.  A field that is too small or
too large for its format is an error, and the device id is encoded before. -/
def sendModbus (deviceId : PyStr) (function : GrowattModbusFunction) (registerNo : ℕ)
    (value : ℤ) : Except PyError (Option (PyStr × Bytes)) :=
  match value with
  | .ofNat n => sendCommand checksum client (makeModbusCommand deviceId function registerNo (some n))
  | .negSucc _ =>
      match commandEndpoint client deviceId with
      | none => .ok none
      | some id =>
          match encodeModbusDeviceId id with
          | .error e => .error e
          | .ok _ => .error .structError

/-- A read of one register, which has its number as its value. -/
def sendRead (deviceId : PyStr) (registerNo : ℕ) : Except PyError (Option (PyStr × Bytes)) :=
  sendModbus checksum client deviceId .readSingleRegister registerNo registerNo

/-- The packet that a call hands to the broker. -/
def packetOf (result : Except PyError (Option (PyStr × Bytes))) : List (PyStr × Bytes) :=
  match result with
  | .ok (some packet) => [packet]
  | .ok none => []
  | .error _ => []

/-- The packets of a setting: the write, and unless it raised the read. -/
def settingPackets (deviceId : PyStr) (registerNo : ℕ) (value : ℤ) : List (PyStr × Bytes) :=
  match sendModbus checksum client deviceId .presetSingleRegister registerNo value with
  | .error _ => []
  | result => packetOf result ++ packetOf (sendRead checksum client deviceId registerNo)

/-- What a press of Read All finds. -/
structure ReadAllInput where
  /-- `_read_all_active` -/
  active : PyStr → Bool
  /-- Whether the broker accepts the reads, one after the other. -/
  accepts : ℕ → Bool

/-- The registers that the loop of a Read All comes to, up to an entry that it fails at. -/
def readAllRegisters [PyUnicode] {F : Type*} (maxSlots : ℤ) :
    List (PyStr × HoldingRegisterEntry F) → List ℕ
  | [] => []
  | (name, register) :: rest =>
      match slotHidden maxSlots name with
      | none => []
      | some true => readAllRegisters maxSlots rest
      | some false =>
          match register.growatt with
          | none => []
          | some growatt => growatt.position.registerNo :: readAllRegisters maxSlots rest

/-- The reads of a Read All, up to the first that the broker does not accept. -/
def readAllPackets (deviceId : PyStr) (accepts : ℕ → Bool) : List ℕ → List (PyStr × Bytes)
  | [] => []
  | registerNo :: rest =>
      match sendRead checksum client deviceId registerNo with
      | .ok (some packet) =>
          packet ::
            if accepts 0 then readAllPackets deviceId (fun i => accepts (i + 1)) rest else []
      | .ok none => []
      | .error _ => []

/-- The Modbus packets that a request leads to at once. -/
def HaRequest.packets [PyUnicode] {F : Type*} (setup : CommandSetup F) (input : ReadAllInput) :
    HaRequest → List (PyStr × Bytes)
  | .read deviceId registerNo => packetOf (sendRead checksum client deviceId registerNo)
  | .set deviceId registerNo value _ => settingPackets checksum client deviceId registerNo value
  | .readAll deviceId =>
      if input.active deviceId then []
      else match knownRegisterMap setup.registers deviceId with
      | none => []
      | some known =>
          readAllPackets checksum client deviceId input.accepts
            (readAllRegisters setup.maxSlots known.holdingRegisters.entries)
  | .homeAssistantOnline => []
  | .setConfig _ _ _ => []

end Sending

/-! ### What is sent -/

/-- A command for a device has an endpoint, whose id and the register fit their fields. -/
structure Sendable (client : BridgeClient) (deviceId id : PyStr) (registerNo : ℕ) : Prop where
  endpoint : commandEndpoint client deviceId = some id
  ascii : IsAscii id
  idLength : id.length ≤ 30
  registerNo : registerNo < 65536

/-- The packet of a command. -/
def commandPacket (checksum : Bytes → UInt16) (id : PyStr) (function : GrowattModbusFunction)
    (registerNo value : ℕ) : PyStr × Bytes :=
  ("s/33/".toList ++ id,
    appendCrc checksum (scramble (GrowattModbusFunctionSingle.wire ⟨id, function, registerNo, value⟩)))

/-- A packet for a device in which the device sees a command. -/
structure Carries (packet : PyStr × Bytes) (id : PyStr) (function : GrowattModbusFunction)
    (registerNo value : ℕ) : Prop where
  topic : packet.1 = "s/33/".toList ++ id
  command : SentCommand ⟨id, function, registerNo, value⟩ (unscramble packet.2)

section Sent

variable {checksum : Bytes → UInt16} {client : BridgeClient} {deviceId id : PyStr}
  {function : GrowattModbusFunction} {registerNo : ℕ}

theorem buildGrobro_eq_ok {value : ℕ} {raw : Bytes} :
    GrowattModbusFunctionSingle.buildGrobro ⟨id, function, registerNo, value⟩ = .ok raw ↔
      (IsAscii id ∧ id.length ≤ 30 ∧ registerNo < 65536 ∧ value < 65536) ∧
        raw = GrowattModbusFunctionSingle.wire ⟨id, function, registerNo, value⟩ := by
  constructor
  · intro h
    obtain ⟨ha, hl, hr, hv, rfl⟩ := packCommand_eq_ok (by decide) h
    exact ⟨⟨ha, hl, hr, hv⟩, rfl⟩
  · rintro ⟨⟨ha, hl, hr, hv⟩, rfl⟩
    exact packCommand_ok ha hl (by decide) hr hv

theorem carries_commandPacket (h : Sendable client deviceId id registerNo) {value : ℕ}
    (hv : value < 65536) :
    Carries (commandPacket checksum id function registerNo value) id function registerNo value where
  topic := rfl
  command := sentCommand checksum
    (buildGrobro_eq_ok.mpr ⟨⟨h.ascii, h.idLength, h.registerNo, hv⟩, rfl⟩)

/-- What `send_command` hands to the broker. -/
theorem sendModbus_eq_some_iff {value : ℤ} {packet : PyStr × Bytes} :
    sendModbus checksum client deviceId function registerNo value = .ok (some packet) ↔
      ∃ id, Sendable client deviceId id registerNo ∧ (0 ≤ value ∧ value < 65536) ∧
        packet = commandPacket checksum id function registerNo value.toNat := by
  cases value with
  | ofNat n =>
      show sendCommand checksum client _ = .ok (some (packet.1, packet.2)) ↔ _
      rw [sendCommand_eq_some_iff]
      constructor
      · rintro ⟨id, raw, hendpoint, hraw, htopic, hpayload⟩
        obtain ⟨⟨ha, hl, hr, hv⟩, rfl⟩ := buildGrobro_eq_ok.mp hraw
        have hfits : (n : ℤ) < 65536 := by exact_mod_cast hv
        exact ⟨id, ⟨hendpoint, ha, hl, hr⟩, ⟨Int.natCast_nonneg n, hfits⟩,
          Prod.ext htopic hpayload⟩
      · rintro ⟨id, ⟨hendpoint, ha, hl, hr⟩, ⟨-, hfits⟩, rfl⟩
        have hv : n < 65536 := Int.ofNat_lt.mp hfits
        exact ⟨id, _, hendpoint, buildGrobro_eq_ok.mpr ⟨⟨ha, hl, hr, hv⟩, rfl⟩, rfl, rfl⟩
  | negSucc n =>
      constructor
      · intro h
        rw [sendModbus] at h
        split at h
        · cases h
        · split at h <;> cases h
      · rintro ⟨id, -, ⟨hnonneg, -⟩, -⟩
        exact absurd hnonneg (by omega)

theorem sendCommand_eq_none_iff {cmd : GrowattModbusFunctionSingle} :
    sendCommand checksum client cmd = .ok none ↔ commandEndpoint client cmd.deviceId = none := by
  -- a command that is built is published
  have hbuilt : ∀ c : GrowattModbusFunctionSingle,
      (do
        let scrambled := scramble (← c.buildGrobro)
        return some ("s/33/".toList ++ c.deviceId, appendCrc checksum scrambled)) ≠
          Except.ok (none : Option (PyStr × Bytes)) := by
    intro c h
    rcases hraw : c.buildGrobro with e | raw
    · rw [hraw] at h
      cases h
    · rw [hraw] at h
      cases h
  unfold sendCommand commandEndpoint
  by_cases hg : isGateway cmd.deviceId
  · rw [if_pos hg, if_pos hg]
    rcases hget : client.ptqForRaq.get? cmd.deviceId with - | (- | ⟨x, endpoint⟩)
    · simp
    · simp
    · simpa using hbuilt { cmd with deviceId := x :: endpoint }
  · rw [if_neg hg, if_neg hg]
    simpa using hbuilt cmd

/-- A gateway whose inverter is not known yet is the one case without packet and error. -/
theorem sendModbus_eq_none_iff {value : ℤ} :
    sendModbus checksum client deviceId function registerNo value = .ok none ↔
      commandEndpoint client deviceId = none := by
  cases value with
  | ofNat n => exact sendCommand_eq_none_iff
  | negSucc n =>
      rw [sendModbus]
      rcases commandEndpoint client deviceId with - | id
      · exact ⟨fun _ => rfl, fun _ => rfl⟩
      · constructor
        · intro h
          rcases hid : encodeModbusDeviceId id with e | field
          · simp only [hid] at h
            cases h
          · simp only [hid] at h
            cases h
        · intro h
          cases h

/-- **The packets of a setting**: the write and the read, or nothing. -/
theorem settingPackets_cases (checksum : Bytes → UInt16) (client : BridgeClient)
    (deviceId : PyStr) (registerNo : ℕ) (value : ℤ) :
    (∃ id, Sendable client deviceId id registerNo ∧ (0 ≤ value ∧ value < 65536) ∧
      settingPackets checksum client deviceId registerNo value =
        [commandPacket checksum id .presetSingleRegister registerNo value.toNat,
          commandPacket checksum id .readSingleRegister registerNo registerNo]) ∨
    ((¬ ∃ id, Sendable client deviceId id registerNo ∧ (0 ≤ value ∧ value < 65536)) ∧
      settingPackets checksum client deviceId registerNo value = []) := by
  unfold settingPackets
  rcases hwrite : sendModbus checksum client deviceId .presetSingleRegister registerNo value
    with e | (- | packet)
  · right
    refine ⟨?_, rfl⟩
    rintro ⟨id, hsend, hvalue⟩
    have hsent : sendModbus checksum client deviceId .presetSingleRegister registerNo value =
        .ok (some (commandPacket checksum id .presetSingleRegister registerNo value.toNat)) :=
      sendModbus_eq_some_iff.mpr ⟨id, hsend, hvalue, rfl⟩
    rw [hwrite] at hsent
    cases hsent
  · -- without an endpoint the read goes nowhere either
    right
    have hendpoint := sendModbus_eq_none_iff.mp hwrite
    have hread : sendRead checksum client deviceId registerNo = .ok none :=
      sendModbus_eq_none_iff.mpr hendpoint
    refine ⟨?_, by rw [hread]; rfl⟩
    rintro ⟨id, hsend, -⟩
    have hsome := hsend.endpoint
    rw [hendpoint] at hsome
    cases hsome
  · left
    obtain ⟨id, hsend, hvalue, rfl⟩ := sendModbus_eq_some_iff.mp hwrite
    have hregister := hsend.registerNo
    have hread : sendRead checksum client deviceId registerNo =
        .ok (some (commandPacket checksum id .readSingleRegister registerNo registerNo)) :=
      sendModbus_eq_some_iff.mpr ⟨id, hsend, by omega, rfl⟩
    exact ⟨id, hsend, hvalue, by rw [hread]; rfl⟩

/-- The reads of a Read All that are sent: those of its registers in their order, up to the
first that the broker does not accept, or whose number does not fit its field. -/
structure SentReads (accepts : ℕ → Bool) (registers reads : List ℕ) : Prop where
  inOrder : reads <+: registers
  fits : ∀ registerNo ∈ reads, registerNo < 65536
  goesOn : ∀ i, i + 1 < reads.length → accepts i = true
  complete : (∀ i < reads.length, accepts i = true) →
    ∀ registerNo, registers[reads.length]? = some registerNo → 65536 ≤ registerNo

/-- One of two such lists is not shorter than the other, -/
theorem SentReads.length_le {accepts : ℕ → Bool} {registers reads reads' : List ℕ}
    (h : SentReads accepts registers reads) (h' : SentReads accepts registers reads') :
    reads'.length ≤ reads.length := by
  by_contra hlonger
  rw [not_le] at hlonger
  have haccepted : ∀ i < reads.length, accepts i = true := fun i hi =>
    h'.goesOn i (lt_of_le_of_lt hi hlonger)
  -- the register behind the shorter list is in the longer one
  have hnext : registers[reads.length]? = some reads'[reads.length] := by
    obtain ⟨rest, hrest⟩ := h'.inOrder
    rw [← hrest, List.getElem?_append_left hlonger, List.getElem?_eq_getElem hlonger]
  exact absurd (h'.fits _ (List.getElem_mem hlonger))
    (not_lt.mpr (h.complete haccepted _ hnext))

/-- so there is one. -/
theorem SentReads.unique {accepts : ℕ → Bool} {registers reads reads' : List ℕ}
    (h : SentReads accepts registers reads) (h' : SentReads accepts registers reads') :
    reads = reads' := by
  have hlength := le_antisymm (h'.length_le h) (h.length_le h')
  rw [List.prefix_iff_eq_take.mp h.inOrder, List.prefix_iff_eq_take.mp h'.inOrder, hlength]

/-- The reads are sent if the device has an endpoint with an id that fits its field. -/
theorem readAllPackets_spec (checksum : Bytes → UInt16)
    (hendpoint : commandEndpoint client deviceId = some id) (hascii : IsAscii id)
    (hlength : id.length ≤ 30) (accepts : ℕ → Bool) (registers : List ℕ) :
    ∃ reads, SentReads accepts registers reads ∧
      readAllPackets checksum client deviceId accepts registers =
        reads.map fun registerNo =>
          commandPacket checksum id .readSingleRegister registerNo registerNo := by
  induction registers generalizing accepts with
  | nil => exact ⟨[], ⟨List.prefix_rfl, nofun, nofun, nofun⟩, rfl⟩
  | cons registerNo rest ih =>
      by_cases hregister : registerNo < 65536
      · have hsent : sendRead checksum client deviceId registerNo =
            .ok (some (commandPacket checksum id .readSingleRegister registerNo registerNo)) :=
          sendModbus_eq_some_iff.mpr ⟨id, ⟨hendpoint, hascii, hlength, hregister⟩, by omega, rfl⟩
        rcases haccepted : accepts 0 with - | -
        · -- the loop ends behind a read that is not accepted
          refine ⟨[registerNo], ⟨⟨rest, rfl⟩, ?_, ?_, ?_⟩, ?_⟩
          · intro r hr
            rw [List.mem_singleton.mp hr]
            exact hregister
          · intro i hi
            exact absurd hi (by rw [List.length_singleton]; omega)
          · intro hall
            exact absurd ((hall 0 Nat.zero_lt_one).symm.trans haccepted) Bool.noConfusion
          · rw [readAllPackets, hsent, haccepted]
            rfl
        · obtain ⟨reads, hreads, hpackets⟩ := ih fun i => accepts (i + 1)
          refine ⟨registerNo :: reads, ⟨?_, ?_, ?_, ?_⟩, ?_⟩
          · exact (List.prefix_cons_inj registerNo).mpr hreads.inOrder
          · intro r hr
            rcases List.mem_cons.mp hr with rfl | hr
            · exact hregister
            · exact hreads.fits r hr
          · intro i hi
            cases i with
            | zero => exact haccepted
            | succ i => exact hreads.goesOn i (Nat.lt_of_succ_lt_succ hi)
          · intro hall
            exact hreads.complete fun i hi => hall (i + 1) (Nat.succ_lt_succ hi)
          · rw [readAllPackets, hsent, haccepted]
            simp only [if_true, hpackets, List.map_cons]
      · have hnone : ∀ packet, sendRead checksum client deviceId registerNo ≠ .ok (some packet) := by
          intro packet hsent
          obtain ⟨id', hsend, -⟩ := sendModbus_eq_some_iff.mp hsent
          exact hregister hsend.registerNo
        refine ⟨[], ⟨List.nil_prefix, nofun, nofun, fun _ r hr => ?_⟩, ?_⟩
        · obtain rfl : registerNo = r := Option.some.inj hr
          exact not_lt.mp hregister
        · rw [readAllPackets]
          rcases hresult : sendRead checksum client deviceId registerNo with e | (- | packet)
          · rfl
          · rfl
          · exact absurd hresult (hnone packet)

/-- A Read All that sends anything has such an endpoint. -/
theorem endpoint_of_readAllPackets {accepts : ℕ → Bool} {registers : List ℕ}
    (h : readAllPackets checksum client deviceId accepts registers ≠ []) :
    ∃ id, commandEndpoint client deviceId = some id ∧ IsAscii id ∧ id.length ≤ 30 := by
  cases registers with
  | nil => exact absurd rfl h
  | cons registerNo rest =>
      rw [readAllPackets] at h
      rcases hsent : sendRead checksum client deviceId registerNo with e | (- | packet)
      · rw [hsent] at h
        exact absurd rfl h
      · rw [hsent] at h
        exact absurd rfl h
      · obtain ⟨id, hsend, -⟩ := sendModbus_eq_some_iff.mp hsent
        exact ⟨id, hsend.endpoint, hsend.ascii, hsend.idLength⟩

end Sent

/-! ### Messages and packets -/

section Messages

variable {F : Type*} [PyUnicode] [PyUpper]

/-- A topic names a holding register of a known device. -/
structure Names (setup : CommandSetup F) (topic : PyStr) (t : CommandTopic) (registerNo : ℕ)
    (register : HomeAssistantCommandRegister) : Prop where
  parsed : parseCommandTopic setup.haBaseTopic topic = some t
  found : ∃ known entry growatt, knownRegisterMap setup.registers t.deviceId = some known ∧
    known.holdingRegisters.get? t.cmdName = some entry ∧ entry.homeassistant = register ∧
    entry.growatt = some growatt ∧ growatt.position.registerNo = registerNo

/-- A topic is the button that reads all registers of a known device. -/
structure NamesAll (setup : CommandSetup F) (topic : PyStr) (t : CommandTopic)
    (registers : List ℕ) : Prop where
  parsed : parseCommandTopic setup.haBaseTopic topic = some t
  type : t.cmdType = .button
  name : t.cmdName = "read_all".toList
  found : ∃ known, knownRegisterMap setup.registers t.deviceId = some known ∧
    readAllRegisters setup.maxSlots known.holdingRegisters.entries = registers

/-- What a message commands: a button reads the register it names, or all registers one after
the other, and a setting whose payload means a value writes it and reads it back. -/
inductive Commanded (setup : CommandSetup F) (checksum : Bytes → UInt16) (client : BridgeClient)
    (input : ReadAllInput) (topic : PyStr) (payload : Bytes) : List (PyStr × Bytes) → Prop where
  | read (t : CommandTopic) (registerNo : ℕ) (register : HomeAssistantCommandRegister)
      (id : PyStr) (hnames : Names setup topic t registerNo register)
      (htype : t.cmdType = .button) (hname : t.cmdName ≠ "read_all".toList)
      (haction : t.action = readAction) (hsend : Sendable client t.deviceId id registerNo) :
      Commanded setup checksum client input topic payload
        [commandPacket checksum id .readSingleRegister registerNo registerNo]
  | setting (t : CommandTopic) (registerNo : ℕ) (register : HomeAssistantCommandRegister)
      (id rawValue : PyStr) (value : ℕ) (hnames : Names setup topic t registerNo register)
      (htype : t.cmdType.isSetting = true) (haction : t.action = setAction)
      (htext : settingText payload = .ok rawValue)
      (hparse : parseSetting t.cmdType register rawValue = .ok (some (value : ℤ)))
      (hsend : Sendable client t.deviceId id registerNo) (hvalue : value < 65536) :
      Commanded setup checksum client input topic payload
        [commandPacket checksum id .presetSingleRegister registerNo value,
          commandPacket checksum id .readSingleRegister registerNo registerNo]
  | readAll (t : CommandTopic) (registers reads : List ℕ) (id : PyStr)
      (hnames : NamesAll setup topic t registers) (hidle : input.active t.deviceId = false)
      (hendpoint : commandEndpoint client t.deviceId = some id) (hascii : IsAscii id)
      (hlength : id.length ≤ 30) (hreads : SentReads input.accepts registers reads) :
      Commanded setup checksum client input topic payload
        (reads.map fun registerNo =>
          commandPacket checksum id .readSingleRegister registerNo registerNo)

variable [PyLower]

/-- The Modbus packets that a message leads to at once, if its handler comes to a request. -/
def messagePackets (setup : CommandSetup F) (checksum : Bytes → UInt16) (client : BridgeClient)
    (input : ReadAllInput) (now topic : PyStr) (payload : Bytes) : List (PyStr × Bytes) :=
  match handleMessage setup now topic payload with
  | .ok (some request) => request.packets checksum client setup input
  | .ok none => []
  | .error _ => []

variable {setup : CommandSetup F} {checksum : Bytes → UInt16} {client : BridgeClient}
  {input : ReadAllInput} {now topic : PyStr} {payload : Bytes}

theorem handleMessage_of_parsed {t : CommandTopic} {known : GroBroRegisterMap F}
    (hparsed : parseCommandTopic setup.haBaseTopic topic = some t)
    (hknown : knownRegisterMap setup.registers t.deviceId = some known) :
    handleMessage setup now topic payload = handleCommand now known t payload := by
  have hstatus : topic ≠ setup.haBaseTopic ++ "/status".toList := by
    rintro rfl
    rw [parseCommandTopic_status] at hparsed
    cases hparsed
  rw [handleMessage, if_neg hstatus]
  simp only [hparsed, hknown]

omit [PyLower] in
/-- A setting is accepted with the value that its payload means for the register. -/
theorem handleSetting_eq_some_iff {known : GroBroRegisterMap F} {t : CommandTopic}
    {request : HaRequest} :
    handleSetting known t payload = .ok (some request) ↔
      ∃ rawValue entry value growatt, settingText payload = .ok rawValue ∧
        known.holdingRegisters.get? t.cmdName = some entry ∧
        parseSetting t.cmdType entry.homeassistant rawValue = .ok (some value) ∧
        entry.growatt = some growatt ∧
        request = .set t.deviceId growatt.position.registerNo value (mirroredState t rawValue) := by
  unfold handleSetting
  rcases htext : settingText payload with e | rawValue
  · simp [Bind.bind, Except.bind]
  rcases hentry : known.holdingRegisters.get? t.cmdName with - | entry
  · simp
  rcases hparse : parseSetting t.cmdType entry.homeassistant rawValue with e | (- | value)
  · simp [hparse, Bind.bind, Except.bind]
  · simp [hparse]
  rcases hgrowatt : entry.growatt with - | growatt
  · simp [hparse, hgrowatt, throw, throwThe, MonadExceptOf.throw]
  · simp [hparse, hgrowatt, eq_comm]

omit [PyLower] [PyUpper] in
theorem handleConfig_eq_some {t : CommandTopic} {request : HaRequest}
    (h : handleConfig now t payload = .ok (some request)) :
    ∃ registerNo value, request = .setConfig t.deviceId registerNo value := by
  unfold handleConfig at h
  rcases hregister : intOrInvalid t.cmdName with e | registerNo
  · rw [hregister] at h
    cases h
  rcases htext : settingText payload with e | rawValue
  · rw [hregister, htext] at h
    cases h
  · rw [hregister, htext] at h
    exact ⟨registerNo, _, (Option.some.inj (Except.ok.inj h)).symm⟩

omit [PyLower] [PyUnicode] [PyUpper] in
theorem handleRead_eq_some_iff {known : GroBroRegisterMap F} {t : CommandTopic}
    {request : HaRequest} :
    handleRead known t = .ok (some request) ↔
      ∃ entry growatt, known.holdingRegisters.get? t.cmdName = some entry ∧
        entry.growatt = some growatt ∧ request = .read t.deviceId growatt.position.registerNo := by
  unfold handleRead
  rcases hentry : known.holdingRegisters.get? t.cmdName with - | entry
  · simp
  rcases hgrowatt : entry.growatt with - | growatt
  · simp [hgrowatt]
  · simp [hgrowatt, eq_comm]

/-- A message that leads to packets comes from a command topic of a known device. -/
theorem handleCommand_of_packets
    (h : messagePackets setup checksum client input now topic payload ≠ []) :
    ∃ t known request, parseCommandTopic setup.haBaseTopic topic = some t ∧
      knownRegisterMap setup.registers t.deviceId = some known ∧
      handleCommand now known t payload = .ok (some request) ∧
      messagePackets setup checksum client input now topic payload =
        request.packets checksum client setup input := by
  rcases hparsed : parseCommandTopic setup.haBaseTopic topic with - | t
  · -- the status topic, or no command
    refine absurd ?_ h
    rw [messagePackets, handleMessage, hparsed]
    by_cases hstatus : topic = setup.haBaseTopic ++ "/status".toList
    · rw [if_pos hstatus]
      split_ifs <;> rfl
    · rw [if_neg hstatus]
  rcases hknown : knownRegisterMap setup.registers t.deviceId with - | known
  · refine absurd ?_ h
    have hstatus : topic ≠ setup.haBaseTopic ++ "/status".toList := by
      rintro rfl
      rw [parseCommandTopic_status] at hparsed
      cases hparsed
    simp only [messagePackets, handleMessage, if_neg hstatus, hparsed, hknown]
  rcases hcommand : handleCommand now known t payload with e | (- | request)
  · refine absurd ?_ h
    rw [messagePackets, handleMessage_of_parsed hparsed hknown, hcommand]
  · refine absurd ?_ h
    rw [messagePackets, handleMessage_of_parsed hparsed hknown, hcommand]
  · refine ⟨t, known, request, rfl, hknown, hcommand, ?_⟩
    rw [messagePackets, handleMessage_of_parsed hparsed hknown, hcommand]

omit [PyLower] in
/-- The packets of a Read All. -/
theorem commanded_of_readAll {t : CommandTopic} {known : GroBroRegisterMap F}
    (hparsed : parseCommandTopic setup.haBaseTopic topic = some t)
    (hknown : knownRegisterMap setup.registers t.deviceId = some known)
    (htype : t.cmdType = .button) (hname : t.cmdName = "read_all".toList)
    (h : (HaRequest.readAll t.deviceId).packets checksum client setup input ≠ []) :
    Commanded setup checksum client input topic payload
      ((HaRequest.readAll t.deviceId).packets checksum client setup input) := by
  rw [HaRequest.packets, hknown] at h ⊢
  rcases hactive : input.active t.deviceId with - | -
  · rw [hactive] at h
    obtain ⟨id, hendpoint, hascii, hlength⟩ := endpoint_of_readAllPackets h
    obtain ⟨reads, hreads, hpackets⟩ := readAllPackets_spec checksum hendpoint hascii
      hlength input.accepts (readAllRegisters setup.maxSlots known.holdingRegisters.entries)
    rw [if_neg Bool.false_ne_true]
    show Commanded _ _ _ _ _ _ (readAllPackets _ _ _ _ _)
    rw [hpackets]
    exact .readAll t _ reads id ⟨hparsed, htype, hname, known, hknown, rfl⟩ hactive hendpoint
      hascii hlength hreads
  · rw [hactive] at h
    exact absurd rfl h

theorem commanded_of_packets
    (h : messagePackets setup checksum client input now topic payload ≠ []) :
    Commanded setup checksum client input topic payload
      (messagePackets setup checksum client input now topic payload) := by
  obtain ⟨t, known, request, hparsed, hknown, hcommand, hpackets⟩ := handleCommand_of_packets h
  rw [hpackets] at h ⊢
  unfold handleCommand at hcommand
  split_ifs at hcommand with hall hread hset hconfig
  · obtain rfl := Option.some.inj (Except.ok.inj hcommand)
    exact commanded_of_readAll hparsed hknown hall.1 hall.2 h
  · obtain ⟨entry, growatt, hentry, hgrowatt, rfl⟩ := handleRead_eq_some_iff.mp hcommand
    obtain ⟨htype, haction⟩ := hread
    rcases hsent : sendRead checksum client t.deviceId growatt.position.registerNo
      with e | (- | packet)
    · exact absurd (by rw [HaRequest.packets, hsent]; rfl) h
    · exact absurd (by rw [HaRequest.packets, hsent]; rfl) h
    · obtain ⟨id, hsend, -, rfl⟩ := sendModbus_eq_some_iff.mp hsent
      have hnames : Names setup topic t growatt.position.registerNo entry.homeassistant :=
        ⟨hparsed, known, entry, growatt, hknown, hentry, rfl, hgrowatt, rfl⟩
      rw [HaRequest.packets, hsent]
      exact .read t _ _ id hnames htype (fun hname => hall ⟨htype, hname⟩) haction hsend
  · obtain ⟨rawValue, entry, value, growatt, htext, hentry, hparse, hgrowatt, rfl⟩ :=
      handleSetting_eq_some_iff.mp hcommand
    obtain ⟨htype, haction⟩ := hset
    rcases settingPackets_cases checksum client t.deviceId growatt.position.registerNo value
      with ⟨id, hsend, hvalue, hsent⟩ | ⟨-, hsent⟩
    · have hnames : Names setup topic t growatt.position.registerNo entry.homeassistant :=
        ⟨hparsed, known, entry, growatt, hknown, hentry, rfl, hgrowatt, rfl⟩
      obtain ⟨n, rfl⟩ := Int.eq_ofNat_of_zero_le hvalue.1
      rw [HaRequest.packets, hsent]
      exact .setting t _ _ id rawValue n hnames htype haction htext hparse hsend
        (by exact_mod_cast hvalue.2)
    · exact absurd hsent h
  · -- a config register is not set by Modbus
    obtain ⟨registerNo, value, rfl⟩ := handleConfig_eq_some hcommand
    exact absurd rfl h
  · cases hcommand

theorem packets_of_commanded {packets : List (PyStr × Bytes)}
    (h : Commanded setup checksum client input topic payload packets) :
    messagePackets setup checksum client input now topic payload = packets := by
  cases h with
  | read t registerNo register id hnames htype hname haction hsend =>
      obtain ⟨hparsed, known, entry, growatt, hknown, hentry, rfl, hgrowatt, rfl⟩ := hnames
      have hcommand : handleCommand now known t payload =
          .ok (some (.read t.deviceId growatt.position.registerNo)) := by
        rw [handleCommand, if_neg fun hall => hname hall.2, if_pos ⟨htype, haction⟩]
        exact handleRead_eq_some_iff.mpr ⟨entry, growatt, hentry, hgrowatt, rfl⟩
      have hregister := hsend.registerNo
      have hsent : sendRead checksum client t.deviceId growatt.position.registerNo =
          .ok (some (commandPacket checksum id .readSingleRegister growatt.position.registerNo
            growatt.position.registerNo)) :=
        sendModbus_eq_some_iff.mpr ⟨id, hsend, by omega, rfl⟩
      rw [messagePackets, handleMessage_of_parsed hparsed hknown, hcommand]
      show packetOf (sendRead checksum client t.deviceId growatt.position.registerNo) = _
      rw [hsent]
      rfl
  | setting t registerNo register id rawValue value hnames htype haction htext hparse hsend
      hvalue =>
      obtain ⟨hparsed, known, entry, growatt, hknown, hentry, rfl, hgrowatt, rfl⟩ := hnames
      have hbutton : t.cmdType ≠ .button := by
        intro hbutton
        rw [hbutton] at htype
        cases htype
      have hcommand : handleCommand now known t payload = .ok (some (.set t.deviceId
          growatt.position.registerNo value (mirroredState t rawValue))) := by
        rw [handleCommand, if_neg fun hall => hbutton hall.1, if_neg fun hread => hbutton hread.1,
          if_pos ⟨htype, haction⟩]
        exact handleSetting_eq_some_iff.mpr
          ⟨rawValue, entry, value, growatt, htext, hentry, hparse, hgrowatt, rfl⟩
      rw [messagePackets, handleMessage_of_parsed hparsed hknown, hcommand]
      show settingPackets checksum client t.deviceId growatt.position.registerNo value = _
      rcases settingPackets_cases checksum client t.deviceId growatt.position.registerNo value
        with ⟨id', hsend', -, hsent⟩ | ⟨hnone, -⟩
      · obtain rfl : id' = id := by
          have hsame := hsend'.endpoint
          rw [hsend.endpoint] at hsame
          exact (Option.some.inj hsame).symm
        rw [hsent, Int.toNat_natCast]
      · exact absurd ⟨id, hsend, by omega⟩ hnone
  | readAll t registers reads id hnames hidle hendpoint hascii hlength hreads =>
      obtain ⟨hparsed, htype, hname, known, hknown, rfl⟩ := hnames
      have hcommand : handleCommand now known t payload = .ok (some (.readAll t.deviceId)) :=
        if_pos ⟨htype, hname⟩
      obtain ⟨reads', hreads', hpackets⟩ := readAllPackets_spec checksum hendpoint
        hascii hlength input.accepts
        (readAllRegisters setup.maxSlots known.holdingRegisters.entries)
      obtain rfl := hreads.unique hreads'
      rw [messagePackets, handleMessage_of_parsed hparsed hknown, hcommand]
      show (HaRequest.readAll t.deviceId).packets checksum client setup input = _
      rw [HaRequest.packets, hknown, hidle, if_neg Bool.false_ne_true]
      exact hpackets

omit [PyLower] in
/-- What a message commands goes to one endpoint and is seen there as it was meant. -/
theorem Commanded.carries {packets : List (PyStr × Bytes)}
    (h : Commanded setup checksum client input topic payload packets) :
    ∃ t id, parseCommandTopic setup.haBaseTopic topic = some t ∧
      commandEndpoint client t.deviceId = some id ∧
      ((∃ registerNo register, Names setup topic t registerNo register ∧
        ∀ packet ∈ packets, Carries packet id .readSingleRegister registerNo registerNo ∨
          (t.cmdType.isSetting = true ∧ ∃ (rawValue : PyStr) (value : ℕ),
            settingText payload = .ok rawValue ∧
            parseSetting t.cmdType register rawValue = .ok (some (value : ℤ)) ∧
            Carries packet id .presetSingleRegister registerNo value)) ∨
      ∃ registers, NamesAll setup topic t registers ∧ ∀ packet ∈ packets, ∃ registerNo ∈ registers,
        Carries packet id .readSingleRegister registerNo registerNo) := by
  cases h with
  | read t registerNo register id hnames htype hname haction hsend =>
      refine ⟨t, id, hnames.parsed, hsend.endpoint, Or.inl ⟨registerNo, register, hnames, ?_⟩⟩
      intro packet hpacket
      obtain rfl := List.mem_singleton.mp hpacket
      exact Or.inl (carries_commandPacket hsend hsend.registerNo)
  | setting t registerNo register id rawValue value hnames htype haction htext hparse hsend
      hvalue =>
      refine ⟨t, id, hnames.parsed, hsend.endpoint, Or.inl ⟨registerNo, register, hnames, ?_⟩⟩
      intro packet hpacket
      rcases List.mem_cons.mp hpacket with rfl | hpacket
      · exact Or.inr ⟨htype, rawValue, value, htext, hparse, carries_commandPacket hsend hvalue⟩
      · obtain rfl := List.mem_singleton.mp hpacket
        exact Or.inl (carries_commandPacket hsend hsend.registerNo)
  | readAll t registers reads id hnames hidle hendpoint hascii hlength hreads =>
      refine ⟨t, id, hnames.parsed, hendpoint, Or.inr ⟨registers, hnames, ?_⟩⟩
      intro packet hpacket
      obtain ⟨registerNo, hread, rfl⟩ := List.mem_map.mp hpacket
      have hfits := hreads.fits registerNo hread
      exact ⟨registerNo, hreads.inOrder.subset hread,
        carries_commandPacket ⟨hendpoint, hascii, hlength, hfits⟩ hfits⟩

/-- **From Home Assistant to the wire.**  A message leads to packets exactly if it commands
them, and these go to the endpoint of the device that the topic names: reads of the register
that the topic names, and before such a read a write of it, of the value that the payload
means for the register; or, for the button that reads all, reads of the device's registers. -/
theorem message_packets_exact (setup : CommandSetup F) (checksum : Bytes → UInt16)
    (client : BridgeClient) (input : ReadAllInput) (now topic : PyStr) (payload : Bytes) :
    (∀ packets, packets ≠ [] →
      (messagePackets setup checksum client input now topic payload = packets ↔
        Commanded setup checksum client input topic payload packets)) ∧
    (messagePackets setup checksum client input now topic payload ≠ [] →
      ∃ t id, parseCommandTopic setup.haBaseTopic topic = some t ∧
        commandEndpoint client t.deviceId = some id ∧
        ((∃ registerNo register, Names setup topic t registerNo register ∧
          ∀ packet ∈ messagePackets setup checksum client input now topic payload,
            Carries packet id .readSingleRegister registerNo registerNo ∨
            (t.cmdType.isSetting = true ∧ ∃ (rawValue : PyStr) (value : ℕ),
              settingText payload = .ok rawValue ∧
              parseSetting t.cmdType register rawValue = .ok (some (value : ℤ)) ∧
              Carries packet id .presetSingleRegister registerNo value)) ∨
        ∃ registers, NamesAll setup topic t registers ∧
          ∀ packet ∈ messagePackets setup checksum client input now topic payload,
            ∃ registerNo ∈ registers,
              Carries packet id .readSingleRegister registerNo registerNo)) := by
  constructor
  · intro packets hne
    constructor
    · rintro rfl
      exact commanded_of_packets hne
    · exact packets_of_commanded
  · intro hne
    exact (commanded_of_packets hne).carries

end Messages

end GroBro
