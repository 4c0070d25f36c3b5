/-
GroBro/MessageDispatch.lean

`Client.__on_message` of `grobro/grobro/client.py`: a packet from a device is
unscrambled and dispatched on the words at offsets 4 and 6.  The configuration
and register branches are followed to the callbacks they call; the branches for
configuration read responses, acknowledgements and smart meters are entered with
the unscrambled bytes and not followed here.  Callbacks return normally; logging and
diagnostic captures are left out.

The word at offset 4 is the length of the packet (`WireGrammar.length`), and the
dispatcher compares it with 340, 341 and 387 before it looks at the message type.
`registerData_iff` says for which packets of registers that makes no difference.
-/
import GroBro.CommandRoundTrip
import GroBro.ConfigTlv
import GroBro.ModbusRoundTrip
import GroBro.Registers

namespace GroBro

open ByteCodec OrderedDict

/-! ### What a packet leads to -/

structure HoldingRegisterValue (F : Type*) where
  name : PyStr
  value : RegisterValue F
  register : HomeAssistantHoldingRegister

/-- The calls a packet leads to, in order. -/
inductive Effect (F : Type*) where
  | publishToGrowattServer (deviceId : PyStr)
  | findConfigOffset (data : Bytes)
  | parseConfigType (data : Bytes) (offset : ℕ)
  | onConfig (deviceId : PyStr) (config : DeviceConfig)
  | configReadResponse (data : Bytes)
  | configAck (data : Bytes)
  | smartMeter (data : Bytes)
  | onHoldingRegisterInput (deviceId : PyStr) (payload : List (HoldingRegisterValue F))
  | onInputRegister (deviceId : PyStr) (payload : Dict PyStr (RegisterValue F))

/-- Calls that take bytes for a configuration block, or announce one. -/
def Effect.IsConfig {F : Type*} : Effect F → Prop
  | .findConfigOffset _ | .parseConfigType _ _ | .onConfig _ _ => True
  | _ => False

/-- What the bridge is set up with. -/
structure BridgeSetup (F : Type*) where
  registers : FamilyRegisters F
  cloudAllowsDevice : PyStr → Bool

/-- The state of the client that dispatching reads or writes. -/
structure BridgeClient where
  forwardStopped : Bool
  ptqForRaq : Dict PyStr PyStr

structure MqttMessage where
  topic : PyStr
  payload : Bytes
  forwardedFor : Option PyStr

/-- The serial in the last topic segment, without stray characters. -/
def extractDeviceId (topic : PyStr) : PyStr :=
  (topic.reverse.takeWhile (· ≠ '/')).reverse.filter Char.isAlphanum

def rememberGateway (client : BridgeClient) (gatewayId : PyStr) (endpoint : Option PyStr) :
    BridgeClient :=
  match endpoint with
  | none => client
  | some endpoint =>
      if ¬ isGateway gatewayId ∨ endpoint.take 3 ≠ ['P', 'T', 'Q'] then client
      else { client with ptqForRaq := client.ptqForRaq.insert gatewayId endpoint }

/-! ### Registers -/

section Registers

variable {F : Type*} [PyFloat F]

def RegisterValue.isOne : RegisterValue F → Bool
  | .text _ => false
  | .float x => PyFloat.equals x 1
  | .int n => n == 1

/-- `isinstance(value, (int, float)) and value > 1_000_000` -/
def RegisterValue.impossiblePower : RegisterValue F → Bool
  | .text _ => false
  | .float x => PyFloat.exceeds x 1000000
  | .int n => decide (1000000 < n)

/-- A switch is published as `ON` or `OFF`. -/
def holdingValue (register : HomeAssistantHoldingRegister) (value : RegisterValue F) :
    RegisterValue F :=
  if register.type = "switch".toList then
    .text (if value.isOne then "ON".toList else "OFF".toList)
  else value

/-- The loop over the holding registers. -/
def holdingPayload (message : GrowattModbusMessage) :
    List (PyStr × GroBroHoldingRegister F) → List (HoldingRegisterValue F)
  | [] => []
  | (name, register) :: rest =>
      match register.growatt with
      | none => holdingPayload message rest
      | some growatt =>
          match growatt.data.parse (message.getData growatt.position) with
          | none => holdingPayload message rest
          | some value =>
              ⟨name, holdingValue register.homeassistant value, register.homeassistant⟩ ::
                holdingPayload message rest

/-- The loop over the input registers; `none` drops the packet. -/
def inputPayload (message : GrowattModbusMessage) (payload : Dict PyStr (RegisterValue F)) :
    List (PyStr × GroBroInputRegister F) → Option (Dict PyStr (RegisterValue F))
  | [] => some payload
  | (name, register) :: rest =>
      match register.growatt.data.parse (message.getData register.growatt.position) with
      | none => inputPayload message payload rest
      | some value =>
          if name = "Ppv".toList ∧ value.impossiblePower then none
          else inputPayload message (payload.insert name value) rest

/-- The endpoint whose registers a device reports: the inverter behind a gateway. -/
def modbusDeviceId (client : BridgeClient) (deviceId : PyStr) : PyStr :=
  (client.ptqForRaq.get? deviceId).getD deviceId

/-- The branch for generic Modbus messages. -/
def onRegisters (setup : BridgeSetup F) (client : BridgeClient) (deviceId : PyStr)
    (message : GrowattModbusMessage) : List (Effect F) :=
  let modbusDeviceId := modbusDeviceId client deviceId
  match getKnownRegisters setup.registers modbusDeviceId with
  | none => []
  | some knownRegisters =>
      match message.function with
      | .readSingleRegister =>
          let payload := holdingPayload message knownRegisters.holdingRegisters.entries
          if payload = [] then [] else [.onHoldingRegisterInput modbusDeviceId payload]
      | .readInputRegister =>
          match inputPayload message ∅ knownRegisters.inputRegisters.entries with
          | none => []
          | some payload =>
              if payload.entries = [] then [] else [.onInputRegister modbusDeviceId payload]
      | _ => []

end Registers

/-! ### Dispatch -/

section Dispatch

variable {F : Type*} [PyFloat F]

/-- The configuration of the inverter behind a ShineWeLink gateway; an empty model or version is
not copied. -/
def ptqConfig (ptqSerial : PyStr) (config : DeviceConfig) : DeviceConfig
  | .serialNumber => rejectPlaceholderSerialNumber (some ptqSerial)
  | .deviceType => some ['5', '5']
  | .modelId => (config .modelId).filter (· ≠ [])
  | .swVersion => (config .swVersion).filter (· ≠ [])
  | .wifiSignal => config .wifiSignal
  | _ => none

/-- The branch for configuration TLV blocks. -/
def onConfigTlv (client : BridgeClient) (deviceId : PyStr) (unscrambled : Bytes) :
    BridgeClient × List (Effect F) :=
  let configOffset := findConfigOffset unscrambled
  let config := parseConfigType unscrambled configOffset
  let effects := [.findConfigOffset unscrambled, .parseConfigType unscrambled configOffset,
    .onConfig deviceId config]
  let client := rememberGateway client deviceId (config .serialNumber)
  let ptqSerial := strip (decodeReplace (rstripNul (slice unscrambled 38 68)))
  if u16At unscrambled 6 = 0x0129 ∧ 68 ≤ unscrambled.length ∧
      ptqSerial.take 3 = ['P', 'T', 'Q'] then
    (rememberGateway client deviceId (some ptqSerial),
      effects ++ [.onConfig ptqSerial (ptqConfig ptqSerial config)])
  else (client, effects)

/-- The generic Modbus branch. -/
def onModbus (setup : BridgeSetup F) (client : BridgeClient) (deviceId : PyStr)
    (unscrambled : Bytes) : List (Effect F) :=
  match GrowattModbusMessage.parseGrobro unscrambled with
  | .ok (some message) => onRegisters setup client deviceId message
  | _ => []

/-- The branch for the NOAH message type 0xFE19, which carries a TLV block; a
block without a serial number goes on to the Modbus branch. -/
def onNoahFe19 (setup : BridgeSetup F) (client : BridgeClient) (deviceId : PyStr)
    (unscrambled : Bytes) : List (Effect F) :=
  let payload := unscrambled.drop 24
  if payload.length < 18 then onModbus setup client deviceId unscrambled
  else
    let tlvOffset := findConfigOffset payload
    let config := parseConfigType payload tlvOffset
    let effects := [.findConfigOffset payload, .parseConfigType payload tlvOffset]
    if usesNoahProtocol deviceId ∧ (config .serialNumber).isSome then
      effects ++ [.onConfig deviceId config]
    else effects ++ onModbus setup client deviceId unscrambled

/-- The unscrambled packet, by its words at offsets 4 and 6. -/
def onUnscrambled (setup : BridgeSetup F) (client : BridgeClient) (deviceId : PyStr)
    (unscrambled : Bytes) : BridgeClient × List (Effect F) :=
  let msgType4 := u16At unscrambled 4
  let msgType := u16At unscrambled 6
  if msgType4 ∈ [340, 341, 387] ∨ msgType = 0x0129 then onConfigTlv client deviceId unscrambled
  else if msgType = 281 then (client, [.configReadResponse unscrambled])
  else if msgType = 280 then (client, [.configAck unscrambled])
  else if msgType = 0x6F64 then (client, [.smartMeter unscrambled])
  else if msgType = 0xFE19 then (client, onNoahFe19 setup client deviceId unscrambled)
  else if msgType = 0x0103 then (client, [])
  else (client, onModbus setup client deviceId unscrambled)

/-- `Client.__on_message` -/
def onMessage (setup : BridgeSetup F) (client : BridgeClient) (msg : MqttMessage) :
    BridgeClient × List (Effect F) :=
  if client.forwardStopped then (client, [])
  else if msg.forwardedFor = some "ha".toList ∨ msg.forwardedFor = some "growatt".toList then
    (client, [])
  else
    let deviceId := extractDeviceId msg.topic
    if deviceId = [] then (client, [])
    else
      let published := if setup.cloudAllowsDevice deviceId then
        [Effect.publishToGrowattServer deviceId] else []
      let unscrambled := unscramble msg.payload
      if unscrambled.length < 8 then (client, published)
      else
        let (client, effects) := onUnscrambled setup client deviceId unscrambled
        (client, published ++ effects)

end Dispatch

/-! ### What a packet of registers should lead to -/

section Spec

variable {F : Type*} [PyFloat F]

/-- The value of an input register in a message. -/
def inputValue (message : GrowattModbusMessage) (p : PyStr × GroBroInputRegister F) :
    Option (PyStr × RegisterValue F) :=
  (p.2.growatt.data.parse (message.getData p.2.growatt.position)).map fun value => (p.1, value)

/-- The value of a holding register in a message. -/
def holdingRegisterValue (message : GrowattModbusMessage) (p : PyStr × GroBroHoldingRegister F) :
    Option (HoldingRegisterValue F) :=
  p.2.growatt.bind fun growatt =>
    (growatt.data.parse (message.getData growatt.position)).map fun value =>
      ⟨p.1, holdingValue p.2.homeassistant value, p.2.homeassistant⟩

/-- All input registers that have a value. -/
def inputValues (message : GrowattModbusMessage) (known : GroBroRegisters F) :
    List (PyStr × RegisterValue F) :=
  known.inputRegisters.entries.filterMap (inputValue message)

/-- All holding registers that have a value. -/
def holdingValues (message : GrowattModbusMessage) (known : GroBroRegisters F) :
    List (HoldingRegisterValue F) :=
  known.holdingRegisters.entries.filterMap (holdingRegisterValue message)

/-- The message reports an impossible photovoltaic power. -/
def BadPpv (message : GrowattModbusMessage) (known : GroBroRegisters F) : Prop :=
  ∃ value, ("Ppv".toList, value) ∈ inputValues message known ∧ value.impossiblePower = true

theorem holdingPayload_eq (message : GrowattModbusMessage)
    (l : List (PyStr × GroBroHoldingRegister F)) :
    holdingPayload message l = l.filterMap (holdingRegisterValue message) := by
  induction l with
  | nil => rfl
  | cons p l ih =>
      obtain ⟨name, growatt, homeassistant⟩ := p
      rcases growatt with - | growatt
      · rw [holdingPayload, ih]
        rfl
      · rcases hv : growatt.data.parse (message.getData growatt.position) with - | value
        · simp only [holdingPayload, hv, ih]
          rw [List.filterMap_cons_none]
          show (growatt.data.parse _).map _ = none
          rw [hv]
          rfl
        · simp only [holdingPayload, hv, ih]
          rw [List.filterMap_cons_some]
          show (growatt.data.parse _).map _ = some _
          rw [hv]
          rfl

/-- The input loop drops the packet for a bad `Ppv` only; otherwise it assigns
every value there is. -/
theorem inputPayload_eq (message : GrowattModbusMessage) (payload : Dict PyStr (RegisterValue F))
    (l : List (PyStr × GroBroInputRegister F)) :
    (∃ value, ("Ppv".toList, value) ∈ l.filterMap (inputValue message) ∧
        value.impossiblePower = true) ∨
      inputPayload message payload l =
        some ((l.filterMap (inputValue message)).foldl (fun d p => d.insert p.1 p.2) payload) := by
  induction l generalizing payload with
  | nil => exact Or.inr rfl
  | cons p l ih =>
      obtain ⟨name, register⟩ := p
      rcases hv : register.growatt.data.parse (message.getData register.growatt.position)
        with - | value
      · have hnone : inputValue message (name, register) = none := by rw [inputValue, hv]; rfl
        rw [List.filterMap_cons_none hnone]
        simp only [inputPayload, hv]
        exact ih payload
      · have hsome : inputValue message (name, register) = some (name, value) := by
          rw [inputValue, hv]
          rfl
        rw [List.filterMap_cons_some hsome]
        simp only [inputPayload, hv]
        -- a bad `Ppv` ends the loop, and it is among the values
        by_cases hbad : name = "Ppv".toList ∧ value.impossiblePower = true
        · obtain ⟨rfl, hvalue⟩ := hbad
          exact Or.inl ⟨value, List.mem_cons_self, hvalue⟩
        · rw [if_neg hbad]
          rcases ih (payload.insert name value) with ⟨bad, hmem, hvalue⟩ | hrest
          · exact Or.inl ⟨bad, List.mem_cons_of_mem _ hmem, hvalue⟩
          · exact Or.inr hrest

/-- A packet is treated as register data: nothing takes it for a configuration,
and the registers of a known device are delivered, unless the `Ppv` rule drops
the packet or no register has a value. -/
structure TreatedAsRegisters (setup : BridgeSetup F) (client : BridgeClient) (msg : MqttMessage)
    (message : GrowattModbusMessage) : Prop where
  no_config : ∀ e ∈ (onMessage setup client msg).2, ¬ e.IsConfig
  holding : ∀ known, message.function = .readSingleRegister →
    getKnownRegisters setup.registers (modbusDeviceId client (extractDeviceId msg.topic))
      = some known →
    holdingValues message known = [] ∨
      .onHoldingRegisterInput (modbusDeviceId client (extractDeviceId msg.topic))
        (holdingValues message known) ∈ (onMessage setup client msg).2
  input : ∀ known, message.function = .readInputRegister →
    getKnownRegisters setup.registers (modbusDeviceId client (extractDeviceId msg.topic))
      = some known →
    BadPpv message known ∨ inputValues message known = [] ∨
      .onInputRegister (modbusDeviceId client (extractDeviceId msg.topic))
        (Dict.ofList (inputValues message known)) ∈ (onMessage setup client msg).2

/-! ### When registers are treated as registers -/

theorem onRegisters_no_config (setup : BridgeSetup F) (client : BridgeClient) (deviceId : PyStr)
    (message : GrowattModbusMessage) :
    ∀ e ∈ onRegisters setup client deviceId message, ¬ e.IsConfig := by
  intro e he
  rw [onRegisters] at he
  dsimp only at he
  rcases hk : getKnownRegisters setup.registers (modbusDeviceId client deviceId) with - | known
  · rw [hk] at he
    cases he
  · rw [hk] at he
    dsimp only at he
    split at he
    · split_ifs at he
      · cases he
      · obtain rfl := List.mem_singleton.mp he
        exact id
    · split at he
      · cases he
      · split_ifs at he
        · cases he
        · obtain rfl := List.mem_singleton.mp he
          exact id
    · cases he

theorem onRegisters_holding {setup : BridgeSetup F} {client : BridgeClient} {deviceId : PyStr}
    {message : GrowattModbusMessage} {known : GroBroRegisters F}
    (hf : message.function = .readSingleRegister)
    (hk : getKnownRegisters setup.registers (modbusDeviceId client deviceId) = some known) :
    holdingValues message known = [] ∨
      .onHoldingRegisterInput (modbusDeviceId client deviceId) (holdingValues message known)
        ∈ onRegisters setup client deviceId message := by
  by_cases hempty : holdingValues message known = []
  · exact Or.inl hempty
  · refine Or.inr ?_
    have hloop : holdingPayload message known.holdingRegisters.entries
        = holdingValues message known := holdingPayload_eq message _
    simp only [onRegisters, hk, hf, hloop, if_neg hempty]
    exact List.mem_singleton_self _

theorem onRegisters_input {setup : BridgeSetup F} {client : BridgeClient} {deviceId : PyStr}
    {message : GrowattModbusMessage} {known : GroBroRegisters F}
    (hf : message.function = .readInputRegister)
    (hk : getKnownRegisters setup.registers (modbusDeviceId client deviceId) = some known) :
    BadPpv message known ∨ inputValues message known = [] ∨
      .onInputRegister (modbusDeviceId client deviceId)
        (Dict.ofList (inputValues message known)) ∈ onRegisters setup client deviceId message := by
  rcases inputPayload_eq message ∅ known.inputRegisters.entries with hbad | hloop
  · exact Or.inl hbad
  · refine Or.inr ?_
    by_cases hempty : inputValues message known = []
    · exact Or.inl hempty
    · refine Or.inr ?_
      have hpayload : inputPayload message ∅ known.inputRegisters.entries
          = some (Dict.ofList (inputValues message known)) := hloop
      have hentries : ¬ (Dict.ofList (inputValues message known)).entries = [] :=
        fun h => hempty (Dict.ofList_entries_eq_nil.mp h)
      simp only [onRegisters, hk, hf, hpayload, if_neg hentries]
      exact List.mem_singleton_self _

/-- A packet that reaches the bridge: it runs, the message is not one it sent
itself, and the topic names a device. -/
structure DevicePacket (client : BridgeClient) (msg : MqttMessage) : Prop where
  running : client.forwardStopped = false
  notForwarded : msg.forwardedFor ≠ some "ha".toList ∧ msg.forwardedFor ≠ some "growatt".toList
  deviceId : extractDeviceId msg.topic ≠ []

/-- A packet that reaches the bridge is dispatched, after the cloud copy. -/
theorem onMessage_devicePacket (setup : BridgeSetup F) {client : BridgeClient} {msg : MqttMessage}
    (h : DevicePacket client msg) (hlen : 8 ≤ (unscramble msg.payload).length) :
    (onMessage setup client msg).2 =
      (if setup.cloudAllowsDevice (extractDeviceId msg.topic) then
        [.publishToGrowattServer (extractDeviceId msg.topic)] else []) ++
      (onUnscrambled setup client (extractDeviceId msg.topic) (unscramble msg.payload)).2 := by
  have hrun : ¬ client.forwardStopped = true := by
    rw [h.running]
    exact Bool.false_ne_true
  have hfwd : ¬ (msg.forwardedFor = some "ha".toList ∨ msg.forwardedFor = some "growatt".toList) :=
    not_or.mpr h.notForwarded
  rw [onMessage, if_neg hrun, if_neg hfwd]
  dsimp only
  rw [if_neg h.deviceId, if_neg (Nat.not_lt.mpr hlen)]

variable {setup : BridgeSetup F} {client : BridgeClient} {deviceId : PyStr} {b : Bytes}

/-- The length of the packet decides whether it is taken for a TLV block. -/
theorem onUnscrambled_collision (hlength : u16At b 4 = b.length - 8)
    (hcollision : b.length ∈ [348, 349, 395]) :
    .findConfigOffset b ∈ (onUnscrambled setup client deviceId b).2 := by
  -- the word at offset 4 is the length without the first eight bytes
  have hword : u16At b 4 ∈ [340, 341, 387] := by
    rw [hlength]
    simp only [List.mem_cons, List.not_mem_nil, or_false] at hcollision ⊢
    omega
  rw [onUnscrambled, if_pos (Or.inl hword), onConfigTlv]
  split_ifs <;> exact List.mem_cons_self

theorem onUnscrambled_registers {message : GrowattModbusMessage}
    (htype : u16At b 6 = 0x0104 ∨ u16At b 6 = 0x0105)
    (hparse : GrowattModbusMessage.parseGrobro b = .ok (some message))
    (hlength : u16At b 4 = b.length - 8) (hheader : headerSize ≤ b.length)
    (hclear : b.length ∉ [348, 349, 395]) :
    (onUnscrambled setup client deviceId b).2 = onRegisters setup client deviceId message := by
  have hhead : headerSize = 38 := rfl
  have hword : u16At b 4 ∉ [340, 341, 387] := by
    rw [hlength]
    simp only [List.mem_cons, List.not_mem_nil, or_false] at hclear ⊢
    omega
  have hmodbus : onModbus setup client deviceId b = onRegisters setup client deviceId message := by
    rw [onModbus, hparse]
  -- the type word passes all comparisons of the dispatcher
  rw [onUnscrambled, if_neg (not_or.mpr ⟨hword, by omega⟩), if_neg (by omega), if_neg (by omega),
    if_neg (by omega), if_neg (by omega), if_neg (by omega)]
  exact hmodbus

/-- **Register data and configuration**: a packet of registers that reaches the
bridge is treated as register data exactly if its length is none of 348, 349 and
395 bytes. -/
theorem registerData_iff (setup : BridgeSetup F) (client : BridgeClient) (msg : MqttMessage)
    (message : GrowattModbusMessage) (hpacket : DevicePacket client msg)
    (htype : u16At (unscramble msg.payload) 6 = 0x0104 ∨ u16At (unscramble msg.payload) 6 = 0x0105)
    (hparse : GrowattModbusMessage.parseGrobro (unscramble msg.payload) = .ok (some message)) :
    TreatedAsRegisters setup client msg message ↔
      (unscramble msg.payload).length ∉ [348, 349, 395] := by
  obtain ⟨hg, -⟩ := parseGrobro_fields hparse
  have hhead : headerSize = 38 := rfl
  have hheader := hg.header
  have heffects := onMessage_devicePacket setup hpacket (by omega)
  constructor
  · intro h hcollision
    have hmem : .findConfigOffset (unscramble msg.payload) ∈ (onMessage setup client msg).2 := by
      rw [heffects]
      exact List.mem_append_right _ (onUnscrambled_collision hg.length hcollision)
    exact h.no_config _ hmem trivial
  · intro hclear
    rw [onUnscrambled_registers htype hparse hg.length hheader hclear] at heffects
    refine ⟨?_, ?_, ?_⟩
    · intro e he
      rw [heffects] at he
      rcases List.mem_append.mp he with hcloud | hregisters
      · split_ifs at hcloud
        · obtain rfl := List.mem_singleton.mp hcloud
          exact id
        · cases hcloud
      · exact onRegisters_no_config _ _ _ _ e hregisters
    · intro known hf hk
      rcases onRegisters_holding hf hk with hempty | hmem
      · exact Or.inl hempty
      · rw [heffects]
        exact Or.inr (List.mem_append_right _ hmem)
    · intro known hf hk
      rcases onRegisters_input hf hk with hbad | hempty | hmem
      · exact Or.inl hbad
      · exact Or.inr (Or.inl hempty)
      · rw [heffects]
        exact Or.inr (Or.inr (List.mem_append_right _ hmem))

end Spec

/-! ### A packet of a colliding length -/

/-- Input registers 0 to 133 of a NEO inverter, all zero. -/
def longInputMessage : GrowattModbusMessage where
  unknown := 1
  deviceId := ['Q', 'M', 'N']
  metadata := some
    { deviceSn := ['Q', 'M', 'N'], timestamp := some ⟨2024, 6, 1, 12, 0, 0, 0, by decide⟩ }
  function := .readInputRegister
  registerBlocks := [⟨0, 133, List.replicate 268 0⟩]

theorem longInputMessage_wellFormed : longInputMessage.WellFormed := by
  refine ⟨by decide, by decide, by decide, by decide, by decide +kernel, by decide, ?_,
    by decide, nofun, by decide, ?_⟩
  · intro metadata hm
    obtain rfl := Option.mem_some_iff.mp hm
    exact ⟨by decide, by decide, by decide, _, rfl, by decide, by decide, by decide, by decide⟩
  · intro block hb
    obtain rfl := List.mem_singleton.mp hb
    exact ⟨by decide, by decide, List.length_replicate⟩

/-- A message from a device, as it arrives. -/
def devicePacket (b : Bytes) : MqttMessage where
  topic := ['c', '/', 'Q', 'M', 'N']
  payload := scramble b
  forwardedFor := none

/-- A bridge without registers and without a cloud. -/
def bareSetup : BridgeSetup ℤ where
  registers _ := ⟨∅, ∅⟩
  cloudAllowsDevice _ := false

def bareClient : BridgeClient := ⟨false, ∅⟩

theorem devicePacket_arrives (b : Bytes) : DevicePacket bareClient (devicePacket b) :=
  ⟨rfl, ⟨by simp [devicePacket], by simp [devicePacket]⟩,
    by show extractDeviceId ['c', '/', 'Q', 'M', 'N'] ≠ []; decide⟩

theorem unscramble_devicePacket {b : Bytes} (h : 8 ≤ b.length) :
    unscramble (devicePacket b).payload = b := by
  obtain ⟨t, ht, he⟩ := unscramble_scramble_append h []
  rw [List.append_nil] at he
  rw [devicePacket, he, List.length_eq_zero_iff.mp ht, List.append_nil]

/-- The input registers of 134 registers are taken for a TLV block. -/
theorem not_registerData_longInputMessage :
    ¬ ∀ (setup : BridgeSetup ℤ) (client : BridgeClient) (msg : MqttMessage)
      (message : GrowattModbusMessage), DevicePacket client msg →
      (u16At (unscramble msg.payload) 6 = 0x0104 ∨ u16At (unscramble msg.payload) 6 = 0x0105) →
      GrowattModbusMessage.parseGrobro (unscramble msg.payload) = .ok (some message) →
      TreatedAsRegisters setup client msg message := by
  intro hall
  have hwf := longInputMessage_wellFormed
  set b := longInputMessage.wire ++ [0xAB, 0xCD] with hb
  have hlen : b.length = 349 := by decide +kernel
  have hu : unscramble (devicePacket b).payload = b := unscramble_devicePacket (by omega)
  have hdecode : decodeMessage b = some longInputMessage := decodeMessage_wire hwf rfl
  have hparse : GrowattModbusMessage.parseGrobro b = .ok (some longInputMessage) := by
    rw [GrowattModbusMessage.parseGrobro_eq, hdecode]
  obtain ⟨hg, -⟩ := decodeMessage_fields hdecode
  have htype : u16At b 6 = 0x0104 := by decide +kernel
  have hregisters := hall bareSetup bareClient (devicePacket b) longInputMessage
    (devicePacket_arrives b) (by rw [hu]; exact Or.inl htype) (by rw [hu]; exact hparse)
  have heffects := onMessage_devicePacket bareSetup (devicePacket_arrives b) (by rw [hu]; omega)
  -- 349 bytes have the length word 341
  have hmem : .findConfigOffset b ∈
      (onMessage bareSetup bareClient (devicePacket b)).2 := by
    rw [heffects, hu]
    exact List.mem_append_right _
      (onUnscrambled_collision hg.length (by rw [hlen]; decide))
  exact hregisters.no_config _ hmem trivial

/-- A bridge that knows register 7. -/
def frequencySetup : BridgeSetup ℤ where
  registers _ :=
    { inputRegisters := .ofList [("Fac".toList, ⟨⟨⟨7, 0, 2⟩, { dataType := .int }⟩⟩)]
      holdingRegisters := ∅ }
  cloudAllowsDevice _ := false

/-- A short packet of the same device is register data, and is delivered. -/
theorem registerData_twoBlockMessage :
    let msg := devicePacket (twoBlockMessage.wire ++ [0xAB, 0xCD])
    TreatedAsRegisters frequencySetup bareClient msg twoBlockMessage ∧
      .onInputRegister "QMN".toList (.ofList [("Fac".toList, .int 1286)]) ∈
        (onMessage frequencySetup bareClient msg).2 := by
  intro msg
  have hlen : (twoBlockMessage.wire ++ [0xAB, 0xCD]).length = 91 := by decide +kernel
  have hu := unscramble_devicePacket (b := twoBlockMessage.wire ++ [0xAB, 0xCD]) (by omega)
  have hregisters : TreatedAsRegisters frequencySetup bareClient msg twoBlockMessage := by
    refine (registerData_iff frequencySetup bareClient _ twoBlockMessage (devicePacket_arrives _)
      ?_ ?_).mpr ?_
    · rw [hu]
      exact Or.inl (by decide +kernel)
    · rw [hu, GrowattModbusMessage.parseGrobro_eq,
        decodeMessage_wire twoBlockMessage_wellFormed rfl]
    · rw [hu, hlen]
      decide
  refine ⟨hregisters, ?_⟩
  have hvalues : inputValues twoBlockMessage (frequencySetup.registers .neo) =
      [("Fac".toList, .int 1286)] := rfl
  rcases hregisters.input (frequencySetup.registers .neo) rfl rfl with
    ⟨value, hmem, -⟩ | hnone | hdelivered
  · rw [hvalues] at hmem
    have hname := (Prod.mk.inj (List.mem_singleton.mp hmem)).1
    exact absurd hname (by decide)
  · rw [hvalues] at hnone
    cases hnone
  · rwa [hvalues] at hdelivered

end GroBro
