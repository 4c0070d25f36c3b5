/-
GroBro/SettingReadback.lean

The way of a setting: from Home Assistant through the two clients to the device, and from
the device's answer back to the state that is shown.  On the way out the payload becomes a
number by the kind of the control (`parseSetting`), on the way back the number becomes a
value by the coding of the register (`GrowattRegisterDataType.parse`).  These are different
tables of the register map, and a register whose two tables fit together (`Coding`) shows
what was set.

`Means` says what a payload stands for, without a number in it.  The device is any that
writes what it is told to write and answers a read with the register (`receive`); it is
not code of the repository.

Main result: `setting_shown`.
-/
import GroBro.HaCommands

namespace GroBro

open ByteCodec OrderedDict

/-! ### What a setting means -/

/-- What the payload of a setting stands for, as a state. -/
inductive Means {F : Type*} [PyUnicode] [PyUpper] :
    CommandType → PyStr → RegisterValue F → Prop where
  | switch {rawValue : PyStr} (h : upper rawValue = "ON".toList ∨ upper rawValue = "OFF".toList) :
      Means .switch rawValue (.text (upper rawValue))
  | time {rawValue hourText minuteText : PyStr} {hour minute : ℕ}
      (h : (rawValue.splitOn ':').take 2 = [hourText, minuteText])
      (hhour : intOfText hourText = some (hour : ℤ)) (hday : hour ≤ 23)
      (hminute : intOfText minuteText = some (minute : ℤ)) (hfull : minute ≤ 59) :
      Means .time rawValue (.text (twoDigits hour ++ ':' :: twoDigits minute))
  | select {rawValue : PyStr} : Means .select rawValue (.text rawValue)
  | number {rawValue : PyStr} {n : ℤ} (h : intOfText rawValue = some n) :
      Means .number rawValue (.int n)

/-- The coding of a register is that of its kind of control: the options that are offered
are names of the coding. -/
inductive Coding {F : Type*} [PyUnicode] :
    CommandType → GrowattRegisterDataType F → Option (Dict PyStr PyStr) → Prop where
  | switch {data : GrowattRegisterDataType F} {options : Option (Dict PyStr PyStr)}
      (h : data.dataType = .int) : Coding .switch data options
  | time {data : GrowattRegisterDataType F} {options : Option (Dict PyStr PyStr)}
      (h : data.dataType = .timeHhmm) : Coding .time data options
  | select {data : GrowattRegisterDataType F} {offered : Dict PyStr PyStr}
      {values : Dict ℤ PyStr} (h : data.dataType = .enum)
      (henum : data.enumOptions = some ⟨.intMap, values⟩) (hne : offered.entries ≠ [])
      (hnames : ∀ key name, (key, name) ∈ offered.entries →
        ∃ n, intOfText key = some n ∧ values.get? n = some name) :
      Coding .select data (some offered)
  | number {data : GrowattRegisterDataType F} {options : Option (Dict PyStr PyStr)}
      (h : data.dataType = .int) : Coding .number data options

/-! ### One register -/

theorem unsignedOf_u16Bytes {n : ℕ} (h : n < 65536) : unsignedOf (u16Bytes n) = n := by
  have hhigh : (UInt8.ofNat (n / 256)).toNat = n / 256 := by
    rw [UInt8.toNat_ofNat']
    omega
  have hlow : (UInt8.ofNat (n % 256)).toNat = n % 256 := by
    rw [UInt8.toNat_ofNat']
    omega
  show (0 * 256 + (UInt8.ofNat (n / 256)).toNat) * 256 + (UInt8.ofNat (n % 256)).toNat = n
  rw [hhigh, hlow]
  omega

theorem unpackInt_u16Bytes {n : ℕ} (h : n < 65536) :
    unpackInt false (u16Bytes n) = some (n : ℤ) := by
  have hlength : (u16Bytes n).length ∈ [1, 2, 4] := by
    rw [length_u16Bytes]
    decide
  rw [unpackInt, if_neg (not_not.mpr hlength), unsignedOf_u16Bytes h]
  exact if_neg fun hsigned => Bool.false_ne_true hsigned.1

section OneRegister

variable {F : Type*} [PyFloat F]

/-- The two bytes of a register, by its coding. -/
theorem parse_u16Bytes (data : GrowattRegisterDataType F) {n : ℕ} (h : n < 65536) :
    (data.dataType = .int → data.parse (some (u16Bytes n)) = some (.int n)) ∧
    (data.dataType = .timeHhmm → n / 256 ≤ 23 → n % 256 ≤ 59 →
      data.parse (some (u16Bytes n)) =
        some (.text (twoDigits (n / 256) ++ ':' :: twoDigits (n % 256)))) ∧
    (∀ values, data.dataType = .enum → data.enumOptions = some ⟨.intMap, values⟩ →
      data.parse (some (u16Bytes n)) =
        some (.text ((values.get? (n : ℤ)).getD "unknown".toList))) := by
  obtain ⟨a, b, hbytes⟩ : ∃ a b, u16Bytes n = [a, b] := ⟨_, _, rfl⟩
  have hunpack : unpackInt false [a, b] = some (n : ℤ) := hbytes ▸ unpackInt_u16Bytes h
  rw [hbytes]
  refine ⟨?_, ?_, ?_⟩
  · intro htype
    simp [GrowattRegisterDataType.parse, htype, hunpack]
  · intro htype hhour hminute
    have hbyte : n / 256 % 256 = n / 256 := by omega
    simp [GrowattRegisterDataType.parse, htype, hunpack, hbyte, Nat.not_lt.mpr hhour,
      Nat.not_lt.mpr hminute]
  · intro values htype henum
    simp [GrowattRegisterDataType.parse, htype, hunpack, henum]

end OneRegister

/-! ### Reading a payload -/

theorem intOrInvalid_eq_ok_iff [PyUnicode] {text : PyStr} {n : ℤ} :
    intOrInvalid text = .ok n ↔ intOfText text = some n := by
  unfold intOrInvalid
  rcases intOfText text with - | m <;> simp

theorem parseSwitch_eq_ok [PyUpper] {rawValue : PyStr} {value : ℤ} (h : parseSwitch rawValue = .ok value) :
    (upper rawValue = "ON".toList ∧ value = 1) ∨ (upper rawValue = "OFF".toList ∧ value = 0) := by
  unfold parseSwitch at h
  split_ifs at h with hon hoff
  · exact Or.inl ⟨hon, (Except.ok.inj h).symm⟩
  · exact Or.inr ⟨hoff, (Except.ok.inj h).symm⟩

theorem parseTime_eq_ok [PyUnicode] {rawValue : PyStr} {value : ℤ} (h : parseTime rawValue = .ok value) :
    ∃ (hourText minuteText : PyStr) (hour minute : ℕ),
      (rawValue.splitOn ':').take 2 = [hourText, minuteText] ∧
      intOfText hourText = some (hour : ℤ) ∧ hour ≤ 23 ∧
      intOfText minuteText = some (minute : ℤ) ∧ minute ≤ 59 ∧
      value = ((hour * 256 + minute : ℕ) : ℤ) := by
  unfold parseTime at h
  split at h
  · next hourText minuteText hsplit =>
    rcases hhour : intOrInvalid hourText with e | hour
    · rw [hhour] at h
      cases h
    rcases hminute : intOrInvalid minuteText with e | minute
    · rw [hhour, hminute] at h
      cases h
    rw [hhour, hminute] at h
    simp only [ok_bind] at h
    split_ifs at h with hrange
    · obtain ⟨⟨hhour0, hhour23⟩, hminute0, hminute59⟩ := hrange
      obtain ⟨hour, rfl⟩ := Int.eq_ofNat_of_zero_le hhour0
      obtain ⟨minute, rfl⟩ := Int.eq_ofNat_of_zero_le hminute0
      refine ⟨hourText, minuteText, hour, minute, hsplit, intOrInvalid_eq_ok_iff.mp hhour,
        by omega, intOrInvalid_eq_ok_iff.mp hminute, by omega, ?_⟩
      rw [← Except.ok.inj h]
      push_cast
      rfl
  · cases h

/-- What is in a list of results comes from an element. -/
theorem mem_of_mapM_eq_ok {α β ε : Type*} {f : α → Except ε β} {l : List α} {l' : List β}
    (h : l.mapM f = .ok l') {b : β} (hb : b ∈ l') : ∃ a ∈ l, f a = .ok b := by
  induction l generalizing l' with
  | nil =>
      rw [List.mapM_nil] at h
      obtain rfl := Except.ok.inj h
      cases hb
  | cons a l ih =>
      rw [List.mapM_cons] at h
      rcases hhead : f a with e | b'
      · rw [hhead] at h
        cases h
      rcases htail : l.mapM f with e | rest
      · rw [hhead, htail] at h
        cases h
      rw [hhead, htail] at h
      obtain rfl := Except.ok.inj h
      rcases List.mem_cons.mp hb with rfl | hb
      · exact ⟨a, List.mem_cons_self, hhead⟩
      · obtain ⟨a', ha', hresult⟩ := ih htail hb
        exact ⟨a', List.mem_cons_of_mem _ ha', hresult⟩

/-- The number of an option is one that the option stands under. -/
theorem parseSelect_eq_ok [PyUnicode] {offered : Dict PyStr PyStr} {rawValue : PyStr} {value : ℤ}
    (hne : offered.entries ≠ []) (h : parseSelect (some offered) rawValue = .ok (some value)) :
    ∃ key, (key, rawValue) ∈ offered.entries ∧ intOfText key = some value := by
  have hfilter : (some offered).filter (fun options => decide (options.entries ≠ [])) =
      some offered := by
    rw [Option.filter_some, if_pos (decide_eq_true hne)]
  unfold parseSelect at h
  rw [hfilter] at h
  dsimp only at h
  rcases hpairs : offered.entries.mapM fun p => do return (p.2, ← intOrInvalid p.1)
    with e | pairs
  · rw [reverseOptions, hpairs] at h
    cases h
  rw [reverseOptions, hpairs] at h
  have hget : (Dict.ofList pairs).get? rawValue = some value := Except.ok.inj h
  have hmem : (rawValue, value) ∈ pairs := Dict.mem_of_mem_ofList ((Dict.mem_entries _).mpr hget)
  obtain ⟨⟨key, name⟩, hoffered, hresult⟩ := mem_of_mapM_eq_ok hpairs hmem
  rcases hkey : intOrInvalid key with e | n
  · rw [hkey] at hresult
    cases hresult
  · rw [hkey] at hresult
    obtain ⟨rfl, rfl⟩ := Prod.mk.inj (Except.ok.inj hresult)
    exact ⟨key, hoffered, intOrInvalid_eq_ok_iff.mp hkey⟩

theorem text_ne_switch {type : CommandType} (h : type ≠ .switch) : type.text ≠ "switch".toList := by
  cases type with
  | switch => exact absurd rfl h
  | _ => decide

/-- **A register shows what was set.**  The number that a payload was read as, coded back by
the register, is what the payload means. -/
theorem means_of_parse {F : Type*} [PyFloat F] [PyUnicode] [PyUpper] {type : CommandType}
    {register : HomeAssistantCommandRegister} {data : GrowattRegisterDataType F}
    {rawValue : PyStr} {n : ℕ} (htype : register.type = type.text)
    (hcoding : Coding type data register.options)
    (hparse : parseSetting type register rawValue = .ok (some (n : ℤ))) (hn : n < 65536) :
    ∃ value, data.parse (some (u16Bytes n)) = some value ∧
      Means type rawValue (holdingValue register.toHomeAssistantHoldingRegister value) := by
  obtain ⟨hint, htime, henum⟩ := parse_u16Bytes data hn
  -- only a switch is rewritten when it is shown
  have hplain : type ≠ .switch → ∀ value : RegisterValue F,
      holdingValue register.toHomeAssistantHoldingRegister value = value := by
    intro hne value
    refine if_neg ?_
    rw [htype]
    exact text_ne_switch hne
  obtain ⟨options, hoptions⟩ : ∃ options, register.options = options := ⟨_, rfl⟩
  rw [hoptions] at hcoding
  cases hcoding with
  | switch h =>
      rcases hswitch : parseSwitch rawValue with e | value
      · simp [parseSetting, hswitch] at hparse
        cases hparse
      have hvalue : value = n := by
        simpa [parseSetting, hswitch] using hparse
      have hshown : ∀ value : RegisterValue F,
          holdingValue register.toHomeAssistantHoldingRegister value =
            .text (if value.isOne then "ON".toList else "OFF".toList) := fun _ => if_pos htype
      refine ⟨.int n, hint h, ?_⟩
      rw [hshown]
      rcases parseSwitch_eq_ok hswitch with ⟨hon, rfl⟩ | ⟨hoff, rfl⟩
      · have hone : RegisterValue.isOne (.int (n : ℤ) : RegisterValue F) = true := by
          rw [← hvalue]
          rfl
        rw [hone, if_pos rfl, ← hon]
        exact .switch (Or.inl hon)
      · have hzero : RegisterValue.isOne (.int (n : ℤ) : RegisterValue F) = false := by
          rw [← hvalue]
          rfl
        rw [hzero, if_neg Bool.false_ne_true, ← hoff]
        exact .switch (Or.inr hoff)
  | time h =>
      rcases hclock : parseTime rawValue with e | value
      · simp [parseSetting, hclock] at hparse
        cases hparse
      obtain ⟨hourText, minuteText, hour, minute, hsplit, hhour, hday, hminute, hfull, hvalue⟩ :=
        parseTime_eq_ok hclock
      have hnumber : n = hour * 256 + minute := by
        have hsame : value = n := by simpa [parseSetting, hclock] using hparse
        rw [hvalue] at hsame
        exact_mod_cast hsame.symm
      have hdiv : n / 256 = hour := by omega
      have hmod : n % 256 = minute := by omega
      refine ⟨_, htime h (by omega) (by omega), ?_⟩
      rw [hplain (by decide), hdiv, hmod]
      exact .time hsplit hhour hday hminute hfull
  | select h hvalues hne hnames =>
      rw [parseSetting, hoptions] at hparse
      obtain ⟨key, hoffered, hkey⟩ := parseSelect_eq_ok hne hparse
      obtain ⟨m, hm, hname⟩ := hnames key rawValue hoffered
      obtain rfl : (n : ℤ) = m := Option.some.inj (hkey.symm.trans hm)
      refine ⟨_, henum _ h hvalues, ?_⟩
      rw [hplain (by decide), hname]
      exact .select
  | number h =>
      refine ⟨.int n, hint h, ?_⟩
      rw [hplain (by decide)]
      rcases hnumber : intOrInvalid rawValue with e | value
      · simp [parseSetting, hnumber] at hparse
        cases hparse
      · obtain rfl : value = n := by simpa [parseSetting, hnumber] using hparse
        exact .number (intOrInvalid_eq_ok_iff.mp hnumber)

/-! ### A device -/

/-- The message that answers a read of one register. -/
def readAnswer (id : PyStr) (registerNo value : ℕ) : GrowattModbusMessage where
  unknown := 1
  deviceId := id
  function := .readSingleRegister
  registerBlocks := [⟨registerNo, registerNo, u16Bytes value⟩]

/-- What a device with its registers does with a packet that reaches it: it writes a
register, or answers with one on its own topic. -/
def receive (checksum : Bytes → UInt16) (id replyTopic : PyStr)
    (s : (ℕ → ℕ) × List MqttMessage) (packet : PyStr × Bytes) : (ℕ → ℕ) × List MqttMessage :=
  if packet.1 ≠ "s/33/".toList ++ id then s
  else match GrowattModbusFunctionSingle.parseGrobro (unscramble packet.2) with
  | none => s
  | some c =>
      match c.function with
      | .presetSingleRegister => (Function.update s.1 c.registerNo c.value, s.2)
      | .readSingleRegister =>
          let answer := appendCrc checksum
            (scramble (readAnswer id c.registerNo (s.1 c.registerNo)).wire)
          (s.1, s.2 ++ [⟨replyTopic, answer, none⟩])
      | _ => s

/-- The device after some packets, and what it answered. -/
def deviceRun (checksum : Bytes → UInt16) (id replyTopic : PyStr) (registers : ℕ → ℕ)
    (packets : List (PyStr × Bytes)) : (ℕ → ℕ) × List MqttMessage :=
  Machine.run (receive checksum id replyTopic) (registers, []) packets

section Device

variable {checksum : Bytes → UInt16} {id replyTopic : PyStr} {registerNo value : ℕ}

/-- An id as it stands in a packet and comes out of it. -/
structure PlainId (id : PyStr) : Prop where
  ascii : IsAscii id
  idLength : id.length ≤ 30
  noNul : nul ∉ id

theorem PlainId.trimmed (h : PlainId id) : NulTrimmed id := by
  have hne : ∀ c ∈ id, (c == nul) = false := by
    intro c hc
    rw [beq_eq_false_iff_ne]
    rintro rfl
    exact h.noNul hc
  exact ⟨fun c hc => hne c (List.mem_of_mem_head? hc), fun c hc => hne c (List.mem_of_mem_getLast? hc)⟩

/-- A command for the device is read there as it was built. -/
theorem receive_command (checksum : Bytes → UInt16) (hid : PlainId id)
    (hregister : registerNo < 65536) (hvalue : value < 65536) (function : GrowattModbusFunction) :
    (commandPacket checksum id function registerNo value).1 = "s/33/".toList ++ id ∧
      GrowattModbusFunctionSingle.parseGrobro
        (unscramble (commandPacket checksum id function registerNo value).2) =
          some ⟨id, function, registerNo, value⟩ := by
  have hwf : GrowattModbusFunctionSingle.WellFormed ⟨id, function, registerNo, value⟩ :=
    ⟨hid.ascii, hid.idLength, hid.trimmed, hregister, hvalue⟩
  have hlength := hwf.length_wire
  have hsize : modbusCommandSize = 42 := rfl
  obtain ⟨t, ht, hwire⟩ := unscramble_appendCrc checksum
    (a := GrowattModbusFunctionSingle.wire ⟨id, function, registerNo, value⟩) (by omega)
  refine ⟨rfl, ?_⟩
  show GrowattModbusFunctionSingle.parseGrobro (unscramble (appendCrc checksum (scramble _))) = _
  rw [hwire]
  exact hwf.parseGrobro_wire (Or.inr ht)

theorem deviceRun_setting (hid : PlainId id) (hregister : registerNo < 65536)
    (hvalue : value < 65536) (registers : ℕ → ℕ) :
    deviceRun checksum id replyTopic registers
        [commandPacket checksum id .presetSingleRegister registerNo value,
          commandPacket checksum id .readSingleRegister registerNo registerNo] =
      (Function.update registers registerNo value,
        [⟨replyTopic, appendCrc checksum (scramble (readAnswer id registerNo value).wire), none⟩]) := by
  obtain ⟨htopic, hwrite⟩ := receive_command checksum hid hregister hvalue
    .presetSingleRegister
  obtain ⟨htopic', hread⟩ := receive_command checksum hid hregister hregister
    .readSingleRegister
  have hfirst : receive checksum id replyTopic (registers, [])
      (commandPacket checksum id .presetSingleRegister registerNo value) =
        (Function.update registers registerNo value, []) := by
    rw [receive, if_neg (not_not.mpr htopic), hwrite]
  rw [deviceRun, Machine.run_cons, hfirst, Machine.run_cons, Machine.run_nil, receive,
    if_neg (not_not.mpr htopic'), hread]
  simp only [Function.update_self, List.nil_append]

theorem readAnswer_wellFormed (value : ℕ) (hid : PlainId id) (hregister : registerNo < 65536) :
    (readAnswer id registerNo value).WellFormed where
  unknown := Nat.one_lt_two_pow (n := 16) (by decide)
  ascii := hid.ascii
  idLength := hid.idLength
  trimmed := hid.trimmed
  msgLen := by
    show 32 + 0 + (4 + (u16Bytes value).length + 0) + 0 ≤ 65535
    rw [length_u16Bytes]
    decide
  metadata_iff := by simp [readAnswer]
  metadata := by
    intro metadata h
    cases h
  writeAck_iff := by simp [readAnswer]
  writeAck := by
    intro ack h
    cases h
  blocks_nil := by
    intro h
    cases h
  blocks := by
    intro block h
    obtain rfl := List.mem_singleton.mp h
    refine ⟨le_rfl, hregister, ?_⟩
    rw [length_u16Bytes, Nat.sub_self]

/-- The answer as the bridge reads it. -/
theorem readAnswer_read (value : ℕ) (hid : PlainId id) (hregister : registerNo < 65536)
    {t : Bytes} (ht : t.length = 2) :
    let b := (readAnswer id registerNo value).wire ++ t
    GrowattModbusMessage.parseGrobro b = .ok (some (readAnswer id registerNo value)) ∧
      u16At b 6 = 0x0105 ∧ b.length = 46 := by
  intro b
  have hdecode : decodeMessage b = some (readAnswer id registerNo value) :=
    decodeMessage_wire (readAnswer_wellFormed value hid hregister) ht
  refine ⟨by rw [GrowattModbusMessage.parseGrobro_eq, hdecode], ?_, ?_⟩
  · show u16At ((u16Bytes 1 ++ (u16Bytes 7 ++ (u16Bytes _ ++ (u8Bytes 1 ++ (u8Bytes 5 ++
      idField id))))) ++ _ ++ t) 6 = 0x0105
    simp only [List.append_assoc, u16At_u16Bytes_skip]
    rw [u16At, u8At_u8Bytes_skip, u8At_u8Bytes (n := 1) (by decide),
      u8At_u8Bytes (n := 5) (by decide)]
  · have hhead : (readAnswer id registerNo value).headerWire.length = 38 :=
      GrowattModbusMessage.length_headerWire (m := readAnswer id registerNo value) hid.idLength
    have hpayload : (readAnswer id registerNo value).payloadWire.length = 6 := rfl
    show ((readAnswer id registerNo value).headerWire ++
      (readAnswer id registerNo value).payloadWire ++ t).length = 46
    rw [List.length_append, List.length_append, hhead, hpayload, ht]

end Device

/-! ### Back to Home Assistant -/

section Shown

variable {F : Type*} [PyFloat F]

/-- The bytes of a register in the answer to its read. -/
theorem getData_readAnswer {id : PyStr} {registerNo value : ℕ} (pos : GrowattRegisterPosition) :
    (readAnswer id registerNo value).getData pos =
      if pos.registerNo = registerNo ∧ pos.offset + pos.size ≤ 2 then
        some (slice (u16Bytes value) pos.offset (pos.offset + pos.size))
      else none := by
  rw [GrowattModbusMessage.getData]
  show GrowattModbusMessage.getData.go pos [⟨registerNo, registerNo, u16Bytes value⟩] = _
  rw [GrowattModbusMessage.getData.go, GrowattModbusMessage.getData.go]
  dsimp only
  by_cases hsame : pos.registerNo = registerNo
  · rw [if_neg (by omega), hsame, Nat.sub_self, Nat.zero_mul, Nat.zero_add, length_u16Bytes]
    by_cases hfits : pos.offset + pos.size ≤ 2
    · rw [if_neg (Nat.not_lt.mpr hfits), if_pos ⟨rfl, hfits⟩]
    · rw [if_pos (Nat.lt_of_not_le hfits), if_neg fun h => hfits h.2]
  · rw [if_pos (by omega), if_neg fun h => hsame h.1]

/-- The bridge hands the registers of an answer on. -/
theorem answer_delivered (bridge : BridgeSetup F) {client : BridgeClient}
    (checksum : Bytes → UInt16) {id replyTopic : PyStr} {registerNo value : ℕ}
    {known : GroBroRegisters F} (hid : PlainId id) (hregister : registerNo < 65536)
    (hrunning : client.forwardStopped = false) (htopic : extractDeviceId replyTopic ≠ [])
    (hknown : getKnownRegisters bridge.registers
      (modbusDeviceId client (extractDeviceId replyTopic)) = some known)
    (hvalues : holdingValues (readAnswer id registerNo value) known ≠ []) :
    .onHoldingRegisterInput (modbusDeviceId client (extractDeviceId replyTopic))
        (holdingValues (readAnswer id registerNo value) known) ∈
      (onMessage bridge client ⟨replyTopic,
        appendCrc checksum (scramble (readAnswer id registerNo value).wire), none⟩).2 := by
  have hwf := readAnswer_wellFormed value hid hregister
  have hlong : 8 ≤ (readAnswer id registerNo value).wire.length := by
    rw [GrowattModbusMessage.wire, List.length_append,
      GrowattModbusMessage.length_headerWire (m := readAnswer id registerNo value) hid.idLength]
    exact le_trans (by decide) (Nat.le_add_right headerSize _)
  obtain ⟨t, ht, hwire⟩ := unscramble_appendCrc checksum hlong
  obtain ⟨hparse, htype, hlength⟩ := readAnswer_read value hid hregister ht
  have hpacket : DevicePacket client ⟨replyTopic,
      appendCrc checksum (scramble (readAnswer id registerNo value).wire), none⟩ :=
    ⟨hrunning, ⟨Option.some_ne_none _ ∘ Eq.symm, Option.some_ne_none _ ∘ Eq.symm⟩, htopic⟩
  obtain ⟨hgrammar, -⟩ := parseGrobro_fields hparse
  have heffects := onMessage_devicePacket bridge hpacket
    (by show 8 ≤ (unscramble (appendCrc checksum _)).length; rw [hwire]; omega)
  rw [heffects]
  refine List.mem_append_right _ ?_
  show _ ∈ (onUnscrambled bridge client _ (unscramble (appendCrc checksum _))).2
  rw [hwire, onUnscrambled_registers (Or.inr htype) hparse hgrammar.length hgrammar.header
    (by rw [hlength]; decide)]
  have hfunction : (readAnswer id registerNo value).function = .readSingleRegister := rfl
  rcases onRegisters_holding hfunction hknown with hempty | hmem
  · exact absurd hempty hvalues
  · exact hmem

/-- Every register in an answer is the one that was read. -/
theorem registerNo_of_mem_holdingValues {id : PyStr} {registerNo value : ℕ}
    {known : GroBroRegisterMap F} {v : HoldingRegisterValue F}
    (h : v ∈ holdingValues (readAnswer id registerNo value) known.device) :
    ∃ entry growatt, known.holdingRegisters.get? v.name = some entry ∧
      entry.growatt = some growatt ∧ growatt.position.registerNo = registerNo := by
  obtain ⟨⟨name, register⟩, hmem, hvalue⟩ := List.mem_filterMap.mp h
  have hget : (known.holdingRegisters.map HoldingRegisterEntry.device).get? name = some register :=
    (Dict.mem_entries _).mp hmem
  rw [Dict.get?_map] at hget
  obtain ⟨entry, hentry, rfl⟩ := Option.map_eq_some_iff.mp hget
  obtain ⟨growatt, hgrowatt, hparsed⟩ := Option.bind_eq_some_iff.mp hvalue
  obtain ⟨shown, hparse, rfl⟩ := Option.map_eq_some_iff.mp hparsed
  refine ⟨entry, growatt, hentry, hgrowatt, ?_⟩
  by_contra hne
  rw [getData_readAnswer, if_neg fun hcovers => hne hcovers.1] at hparse
  cases hparse

/-- A register of a map in the answer to its read. -/
theorem mem_holdingValues_readAnswer (id : PyStr) {registerNo value : ℕ}
    {known : GroBroRegisterMap F} {name : PyStr} {entry : HoldingRegisterEntry F}
    {growatt : GrowattInputRegister F} {parsed : RegisterValue F}
    (hentry : known.holdingRegisters.get? name = some entry)
    (hgrowatt : entry.growatt = some growatt) (hposition : growatt.position = ⟨registerNo, 0, 2⟩)
    (hparse : growatt.data.parse (some (u16Bytes value)) = some parsed) :
    ⟨name, holdingValue entry.homeassistant.toHomeAssistantHoldingRegister parsed,
        entry.homeassistant.toHomeAssistantHoldingRegister⟩ ∈
      holdingValues (readAnswer id registerNo value) known.device := by
  refine List.mem_filterMap.mpr ⟨(name, entry.device), mem_device_holdingRegisters hentry, ?_⟩
  have hdata : (readAnswer id registerNo value).getData growatt.position = some (u16Bytes value) := by
    rw [getData_readAnswer, hposition]
    exact if_pos ⟨rfl, le_rfl⟩
  rw [holdingRegisterValue]
  show (entry.growatt.bind fun growatt => _) = _
  rw [hgrowatt]
  show (growatt.data.parse _).map _ = _
  rw [hdata, hparse]
  rfl

variable [PyUnicode] [PyUpper] [PyLower]

/-- **What is set is what is shown.**  Take a message that sets a register, a device that
answers reads on a topic the bridge takes for its own, and any registers before.  If the
message leads to packets at all, the device ends with exactly the register written, and the
one answer it gives makes the bridge hand over what the payload means, under the name of the
setting, beside other names of the same register at most. -/
theorem setting_shown (setup : CommandSetup F) (bridge : BridgeSetup F)
    (checksum : Bytes → UInt16) (client : BridgeClient) (input : ReadAllInput)
    (now topic replyTopic : PyStr) (payload : Bytes) (t : CommandTopic) (known : GroBroRegisterMap F)
    (entry : HoldingRegisterEntry F) (growatt : GrowattInputRegister F) (registers : ℕ → ℕ)
    (htables : bridge.registers = fun family => (setup.registers family).device)
    (hparsed : parseCommandTopic setup.haBaseTopic topic = some t)
    (hsetting : t.cmdType.isSetting = true)
    (hknown : knownRegisterMap setup.registers t.deviceId = some known)
    (hentry : known.holdingRegisters.get? t.cmdName = some entry)
    (hgrowatt : entry.growatt = some growatt)
    (hposition : growatt.position = ⟨growatt.position.registerNo, 0, 2⟩)
    (htype : entry.homeassistant.type = t.cmdType.text)
    (hcoding : Coding t.cmdType growatt.data entry.homeassistant.options)
    (hgateway : isGateway t.deviceId = false) (hnul : nul ∉ t.deviceId)
    (hrunning : client.forwardStopped = false) (hreply : extractDeviceId replyTopic ≠ [])
    (hdevice : modbusDeviceId client (extractDeviceId replyTopic) = t.deviceId)
    (hsent : messagePackets setup checksum client input now topic payload ≠ []) :
    ∃ (rawValue : PyStr) (value : ℕ) (shown : RegisterValue F) (answer : MqttMessage)
        (values : List (HoldingRegisterValue F)),
      settingText payload = .ok rawValue ∧ Means t.cmdType rawValue shown ∧
      deviceRun checksum t.deviceId replyTopic registers
          (messagePackets setup checksum client input now topic payload) =
        (Function.update registers growatt.position.registerNo value, [answer]) ∧
      .onHoldingRegisterInput t.deviceId values ∈ (onMessage bridge client answer).2 ∧
      ⟨t.cmdName, shown, entry.homeassistant.toHomeAssistantHoldingRegister⟩ ∈ values ∧
      ∀ v ∈ values, ∃ entry' growatt', known.holdingRegisters.get? v.name = some entry' ∧
        entry'.growatt = some growatt' ∧
        growatt'.position.registerNo = growatt.position.registerNo := by
  have hcommanded := commanded_of_packets hsent
  generalize messagePackets setup checksum client input now topic payload = packets at hcommanded ⊢
  cases hcommanded with
  | read t' registerNo register id hnames hbutton hname haction hsend =>
      obtain rfl : t = t' := Option.some.inj (hparsed.symm.trans hnames.parsed)
      rw [hbutton] at hsetting
      cases hsetting
  | readAll t' registers' reads id hnames hidle hendpoint hascii hlength hreads =>
      obtain rfl : t = t' := Option.some.inj (hparsed.symm.trans hnames.parsed)
      rw [hnames.type] at hsetting
      cases hsetting
  | setting t' registerNo register id rawValue value hnames htype' haction htext hparse hsend
      hvalue =>
      obtain ⟨hparsed', known', entry', growatt', hknown', hentry', rfl, hgrowatt', rfl⟩ := hnames
      -- the topic names the same register
      obtain rfl : t = t' := Option.some.inj (hparsed.symm.trans hparsed')
      obtain rfl : known = known' := Option.some.inj (hknown.symm.trans hknown')
      obtain rfl : entry = entry' := Option.some.inj (hentry.symm.trans hentry')
      obtain rfl : growatt = growatt' := Option.some.inj (hgrowatt.symm.trans hgrowatt')
      obtain rfl : t.deviceId = id := by
        have hendpoint := hsend.endpoint
        rw [commandEndpoint, if_neg (by rw [hgateway]; exact Bool.false_ne_true)] at hendpoint
        exact Option.some.inj hendpoint
      have hid : PlainId t.deviceId := ⟨hsend.ascii, hsend.idLength, hnul⟩
      obtain ⟨parsed, hback, hmeans⟩ := means_of_parse htype hcoding hparse hvalue
      have hmem := mem_holdingValues_readAnswer t.deviceId hentry hgrowatt hposition hback
      have hmap : getKnownRegisters bridge.registers
          (modbusDeviceId client (extractDeviceId replyTopic)) = some known.device := by
        rw [htables, hdevice]
        exact getKnownRegisters_device hknown
      have hdelivered := answer_delivered bridge checksum hid
        hsend.registerNo hrunning hreply hmap (List.ne_nil_of_mem hmem)
      rw [hdevice] at hdelivered
      exact ⟨rawValue, value, _, _, _, htext, hmeans,
        deviceRun_setting hid hsend.registerNo hvalue registers, hdelivered, hmem,
        fun v hv => registerNo_of_mem_holdingValues hv⟩

end Shown

/-! ### A switch -/

def chargingName : PyStr := "slot1_enabled".toList

/-- A switch of a NOAH battery. -/
def chargingSwitch : HoldingRegisterEntry ℤ where
  growatt := some ⟨⟨254, 0, 2⟩, { dataType := .int }⟩
  homeassistant := { name := "Slot 1".toList, publish := true, type := "switch".toList }

def chargingSetup : CommandSetup ℤ where
  haBaseTopic := ['h', 'a']
  maxSlots := 1
  registers _ := ⟨∅, .ofList [(chargingName, chargingSwitch)], ∅⟩

def chargingBridge : BridgeSetup ℤ where
  registers family := (chargingSetup.registers family).device
  cloudAllowsDevice _ := false

/-- No Read All goes on. -/
def idleInput : ReadAllInput := ⟨fun _ => false, fun _ => true⟩

def chargingTopic : PyStr := "ha/switch/grobro/0PVP1/slot1_enabled/set".toList

/-- Switched on in Home Assistant, it is shown as on. -/
theorem setting_shown_on :
    letI := PyUnicode.asciiOnly
    letI := PyUpper.asciiOnly
    letI := PyLower.asciiOnly
    ∃ (value : ℕ) (answer : MqttMessage) (values : List (HoldingRegisterValue ℤ)),
      deviceRun (fun _ => 0) "0PVP1".toList "c/33/0PVP1".toList (fun _ => 0)
          (messagePackets chargingSetup (fun _ => 0) bareClient idleInput [] chargingTopic [0x4F, 0x4E]) =
        (Function.update (fun _ => 0) 254 value, [answer]) ∧
      .onHoldingRegisterInput "0PVP1".toList values ∈ (onMessage chargingBridge bareClient answer).2 ∧
      ⟨chargingName, .text "ON".toList,
        chargingSwitch.homeassistant.toHomeAssistantHoldingRegister⟩ ∈ values := by
  let _ : PyUnicode := PyUnicode.asciiOnly
  let _ : PyUpper := PyUpper.asciiOnly
  let _ : PyLower := PyLower.asciiOnly
  have hparsed : parseCommandTopic chargingSetup.haBaseTopic chargingTopic =
      some ⟨.switch, "0PVP1".toList, chargingName, setAction⟩ := by decide +kernel
  have htext : settingText [0x4F, 0x4E] = .ok "ON".toList := by decide +kernel
  have hknown : knownRegisterMap chargingSetup.registers "0PVP1".toList =
      some ⟨∅, .ofList [(chargingName, chargingSwitch)], ∅⟩ := rfl
  have hentry : (OrderedDict.Dict.ofList [(chargingName, chargingSwitch)]).get? chargingName =
      some chargingSwitch := rfl
  have hnames : Names chargingSetup chargingTopic
      ⟨.switch, "0PVP1".toList, chargingName, setAction⟩ 254 chargingSwitch.homeassistant :=
    ⟨hparsed, _, chargingSwitch, _, hknown, hentry, rfl, rfl, rfl⟩
  have hsend : Sendable bareClient "0PVP1".toList "0PVP1".toList 254 :=
    ⟨by decide, by decide, by decide, by decide⟩
  have hsent : messagePackets chargingSetup (fun _ => 0) bareClient idleInput [] chargingTopic
      [0x4F, 0x4E] ≠ [] := by
    rw [packets_of_commanded (.setting _ _ _ _ "ON".toList 1 hnames rfl rfl htext rfl hsend
      (by decide))]
    exact List.cons_ne_nil _ _
  obtain ⟨rawValue, value, shown, answer, values, hraw, hmeans, hdevice, hdelivered, hmem, -⟩ :=
    setting_shown chargingSetup chargingBridge (fun _ => 0) bareClient idleInput [] chargingTopic
      "c/33/0PVP1".toList [0x4F, 0x4E] _ _ chargingSwitch _ (fun _ => 0) rfl hparsed rfl hknown
      hentry rfl rfl rfl (.switch rfl) (by decide) (by decide) rfl (by decide) (by decide) hsent
  obtain rfl : rawValue = "ON".toList := Except.ok.inj (hraw.symm.trans htext)
  have hshown : shown = .text "ON".toList := by
    cases hmeans
    rfl
  rw [hshown] at hmem
  exact ⟨value, answer, values, hdevice, hdelivered, hmem⟩

end GroBro
