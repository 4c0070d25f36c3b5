/-
GroBro/StateMessage.lean

The state message of a telemetry packet, as `publish_input_register` of
`grobro/ha/client.py` makes it: the composed firmware is added
(`compose_combined_firmware` of `grobro/ha/firmware_runtime.py`), batteries are put in their
slots, the value rules of the map are applied (`_register_rules` of
`grobro/ha/performance.py`) and the fragments of the battery serials are joined.

Discovery is built for the same limit of batteries, by other code.  Main result:

* `state_message_shown`: what discovery shows as a state is read from the message, and what
  the message has of the registers that are published is shown.
-/
import GroBro.DiscoveryWiring

namespace GroBro

open OrderedDict

/-! ### Firmware -/

section Firmware

variable [PyDigit]

/-- `str.isdigit` -/
def isDigitText (s : PyStr) : Bool := s ≠ [] ∧ s.all PyDigit.isDigit

/-- `_compact_datalogger_version` -/
def compactDataloggerVersion (value : Option PyStr) : Option PyStr :=
  match value.map strip with
  | none => none
  | some text =>
      if text = [] then none
      else
        let parts := text.splitOn '.'
        if parts.any fun part => !isDigitText part then none else some parts.flatten

/-- `_part_number` -/
def partNumber (name : PyStr) : ℤ := (intOfText ((name.splitOn '_').getLastD [])).getD 9999

/-- `_firmware_part_names_for_device` -/
def firmwarePartNames {F : Type*} (known : GroBroRegisterMap F) : List PyStr :=
  (firmwareParts known).insertionSort fun a b => partNumber a ≤ partNumber b

/-- The loop of `compose_combined_firmware`. -/
def firmwareValues {V : Type*} [PyObject V] (payload : Dict PyStr V) :
    List PyStr → Option (List PyStr)
  | [] => some []
  | name :: rest =>
      match payload.get? name with
      | none => none
      | some value =>
          if PyObject.isNone value ∨ strip (PyObject.str value) = [] then none
          else (firmwareValues payload rest).map (strip (PyObject.str value) :: ·)

/-- `compose_combined_firmware` -/
def composeCombinedFirmware {V : Type*} [PyObject V] (payload : Dict PyStr V)
    (dataloggerVersion : Option PyStr) (names : List PyStr) : Option PyStr :=
  if names = [] then none
  else (firmwareValues payload names).map fun baseParts =>
    let baseVersion := ['.'].intercalate baseParts
    match compactDataloggerVersion dataloggerVersion with
    | some suffix => baseVersion ++ '.' :: suffix
    | none => baseVersion

end Firmware

/-! ### The message -/

section Message

variable {F V : Type*} [PyReading V]

/-- `_register_rules`, as far as values are concerned. -/
def registerRules (known : GroBroRegisterMap F) : RegisterRules F where
  enumRegisters := known.inputRegisters.filterMap fun register =>
    if register.growatt.data.dataType = .enum then some register.growatt.data else none
  invalidBatteryTemps := known.inputRegisters.keys.filter fun name =>
    "bat".toList.isPrefixOf name && "_temp".toList.isSuffixOf name
  wholeWattPower := (known.inputRegisters.entries.filter fun p =>
    p.2.homeassistant.deviceClass = some "power".toList ∧
      p.2.homeassistant.unitOfMeasurement = some "W".toList).map Prod.fst

/-- `has_battery_serial_parts` -/
def hasBatterySerialParts (known : GroBroRegisterMap F) : Bool :=
  known.inputRegisters.keys.any isSerialPart

/-- The keys of a group of `_BAT_SERIAL_GROUPS`. -/
def fragmentKeys (slot : Slot) : List PyStr := ['1', '2', '3', '4'].map (serialKey slot)

/-- The fragments of a serial that have a value, joined. -/
def joinedFragments (payload : Dict PyStr V) (slot : Slot) : PyStr :=
  strip (((fragmentKeys slot).filterMap fun key =>
    (payload.get? key).filter fun value => !PyObject.isNone value).map PyObject.str).flatten

/-- The combined serial that is published. -/
def combinedSerial (payload : Dict PyStr V) (slot : Slot) : Option V :=
  if joinedFragments payload slot = [] then none
  else some (PyReading.ofText (joinedFragments payload slot))

/-- One round of the loop over `_BAT_SERIAL_GROUPS`. -/
def combineSerial (expose : Bool) (payload : Dict PyStr V) (slot : Slot) : Dict PyStr V :=
  let rest := payload.without fun key => key ∈ fragmentKeys slot
  if expose then rest.setOrPop (combinedSerialName slot) (combinedSerial payload slot) else rest

def combineSerials (expose : Bool) (payload : Dict PyStr V) : Dict PyStr V :=
  trackedSlots.foldl (combineSerial expose) payload

variable [PyDigit]

/-- What is published for a state, with the limit that discovery has. -/
def stateMessage (known : GroBroRegisterMap F) (deviceId : PyStr) (effectiveMaxBat : ℤ)
    (statePayload : Dict PyStr V) : Except PyError (Dict PyStr V) :=
  match preparePayload (registerRules known) effectiveMaxBat statePayload with
  | .error e => .error e
  | .ok payload =>
      .ok (if hasBatterySerialParts known then
        combineSerials (getDeviceFamily deviceId = some .noah) payload else payload)

/-- A packet, with what else its processing reads. -/
structure TelemetryPacket (V : Type*) where
  payload : Dict PyStr V
  /-- `sw_version` of the cached config. -/
  dataloggerVersion : Option PyStr
  battery : BatteryWorld
  manual : ManualAssignments
  keepBatteryPosition : Bool
  io : IoOutcome

/-- The firmware of a device whose family has a combined one. -/
def TelemetryPacket.firmware (p : TelemetryPacket V) (known : GroBroRegisterMap F)
    (deviceId : PyStr) : Option PyStr :=
  if usesNoahProtocol deviceId then
    composeCombinedFirmware p.payload p.dataloggerVersion (firmwarePartNames known)
  else none

/-- `state_payload`, up to the value rules. -/
def TelemetryPacket.statePayload (p : TelemetryPacket V) (known : GroBroRegisterMap F)
    (deviceId : PyStr) : Dict PyStr V :=
  let payload := match p.firmware known deviceId with
    | some version => p.payload.insert firmwareSuffix (PyReading.ofText version)
    | none => p.payload
  if usesNoahProtocol deviceId then
    (prepareBatteryPayload p.battery deviceId payload p.manual p.keepBatteryPosition p.io).2.1
  else payload

end Message

/-! ### Joined serials -/

section Serials

variable {V : Type*} [PyReading V] {expose : Bool} {payload : Dict PyStr V} {slot slot' : Slot}
  {key : PyStr}

theorem isSerialPart_of_mem (h : key ∈ fragmentKeys slot) : isSerialPart key = true := by
  obtain ⟨index, hindex, rfl⟩ := List.mem_map.mp h
  simp only [List.mem_cons, List.not_mem_nil, or_false] at hindex
  rcases hindex with rfl | rfl | rfl | rfl <;> cases slot <;> decide

theorem combinedSerialName_not_mem (slot slot' : Slot) :
    combinedSerialName slot ∉ fragmentKeys slot' := by
  cases slot <;> cases slot' <;> decide

theorem combinedSerialName_injective (h : combinedSerialName slot = combinedSerialName slot') :
    slot = slot' := by
  cases slot <;> cases slot' <;> first | rfl | exact absurd h (by decide)

/-- No fragment is a fragment of two batteries. -/
theorem fragmentKeys_disjoint (h : key ∈ fragmentKeys slot) (h' : key ∈ fragmentKeys slot') :
    slot = slot' := by
  obtain ⟨index, -, rfl⟩ := List.mem_map.mp h
  obtain ⟨index', -, he⟩ := List.mem_map.mp h'
  have hslot := logicalSlotFromKey_serialKey slot index
  rw [← he, logicalSlotFromKey_serialKey] at hslot
  exact (Option.some.inj hslot).symm

/-- What one round leaves under a key. -/
theorem get?_combineSerial (expose : Bool) (payload : Dict PyStr V) (slot : Slot) (key : PyStr) :
    (combineSerial expose payload slot).get? key =
      if key ∈ fragmentKeys slot then none
      else if expose = true ∧ key = combinedSerialName slot then combinedSerial payload slot
      else payload.get? key := by
  have hrest : (payload.without fun key => key ∈ fragmentKeys slot).get? key =
      if key ∈ fragmentKeys slot then none else payload.get? key := by
    rw [Dict.get?_without]
    simp only [decide_eq_true_eq]
  unfold combineSerial
  cases expose with
  | false => exact hrest.trans (by simp)
  | true =>
      dsimp only
      rw [if_pos rfl, Dict.get?_setOrPop, hrest]
      by_cases hkey : combinedSerialName slot = key
      · subst hkey
        rw [if_pos rfl, if_neg (combinedSerialName_not_mem slot slot), if_pos (by simp)]
      · rw [if_neg hkey, if_neg (c := _ ∧ _) fun h => hkey h.2.symm]

theorem joinedFragments_congr {payload' : Dict PyStr V}
    (h : ∀ key ∈ fragmentKeys slot, payload'.get? key = payload.get? key) :
    joinedFragments payload' slot = joinedFragments payload slot := by
  rw [joinedFragments, joinedFragments]
  congr 3
  exact List.filterMap_congr fun key hkey => by rw [h key hkey]

/-- A round changes the fragments of its own battery only. -/
theorem combinedSerial_combineSerial (h : slot ≠ slot') :
    combinedSerial (combineSerial expose payload slot') slot = combinedSerial payload slot := by
  have hjoined : joinedFragments (combineSerial expose payload slot') slot =
      joinedFragments payload slot := by
    apply joinedFragments_congr
    intro key hkey
    rw [get?_combineSerial, if_neg fun h' => h (fragmentKeys_disjoint hkey h'), if_neg]
    rintro ⟨-, rfl⟩
    exact combinedSerialName_not_mem slot' slot hkey
  rw [combinedSerial, combinedSerial, hjoined]

/-- **The serials of a message**: no fragment is left, and the serial of a battery is what
its fragments are joined to. -/
theorem get?_combineSerials (expose : Bool) (payload : Dict PyStr V) :
    (∀ slot, ∀ key ∈ fragmentKeys slot, (combineSerials expose payload).get? key = none) ∧
    (∀ slot, (combineSerials expose payload).get? (combinedSerialName slot) =
      if expose = true then combinedSerial payload slot
      else payload.get? (combinedSerialName slot)) ∧
    ∀ key, (∀ slot, key ∉ fragmentKeys slot ∧ key ≠ combinedSerialName slot) →
      (combineSerials expose payload).get? key = payload.get? key := by
  have hother : ∀ (payload : Dict PyStr V) slot key, key ∉ fragmentKeys slot →
      key ≠ combinedSerialName slot →
      (combineSerial expose payload slot).get? key = payload.get? key := by
    intro payload slot key hkey hname
    rw [get?_combineSerial, if_neg hkey, if_neg fun h => hname h.2]
  have hfragment : ∀ (payload : Dict PyStr V) slot key, key ∈ fragmentKeys slot →
      (combineSerial expose payload slot).get? key = none := by
    intro payload slot key hkey
    rw [get?_combineSerial, if_pos hkey]
  have hserial : ∀ (payload : Dict PyStr V) slot,
      (combineSerial expose payload slot).get? (combinedSerialName slot) =
        if expose = true then combinedSerial payload slot
        else payload.get? (combinedSerialName slot) := by
    intro payload slot
    rw [get?_combineSerial, if_neg (combinedSerialName_not_mem slot slot)]
    simp
  -- a fragment or a serial of one battery is nothing to the round of another
  have hkeep : ∀ (payload : Dict PyStr V) {slot slot'} key, slot ≠ slot' →
      key ∈ combinedSerialName slot :: fragmentKeys slot →
      (combineSerial expose payload slot').get? key = payload.get? key := by
    intro payload slot slot' key hne hkey
    rcases List.mem_cons.mp hkey with rfl | hkey
    · exact hother _ _ _ (combinedSerialName_not_mem _ _) fun h =>
        hne (combinedSerialName_injective h)
    · refine hother _ _ _ (fun h => hne (fragmentKeys_disjoint hkey h)) ?_
      rintro rfl
      exact combinedSerialName_not_mem _ _ hkey
  refine ⟨?_, ?_, ?_⟩
  · intro slot key hkey
    have hmem := List.mem_cons_of_mem (combinedSerialName slot) hkey
    show (combineSerial expose (combineSerial expose (combineSerial expose payload .two)
      .three) .four).get? key = none
    cases slot with
    | two => rw [hkeep _ key (by decide) hmem, hkeep _ key (by decide) hmem, hfragment _ _ _ hkey]
    | three => rw [hkeep _ key (by decide) hmem, hfragment _ _ _ hkey]
    | four => exact hfragment _ _ _ hkey
  · intro slot
    have hmem : combinedSerialName slot ∈ combinedSerialName slot :: fragmentKeys slot :=
      List.mem_cons_self
    show (combineSerial expose (combineSerial expose (combineSerial expose payload .two)
      .three) .four).get? _ = _
    cases slot with
    | two => rw [hkeep _ _ (by decide) hmem, hkeep _ _ (by decide) hmem, hserial]
    | three =>
        rw [hkeep _ _ (by decide) hmem, hserial, combinedSerial_combineSerial (by decide),
          hkeep _ _ (by decide) hmem]
    | four =>
        rw [hserial, combinedSerial_combineSerial (by decide),
          combinedSerial_combineSerial (by decide), hkeep _ _ (by decide) hmem,
          hkeep _ _ (by decide) hmem]
  · intro key hkey
    show (combineSerial expose (combineSerial expose (combineSerial expose payload .two)
      .three) .four).get? key = _
    rw [hother _ .four key (hkey .four).1 (hkey .four).2,
      hother _ .three key (hkey .three).1 (hkey .three).2,
      hother _ .two key (hkey .two).1 (hkey .two).2]

end Serials

/-! ### What is shown -/

section Shown

variable [PyDigit] {F : Type*} {base bridgeTopic deviceId : PyStr}
  {known : GroBroRegisterMap F} {deviceInfo : Dict PyStr UiValue} {o : DiscoveryOptions}
  {payload : DiscoveryPayload}

theorem stateShown_eq_true_iff {effectiveMaxBat : ℤ} {pvCount : Option ℕ} {name : PyStr}
    {register : InputRegisterEntry F} :
    stateShown effectiveMaxBat pvCount name register = some true ↔
      (register.homeassistant.publish = true ∨ (pvCount = some 4 ∧ name ∈ fourInputStates)) ∧
      (getBatNumber name).isOk = true ∧ filtered effectiveMaxBat name = false ∧
      isSerialPart name = false := by
  have hpublished : (!register.homeassistant.publish &&
      !(decide (pvCount = some 4) && decide (name ∈ fourInputStates))) = true ↔
      ¬ (register.homeassistant.publish = true ∨ (pvCount = some 4 ∧ name ∈ fourInputStates)) := by
    rw [Bool.and_eq_true, Bool.not_eq_true', Bool.not_eq_true', ← Bool.decide_and,
      decide_eq_false_iff_not, not_or, Bool.not_eq_true]
  rw [stateShown]
  by_cases hshown : register.homeassistant.publish = true ∨
      (pvCount = some 4 ∧ name ∈ fourInputStates)
  · rw [if_neg fun h => hpublished.mp h hshown, filtered]
    rcases getBatNumber name with e | (- | n)
    · simp [Except.isOk, Except.toBool]
    · simp [Except.isOk, Except.toBool, hshown]
    · by_cases hlimit : effectiveMaxBat < n
      · simp [hlimit]
      · simp [Except.isOk, Except.toBool, hshown, hlimit]
  · rw [if_pos (hpublished.mpr hshown)]
    simp [hshown]

/-- A combined serial is shown up to the limit. -/
theorem payload_serial (hpayload : buildDiscoveryPayload base bridgeTopic deviceId known
    deviceInfo o = some payload) (hnames : DistinctNames known)
    (hfamily : getDeviceFamily deviceId = some .noah) (hparts : hasBatterySerialParts known = true)
    {slot : Slot} (hslot : (slot.value : ℤ) ≤ o.effectiveMaxBat) :
    payload.cmps.get? (uniqueId deviceId (combinedSerialName slot)) =
      some (serialComponent base deviceId slot) := by
  refine payload_sensor hpayload hnames (by cases slot <;> decide) (by cases slot <;> decide)
    fun component => ?_
  have hserials : serialComponents base deviceId o.effectiveMaxBat known =
      (trackedSlots.filter fun slot => (slot.value : ℤ) ≤ o.effectiveMaxBat).map fun slot =>
        (combinedSerialName slot, serialComponent base deviceId slot) := if_pos ⟨hfamily, hparts⟩
  constructor
  · intro h
    simp only [sensorComponents, List.mem_append] at h
    rcases h with ((h | h) | h) | h
    · rw [hserials] at h
      obtain ⟨slot', -, he⟩ := List.mem_map.mp h
      obtain ⟨hname, rfl⟩ := Prod.mk.inj he
      rw [combinedSerialName_injective hname]
    · rw [firmwareComponents] at h
      split_ifs at h
      · cases h
      · have hname := (Prod.mk.inj (List.mem_singleton.mp h)).1
        exact absurd hname (by cases slot <;> decide)
    · simp only [List.mem_cons, List.not_mem_nil, or_false] at h
      rcases h with h | h
      · exact absurd (Prod.mk.inj h).1 (by cases slot <;> decide)
      · exact absurd (Prod.mk.inj h).1 (by cases slot <;> decide)
    · split_ifs at h
      · exact absurd (Prod.mk.inj (List.mem_singleton.mp h)).1 (by cases slot <;> decide)
      · cases h
  · intro h
    obtain rfl := Option.some.inj h
    rw [sensorComponents, hserials]
    exact List.mem_append_left _ (List.mem_append_left _ (List.mem_append_left _
      (List.mem_map.mpr ⟨slot, List.mem_filter.mpr ⟨mem_trackedSlots slot,
        decide_eq_true hslot⟩, rfl⟩)))

/-- The firmware is shown if the map has parts of it. -/
theorem payload_firmware (hpayload : buildDiscoveryPayload base bridgeTopic deviceId known
    deviceInfo o = some payload) (hnames : DistinctNames known) (hparts : firmwareParts known ≠ []) :
    payload.cmps.get? (uniqueId deviceId firmwareSuffix) =
      some (firmwareComponent base deviceId known) := by
  refine payload_sensor hpayload hnames (by decide) (by decide) fun component => ?_
  have hfirmware : firmwareComponents base deviceId known =
      [(firmwareSuffix, firmwareComponent base deviceId known)] := if_neg hparts
  constructor
  · intro h
    simp only [sensorComponents, List.mem_append] at h
    rcases h with ((h | h) | h) | h
    · rw [serialComponents] at h
      split_ifs at h
      · obtain ⟨slot, -, he⟩ := List.mem_map.mp h
        exact absurd (Prod.mk.inj he).1 (by cases slot <;> decide)
      · cases h
    · rw [hfirmware] at h
      exact congrArg some (Prod.mk.inj (List.mem_singleton.mp h)).2.symm
    · simp only [List.mem_cons, List.not_mem_nil, or_false] at h
      rcases h with h | h
      · exact absurd (Prod.mk.inj h).1 (by decide)
      · exact absurd (Prod.mk.inj h).1 (by decide)
    · split_ifs at h
      · exact absurd (Prod.mk.inj (List.mem_singleton.mp h)).1 (by decide)
      · cases h
  · intro h
    obtain rfl := Option.some.inj h
    rw [sensorComponents, hfirmware]
    exact List.mem_append_left _ (List.mem_append_left _ (List.mem_append_right _
      List.mem_cons_self))

end Shown

/-! ### Discovery and message -/

section Packets

variable {F V : Type*} [PyReading V] [PyDigit]

/-- What names no slot stays where it is. -/
theorem get?_prepareBatteryPayload_other {key : PyStr} (h : logicalSlotFromKey key = none)
    (w : BatteryWorld) (deviceId : PyStr) (payload : Dict PyStr V) (manual : ManualAssignments)
    (useStableAuto : Bool) (io : IoOutcome) :
    (prepareBatteryPayload w deviceId payload manual useStableAuto io).2.1.get? key =
      payload.get? key := by
  have hstabilized : ∀ mapping useStableAuto,
      (stabilized mapping useStableAuto manual payload).1.get? key = payload.get? key := by
    intro mapping useStableAuto
    show (remapPayload _ _ _ payload).get? key = _
    rw [remapPayload]
    split_ifs
    · rfl
    · exact get?_renamed_other h
  rw [prepareBatteryPayload]
  split_ifs
  · rfl
  rw [stabilizeLocked]
  rcases positionMaps w io.readOk with - | positions
  · dsimp only
    split_ifs
    · rfl
    · exact hstabilized _ _
  · dsimp only
    split_ifs
    · rfl
    · exact hstabilized _ _
    · exact hstabilized _ _

omit [PyDigit] in
/-- A key that is no register has its value. -/
theorem preparedValue_of_unknown {known : GroBroRegisterMap F} {key : PyStr}
    (h : known.inputRegisters.get? key = none) (value : V) :
    preparedValue (registerRules known) key value = value := by
  have hkey : key ∉ known.inputRegisters.keys := by
    intro hmem
    obtain ⟨register, hregister⟩ := Dict.mem_keys_iff.mp hmem
    rw [h] at hregister
    cases hregister
  have htemp : key ∉ (registerRules known).invalidBatteryTemps :=
    fun hmem => hkey (List.mem_filter.mp hmem).1
  have henum : (registerRules known).enumRegisters.get? key = none := by
    show (known.inputRegisters.filterMap _).get? key = none
    rw [Dict.get?_filterMap, h]
    rfl
  have hwatt : key ∉ (registerRules known).wholeWattPower := by
    intro hmem
    obtain ⟨p, hp, rfl⟩ := List.mem_map.mp hmem
    exact hkey (List.mem_map.mpr ⟨p, (List.mem_filter.mp hp).1, rfl⟩)
  rw [preparedValue, henum, if_neg hwatt, if_neg fun h => htemp h.2]

/-- A component shows a key of the state message. -/
structure Reads (base deviceId : PyStr) (component : Component) (key : PyStr) : Prop where
  stateTopic : component.get? "state_topic".toList = some (.text (stateTopic base deviceId))
  template : component.get? "value_template".toList = some (.text (valueTemplate key))

omit [PyDigit] in
/-- A sensor of the payload is published with its topic and its template. -/
theorem reads_published (c : DiscoveryCleaning) {base deviceId name : PyStr}
    {payload : DiscoveryPayload} {component : Component}
    (hget : payload.cmps.get? (uniqueId deviceId name) = some component)
    (hkept : name ∉ ["sync_time".toList, commandSuffix "system_time".toList])
    (htopic : component.get? "state_topic".toList = some (.text (stateTopic base deviceId)))
    (htemplate : name = firmwareSuffix ∨
      component.get? "value_template".toList = some (.text (valueTemplate name))) :
    ∃ shown, (publishedDiscovery c deviceId payload).cmps.get? (uniqueId deviceId name) =
      some shown ∧ Reads base deviceId shown name := by
  have hdropped : uniqueId deviceId name ∉ droppedComponents deviceId := by
    intro h
    refine hkept ?_
    simp only [droppedComponents, List.mem_cons, List.not_mem_nil, or_false] at h ⊢
    exact h.imp (fun h => uniqueId_injective deviceId h) fun h => uniqueId_injective deviceId h
  refine ⟨publishedComponent c deviceId (uniqueId deviceId name) component, ?_, ?_, ?_⟩
  · rw [publishedDiscovery_get?, if_neg hdropped, hget]
    rfl
  · rw [publishedComponent_get? c deviceId _ component (by decide) (by decide)]
    exact htopic
  · rw [publishedComponent]
    split_ifs with hfirmware
    · rw [uniqueId_injective deviceId hfirmware]
      exact Dict.get?_insert_self _ _ _
    · rw [cleanComponent_get? c deviceId _ component (by decide)]
      exact htemplate.resolve_left fun h => hfirmware (by rw [h])

/-- A message, and the payload that it was prepared from. -/
structure PreparedMessage (known : GroBroRegisterMap F) (deviceId : PyStr) (effectiveMaxBat : ℤ)
    (statePayload prepared message : Dict PyStr V) : Prop where
  prepares : preparePayload (registerRules known) effectiveMaxBat statePayload = .ok prepared
  combines : message = if hasBatterySerialParts known then
    combineSerials (getDeviceFamily deviceId = some .noah) prepared else prepared

theorem exists_preparedMessage {known : GroBroRegisterMap F} {deviceId : PyStr}
    {effectiveMaxBat : ℤ} {statePayload message : Dict PyStr V}
    (h : stateMessage known deviceId effectiveMaxBat statePayload = .ok message) :
    ∃ prepared, PreparedMessage known deviceId effectiveMaxBat statePayload prepared message := by
  rw [stateMessage] at h
  rcases hprepared : preparePayload (registerRules known) effectiveMaxBat statePayload
    with e | prepared
  · rw [hprepared] at h
    cases h
  · rw [hprepared] at h
    exact ⟨prepared, hprepared, (Except.ok.inj h).symm⟩

section Prepared

variable {known : GroBroRegisterMap F} {deviceId : PyStr} {effectiveMaxBat : ℤ}
  {statePayload prepared message : Dict PyStr V}

/-- What no serial is made of or for is as it was prepared. -/
theorem PreparedMessage.get?_other
    (h : PreparedMessage known deviceId effectiveMaxBat statePayload prepared message) {key : PyStr}
    (hkey : ∀ slot, key ∉ fragmentKeys slot ∧ key ≠ combinedSerialName slot) :
    message.get? key =
      if filtered effectiveMaxBat key then none
      else (statePayload.get? key).map (preparedValue (registerRules known) key) := by
  rw [← preparePayload_get? h.prepares, h.combines]
  split_ifs
  · exact (get?_combineSerials _ prepared).2.2 key hkey
  · rfl

/-- A register that is no fragment is as it was prepared. -/
theorem PreparedMessage.get?_register
    (h : PreparedMessage known deviceId effectiveMaxBat statePayload prepared message)
    (hnames : DistinctNames known) {name : PyStr} {register : InputRegisterEntry F}
    (hregister : known.inputRegisters.get? name = some register)
    (hpart : isSerialPart name = false) :
    message.get? name =
      if filtered effectiveMaxBat name then none
      else (statePayload.get? name).map (preparedValue (registerRules known) name) := by
  refine h.get?_other fun slot => ⟨fun hfragment => ?_, fun hserial => ?_⟩
  · rw [isSerialPart_of_mem hfragment] at hpart
    cases hpart
  · refine (hnames.state name register hregister).1 ?_
    rw [hserial]
    exact List.mem_append_right _ (List.mem_map.mpr ⟨slot, mem_trackedSlots slot, rfl⟩)

/-- A register that is published and in the message is not filtered. -/
theorem PreparedMessage.shown
    (h : PreparedMessage known deviceId effectiveMaxBat statePayload prepared message)
    (hnames : DistinctNames known) {name : PyStr} {register : InputRegisterEntry F} {value : V}
    (hregister : known.inputRegisters.get? name = some register)
    (hparts : isSerialPart name = true → ∃ slot, name ∈ fragmentKeys slot)
    (hpublish : register.homeassistant.publish = true) (hvalue : message.get? name = some value)
    (pvCount : Option ℕ) : stateShown effectiveMaxBat pvCount name register = some true := by
  have hpart : isSerialPart name = false := by
    by_contra hpart
    rw [Bool.not_eq_false] at hpart
    obtain ⟨slot, hfragment⟩ := hparts hpart
    have hsome : hasBatterySerialParts known = true :=
      List.any_eq_true.mpr ⟨name, Dict.mem_keys_iff.mpr ⟨register, hregister⟩, hpart⟩
    rw [h.combines, if_pos hsome, (get?_combineSerials _ prepared).1 slot name hfragment] at hvalue
    cases hvalue
  rw [h.get?_register hnames hregister hpart] at hvalue
  split_ifs at hvalue with hfiltered
  obtain ⟨raw, hraw, -⟩ := Option.map_eq_some_iff.mp hvalue
  have hread := exists_prepareLoop_iff.mp ⟨prepared, h.prepares⟩ (name, raw)
    ((Dict.mem_entries _).mpr hraw)
  exact stateShown_eq_true_iff.mpr
    ⟨Or.inl hpublish, hread, Bool.eq_false_iff.mpr hfiltered, hpart⟩

/-- The serial of a battery in a message, and its fragments. -/
theorem PreparedMessage.serials
    (h : PreparedMessage known deviceId effectiveMaxBat statePayload prepared message)
    (hsome : hasBatterySerialParts known = true) (slot : Slot) :
    (∀ key ∈ fragmentKeys slot, message.get? key = none) ∧
    (getDeviceFamily deviceId = some .noah →
      message.get? (combinedSerialName slot) = combinedSerial prepared slot) ∧
    (effectiveMaxBat < slot.value → message.get? (combinedSerialName slot) = none) := by
  have hmessage := h.combines
  rw [if_pos hsome] at hmessage
  obtain ⟨hfragments, hserials, -⟩ :=
    get?_combineSerials (decide (getDeviceFamily deviceId = some .noah)) prepared
  refine ⟨fun key hkey => by rw [hmessage, hfragments slot key hkey], ?_, ?_⟩
  · intro hfamily
    rw [hmessage, hserials slot, if_pos (decide_eq_true hfamily)]
  · -- nothing of a battery above the limit was prepared
    intro hslot
    have hnone : ∀ key ∈ combinedSerialName slot :: fragmentKeys slot,
        prepared.get? key = none := by
      intro key hkey
      have hslotKey : logicalSlotFromKey key = some slot := by
        rcases List.mem_cons.mp hkey with rfl | hkey
        · cases slot <;> decide
        · obtain ⟨index, -, rfl⟩ := List.mem_map.mp hkey
          exact logicalSlotFromKey_serialKey slot index
      have hfiltered : filtered effectiveMaxBat key = true := by
        rw [filtered, getBatNumber_of_slot hslotKey]
        exact decide_eq_true hslot
      rw [preparePayload_get? h.prepares, if_pos hfiltered]
    have hempty : joinedFragments prepared slot = joinedFragments ∅ slot :=
      joinedFragments_congr fun key hkey => hnone key (List.mem_cons_of_mem _ hkey)
    have hjoined : joinedFragments prepared slot = [] := hempty.trans rfl
    rw [hmessage, hserials slot, combinedSerial, if_pos hjoined, hnone _ List.mem_cons_self,
      ite_self]

end Prepared

/-- A firmware that was composed comes from parts in the map, and is in the payload. -/
theorem TelemetryPacket.firmware_spec {p : TelemetryPacket V} {known : GroBroRegisterMap F}
    {deviceId version : PyStr} (h : p.firmware known deviceId = some version) :
    firmwareParts known ≠ [] ∧
    (p.statePayload known deviceId).get? firmwareSuffix = some (PyReading.ofText version) := by
  have hfamily : usesNoahProtocol deviceId = true := by
    rw [TelemetryPacket.firmware] at h
    split_ifs at h with hfamily
    exact hfamily
  constructor
  · intro hnone
    rw [TelemetryPacket.firmware, if_pos hfamily, composeCombinedFirmware, firmwarePartNames,
      hnone] at h
    cases h
  · rw [TelemetryPacket.statePayload, h, if_pos hfamily,
      get?_prepareBatteryPayload_other (by decide)]
    exact Dict.get?_insert_self _ _ _

/-- The firmware of a packet is in the message as it was composed. -/
theorem PreparedMessage.firmware {p : TelemetryPacket V} {known : GroBroRegisterMap F}
    {deviceId version : PyStr} {effectiveMaxBat : ℤ} {prepared message : Dict PyStr V}
    (h : PreparedMessage known deviceId effectiveMaxBat (p.statePayload known deviceId) prepared
      message)
    (hnames : DistinctNames known) (hversion : p.firmware known deviceId = some version) :
    message.get? firmwareSuffix = some (PyReading.ofText version) := by
  have hunknown : known.inputRegisters.get? firmwareSuffix = none := by
    rcases hregister : known.inputRegisters.get? firmwareSuffix with - | register
    · rfl
    · exact absurd (by decide) (hnames.state _ register hregister).1
  have hnumber : getBatNumber firmwareSuffix = .ok none := rfl
  have hkept : filtered effectiveMaxBat firmwareSuffix = false := by
    rw [filtered, hnumber]
  rw [h.get?_other fun slot => by cases slot <;> decide, hkept,
    p.firmware_spec hversion |>.2, Option.map_some, preparedValue_of_unknown hunknown]
  rfl

/-- **What is shown is in the message, and what is in the message is shown.**  For one limit
of batteries and one map:

* a register that is shown is read under its name, where the message has its prepared value;
* a register that is published is shown if the message has it;
* no fragment of a serial is in the message, and the serial of a battery up to the limit is
  shown and is joined from the fragments; above the limit there is none;
* the composed firmware is shown and is in the message. -/
theorem state_message_shown (c : DiscoveryCleaning) (p : TelemetryPacket V)
    {base bridgeTopic deviceId : PyStr} {known : GroBroRegisterMap F}
    {deviceInfo : Dict PyStr UiValue} {o : DiscoveryOptions} {payload : DiscoveryPayload}
    {message : Dict PyStr V} (hnames : DistinctNames known)
    (hparts : ∀ name register, known.inputRegisters.get? name = some register →
      isSerialPart name = true → ∃ slot, name ∈ fragmentKeys slot)
    (hpayload : buildDiscoveryPayload base bridgeTopic deviceId known deviceInfo o = some payload)
    (hmessage : stateMessage known deviceId o.effectiveMaxBat (p.statePayload known deviceId) =
      .ok message) :
    let Shown := fun name => ∃ component,
      (publishedDiscovery c deviceId payload).cmps.get? (uniqueId deviceId name) =
        some component ∧ Reads base deviceId component name
    (∀ name register, known.inputRegisters.get? name = some register →
      stateShown o.effectiveMaxBat o.pvCount name register = some true →
      Shown name ∧ message.get? name =
        ((p.statePayload known deviceId).get? name).map
          (preparedValue (registerRules known) name)) ∧
    (∀ name register value, known.inputRegisters.get? name = some register →
      register.homeassistant.publish = true → message.get? name = some value → Shown name) ∧
    (hasBatterySerialParts known = true → ∀ slot,
      (∀ key ∈ fragmentKeys slot, message.get? key = none) ∧
      (getDeviceFamily deviceId = some .noah → (slot.value : ℤ) ≤ o.effectiveMaxBat →
        Shown (combinedSerialName slot) ∧ ∃ prepared,
          preparePayload (registerRules known) o.effectiveMaxBat (p.statePayload known deviceId) =
            .ok prepared ∧
          message.get? (combinedSerialName slot) = combinedSerial prepared slot) ∧
      (o.effectiveMaxBat < slot.value → message.get? (combinedSerialName slot) = none)) ∧
    (∀ version, p.firmware known deviceId = some version →
      Shown firmwareSuffix ∧ message.get? firmwareSuffix = some (PyReading.ofText version)) := by
  intro Shown
  obtain ⟨prepared, h⟩ := exists_preparedMessage hmessage
  have hshown : ∀ name register, known.inputRegisters.get? name = some register →
      stateShown o.effectiveMaxBat o.pvCount name register = some true → Shown name := by
    intro name register hregister hstate
    obtain ⟨hown, hcommand⟩ := hnames.state name register hregister
    have hcomponent := payload_state hpayload hnames hregister
    rw [if_pos hstate] at hcomponent
    obtain ⟨-, htopic, htemplate⟩ := stateComponent_get? base deviceId name register
    refine reads_published c hcomponent ?_ htopic (Or.inr htemplate)
    intro hdropped
    simp only [List.mem_cons, List.not_mem_nil, or_false] at hdropped
    rcases hdropped with rfl | rfl
    · exact hown (by decide)
    · exact hcommand ⟨_, rfl⟩
  refine ⟨?_, ?_, ?_, ?_⟩
  · intro name register hregister hstate
    obtain ⟨-, -, hkept, hpart⟩ := stateShown_eq_true_iff.mp hstate
    refine ⟨hshown name register hregister hstate, ?_⟩
    rw [h.get?_register hnames hregister hpart, hkept]
    rfl
  · intro name register value hregister hpublish hvalue
    exact hshown name register hregister
      (h.shown hnames hregister (hparts name register hregister) hpublish hvalue o.pvCount)
  · intro hsome slot
    obtain ⟨hfragments, hserial, habove⟩ := h.serials hsome slot
    refine ⟨hfragments, ?_, habove⟩
    intro hfamily hslot
    exact ⟨reads_published c (payload_serial hpayload hnames hfamily hsome hslot)
      (by cases slot <;> decide) rfl (Or.inr rfl), prepared, h.prepares, hserial hfamily⟩
  · intro version hversion
    exact ⟨reads_published c (payload_firmware hpayload hnames (p.firmware_spec hversion).1)
      (by decide) rfl (Or.inl rfl), h.firmware hnames hversion⟩

end Packets

def telemetryRegister (name : String) : PyStr × InputRegisterEntry ℤ :=
  (name.toList, ⟨⟨⟨0, 0, 2⟩, { dataType := .int }⟩, { name := name.toList, publish := true }⟩)

/-- Some registers of a NOAH. -/
def telemetryMap : GroBroRegisterMap ℤ where
  inputRegisters := .ofList [telemetryRegister "bat2_soc", telemetryRegister "bat2_ser_part_1",
    telemetryRegister "fw_version_part_1"]
  holdingRegisters := ∅
  configRegisters := ∅

/-- A second battery, without its serial. -/
def telemetryOfTwo : TelemetryPacket Reading where
  payload := .ofList [("bat2_soc".toList, some (.inl 50)), ("fw_version_part_1".toList, some (.inl 19))]
  dataloggerVersion := some "4.0.1.9".toList
  battery := ⟨⟨none, false⟩, .absent⟩
  manual := noAssignments
  keepBatteryPosition := false
  io := ⟨true, true⟩

/-- The charge of the battery and the firmware are shown. -/
theorem state_message_shown_battery :
    letI := PyDigit.asciiOnly
    ∃ payload message, buildDiscoveryPayload ['h', 'a'] [] "0PVP1".toList telemetryMap ∅
        ⟨2, none, 1, 0, false⟩ = some payload ∧
      stateMessage telemetryMap "0PVP1".toList 2
        (telemetryOfTwo.statePayload telemetryMap "0PVP1".toList) = .ok message ∧
      (∃ component, (publishedDiscovery ⟨[], none, id, none⟩ "0PVP1".toList payload).cmps.get?
          (uniqueId "0PVP1".toList "bat2_soc".toList) = some component ∧
        Reads ['h', 'a'] "0PVP1".toList component "bat2_soc".toList) ∧
      message.get? "bat2_soc".toList = some (some (.inl 50)) ∧
      message.get? firmwareSuffix = some (some (.inr "19.4019".toList)) := by
  let _ : PyDigit := PyDigit.asciiOnly
  have honly : ∀ name register, telemetryMap.inputRegisters.get? name = some register →
      name ∈ ["bat2_soc", "bat2_ser_part_1", "fw_version_part_1"].map String.toList := by
    intro name register h
    exact Dict.mem_keys_iff.mpr ⟨register, h⟩
  have hnames : DistinctNames telemetryMap :=
    { commands := List.nodup_nil
      command := fun entry hentry => by cases hentry
      state := by
        intro name register h
        have hname := honly name register h
        simp only [List.map_cons, List.map_nil, List.mem_cons, List.not_mem_nil, or_false] at hname
        rcases hname with rfl | rfl | rfl <;> exact ⟨by decide, by decide⟩ }
  have hparts : ∀ name register, telemetryMap.inputRegisters.get? name = some register →
      isSerialPart name = true → ∃ slot, name ∈ fragmentKeys slot := by
    intro name register h hpart
    have hname := honly name register h
    simp only [List.map_cons, List.map_nil, List.mem_cons, List.not_mem_nil, or_false] at hname
    rcases hname with rfl | rfl | rfl
    · exact absurd hpart (by decide)
    · exact ⟨.two, by decide⟩
    · exact absurd hpart (by decide)
  obtain ⟨payload, hpayload⟩ : ∃ payload, buildDiscoveryPayload ['h', 'a'] [] "0PVP1".toList
      telemetryMap ∅ ⟨2, none, 1, 0, false⟩ = some payload := ⟨_, rfl⟩
  obtain ⟨message, hmessage⟩ : ∃ message, stateMessage telemetryMap "0PVP1".toList 2
      (telemetryOfTwo.statePayload telemetryMap "0PVP1".toList) = .ok message := ⟨_, rfl⟩
  obtain ⟨hshown, -, -, hfirmware⟩ := state_message_shown ⟨[], none, id, none⟩ telemetryOfTwo
    hnames hparts hpayload hmessage
  obtain ⟨hreads, hvalue⟩ := hshown "bat2_soc".toList _ rfl (by decide)
  obtain ⟨-, hversion⟩ := hfirmware "19.4019".toList (by decide)
  exact ⟨payload, message, hpayload, hmessage, hreads, hvalue.trans rfl, hversion⟩

end GroBro
