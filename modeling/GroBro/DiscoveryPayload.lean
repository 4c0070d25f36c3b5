/-
GroBro/DiscoveryPayload.lean

`build_discovery_payload` of `grobro/ha/discovery_payload.py`, with `iter_command_registers`
of `grobro/ha/register_helpers.py`: the components that Home Assistant is told about.  A
component is made for every register that is published and not filtered, and some are made
for every device.  All of them are assigned to one dictionary under their unique ids.

A component says on which topic its state comes and on which topic it is set.  Nothing in
this function looks at the code that publishes and subscribes; that the topics are the same
is `discovery_wired`.

The payload is cleaned before it is published (`clean_discovery_payload` of
`grobro/ha/discovery_runtime.py` and `_apply_firmware_discovery` of
`grobro/ha/firmware_runtime.py`), in between as a text whose dictionaries are sorted.

The device information is handed through.  Fields without a value are left out or `null`, as
the source has it.
-/
import GroBro.PreparePayload
import GroBro.SettingReadback
import GroBro.Topics

namespace GroBro

open OrderedDict

/-! ### Components -/

/-- The value of a field. -/
inductive UiValue where
  | null
  | text (s : PyStr)
  | int (n : ℤ)
  | bool (b : Bool)
  | list (l : List PyStr)
  | dict (d : Dict PyStr PyStr)
  deriving DecidableEq

abbrev Component := Dict PyStr UiValue

def field (name : String) (value : UiValue) : PyStr × UiValue := (name.toList, value)

/-- A field that is left out without a value. -/
def optionalField (name : String) (value : Option UiValue) : List (PyStr × UiValue) :=
  value.toList.map (field name)

/-- A field that is `null` without a value. -/
def nullableField (name : String) (value : Option PyStr) : PyStr × UiValue :=
  field name (value.elim .null .text)

/-- `ha.model_dump(exclude_none=True)` -/
def HomeAssistantCommandRegister.modelDump (ha : HomeAssistantCommandRegister) : Component :=
  .ofList ([field "name" (.text ha.name), field "publish" (.bool ha.publish),
      field "type" (.text ha.type)] ++
    optionalField "min" (ha.min.map .int) ++ optionalField "max" (ha.max.map .int) ++
    optionalField "step" (ha.step.map .int) ++
    optionalField "state_class" (ha.stateClass.map .text) ++
    optionalField "device_class" (ha.deviceClass.map .text) ++
    optionalField "unit_of_measurement" (ha.unitOfMeasurement.map .text) ++
    optionalField "icon" (ha.icon.map .text) ++ optionalField "options" (ha.options.map .dict))

/-- `_REDUNDANT_DEFAULT_ICONS` -/
def redundantDefaultIcons : List (PyStr × PyStr) :=
  [("battery", "mdi:battery"), ("temperature", "mdi:thermometer"), ("current", "mdi:current-ac"),
    ("frequency", "mdi:sine-wave"), ("signal_strength", "mdi:wifi"), ("voltage", "mdi:flash"),
    ("voltage", "mdi:sine-wave"), ("power", "mdi:flash")].map fun p => (p.1.toList, p.2.toList)

def usesRedundantDefaultIcon (deviceClass icon : Option PyStr) : Bool :=
  match deviceClass, icon with
  | some deviceClass, some icon => (deviceClass, icon) ∈ redundantDefaultIcons
  | _, _ => false

/-! ### Commands -/

/-- What `iter_command_registers` yields. -/
structure CommandEntry where
  name : PyStr
  ha : HomeAssistantCommandRegister
  topicRoot : PyStr
  cmdId : PyStr
  stateId : PyStr
  isConfig : Bool

def holdingCommand {F : Type*} (p : PyStr × HoldingRegisterEntry F) : CommandEntry where
  name := p.1
  ha := p.2.homeassistant
  topicRoot := p.2.homeassistant.type
  cmdId := p.1
  stateId := p.1
  isConfig := false

def configCommand {F : Type*} (p : PyStr × ConfigRegisterEntry F) : CommandEntry where
  name := p.1
  ha := p.2.homeassistant
  topicRoot := "config".toList
  cmdId := (toString p.2.registerNo).toList
  stateId := (toString p.2.registerNo).toList
  isConfig := true

def iterCommandRegisters {F : Type*} (known : GroBroRegisterMap F) : List CommandEntry :=
  known.holdingRegisters.entries.map holdingCommand ++
    known.configRegisters.entries.map configCommand

/-- `f"{base_topic}/{root}/grobro/{device_id}/{id}/{action}"` -/
def controlTopic (base root deviceId id action : PyStr) : PyStr :=
  base ++ '/' :: root ++ "/grobro/".toList ++ deviceId ++ '/' :: id ++ '/' :: action

def getAction : PyStr := "get".toList

/-- `f"grobro_{device_id}_{suffix}"` -/
def uniqueId (deviceId suffix : PyStr) : PyStr := "grobro_".toList ++ deviceId ++ '_' :: suffix

def commandSuffix (name : PyStr) : PyStr := "cmd_".toList ++ name

/-- The component of a command register. -/
def commandComponent (base deviceId : PyStr) (entry : CommandEntry) : Component :=
  let haData := entry.ha.modelDump
  let haData := if usesRedundantDefaultIcon entry.ha.deviceClass entry.ha.icon then
    haData.without fun key => key = "icon".toList else haData
  let haData := if entry.ha.type = "select".toList then
    entry.ha.options.elim haData fun options =>
      haData.insert "options".toList (.list options.values)
    else haData
  let component := (Dict.ofList
    [field "platform" (.text entry.ha.type), field "name" (.text entry.ha.name),
      field "unique_id" (.text (uniqueId deviceId (commandSuffix entry.name))),
      field "state_topic"
        (.text (controlTopic base entry.topicRoot deviceId entry.stateId getAction))]).update haData
  if entry.ha.type ≠ "sensor".toList then
    component.insert "command_topic".toList
      (.text (controlTopic base entry.topicRoot deviceId entry.cmdId setAction))
  else component

/-- Whether a command register is shown. -/
def commandShown [PyUnicode] (maxSlots : ℤ) (entry : CommandEntry) : Option Bool :=
  if !entry.ha.publish then some false
  else if entry.isConfig then some true
  else (slotHidden maxSlots entry.name).map (!·)

/-- The loop over the command registers: unique ids without their prefix, and components. -/
def commandComponents [PyUnicode] (base deviceId : PyStr) (maxSlots : ℤ) :
    List CommandEntry → Option (List (PyStr × Component))
  | [] => some []
  | entry :: rest =>
      match commandShown maxSlots entry with
      | none => none
      | some false => commandComponents base deviceId maxSlots rest
      | some true =>
          (commandComponents base deviceId maxSlots rest).map
            ((commandSuffix entry.name, commandComponent base deviceId entry) :: ·)

/-! ### Buttons -/

/-- The buttons of every device. -/
def buttonComponents (base deviceId : PyStr) : List (PyStr × Component) :=
  [("restart_datalogger".toList, .ofList
      [field "platform" (.text "button".toList), field "name" (.text "Restart Datalogger".toList),
        field "command_topic"
          (.text (controlTopic base "config".toList deviceId "32".toList setAction)),
        field "payload_press" (.text "1".toList), field "icon" (.text "mdi:restart".toList),
        field "unique_id" (.text (uniqueId deviceId "restart_datalogger".toList))]),
    ("sync_time".toList, .ofList
      [field "platform" (.text "button".toList), field "name" (.text "Sync Time".toList),
        field "icon" (.text "mdi:clock-outline".toList),
        field "command_topic"
          (.text (controlTopic base "config".toList deviceId "31".toList setAction)),
        field "unique_id" (.text (uniqueId deviceId "sync_time".toList))]),
    (commandSuffix "read_all".toList, .ofList
      [field "command_topic"
          (.text (controlTopic base "button".toList deviceId "read_all".toList readAction)),
        field "platform" (.text "button".toList),
        field "unique_id" (.text (uniqueId deviceId (commandSuffix "read_all".toList))),
        field "name" (.text "Read All Values".toList)])]

/-! ### Sensors -/

/-- The states that are published with four inputs only. -/
def fourInputStates : List PyStr :=
  ["Vpv3", "Ipv3", "Ppv3", "Vpv4", "Ipv4", "Ppv4", "Epv3_today", "Epv3_total"].map String.toList

/-- `sub in s` -/
def contains (s sub : PyStr) : Bool := s.tails.any fun t => sub.isPrefixOf t

/-- `name.startswith("bat") and "_ser_part_" in name` -/
def isSerialPart (name : PyStr) : Bool :=
  "bat".toList.isPrefixOf name && contains name "_ser_part_".toList

/-- Whether an input register is shown; `none` where `int` does not read its digits. -/
def stateShown [PyDigit] {F : Type*} (effectiveMaxBat : ℤ) (pvCount : Option ℕ) (name : PyStr)
    (register : InputRegisterEntry F) : Option Bool :=
  if !register.homeassistant.publish && !(pvCount = some 4 && name ∈ fourInputStates) then
    some false
  else match getBatNumber name with
  | .error _ => none
  | .ok batNum =>
      if batNum.any (effectiveMaxBat < ·) then some false else some (!isSerialPart name)

/-- `f"{{ value_json['{name}'] }}"` -/
def valueTemplate (name : PyStr) : PyStr :=
  "\x7b\x7b value_json[\x27".toList ++ name ++ "\x27] \x7d\x7d".toList

def stateComponent {F : Type*} (base deviceId name : PyStr) (register : InputRegisterEntry F) :
    Component :=
  let ha := register.homeassistant
  let component := Dict.ofList
    ([field "platform" (.text "sensor".toList), field "name" (.text ha.name),
      field "state_topic" (.text (stateTopic base deviceId)),
      field "value_template" (.text (valueTemplate name)),
      field "unique_id" (.text (uniqueId deviceId name)),
      nullableField "device_class" ha.deviceClass, nullableField "state_class" ha.stateClass,
      nullableField "unit_of_measurement" ha.unitOfMeasurement] ++
    optionalField "suggested_display_precision" (ha.suggestedDisplayPrecision.map .int))
  if usesRedundantDefaultIcon ha.deviceClass ha.icon then component
  else component.insert "icon".toList (ha.icon.elim .null .text)

/-- The loop over the input registers. -/
def stateComponents [PyDigit] {F : Type*} (base deviceId : PyStr) (effectiveMaxBat : ℤ)
    (pvCount : Option ℕ) : List (PyStr × InputRegisterEntry F) → Option (List (PyStr × Component))
  | [] => some []
  | (name, register) :: rest =>
      match stateShown effectiveMaxBat pvCount name register with
      | none => none
      | some false => stateComponents base deviceId effectiveMaxBat pvCount rest
      | some true =>
          (stateComponents base deviceId effectiveMaxBat pvCount rest).map
            ((name, stateComponent base deviceId name register) :: ·)

/-- `f"bat{bat_num}_serial"` -/
def combinedSerialName (slot : Slot) : PyStr := "bat".toList ++ slot.digit :: "_serial".toList

/-- The sensor of a combined serial. -/
def serialComponent (base deviceId : PyStr) (slot : Slot) : Component :=
  .ofList
    [field "platform" (.text "sensor".toList),
      field "name" (.text ("Bat".toList ++ slot.digit :: " Serial".toList)),
      field "state_topic" (.text (stateTopic base deviceId)),
      field "value_template" (.text (valueTemplate (combinedSerialName slot))),
      field "unique_id" (.text (uniqueId deviceId (combinedSerialName slot))),
      field "icon" (.text "mdi:identifier".toList)]

/-- The combined serials of the batteries, on a NOAH. -/
def serialComponents {F : Type*} (base deviceId : PyStr) (effectiveMaxBat : ℤ)
    (known : GroBroRegisterMap F) : List (PyStr × Component) :=
  if getDeviceFamily deviceId = some .noah ∧ known.inputRegisters.keys.any isSerialPart then
    (trackedSlots.filter fun slot => (slot.value : ℤ) ≤ effectiveMaxBat).map fun slot =>
      (combinedSerialName slot, serialComponent base deviceId slot)
  else []

def firmwarePartPrefix : PyStr := "fw_version_part_".toList

/-- The names of the firmware parts, as the map has them. -/
def firmwareParts {F : Type*} (known : GroBroRegisterMap F) : List PyStr :=
  known.inputRegisters.keys.filter fun name => firmwarePartPrefix.isPrefixOf name

def firmwareSuffix : PyStr := "fw_version".toList

/-- The sensor of the firmware, which shows its parts sorted as texts. -/
def firmwareComponent {F : Type*} (base deviceId : PyStr) (known : GroBroRegisterMap F) :
    Component :=
  .ofList
    [field "platform" (.text "sensor".toList), field "name" (.text "Firmware Version".toList),
      field "state_topic" (.text (stateTopic base deviceId)),
      field "value_template" (.text (['.'].intercalate
        (((firmwareParts known).insertionSort (· ≤ ·)).map valueTemplate))),
      field "unique_id" (.text (uniqueId deviceId firmwareSuffix)),
      field "icon" (.text "mdi:information".toList)]

def firmwareComponents {F : Type*} (base deviceId : PyStr) (known : GroBroRegisterMap F) :
    List (PyStr × Component) :=
  if firmwareParts known = [] then []
  else [(firmwareSuffix, firmwareComponent base deviceId known)]

/-- A sensor on a topic of its own. -/
def metadataComponent (base deviceId suffix platform name : PyStr) (last : PyStr × UiValue) :
    PyStr × Component :=
  (suffix, .ofList
    [field "platform" (.text platform), field "name" (.text name),
      field "state_topic" (.text (base ++ "/grobro/".toList ++ deviceId ++ '/' :: suffix)),
      last, field "unique_id" (.text (uniqueId deviceId suffix))])

/-! ### The payload -/

structure DiscoveryOptions where
  effectiveMaxBat : ℤ
  pvCount : Option ℕ
  maxSlots : ℤ
  deviceTimeout : ℤ
  availabilitySensor : Bool

structure DiscoveryPayload where
  dev : Dict PyStr UiValue
  /-- The topics of `availability`; the mode is `all`. -/
  availability : List PyStr
  /-- `o["url"]` -/
  originUrl : PyStr
  cmps : Dict PyStr Component

/-- The sensors that no register stands for. -/
def sensorComponents {F : Type*} (base deviceId : PyStr) (known : GroBroRegisterMap F)
    (o : DiscoveryOptions) : List (PyStr × Component) :=
  serialComponents base deviceId o.effectiveMaxBat known ++
    firmwareComponents base deviceId known ++
    [metadataComponent base deviceId "serial".toList "sensor".toList "Device SN".toList
        (field "icon" (.text "mdi:identifier".toList)),
      metadataComponent base deviceId "type".toList "sensor".toList "Device Type".toList
        (field "icon" (.text "mdi:chip".toList))] ++
    (if 0 < o.deviceTimeout ∧ o.availabilitySensor then
      [metadataComponent base deviceId "online".toList "binary_sensor".toList "Online".toList
        (field "device_class" (.text "connectivity".toList))]
    else [])

/-- Everything that is assigned to `cmps`, in order, under unique ids without their prefix. -/
def componentList [PyDigit] {F : Type*} (base deviceId : PyStr) (known : GroBroRegisterMap F)
    (o : DiscoveryOptions) : Option (List (PyStr × Component)) := do
  let commands ← commandComponents base deviceId o.maxSlots (iterCommandRegisters known)
  let states ← stateComponents base deviceId o.effectiveMaxBat o.pvCount
    known.inputRegisters.entries
  return commands ++ buttonComponents base deviceId ++ states ++
    sensorComponents base deviceId known o

/-- `build_discovery_payload`; `none` is an exception. -/
def buildDiscoveryPayload [PyDigit] {F : Type*} (base bridgeTopic deviceId : PyStr)
    (known : GroBroRegisterMap F) (deviceInfo : Dict PyStr UiValue) (o : DiscoveryOptions) :
    Option DiscoveryPayload :=
  (componentList base deviceId known o).map fun components =>
    { dev := deviceInfo
      availability := [availabilityTopic base deviceId, bridgeTopic]
      originUrl := "https://github.com/robertzaage/GroBro".toList
      cmps := .ofList (components.map fun p => (uniqueId deviceId p.1, p.2)) }

/-! ### Cleaning -/

/-- What cleaning takes from the config of the device and from the language. -/
structure DiscoveryCleaning where
  /-- `configured_serial` -/
  serial : PyStr
  /-- The URL of `configured_local_ip`. -/
  configurationUrl : Option PyStr
  /-- `translate_entity_name` in the language. -/
  translateEntityName : PyStr → PyStr
  /-- The composed firmware. -/
  firmwareVersion : Option PyStr

/-- `_is_upstream_neo_inverter_power` -/
def isUpstreamNeoInverterPower (deviceId componentId : PyStr) : Bool :=
  getDeviceFamily deviceId = some .neo ∧
    componentId = uniqueId deviceId (commandSuffix "inverter_power".toList)

/-- A component with its name translated. -/
def translatedComponent (c : DiscoveryCleaning) (component : Component) : Component :=
  match component.get? "name".toList with
  | some (.text name) => component.insert "name".toList (.text (c.translateEntityName name))
  | _ => component

/-- The loop body for a component. -/
def cleanComponent (c : DiscoveryCleaning) (deviceId componentId : PyStr) (component : Component) :
    Component :=
  let named := translatedComponent c component
  if isUpstreamNeoInverterPower deviceId componentId then named
  else
    let cleaned := named.without fun key => key = "publish".toList ∨ key = "type".toList
    if cleaned.get? "platform".toList = some (.text "sensor".toList) then
      cleaned.without fun key => key = "command_topic".toList
    else cleaned

/-- The components that are not offered. -/
def droppedComponents (deviceId : PyStr) : List PyStr :=
  [uniqueId deviceId "sync_time".toList, uniqueId deviceId (commandSuffix "system_time".toList)]

/-- `clean_discovery_payload` -/
def cleanDiscoveryPayload (c : DiscoveryCleaning) (deviceId : PyStr) (data : DiscoveryPayload) :
    DiscoveryPayload :=
  let deviceMeta := data.dev.insert "serial_number".toList (.text c.serial)
  { dev := match c.configurationUrl with
      | some url => deviceMeta.insert "configuration_url".toList (.text url)
      | none => deviceMeta.without fun key => key = "configuration_url".toList
    availability := data.availability
    originUrl := "https://github.com/criticallimit/GroBro".toList
    cmps := (data.cmps.without fun id => id ∈ droppedComponents deviceId).mapItems
      (cleanComponent c deviceId) }

/-- `_apply_firmware_discovery` -/
def applyFirmwareDiscovery (deviceId : PyStr) (firmwareVersion : Option PyStr)
    (data : DiscoveryPayload) : DiscoveryPayload :=
  { data with
    dev := match firmwareVersion.filter fun version => version ≠ [] with
      | some version => data.dev.insert "sw_version".toList (.text version)
      | none => data.dev
    cmps := (data.cmps.get? (uniqueId deviceId firmwareSuffix)).elim data.cmps fun component =>
      data.cmps.insert (uniqueId deviceId firmwareSuffix)
        (component.insert "value_template".toList (.text (valueTemplate firmwareSuffix))) }

/-- The payload that `_publish_discovery_message` makes of a payload. -/
def publishedDiscovery (c : DiscoveryCleaning) (deviceId : PyStr) (data : DiscoveryPayload) :
    DiscoveryPayload :=
  applyFirmwareDiscovery deviceId c.firmwareVersion (cleanDiscoveryPayload c deviceId data)

end GroBro
