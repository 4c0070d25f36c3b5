/-
GroBro/ConfigTlv.lean

The configuration TLV block: `find_config_offset` and `parse_config_type` of
`grobro/grobro/parser.py` and the record they fill, `DeviceConfig` of
`grobro/model/device_config.py`.
-/
import GroBro.Commands

namespace GroBro

open ByteCodec

/-! ### The record -/

/-- The fields of a device configuration. -/
inductive ConfigField where
  | dataInterval | unknown5 | unknown6 | password | serialNumber | protocolVersion | unknown10
  | unknown11 | dnsAddress | deviceType | localIp | unknownPort | macAddress | remoteIp
  | remotePort | remoteUrl | modelId | swVersion | hwVersion | unknown23 | unknown24
  | subnetMask | defaultGateway | unknown27 | unknown28 | unknown29 | timezone | datetime
  | wifiSignal | raw
  deriving DecidableEq, Repr

/-- A device configuration: each field is a text or `None`. -/
abbrev DeviceConfig := ConfigField → Option PyStr

/-- The validator of `serial_number`: blanks and rows of `X` are no serial. -/
def rejectPlaceholderSerialNumber (value : Option PyStr) : Option PyStr :=
  match value with
  | none => none
  | some value =>
      let text := stripNul (strip value)
      if text = [] then none
      else if text.all (fun c => c == 'x' || c == 'X') then none
      else some text

/-- `DeviceConfig(**config)` -/
def DeviceConfig.make (config : ConfigField → Option PyStr) : DeviceConfig
  | .serialNumber => rejectPlaceholderSerialNumber (config .serialNumber)
  | field => config field

/-! ### The parser -/

/-- `_CONFIG_PARAM_NAMES`; a key without a name fills no field. -/
def configParamNames : ℕ → Option ConfigField
  | 4 => some .dataInterval
  | 5 => some .unknown5
  | 6 => some .unknown6
  | 7 => some .password
  | 8 => some .serialNumber
  | 9 => some .protocolVersion
  | 10 => some .unknown10
  | 11 => some .unknown11
  | 12 => some .dnsAddress
  | 13 => some .deviceType
  | 14 => some .localIp
  | 15 => some .unknownPort
  | 16 => some .macAddress
  | 17 => some .remoteIp
  | 18 => some .remotePort
  | 19 => some .remoteUrl
  | 20 => some .modelId
  | 21 => some .swVersion
  | 22 => some .hwVersion
  | 23 => some .unknown23
  | 24 => some .unknown24
  | 25 => some .subnetMask
  | 26 => some .defaultGateway
  | 27 => some .unknown27
  | 28 => some .unknown28
  | 29 => some .unknown29
  | 30 => some .timezone
  | 31 => some .datetime
  | 76 => some .wifiSignal
  | _ => none

/-- A value is its printable ASCII text without NULs, or else its hex digits. -/
def configTlvValue (rawVal : Bytes) : PyStr :=
  match decodeAscii rawVal with
  | .error _ => hexOf rawVal
  | .ok text =>
      let val := stripNul text
      if val.any (fun c => c.toNat < 32 || c.toNat > 126) then hexOf rawVal else val

/-- The loop of `parse_config_type`: the keys and values in order. -/
def parseConfigTlvs (data : Bytes) (offset : ℕ) : List (ℕ × PyStr) :=
  if _h : offset + 4 ≤ data.length then
    let keyId := u16At data offset
    let keyLen := u16At data (offset + 2)
    let start := offset + 4
    if keyLen = 0 ∨ keyLen > 512 ∨ start + keyLen > data.length then []
    else
      (keyId, configTlvValue (slice data start (start + keyLen))) ::
        parseConfigTlvs data (start + keyLen)
  else []
termination_by data.length - offset

/-- Parse a TLV block; without a single parameter the bytes themselves are kept. -/
def parseConfigType (data : Bytes) (offset : ℕ) : DeviceConfig :=
  let params := parseConfigTlvs data offset
  DeviceConfig.make fun field =>
    if params = [] ∧ field = .raw then some (hexOf (data.drop offset))
    else
      -- a repeated key overwrites
      (params.reverse.find? fun p => configParamNames p.1 = some field).map Prod.snd

/-- The first offset that could be the start of a TLV block. -/
def findConfigOffset (data : Bytes) : ℕ :=
  ((List.range' 0x1C (data.length - 4 - 0x1C)).find? fun i =>
    let key := u16At data i
    let length := u16At data (i + 2)
    0 < key ∧ key < 1000 ∧ 0 < length ∧ length < 256).getD 0x1C

end GroBro
