/-
GroBro/Commands.lean

The commands the bridge sends and the decoders it reads them back with:
`grobro/model/modbus_function.py` (single and multiple register commands),
`grobro/grobro/builder.py` (the XOR mask, the checksum and the configuration
packets), and `decode_0118` of `grobro/grobro/noah_protocol_debug.py`, which
reads a configuration write off an unscrambled packet.

The checksum comes from a third-party calculator; it is a parameter
`checksum : Bytes → UInt16` of everything that appends one.
-/
import GroBro.ModbusMessage

namespace GroBro

open ByteCodec

/-! ### Register commands -/

def modbusCommandSize : ℕ := 42

/-- The unpacked command header, without its checked constants. -/
structure CommandHeader where
  function : GrowattModbusFunction
  deviceIdRaw : Bytes
  first : ℕ
  second : ℕ
  deriving DecidableEq, Repr

/-- The header and the core length, or `none` for malformed data. -/
def unpackCommandHeader (buffer : Bytes) : Option (CommandHeader × ℕ) :=
  if buffer.length < modbusCommandSize then none
  else match unpackFrom modbusCommandSize buffer 0 with
  | .error _ => none
  | .ok w =>
      if u16At w 0 ≠ 1 ∨ u16At w 2 ≠ 7 ∨ u8At w 6 ≠ 1 then none
      else match GrowattModbusFunction.ofValue? (u8At w 7) with
      | none => none
      | some function =>
          -- the length field runs through the final command or value byte
          let coreLength := u16At w 4 + 6
          if coreLength < modbusCommandSize then none
          else if buffer.length ≠ coreLength ∧ buffer.length ≠ coreLength + trailerSize then none
          else some ({ function, deviceIdRaw := slice w 8 38, first := u16At w 38,
                       second := u16At w 40 }, coreLength)

/-- `_MODBUS_COMMAND.pack` with the constants 1, 7 and 1 in place. -/
def packCommand (msgLen : ℕ) (function : GrowattModbusFunction) (deviceId : PyStr)
    (first second : ℕ) : Except PyError Bytes := do
  let deviceId ← encodeModbusDeviceId deviceId
  return (← packU16 1) ++ (← packU16 7) ++ (← packU16 msgLen) ++ (← packU8 1) ++
    (← packU8 function.value) ++ deviceId ++ (← packU16 first) ++ (← packU16 second)

/-- A message that reads or writes multiple registers. -/
structure GrowattModbusFunctionMultiple where
  deviceId : PyStr
  function : GrowattModbusFunction
  start : ℕ
  end_ : ℕ
  values : Bytes
  deriving DecidableEq, Repr

namespace GrowattModbusFunctionMultiple

def parseGrobro (buffer : Bytes) : Option GrowattModbusFunctionMultiple :=
  match unpackCommandHeader buffer with
  | none => none
  | some (header, coreLength) =>
      let start := header.first
      let end_ := header.second
      if end_ < start then none
      else
        let values := slice buffer modbusCommandSize coreLength
        if header.function = .presetMultipleRegister ∧
            values.length ≠ (end_ - start + 1) * 2 then none
        else
          let deviceId := stripNul (decodeIgnore header.deviceIdRaw)
          some { deviceId, function := header.function, start, end_, values }

def buildGrobro (c : GrowattModbusFunctionMultiple) : Except PyError Bytes := do
  return (← packCommand (36 + c.values.length) c.function c.deviceId c.start c.end_) ++ c.values

end GrowattModbusFunctionMultiple

/-- A message that reads or writes one register. -/
structure GrowattModbusFunctionSingle where
  deviceId : PyStr
  function : GrowattModbusFunction
  registerNo : ℕ
  value : ℕ
  deriving DecidableEq, Repr

namespace GrowattModbusFunctionSingle

def parseGrobro (buffer : Bytes) : Option GrowattModbusFunctionSingle :=
  match unpackCommandHeader buffer with
  | none => none
  | some (header, coreLength) =>
      if coreLength ≠ modbusCommandSize then none
      else
        let deviceId := stripNul (decodeIgnore header.deviceIdRaw)
        some { deviceId, function := header.function, registerNo := header.first,
               value := header.second }

def buildGrobro (c : GrowattModbusFunctionSingle) : Except PyError Bytes :=
  packCommand 36 c.function c.deviceId c.registerNo c.value

end GrowattModbusFunctionSingle

/-! ### The mask and the checksum -/

/-- `b"Growatt"` -/
def scrambleMask : Bytes := [0x47, 0x72, 0x6F, 0x77, 0x61, 0x74, 0x74]

/-- The loop over the bytes from index 8 on. -/
def scrambleFrom (maskIndex : ℕ) : Bytes → Bytes
  | [] => []
  | x :: xs =>
      (x ^^^ scrambleMask.getD maskIndex 0) ::
        scrambleFrom (if maskIndex + 1 = scrambleMask.length then 0 else maskIndex + 1) xs

/-- Growatt's repeating XOR mask after the unchanged 8-byte header. -/
def scramble (pkt : Bytes) : Bytes := pkt.take 8 ++ scrambleFrom 0 (pkt.drop 8)

/-- XOR is its own inverse; the same implementation in both directions. -/
def unscramble (decdata : Bytes) : Bytes := scramble decdata

def appendCrc (checksum : Bytes → UInt16) (pkt : Bytes) : Bytes :=
  pkt ++ u16Bytes (checksum pkt).toNat

/-! ### Configuration packets -/

/-- `b"\x00\x01\x00\x07"` -/
def configHeader : Bytes := [0x00, 0x01, 0x00, 0x07]
def configReadType : ℕ := 0x0119
def configWriteType : ℕ := 0x0118

/-- The fixed-width 16-byte device field. -/
def configDeviceField (deviceId : PyStr) : Except PyError Bytes := do
  let encoded ← encodeAscii deviceId
  if encoded.length > 16 then throw .valueError
  return ljustNul 16 encoded

/-- Build, scramble and checksum one configuration packet. -/
def finalizeConfigPacket (checksum : Bytes → UInt16) (messageType : ℕ) (deviceId : PyStr)
    (payload : Bytes) : Except PyError Bytes := do
  let messageLength := payload.length + 18
  if messageLength > 0xFFFF then throw .valueError
  let raw := configHeader ++ (← packU16 messageLength) ++ (← packU16 messageType) ++
    (← configDeviceField deviceId) ++ payload
  return appendCrc checksum (scramble raw)

/-- A final 0x0119 single config-register read packet. -/
def buildConfigReadPacket (checksum : Bytes → UInt16) (deviceId : PyStr) (registerNo : ℕ) :
    Except PyError Bytes := do
  if ¬ registerNo ≤ 0xFFFF then throw .valueError
  let payload := List.replicate 14 0 ++ ((← packU16 1) ++ (← packU16 registerNo))
  finalizeConfigPacket checksum configReadType deviceId payload

/-- A final 0x0118 config-register write packet. -/
def buildConfigWritePacket (checksum : Bytes → UInt16) (deviceId : PyStr) (registerNo : ℕ)
    (value : PyStr) : Except PyError Bytes := do
  if ¬ registerNo ≤ 0xFFFF then throw .valueError
  let valueBytes ← encodeAscii value
  if valueBytes.length > 0xFFFF - 40 then throw .valueError
  let tlv := (← packU16 1) ++ (← packU16 (valueBytes.length + 4)) ++ (← packU16 registerNo) ++
    (← packU16 valueBytes.length) ++ valueBytes
  let payload := List.replicate 14 0 ++ tlv
  finalizeConfigPacket checksum configWriteType deviceId payload

/-! ### Reading configuration commands -/

/-- `_device_id` of the passive decoders. -/
def noahDeviceId (data : Bytes) : PyStr :=
  if data.length < 24 then [] else decodeReplace (rstripNul (slice data 8 24))

def hexDigit (n : ℕ) : Char := if n < 10 then Char.ofNat (48 + n) else Char.ofNat (87 + n)

/-- `bytes.hex()` -/
def hexOf (b : Bytes) : PyStr :=
  b.flatMap fun x => [hexDigit (x.toNat / 16), hexDigit (x.toNat % 16)]

inductive ValueEncoding where
  | ascii
  | hex
  deriving DecidableEq, Repr

/-- The fields `decode_0118` reports besides the constant message type,
operation and kind. -/
structure ConfigWriteCommand where
  deviceId : PyStr
  configType : ℕ
  tlvLength : ℕ
  register : ℕ
  valueLength : ℕ
  value : PyStr
  valueEncoding : ValueEncoding
  deriving DecidableEq, Repr

def decode0118 (data : Bytes) : Option ConfigWriteCommand :=
  if data.length < 46 ∨ u16At data 6 ≠ 0x0118 then none
  else
    let offset := 38
    if offset + 8 > data.length - 2 then none
    else
      let valueLength := u16At data (offset + 6)
      let valueStart := offset + 8
      let valueEnd := valueStart + valueLength
      if valueEnd > data.length - 2 then none
      else
        let rawValue := slice data valueStart valueEnd
        let (value, valueEncoding) :=
          match decodeAscii rawValue with
          | .ok value => (value, ValueEncoding.ascii)
          | .error _ => (hexOf rawValue, ValueEncoding.hex)
        some { deviceId := noahDeviceId data, configType := u16At data offset,
               tlvLength := u16At data (offset + 2), register := u16At data (offset + 4),
               valueLength, value, valueEncoding }

/-- The register of a 0x0119 read request, as the cloud-to-device path of the
client reads it off an unscrambled packet. -/
def cloudRegister (unscrambled : Bytes) : Option ℕ :=
  if u16At unscrambled 6 = 0x0119 ∧ 42 ≤ unscrambled.length then some (u16At unscrambled 40)
  else none

end GroBro
