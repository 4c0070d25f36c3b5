/-
GroBro/ModbusMessage.lean

`grobro/model/modbus_message.py`: the register messages sent by Growatt
devices.  A message is a 38-byte header (unknown word, the constant 7, the
length, address and function bytes, a zero-padded device id), 37 bytes of
metadata when the function is READ_INPUT_REGISTER, then either a write
acknowledgement (function 6) or register blocks, and last an optional two-byte
trailer.

Everything here is translated from the source function by function.  Parsing
and building run in `Except PyError`: `unpack_from`, `pack`, the ASCII codec
and `datetime` can raise, and the parser's own `try` decides what becomes of
it.  Log messages are left out.
-/
import GroBro.PyText
import GroBro.Framing

namespace GroBro

open ByteCodec

/-! ### Layout constants -/

def headerSize : ℕ := 38
def blockHeaderSize : ℕ := 4
def metadataSize : ℕ := 37
def writeSingleAckSize : ℕ := 5
/-- start + end + one 16-bit register -/
def minBlockSize : ℕ := 6
def trailerSize : ℕ := 2

/-- Encode the fixed serial field without silently changing its identity. -/
def encodeModbusDeviceId (deviceId : PyStr) : Except PyError Bytes := do
  let encoded ← encodeAscii deviceId
  if encoded.length > 30 then throw .valueError
  return ljustNul 30 encoded

/-- The `30s` field of a device id. -/
def idField (deviceId : PyStr) : Bytes := ljustNul 30 (asciiBytes deviceId)

theorem length_idField {deviceId : PyStr} (h : deviceId.length ≤ 30) :
    (idField deviceId).length = 30 :=
  length_ljustNul (by rwa [length_asciiBytes])

theorem encodeModbusDeviceId_ok {deviceId : PyStr} (ha : IsAscii deviceId)
    (hl : deviceId.length ≤ 30) :
    encodeModbusDeviceId deviceId = .ok (idField deviceId) := by
  rw [encodeModbusDeviceId, encodeAscii_ok ha]
  simp [Nat.not_lt.mpr hl, idField]

/-! ### Functions -/

inductive GrowattModbusFunction where
  | readHoldingRegister
  | readInputRegister
  | readSingleRegister
  | presetSingleRegister
  | presetMultipleRegister
  | vendor100
  deriving DecidableEq, Repr

/-- The value of the enum member. -/
def GrowattModbusFunction.value : GrowattModbusFunction → ℕ
  | readHoldingRegister => 3
  | readInputRegister => 4
  | readSingleRegister => 5
  | presetSingleRegister => 6
  | presetMultipleRegister => 16
  | vendor100 => 100

/-- The member with a value; `none` outside `MODBUS_FUNCTION_VALUES`. -/
def GrowattModbusFunction.ofValue? : ℕ → Option GrowattModbusFunction
  | 3 => some readHoldingRegister
  | 4 => some readInputRegister
  | 5 => some readSingleRegister
  | 6 => some presetSingleRegister
  | 16 => some presetMultipleRegister
  | 100 => some vendor100
  | _ => none

theorem GrowattModbusFunction.value_lt (f : GrowattModbusFunction) : f.value < 256 := by
  cases f <;> decide

@[simp] theorem GrowattModbusFunction.ofValue?_value (f : GrowattModbusFunction) :
    ofValue? f.value = some f := by
  cases f <;> rfl

theorem GrowattModbusFunction.value_of_ofValue? {n : ℕ} {f : GrowattModbusFunction}
    (h : ofValue? n = some f) : f.value = n := by
  unfold ofValue? at h
  split at h <;> simp_all [value] <;> subst h <;> rfl

/-! ### Register blocks -/

/-- `start` and `end_` are the first and last register included, `values` the
registers between them, two bytes each. -/
structure GrowattModbusBlock where
  start : ℕ
  end_ : ℕ
  values : Bytes
  deriving DecidableEq, Repr

namespace GrowattModbusBlock

def size (block : GrowattModbusBlock) : ℕ := blockHeaderSize + block.values.length

def parseGrobro (buffer : Bytes) (offset : ℕ) : Except PyError (Option GrowattModbusBlock) :=
  catching [.structError, .valueError] none do
    if buffer.length - offset < blockHeaderSize then
      return none
    let w ← unpackFrom blockHeaderSize buffer offset
    let start := u16At w 0
    let end_ := u16At w 2
    if end_ < start then
      return none
    let registerCount := end_ - start + 1
    let expectedSize := blockHeaderSize + registerCount * 2
    if buffer.length - offset < expectedSize then
      return none
    return some
      { start, end_, values := slice buffer (offset + blockHeaderSize) (offset + expectedSize) }

def buildGrobro (block : GrowattModbusBlock) : Except PyError Bytes := do
  return (← packU16 block.start) ++ (← packU16 block.end_) ++ block.values

end GrowattModbusBlock

/-! ### Metadata -/

/-- Days of a month in the proleptic Gregorian calendar. -/
def daysInMonth (year month : ℕ) : ℕ :=
  if month = 2 then
    if year % 4 = 0 ∧ (year % 100 ≠ 0 ∨ year % 400 = 0) then 29 else 28
  else if month ∈ [4, 6, 9, 11] then 30 else 31

/-- What `datetime(...)` accepts. -/
def ValidDateTime (year month day hour minute second microsecond : ℕ) : Prop :=
  1 ≤ year ∧ year ≤ 9999 ∧ 1 ≤ month ∧ month ≤ 12 ∧ 1 ≤ day ∧ day ≤ daysInMonth year month ∧
    hour < 24 ∧ minute < 60 ∧ second < 60 ∧ microsecond < 1000000

instance (year month day hour minute second microsecond : ℕ) :
    Decidable (ValidDateTime year month day hour minute second microsecond) :=
  inferInstanceAs (Decidable (_ ∧ _))

/-- A naive `datetime`: only valid ones exist. -/
structure DateTime where
  year : ℕ
  month : ℕ
  day : ℕ
  hour : ℕ
  minute : ℕ
  second : ℕ
  microsecond : ℕ
  valid : ValidDateTime year month day hour minute second microsecond
  deriving DecidableEq

/-- The `datetime` constructor. -/
def DateTime.make (year month day hour minute second microsecond : ℕ) :
    Except PyError DateTime :=
  if h : ValidDateTime year month day hour minute second microsecond then
    .ok ⟨year, month, day, hour, minute, second, microsecond, h⟩
  else .error .valueError

structure GrowattMetadata where
  deviceSn : PyStr
  timestamp : Option DateTime
  deriving DecidableEq

namespace GrowattMetadata

def size (_ : GrowattMetadata) : ℕ := metadataSize

def parseGrobro (buffer : Bytes) (offset : ℕ) : Except PyError (Option GrowattMetadata) :=
  if buffer.length - offset < metadataSize then .ok none
  else catching [.structError] none do
    let w ← unpackFrom metadataSize buffer offset
    let deviceSerial := stripNul (decodeIgnore (slice w 0 30))
    let timestamp ← catching [.valueError] none do
      return some (← DateTime.make (u8At w 30 + 2000) (u8At w 31) (u8At w 32) (u8At w 33)
        (u8At w 34) (u8At w 35) (u8At w 36 * 1000))
    return some { deviceSn := deviceSerial, timestamp }

def buildGrobro (metadata : GrowattMetadata) : Except PyError Bytes :=
  match metadata.timestamp with
  | none => .error .valueError
  | some t => do
      let deviceSn ← encodeModbusDeviceId metadata.deviceSn
      -- a year before 2000 would be a negative `B` field
      if t.year < 2000 then throw .structError
      return deviceSn ++ (← packU8 (t.year - 2000)) ++ (← packU8 t.month) ++ (← packU8 t.day) ++
        (← packU8 t.hour) ++ (← packU8 t.minute) ++ (← packU8 t.second) ++
        (← packU8 (t.microsecond / 1000))

end GrowattMetadata

/-! ### Write acknowledgements -/

/-- Acknowledgement of a Modbus function 6 write: register, status byte and
echoed value. -/
structure GrowattModbusWriteAck where
  registerNo : ℕ
  value : ℕ
  status : ℕ
  deriving DecidableEq, Repr

namespace GrowattModbusWriteAck

def size (_ : GrowattModbusWriteAck) : ℕ := writeSingleAckSize

def parseGrobro (buffer : Bytes) (offset : ℕ) : Except PyError (Option GrowattModbusWriteAck) :=
  if buffer.length - offset < writeSingleAckSize then .ok none
  else catching [.structError] none do
    let w ← unpackFrom writeSingleAckSize buffer offset
    return some { registerNo := u16At w 0, status := u8At w 2, value := u16At w 3 }

def buildGrobro (ack : GrowattModbusWriteAck) : Except PyError Bytes := do
  return (← packU16 ack.registerNo) ++ (← packU8 ack.status) ++ (← packU16 ack.value)

end GrowattModbusWriteAck

/-! ### Messages -/

structure GrowattModbusMessage where
  unknown : ℕ
  deviceId : PyStr
  metadata : Option GrowattMetadata := none
  function : GrowattModbusFunction
  registerBlocks : List GrowattModbusBlock
  writeAck : Option GrowattModbusWriteAck := none
  deriving DecidableEq

namespace GrowattModbusMessage

/-- Two bytes of message type, 30 of device id, and what follows the header. -/
def msgLen (m : GrowattModbusMessage) : ℕ :=
  32 + m.metadata.elim 0 GrowattMetadata.size +
    (m.registerBlocks.map GrowattModbusBlock.size).sum +
    m.writeAck.elim 0 GrowattModbusWriteAck.size

/-- The `while` loop of the parser: blocks are read as long as the smallest one
would fit.  `none` is the parser's `return None`; otherwise the blocks and the
offset where the loop stopped. -/
def parseBlocks (buffer : Bytes) (offset : ℕ) :
    Except PyError (Option (List GrowattModbusBlock × ℕ)) :=
  if _h : minBlockSize ≤ buffer.length - offset then
    match GrowattModbusBlock.parseGrobro buffer offset with
    | .error e => .error e
    | .ok none => .ok none
    | .ok (some block) =>
        match parseBlocks buffer (offset + block.size) with
        | .ok (some (blocks, stop)) => .ok (some (block :: blocks, stop))
        | other => other
  else .ok (some ([], offset))
termination_by buffer.length - offset
decreasing_by
  simp only [GrowattModbusBlock.size, minBlockSize, blockHeaderSize] at *
  omega

/-- The parser after the metadata: an acknowledgement or register blocks. -/
def parsePayload (buffer : Bytes) (offset unknown : ℕ) (deviceId : PyStr)
    (function : GrowattModbusFunction) (metadata : Option GrowattMetadata) :
    Except PyError (Option GrowattModbusMessage) :=
  if function = .presetSingleRegister then do
    let remaining := buffer.length - offset
    if remaining ≠ writeSingleAckSize ∧ remaining ≠ writeSingleAckSize + trailerSize then
      return none
    match ← GrowattModbusWriteAck.parseGrobro buffer offset with
    | none => return none
    | some writeAck =>
        return some { unknown, deviceId, metadata, function, registerBlocks := [],
                      writeAck := some writeAck }
  else do
    match ← parseBlocks buffer offset with
    | none => return none
    | some (registerBlocks, stop) =>
        let remaining := buffer.length - stop
        if remaining ≠ 0 ∧ remaining ≠ trailerSize then
          return none
        return some { unknown, deviceId, metadata, function, registerBlocks }

def parseGrobro (buffer : Bytes) : Except PyError (Option GrowattModbusMessage) :=
  catching [.structError, .valueError] none do
    if buffer.length < headerSize then
      return none
    let w ← unpackFrom headerSize buffer 0
    let unknown := u16At w 0
    if u16At w 2 ≠ 7 then
      return none
    if u16At w 4 ≠ buffer.length - 8 then
      return none
    let deviceId := stripNul (decodeIgnore (slice w 8 38))
    match GrowattModbusFunction.ofValue? (u8At w 7) with
    | none => return none
    | some function =>
        if function = .readInputRegister then
          match ← GrowattMetadata.parseGrobro buffer headerSize with
          | none => return none
          | some metadata =>
              parsePayload buffer (headerSize + metadataSize) unknown deviceId function
                (some metadata)
        else parsePayload buffer headerSize unknown deviceId function none

/-- Build the parts of a list in order, as `result +=` does. -/
def buildEach {α : Type*} (build : α → Except PyError Bytes) : List α → Except PyError Bytes
  | [] => .ok []
  | a :: as => do return (← build a) ++ (← buildEach build as)

def buildGrobro (m : GrowattModbusMessage) : Except PyError Bytes := do
  let deviceId ← encodeModbusDeviceId m.deviceId
  let header := (← packU16 m.unknown) ++ (← packU16 7) ++ (← packU16 m.msgLen) ++
    (← packU8 1) ++ (← packU8 m.function.value) ++ deviceId
  let metadata ← buildEach GrowattMetadata.buildGrobro m.metadata.toList
  let blocks ← buildEach GrowattModbusBlock.buildGrobro m.registerBlocks
  let writeAck ← buildEach GrowattModbusWriteAck.buildGrobro m.writeAck.toList
  return header ++ metadata ++ blocks ++ writeAck

end GrowattModbusMessage

end GroBro
