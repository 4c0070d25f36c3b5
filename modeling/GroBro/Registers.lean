/-
GroBro/Registers.lean

`grobro/model/growatt_registers.py` and `grobro/model/device_family.py`: where a
register lives in a message, how its bytes become a value, and which register
map belongs to which device serial.

The register maps themselves are package data; a `FamilyRegisters` is the table
that the package loads them into, one map for each family.  Their config registers
are few and given here.  Floating point is a parameter: `PyFloat` names the operations
that scaling uses and the comparisons that the bridge makes.
-/
import GroBro.ModbusMessage
import GroBro.OrderedDict

namespace GroBro

open ByteCodec OrderedDict

/-- The float operations the register decoder and the bridge use. -/
class PyFloat (F : Type*) where
  ofInt : ℤ → F
  mul : F → F → F
  add : F → F → F
  /-- `round(x, 3)` -/
  round3 : F → F
  /-- `x > n` -/
  exceeds : F → ℤ → Bool
  /-- `x == n` -/
  equals : F → ℤ → Bool

/-- Integers in place of floats: a decoder with integer factors only. -/
instance PyFloat.integers : PyFloat ℤ where
  ofInt := id
  mul := (· * ·)
  add := (· + ·)
  round3 := id
  exceeds x n := decide (n < x)
  equals x n := decide (x = n)

/-! ### Register values -/

inductive GrowattRegisterDataTypes where
  | enum
  | string
  | float
  | int
  | signedFloat
  | signedInt
  | timeHhmm
  deriving DecidableEq, Repr

inductive GrowattRegisterEnumTypes where
  | intMap
  | bitfield
  deriving DecidableEq, Repr

structure GrowattRegisterFloatOptions (F : Type*) where
  delta : F
  multiplier : F

structure GrowattRegisterEnumOptions where
  enumType : GrowattRegisterEnumTypes
  values : Dict ℤ PyStr

structure GrowattRegisterDataType (F : Type*) where
  dataType : GrowattRegisterDataTypes
  floatOptions : Option (GrowattRegisterFloatOptions F) := none
  enumOptions : Option GrowattRegisterEnumOptions := none
  mult : Option F := none

/-- `Union[str, float, int]` -/
inductive RegisterValue (F : Type*) where
  | text (s : PyStr)
  | float (x : F)
  | int (n : ℤ)
  deriving DecidableEq

/-- A big-endian unsigned integer. -/
def unsignedOf (raw : Bytes) : ℕ := raw.foldl (fun n b => n * 256 + b.toNat) 0

/-- The unpackers for 1, 2 and 4 bytes. -/
def unpackInt (signed : Bool) (raw : Bytes) : Option ℤ :=
  if raw.length ∉ [1, 2, 4] then none
  else
    let n := unsignedOf raw
    if signed ∧ 2 ^ (8 * raw.length) ≤ 2 * n then some (n - 2 ^ (8 * raw.length)) else some n

/-- `f"{n:02d}"` for `n` below 100. -/
def twoDigits (n : ℕ) : PyStr := [Char.ofNat (48 + n / 10), Char.ofNat (48 + n % 10)]

namespace GrowattRegisterDataType

variable {F : Type*} [PyFloat F]

/-- The scaling of the float types. -/
def scale (d : GrowattRegisterDataType F) (value : ℤ) : RegisterValue F :=
  match d.mult, d.floatOptions with
  | some mult, _ => .float (PyFloat.round3 (PyFloat.mul (PyFloat.ofInt value) mult))
  | none, some options =>
      .float (PyFloat.round3
        (PyFloat.add (PyFloat.mul (PyFloat.ofInt value) options.multiplier) options.delta))
  | none, none => .int value

def parse (d : GrowattRegisterDataType F) (dataRaw : Option Bytes) : Option (RegisterValue F) :=
  match dataRaw with
  | none | some [] => none
  | some raw =>
      if d.dataType = .string then some (.text (stripNul (decodeIgnore raw)))
      else
        let signed := d.dataType = .signedInt ∨ d.dataType = .signedFloat
        match unpackInt signed raw with
        | none => none
        | some value =>
            match d.dataType with
            | .float | .signedFloat => some (d.scale value)
            | .timeHhmm =>
                let hour := value.toNat / 256 % 256
                let minute := value.toNat % 256
                if hour > 23 ∨ minute > 59 then none
                else some (.text (twoDigits hour ++ ':' :: twoDigits minute))
            | .int | .signedInt => some (.int value)
            | .enum =>
                match d.enumOptions with
                | none => none
                | some options =>
                    match options.enumType with
                    | .bitfield => none
                    | .intMap =>
                        some (.text ((options.values.get? value).getD "unknown".toList))
            | .string => none

end GrowattRegisterDataType

/-! ### Register maps -/

/-- Positions are counted from zero; the package has no negative ones. -/
structure GrowattRegisterPosition where
  registerNo : ℕ
  offset : ℕ := 0
  size : ℕ := 2
  deriving DecidableEq, Repr

structure GrowattInputRegister (F : Type*) where
  position : GrowattRegisterPosition
  data : GrowattRegisterDataType F

/-- The Home Assistant side of a holding register, as far as it is read here. -/
structure HomeAssistantHoldingRegister where
  name : PyStr
  publish : Bool
  type : PyStr
  deriving DecidableEq, Repr

structure GroBroInputRegister (F : Type*) where
  growatt : GrowattInputRegister F

structure GroBroHoldingRegister (F : Type*) where
  growatt : Option (GrowattInputRegister F) := none
  homeassistant : HomeAssistantHoldingRegister

structure GroBroRegisters (F : Type*) where
  inputRegisters : Dict PyStr (GroBroInputRegister F)
  holdingRegisters : Dict PyStr (GroBroHoldingRegister F)

/-- The bytes of a register, from the first block that contains it.  The source's
fast path for a single block is the same loop. -/
def GrowattModbusMessage.getData (m : GrowattModbusMessage) (pos : GrowattRegisterPosition) :
    Option Bytes :=
  go m.registerBlocks
where
  go : List GrowattModbusBlock → Option Bytes
    | [] => none
    | block :: blocks =>
        if block.start > pos.registerNo ∨ block.end_ < pos.registerNo then go blocks
        else
          let blockPos := (pos.registerNo - block.start) * 2 + pos.offset
          let endPos := blockPos + pos.size
          if endPos > block.values.length then none else some (slice block.values blockPos endPos)

/-! ### Device families -/

inductive FamilyKey where
  | noah
  | nexa
  | neo
  | shinewelink
  | spf
  | minXh2
  | mod
  deriving DecidableEq, Repr

namespace FamilyKey

/-- `DEVICE_FAMILIES`, in order. -/
def all : List FamilyKey := [noah, nexa, neo, shinewelink, spf, minXh2, mod]

def prefixes : FamilyKey → List PyStr
  | noah => ["0PVP".toList]
  | nexa => ["0HVR".toList]
  | neo => ["QMN".toList, "PTQ".toList]
  | shinewelink => ["RAQ".toList]
  | spf => ["HAQ".toList]
  | minXh2 => ["ZGQ".toList]
  | mod => ["VWQ".toList]

def isGateway : FamilyKey → Bool
  | shinewelink => true
  | _ => false

def noahProtocol : FamilyKey → Bool
  | noah | nexa => true
  | _ => false

end FamilyKey

/-- The family of a serial: by its first four characters, then by its first three. -/
def getDeviceFamily (deviceId : PyStr) : Option FamilyKey :=
  [4, 3].findSome? fun n => FamilyKey.all.find? fun family => deviceId.take n ∈ family.prefixes

def isGateway (deviceId : PyStr) : Bool := (getDeviceFamily deviceId).elim false FamilyKey.isGateway

def usesNoahProtocol (deviceId : PyStr) : Bool :=
  (getDeviceFamily deviceId).elim false FamilyKey.noahProtocol

/-- The register map of each family. -/
abbrev FamilyRegisters (F : Type*) := FamilyKey → GroBroRegisters F

def getKnownRegisters {F : Type*} (tables : FamilyRegisters F) (deviceId : PyStr) :
    Option (GroBroRegisters F) :=
  (getDeviceFamily deviceId).map tables

/-! ### Config registers -/

/-- `GroBroConfigRegisterDef`, as far as a readback looks at it. -/
structure GroBroConfigRegisterDef where
  registerNo : ℕ
  dataType : GrowattRegisterDataTypes
  /-- `homeassistant.publish` -/
  publish : Bool
  deriving DecidableEq, Repr

def dataIntervalRegister : PyStr × GroBroConfigRegisterDef :=
  ("data_interval".toList, ⟨4, .int, true⟩)

def mqttIpRegister : PyStr × GroBroConfigRegisterDef := ("mqtt_ip".toList, ⟨17, .string, true⟩)

def mqttPortRegister : PyStr × GroBroConfigRegisterDef := ("mqtt_port".toList, ⟨18, .int, true⟩)

def mqttBrokerRegister : PyStr × GroBroConfigRegisterDef :=
  ("mqtt_broker".toList, ⟨19, .string, true⟩)

def systemTimeRegister : PyStr × GroBroConfigRegisterDef :=
  ("system_time".toList, ⟨31, .string, true⟩)

def wifiSignalRegister : PyStr × GroBroConfigRegisterDef :=
  ("wifi_signal_strength".toList, ⟨76, .int, true⟩)

def neoConfigRegisters : List (PyStr × GroBroConfigRegisterDef) :=
  [dataIntervalRegister, mqttPortRegister, mqttBrokerRegister,
    ("software_version".toList, ⟨21, .string, false⟩),
    ("hardware_version".toList, ⟨22, .string, false⟩), systemTimeRegister, wifiSignalRegister]

/-- `config_registers` of the map of each family, in order; the package takes `mqtt_ip` out
of the maps of NOAH, NEO and NEXA. -/
def configRegisters : FamilyKey → List (PyStr × GroBroConfigRegisterDef)
  | .noah =>
      [dataIntervalRegister, mqttPortRegister, mqttBrokerRegister, systemTimeRegister,
        ("restart_datalogger".toList, ⟨32, .int, false⟩), wifiSignalRegister]
  | .nexa =>
      [dataIntervalRegister, ("dns_server".toList, ⟨12, .string, false⟩), mqttPortRegister,
        mqttBrokerRegister, ("time_zone".toList, ⟨30, .string, true⟩), systemTimeRegister,
        wifiSignalRegister]
  | .neo => neoConfigRegisters
  | .shinewelink => neoConfigRegisters
  | .spf =>
      [dataIntervalRegister, mqttIpRegister, mqttPortRegister, mqttBrokerRegister,
        systemTimeRegister]
  | .minXh2 =>
      [dataIntervalRegister, mqttIpRegister, mqttPortRegister, mqttBrokerRegister,
        systemTimeRegister]
  | .mod => [dataIntervalRegister, mqttPortRegister, mqttBrokerRegister, systemTimeRegister]

/-- The name and the register of a number, for a device. -/
def findConfigRegister (deviceId : PyStr) (registerNo : ℕ) :
    Option (PyStr × GroBroConfigRegisterDef) :=
  (getDeviceFamily deviceId).bind fun family =>
    (configRegisters family).find? fun p => p.2.registerNo = registerNo

end GroBro
