/-
GroBro/HomeAssistantRegisters.lean

The register maps of `grobro/model/growatt_registers.py` with the Home Assistant side of a
register: how it is named, shown and set.  What the device side reads of a map is a
projection of it (`GroBroRegisterMap.device`), so that both clients speak of one table.

`HomeAssistantHoldingRegister` and `HomeAssistantConfigRegister` have the same fields and
are one structure here.
-/
import GroBro.Registers

namespace GroBro

open OrderedDict

/-- The fields of a register that can be set. -/
structure HomeAssistantCommandRegister extends HomeAssistantHoldingRegister where
  min : Option ℤ := none
  max : Option ℤ := none
  step : Option ℤ := none
  stateClass : Option PyStr := none
  deviceClass : Option PyStr := none
  unitOfMeasurement : Option PyStr := none
  icon : Option PyStr := none
  options : Option (Dict PyStr PyStr) := none

structure HomeassistantInputRegister where
  name : PyStr
  publish : Bool
  stateClass : Option PyStr := none
  deviceClass : Option PyStr := none
  unitOfMeasurement : Option PyStr := none
  icon : Option PyStr := none
  suggestedDisplayPrecision : Option ℤ := none

section Maps

variable (F : Type*)

/-- `GroBroInputRegister`, in full. -/
structure InputRegisterEntry where
  growatt : GrowattInputRegister F
  homeassistant : HomeassistantInputRegister

/-- `GroBroHoldingRegister`, in full. -/
structure HoldingRegisterEntry where
  growatt : Option (GrowattInputRegister F) := none
  homeassistant : HomeAssistantCommandRegister

/-- `GroBroConfigRegisterDef`, in full. -/
structure ConfigRegisterEntry where
  registerNo : ℕ
  data : GrowattRegisterDataType F
  homeassistant : HomeAssistantCommandRegister

structure GroBroRegisterMap where
  inputRegisters : Dict PyStr (InputRegisterEntry F)
  holdingRegisters : Dict PyStr (HoldingRegisterEntry F)
  configRegisters : Dict PyStr (ConfigRegisterEntry F)

end Maps

section Projection

variable {F : Type*}

def InputRegisterEntry.device (r : InputRegisterEntry F) : GroBroInputRegister F := ⟨r.growatt⟩

def HoldingRegisterEntry.device (r : HoldingRegisterEntry F) : GroBroHoldingRegister F :=
  ⟨r.growatt, r.homeassistant.toHomeAssistantHoldingRegister⟩

/-- What the device side reads of a map. -/
def GroBroRegisterMap.device (m : GroBroRegisterMap F) : GroBroRegisters F where
  inputRegisters := m.inputRegisters.map InputRegisterEntry.device
  holdingRegisters := m.holdingRegisters.map HoldingRegisterEntry.device

/-- The map of a device, by its family. -/
def knownRegisterMap (maps : FamilyKey → GroBroRegisterMap F) (deviceId : PyStr) :
    Option (GroBroRegisterMap F) :=
  (getDeviceFamily deviceId).map maps

theorem getKnownRegisters_device {maps : FamilyKey → GroBroRegisterMap F} {deviceId : PyStr}
    {known : GroBroRegisterMap F} (h : knownRegisterMap maps deviceId = some known) :
    getKnownRegisters (fun family => (maps family).device) deviceId = some known.device := by
  rw [knownRegisterMap] at h
  obtain ⟨family, hfamily, rfl⟩ := Option.map_eq_some_iff.mp h
  rw [getKnownRegisters, hfamily]
  rfl

/-- A holding register of the map, as the device side finds it. -/
theorem mem_device_holdingRegisters {known : GroBroRegisterMap F} {name : PyStr}
    {register : HoldingRegisterEntry F} (h : known.holdingRegisters.get? name = some register) :
    (name, register.device) ∈ known.device.holdingRegisters.entries := by
  rw [Dict.mem_entries]
  show (known.holdingRegisters.map HoldingRegisterEntry.device).get? name = some register.device
  rw [Dict.get?_map, h]
  rfl

end Projection

end GroBro
