/-
GroBro/BatteryLimit.lean

How many batteries the discovery of a device has entities for.  `publish_input_register`
takes the larger of the count it detects in a packet and the highest slot a battery of the
packet is kept at.  `set_config` has no packet: it takes what `_MAX_BAT_CACHE` remembers of
the last one, and that is the count alone.

The two agree exactly if the last packet kept no battery above its count
(`rebuild_keeps_limit_iff`).
-/
import GroBro.BatteryPosition
import GroBro.DiscoveryCache
import GroBro.Registers

namespace GroBro

open OrderedDict Machine

/-! ### The count of a packet -/

/-- What the battery count asks of a payload value. -/
class PyCount (V : Type*) extends PyObject V where
  /-- The value of an `int`. -/
  intValue : V → Option ℤ
  /-- The value of an integral number that is no `bool`. -/
  integralValue : V → Option ℤ

section Count

variable {V : Type*} [PyCount V]

/-- A count from 1 to 4. -/
def plausibleCount (value : Option ℤ) : Option ℕ :=
  value.bind fun n => if 1 ≤ n ∧ n ≤ 4 then some n.toNat else none

/-- The last slot with a first fragment that is not blank. -/
def countFromSerials (payload : Dict PyStr V) : ℕ :=
  trackedSlots.foldl (fun count slot =>
    match payload.get? (serialKey slot '1') with
    | none => count
    | some value =>
        if !PyObject.isNone value && stripBy (fun c => c == nul || c == ' ') (PyObject.str value) ≠ []
        then slot.value else count) 1

/-- `_detect_bat_count` -/
def detectBatCount (payload : Dict PyStr V) : ℕ :=
  match plausibleCount ((payload.get? "bat_cnt".toList).bind PyCount.intValue) with
  | some count => count
  | none =>
      match plausibleCount ((payload.get? "batteryPackageQuantity".toList).bind
          PyCount.integralValue) with
      | some count => count
      | none => countFromSerials payload

/-- `_resolve_max_bat`, with the cache behind it; `maxBat` is `none` on auto. -/
def resolveMaxBat (maxBat : Option ℤ) (maxBatCache : PyStr → Option ℕ) (deviceId : PyStr)
    (payload : Option (Dict PyStr V)) : (PyStr → Option ℕ) × ℕ :=
  match maxBat with
  | some n => (maxBatCache, (max 1 (min 4 n)).toNat)
  | none =>
      match payload with
      | some payload =>
          let count := detectBatCount payload
          (Function.update maxBatCache deviceId (some count), count)
      | none => (maxBatCache, (maxBatCache deviceId).getD 1)

end Count

/-! ### Steps -/

structure LimitSetup (γ : Type*) where
  discovery : DiscoverySetup γ
  /-- `MAX_BAT`; `none` is auto. -/
  maxBat : Option ℤ
  keepBatteryPosition : Bool

/-- What a packet showed of the batteries. -/
structure ShownBatteries where
  detected : ℕ
  stableLogicalMax : ℕ
  deriving DecidableEq

/-- `effective_max_bat` -/
def ShownBatteries.effectiveMaxBat (shown : ShownBatteries) : ℕ :=
  if shown.stableLogicalMax > shown.detected then shown.stableLogicalMax else shown.detected

/-- A discovery that `set_config` built. -/
structure Rebuild where
  deviceId : PyStr
  effectiveMaxBat : ℕ
  /-- The last packet of the device before. -/
  lastShown : Option ShownBatteries
  deriving DecidableEq

structure LimitClient (γ : Type*) where
  battery : BatteryWorld
  /-- `_MAX_BAT_CACHE` -/
  maxBatCache : PyStr → Option ℕ
  discovery : DiscoveryClient γ
  /-- Kept for the theorems, as `rebuilds` is: no step reads it. -/
  lastShown : PyStr → Option ShownBatteries
  rebuilds : List Rebuild

inductive LimitAction (V γ : Type*) where
  /-- `publish_input_register`, up to the discovery -/
  | telemetry (d : PyStr) (payload : Dict PyStr V) (manual : ManualAssignments) (io : IoOutcome)
      (firmware : Option PyStr) (pvCount : Option ℕ) (fileConfig : Option γ)
      (o : DiscoveryOutcomes)
  | config (d : PyStr) (incoming : γ) (fileConfig : Option γ) (o : DiscoveryOutcomes)
  | setLanguage (language : PyStr)
  | reconnect

section Steps

variable {V γ : Type*} [PyCount V] [PyUnicode] (c : LimitSetup γ)

/-- A new client with a position file and the configs it restored. -/
def LimitClient.start (file : PositionFile) (configCache : PyStr → Option γ) (language : PyStr) :
    LimitClient γ :=
  ⟨⟨⟨none, false⟩, file⟩, fun _ => none, .start configCache language, fun _ => none, []⟩

/-- The batteries of a packet at their slots; only the NOAH families have them. -/
def placeBatteries (s : LimitClient γ) (d : PyStr) (payload : Dict PyStr V)
    (manual : ManualAssignments) (io : IoOutcome) : BatteryWorld × (Dict PyStr V × ℕ) :=
  if usesNoahProtocol d then
    prepareBatteryPayload s.battery d payload manual c.keepBatteryPosition io
  else (s.battery, (payload, 1))

def publishTelemetry (s : LimitClient γ) (d : PyStr) (payload : Dict PyStr V)
    (manual : ManualAssignments) (io : IoOutcome) (firmware : Option PyStr) (pvCount : Option ℕ)
    (fileConfig : Option γ) (o : DiscoveryOutcomes) : LimitClient γ :=
  let (battery, (payload, stableLogicalMax)) := placeBatteries c s d payload manual io
  let (maxBatCache, detected) := resolveMaxBat c.maxBat s.maxBatCache d (some payload)
  let shown : ShownBatteries := ⟨detected, stableLogicalMax⟩
  let discovery := publishDeviceDiscovery c.discovery (observeTelemetry s.discovery d firmware pvCount)
    d shown.effectiveMaxBat fileConfig o
  { s with
    battery, maxBatCache, discovery
    lastShown := Function.update s.lastShown d (some shown) }

/-- `set_config`, from the discovery on -/
def setConfigLimit (s : LimitClient γ) (d : PyStr) (incoming : γ) (fileConfig : Option γ)
    (o : DiscoveryOutcomes) : LimitClient γ :=
  let (discovery, goesOn) := observeConfig c.discovery s.discovery d incoming fileConfig
  if goesOn && c.discovery.known d then
    let effectiveMaxBat := (resolveMaxBat (V := V) c.maxBat s.maxBatCache d none).2
    { s with
      discovery := publishDeviceDiscovery c.discovery discovery d effectiveMaxBat fileConfig o
      rebuilds := s.rebuilds ++ [⟨d, effectiveMaxBat, s.lastShown d⟩] }
  else { s with discovery }

def limitStep (s : LimitClient γ) : LimitAction V γ → LimitClient γ
  | .telemetry d payload manual io firmware pvCount fileConfig o =>
      publishTelemetry c s d payload manual io firmware pvCount fileConfig o
  | .config d incoming fileConfig o => setConfigLimit (V := V) c s d incoming fileConfig o
  | .setLanguage language => { s with discovery := { s.discovery with language } }
  | .reconnect => { s with discovery := s.discovery.clearReconnectCaches }

end Steps

/-! ### The limit of a rebuild -/

/-- The rebuild uses the limit of the last packet. -/
def Rebuild.KeepsLimit (r : Rebuild) : Prop :=
  ∀ shown, r.lastShown = some shown → r.effectiveMaxBat = shown.effectiveMaxBat

/-- The last packet kept no battery above its count. -/
def Rebuild.NoneAbove (r : Rebuild) : Prop :=
  ∀ shown, r.lastShown = some shown → shown.stableLogicalMax ≤ shown.detected

theorem ShownBatteries.effectiveMaxBat_eq_detected_iff (shown : ShownBatteries) :
    shown.detected = shown.effectiveMaxBat ↔ shown.stableLogicalMax ≤ shown.detected := by
  unfold effectiveMaxBat
  split_ifs with h <;> omega

/-- What is remembered of a device is the count of its last packet, and the rebuilds used it. -/
structure Remembered (V : Type*) [PyCount V] {γ : Type*} (c : LimitSetup γ) (s : LimitClient γ) :
    Prop where
  resolved : ∀ d shown, s.lastShown d = some shown →
    (resolveMaxBat (V := V) c.maxBat s.maxBatCache d none).2 = shown.detected
  rebuilds : ∀ r ∈ s.rebuilds, ∀ shown, r.lastShown = some shown →
    r.effectiveMaxBat = shown.detected

section Run

variable {V γ : Type*} [PyCount V]

/-- A count is remembered for its device. -/
theorem resolveMaxBat_remembers (maxBat : Option ℤ) (maxBatCache : PyStr → Option ℕ) (d : PyStr)
    (payload : Dict PyStr V) :
    let r := resolveMaxBat maxBat maxBatCache d (some payload)
    (resolveMaxBat (V := V) maxBat r.1 d none).2 = r.2 := by
  intro r
  cases maxBat with
  | some n => rfl
  | none =>
      show ((Function.update maxBatCache d (some (detectBatCount payload))) d).getD 1 = _
      rw [Function.update_self]
      rfl

/-- Nothing changes for the other devices. -/
theorem resolveMaxBat_of_ne (maxBat : Option ℤ) (maxBatCache : PyStr → Option ℕ) {d d' : PyStr}
    (hne : d' ≠ d) (payload : Dict PyStr V) :
    (resolveMaxBat (V := V) maxBat (resolveMaxBat maxBat maxBatCache d (some payload)).1 d' none).2 =
      (resolveMaxBat (V := V) maxBat maxBatCache d' none).2 := by
  cases maxBat with
  | some n => rfl
  | none =>
      show ((Function.update maxBatCache d (some (detectBatCount payload))) d').getD 1 = _
      rw [Function.update_of_ne hne]
      rfl

theorem remembered_start (c : LimitSetup γ) (file : PositionFile) (configCache : PyStr → Option γ)
    (language : PyStr) : Remembered V c (.start file configCache language) where
  resolved _ _ h := by cases h
  rebuilds _ h := by cases h

variable {c : LimitSetup γ} {s : LimitClient γ}

theorem Remembered.config (h : Remembered V c s) (d : PyStr) (incoming : γ) (fileConfig : Option γ)
    (o : DiscoveryOutcomes) :
    Remembered V c (setConfigLimit (V := V) c s d incoming fileConfig o) := by
  unfold setConfigLimit
  dsimp only
  split_ifs
  · refine ⟨h.resolved, fun r hr shown hshown => ?_⟩
    rcases List.mem_append.mp hr with hr | hr
    · exact h.rebuilds r hr shown hshown
    · obtain rfl := List.mem_singleton.mp hr
      exact h.resolved d shown hshown
  · exact ⟨h.resolved, h.rebuilds⟩

variable [PyUnicode]

theorem Remembered.telemetry (h : Remembered V c s) (d : PyStr) (payload : Dict PyStr V)
    (manual : ManualAssignments) (io : IoOutcome) (firmware : Option PyStr) (pvCount : Option ℕ)
    (fileConfig : Option γ) (o : DiscoveryOutcomes) :
    Remembered V c (publishTelemetry c s d payload manual io firmware pvCount fileConfig o) where
  resolved d' shown hshown := by
    let placed := (placeBatteries c s d payload manual io).2
    let resolved := resolveMaxBat c.maxBat s.maxBatCache d (some placed.1)
    have hlast : Function.update s.lastShown d (some ⟨resolved.2, placed.2⟩) d' = some shown := hshown
    show (resolveMaxBat (V := V) c.maxBat resolved.1 d' none).2 = shown.detected
    by_cases hd : d' = d
    · subst hd
      rw [Function.update_self] at hlast
      obtain rfl := Option.some.inj hlast
      exact resolveMaxBat_remembers c.maxBat s.maxBatCache d' placed.1
    · rw [Function.update_of_ne hd] at hlast
      rw [resolveMaxBat_of_ne c.maxBat s.maxBatCache hd]
      exact h.resolved d' shown hlast
  rebuilds := h.rebuilds

theorem Remembered.step (h : Remembered V c s) (a : LimitAction V γ) :
    Remembered V c (limitStep c s a) := by
  cases a with
  | telemetry d payload manual io firmware pvCount fileConfig o =>
      exact h.telemetry d payload manual io firmware pvCount fileConfig o
  | config d incoming fileConfig o => exact h.config d incoming fileConfig o
  | setLanguage language => exact ⟨h.resolved, h.rebuilds⟩
  | reconnect => exact ⟨h.resolved, h.rebuilds⟩

/-- **When a rebuild keeps the limit**: in every run, all rebuilds use the limit of their
device's last packet exactly if none of these packets kept a battery above its count. -/
theorem rebuild_keeps_limit_iff (c : LimitSetup γ) (file : PositionFile)
    (configCache : PyStr → Option γ) (language : PyStr) (as : List (LimitAction V γ)) :
    let s := run (limitStep c) (.start file configCache language) as
    (∀ r ∈ s.rebuilds, r.KeepsLimit) ↔ ∀ r ∈ s.rebuilds, r.NoneAbove := by
  intro s
  have hs : Remembered V c s :=
    run_invariant (remembered_start c file configCache language) fun _ a _ h => h.step a
  refine forall₂_congr fun r hr => forall₂_congr fun shown hshown => ?_
  rw [hs.rebuilds r hr shown hshown]
  exact shown.effectiveMaxBat_eq_detected_iff

end Run

/-! ### A battery above the count -/

/-- Payload values: a number or a text. -/
abbrev NumberOrText := ℤ ⊕ PyStr

instance : PyCount NumberOrText where
  isNone _ := false
  str value := value.elim (fun n => (toString n).toList) id
  intValue value := value.getLeft?
  integralValue value := value.getLeft?

/-- Two packs and then one: the second is reported in slot 2 and kept in slot 3. -/
def packRemoved : List (LimitAction NumberOrText PyStr) :=
  let pack slot serial := (serialKey slot '1', (Sum.inr serial.toList : NumberOrText))
  let packet entries := LimitAction.telemetry "0PVP1".toList (Dict.ofList entries) noAssignments
    ⟨true, true⟩ none none none allAccepted
  [packet [("bat_cnt".toList, Sum.inl 3), pack .two "BATTERY-A", pack .three "BATTERY-B"],
    packet [("bat_cnt".toList, Sum.inl 2), pack .two "BATTERY-B"],
    .config "0PVP1".toList "config".toList none allAccepted]

/-- The config packet behind them builds the discovery for two batteries. -/
theorem not_keepsLimit_packRemoved :
    letI := PyUnicode.asciiOnly
    ¬ ∀ r ∈ (run (limitStep ⟨countedDiscovery, none, true⟩)
      (.start .absent (fun _ => none) "en".toList) packRemoved).rebuilds, r.KeepsLimit := by
  let _ : PyUnicode := PyUnicode.asciiOnly
  intro h
  have hrebuilds : (run (limitStep ⟨countedDiscovery, none, true⟩)
      (.start .absent (fun _ => none) "en".toList) packRemoved).rebuilds =
      [⟨"0PVP1".toList, 2, some ⟨2, 3⟩⟩] := by
    decide +kernel
  rw [hrebuilds] at h
  exact absurd (h _ List.mem_cons_self _ rfl) (by decide)

end GroBro
