/-
GroBro/DiscoveryCache.lean

When `grobro/ha/client.py` publishes the discovery of a device, and when it takes it for
published.  Three caches describe what was published: the list of devices, the signature
(battery count, PV count, language) and the payload before it was cleaned up and
translated.  A refresh is a clearing message and a payload, the first time with a repair
payload between them and the cleanup of older topics behind them, each with an outcome
of its own; only a refresh that succeeds writes the caches.

What discovery is made of is a parameter: the payload that is built from a device's
config and counts, and what cleanup, translation and repair make of it.  Publishes on
other topics are only their results.  A language is read once for each packet, as the
source keeps it for a minute.

The caches say what is on the broker as long as no refresh of a stored discovery stops
halfway, is stored without its signature, or is overtaken by another language
(`discovery_truthful_run`).
-/
import GroBro.Machine
import GroBro.Broker
import GroBro.Topics

namespace GroBro

open Broker Machine

/-! ### State -/

structure DiscoverySignature where
  effectiveMaxBat : ℕ
  pvCount : Option ℕ
  language : PyStr
  deriving DecidableEq, Repr

/-- `γ` are the device configs. -/
structure DiscoverySetup (γ : Type*) where
  haBaseTopic : PyStr
  /-- `get_known_registers` has a register map. -/
  known : PyStr → Bool
  /-- `DeviceConfig(serial_number=device_id)` -/
  minimalConfig : PyStr → γ
  /-- `_merge_config` -/
  mergeConfig : Option γ → γ → γ
  /-- `discovery_config_data` of the two differs. -/
  discoveryChanged : Option γ → γ → Bool
  /-- `build_discovery_payload`, as text -/
  buildPayload : PyStr → γ → ℕ → Option ℕ → PyStr
  /-- `clean_discovery_payload` and `_apply_firmware_discovery`: of a device, its config,
  its composed firmware, the language and the payload -/
  cleanPayload : PyStr → γ → Option PyStr → PyStr → PyStr → PyStr
  /-- `build_discovery_repair_payload` of the cleaned payload -/
  repairPayload : PyStr → γ → Option PyStr → PyStr → PyStr → PyStr
  /-- A payload is the text of a JSON object. -/
  cleanPayload_ne_nil : ∀ d config firmware language payload,
    cleanPayload d config firmware language payload ≠ []

structure DiscoveryClient (γ : Type*) where
  configCache : PyStr → Option γ
  neoPvCount : PyStr → Option ℕ
  composedFirmwareCache : PyStr → Option PyStr
  /-- `runtime_language()` -/
  language : PyStr
  discoveryCache : PyStr → Bool
  discoverySignature : PyStr → Option DiscoverySignature
  discoveryPayloadCache : PyStr → Option PyStr
  repairDone : PyStr → Bool
  legacyCleanupDone : PyStr → Bool
  history : List (Event PyStr PyStr)

/-- Which publishes of one discovery are accepted: the clearing message, the repair
payload, the payload, the cleanup of the older topics, the payload again, the metadata. -/
structure DiscoveryOutcomes where
  clear : Bool
  repair : Bool
  payload : Bool
  cleanup : Bool
  again : Bool
  metadata : Bool
  deriving DecidableEq

def outcomeOf (accepted : Bool) : Outcome := if accepted then .accepted else .rejected

namespace DiscoveryClient

variable {γ : Type*}

/-- A new client with the configs it restored. -/
def start (configCache : PyStr → Option γ) (language : PyStr) : DiscoveryClient γ :=
  ⟨configCache, fun _ => none, fun _ => none, language, fun _ => false, fun _ => none,
    fun _ => none, fun _ => false, fun _ => false, []⟩

def emit (s : DiscoveryClient γ) (e : Event PyStr PyStr) : DiscoveryClient γ :=
  { s with history := s.history ++ [e] }

def setConfigCache (s : DiscoveryClient γ) (d : PyStr) (config : γ) : DiscoveryClient γ :=
  { s with configCache := Function.update s.configCache d (some config) }

def setSignature (s : DiscoveryClient γ) (d : PyStr) (signature : DiscoverySignature) :
    DiscoveryClient γ :=
  { s with discoverySignature := Function.update s.discoverySignature d (some signature) }

def addDiscovered (s : DiscoveryClient γ) (d : PyStr) : DiscoveryClient γ :=
  { s with discoveryCache := Function.update s.discoveryCache d true }

def storePayload (s : DiscoveryClient γ) (d payload : PyStr) : DiscoveryClient γ :=
  { s with discoveryPayloadCache := Function.update s.discoveryPayloadCache d (some payload) }

/-- `_invalidate_discovery_for_firmware_change`, and the same in `set_config` -/
def invalidateDiscovery (s : DiscoveryClient γ) (d : PyStr) : DiscoveryClient γ :=
  { s with
    discoveryCache := Function.update s.discoveryCache d false
    discoverySignature := Function.update s.discoverySignature d none
    discoveryPayloadCache := Function.update s.discoveryPayloadCache d none }

/-- `clear_reconnect_caches` -/
def clearReconnectCaches (s : DiscoveryClient γ) : DiscoveryClient γ :=
  { s with
    discoveryCache := fun _ => false
    discoverySignature := fun _ => none
    discoveryPayloadCache := fun _ => none }

end DiscoveryClient

/-! ### Operations -/

section Operations

variable {γ : Type*} (c : DiscoverySetup γ) (s : DiscoveryClient γ) (d : PyStr)

/-- The config that `__device_info_from_config` finds or makes. -/
def resolveConfig (fileConfig : Option γ) : γ :=
  (s.configCache d).getD (fileConfig.getD (c.minimalConfig d))

/-- The signature of a device with a battery count. -/
def currentSignature (effectiveMaxBat : ℕ) : DiscoverySignature :=
  ⟨effectiveMaxBat, s.neoPvCount d, s.language⟩

/-- The repair payload, unless the device had one. -/
def publishRepair (config : γ) (payload : PyStr) (accepted : Bool) : DiscoveryClient γ :=
  if s.repairDone d then s
  else
    let repair := c.repairPayload d config (s.composedFirmwareCache d) s.language payload
    let s := s.emit (.published (deviceConfigTopic c.haBaseTopic d) repair (outcomeOf accepted))
    if accepted then { s with repairDone := Function.update s.repairDone d true } else s

/-- The payload, and after the first one that is accepted the cleanup of the older topics
and the payload again; and whether the result counts as published. -/
def publishCleaned (cleaned : PyStr) (o : DiscoveryOutcomes) : DiscoveryClient γ × Bool :=
  let topic := deviceConfigTopic c.haBaseTopic d
  let s := s.emit (.published topic cleaned (outcomeOf o.payload))
  if o.payload && !s.legacyCleanupDone d then
    let s := s.emit (.published topic cleaned (outcomeOf o.again))
    if !o.cleanup then (s, false)
    else if o.again then
      ({ s with legacyCleanupDone := Function.update s.legacyCleanupDone d true }, true)
    else (s, false)
  else (s, o.payload)

/-- `_publish_discovery_message` of a payload on the config topic. -/
def publishDiscoveryMessage (config : γ) (payload : PyStr) (o : DiscoveryOutcomes) :
    DiscoveryClient γ × Bool :=
  let cleaned := c.cleanPayload d config (s.composedFirmwareCache d) s.language payload
  publishCleaned c (publishRepair c s d config payload o.repair) d cleaned o

/-- `__publish_device_discovery` from where it does not return early. -/
def refreshDiscovery (effectiveMaxBat : ℕ) (config : γ) (payload : PyStr)
    (o : DiscoveryOutcomes) : DiscoveryClient γ :=
  let signature := currentSignature s d effectiveMaxBat
  let s := s.emit (.published (deviceConfigTopic c.haBaseTopic d) [] (outcomeOf o.clear))
  let (s, published) := publishDiscoveryMessage c s d config payload o
  if !published then s
  else
    let s := (s.storePayload d payload).addDiscovered d
    if o.metadata then s.setSignature d signature else s

/-- `__publish_device_discovery` gets to `__device_info_from_config`. -/
def describesDevice (effectiveMaxBat : ℕ) : Bool :=
  c.known d && !(s.discoveryCache d &&
    s.discoverySignature d == some (currentSignature s d effectiveMaxBat))

/-- `__publish_device_discovery`; `fileConfig` is the config on disk. -/
def publishDeviceDiscovery (effectiveMaxBat : ℕ) (fileConfig : Option γ)
    (o : DiscoveryOutcomes) : DiscoveryClient γ :=
  if !c.known d then s
  else
    let signature := currentSignature s d effectiveMaxBat
    if s.discoveryCache d && s.discoverySignature d == some signature then s
    else
      let config := resolveConfig c s d fileConfig
      let s := s.setConfigCache d config
      let payload := c.buildPayload d config effectiveMaxBat (s.neoPvCount d)
      if s.discoveryPayloadCache d = some payload then
        let s := s.addDiscovered d
        if o.metadata then s.setSignature d signature else s
      else refreshDiscovery c s d effectiveMaxBat config payload o

/-- What a telemetry packet shows before discovery: a composed firmware version, and the
PV count of a NEO. -/
def observeTelemetry (firmware : Option PyStr) (pvCount : Option ℕ) : DiscoveryClient γ :=
  let s := match firmware with
    | none => s
    | some version =>
        if s.composedFirmwareCache d = some version then s
        else
          { s with composedFirmwareCache :=
              Function.update s.composedFirmwareCache d (some version) }.invalidateDiscovery d
  match pvCount with
  | none => s
  | some n => { s with neoPvCount := Function.update s.neoPvCount d (some n) }

/-- `set_config` up to the discovery, and whether it goes on to it. -/
def observeConfig (incoming : γ) (fileConfig : Option γ) : DiscoveryClient γ × Bool :=
  let previous := (s.configCache d).or fileConfig
  let effective := c.mergeConfig previous incoming
  let s := s.setConfigCache d effective
  if !c.discoveryChanged previous effective && s.discoveryCache d then (s, false)
  else (s.invalidateDiscovery d, true)

end Operations

/-! ### Steps -/

inductive DiscoveryAction (γ : Type*) where
  /-- `publish_input_register` as far as discovery goes. -/
  | telemetry (d : PyStr) (firmware : Option PyStr) (pvCount : Option ℕ) (effectiveMaxBat : ℕ)
      (fileConfig : Option γ) (o : DiscoveryOutcomes)
  /-- `set_config` -/
  | config (d : PyStr) (incoming : γ) (fileConfig : Option γ) (effectiveMaxBat : ℕ)
      (o : DiscoveryOutcomes)
  | setLanguage (language : PyStr)
  | reconnect

def discoveryStep {γ : Type*} (c : DiscoverySetup γ) (s : DiscoveryClient γ) :
    DiscoveryAction γ → DiscoveryClient γ
  | .telemetry d firmware pvCount effectiveMaxBat fileConfig o =>
      publishDeviceDiscovery c (observeTelemetry s d firmware pvCount) d effectiveMaxBat fileConfig o
  | .config d incoming fileConfig effectiveMaxBat o =>
      let (s, goesOn) := observeConfig c s d incoming fileConfig
      if goesOn then publishDeviceDiscovery c s d effectiveMaxBat fileConfig o else s
  | .setLanguage language => { s with language }
  | .reconnect => s.clearReconnectCaches

/-! ### What the caches are for -/

section Truth

variable {γ : Type*} (c : DiscoverySetup γ) (s : DiscoveryClient γ) (d : PyStr)

/-- The last message that was accepted on the config topic of a device. -/
def lastDiscovery : Option PyStr := lastAccepted (deviceConfigTopic c.haBaseTopic d) s.history

/-- A discovery payload of a signature, whatever the config and the firmware were. -/
def BuiltFor (signature : DiscoverySignature) (m : PyStr) : Prop :=
  m ≠ [] ∧ ∃ config config' firmware,
    m = c.cleanPayload d config' firmware signature.language
      (c.buildPayload d config signature.effectiveMaxBat signature.pvCount)

/-- `__publish_device_discovery` takes the discovery for published. -/
def ReturnsEarly (effectiveMaxBat : ℕ) (fileConfig : Option γ) : Prop :=
  (s.discoveryCache d = true ∧
    s.discoverySignature d = some (currentSignature s d effectiveMaxBat)) ∨
  s.discoveryPayloadCache d = some (c.buildPayload d (resolveConfig c s d fileConfig)
    effectiveMaxBat (s.neoPvCount d))

/-- **Discovery is suppressed only when it is really on the broker.** -/
def DiscoveryTruthful : Prop :=
  ∀ d effectiveMaxBat fileConfig, ReturnsEarly c s d effectiveMaxBat fileConfig →
    ∃ m, lastDiscovery c s d = some m ∧ BuiltFor c d (currentSignature s d effectiveMaxBat) m

/-- A refresh of a discovery that is stored: a message before the payload is only accepted
together with the payload, and a new payload only together with its signature. -/
def Unbroken (o : DiscoveryOutcomes) : Prop :=
  s.discoveryPayloadCache d ≠ none →
    (o.clear = true ∨ (s.repairDone d = false ∧ o.repair = true) → o.payload = true) ∧
    (o.payload = true → s.discoverySignature d ≠ none → o.metadata = true)

/-- What a step must not do. -/
def KeepsDiscovery : DiscoveryAction γ → Prop
  | .telemetry d firmware pvCount effectiveMaxBat fileConfig o =>
      let s := observeTelemetry s d firmware pvCount
      ¬ ReturnsEarly c s d effectiveMaxBat fileConfig → Unbroken s d o
  | .setLanguage language => ∀ d payload, s.discoveryPayloadCache d = some payload →
      ∀ config firmware, c.cleanPayload d config firmware language payload =
        c.cleanPayload d config firmware s.language payload
  | .config _ _ _ _ _ => True
  | .reconnect => True

end Truth

/-! ### The invariant -/

/-- What is stored is on the broker. -/
structure Discovered {γ : Type*} (c : DiscoverySetup γ) (s : DiscoveryClient γ) : Prop where
  payload : ∀ d payload, s.discoveryPayloadCache d = some payload → ∃ config firmware,
    lastDiscovery c s d = some (c.cleanPayload d config firmware s.language payload)
  signature : ∀ d signature, s.discoverySignature d = some signature →
    ∃ m, lastDiscovery c s d = some m ∧ BuiltFor c d signature m
  stored : ∀ d signature, s.discoverySignature d = some signature →
    s.discoveryPayloadCache d ≠ none
  /-- The first success comes with the cleanup. -/
  cleaned : ∀ d, s.discoveryPayloadCache d ≠ none → s.legacyCleanupDone d = true

section Publish

variable {γ : Type*} {c : DiscoverySetup γ} {s : DiscoveryClient γ} {d d' : PyStr}

theorem lastDiscovery_emit_of_ne (hne : d' ≠ d) (s : DiscoveryClient γ) (m : PyStr)
    (outcome : Outcome) :
    lastDiscovery c (s.emit (.published (deviceConfigTopic c.haBaseTopic d) m outcome)) d' =
      lastDiscovery c s d' :=
  lastAccepted_of_shown_none
    (shown_of_ne (fun he => hne (deviceConfigTopic_injective _ he).symm) _ _)

theorem lastDiscovery_emit (c : DiscoverySetup γ) (s : DiscoveryClient γ) (d m : PyStr)
    (accepted : Bool) :
    lastDiscovery c (s.emit (.published (deviceConfigTopic c.haBaseTopic d) m
      (outcomeOf accepted))) d = if accepted then some m else lastDiscovery c s d := by
  cases accepted with
  | false => exact lastAccepted_of_shown_none (shown_of_not_accepted (by decide) _ _ _)
  | true => exact lastAccepted_accepted

/-- The same caches and the same language. -/
structure SameCaches (s s' : DiscoveryClient γ) : Prop where
  language : s'.language = s.language
  neoPvCount : s'.neoPvCount = s.neoPvCount
  discoveryCache : s'.discoveryCache = s.discoveryCache
  discoverySignature : s'.discoverySignature = s.discoverySignature
  discoveryPayloadCache : s'.discoveryPayloadCache = s.discoveryPayloadCache

/-- What the repair payload does. -/
theorem publishRepair_spec (c : DiscoverySetup γ) (s : DiscoveryClient γ) (d : PyStr) (config : γ)
    (payload : PyStr) (accepted : Bool) :
    let s' := publishRepair c s d config payload accepted
    SameCaches s s' ∧ s'.legacyCleanupDone = s.legacyCleanupDone ∧
      (∀ d', d' ≠ d → lastDiscovery c s' d' = lastDiscovery c s d') ∧
      (¬ (s.repairDone d = false ∧ accepted = true) →
        lastDiscovery c s' d = lastDiscovery c s d) := by
  intro s'
  by_cases hdone : s.repairDone d = true
  · have hsame : s' = s := if_pos hdone
    rw [hsame]
    exact ⟨⟨rfl, rfl, rfl, rfl, rfl⟩, rfl, fun _ _ => rfl, fun _ => rfl⟩
  · let e : Event PyStr PyStr := .published (deviceConfigTopic c.haBaseTopic d)
      (c.repairPayload d config (s.composedFirmwareCache d) s.language payload)
      (outcomeOf accepted)
    have hstep : s' = if accepted then
        { s.emit e with repairDone := Function.update s.repairDone d true } else s.emit e :=
      if_neg hdone
    cases accepted with
    | false =>
        rw [hstep]
        exact ⟨⟨rfl, rfl, rfl, rfl, rfl⟩, rfl,
          fun d' hne => lastDiscovery_emit_of_ne hne s _ _, fun _ => lastDiscovery_emit c s d _ false⟩
    | true =>
        rw [hstep]
        exact ⟨⟨rfl, rfl, rfl, rfl, rfl⟩, rfl,
          fun d' hne => lastDiscovery_emit_of_ne hne s _ _,
          fun hnot => absurd ⟨Bool.eq_false_iff.mpr hdone, rfl⟩ hnot⟩

/-- What the payload does: it is rejected; it is accepted, and the older topics were cleaned
up before; or it is accepted and sent again after the cleanup. -/
theorem publishCleaned_cases (c : DiscoverySetup γ) (s : DiscoveryClient γ) (d cleaned : PyStr)
    (o : DiscoveryOutcomes) :
    let e := fun accepted =>
      Event.published (deviceConfigTopic c.haBaseTopic d) cleaned (outcomeOf accepted)
    (o.payload = false ∧ publishCleaned c s d cleaned o = (s.emit (e false), false)) ∨
    (o.payload = true ∧ s.legacyCleanupDone d = true ∧
      publishCleaned c s d cleaned o = (s.emit (e true), true)) ∨
    (o.payload = true ∧ s.legacyCleanupDone d = false ∧ ((o.cleanup && o.again) = false) ∧
      publishCleaned c s d cleaned o = ((s.emit (e true)).emit (e o.again), false)) ∨
    (o.payload = true ∧ s.legacyCleanupDone d = false ∧
      publishCleaned c s d cleaned o = ({ (s.emit (e true)).emit (e true) with
        legacyCleanupDone := Function.update s.legacyCleanupDone d true }, true)) := by
  intro e
  have hunfold : publishCleaned c s d cleaned o =
      if o.payload && !s.legacyCleanupDone d then
        if !o.cleanup then ((s.emit (e o.payload)).emit (e o.again), false)
        else if o.again then
          ({ (s.emit (e o.payload)).emit (e o.again) with
            legacyCleanupDone := Function.update s.legacyCleanupDone d true }, true)
        else ((s.emit (e o.payload)).emit (e o.again), false)
      else (s.emit (e o.payload), o.payload) := rfl
  rw [hunfold]
  cases hpayload : o.payload with
  | false => exact Or.inl ⟨rfl, rfl⟩
  | true =>
      cases hlegacy : s.legacyCleanupDone d with
      | true => exact Or.inr (Or.inl ⟨rfl, rfl, rfl⟩)
      | false =>
          cases hcleanup : o.cleanup with
          | false => exact Or.inr (Or.inr (Or.inl ⟨rfl, rfl, rfl, rfl⟩))
          | true =>
              cases hagain : o.again with
              | false => exact Or.inr (Or.inr (Or.inl ⟨rfl, rfl, rfl, rfl⟩))
              | true => exact Or.inr (Or.inr (Or.inr ⟨rfl, rfl, rfl⟩))

/-- What is left of it: a result that counts as published shows the payload, and a payload
that is rejected nothing. -/
theorem publishCleaned_spec (c : DiscoverySetup γ) (s : DiscoveryClient γ) (d cleaned : PyStr)
    (o : DiscoveryOutcomes) :
    let r := publishCleaned c s d cleaned o
    SameCaches s r.1 ∧ (∀ d', s.legacyCleanupDone d' = true → r.1.legacyCleanupDone d' = true) ∧
      (∀ d', d' ≠ d → lastDiscovery c r.1 d' = lastDiscovery c s d') ∧
      (r.2 = true → lastDiscovery c r.1 d = some cleaned ∧ r.1.legacyCleanupDone d = true) ∧
      (s.legacyCleanupDone d = true → r.2 = o.payload) ∧
      (o.payload = false → lastDiscovery c r.1 d = lastDiscovery c s d) := by
  intro r
  have hfirst : ∀ d' accepted, d' ≠ d → lastDiscovery c (s.emit (.published
      (deviceConfigTopic c.haBaseTopic d) cleaned (outcomeOf accepted))) d' =
        lastDiscovery c s d' := fun d' accepted hne => lastDiscovery_emit_of_ne hne s _ _
  rcases publishCleaned_cases c s d cleaned o with
    ⟨hpayload, hr⟩ | ⟨hpayload, hlegacy, hr⟩ | ⟨hpayload, hlegacy, -, hr⟩ | ⟨hpayload, hlegacy, hr⟩
  · have hr' : r = _ := hr
    rw [hr', hpayload]
    exact ⟨⟨rfl, rfl, rfl, rfl, rfl⟩, fun _ h => h, fun d' hne => hfirst d' false hne, nofun,
      fun _ => rfl, fun _ => lastDiscovery_emit c s d cleaned false⟩
  · have hr' : r = _ := hr
    rw [hr', hpayload]
    exact ⟨⟨rfl, rfl, rfl, rfl, rfl⟩, fun _ h => h, fun d' hne => hfirst d' true hne,
      fun _ => ⟨lastDiscovery_emit c s d cleaned true, hlegacy⟩, fun _ => rfl, nofun⟩
  · have hr' : r = _ := hr
    rw [hr', hpayload]
    refine ⟨⟨rfl, rfl, rfl, rfl, rfl⟩, fun _ h => h, fun d' hne => ?_, nofun, ?_, nofun⟩
    · exact (lastDiscovery_emit_of_ne hne _ _ _).trans (hfirst d' true hne)
    · intro hdone
      cases hlegacy.symm.trans hdone
  · have hr' : r = _ := hr
    rw [hr', hpayload]
    refine ⟨⟨rfl, rfl, rfl, rfl, rfl⟩, ?_, fun d' hne => ?_, fun _ => ⟨?_, ?_⟩, fun _ => rfl, nofun⟩
    · intro d' hd'
      show Function.update s.legacyCleanupDone d true d' = true
      rw [Function.update_apply, hd', ite_self]
    · exact (lastDiscovery_emit_of_ne hne _ _ _).trans (hfirst d' true hne)
    · exact lastDiscovery_emit c _ d cleaned true
    · exact Function.update_self _ _ _

/-- What `_publish_discovery_message` does to the config topic of a device. -/
theorem publishDiscoveryMessage_spec (c : DiscoverySetup γ) (s : DiscoveryClient γ) (d : PyStr)
    (config : γ) (payload : PyStr) (o : DiscoveryOutcomes) :
    let r := publishDiscoveryMessage c s d config payload o
    SameCaches s r.1 ∧ (∀ d', s.legacyCleanupDone d' = true → r.1.legacyCleanupDone d' = true) ∧
      (∀ d', d' ≠ d → lastDiscovery c r.1 d' = lastDiscovery c s d') ∧
      (r.2 = true → r.1.legacyCleanupDone d = true ∧ lastDiscovery c r.1 d = some
        (c.cleanPayload d config (s.composedFirmwareCache d) s.language payload)) ∧
      (s.legacyCleanupDone d = true → r.2 = o.payload) ∧
      (¬ (s.repairDone d = false ∧ o.repair = true) → o.payload = false →
        lastDiscovery c r.1 d = lastDiscovery c s d) := by
  intro r
  obtain ⟨hsame, hlegacy, hother, hself⟩ := publishRepair_spec c s d config payload o.repair
  obtain ⟨hsame', hlegacy', hother', hdone, hresult, hrejected⟩ := publishCleaned_spec c
    (publishRepair c s d config payload o.repair) d
    (c.cleanPayload d config (s.composedFirmwareCache d) s.language payload) o
  refine ⟨?_, ?_, ?_, fun hr => (hdone hr).symm, ?_, ?_⟩
  · exact ⟨hsame'.language.trans hsame.language, hsame'.neoPvCount.trans hsame.neoPvCount,
      hsame'.discoveryCache.trans hsame.discoveryCache,
      hsame'.discoverySignature.trans hsame.discoverySignature,
      hsame'.discoveryPayloadCache.trans hsame.discoveryPayloadCache⟩
  · intro d' hd'
    exact hlegacy' d' ((congrFun hlegacy d').trans hd')
  · intro d' hne
    exact (hother' d' hne).trans (hother d' hne)
  · intro hd
    exact hresult ((congrFun hlegacy d).trans hd)
  · intro hnot hpayload
    exact (hrejected hpayload).trans (hself hnot)

end Publish

section Invariant

variable {γ : Type*} {c : DiscoverySetup γ} {s s' : DiscoveryClient γ} {d : PyStr}

/-- Only one device is changed. -/
structure OthersKept (c : DiscoverySetup γ) (d : PyStr) (s s' : DiscoveryClient γ) : Prop where
  language : s'.language = s.language
  signature : ∀ d', d' ≠ d → s'.discoverySignature d' = s.discoverySignature d'
  payload : ∀ d', d' ≠ d → s'.discoveryPayloadCache d' = s.discoveryPayloadCache d'
  last : ∀ d', d' ≠ d → lastDiscovery c s' d' = lastDiscovery c s d'
  legacy : ∀ d', d' ≠ d → s.legacyCleanupDone d' = true → s'.legacyCleanupDone d' = true

/-- What is stored for one device is what is left to show. -/
theorem Discovered.of_othersKept (h : Discovered c s) (hkept : OthersKept c d s s')
    (hpayload : ∀ payload, s'.discoveryPayloadCache d = some payload → ∃ config firmware,
      lastDiscovery c s' d = some (c.cleanPayload d config firmware s'.language payload))
    (hsignature : ∀ signature, s'.discoverySignature d = some signature →
      ∃ m, lastDiscovery c s' d = some m ∧ BuiltFor c d signature m)
    (hstored : ∀ signature, s'.discoverySignature d = some signature →
      s'.discoveryPayloadCache d ≠ none)
    (hcleaned : s'.discoveryPayloadCache d ≠ none → s'.legacyCleanupDone d = true) :
    Discovered c s' where
  payload d' payload hd' := by
    by_cases hne : d' = d
    · subst hne
      exact hpayload payload hd'
    · rw [hkept.payload d' hne] at hd'
      rw [hkept.last d' hne, hkept.language]
      exact h.payload d' payload hd'
  signature d' signature hd' := by
    by_cases hne : d' = d
    · subst hne
      exact hsignature signature hd'
    · rw [hkept.signature d' hne] at hd'
      rw [hkept.last d' hne]
      exact h.signature d' signature hd'
  stored d' signature hd' := by
    by_cases hne : d' = d
    · subst hne
      exact hstored signature hd'
    · rw [hkept.signature d' hne] at hd'
      rw [hkept.payload d' hne]
      exact h.stored d' signature hd'
  cleaned d' hd' := by
    by_cases hne : d' = d
    · subst hne
      exact hcleaned hd'
    · rw [hkept.payload d' hne] at hd'
      exact hkept.legacy d' hne (h.cleaned d' hd')

/-- A publish that showed nothing new leaves what is stored right. -/
theorem Discovered.of_unseen (h : Discovered c s) (hkept : OthersKept c d s s')
    (hsignature : s'.discoverySignature d = s.discoverySignature d)
    (hpayload : s'.discoveryPayloadCache d = s.discoveryPayloadCache d)
    (hlegacy : s.legacyCleanupDone d = true → s'.legacyCleanupDone d = true)
    (hunseen : s.discoveryPayloadCache d ≠ none → lastDiscovery c s' d = lastDiscovery c s d) :
    Discovered c s' := by
  apply h.of_othersKept hkept
  · intro payload hd
    rw [hpayload] at hd
    rw [hunseen (by rw [hd]; exact Option.some_ne_none _), hkept.language]
    exact h.payload d payload hd
  · intro signature hd
    rw [hsignature] at hd
    rw [hunseen (h.stored d signature hd)]
    exact h.signature d signature hd
  · intro signature hd
    rw [hsignature] at hd
    rw [hpayload]
    exact h.stored d signature hd
  · intro hd
    rw [hpayload] at hd
    exact hlegacy (h.cleaned d hd)

/-- A payload that was shown is stored, with a signature that builds it or with none. -/
theorem Discovered.of_shown (h : Discovered c s) (hkept : OthersKept c d s s') {payload : PyStr}
    {config : γ} {firmware : Option PyStr} (hpayload : s'.discoveryPayloadCache d = some payload)
    (hlast : lastDiscovery c s' d = some (c.cleanPayload d config firmware s.language payload))
    (hsignature : ∀ signature, s'.discoverySignature d = some signature →
      BuiltFor c d signature (c.cleanPayload d config firmware s.language payload))
    (hcleaned : s'.legacyCleanupDone d = true) : Discovered c s' := by
  apply h.of_othersKept hkept
  · intro payload' hd
    rw [hpayload] at hd
    obtain rfl := Option.some.inj hd
    rw [hkept.language]
    exact ⟨config, firmware, hlast⟩
  · intro signature hd
    exact ⟨_, hlast, hsignature signature hd⟩
  · intro _ _ hnone
    cases hpayload.symm.trans hnone
  · exact fun _ => hcleaned

/-- Nothing that the invariant is about is changed. -/
theorem Discovered.congr (h : Discovered c s) (hlanguage : s'.language = s.language)
    (hsignature : s'.discoverySignature = s.discoverySignature)
    (hpayload : s'.discoveryPayloadCache = s.discoveryPayloadCache)
    (hlegacy : s'.legacyCleanupDone = s.legacyCleanupDone) (hhistory : s'.history = s.history) :
    Discovered c s' := by
  have hlast : lastDiscovery c s' = lastDiscovery c s := by
    funext d'
    rw [lastDiscovery, lastDiscovery, hhistory]
  constructor
  · rw [hpayload, hlast, hlanguage]
    exact h.payload
  · rw [hsignature, hlast]
    exact h.signature
  · rw [hsignature, hpayload]
    exact h.stored
  · rw [hpayload, hlegacy]
    exact h.cleaned

theorem discovered_start (configCache : PyStr → Option γ) (language : PyStr) :
    Discovered c (.start configCache language) where
  payload _ _ hd := nomatch hd
  signature _ _ hd := nomatch hd
  stored _ _ hd := nomatch hd
  cleaned _ hd := absurd rfl hd

theorem discovered_clearReconnectCaches (s : DiscoveryClient γ) :
    Discovered c s.clearReconnectCaches where
  payload _ _ hd := nomatch hd
  signature _ _ hd := nomatch hd
  stored _ _ hd := nomatch hd
  cleaned _ hd := absurd rfl hd

theorem Discovered.invalidateDiscovery (h : Discovered c s) (d : PyStr) :
    Discovered c (s.invalidateDiscovery d) := by
  have hnone : (s.invalidateDiscovery d).discoveryPayloadCache d = none :=
    Function.update_self _ _ _
  have hunsigned : (s.invalidateDiscovery d).discoverySignature d = none :=
    Function.update_self _ _ _
  apply h.of_othersKept (d := d)
  · exact ⟨rfl, fun _ hne => Function.update_of_ne hne _ _,
      fun _ hne => Function.update_of_ne hne _ _, fun _ _ => rfl, fun _ _ hd => hd⟩
  · rw [hnone]
    exact nofun
  · rw [hunsigned]
    exact nofun
  · rw [hunsigned]
    exact nofun
  · exact fun hd => absurd hnone hd

/-- A signature is stored for what is on the broker. -/
theorem Discovered.setSignature (h : Discovered c s) {signature : DiscoverySignature}
    (hm : ∃ m, lastDiscovery c s d = some m ∧ BuiltFor c d signature m)
    (hd : s.discoveryPayloadCache d ≠ none) : Discovered c (s.setSignature d signature) := by
  have hself : (s.setSignature d signature).discoverySignature d = some signature :=
    Function.update_self _ _ _
  apply h.of_othersKept (d := d)
  · exact ⟨rfl, fun _ hne => Function.update_of_ne hne _ _, fun _ _ => rfl, fun _ _ => rfl,
      fun _ _ hd' => hd'⟩
  · exact h.payload d
  · intro signature' hsignature
    rw [hself] at hsignature
    obtain rfl := Option.some.inj hsignature
    exact hm
  · exact fun _ _ => hd
  · exact fun _ => h.cleaned d hd

/-- A stored payload is one for every signature that builds it. -/
theorem Discovered.builtFor (h : Discovered c s) {effectiveMaxBat : ℕ} {config : γ}
    (hd : s.discoveryPayloadCache d =
      some (c.buildPayload d config effectiveMaxBat (s.neoPvCount d))) :
    ∃ m, lastDiscovery c s d = some m ∧ BuiltFor c d (currentSignature s d effectiveMaxBat) m := by
  obtain ⟨config', firmware, hlast⟩ := h.payload d _ hd
  exact ⟨_, hlast, c.cleanPayload_ne_nil _ _ _ _ _, config, config', firmware, rfl⟩

/-- A refresh whose payload did not get through has shown nothing if something is stored. -/
theorem Discovered.last_of_failed (h : Discovered c s) {config : γ} {payload : PyStr}
    {o : DiscoveryOutcomes} (hunbroken : Unbroken s d o)
    (hd : s.discoveryPayloadCache d ≠ none)
    (hfailed : (publishDiscoveryMessage c (s.emit (.published
      (deviceConfigTopic c.haBaseTopic d) [] (outcomeOf o.clear))) d config payload o).2 = false) :
    lastDiscovery c (publishDiscoveryMessage c (s.emit (.published
      (deviceConfigTopic c.haBaseTopic d) [] (outcomeOf o.clear))) d config payload o).1 d =
        lastDiscovery c s d := by
  obtain ⟨-, -, -, -, hresult, hrejected⟩ := publishDiscoveryMessage_spec c (s.emit (.published
    (deviceConfigTopic c.haBaseTopic d) [] (outcomeOf o.clear))) d config payload o
  have hpayload : o.payload = false := (hresult (h.cleaned d hd)).symm.trans hfailed
  have hbefore : ¬ (o.clear = true ∨ (s.repairDone d = false ∧ o.repair = true)) := by
    intro hshown
    cases hpayload.symm.trans ((hunbroken hd).1 hshown)
  obtain ⟨hclear, hrepair⟩ := not_or.mp hbefore
  exact (hrejected hrepair hpayload).trans
    ((lastDiscovery_emit c s d [] o.clear).trans (if_neg hclear))

/-- **A refresh that is not broken keeps the caches right.** -/
theorem Discovered.refreshDiscovery (h : Discovered c s) {effectiveMaxBat : ℕ} {config : γ}
    {o : DiscoveryOutcomes} (hunbroken : Unbroken s d o) :
    Discovered c (refreshDiscovery c s d effectiveMaxBat config
      (c.buildPayload d config effectiveMaxBat (s.neoPvCount d)) o) := by
  let payload := c.buildPayload d config effectiveMaxBat (s.neoPvCount d)
  let begun := s.emit (.published (deviceConfigTopic c.haBaseTopic d) [] (outcomeOf o.clear))
  let r := publishDiscoveryMessage c begun d config payload o
  obtain ⟨hsame, hlegacy, hother, hdone, hresult, -⟩ :=
    publishDiscoveryMessage_spec c begun d config payload o
  have hlast : ∀ d', d' ≠ d → lastDiscovery c r.1 d' = lastDiscovery c s d' := fun d' hne =>
    (hother d' hne).trans (lastDiscovery_emit_of_ne hne s _ _)
  have hunfold : GroBro.refreshDiscovery c s d effectiveMaxBat config payload o =
      if !r.2 then r.1
      else if o.metadata then
        ((r.1.storePayload d payload).addDiscovered d).setSignature d
          (currentSignature s d effectiveMaxBat)
      else (r.1.storePayload d payload).addDiscovered d := rfl
  have hkept : OthersKept c d s r.1 :=
    ⟨hsame.language, fun d' _ => congrFun hsame.discoverySignature d',
      fun d' _ => congrFun hsame.discoveryPayloadCache d', hlast, fun d' _ => hlegacy d'⟩
  have hsignatures : r.1.discoverySignature d = s.discoverySignature d :=
    congrFun hsame.discoverySignature d
  have hpayloads : r.1.discoveryPayloadCache d = s.discoveryPayloadCache d :=
    congrFun hsame.discoveryPayloadCache d
  show Discovered c (GroBro.refreshDiscovery c s d effectiveMaxBat config payload o)
  rw [hunfold]
  cases hr : r.2 with
  | false =>
      show Discovered c r.1
      exact h.of_unseen hkept hsignatures hpayloads (hlegacy d) fun hd =>
        h.last_of_failed hunbroken hd hr
  | true =>
      obtain ⟨hcleaned, hshown⟩ := hdone hr
      let stored := (r.1.storePayload d payload).addDiscovered d
      have hself : stored.discoveryPayloadCache d = some payload := Function.update_self _ _ _
      have hstored : OthersKept c d s stored :=
        ⟨hkept.language, hkept.signature,
          fun d' hne => (Function.update_of_ne hne _ _).trans (hkept.payload d' hne), hlast,
          hkept.legacy⟩
      have hcurrent : BuiltFor c d (currentSignature s d effectiveMaxBat)
          (c.cleanPayload d config (s.composedFirmwareCache d) s.language payload) :=
        ⟨c.cleanPayload_ne_nil _ _ _ _ _, config, config, _, rfl⟩
      cases hmetadata : o.metadata with
      | false =>
          show Discovered c stored
          apply h.of_shown hstored hself hshown
          · -- an old signature would have asked for the metadata
            intro signature hd
            have hold : s.discoverySignature d = some signature := hsignatures.symm.trans hd
            have hpayload := h.stored d signature hold
            have haccepted : o.metadata = true := by
              apply (hunbroken hpayload).2 ((hresult (h.cleaned d hpayload)).symm.trans hr)
              rw [hold]
              exact Option.some_ne_none _
            cases hmetadata.symm.trans haccepted
          · exact hcleaned
      | true =>
          show Discovered c (stored.setSignature d (currentSignature s d effectiveMaxBat))
          have hsigned : OthersKept c d s
              (stored.setSignature d (currentSignature s d effectiveMaxBat)) :=
            ⟨hstored.language,
              fun d' hne => (Function.update_of_ne hne _ _).trans (hstored.signature d' hne),
              hstored.payload, hlast, hkept.legacy⟩
          apply h.of_shown hsigned hself hshown
          · intro signature hd
            have hupdate : Function.update stored.discoverySignature d
                (some (currentSignature s d effectiveMaxBat)) d = some signature := hd
            rw [Function.update_self] at hupdate
            obtain rfl := Option.some.inj hupdate
            exact hcurrent
          · exact hcleaned

theorem Discovered.publishDeviceDiscovery (h : Discovered c s) {effectiveMaxBat : ℕ}
    {fileConfig : Option γ} {o : DiscoveryOutcomes}
    (hunbroken : ¬ ReturnsEarly c s d effectiveMaxBat fileConfig → Unbroken s d o) :
    Discovered c (publishDeviceDiscovery c s d effectiveMaxBat fileConfig o) := by
  have hconfig : Discovered c (s.setConfigCache d (resolveConfig c s d fileConfig)) :=
    h.congr rfl rfl rfl rfl rfl
  rw [GroBro.publishDeviceDiscovery]
  dsimp only
  split_ifs with hknown hearly hpayload hmetadata
  · exact h
  · exact h
  -- the payload is the one that is stored
  · have hadded : Discovered c
        ((s.setConfigCache d (resolveConfig c s d fileConfig)).addDiscovered d) :=
      hconfig.congr rfl rfl rfl rfl rfl
    apply hadded.setSignature
    · exact hadded.builtFor hpayload
    · intro hnone
      cases hnone.symm.trans hpayload
  · exact hconfig.congr rfl rfl rfl rfl rfl
  · have hlate : ¬ ReturnsEarly c s d effectiveMaxBat fileConfig := by
      rintro (⟨hcache, hsignature⟩ | hstored)
      · apply hearly
        rw [hcache, hsignature, beq_self_eq_true]
        rfl
      · exact hpayload hstored
    exact hconfig.refreshDiscovery (hunbroken hlate)

theorem Discovered.observeTelemetry (h : Discovered c s) (d : PyStr) (firmware : Option PyStr)
    (pvCount : Option ℕ) : Discovered c (observeTelemetry s d firmware pvCount) := by
  have hfirmware : ∀ s' : DiscoveryClient γ, Discovered c s' → Discovered c (match pvCount with
      | none => s'
      | some n => { s' with neoPvCount := Function.update s'.neoPvCount d (some n) }) := by
    intro s' hs'
    cases pvCount with
    | none => exact hs'
    | some n => exact hs'.congr rfl rfl rfl rfl rfl
  apply hfirmware
  cases firmware with
  | none => exact h
  | some version =>
      dsimp only
      split_ifs
      · exact h
      · apply Discovered.invalidateDiscovery
        exact h.congr rfl rfl rfl rfl rfl

/-- An invalidated discovery cannot be broken. -/
theorem unbroken_invalidateDiscovery (s : DiscoveryClient γ) (d : PyStr) (o : DiscoveryOutcomes) :
    Unbroken (s.invalidateDiscovery d) d o := fun hd => absurd (Function.update_self _ _ _) hd

theorem Discovered.setLanguage (h : Discovered c s) {language : PyStr}
    (hlanguage : KeepsDiscovery c s (.setLanguage language)) :
    Discovered c { s with language } where
  payload d payload hd := by
    obtain ⟨config, firmware, hlast⟩ := h.payload d payload hd
    refine ⟨config, firmware, hlast.trans ?_⟩
    rw [← hlanguage d payload hd config firmware]
  signature := h.signature
  stored := h.stored
  cleaned := h.cleaned

theorem Discovered.step (h : Discovered c s) {a : DiscoveryAction γ}
    (ha : KeepsDiscovery c s a) : Discovered c (discoveryStep c s a) := by
  cases a with
  | telemetry d firmware pvCount effectiveMaxBat fileConfig o =>
      exact (h.observeTelemetry d firmware pvCount).publishDeviceDiscovery ha
  | config d incoming fileConfig effectiveMaxBat o =>
      -- the discovery is invalidated before it is published, so nothing stored is at stake
      let previous := (s.configCache d).or fileConfig
      let observed := s.setConfigCache d (c.mergeConfig previous incoming)
      have hobserved : Discovered c observed := h.congr rfl rfl rfl rfl rfl
      have hstep : discoveryStep c s (.config d incoming fileConfig effectiveMaxBat o) =
          if (observeConfig c s d incoming fileConfig).2 then
            GroBro.publishDeviceDiscovery c (observeConfig c s d incoming fileConfig).1 d
              effectiveMaxBat fileConfig o
          else (observeConfig c s d incoming fileConfig).1 := rfl
      have hconfig : observeConfig c s d incoming fileConfig =
          if !c.discoveryChanged previous (c.mergeConfig previous incoming) &&
              observed.discoveryCache d then (observed, false)
          else (observed.invalidateDiscovery d, true) := rfl
      rw [hstep, hconfig]
      by_cases hunchanged : (!c.discoveryChanged previous (c.mergeConfig previous incoming) &&
          observed.discoveryCache d) = true
      · rw [if_pos hunchanged]
        exact hobserved
      · rw [if_neg hunchanged]
        have hinvalidated := hobserved.invalidateDiscovery d
        exact hinvalidated.publishDeviceDiscovery fun _ => unbroken_invalidateDiscovery _ d o
  | setLanguage language => exact h.setLanguage ha
  | reconnect => exact discovered_clearReconnectCaches s

/-- What is stored is what an early return needs. -/
theorem Discovered.truthful (h : Discovered c s) : DiscoveryTruthful c s := by
  rintro d effectiveMaxBat fileConfig (⟨-, hsignature⟩ | hpayload)
  · exact h.signature d _ hsignature
  · exact h.builtFor hpayload

end Invariant

/-! ### Runs -/

/-- **Discovery is suppressed only when it is really on the broker**, in every state of a run
whose steps break no stored discovery. -/
theorem discovery_truthful_run {γ : Type*} (c : DiscoverySetup γ)
    (configCache : PyStr → Option γ) (language : PyStr) (as : List (DiscoveryAction γ))
    (has : EveryStep (KeepsDiscovery c) (discoveryStep c) (.start configCache language) as) :
    Always (DiscoveryTruthful c) (discoveryStep c) (.start configCache language) as :=
  (has.always (discovered_start configCache language) fun _ _ h ha => h.step ha).mono
    fun _ h => h.truthful

/-- Payloads that show the language and the battery count. -/
def countedDiscovery : DiscoverySetup PyStr where
  haBaseTopic := "ha".toList
  known _ := true
  minimalConfig d := d
  mergeConfig _ incoming := incoming
  discoveryChanged previous effective := previous != some effective
  buildPayload _ _ effectiveMaxBat _ := List.replicate effectiveMaxBat 'b'
  cleanPayload _ _ _ language payload := '\x7b' :: (language ++ payload ++ ['\x7d'])
  repairPayload _ _ _ language payload := '\x7b' :: (language ++ payload ++ "-\x7d".toList)
  cleanPayload_ne_nil _ _ _ _ _ := List.cons_ne_nil _ _

def allAccepted : DiscoveryOutcomes := ⟨true, true, true, true, true, true⟩

/-- A battery is added, and its discovery accepted. -/
theorem discovery_truthful_run_batteryAdded :
    let d := "0PVP1".toList
    let as : List (DiscoveryAction PyStr) :=
      [.telemetry d none none 1 none allAccepted, .telemetry d none none 2 none allAccepted]
    EveryStep (KeepsDiscovery countedDiscovery) (discoveryStep countedDiscovery)
        (.start (fun _ => none) "en".toList) as ∧
      Always (DiscoveryTruthful countedDiscovery) (discoveryStep countedDiscovery)
        (.start (fun _ => none) "en".toList) as := by
  intro d as
  have has : EveryStep (KeepsDiscovery countedDiscovery) (discoveryStep countedDiscovery)
      (.start (fun _ => none) "en".toList) as :=
    .cons (fun _ _ => ⟨fun _ => rfl, fun _ _ => rfl⟩)
      (.cons (fun _ _ => ⟨fun _ => rfl, fun _ _ => rfl⟩) (everyStep_nil _ _ _))
  exact ⟨has, discovery_truthful_run _ _ _ _ has⟩

/-- The discovery of an added battery is cleared and then rejected: back at one battery it
would be taken for published, and the topic is empty. -/
theorem not_discoveryTruthful_rejectedRefresh :
    let d := "0PVP1".toList
    ¬ DiscoveryTruthful countedDiscovery (run (discoveryStep countedDiscovery)
      (.start (fun _ => none) "en".toList)
      [.telemetry d none none 1 none allAccepted,
        .telemetry d none none 2 none { allAccepted with payload := false }]) := by
  intro d h
  obtain ⟨m, hlast, hm, -⟩ := h d 1 none (Or.inl ⟨by decide +kernel, by decide +kernel⟩)
  have hcleared : m = [] := by
    apply Option.some.inj
    rw [← hlast]
    decide +kernel
  exact hm hcleared

end GroBro
