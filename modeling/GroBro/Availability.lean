/-
GroBro/Availability.lean

Device availability as `grobro/ha/client.py` publishes it.  `_last_availability`
remembers what was published for a device, so that it is published only when it
changes.  With the availability sensor a change is two publishes with an outcome each,
and the cache is written only after both were accepted (`publishAvailability`).

A first publish that is accepted before a second one that is not leaves the cache with
the old value: the change is torn.  In a run the cache tells what the broker accepted
last exactly as long as no change is torn (`availability_truthful_iff`).
-/
import GroBro.Machine
import GroBro.Broker
import GroBro.Topics

namespace GroBro

open Broker Machine

/-! ### State -/

structure AvailabilitySetup where
  haBaseTopic : PyStr
  /-- `_bridge_availability_topic` -/
  bridgeTopic : PyStr
  /-- `AVAILABILITY_SENSOR` -/
  availabilitySensor : Bool

/-- The keys of a dictionary, in order. -/
abbrev KnownDevices := { l : List PyStr // l.Nodup }

def KnownDevices.insert (known : KnownDevices) (d : PyStr) : KnownDevices :=
  if h : d ∈ known.val then known
  else ⟨known.val.concat d, known.property.concat h⟩

structure AvailabilityClient where
  stopped : Bool
  bridgeOnlinePending : Bool
  /-- The devices of `_config_cache`. -/
  configCache : KnownDevices
  lastAvailability : PyStr → Option Bool
  history : List (Event PyStr PyStr)

/-- What becomes of the publishes of one call: the bridge's, the device's and the
sensor's. -/
structure AvailabilityOutcomes where
  bridge : Outcome
  availability : Outcome
  sensor : Outcome

def availabilityText (online : Bool) : PyStr := if online then "online".toList else "offline".toList

def sensorText (online : Bool) : PyStr := if online then "ON".toList else "OFF".toList

namespace AvailabilityClient

/-- A client that knows the devices of its stored configs. -/
def start (configCache : KnownDevices) : AvailabilityClient :=
  ⟨false, false, configCache, fun _ => none, []⟩

def emit (s : AvailabilityClient) (e : Event PyStr PyStr) : AvailabilityClient :=
  { s with history := s.history ++ [e] }

/-- A config is put into `_config_cache`, under the device's id. -/
def remember (s : AvailabilityClient) (deviceId : PyStr) : AvailabilityClient :=
  { s with configCache := s.configCache.insert deviceId }

end AvailabilityClient

/-! ### Operations -/

section Operations

variable (c : AvailabilitySetup) (s : AvailabilityClient)

/-- `__publish_bridge_online`; it raises nothing. -/
def publishBridgeOnline (outcome : Outcome) : AvailabilityClient :=
  { s.emit (.published c.bridgeTopic "online".toList outcome) with
    bridgeOnlinePending := decide (outcome ≠ .accepted) }

/-- `__publish_availability`.  A publish that raises ends it as one that is rejected
does; its callers catch the exception or have nothing left to do. -/
def publishAvailability (deviceId : PyStr) (online : Bool) (o : AvailabilityOutcomes) :
    AvailabilityClient :=
  let s := if online && s.bridgeOnlinePending then publishBridgeOnline c s o.bridge else s
  if s.lastAvailability deviceId = some online then s
  else
    let s := s.emit (.published (availabilityTopic c.haBaseTopic deviceId)
      (availabilityText online) o.availability)
    if o.availability ≠ .accepted then s
    else
      let stored :=
        { s with lastAvailability := Function.update s.lastAvailability deviceId (some online) }
      if c.availabilitySensor then
        let e := .published (onlineTopic c.haBaseTopic deviceId) (sensorText online) o.sensor
        if o.sensor ≠ .accepted then s.emit e else stored.emit e
      else stored

/-- `__publish_offline_devices` -/
def publishOfflineDevices (outcomes : PyStr → AvailabilityOutcomes) : AvailabilityClient :=
  s.configCache.val.foldl (fun s d => publishAvailability c s d false (outcomes d)) s

/-- `__refresh_device_activity` without the timer; every device callback of a running
client makes it. -/
def refreshDeviceActivity (deviceId : PyStr) (o : AvailabilityOutcomes) : AvailabilityClient :=
  if s.stopped then s else publishAvailability c s deviceId true o

/-- `publish_input_register`.  Discovery comes before the activity, and where it gets to
`__device_info_from_config` the device is remembered. -/
def telemetry (deviceId : PyStr) (describes : Bool) (o : AvailabilityOutcomes) :
    AvailabilityClient :=
  if s.stopped then s
  else
    let s := if describes then s.remember deviceId else s
    publishAvailability c s deviceId true o

/-- `set_config`: activity, and the device is remembered. -/
def setConfig (deviceId : PyStr) (o : AvailabilityOutcomes) : AvailabilityClient :=
  if s.stopped then s else (publishAvailability c s deviceId true o).remember deviceId

/-- `check_timeout` when the time is up. -/
def checkTimeout (deviceId : PyStr) (o : AvailabilityOutcomes) : AvailabilityClient :=
  if s.stopped then s else publishAvailability c s deviceId false o

/-- `__recover_after_home_assistant_restart`: the caches are cleared, and every known
device counts as offline until it sends something. -/
def recoverAfterHomeAssistantRestart (outcomes : PyStr → AvailabilityOutcomes) :
    AvailabilityClient :=
  if s.stopped then s
  else
    publishOfflineDevices c ({ s with lastAvailability := fun _ => none }.emit .forgotten) outcomes

/-- `__on_connect` -/
def onConnect (bridge : Outcome) (outcomes : PyStr → AvailabilityOutcomes) : AvailabilityClient :=
  if s.stopped then s
  else recoverAfterHomeAssistantRestart c (publishBridgeOnline c s bridge) outcomes

/-- `stop` -/
def stop (bridge : Outcome) (outcomes : PyStr → AvailabilityOutcomes) : AvailabilityClient :=
  (publishOfflineDevices c { s with stopped := true } outcomes).emit
    (.published c.bridgeTopic "offline".toList bridge)

end Operations

/-! ### Steps -/

inductive AvailabilityAction where
  /-- Readings of holding and config registers, and of a smart meter. -/
  | activity (deviceId : PyStr) (o : AvailabilityOutcomes)
  | telemetry (deviceId : PyStr) (describes : Bool) (o : AvailabilityOutcomes)
  | config (deviceId : PyStr) (o : AvailabilityOutcomes)
  | timeout (deviceId : PyStr) (o : AvailabilityOutcomes)
  | reconnect (bridge : Outcome) (outcomes : PyStr → AvailabilityOutcomes)
  | homeAssistantRestart (outcomes : PyStr → AvailabilityOutcomes)
  | stop (bridge : Outcome) (outcomes : PyStr → AvailabilityOutcomes)
  | start

def availabilityStep (c : AvailabilitySetup) (s : AvailabilityClient) :
    AvailabilityAction → AvailabilityClient
  | .activity d o => refreshDeviceActivity c s d o
  | .telemetry d describes o => telemetry c s d describes o
  | .config d o => setConfig c s d o
  | .timeout d o => checkTimeout c s d o
  | .reconnect bridge outcomes => onConnect c s bridge outcomes
  | .homeAssistantRestart outcomes => recoverAfterHomeAssistantRestart c s outcomes
  | .stop bridge outcomes => stop c s bridge outcomes
  | .start => { s with stopped := false }

/-! ### What the cache is for -/

section Honest

variable (c : AvailabilitySetup) (s : AvailabilityClient)

/-- The cache says of a device what the broker accepted last on its topic. -/
def Honest (d : PyStr) : Prop :=
  ∀ b, s.lastAvailability d = some b →
    lastAccepted (availabilityTopic c.haBaseTopic d) s.history = some (availabilityText b)

/-- A device whose topic is not the bridge's own, which has the form of a device's. -/
def IsDevice (d : PyStr) : Prop := availabilityTopic c.haBaseTopic d ≠ c.bridgeTopic

instance (d : PyStr) : Decidable (IsDevice c d) := inferInstanceAs (Decidable (_ ≠ _))

/-- **The availability cache tells the truth about the broker.** -/
def AvailabilityTruthful : Prop := ∀ d, IsDevice c d → Honest c s d

/-- A change of availability is published in half: the device's topic shows it, and the
sensor's does not. -/
def Torn (d : PyStr) (online : Bool) (o : AvailabilityOutcomes) : Prop :=
  c.availabilitySensor = true ∧ s.lastAvailability d = some (!online) ∧
    o.availability = .accepted ∧ o.sensor ≠ .accepted

/-- No change of a device is torn by a step.  A stop publishes for every device that was
remembered. -/
def Untorn : AvailabilityAction → Prop
  | .activity d o => IsDevice c d → s.stopped = false → ¬ Torn c s d true o
  | .telemetry d _ o => IsDevice c d → s.stopped = false → ¬ Torn c s d true o
  | .config d o => IsDevice c d → s.stopped = false → ¬ Torn c s d true o
  | .timeout d o => IsDevice c d → s.stopped = false → ¬ Torn c s d false o
  | .stop _ outcomes => ∀ d ∈ s.configCache.val, IsDevice c d → ¬ Torn c s d false (outcomes d)
  | .reconnect _ _ => True
  | .homeAssistantRestart _ => True
  | .start => True

end Honest

/-! ### One publish -/

section Publish

variable {c : AvailabilitySetup} {s : AvailabilityClient} {d d' : PyStr} {online : Bool}
  {o : AvailabilityOutcomes}

/-- The bridge's publish concerns no device. -/
theorem lastAccepted_bridge (hd : IsDevice c d) (h : List (Event PyStr PyStr)) (m : PyStr)
    (outcome : Outcome) :
    lastAccepted (availabilityTopic c.haBaseTopic d) (h ++ [.published c.bridgeTopic m outcome]) =
      lastAccepted (availabilityTopic c.haBaseTopic d) h :=
  lastAccepted_of_shown_none (shown_of_ne hd.symm _ _)

theorem lastAccepted_sensor (c : AvailabilitySetup) (d d' : PyStr) (h : List (Event PyStr PyStr))
    (m : PyStr) (outcome : Outcome) :
    lastAccepted (availabilityTopic c.haBaseTopic d')
        (h ++ [.published (onlineTopic c.haBaseTopic d) m outcome]) =
      lastAccepted (availabilityTopic c.haBaseTopic d') h :=
  lastAccepted_of_shown_none (shown_of_ne availabilityTopic_ne_onlineTopic.symm _ _)

/-- The state in which the device's own publishes begin. -/
def bridgeRetried (c : AvailabilitySetup) (s : AvailabilityClient) (online : Bool)
    (outcome : Outcome) : AvailabilityClient :=
  if online && s.bridgeOnlinePending then publishBridgeOnline c s outcome else s

theorem lastAvailability_bridgeRetried (c : AvailabilitySetup) (s : AvailabilityClient)
    (online : Bool) (outcome : Outcome) :
    (bridgeRetried c s online outcome).lastAvailability = s.lastAvailability := by
  unfold bridgeRetried
  split_ifs <;> rfl

theorem lastAccepted_bridgeRetried (hd : IsDevice c d) (s : AvailabilityClient) (online : Bool)
    (outcome : Outcome) :
    lastAccepted (availabilityTopic c.haBaseTopic d) (bridgeRetried c s online outcome).history =
      lastAccepted (availabilityTopic c.haBaseTopic d) s.history := by
  unfold bridgeRetried
  split_ifs
  · exact lastAccepted_bridge hd _ _ _
  · rfl

/-- The client with a value in its cache. -/
def AvailabilityClient.store (s : AvailabilityClient) (d : PyStr) (online : Bool) :
    AvailabilityClient :=
  { s with lastAvailability := Function.update s.lastAvailability d (some online) }

@[simp] theorem lastAvailability_store (s : AvailabilityClient) (d : PyStr) (online : Bool) :
    (s.store d online).lastAvailability =
      Function.update s.lastAvailability d (some online) := rfl

@[simp] theorem history_store (s : AvailabilityClient) (d : PyStr) (online : Bool) :
    (s.store d online).history = s.history := rfl

/-- What a publish does: nothing is new, the change is not accepted, it is torn, or it is
published and stored. -/
theorem publishAvailability_cases (c : AvailabilitySetup) (s : AvailabilityClient) (d : PyStr)
    (online : Bool) (o : AvailabilityOutcomes) :
    let begun := bridgeRetried c s online o.bridge
    let e := Event.published (availabilityTopic c.haBaseTopic d) (availabilityText online)
      o.availability
    let e' := Event.published (onlineTopic c.haBaseTopic d) (sensorText online) o.sensor
    (s.lastAvailability d = some online ∧ publishAvailability c s d online o = begun) ∨
    (s.lastAvailability d ≠ some online ∧ o.availability ≠ .accepted ∧
      publishAvailability c s d online o = begun.emit e) ∨
    (s.lastAvailability d ≠ some online ∧ o.availability = .accepted ∧
      c.availabilitySensor = true ∧ o.sensor ≠ .accepted ∧
      publishAvailability c s d online o = (begun.emit e).emit e') ∨
    (s.lastAvailability d ≠ some online ∧ o.availability = .accepted ∧
      (c.availabilitySensor = true → o.sensor = .accepted) ∧
      publishAvailability c s d online o =
        (if c.availabilitySensor then (begun.emit e).emit e' else begun.emit e).store d online) := by
  intro begun e e'
  have hunfold : publishAvailability c s d online o =
      if begun.lastAvailability d = some online then begun
      else if o.availability ≠ .accepted then begun.emit e
      else if c.availabilitySensor then
        if o.sensor ≠ .accepted then (begun.emit e).emit e'
        else ((begun.emit e).store d online).emit e'
      else (begun.emit e).store d online := rfl
  have hbegun : begun.lastAvailability = s.lastAvailability := lastAvailability_bridgeRetried c s online _
  rw [hunfold, hbegun]
  by_cases hcached : s.lastAvailability d = some online
  · exact Or.inl ⟨hcached, if_pos hcached⟩
  rw [if_neg hcached]
  by_cases havailability : o.availability = .accepted
  · rw [if_neg (not_not.mpr havailability)]
    by_cases hsensor : c.availabilitySensor = true
    · rw [if_pos hsensor, if_pos hsensor]
      by_cases haccepted : o.sensor = .accepted
      · rw [if_neg (not_not.mpr haccepted)]
        exact Or.inr (Or.inr (Or.inr ⟨hcached, havailability, fun _ => haccepted, rfl⟩))
      · rw [if_pos haccepted]
        exact Or.inr (Or.inr (Or.inl ⟨hcached, havailability, hsensor, haccepted, rfl⟩))
    · rw [if_neg hsensor, if_neg hsensor]
      exact Or.inr (Or.inr (Or.inr
        ⟨hcached, havailability, fun hon => absurd hon hsensor, rfl⟩))
  · rw [if_pos havailability]
    exact Or.inr (Or.inl ⟨hcached, havailability, rfl⟩)

theorem lastAccepted_emit_of_ne (hne : d ≠ d') (s : AvailabilityClient) (m : PyStr)
    (outcome : Outcome) :
    lastAccepted (availabilityTopic c.haBaseTopic d')
        (s.emit (.published (availabilityTopic c.haBaseTopic d) m outcome)).history =
      lastAccepted (availabilityTopic c.haBaseTopic d') s.history :=
  lastAccepted_of_shown_none
    (shown_of_ne (fun he => hne (availabilityTopic_injective _ he)) _ _)

/-- The sensor's publish is not seen on any device's topic. -/
theorem lastAccepted_emit_sensor (c : AvailabilitySetup) (s : AvailabilityClient) (d d' m : PyStr)
    (outcome : Outcome) :
    lastAccepted (availabilityTopic c.haBaseTopic d')
        (if c.availabilitySensor then
          s.emit (.published (onlineTopic c.haBaseTopic d) m outcome) else s).history =
      lastAccepted (availabilityTopic c.haBaseTopic d') s.history := by
  split_ifs
  · exact lastAccepted_sensor c d d' _ _ _
  · rfl

/-- A publish for one device leaves the others alone. -/
theorem publishAvailability_of_ne (hd : IsDevice c d') (hne : d' ≠ d) (s : AvailabilityClient)
    (online : Bool) (o : AvailabilityOutcomes) :
    (publishAvailability c s d online o).lastAvailability d' = s.lastAvailability d' ∧
    lastAccepted (availabilityTopic c.haBaseTopic d')
        (publishAvailability c s d online o).history =
      lastAccepted (availabilityTopic c.haBaseTopic d') s.history := by
  have hbegun := congrFun (lastAvailability_bridgeRetried c s online o.bridge) d'
  have hlast := lastAccepted_bridgeRetried hd s online o.bridge
  rcases publishAvailability_cases c s d online o with
    ⟨-, hstep⟩ | ⟨-, -, hstep⟩ | ⟨-, -, -, -, hstep⟩ | ⟨-, -, -, hstep⟩
  · rw [hstep]
    exact ⟨hbegun, hlast⟩
  · rw [hstep, lastAccepted_emit_of_ne hne.symm]
    exact ⟨hbegun, hlast⟩
  · rw [hstep]
    refine ⟨hbegun, (lastAccepted_sensor c d d' _ _ _).trans ?_⟩
    exact (lastAccepted_emit_of_ne hne.symm _ _ _).trans hlast
  · rw [hstep]
    constructor
    · rw [lastAvailability_store, Function.update_of_ne hne, ← hbegun]
      split_ifs <;> rfl
    · rw [history_store, lastAccepted_emit_sensor, lastAccepted_emit_of_ne hne.symm, hlast]

/-- A publish for another device keeps a device honest, or dishonest. -/
theorem honest_publishAvailability_of_ne (hd : IsDevice c d') (hne : d' ≠ d) :
    Honest c (publishAvailability c s d online o) d' ↔ Honest c s d' := by
  obtain ⟨hcache, hlast⟩ := publishAvailability_of_ne hd hne s online o
  rw [Honest, Honest, hcache, hlast]

theorem availabilityText_not (online : Bool) : availabilityText (!online) ≠ availabilityText online := by
  cases online <;> decide

/-- **A publish keeps its device honest exactly if it is not torn.** -/
theorem honest_publishAvailability (hd : IsDevice c d) (h : Honest c s d) :
    Honest c (publishAvailability c s d online o) d ↔ ¬ Torn c s d online o := by
  have hbegun := congrFun (lastAvailability_bridgeRetried c s online o.bridge) d
  have hlast := lastAccepted_bridgeRetried hd s online o.bridge
  rcases publishAvailability_cases c s d online o with
    ⟨hcached, hstep⟩ | ⟨-, hrejected, hstep⟩ | ⟨hchanged, haccepted, hsensor, hrejected, hstep⟩ |
      ⟨-, haccepted, hsensor, hstep⟩
  · rw [hstep, Honest, hbegun, hlast]
    refine iff_of_true h ?_
    rintro ⟨-, hother, -⟩
    rw [hcached] at hother
    cases online <;> cases hother
  · have hunchanged : lastAccepted (availabilityTopic c.haBaseTopic d)
        (publishAvailability c s d online o).history =
          lastAccepted (availabilityTopic c.haBaseTopic d) s.history := by
      rw [hstep, ← hlast]
      exact lastAccepted_of_shown_none (shown_of_not_accepted hrejected _ _ _)
    rw [Honest, hunchanged, hstep]
    refine iff_of_true (fun b hb => h b (hbegun ▸ hb)) ?_
    rintro ⟨-, -, haccepted, -⟩
    exact hrejected haccepted
  -- the device's topic shows the change, the cache does not
  · have hshown : lastAccepted (availabilityTopic c.haBaseTopic d)
        (publishAvailability c s d online o).history = some (availabilityText online) := by
      rw [hstep]
      refine (lastAccepted_sensor c d d _ _ _).trans ?_
      rw [haccepted]
      exact lastAccepted_accepted
    have hcache : (publishAvailability c s d online o).lastAvailability d = s.lastAvailability d := by
      rw [hstep]
      exact hbegun
    rw [Honest, hshown, hcache]
    constructor
    · rintro hhonest ⟨-, hother, -⟩
      exact availabilityText_not online (Option.some.inj (hhonest _ hother)).symm
    · intro hnot b hb
      have hb' : b = online := by
        by_contra hne
        refine hnot ⟨hsensor, ?_, haccepted, hrejected⟩
        rw [hb, Bool.eq_not.mpr hne]
      rw [hb']
  · have hshown : lastAccepted (availabilityTopic c.haBaseTopic d)
        (publishAvailability c s d online o).history = some (availabilityText online) := by
      rw [hstep]
      refine (lastAccepted_emit_sensor c _ d d _ _).trans ?_
      rw [haccepted]
      exact lastAccepted_accepted
    have hcache : (publishAvailability c s d online o).lastAvailability d = some online := by
      rw [hstep]
      exact Function.update_self _ _ _
    rw [Honest, hshown, hcache]
    refine iff_of_true (fun b hb => congrArg _ (congrArg _ (Option.some.inj hb))) ?_
    rintro ⟨hon, -, -, hrejected⟩
    exact hrejected (hsensor hon)

theorem truthful_publishAvailability (h : AvailabilityTruthful c s) :
    AvailabilityTruthful c (publishAvailability c s d online o) ↔
      (IsDevice c d → ¬ Torn c s d online o) := by
  constructor
  · intro htruthful hd
    exact (honest_publishAvailability hd (h d hd)).mp (htruthful d hd)
  · intro huntorn d' hd'
    by_cases hne : d' = d
    · subst hne
      exact (honest_publishAvailability hd' (h d' hd')).mpr (huntorn hd')
    · exact (honest_publishAvailability_of_ne hd' hne).mpr (h d' hd')

end Publish

/-! ### All devices -/

section Offline

variable {c : AvailabilitySetup} {s : AvailabilityClient} {d : PyStr}
  {outcomes : PyStr → AvailabilityOutcomes}

theorem honest_offline_of_not_mem (hd : IsDevice c d) {l : List PyStr} (hl : d ∉ l) :
    Honest c (l.foldl (fun s d => publishAvailability c s d false (outcomes d)) s) d ↔
      Honest c s d := by
  induction l generalizing s with
  | nil => exact Iff.rfl
  | cons d' l ih =>
      obtain ⟨hne, hl⟩ := not_or.mp (mt List.mem_cons.mpr hl)
      rw [List.foldl_cons, ih hl]
      exact honest_publishAvailability_of_ne hd hne

/-- Each device has its turn, in the state that the others leave alone. -/
theorem honest_offline (hd : IsDevice c d) {l : List PyStr} (hl : l.Nodup) (h : Honest c s d) :
    Honest c (l.foldl (fun s d => publishAvailability c s d false (outcomes d)) s) d ↔
      (d ∈ l → ¬ Torn c s d false (outcomes d)) := by
  induction l generalizing s with
  | nil => exact iff_of_true h nofun
  | cons d' l ih =>
      obtain ⟨hd', hl⟩ := List.nodup_cons.mp hl
      rw [List.foldl_cons]
      by_cases hne : d = d'
      · subst hne
        rw [honest_offline_of_not_mem hd hd', honest_publishAvailability hd h]
        exact ⟨fun huntorn _ => huntorn, fun huntorn => huntorn List.mem_cons_self⟩
      · have hcache := (publishAvailability_of_ne hd hne s false (outcomes d')).1
        rw [ih hl ((honest_publishAvailability_of_ne hd hne).mpr h), Torn, Torn, hcache,
          List.mem_cons, or_iff_right hne]

theorem truthful_publishOfflineDevices (h : AvailabilityTruthful c s) :
    AvailabilityTruthful c (publishOfflineDevices c s outcomes) ↔
      ∀ d ∈ s.configCache.val, IsDevice c d → ¬ Torn c s d false (outcomes d) := by
  constructor
  · intro htruthful d hmem hd
    exact (honest_offline hd s.configCache.property (h d hd)).mp (htruthful d hd) hmem
  · intro huntorn d hd
    exact (honest_offline hd s.configCache.property (h d hd)).mpr fun hmem => huntorn d hmem hd

/-- After the caches are cleared nothing can be torn. -/
theorem truthful_recover (h : AvailabilityTruthful c s) :
    AvailabilityTruthful c (recoverAfterHomeAssistantRestart c s outcomes) := by
  unfold recoverAfterHomeAssistantRestart
  split_ifs
  · exact h
  · apply (truthful_publishOfflineDevices ?_).mpr
    · rintro d - - ⟨-, hcached, -⟩
      cases hcached
    · intro d _ b hb
      cases hb

/-- The bridge's publish keeps the truth about the devices. -/
theorem truthful_emit_bridge (m : PyStr) (outcome : Outcome) :
    AvailabilityTruthful c (s.emit (.published c.bridgeTopic m outcome)) ↔
      AvailabilityTruthful c s := by
  apply forall₂_congr
  intro d hd
  show (∀ b, s.lastAvailability d = some b → lastAccepted _ (s.history ++ [_]) = _) ↔ _
  rw [lastAccepted_bridge hd]
  exact Iff.rfl

end Offline

/-! ### Runs -/

section Runs

variable {c : AvailabilitySetup} {s : AvailabilityClient}

/-- A publish of a client that is not stopped, which may have remembered a device before. -/
theorem truthful_while_running (h : AvailabilityTruthful c s) {begun : AvailabilityClient}
    (hcache : begun.lastAvailability = s.lastAvailability) (hhistory : begun.history = s.history)
    {d : PyStr} {online : Bool} {o : AvailabilityOutcomes} :
    AvailabilityTruthful c (if s.stopped then s else publishAvailability c begun d online o) ↔
      (IsDevice c d → s.stopped = false → ¬ Torn c s d online o) := by
  split_ifs with hs
  · exact iff_of_true h fun _ hrunning => absurd hs (Bool.eq_false_iff.mp hrunning)
  · have hbegun : AvailabilityTruthful c begun := by
      intro d' hd' b hb
      rw [hhistory]
      exact h d' hd' b (hcache ▸ hb)
    have hrunning : s.stopped = false := Bool.eq_false_iff.mpr hs
    rw [truthful_publishAvailability hbegun, Torn, hcache]
    exact ⟨fun huntorn hd _ => huntorn hd, fun huntorn hd => huntorn hd hrunning⟩

/-- **A step keeps the truth exactly if it tears no change.** -/
theorem truthful_availabilityStep (h : AvailabilityTruthful c s) (a : AvailabilityAction) :
    AvailabilityTruthful c (availabilityStep c s a) ↔ Untorn c s a := by
  cases a with
  | activity d o => exact truthful_while_running h rfl rfl
  | telemetry d describes o =>
      -- what is remembered is no part of what the cache says
      cases describes with
      | false => exact truthful_while_running h rfl rfl
      | true =>
          have hcache : (s.remember d).lastAvailability = s.lastAvailability := rfl
          exact truthful_while_running h hcache rfl
  | config d o =>
      show AvailabilityTruthful c (setConfig c s d o) ↔ _
      refine Iff.trans ?_ (truthful_while_running h rfl rfl)
      rw [setConfig]
      split_ifs <;> exact Iff.rfl
  | timeout d o => exact truthful_while_running h rfl rfl
  | reconnect bridge outcomes =>
      refine iff_of_true ?_ trivial
      show AvailabilityTruthful c (onConnect c s bridge outcomes)
      rw [onConnect]
      split_ifs
      · exact h
      · exact truthful_recover ((truthful_emit_bridge _ bridge).mpr h)
  | homeAssistantRestart outcomes => exact iff_of_true (truthful_recover h) trivial
  | stop bridge outcomes =>
      show AvailabilityTruthful c (stop c s bridge outcomes) ↔ _
      rw [stop, truthful_emit_bridge]
      exact truthful_publishOfflineDevices (s := { s with stopped := true }) h
  | start => exact iff_of_true h trivial

/-- Where the cache is truthful, an "online" is suppressed only if the broker shows it. -/
theorem AvailabilityTruthful.online_of_suppressed (h : AvailabilityTruthful c s) {d : PyStr}
    (hd : IsDevice c d) (hcached : s.lastAvailability d = some true) :
    lastAccepted (availabilityTopic c.haBaseTopic d) s.history = some "online".toList :=
  h d hd true hcached

/-- **The availability cache tells the truth in every state of a run exactly if no step
tears a change**: with the sensor on, a device's new availability is accepted on its own
topic and not on the sensor's. -/
theorem availability_truthful_iff (c : AvailabilitySetup) (configCache : KnownDevices)
    (as : List AvailabilityAction) :
    Always (AvailabilityTruthful c) (availabilityStep c) (.start configCache) as ↔
      EveryStep (Untorn c) (availabilityStep c) (.start configCache) as :=
  always_iff (fun _ _ _ hb => nomatch hb) fun _ a h => truthful_availabilityStep h a

end Runs

/-- A device that times out while its sensor's publish is rejected: it is shown offline,
the cache says online, and what it sends changes nothing. -/
theorem not_truthful_tornTimeout :
    let c : AvailabilitySetup := ⟨"ha".toList, "ha/grobro/grobro-ha/availability".toList, true⟩
    let accepted : AvailabilityOutcomes := ⟨.accepted, .accepted, .accepted⟩
    let torn : AvailabilityOutcomes := ⟨.accepted, .accepted, .rejected⟩
    let d := "0PVP1".toList
    let s := run (availabilityStep c) (.start ⟨[], List.nodup_nil⟩)
      [.activity d accepted, .timeout d torn]
    ¬ AvailabilityTruthful c s ∧
      lastAccepted (availabilityTopic c.haBaseTopic d)
        (availabilityStep c s (.activity d accepted)).history = some "offline".toList := by
  intro c accepted torn d s
  have hshown : lastAccepted (availabilityTopic c.haBaseTopic d) s.history =
      some "offline".toList := by decide +kernel
  constructor
  · intro h
    have honline := h.online_of_suppressed (d := d) (by decide +kernel) (by decide +kernel)
    rw [hshown] at honline
    exact absurd honline (by decide)
  · decide +kernel

end GroBro
