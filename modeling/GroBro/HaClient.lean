/-
GroBro/HaClient.lean

The Home Assistant client of `grobro/ha/client.py` as a whole: availability, device
timeouts, states, discovery and config reads, each with a module of its own, under one
lock and one `_stopped` flag, with the timers of `neo_power_runtime.py` and
`time_sync_runtime.py` and the commands that come from Home Assistant.

Every callback takes the lock and looks at the flag (`guardRuntime`, or a check of its
own); a timer thread also looks whether it is still the timer of the client.  A callback
holds the lock to its end, so it is one step.  What the outside world does is data of the
step, as in the other modules; subscriptions, files, log messages and the parsing of
commands are left out.

`nothing_after_stop`: after `stop` no callback and no timer, also not one that had fired
before, publishes, calls the device side or arms a timer.
-/
import GroBro.Availability
import GroBro.Commands
import GroBro.ConfigReads
import GroBro.DeviceTimeouts
import GroBro.DiscoveryCache
import GroBro.Registers
import GroBro.StateSuppression

namespace GroBro

open Broker Machine

/-! ### State -/

/-- What the client is made of and wired to: prepared payloads `P`, holding values `V`,
device configs `γ`. -/
structure HaSetup (P V γ : Type*) where
  availability : AvailabilitySetup
  states : StateSetup P V
  discovery : DiscoverySetup γ
  reads : ReadsSetup
  floats : FloatArithmetic
  deviceTimeout : ℚ
  /-- `data_interval` of a config, if it is a number. -/
  dataInterval : γ → Option ℚ
  /-- The number of the register `inverter_power` in the register map of a device. -/
  inverterPowerRegister : PyStr → Option ℕ
  supportsTimeSync : PyStr → Bool
  /-- `on_command` is set. -/
  onCommand : Bool
  /-- `on_config_command` is set. -/
  onConfigCommand : Bool

/-- Calls that no other module records. -/
inductive ClientCall where
  | publish (topic payload : PyStr) (retain : Bool)
  | onCommand (deviceId : PyStr) (function : GrowattModbusFunction) (registerNo : ℕ) (value : ℤ)
  | onConfigCommand (deviceId : PyStr) (registerNo : ℤ) (value : PyStr)
  /-- `timer.start()` of a NEO probe or a time sync. -/
  | timerStarted

/-- The timer of `_neo_startup_probe_timer` and the attempt its callback is bound to. -/
structure NeoProbeTimer where
  id : ℕ
  attempt : ℕ

structure HaClient (P V γ : Type*) where
  stopped : Bool
  availability : AvailabilityClient
  timeouts : DeviceTimers
  states : StatePublisher P V
  discovery : DiscoveryClient γ
  reads : ConfigReads
  smartMeterStateCache : PyStr → Option PyStr
  /-- `_neo_inverter_power_read_requested` -/
  neoReadRequested : PyStr → Bool
  neoProbeTimer : Option NeoProbeTimer
  timeSyncTimer : Option ℕ
  timersCreated : ℕ
  connectionFailureLogged : Bool
  subscriptionFailureLogged : Bool
  calls : List ClientCall

/-! ### What happens during a step -/

structure ActivityInput where
  outcomes : AvailabilityOutcomes
  timerStarted : Bool

/-- A telemetry packet, as the modules of its parts see it. -/
structure TelemetryInput (P γ : Type*) where
  deviceId : PyStr
  refresh : RefreshOutcome
  firmware : Option PyStr
  pvCount : Option ℕ
  effectiveMaxBat : ℕ
  fileConfig : Option γ
  discovery : DiscoveryOutcomes
  /-- What discovery publishes on other topics. -/
  otherDiscovery : List (PyStr × PyStr)
  activity : ActivityInput
  payload : P
  outcome : Outcome
  neoRead : SendResult

structure ConfigInput (γ : Type*) where
  deviceId : PyStr
  config : γ
  fileConfig : Option γ
  activity : ActivityInput
  refresh : RefreshOutcome
  effectiveMaxBat : ℕ
  discovery : DiscoveryOutcomes
  otherDiscovery : List (PyStr × PyStr)

structure RecoverInput where
  outcomes : PyStr → AvailabilityOutcomes
  refresh : PyStr → RefreshOutcome
  /-- Whether the NEO probe timer starts; `none` where an exception ends the recovery
  before. -/
  probe : Option Bool

/-- A write of a holding register: the results of the write and of the read after it, and
the switch state that a NEO's inverter power is published with. -/
structure SetInput (V : Type*) where
  deviceId : PyStr
  registerNo : ℕ
  value : ℤ
  write : SendResult
  switchState : Option (V × Outcome)

/-! ### Operations -/

namespace HaClient

variable {P V γ : Type*}

def call (s : HaClient P V γ) (c : ClientCall) : HaClient P V γ := { s with calls := s.calls ++ [c] }

def publishAll (s : HaClient P V γ) (messages : List (PyStr × PyStr)) : HaClient P V γ :=
  { s with calls := s.calls ++ messages.map fun m => .publish m.1 m.2 true }

/-- `guard_runtime` -/
def guardRuntime (s : HaClient P V γ) (callback : HaClient P V γ → HaClient P V γ) :
    HaClient P V γ := if s.stopped then s else callback s

variable (setup : HaSetup P V γ) (s : HaClient P V γ)

/-- `__refresh_device_activity` -/
def refreshDeviceActivity (d : PyStr) (o : ActivityInput) : HaClient P V γ :=
  { s with
    availability := GroBro.refreshDeviceActivity setup.availability s.availability d o.outcomes
    timeouts := resetDeviceTimer setup.floats setup.deviceTimeout s.timeouts d o.timerStarted }

/-- `request_initial_neo_inverter_power` -/
def requestInitialNeoInverterPower (d : PyStr) (result : SendResult) : HaClient P V γ :=
  if getDeviceFamily d ≠ some .neo ∨ s.neoReadRequested d ∨ !setup.onCommand then s
  else match setup.inverterPowerRegister d with
  | none => s
  | some registerNo =>
      let s := s.call (.onCommand d .readSingleRegister registerNo registerNo)
      match result with
      | .accepted => { s with neoReadRequested := Function.update s.neoReadRequested d true }
      | .rejected => s
      | .raises => s

/-- Whether a telemetry packet gets behind its publish: it was suppressed or accepted. -/
def telemetryGoesOn (d : PyStr) (payload : P) (outcome : Outcome) : Bool :=
  if (shouldSerializeState setup.states s.states.caches d payload false).1 then
    match setup.states.dumps payload with
    | none => false
    | some payloadJson =>
        if (shouldPublishState s.states.caches d payloadJson false).1 then
          decide (outcome = .accepted)
        else true
  else true

/-- `publish_input_register` -/
def publishInputRegister (x : TelemetryInput P γ) : HaClient P V γ :=
  s.guardRuntime fun s =>
    let d := x.deviceId
    let (reads, raised) := refreshConfigIfNeeded setup.reads s.reads d x.refresh
    let s := { s with reads }
    if raised then s
    else
      let describes := describesDevice setup.discovery
        (observeTelemetry s.discovery d x.firmware x.pvCount) d x.effectiveMaxBat
      let discovery := discoveryStep setup.discovery s.discovery
        (.telemetry d x.firmware x.pvCount x.effectiveMaxBat x.fileConfig x.discovery)
      let s := { s with discovery }.publishAll x.otherDiscovery
      let s := { s with
        availability := telemetry setup.availability s.availability d describes
          x.activity.outcomes
        timeouts := resetDeviceTimer setup.floats setup.deviceTimeout s.timeouts d x.activity.timerStarted }
      let goesOn := s.telemetryGoesOn setup d x.payload x.outcome
      let states := GroBro.publishInputRegister setup.states s.states d x.payload x.outcome
      let s := { s with states }
      if goesOn then s.requestInitialNeoInverterPower setup d x.neoRead else s

/-- `publish_holding_register_input` -/
def publishHoldingRegisterInput (d : PyStr) (payload : List (TopicLevel × V × Outcome))
    (activity : ActivityInput) : HaClient P V γ :=
  s.guardRuntime fun s =>
    let s := s.refreshDeviceActivity setup d activity
    { s with states := GroBro.publishHoldingRegisterInput setup.states s.states d payload }

/-- `publish_config_register_value`; register 7 is the password. -/
def publishConfigRegisterValue (d : PyStr) (registerNo : ℕ) (value : PyStr) (retain : Bool) :
    HaClient P V γ :=
  s.guardRuntime fun s =>
    let topic := readbackTopic setup.availability.haBaseTopic d registerNo
    if registerNo = 7 then s.call (.publish topic [] true) else s.call (.publish topic value retain)

/-- `publish_smart_meter` -/
def publishSmartMeter (d payload : PyStr) (activity : ActivityInput) (outcome : Outcome) :
    HaClient P V γ :=
  s.guardRuntime fun s =>
    let s := s.refreshDeviceActivity setup d activity
    if s.smartMeterStateCache d = some payload then s
    else
      let topic := setup.availability.haBaseTopic ++ "/sensor/grobro/".toList ++ d ++
        "/smart_meter/state".toList
      let s := s.call (.publish topic payload false)
      if outcome = .accepted then
        { s with smartMeterStateCache := Function.update s.smartMeterStateCache d (some payload) }
      else s

/-- `set_config` -/
def setConfig (x : ConfigInput γ) : HaClient P V γ :=
  s.guardRuntime fun s =>
    let d := x.deviceId
    let effective :=
      setup.discovery.mergeConfig ((s.discovery.configCache d).or x.fileConfig) x.config
    let timeouts := resetDeviceTimer setup.floats setup.deviceTimeout s.timeouts d x.activity.timerStarted
    let s := { s with
      availability := GroBro.setConfig setup.availability s.availability d x.activity.outcomes
      timeouts := { timeouts with
        dataInterval := Function.update timeouts.dataInterval d (setup.dataInterval effective) } }
    let (reads, raised) := refreshConfigIfNeeded setup.reads s.reads d x.refresh
    let s := { s with reads }
    if raised then { s with discovery := s.discovery.setConfigCache d effective }
    else
      let discovery := discoveryStep setup.discovery s.discovery
        (.config d x.config x.fileConfig x.effectiveMaxBat x.discovery)
      { s with discovery }.publishAll x.otherDiscovery

/-- `handle_config_read_response` -/
def handleConfigReadResponse (d : PyStr) (registerNo : ℕ) (activity : ActivityInput)
    (outcome : KickoffOutcome) : HaClient P V γ :=
  s.guardRuntime fun s =>
    let s := s.refreshDeviceActivity setup d activity
    { s with reads := GroBro.handleConfigReadResponse setup.reads s.reads d registerNo outcome }

/-- The devices of `_config_cache`, with what happens to each. -/
def knownDevices (outcomes : PyStr → RefreshOutcome) : List (PyStr × RefreshOutcome) :=
  s.availability.configCache.val.map fun d => (d, outcomes d)

/-- `handle_source_ready` -/
def handleSourceReady (outcomes : PyStr → RefreshOutcome) : HaClient P V γ :=
  s.guardRuntime fun s =>
    { s with reads := resetAndRefresh setup.reads s.reads (s.knownDevices outcomes) }

/-- `schedule_probe` -/
def scheduleProbe (attempt : ℕ) (started : Bool) : HaClient P V γ :=
  let s := { s with neoProbeTimer := none }
  if started then
    { s with
      neoProbeTimer := some ⟨s.timersCreated, attempt⟩
      timersCreated := s.timersCreated + 1 }.call .timerStarted
  else s

/-- `schedule_known_neo_state_probe` -/
def scheduleKnownNeoStateProbe (started : Bool) : HaClient P V γ :=
  s.guardRuntime fun s => s.scheduleProbe 0 started

/-- `schedule_next_time_sync` -/
def scheduleNextTimeSync (started : Bool) : HaClient P V γ :=
  s.guardRuntime fun s =>
    let s := { s with timeSyncTimer := none }
    if started then
      { s with
        timeSyncTimer := some s.timersCreated
        timersCreated := s.timersCreated + 1 }.call .timerStarted
    else s

/-- `sync_supported_clocks`; `value` is the time. -/
def syncSupportedClocks (value : PyStr) : HaClient P V γ :=
  s.guardRuntime fun s =>
    if setup.onConfigCommand then
      (s.availability.configCache.val.filter setup.supportsTimeSync).foldl
        (fun s d => s.call (.onConfigCommand d 31 value)) s
    else s

/-- `__recover_after_home_assistant_restart`, from the availability on. -/
def recoverAfterHomeAssistantRestart (availability : AvailabilityClient) (x : RecoverInput) :
    HaClient P V γ :=
  s.guardRuntime fun s =>
    let s := { s with
      availability := GroBro.recoverAfterHomeAssistantRestart setup.availability availability
        x.outcomes
      states := clearStatePublishCache s.states
      discovery := s.discovery.clearReconnectCaches
      smartMeterStateCache := fun _ => none
      neoReadRequested := fun _ => false
      reads := resetAndRefresh setup.reads s.reads (s.knownDevices x.refresh) }
    match x.probe with
    | none => s
    | some started => s.scheduleKnownNeoStateProbe started

/-- `__on_connect` -/
def onConnect (failure : Bool) (bridge : Outcome) (x : RecoverInput) : HaClient P V γ :=
  if s.stopped then s
  else if failure then { s with connectionFailureLogged := true }
  else
    let s := { s with connectionFailureLogged := false }
    s.recoverAfterHomeAssistantRestart setup
      (publishBridgeOnline setup.availability s.availability bridge) x

/-- `__on_connect_fail` -/
def onConnectFail : HaClient P V γ :=
  if s.stopped then s else { s with connectionFailureLogged := true }

/-- `__on_subscribe` -/
def onSubscribe (rejected : Bool) : HaClient P V γ :=
  s.guardRuntime fun s => { s with subscriptionFailureLogged := rejected }

/-- `__on_message` for the button `read_all`; `sent` are the reads of holding registers that
are sent. -/
def onReadAll [PyUnicode] (d : PyStr) (sent : List ℕ) (outcome : ReadAllOutcome) :
    HaClient P V γ :=
  if s.stopped then s
  else
    let s := { s with reads := GroBro.readAll setup.reads s.reads d outcome }
    sent.foldl (fun s registerNo => s.call (.onCommand d .readSingleRegister registerNo registerNo)) s

/-- `__on_message` for a read. -/
def onRead (d : PyStr) (registerNo : ℕ) : HaClient P V γ :=
  if s.stopped then s else s.call (.onCommand d .readSingleRegister registerNo registerNo)

/-- `__on_message` for the setting of a holding register. -/
def onSet (x : SetInput V) : HaClient P V γ :=
  if s.stopped then s
  else
    let s := s.call (.onCommand x.deviceId .presetSingleRegister x.registerNo x.value)
    match x.write with
    | .raises => s
    | .rejected => s.call (.onCommand x.deviceId .readSingleRegister x.registerNo x.registerNo)
    | .accepted =>
        let s := s.call (.onCommand x.deviceId .readSingleRegister x.registerNo x.registerNo)
        match x.switchState with
        | none => s
        | some (state, outcome) =>
            { s with
              states := publishRetainedSwitchState setup.states s.states x.deviceId state outcome }

/-- `__on_message` for the setting of a config register. -/
def onSetConfig (d : PyStr) (registerNo : ℤ) (value : PyStr) : HaClient P V γ :=
  if s.stopped then s
  else if setup.onConfigCommand then s.call (.onConfigCommand d registerNo value) else s

/-! ### Timer threads -/

/-- `run` of a device timer. -/
def deviceTimerFires (id : ℕ) (started : Bool) (o : AvailabilityOutcomes) : HaClient P V γ :=
  let timeouts := timerFires setup.floats setup.deviceTimeout s.timeouts id started
  let timedOut := match s.timeouts.threads id with
    | none => none
    | some d =>
        if (s.timeouts.lastSeen d).isSome && (timeouts.lastSeen d).isNone then some d else none
  let s := { s with timeouts }
  match timedOut with
  | none => s
  | some d => { s with availability := checkTimeout setup.availability s.availability d o }

/-- `run` of a timer of a Read All or a refresh, or of a config read. -/
def readTimerFires [PyUnicode] (a : ReadAction) : HaClient P V γ :=
  match a with
  | .startTimerFires d id outcome =>
      { s with reads := readStep setup.reads s.reads (.startTimerFires d id outcome) }
  | .readTimerFires d id outcome =>
      { s with reads := readStep setup.reads s.reads (.readTimerFires d id outcome) }
  | _ => s

/-- `run` of `schedule_probe`, with `run_probe`. -/
def neoProbeFires (id : ℕ) (results : PyStr → SendResult) (started : Bool) : HaClient P V γ :=
  match s.neoProbeTimer with
  | none => s
  | some timer =>
      if s.stopped ∨ timer.id ≠ id then s
      else
        let known := s.availability.configCache.val
        let s := known.foldl (fun s d => s.requestInitialNeoInverterPower setup d (results d))
          { s with neoProbeTimer := none }
        let pending := known.any fun d => getDeviceFamily d = some .neo && !s.neoReadRequested d
        if !pending ∨ 3 ≤ timer.attempt then s else s.scheduleProbe (timer.attempt + 1) started

/-- `run_and_reschedule` -/
def timeSyncFires (id : ℕ) (value : PyStr) (started : Bool) : HaClient P V γ :=
  if s.stopped ∨ s.timeSyncTimer ≠ some id then s
  else
    ({ s with timeSyncTimer := none }.syncSupportedClocks setup value).scheduleNextTimeSync started

/-! ### Lifecycle -/

/-- The locked section of `stop`. -/
def stop (bridge : Outcome) (outcomes : PyStr → AvailabilityOutcomes) : HaClient P V γ :=
  { s with
    stopped := true
    timeouts := stopTimers s.timeouts
    reads := { s.reads.resetConfigReadState with stopped := true }
    timeSyncTimer := none
    neoProbeTimer := none
    availability := GroBro.stop setup.availability s.availability bridge outcomes }

end HaClient

/-! ### Steps -/

/-- Everything that can happen to a client between `start` and `stop`, and after `stop`: the
callbacks of the device side and of MQTT, the public functions of the runtime modules, and
timer threads. -/
inductive ClientAction (P V γ : Type*) where
  | inputRegister (x : TelemetryInput P γ)
  | holdingRegisterInput (d : PyStr) (payload : List (TopicLevel × V × Outcome))
      (activity : ActivityInput)
  | configRegisterValue (d : PyStr) (registerNo : ℕ) (value : PyStr) (retain : Bool)
  | smartMeter (d payload : PyStr) (activity : ActivityInput) (outcome : Outcome)
  | config (x : ConfigInput γ)
  | configReadResponse (d : PyStr) (registerNo : ℕ) (activity : ActivityInput)
      (outcome : KickoffOutcome)
  | sourceReady (outcomes : PyStr → RefreshOutcome)
  | connect (failure : Bool) (bridge : Outcome) (x : RecoverInput)
  | connectFail
  | subscribed (rejected : Bool)
  | homeAssistantOnline (x : RecoverInput)
  | readAll (d : PyStr) (sent : List ℕ) (outcome : ReadAllOutcome)
  | read (d : PyStr) (registerNo : ℕ)
  | set (x : SetInput V)
  | setConfigRegister (d : PyStr) (registerNo : ℤ) (value : PyStr)
  | syncSupportedClocks (value : PyStr)
  | scheduleKnownNeoStateProbe (started : Bool)
  | scheduleNextTimeSync (started : Bool)
  | deviceTimerFires (id : ℕ) (started : Bool) (o : AvailabilityOutcomes)
  | configReadTimerFires (d : PyStr) (id : ℕ) (outcome : KickoffOutcome)
  | startTimerFires (d : PyStr) (id : ℕ) (outcome : KickoffOutcome)
  | neoProbeFires (id : ℕ) (results : PyStr → SendResult) (started : Bool)
  | timeSyncFires (id : ℕ) (value : PyStr) (started : Bool)
  | tick (time : ℚ)

section Steps

variable {P V γ : Type*} (setup : HaSetup P V γ)

def clientStep [PyUnicode] (s : HaClient P V γ) : ClientAction P V γ → HaClient P V γ
  | .inputRegister x => s.publishInputRegister setup x
  | .holdingRegisterInput d payload activity =>
      s.publishHoldingRegisterInput setup d payload activity
  | .configRegisterValue d registerNo value retain =>
      s.publishConfigRegisterValue setup d registerNo value retain
  | .smartMeter d payload activity outcome => s.publishSmartMeter setup d payload activity outcome
  | .config x => s.setConfig setup x
  | .configReadResponse d registerNo activity outcome =>
      s.handleConfigReadResponse setup d registerNo activity outcome
  | .sourceReady outcomes => s.handleSourceReady setup outcomes
  | .connect failure bridge x => s.onConnect setup failure bridge x
  | .connectFail => s.onConnectFail
  | .subscribed rejected => s.onSubscribe rejected
  | .homeAssistantOnline x => s.recoverAfterHomeAssistantRestart setup s.availability x
  | .readAll d sent outcome => s.onReadAll setup d sent outcome
  | .read d registerNo => s.onRead d registerNo
  | .set x => s.onSet setup x
  | .setConfigRegister d registerNo value => s.onSetConfig setup d registerNo value
  | .syncSupportedClocks value => s.syncSupportedClocks setup value
  | .scheduleKnownNeoStateProbe started => s.scheduleKnownNeoStateProbe started
  | .scheduleNextTimeSync started => s.scheduleNextTimeSync started
  | .deviceTimerFires id started o => s.deviceTimerFires setup id started o
  | .configReadTimerFires d id outcome => s.readTimerFires setup (.readTimerFires d id outcome)
  | .startTimerFires d id outcome => s.readTimerFires setup (.startTimerFires d id outcome)
  | .neoProbeFires id results started => s.neoProbeFires setup id results started
  | .timeSyncFires id value started => s.timeSyncFires setup id value started
  | .tick time => { s with timeouts := { s.timeouts with now := max s.timeouts.now time } }

/-! ### After stop -/

/-- Everything that a client did: its publishes, its calls of the device side and the timers
it armed. -/
structure Effects (P V : Type*) where
  availability : List (Event PyStr PyStr)
  timeouts : List TimeoutEvent
  states : List (Event PyStr (StateMessage P V))
  discovery : List (Event PyStr PyStr)
  reads : List ReadEvent
  calls : List ClientCall
  /-- Device timers, timers of reads, and the rest. -/
  timersCreated : ℕ × ℕ × ℕ

def HaClient.effects (s : HaClient P V γ) : Effects P V :=
  { availability := s.availability.history
    timeouts := s.timeouts.history
    states := s.states.history
    discovery := s.discovery.history
    reads := s.reads.history
    calls := s.calls
    timersCreated := (s.timeouts.timersCreated, s.reads.timersCreated, s.timersCreated) }

/-- The timer tables are empty. -/
structure NoTimers (s : HaClient P V γ) : Prop where
  device : ∀ d, s.timeouts.timers d = none
  read : ∀ d, (s.reads.devices d).readTimer = none
  start : ∀ d, (s.reads.devices d).startTimer = none
  neoProbe : s.neoProbeTimer = none
  timeSync : s.timeSyncTimer = none

variable {setup} {s : HaClient P V γ}

theorem noTimers_stop (s : HaClient P V γ) (bridge : Outcome)
    (outcomes : PyStr → AvailabilityOutcomes) : NoTimers (s.stop setup bridge outcomes) where
  device _ := rfl
  read _ := rfl
  start _ := rfl
  neoProbe := rfl
  timeSync := rfl

/-- The client with a thread of its device timers ended. -/
def HaClient.endThread (s : HaClient P V γ) (id : ℕ) : HaClient P V γ :=
  { s with timeouts := s.timeouts.setThread id none }

def HaClient.atTime (s : HaClient P V γ) (time : ℚ) : HaClient P V γ :=
  { s with timeouts := { s.timeouts with now := time } }

/-- A device timer that was cancelled only ends its thread. -/
theorem deviceTimerFires_of_noTimers (setup : HaSetup P V γ) (h : NoTimers s) (id : ℕ) (started : Bool)
    (o : AvailabilityOutcomes) :
    s.deviceTimerFires setup id started o = s ∨
      s.deviceTimerFires setup id started o = s.endThread id := by
  rcases hthread : s.timeouts.threads id with - | d
  · left
    have hfires : timerFires setup.floats setup.deviceTimeout s.timeouts id started = s.timeouts := by
      rw [timerFires, hthread]
    rw [HaClient.deviceTimerFires, hfires, hthread]
  · right
    have hfires : timerFires setup.floats setup.deviceTimeout s.timeouts id started =
        s.timeouts.setThread id none := by
      rw [timerFires, hthread]
      apply if_neg
      rw [show (s.timeouts.setThread id none).timers d = none from h.device d]
      exact (Option.some_ne_none id).symm
    have hsame : ((s.timeouts.lastSeen d).isSome &&
        ((s.timeouts.setThread id none).lastSeen d).isNone) = false := by
      show ((s.timeouts.lastSeen d).isSome && (s.timeouts.lastSeen d).isNone) = false
      cases s.timeouts.lastSeen d <;> rfl
    rw [HaClient.deviceTimerFires, hfires, hthread]
    show (match if ((s.timeouts.lastSeen d).isSome &&
        ((s.timeouts.setThread id none).lastSeen d).isNone) = true then some d else none with
      | none => s.endThread id
      | some d => _) = _
    rw [hsame]
    rfl

variable [PyUnicode]

/-- **A stopped client does nothing.**  A step leaves it as it is, but for the clock and for
threads that end. -/
theorem clientStep_of_stopped (setup : HaSetup P V γ) (hs : s.stopped = true) (h : NoTimers s)
    (a : ClientAction P V γ) :
    clientStep setup s a = s ∨ (∃ id, clientStep setup s a = s.endThread id) ∨
      ∃ time, clientStep setup s a = s.atTime time := by
  cases a with
  -- callbacks look at the flag, timer threads at the tables
  | inputRegister x => exact Or.inl (if_pos hs)
  | holdingRegisterInput d payload activity => exact Or.inl (if_pos hs)
  | configRegisterValue d registerNo value retain => exact Or.inl (if_pos hs)
  | smartMeter d payload activity outcome => exact Or.inl (if_pos hs)
  | config x => exact Or.inl (if_pos hs)
  | configReadResponse d registerNo activity outcome => exact Or.inl (if_pos hs)
  | sourceReady outcomes => exact Or.inl (if_pos hs)
  | connect failure bridge x => exact Or.inl (if_pos hs)
  | connectFail => exact Or.inl (if_pos hs)
  | subscribed rejected => exact Or.inl (if_pos hs)
  | homeAssistantOnline x => exact Or.inl (if_pos hs)
  | readAll d sent outcome => exact Or.inl (if_pos hs)
  | read d registerNo => exact Or.inl (if_pos hs)
  | set x => exact Or.inl (if_pos hs)
  | setConfigRegister d registerNo value => exact Or.inl (if_pos hs)
  | syncSupportedClocks value => exact Or.inl (if_pos hs)
  | scheduleKnownNeoStateProbe started => exact Or.inl (if_pos hs)
  | scheduleNextTimeSync started => exact Or.inl (if_pos hs)
  | deviceTimerFires id started o =>
      rcases deviceTimerFires_of_noTimers setup h id started o with hsame | hended
      · exact Or.inl hsame
      · exact Or.inr (Or.inl ⟨id, hended⟩)
  | configReadTimerFires d id outcome =>
      left
      show { s with reads := readStep setup.reads s.reads (.readTimerFires d id outcome) } = s
      rw [readStep, h.read d]
  | startTimerFires d id outcome =>
      left
      show { s with reads := readStep setup.reads s.reads (.startTimerFires d id outcome) } = s
      rw [readStep, h.start d]
      rfl
  | neoProbeFires id results started =>
      left
      show s.neoProbeFires setup id results started = s
      rw [HaClient.neoProbeFires, h.neoProbe]
  | timeSyncFires id value started => exact Or.inl (if_pos (Or.inl hs))
  | tick time => exact Or.inr (Or.inr ⟨_, rfl⟩)

/-- A client that is stopped, with the effects that it had when it was stopped. -/
structure Silent (e : Effects P V) (s : HaClient P V γ) : Prop where
  stopped : s.stopped = true
  noTimers : NoTimers s
  effects : s.effects = e

theorem Silent.step {e : Effects P V} (h : Silent e s) (a : ClientAction P V γ) :
    Silent e (clientStep setup s a) := by
  obtain ⟨hs, ⟨hdevice, hread, hstart, hneo, hsync⟩, heffects⟩ := h
  rcases clientStep_of_stopped setup hs ⟨hdevice, hread, hstart, hneo, hsync⟩ a with
    hstep | ⟨id, hstep⟩ | ⟨time, hstep⟩
  · rw [hstep]
    exact ⟨hs, ⟨hdevice, hread, hstart, hneo, hsync⟩, heffects⟩
  · rw [hstep]
    exact ⟨hs, ⟨hdevice, hread, hstart, hneo, hsync⟩, heffects⟩
  · rw [hstep]
    exact ⟨hs, ⟨hdevice, hread, hstart, hneo, hsync⟩, heffects⟩

variable (setup)

/-- **Nothing happens after shutdown.**  Whatever comes after `stop` and before the next
`start`, no publish, no call and no timer is added, and no timer is in a table. -/
theorem nothing_after_stop (s : HaClient P V γ) (bridge : Outcome)
    (outcomes : PyStr → AvailabilityOutcomes) (as : List (ClientAction P V γ)) :
    let stopped := s.stop setup bridge outcomes
    (run (clientStep setup) stopped as).effects = stopped.effects ∧
      NoTimers (run (clientStep setup) stopped as) := by
  intro stopped
  have hstopped : Silent stopped.effects stopped :=
    ⟨rfl, noTimers_stop s bridge outcomes, rfl⟩
  have hsilent : Silent stopped.effects (run (clientStep setup) stopped as) :=
    run_invariant hstopped fun _ a _ h => h.step a
  exact ⟨hsilent.effects, hsilent.noTimers⟩

end Steps

end GroBro
