/-
GroBro/ConfigReads.lean

`grobro/ha/client.py`, `grobro/ha/timer_runtime.py`: the config registers of a
device are read one after the other.  A read is sent by the callback
`on_config_read` and guarded by a 60-second timer; the next one follows when the
device answers or the timer fires.  A sequence starts with a timer of its own,
after a Read All press or by itself when a device is seen.

* `queueAllConfigReads` starts a sequence;
* `kickoffNextConfigRead` sends the next read or ends the sequence;
* `handleConfigReadResponse` and `configReadTimeout` go on to the next read;
* `cancelConfigReadSequence` and `resetConfigReadState` drop sequences.

The six tables of the client that are keyed by device are one function to rows.
A timer is the number it was created with.  What the outside world does during a
step is data of the step: the answers of `config_reads_ready`, whether a timer can
be created and started, what a send returns, and the responses that arrive inside
it, which may send again (`SendOutcome`).  Delays, log messages, availability and
the commands of a Read All press themselves are left out.

`history` is no part of the client: it records what happened, for the statements.
-/
import GroBro.PyText
import GroBro.Sequencer

namespace GroBro

open Sequencer

/-! ### State -/

/-- An entry of `_config_read_timers`: the timer and the register its callback is
bound to. -/
structure ReadTimer where
  id : ℕ
  registerNo : ℕ
  deriving DecidableEq, Repr

/-- The entries of one device in `_config_read_queues`, `_config_read_inflight`,
`_config_read_timers`, `_read_all_start_timers`, `_read_all_active` and
`_config_refresh_started`. -/
structure DeviceReads where
  queue : Option (List ℕ)
  inflight : Option ℕ
  readTimer : Option ReadTimer
  startTimer : Option ℕ
  active : Bool
  refreshStarted : Bool
  deriving DecidableEq, Repr

/-- No entry in any table. -/
def DeviceReads.absent : DeviceReads := ⟨none, none, none, none, false, false⟩

abbrev ReadEvent := Event PyStr ℕ

structure ConfigReads where
  stopped : Bool
  devices : PyStr → DeviceReads
  timersCreated : ℕ
  history : List ReadEvent

namespace ConfigReads

/-- A new client. -/
def start : ConfigReads := ⟨false, fun _ => .absent, 0, []⟩

def modify (s : ConfigReads) (d : PyStr) (f : DeviceReads → DeviceReads) : ConfigReads :=
  { s with devices := Function.update s.devices d (f (s.devices d)) }

def emit (s : ConfigReads) (e : ReadEvent) : ConfigReads :=
  { s with history := s.history ++ [e] }

/-- `Timer(delay, run)`, for an entry of `_read_all_start_timers`. -/
def armStartTimer (s : ConfigReads) (d : PyStr) : ConfigReads :=
  { s.modify d fun row => { row with startTimer := some s.timersCreated } with
    timersCreated := s.timersCreated + 1 }

/-- The same for an entry of `_config_read_timers`. -/
def armReadTimer (s : ConfigReads) (d : PyStr) (registerNo : ℕ) : ConfigReads :=
  { s.modify d fun row => { row with readTimer := some ⟨s.timersCreated, registerNo⟩ } with
    timersCreated := s.timersCreated + 1 }

/-- `__cancel_config_read_sequence` -/
def cancelConfigReadSequence (s : ConfigReads) (d : PyStr) : ConfigReads :=
  (s.modify d fun _ => .absent).emit (.cancelled d)

/-- `__reset_config_read_state` -/
def resetConfigReadState (s : ConfigReads) : ConfigReads :=
  { s with devices := fun _ => .absent }.emit .reset

end ConfigReads

/-! ### The outside world -/

/-- What the client is wired to. -/
structure ReadsSetup where
  /-- `on_config_read` is set. -/
  onConfigRead : Bool
  /-- `config_reads_ready` is set. -/
  configReadsReady : Bool
  /-- The names of the holding registers and the numbers of the config registers that
  `get_known_registers` gives for a device, in map order. -/
  knownRegisters : PyStr → Option (List PyStr × List ℕ)
  maxSlots : ℤ

/-- How `Timer(...)` and `timer.start()` end.  A failure of either is one that
`__refresh_config_if_needed` catches (`RuntimeError`, `OSError`) or another; a timer
that did not start leaves its table with the cancellation that follows. -/
inductive TimerOutcome where
  | started
  | fails (caught : Bool)

/-- How a send ends: with a result that counts as published or not, or with an
exception. -/
inductive SendResult where
  | accepted
  | rejected
  | raises

mutual

/-- What happens around a call of `__kickoff_next_config_read`: the answer of
`config_reads_ready`, the fate of the timer, the responses that arrive inside the
send, and its result. -/
inductive KickoffOutcome where
  | mk (ready : Bool) (timer : TimerOutcome) (nested : Responses) (result : SendResult)

/-- Responses one after the other, each with what happens around its kickoff. -/
inductive Responses where
  | nil
  | cons (deviceId : PyStr) (registerNo : ℕ) (outcome : KickoffOutcome) (rest : Responses)

end

/-! ### Operations -/

section Operations

variable (setup : ReadsSetup)

mutual

/-- `__kickoff_next_config_read` -/
def kickoffNextConfigRead (s : ConfigReads) (d : PyStr) : KickoffOutcome → ConfigReads
  | .mk ready timer nested result =>
      if s.stopped then s
      else if setup.configReadsReady && !ready then s.cancelConfigReadSequence d
      else
        let s := s.modify d fun row => { row with startTimer := none }
        if (s.devices d).inflight.isSome then s
        else match (s.devices d).queue with
        | some (registerNo :: queue) =>
            let s := s.modify d fun row =>
              { row with queue := some queue, inflight := some registerNo }
            match timer with
            | .fails _ => s.cancelConfigReadSequence d
            | .started =>
                let s := s.armReadTimer d registerNo
                if setup.onConfigRead then
                  let s := handleResponses (s.emit (.issued d registerNo)) nested
                  match result with
                  | .accepted => s
                  | .rejected => s.cancelConfigReadSequence d
                  | .raises => s.cancelConfigReadSequence d
                else s
        | _ =>
            (s.modify d fun row => { row with queue := none, active := false }).emit (.finished d)

/-- `handle_config_read_response`, for one response after the other. -/
def handleResponses (s : ConfigReads) : Responses → ConfigReads
  | .nil => s
  | .cons d registerNo outcome rest =>
      handleResponses
        (if s.stopped then s
        else if (s.devices d).inflight = some registerNo then
          kickoffNextConfigRead
            ((s.modify d fun row => { row with readTimer := none, inflight := none }).emit
              (.answered d registerNo)) d outcome
        else s)
        rest

end

/-- `handle_config_read_response` -/
def handleConfigReadResponse (s : ConfigReads) (d : PyStr) (registerNo : ℕ)
    (outcome : KickoffOutcome) : ConfigReads :=
  if s.stopped then s
  else if (s.devices d).inflight = some registerNo then
    kickoffNextConfigRead setup
      ((s.modify d fun row => { row with readTimer := none, inflight := none }).emit
        (.answered d registerNo)) d outcome
  else s

/-- `__config_read_timeout` -/
def configReadTimeout (s : ConfigReads) (d : PyStr) (registerNo : ℕ) (outcome : KickoffOutcome) :
    ConfigReads :=
  if s.stopped then s
  else if (s.devices d).inflight = some registerNo then
    kickoffNextConfigRead setup
      ((s.modify d fun row => { row with inflight := none, readTimer := none }).emit
        (.timedOut d registerNo)) d outcome
  else s

/-- How `__queue_all_config_reads` ends. -/
inductive QueueResult where
  | returned (queued : Bool)
  | raises (caught : Bool)

/-- `__queue_all_config_reads`; `auto` tells a refresh from a Read All press. -/
def queueAllConfigReads (s : ConfigReads) (d : PyStr) (auto ready : Bool) (timer : TimerOutcome) :
    ConfigReads × QueueResult :=
  match setup.knownRegisters d with
  | none => (s, .returned false)
  | some (_, configRegisters) =>
      if !setup.onConfigRead || configRegisters.isEmpty then (s, .returned false)
      else if setup.configReadsReady && !ready then (s, .returned false)
      else if (s.devices d).active || (s.devices d).inflight.isSome then (s, .returned false)
      else if ((s.devices d).queue.getD []) ≠ [] then (s, .returned false)
      else
        let s := (s.modify d fun row =>
          { row with queue := some configRegisters, active := true, refreshStarted := true }).emit
            (.started d auto configRegisters)
        match timer with
        | .started => (s.armStartTimer d, .returned true)
        | .fails caught => (s.cancelConfigReadSequence d, .raises caught)

/-- What happens during an automatic refresh of one device. -/
structure RefreshOutcome where
  ready : Bool
  timer : TimerOutcome

/-- `__refresh_config_if_needed`, and whether an exception leaves it. -/
def refreshConfigIfNeeded (s : ConfigReads) (d : PyStr) (outcome : RefreshOutcome) :
    ConfigReads × Bool :=
  if setup.configReadsReady && !(s.devices d).refreshStarted then
    match queueAllConfigReads setup s d true outcome.ready outcome.timer with
    | (s, .raises false) => (s, true)
    | (s, _) => (s, false)
  else (s, false)

/-- The loop over the devices of `_config_cache`. -/
def refreshAll (s : ConfigReads) : List (PyStr × RefreshOutcome) → ConfigReads
  | [] => s
  | (d, outcome) :: rest =>
      let (s, raised) := refreshConfigIfNeeded setup s d outcome
      if raised then s else refreshAll s rest

/-- `handle_source_ready`, and `__recover_after_home_assistant_restart` as far as the
reads go. -/
def resetAndRefresh (s : ConfigReads) (devices : List (PyStr × RefreshOutcome)) : ConfigReads :=
  if s.stopped then s else refreshAll setup s.resetConfigReadState devices

/-! ### Read All -/

/-- What happens around one `on_command` call. -/
structure CommandOutcome where
  nested : Responses
  result : SendResult

/-- Whether a holding register is passed over, as it is of a slot beyond `MAX_SLOTS`; `none`
where `name[4]` raises `IndexError`. -/
def slotHidden [PyUnicode] (maxSlots : ℤ) (name : PyStr) : Option Bool :=
  if name.take 4 = "slot".toList then
    match name.drop 4 with
    | [] => none
    | c :: _ =>
        match PyUnicode.decimal c with
        | none => some true
        | some n => some (maxSlots < n)
  else some false

/-- The loop that reads the holding registers; `false` where a send was not accepted
or an exception was raised.  Sends without an outcome are accepted. -/
def readHoldingRegisters [PyUnicode] (s : ConfigReads) :
    List PyStr → List CommandOutcome → ConfigReads × Bool
  | [], _ => (s, true)
  | name :: names, outcomes =>
      match slotHidden setup.maxSlots name with
      | none => (s, false)
      | some true => readHoldingRegisters s names outcomes
      | some false =>
          match outcomes with
          | [] => readHoldingRegisters s names []
          | outcome :: outcomes =>
              let s := handleResponses setup s outcome.nested
              match outcome.result with
              | .accepted => readHoldingRegisters s names outcomes
              | .rejected => (s, false)
              | .raises => (s, false)

/-- What happens during a Read All press. -/
structure ReadAllOutcome where
  commands : List CommandOutcome
  ready : Bool
  timer : TimerOutcome

/-- `__handle_message` for the button `read_all`. -/
def readAll [PyUnicode] (s : ConfigReads) (d : PyStr) (outcome : ReadAllOutcome) : ConfigReads :=
  if s.stopped then s
  else match setup.knownRegisters d with
  | none => s
  | some (holdingRegisters, _) =>
      if (s.devices d).active then s
      else
        let s := s.modify d fun row => { row with active := true }
        match readHoldingRegisters setup s holdingRegisters outcome.commands with
        | (s, false) => s.cancelConfigReadSequence d
        | (s, true) =>
            let s := s.modify d fun row => { row with active := false }
            match queueAllConfigReads setup s d false outcome.ready outcome.timer with
            | (s, .returned true) => s
            | (s, .returned false) => s.modify d fun row => { row with active := false }
            | (s, .raises _) => s.cancelConfigReadSequence d

end Operations

/-! ### Steps -/

/-- What can happen to the client.  A timer may fire at any time, also after it was
cancelled or replaced. -/
inductive ReadAction where
  | readAll (d : PyStr) (outcome : ReadAllOutcome)
  /-- A device is seen: `set_config` or `publish_input_register`. -/
  | refresh (d : PyStr) (outcome : RefreshOutcome)
  | sourceReady (devices : List (PyStr × RefreshOutcome))
  | recover (devices : List (PyStr × RefreshOutcome))
  | startTimerFires (d : PyStr) (id : ℕ) (outcome : KickoffOutcome)
  | readTimerFires (d : PyStr) (id : ℕ) (outcome : KickoffOutcome)
  | response (d : PyStr) (registerNo : ℕ) (outcome : KickoffOutcome)
  | stop
  | start

def readStep [PyUnicode] (setup : ReadsSetup) (s : ConfigReads) : ReadAction → ConfigReads
  | .readAll d outcome => readAll setup s d outcome
  | .refresh d outcome => if s.stopped then s else (refreshConfigIfNeeded setup s d outcome).1
  | .sourceReady devices => resetAndRefresh setup s devices
  | .recover devices => resetAndRefresh setup s devices
  | .startTimerFires d id outcome =>
      -- `timers.get(device_id) is timer`
      if (s.devices d).startTimer = some id then kickoffNextConfigRead setup s d outcome else s
  | .readTimerFires d id outcome =>
      match (s.devices d).readTimer with
      | none => s
      | some timer =>
          if timer.id = id then configReadTimeout setup s d timer.registerNo outcome else s
  | .response d registerNo outcome => handleConfigReadResponse setup s d registerNo outcome
  | .stop => { s.resetConfigReadState with stopped := true }
  | .start => { s with stopped := false }

end GroBro
