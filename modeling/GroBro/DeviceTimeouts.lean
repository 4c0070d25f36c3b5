/-
GroBro/DeviceTimeouts.lean

The device timeouts of `grobro/ha/client.py` and `grobro/ha/timer_runtime.py`.  A device
that sends something gets a timer, unless it has one; its activity only moves
`_device_last_seen`.  A timer whose device was seen in the meantime arms another one for
the time that is left.

A timer is the number it was created with.  `threads` has the timers whose thread has
not ended: they wait, or they have fired and wait for the lock.  A thread takes the lock
at any time, also after its timer was replaced or cancelled; whether it is still the
timer of its device is what `run` looks up (`timerFires`).  Times are seconds of the
monotone clock, computed with as floats are, and a report interval is its number of
minutes, if it has one.

`device_timeouts_exact` says of every run that timeouts come neither early nor get lost.
-/
import GroBro.FloatArithmetic
import GroBro.PyText
import GroBro.Machine
import GroBro.History

namespace GroBro

open History Machine

/-! ### State -/

inductive TimeoutEvent where
  /-- Live traffic was recorded. -/
  | activity (deviceId : PyStr) (time : ℚ)
  /-- A timer was created for a delay, and started. -/
  | armed (deviceId : PyStr) (delay : ℚ)
  /-- A timer could not be created or started. -/
  | armFailed (deviceId : PyStr)
  /-- The device is published as offline. -/
  | offline (deviceId : PyStr)

structure DeviceTimers where
  stopped : Bool
  /-- `data_interval` of the cached configs, as a number of minutes. -/
  dataInterval : PyStr → Option ℚ
  lastSeen : PyStr → Option ℚ
  timers : PyStr → Option ℕ
  threads : ℕ → Option PyStr
  /-- `timer.cancel()` was called. -/
  cancelled : ℕ → Bool
  timersCreated : ℕ
  now : ℚ
  history : List TimeoutEvent

namespace DeviceTimers

def start (dataInterval : PyStr → Option ℚ) (now : ℚ) : DeviceTimers :=
  ⟨false, dataInterval, fun _ => none, fun _ => none, fun _ => none, fun _ => false, 0, now, []⟩

def setLastSeen (s : DeviceTimers) (d : PyStr) (time : Option ℚ) : DeviceTimers :=
  { s with lastSeen := Function.update s.lastSeen d time }

def setTimer (s : DeviceTimers) (d : PyStr) (timer : Option ℕ) : DeviceTimers :=
  { s with timers := Function.update s.timers d timer }

def setThread (s : DeviceTimers) (id : ℕ) (thread : Option PyStr) : DeviceTimers :=
  { s with threads := Function.update s.threads id thread }

def emit (s : DeviceTimers) (e : TimeoutEvent) : DeviceTimers :=
  { s with history := s.history ++ [e] }

end DeviceTimers

/-! ### Operations -/

/-- `effective_device_timeout`: `DEVICE_TIMEOUT`, or the report interval and a grace of 20 %
if that is longer. -/
def effectiveDeviceTimeout (floats : FloatArithmetic) (deviceTimeout : ℚ) (interval : Option ℚ) :
    ℚ :=
  let timeout := floats.round deviceTimeout
  match interval with
  | none => timeout
  | some minutes =>
      if 0 < minutes ∧ minutes ≤ 60 then
        let seconds := floats.round (minutes * 60)
        let grace := max 30 (floats.round (seconds * floats.round (1 / 5)))
        max timeout (floats.round (seconds + grace))
      else timeout

section Operations

variable (floats : FloatArithmetic) (deviceTimeout : ℚ) (s : DeviceTimers) (d : PyStr)

/-- The timeout of a device with the interval that it has now. -/
def currentTimeout : ℚ := effectiveDeviceTimeout floats deviceTimeout (s.dataInterval d)

/-- `time.monotonic() - time` -/
def elapsed (time : ℚ) : ℚ := floats.round (s.now - time)

/-- `arm_timeout`; `started` tells whether the timer could be created and started. -/
def armTimeout (delay : ℚ) (started : Bool) : DeviceTimers :=
  let s := s.setTimer d none
  if started then
    { (s.setTimer d (some s.timersCreated)).setThread s.timersCreated (some d) with
      timersCreated := s.timersCreated + 1 }.emit (.armed d delay)
  else s.emit (.armFailed d)

/-- `check_timeout` -/
def checkDeviceTimeout (started : Bool) : DeviceTimers :=
  if s.stopped then s
  else match s.lastSeen d with
  | none => s.setTimer d none
  | some lastSeen =>
      let timeout := currentTimeout floats deviceTimeout s d
      let remaining := floats.round (timeout - elapsed floats s lastSeen)
      if 0 < remaining then armTimeout s d remaining started
      else ((s.setTimer d none).setLastSeen d none).emit (.offline d)

/-- `__reset_device_timer`, which activity calls if there is a `DEVICE_TIMEOUT`. -/
def resetDeviceTimer (started : Bool) : DeviceTimers :=
  if s.stopped ∨ deviceTimeout ≤ 0 then s
  else
    let s := (s.setLastSeen d (some s.now)).emit (.activity d s.now)
    let timeout := currentTimeout floats deviceTimeout s d
    match s.timers d with
    -- `timer.is_alive()`
    | some id => if (s.threads id).isSome then s else armTimeout s d timeout started
    | none => armTimeout s d timeout started

/-- `run` of a timer thread. -/
def timerFires (id : ℕ) (started : Bool) : DeviceTimers :=
  match s.threads id with
  | none => s
  | some d =>
      let s := s.setThread id none
      if s.timers d = some id then checkDeviceTimeout floats deviceTimeout s d started else s

/-- `stop`, with `cancel_runtime_timers`. -/
def stopTimers : DeviceTimers :=
  { s with
    stopped := true
    cancelled := fun id => s.cancelled id || (s.threads id).any fun d => s.timers d = some id
    timers := fun _ => none
    lastSeen := fun _ => none }

end Operations

/-! ### Steps -/

inductive TimeoutAction where
  /-- The clock goes on; it never goes back. -/
  | tick (time : ℚ)
  | activity (d : PyStr) (started : Bool)
  | fires (id : ℕ) (started : Bool)
  | setInterval (d : PyStr) (interval : Option ℚ)
  | stop
  | start

def timeoutStep (floats : FloatArithmetic) (deviceTimeout : ℚ) (s : DeviceTimers) :
    TimeoutAction → DeviceTimers
  | .tick time => { s with now := max s.now time }
  | .activity d started => resetDeviceTimer floats deviceTimeout s d started
  | .fires id started => timerFires floats deviceTimeout s id started
  | .setInterval d interval =>
      { s with dataInterval := Function.update s.dataInterval d interval }
  | .stop => stopTimers s
  | .start => { s with stopped := false }

/-! ### What timeouts are for -/

/-- Whether the last attempt to arm a timer for a device succeeded. -/
def TimeoutEvent.armResult (d : PyStr) : TimeoutEvent → Option (Option Bool)
  | .armed d' _ => if d' = d then some (some true) else none
  | .armFailed d' => if d' = d then some (some false) else none
  | .activity _ _ => none
  | .offline _ => none

/-- The last attempt to arm a timer for a device failed. -/
def ArmFailed (d : PyStr) (history : List TimeoutEvent) : Prop :=
  latest (TimeoutEvent.armResult d) history = some false

/-- **Device timeouts are neither early nor lost.** -/
structure TimeoutsExact (floats : FloatArithmetic) (deviceTimeout : ℚ) (s : DeviceTimers) :
    Prop where
  /-- A firing that publishes a device as offline finds that all its recorded activity is
  at least its timeout ago. -/
  notEarly : ∀ id started d,
    (timerFires floats deviceTimeout s id started).history = s.history ++ [.offline d] →
    ∀ time, .activity d time ∈ s.history →
      currentTimeout floats deviceTimeout s d ≤ elapsed floats s time
  /-- A firing of the timer of a device whose timeout is over publishes it as offline, -/
  comes : ∀ id started d time, s.timers d = some id → s.lastSeen d = some time →
    currentTimeout floats deviceTimeout s d ≤ elapsed floats s time →
    (timerFires floats deviceTimeout s id started).history = s.history ++ [.offline d]
  /-- and a firing before that arms another timer, for the time that is left. -/
  again : ∀ id started d time, s.timers d = some id → s.lastSeen d = some time →
    elapsed floats s time < currentTimeout floats deviceTimeout s d →
    let delay := floats.round (currentTimeout floats deviceTimeout s d - elapsed floats s time)
    timerFires floats deviceTimeout s id started =
      armTimeout (s.setThread id none) d delay started
  /-- The timer of a device is a thread that has not ended, and no other device's. -/
  current : ∀ d id, s.timers d = some id → s.threads id = some d
  /-- A thread that was not cancelled is the timer of its device: there is only one. -/
  single : ∀ d id, s.threads id = some d → s.cancelled id = false → s.timers d = some id
  /-- A device that was seen has a timer, or none could be armed for it. -/
  notLost : ∀ d time, s.lastSeen d = some time →
    (∃ id, s.timers d = some id) ∨ (s.timers d = none ∧ ArmFailed d s.history)
  /-- The next activity of a device arms a timer if it has none. -/
  rearmed : ∀ d, s.stopped = false → 0 < deviceTimeout →
    ∃ id, (resetDeviceTimer floats deviceTimeout s d true).timers d = some id ∧
      (resetDeviceTimer floats deviceTimeout s d true).threads id = some d
  /-- A timer that is not the one of its device ends, and nothing else happens. -/
  stale : ∀ id started, (∀ d, s.threads id = some d → s.timers d ≠ some id) →
    timerFires floats deviceTimeout s id started = s.setThread id none

/-! ### The invariant -/

/-- What is true in every state, whatever the timers are. -/
structure Recorded (s : DeviceTimers) : Prop where
  fresh : ∀ id, s.timersCreated ≤ id → s.threads id = none ∧ s.cancelled id = false
  /-- `_device_last_seen` has the latest activity. -/
  seen : ∀ d time, s.lastSeen d = some time → ∀ t, .activity d t ∈ s.history → t ≤ time
  past : ∀ d t, .activity d t ∈ s.history → t ≤ s.now

structure Timed (s : DeviceTimers) : Prop extends Recorded s where
  current : ∀ d id, s.timers d = some id → s.threads id = some d
  single : ∀ d id, s.threads id = some d → s.cancelled id = false → s.timers d = some id
  notLost : ∀ d time, s.lastSeen d = some time → s.timers d = none → ArmFailed d s.history
  stopped : s.stopped = true → ∀ d, s.timers d = none

/-- The same while a device has no thread: its timer is about to be armed or dropped. -/
structure TimedBut (d : PyStr) (s : DeviceTimers) : Prop extends Recorded s where
  running : s.stopped = false
  current : ∀ d' id, d' ≠ d → s.timers d' = some id → s.threads id = some d'
  single : ∀ d' id, s.threads id = some d' → s.cancelled id = false →
    d' ≠ d ∧ s.timers d' = some id
  notLost : ∀ d' time, d' ≠ d → s.lastSeen d' = some time → s.timers d' = none →
    ArmFailed d' s.history

section Invariant

variable {s : DeviceTimers} {d : PyStr}

theorem isFloat_currentTimeout (floats : FloatArithmetic) (deviceTimeout : ℚ) (s : DeviceTimers)
    (d : PyStr) : floats.IsFloat (currentTimeout floats deviceTimeout s d) := by
  unfold currentTimeout effectiveDeviceTimeout
  rcases s.dataInterval d with - | minutes
  · exact floats.isFloat_round _
  · dsimp only
    split_ifs
    · exact floats.isFloat_max (floats.isFloat_round _) (floats.isFloat_round _)
    · exact floats.isFloat_round _

/-- Time is left exactly while the time that went by is shorter than the timeout. -/
theorem remaining_pos_iff (floats : FloatArithmetic) (deviceTimeout : ℚ) (s : DeviceTimers)
    (d : PyStr) (time : ℚ) :
    0 < floats.round (currentTimeout floats deviceTimeout s d - elapsed floats s time) ↔
      elapsed floats s time < currentTimeout floats deviceTimeout s d :=
  floats.round_sub_pos_iff (isFloat_currentTimeout floats deviceTimeout s d)
    (floats.isFloat_round _)

theorem mem_emit {e e' : TimeoutEvent} : e' ∈ (s.emit e).history ↔ e' ∈ s.history ∨ e' = e := by
  show e' ∈ s.history ++ [e] ↔ _
  rw [List.mem_append, List.mem_singleton]

/-- Events that are no activity change nothing that is on record. -/
theorem Recorded.emit (h : Recorded s) {e : TimeoutEvent} (he : ∀ d time, e ≠ .activity d time) :
    Recorded (s.emit e) where
  fresh := h.fresh
  seen d time hseen t ht := by
    rcases mem_emit.mp ht with ht | ht
    · exact h.seen d time hseen t ht
    · exact absurd ht.symm (he d t)
  past d t ht := by
    rcases mem_emit.mp ht with ht | ht
    · exact h.past d t ht
    · exact absurd ht.symm (he d t)

/-- Whether arming failed for a device is not touched by other events. -/
theorem armFailed_emit {e : TimeoutEvent} (he : e.armResult d = none) :
    ArmFailed d (s.emit e).history ↔ ArmFailed d s.history := by
  show latest _ (s.history ++ [e]) = _ ↔ _
  rw [latest_concat_of_none _ he]
  exact Iff.rfl

/-- A device without a timer has no thread. -/
theorem Timed.detached (h : Timed s) (hs : s.stopped = false) (hd : s.timers d = none) :
    TimedBut d s where
  toRecorded := h.toRecorded
  running := hs
  current d' id _ := h.current d' id
  single d' id hthread hcancelled := by
    have hcurrent := h.single d' id hthread hcancelled
    refine ⟨?_, hcurrent⟩
    rintro rfl
    rw [hd] at hcurrent
    cases hcurrent
  notLost d' time _ := h.notLost d' time

/-- A device whose thread ends. -/
theorem Timed.detach (h : Timed s) (hs : s.stopped = false) {id : ℕ}
    (hd : s.timers d = some id) : TimedBut d (s.setThread id none) where
  fresh id' hid := by
    refine ⟨?_, (h.fresh id' hid).2⟩
    show Function.update s.threads id none id' = none
    by_cases hne : id' = id
    · subst hne
      exact Function.update_self _ _ _
    · rw [Function.update_of_ne hne]
      exact (h.fresh id' hid).1
  seen := h.seen
  past := h.past
  running := hs
  current d' id' hne hcurrent := by
    have hthread := h.current d' id' hcurrent
    have hid : id' ≠ id := by
      rintro rfl
      rw [h.current d id' hd] at hthread
      exact hne (Option.some.inj hthread).symm
    show Function.update s.threads id none id' = _
    rw [Function.update_of_ne hid]
    exact hthread
  single d' id' hthread hcancelled := by
    have hupdate : Function.update s.threads id none id' = some d' := hthread
    by_cases hid : id' = id
    · subst hid
      rw [Function.update_self] at hupdate
      cases hupdate
    · rw [Function.update_of_ne hid] at hupdate
      have hcurrent := h.single d' id' hupdate hcancelled
      refine ⟨?_, hcurrent⟩
      rintro rfl
      rw [hd] at hcurrent
      exact hid (Option.some.inj hcurrent).symm
  notLost d' time _ := h.notLost d' time

/-- Without the timer of the device, the timers that are left are threads, -/
theorem TimedBut.current_dropped (h : TimedBut d s) (d' : PyStr) (id : ℕ)
    (hcurrent : Function.update s.timers d none d' = some id) : s.threads id = some d' := by
  by_cases hne : d' = d
  · subst hne
    rw [Function.update_self] at hcurrent
    cases hcurrent
  · rw [Function.update_of_ne hne] at hcurrent
    exact h.current d' id hne hcurrent

/-- and the threads that were not cancelled are timers. -/
theorem TimedBut.single_dropped (h : TimedBut d s) (d' : PyStr) (id : ℕ)
    (hthread : s.threads id = some d') (hcancelled : s.cancelled id = false) :
    Function.update s.timers d none d' = some id := by
  obtain ⟨hne, hcurrent⟩ := h.single d' id hthread hcancelled
  rw [Function.update_of_ne hne]
  exact hcurrent

/-- Dropping the timer of a device that is not seen. -/
theorem TimedBut.drop (h : TimedBut d s) (hd : s.lastSeen d = none) :
    Timed (s.setTimer d none) where
  fresh := h.fresh
  seen := h.seen
  past := h.past
  current := h.current_dropped
  single := h.single_dropped
  notLost d' time hseen hnone := by
    have hne : d' ≠ d := by
      rintro rfl
      rw [show s.lastSeen d' = some time from hseen] at hd
      cases hd
    exact h.notLost d' time hne hseen ((Function.update_of_ne hne _ _).symm.trans hnone)
  stopped hs := absurd (h.running.symm.trans hs) Bool.false_ne_true

theorem armResult_of_ne {d' : PyStr} (hne : d' ≠ d) :
    (∀ delay, (TimeoutEvent.armed d delay).armResult d' = none) ∧
      (TimeoutEvent.armFailed d).armResult d' = none :=
  ⟨fun _ => if_neg hne.symm, if_neg hne.symm⟩

/-- No timer could be armed. -/
theorem TimedBut.arm_failed (h : TimedBut d s) (delay : ℚ) :
    Timed (armTimeout s d delay false) where
  toRecorded := by
    have hrecorded : Recorded (s.setTimer d none) := ⟨h.fresh, h.seen, h.past⟩
    exact hrecorded.emit nofun
  current := h.current_dropped
  single := h.single_dropped
  notLost d' time hseen hnone := by
    by_cases hne : d' = d
    · subst hne
      exact latest_concat_of_some _ (if_pos rfl)
    · apply (armFailed_emit (armResult_of_ne hne).2).mpr
      exact h.notLost d' time hne hseen ((Function.update_of_ne hne _ _).symm.trans hnone)
  stopped hs := absurd (h.running.symm.trans hs) Bool.false_ne_true

/-- A new timer has the number that no thread had before. -/
theorem TimedBut.arm_started (h : TimedBut d s) (delay : ℚ) :
    Timed (armTimeout s d delay true) ∧
      (armTimeout s d delay true).timers d = some s.timersCreated := by
  have htimers : ∀ d', (armTimeout s d delay true).timers d' =
      if d' = d then some s.timersCreated else s.timers d' := by
    intro d'
    show Function.update (Function.update s.timers d none) d (some s.timersCreated) d' = _
    rw [Function.update_idem, Function.update_apply]
  have hthreads : ∀ id, (armTimeout s d delay true).threads id =
      if id = s.timersCreated then some d else s.threads id := fun id =>
    Function.update_apply _ _ _ _
  have hfresh : ∀ id, s.timersCreated + 1 ≤ id →
      (armTimeout s d delay true).threads id = none ∧ s.cancelled id = false := by
    intro id hid
    have hold : s.timersCreated ≤ id := Nat.le_of_succ_le hid
    exact ⟨(hthreads id).trans ((if_neg (Nat.ne_of_gt hid)).trans (h.fresh id hold).1),
      (h.fresh id hold).2⟩
  have hrecorded : Recorded { (s.setTimer d none).setTimer d (some s.timersCreated) with
      threads := (armTimeout s d delay true).threads
      timersCreated := s.timersCreated + 1 } := ⟨hfresh, h.seen, h.past⟩
  refine ⟨⟨hrecorded.emit nofun, ?_, ?_, ?_, ?_⟩, ?_⟩
  · intro d' id hcurrent
    rw [htimers] at hcurrent
    rw [hthreads]
    split_ifs at hcurrent with hd
    · rw [if_pos (Option.some.inj hcurrent).symm, hd]
    · have hthread := h.current d' id hd hcurrent
      have hid : id ≠ s.timersCreated := by
        rintro rfl
        rw [(h.fresh _ (le_refl _)).1] at hthread
        cases hthread
      rw [if_neg hid, hthread]
  · intro d' id hthread hcancelled
    rw [hthreads] at hthread
    rw [htimers]
    split_ifs at hthread with hid
    · rw [if_pos (Option.some.inj hthread).symm, hid]
    · obtain ⟨hne, hcurrent⟩ := h.single d' id hthread hcancelled
      rw [if_neg hne, hcurrent]
  · intro d' time hseen hnone
    rw [htimers] at hnone
    split_ifs at hnone with hd
    exact (armFailed_emit ((armResult_of_ne hd).1 delay)).mpr (h.notLost d' time hd hseen hnone)
  · intro hs
    exact absurd (h.running.symm.trans hs) Bool.false_ne_true
  · rw [htimers, if_pos rfl]

theorem TimedBut.arm (h : TimedBut d s) (delay : ℚ) (started : Bool) :
    Timed (armTimeout s d delay started) := by
  cases started with
  | false => exact h.arm_failed delay
  | true => exact (h.arm_started delay).1

/-- Activity is recorded. -/
theorem Recorded.activity (h : Recorded s) (d : PyStr) :
    Recorded ((s.setLastSeen d (some s.now)).emit (.activity d s.now)) where
  fresh := h.fresh
  seen d' time hseen t ht := by
    have hupdate : Function.update s.lastSeen d (some s.now) d' = some time := hseen
    by_cases hne : d' = d
    · subst hne
      rw [Function.update_self] at hupdate
      obtain rfl := Option.some.inj hupdate
      rcases mem_emit.mp ht with ht | ht
      · exact h.past d' t ht
      · exact le_of_eq (TimeoutEvent.activity.inj ht).2
    · rw [Function.update_of_ne hne] at hupdate
      rcases mem_emit.mp ht with ht | ht
      · exact h.seen d' time hupdate t ht
      · exact absurd (TimeoutEvent.activity.inj ht).1 hne
  past d' t ht := by
    rcases mem_emit.mp ht with ht | ht
    · exact h.past d' t ht
    · exact le_of_eq (TimeoutEvent.activity.inj ht).2

/-- What activity finds: a timer, or none and no thread either. -/
theorem Timed.resetDeviceTimer_cases (h : Timed s) (floats : FloatArithmetic) (deviceTimeout : ℚ)
    (d : PyStr) :
    let s' := (s.setLastSeen d (some s.now)).emit (.activity d s.now)
    let timeout := currentTimeout floats deviceTimeout s d
    ((s.stopped = true ∨ deviceTimeout ≤ 0) ∧
      ∀ started, resetDeviceTimer floats deviceTimeout s d started = s) ∨
    (∃ id, s.timers d = some id ∧ s.threads id = some d ∧
      Timed s' ∧ ∀ started, resetDeviceTimer floats deviceTimeout s d started = s') ∨
    (s.timers d = none ∧ TimedBut d s' ∧
      ∀ started, resetDeviceTimer floats deviceTimeout s d started =
        armTimeout s' d timeout started) := by
  intro s' timeout
  by_cases hoff : s.stopped = true ∨ deviceTimeout ≤ 0
  · exact Or.inl ⟨hoff, fun _ => if_pos hoff⟩
  have hunfold : ∀ started, resetDeviceTimer floats deviceTimeout s d started =
      match s.timers d with
      | some id => if (s.threads id).isSome then s' else armTimeout s' d timeout started
      | none => armTimeout s' d timeout started := fun started => if_neg hoff
  have hs : s.stopped = false := Bool.eq_false_iff.mpr fun hs => hoff (Or.inl hs)
  have hrecorded := h.toRecorded.activity d
  have hother : ∀ d' time, d' ≠ d → s'.lastSeen d' = some time → s'.timers d' = none →
      ArmFailed d' s'.history := by
    intro d' time hne hseen hnone
    apply (armFailed_emit rfl).mpr
    exact h.notLost d' time ((Function.update_of_ne hne _ _).symm.trans hseen) hnone
  rcases htimer : s.timers d with - | id
  · refine Or.inr (Or.inr ⟨rfl, ?_, fun started => ?_⟩)
    · have hdetached := h.detached hs htimer
      exact ⟨hrecorded, hs, hdetached.current, hdetached.single, hother⟩
    · rw [hunfold, htimer]
  · have hthread := h.current d id htimer
    refine Or.inr (Or.inl ⟨id, rfl, hthread, ?_, fun started => ?_⟩)
    · refine ⟨hrecorded, h.current, h.single, ?_, h.stopped⟩
      intro d' time hseen hnone
      have hne : d' ≠ d := by
        rintro rfl
        cases htimer.symm.trans hnone
      exact hother d' time hne hseen hnone
    · rw [hunfold, htimer]
      exact if_pos (by rw [hthread]; rfl)

theorem Timed.resetDeviceTimer (h : Timed s) (floats : FloatArithmetic) (deviceTimeout : ℚ)
    (d : PyStr) (started : Bool) :
    Timed (resetDeviceTimer floats deviceTimeout s d started) := by
  rcases h.resetDeviceTimer_cases floats deviceTimeout d with
    ⟨-, hstep⟩ | ⟨-, -, -, htimed, hstep⟩ | ⟨-, hbut, hstep⟩
  · rw [hstep]
    exact h
  · rw [hstep]
    exact htimed
  · rw [hstep]
    exact hbut.arm _ started

/-- A thread that is not the timer of its device ends. -/
theorem Timed.end_stale (h : Timed s) {id : ℕ}
    (hstale : ∀ d, s.threads id = some d → s.timers d ≠ some id) : Timed (s.setThread id none) where
  fresh id' hid := by
    refine ⟨?_, (h.fresh id' hid).2⟩
    show Function.update s.threads id none id' = none
    rw [Function.update_apply, (h.fresh id' hid).1, ite_self]
  seen := h.seen
  past := h.past
  current d id' hcurrent := by
    have hthread := h.current d id' hcurrent
    have hid : id' ≠ id := by
      rintro rfl
      exact hstale d hthread hcurrent
    exact (Function.update_of_ne hid _ _).trans hthread
  single d id' hthread hcancelled := by
    have hupdate : Function.update s.threads id none id' = some d := hthread
    rw [Function.update_apply] at hupdate
    split_ifs at hupdate
    exact h.single d id' hupdate hcancelled
  notLost := h.notLost
  stopped := h.stopped

/-- What a firing does: nothing more if its timer is stale, else it drops the timer, arms
another one, or publishes the device as offline. -/
theorem Timed.timerFires_cases (h : Timed s) (floats : FloatArithmetic) (deviceTimeout : ℚ)
    (id : ℕ) :
    let s' := s.setThread id none
    ((∀ d, s.threads id = some d → s.timers d ≠ some id) ∧
      ∀ started, timerFires floats deviceTimeout s id started = s') ∨
    ∃ d, (s.threads id = some d ∧ s.timers d = some id) ∧ TimedBut d s' ∧
      ((s.lastSeen d = none ∧
        ∀ started, timerFires floats deviceTimeout s id started = s'.setTimer d none) ∨
      ∃ time, s.lastSeen d = some time ∧
        let timeout := currentTimeout floats deviceTimeout s d
        let age := elapsed floats s time
        ((age < timeout ∧ ∀ started, timerFires floats deviceTimeout s id started =
          armTimeout s' d (floats.round (timeout - age)) started) ∨
        (timeout ≤ age ∧ ∀ started, timerFires floats deviceTimeout s id started =
          ((s'.setTimer d none).setLastSeen d none).emit (.offline d)))) := by
  intro s'
  rcases hthread : s.threads id with - | d
  · refine Or.inl ⟨nofun, fun started => ?_⟩
    have hself : s' = s := by
      show { s with threads := Function.update s.threads id none } = s
      rw [← hthread, Function.update_eq_self]
    rw [timerFires, hthread, hself]
  have hunfold : ∀ started, timerFires floats deviceTimeout s id started =
      if s.timers d = some id then checkDeviceTimeout floats deviceTimeout s' d started else s' := by
    intro started
    rw [timerFires, hthread]
    rfl
  by_cases hcurrent : s.timers d = some id
  · have hs : s.stopped = false := by
      apply Bool.eq_false_iff.mpr
      intro hs
      rw [h.stopped hs d] at hcurrent
      cases hcurrent
    have hcheck : ∀ started, timerFires floats deviceTimeout s id started =
        match s.lastSeen d with
        | none => s'.setTimer d none
        | some lastSeen =>
            let timeout := currentTimeout floats deviceTimeout s d
            let remaining := floats.round (timeout - elapsed floats s lastSeen)
            if 0 < remaining then armTimeout s' d remaining started
            else ((s'.setTimer d none).setLastSeen d none).emit (.offline d) := by
      intro started
      rw [hunfold, if_pos hcurrent, checkDeviceTimeout]
      exact if_neg (Bool.eq_false_iff.mp hs)
    refine Or.inr ⟨d, ⟨rfl, hcurrent⟩, h.detach hs hcurrent, ?_⟩
    rcases hseen : s.lastSeen d with - | time
    · refine Or.inl ⟨rfl, fun started => ?_⟩
      rw [hcheck, hseen]
    · have hleft := remaining_pos_iff floats deviceTimeout s d time
      refine Or.inr ⟨time, rfl, ?_⟩
      rcases lt_or_ge (elapsed floats s time) (currentTimeout floats deviceTimeout s d) with
        hyoung | hold
      · refine Or.inl ⟨hyoung, fun started => ?_⟩
        rw [hcheck, hseen]
        exact if_pos (hleft.mpr hyoung)
      · refine Or.inr ⟨hold, fun started => ?_⟩
        rw [hcheck, hseen]
        exact if_neg (mt hleft.mp (not_lt.mpr hold))
  · refine Or.inl ⟨fun d' hd' => ?_, fun started => ?_⟩
    · obtain rfl := Option.some.inj hd'
      exact hcurrent
    · rw [hunfold, if_neg hcurrent]

/-- A device that is published as offline is not seen any more. -/
theorem TimedBut.goes_offline (h : TimedBut d s) :
    Timed (((s.setTimer d none).setLastSeen d none).emit (.offline d)) := by
  have hforgotten : TimedBut d (s.setLastSeen d none) := by
    refine ⟨⟨h.fresh, ?_, h.past⟩, h.running, h.current, h.single, ?_⟩
    · intro d' time hseen
      have hupdate : Function.update s.lastSeen d none d' = some time := hseen
      rw [Function.update_apply] at hupdate
      split_ifs at hupdate
      exact h.seen d' time hupdate
    · intro d' time hne hseen
      exact h.notLost d' time hne ((Function.update_of_ne hne _ _).symm.trans hseen)
  have hdropped := hforgotten.drop (Function.update_self _ _ _)
  refine ⟨hdropped.toRecorded.emit nofun, hdropped.current, hdropped.single, ?_, hdropped.stopped⟩
  intro d' time hseen hnone
  exact (armFailed_emit rfl).mpr (hdropped.notLost d' time hseen hnone)

theorem Timed.timerFires (h : Timed s) (floats : FloatArithmetic) (deviceTimeout : ℚ) (id : ℕ)
    (started : Bool) : Timed (timerFires floats deviceTimeout s id started) := by
  rcases h.timerFires_cases floats deviceTimeout id with
    ⟨hstale, hstep⟩ | ⟨d, -, hbut, ⟨hseen, hstep⟩ | ⟨time, -, ⟨-, hstep⟩ | ⟨-, hstep⟩⟩⟩
  · rw [hstep]
    exact h.end_stale hstale
  · rw [hstep]
    exact hbut.drop hseen
  · rw [hstep]
    exact hbut.arm _ started
  · rw [hstep]
    exact hbut.goes_offline

/-- `stop` cancels every timer that is some device's. -/
theorem Timed.stopTimers (h : Timed s) : Timed (stopTimers s) where
  fresh id hid := by
    obtain ⟨hthread, hcancelled⟩ := h.fresh id hid
    refine ⟨hthread, ?_⟩
    show (s.cancelled id || (s.threads id).any _) = false
    rw [hthread, hcancelled]
    rfl
  seen _ _ hseen := nomatch hseen
  past := h.past
  current _ _ hcurrent := nomatch hcurrent
  single d id hthread hcancelled := by
    have hthread' : s.threads id = some d := hthread
    have hboth : (s.cancelled id || (s.threads id).any fun d => s.timers d = some id) = false :=
      hcancelled
    obtain ⟨hold, hnew⟩ := Bool.or_eq_false_iff.mp hboth
    rw [hthread', Option.any_some] at hnew
    exact absurd (h.single d id hthread' hold) (of_decide_eq_false hnew)
  notLost _ _ hseen := nomatch hseen
  stopped _ _ := rfl

theorem Timed.step (h : Timed s) (floats : FloatArithmetic) (deviceTimeout : ℚ)
    (a : TimeoutAction) : Timed (timeoutStep floats deviceTimeout s a) := by
  cases a with
  | tick time =>
      exact ⟨⟨h.fresh, h.seen, fun d t ht => le_trans (h.past d t ht) (le_max_left _ _)⟩,
        h.current, h.single, h.notLost, h.stopped⟩
  | activity d started => exact h.resetDeviceTimer floats deviceTimeout d started
  | fires id started => exact h.timerFires floats deviceTimeout id started
  | setInterval d interval =>
      exact ⟨⟨h.fresh, h.seen, h.past⟩, h.current, h.single, h.notLost, h.stopped⟩
  | stop => exact h.stopTimers
  | start => exact ⟨⟨h.fresh, h.seen, h.past⟩, h.current, h.single, h.notLost, nofun⟩

/-- An event that is no other's last. -/
theorem eq_of_history_eq {e e' : TimeoutEvent} {h : List TimeoutEvent}
    (he : h ++ [e] = h ++ [e']) : e = e' := List.singleton_inj.mp (List.append_cancel_left he)

/-- Only the last kind of firing publishes, and it finds no activity that is recent. -/
theorem Timed.not_early (h : Timed s) {floats : FloatArithmetic} {deviceTimeout : ℚ} {id : ℕ}
    {started : Bool}
    (hoffline : (GroBro.timerFires floats deviceTimeout s id started).history =
      s.history ++ [.offline d]) {time : ℚ} (htime : .activity d time ∈ s.history) :
    currentTimeout floats deviceTimeout s d ≤ elapsed floats s time := by
  rcases h.timerFires_cases floats deviceTimeout id with
    ⟨-, hstep⟩ | ⟨d', -, -, ⟨-, hstep⟩ | ⟨last, hseen, ⟨-, hstep⟩ | ⟨htimeout, hstep⟩⟩⟩
  · rw [hstep] at hoffline
    exact absurd hoffline.symm (by simp [DeviceTimers.setThread])
  · rw [hstep] at hoffline
    exact absurd hoffline.symm (by simp [DeviceTimers.setThread, DeviceTimers.setTimer])
  · rw [hstep] at hoffline
    cases started with
    | false => cases eq_of_history_eq hoffline
    | true => cases eq_of_history_eq hoffline
  · rw [hstep] at hoffline
    obtain rfl := TimeoutEvent.offline.inj (eq_of_history_eq hoffline)
    -- the activity that was seen last is the youngest, and rounding keeps the order
    have hlast : time ≤ last := h.seen d' last hseen time htime
    exact htimeout.trans (floats.monotone_round (sub_le_sub_left hlast _))

/-- What the timer of a device that was seen does: it is the one that fires. -/
theorem Timed.fires_current (h : Timed s) (floats : FloatArithmetic) (deviceTimeout : ℚ) {id : ℕ}
    {time : ℚ} (htimer : s.timers d = some id) (hseen : s.lastSeen d = some time) :
    let s' := s.setThread id none
    let timeout := currentTimeout floats deviceTimeout s d
    let age := elapsed floats s time
    (age < timeout ∧ ∀ started, GroBro.timerFires floats deviceTimeout s id started =
      armTimeout s' d (floats.round (timeout - age)) started) ∨
    (timeout ≤ age ∧ ∀ started, GroBro.timerFires floats deviceTimeout s id started =
      ((s'.setTimer d none).setLastSeen d none).emit (.offline d)) := by
  have hthread := h.current d id htimer
  rcases h.timerFires_cases floats deviceTimeout id with
    ⟨hstale, -⟩ | ⟨d', ⟨hthread', -⟩, -, ⟨hnone, -⟩ | ⟨last, hlast, hfires⟩⟩
  · exact absurd htimer (hstale d hthread)
  · obtain rfl := Option.some.inj (hthread.symm.trans hthread')
    cases hseen.symm.trans hnone
  · obtain rfl := Option.some.inj (hthread.symm.trans hthread')
    obtain rfl := Option.some.inj (hseen.symm.trans hlast)
    exact hfires

theorem Timed.exact (h : Timed s) (floats : FloatArithmetic) (deviceTimeout : ℚ) :
    TimeoutsExact floats deviceTimeout s where
  notEarly _ _ _ hoffline _ htime := h.not_early hoffline htime
  comes id started d time htimer hseen hover := by
    rcases h.fires_current floats deviceTimeout htimer hseen with ⟨hleft, -⟩ | ⟨-, hstep⟩
    · exact absurd hover (not_le.mpr hleft)
    · rw [hstep]
      rfl
  again id started d time htimer hseen hleft := by
    rcases h.fires_current floats deviceTimeout htimer hseen with ⟨-, hstep⟩ | ⟨hover, -⟩
    · exact hstep started
    · exact absurd hover (not_le.mpr hleft)
  current := h.current
  single := h.single
  notLost d time hseen := by
    rcases htimer : s.timers d with - | id
    · exact Or.inr ⟨rfl, h.notLost d time hseen htimer⟩
    · exact Or.inl ⟨id, rfl⟩
  rearmed d hs hpos := by
    rcases h.resetDeviceTimer_cases floats deviceTimeout d with
      ⟨hoff, -⟩ | ⟨id, htimer, hthread, -, hstep⟩ | ⟨-, hbut, hstep⟩
    · rcases hoff with hstopped | hnone
      · rw [hs] at hstopped
        cases hstopped
      · exact absurd hpos (not_lt.mpr hnone)
    · rw [hstep]
      exact ⟨id, htimer, hthread⟩
    · obtain ⟨harmed, htimer⟩ := hbut.arm_started (currentTimeout floats deviceTimeout s d)
      rw [hstep]
      exact ⟨_, htimer, harmed.current d _ htimer⟩
  stale id started hstale := by
    rcases h.timerFires_cases floats deviceTimeout id with ⟨-, hstep⟩ | ⟨d, ⟨hthread, hcurrent⟩, -⟩
    · exact hstep started
    · exact absurd hcurrent (hstale d hthread)

end Invariant

/-! ### Runs -/

end GroBro
