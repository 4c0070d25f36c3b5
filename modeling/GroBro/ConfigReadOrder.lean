/-
GroBro/ConfigReadOrder.lean

The sequencer of the config reads over every interleaving.  Each row of the
client's tables is in one of three states, and the monitor of its history is in the
phase of that state (`Represents`).  Every operation keeps this for all devices
(`Fits`); in the middle of a step one device can be between two reads (`Open`) or
claimed by a Read All press.

From it, after every step, a device that is active has exactly one timer that will
go on with it (`config_reads_never_stuck`), and each sequence reads the registers
of its device once and in order (`config_reads_in_order`).
-/
import GroBro.ConfigReads

namespace GroBro

open Sequencer Machine

namespace ConfigReads

variable {s : ConfigReads} {d d' : PyStr} {f : DeviceReads → DeviceReads} {e : ReadEvent}

@[simp] theorem devices_modify :
    (s.modify d f).devices = Function.update s.devices d (f (s.devices d)) := rfl

@[simp] theorem devices_emit : (s.emit e).devices = s.devices := rfl

@[simp] theorem history_modify : (s.modify d f).history = s.history := rfl

@[simp] theorem history_emit : (s.emit e).history = s.history ++ [e] := rfl

@[simp] theorem devices_armReadTimer (r : ℕ) : (s.armReadTimer d r).devices =
    Function.update s.devices d
      { s.devices d with readTimer := some ⟨s.timersCreated, r⟩ } := rfl

@[simp] theorem devices_armStartTimer : (s.armStartTimer d).devices =
    Function.update s.devices d { s.devices d with startTimer := some s.timersCreated } := rfl

@[simp] theorem history_armStartTimer : (s.armStartTimer d).history = s.history := rfl

end ConfigReads

/-! ### The invariant -/

/-- A row and the monitor of its device; the flag tells that a Read All press has
claimed the device and not yet queued its reads. -/
inductive Represents (setup : ReadsSetup) : Bool → DeviceReads → Option (Monitor ℕ) → Prop
  | idle (b : Bool) : Represents setup false ⟨none, none, none, none, false, b⟩ (some ⟨.idle, b⟩)
  /-- The start timer will send the first read. -/
  | waiting (queue : List ℕ) (id : ℕ) : setup.onConfigRead = true →
      Represents setup false ⟨some queue, none, none, some id, true, true⟩
        (some ⟨.ready queue, true⟩)
  /-- The answer or the read timer will send the next read. -/
  | reading (queue : List ℕ) (r id : ℕ) : setup.onConfigRead = true →
      Represents setup false ⟨some queue, some r, some ⟨id, r⟩, none, true, true⟩
        (some ⟨.reading r queue, true⟩)
  | claimed (b : Bool) : Represents setup true ⟨none, none, none, none, true, b⟩ (some ⟨.idle, b⟩)

/-- A sequence that starts has the config registers of its device. -/
def Genuine (setup : ReadsSetup) : ReadEvent → Prop
  | .started d _ items => ∃ holdingRegisters, setup.knownRegisters d = some (holdingRegisters, items)
  | _ => True

/-- All rows fit the history, where `claimed` is the device of a Read All press. -/
structure Fits (setup : ReadsSetup) (claimed : Option PyStr) (s : ConfigReads) : Prop where
  rows : ∀ d, Represents setup (decide (claimed = some d)) (s.devices d) (monitor d s.history)
  genuine : ∀ e ∈ s.history, Genuine setup e

/-- A device between two reads, all others as they should be. -/
structure Open (setup : ReadsSetup) (claimed : Option PyStr) (d : PyStr) (queue : List ℕ)
    (s : ConfigReads) : Prop where
  sends : setup.onConfigRead = true
  unclaimed : claimed ≠ some d
  row : ∃ startTimer, s.devices d = ⟨some queue, none, none, startTimer, true, true⟩
  phase : monitor d s.history = some ⟨.ready queue, true⟩
  others : ∀ d' ≠ d,
    Represents setup (decide (claimed = some d')) (s.devices d') (monitor d' s.history)
  genuine : ∀ e ∈ s.history, Genuine setup e

section Invariant

variable {setup : ReadsSetup} {claimed : Option PyStr} {s : ConfigReads} {d : PyStr}

theorem Represents.accepted {c : Bool} {row : DeviceReads} {m : Option (Monitor ℕ)}
    (h : Represents setup c row m) : ∃ m', m = some m' := by
  cases h <;> exact ⟨_, rfl⟩

/-- A row with a read in flight. -/
theorem Represents.of_inflight {c : Bool} {row : DeviceReads} {m : Option (Monitor ℕ)} {r : ℕ}
    (h : Represents setup c row m) (hr : row.inflight = some r) :
    c = false ∧ setup.onConfigRead = true ∧ ∃ queue id,
      row = ⟨some queue, some r, some ⟨id, r⟩, none, true, true⟩ ∧
        m = some ⟨.reading r queue, true⟩ := by
  cases h with
  | reading queue r' id hsends =>
      obtain rfl := Option.some.inj hr
      exact ⟨rfl, hsends, queue, id, rfl, rfl⟩
  | _ => cases hr

/-- A row with a start timer. -/
theorem Represents.of_startTimer {c : Bool} {row : DeviceReads} {m : Option (Monitor ℕ)} {id : ℕ}
    (h : Represents setup c row m) (hd : row.startTimer = some id) :
    setup.onConfigRead = true ∧ ∃ queue, row = ⟨some queue, none, none, some id, true, true⟩ ∧
      m = some ⟨.ready queue, true⟩ := by
  cases h with
  | waiting queue id' hsends =>
      obtain rfl := Option.some.inj hd
      exact ⟨hsends, queue, rfl, rfl⟩
  | _ => cases hd

/-- A row that is not active has nothing in the tables. -/
theorem Represents.of_not_active {c : Bool} {row : DeviceReads} {m : Option (Monitor ℕ)}
    (h : Represents setup c row m) (hd : row.active = false) :
    ∃ b, row = ⟨none, none, none, none, false, b⟩ ∧ m = some ⟨.idle, b⟩ := by
  cases h with
  | idle b => exact ⟨b, rfl, rfl⟩
  | _ => cases hd

/-- An active row that is not claimed has one of the timers. -/
theorem Represents.of_active {row : DeviceReads} {m : Option (Monitor ℕ)}
    (h : Represents setup false row m) (hd : row.active = true) :
    (∃ id, row.startTimer = some id) ∨ ∃ r id, row.inflight = some r ∧
      row.readTimer = some ⟨id, r⟩ := by
  cases h with
  | idle => cases hd
  | waiting queue id => exact Or.inl ⟨id, rfl⟩
  | reading queue r id => exact Or.inr ⟨r, id, rfl, rfl⟩

/-- Events about another device leave a row and its monitor together. -/
theorem Represents.emit {c : Bool} {row : DeviceReads} {history : List ReadEvent}
    (h : Represents setup c row (monitor d history)) {e : ReadEvent} (habout : e.about d = false) :
    Represents setup c row (monitor d (history ++ [e])) := by
  obtain ⟨m, hm⟩ := h.accepted
  rw [monitor_concat]
  rw [hm] at h ⊢
  rw [Option.bind_some, step_of_not_about habout]
  exact h

theorem genuine_emit {history : List ReadEvent} (h : ∀ e ∈ history, Genuine setup e) {e : ReadEvent}
    (he : Genuine setup e) : ∀ e' ∈ history ++ [e], Genuine setup e' := by
  intro e' he'
  rcases List.mem_append.mp he' with h' | h'
  · exact h e' h'
  · obtain rfl := List.mem_singleton.mp h'
    exact he

/-- An event about one device that comes with a new row for it. -/
theorem fits_of_update {s' : ConfigReads} (row : DeviceReads) {e : ReadEvent}
    (hothers : ∀ d' ≠ d,
      Represents setup (decide (claimed = some d')) (s.devices d') (monitor d' s.history))
    (hgenuine : ∀ e ∈ s.history, Genuine setup e)
    (hdevices : s'.devices = Function.update s.devices d row)
    (hhistory : s'.history = s.history ++ [e]) (habout : ∀ d' ≠ d, e.about d' = false)
    (he : Genuine setup e)
    (hrow : Represents setup (decide (claimed = some d)) row
      ((monitor d s.history).bind fun m => m.step d e)) : Fits setup claimed s' := by
  refine ⟨?_, ?_⟩
  · intro d'
    rw [hdevices, hhistory]
    rcases eq_or_ne d' d with rfl | hne
    · rw [Function.update_self, monitor_concat]
      exact hrow
    · rw [Function.update_of_ne hne]
      exact (hothers d' hne).emit (habout d' hne)
  · rw [hhistory]
    exact genuine_emit hgenuine he

/-- A cancelled device is idle. -/
theorem fits_cancel (hd : claimed ≠ some d)
    (hothers : ∀ d' ≠ d,
      Represents setup (decide (claimed = some d')) (s.devices d') (monitor d' s.history))
    (hgenuine : ∀ e ∈ s.history, Genuine setup e)
    (haccepted : ∃ m, monitor d s.history = some m) :
    Fits setup claimed (s.cancelConfigReadSequence d) := by
  refine fits_of_update .absent hothers hgenuine rfl rfl ?_ trivial ?_
  · intro d' hne
    exact decide_eq_false (Ne.symm hne)
  · obtain ⟨m, hm⟩ := haccepted
    rw [hm, Option.bind_some, Monitor.step, if_neg (not_not.mpr rfl), decide_eq_false hd]
    exact Represents.idle false

theorem Fits.cancel (h : Fits setup claimed s) (hd : claimed ≠ some d) :
    Fits setup claimed (s.cancelConfigReadSequence d) :=
  fits_cancel hd (fun d' _ => h.rows d') h.genuine (h.rows d).accepted

/-! ### Going on -/

theorem Open.cancel {queue : List ℕ} (h : Open setup claimed d queue s) {s' : ConfigReads}
    (row : DeviceReads) (hdevices : s'.devices = Function.update s.devices d row)
    (hhistory : s'.history = s.history) :
    Fits setup claimed (s'.cancelConfigReadSequence d) := by
  refine fits_cancel h.unclaimed ?_ ?_ ?_
  · intro d' hne
    rw [hdevices, hhistory, Function.update_of_ne hne]
    exact h.others d' hne
  · rw [hhistory]
    exact h.genuine
  · rw [hhistory]
    exact ⟨_, h.phase⟩

/-- A read that came back leaves its device between two reads. -/
theorem Fits.open {r : ℕ} (h : Fits setup claimed s)
    (hr : (s.devices d).inflight = some r) {e : ReadEvent} (he : e.Ends d r) :
    ∃ queue, Open setup claimed d queue
      ((s.modify d fun row => { row with readTimer := none, inflight := none }).emit e) := by
  have habout : ∀ d' ≠ d, e.about d' = false := by
    intro d' hne
    rcases he with rfl | rfl <;> exact decide_eq_false (Ne.symm hne)
  have hgenuine : Genuine setup e := by
    rcases he with rfl | rfl <;> trivial
  obtain ⟨hc, hsends, queue, id, hd, hm⟩ := (h.rows d).of_inflight hr
  refine ⟨queue, hsends, of_decide_eq_false hc, ⟨none, ?_⟩, ?_, ?_, ?_⟩
  · rw [ConfigReads.devices_emit, ConfigReads.devices_modify, Function.update_self, hd]
  · rw [ConfigReads.history_emit, ConfigReads.history_modify, monitor_concat, hm]
    rcases he with rfl | rfl <;> simp [Monitor.step, Phase.done]
  · intro d' hne
    rw [ConfigReads.devices_emit, ConfigReads.devices_modify, Function.update_of_ne hne]
    exact (h.rows d').emit (habout d' hne)
  · exact genuine_emit h.genuine hgenuine

/-- The next read, when the answers inside its send keep every device as it should be. -/
theorem Open.fits_kickoff {queue : List ℕ} (h : Open setup claimed d queue s)
    (hrunning : s.stopped = false) {nested : Responses}
    (hnested : ∀ t, Fits setup claimed t → Fits setup claimed (handleResponses setup t nested))
    (ready : Bool) (timer : TimerOutcome) (result : SendResult) :
    Fits setup claimed (kickoffNextConfigRead setup s d (.mk ready timer nested result)) := by
  obtain ⟨startTimer, hrow⟩ := h.row
  have habout : ∀ d' ≠ d, decide (d = d') = false := fun d' hne => decide_eq_false (Ne.symm hne)
  have hfree : decide (claimed = some d) = false := decide_eq_false h.unclaimed
  have hstart : (s.modify d fun row => { row with startTimer := none }).devices d =
      ⟨some queue, none, none, none, true, true⟩ := by
    rw [ConfigReads.devices_modify, Function.update_self, hrow]
  rw [kickoffNextConfigRead, if_neg (by rw [hrunning]; exact Bool.false_ne_true)]
  -- the source may have stopped being ready: then the sequence is cancelled
  by_cases hready : (setup.configReadsReady && !ready) = true
  · rw [if_pos hready]
    exact h.cancel _ (Function.update_eq_self d s.devices).symm rfl
  rw [if_neg hready]
  dsimp only
  rw [hstart, if_neg (by exact Bool.false_ne_true)]
  cases queue with
  | nil =>
      -- the sequence ends
      refine fits_of_update ⟨none, none, none, none, false, true⟩ (e := .finished d) h.others
        h.genuine ?_ rfl habout trivial ?_
      · rw [ConfigReads.devices_emit, ConfigReads.devices_modify, hstart,
          ConfigReads.devices_modify, Function.update_idem]
      · rw [h.phase, hfree, Option.bind_some, Monitor.step, if_neg (not_not.mpr rfl)]
        exact Represents.idle true
  | cons r queue =>
      cases timer with
      | fails caught =>
          -- the read is already in flight when its timer fails
          refine h.cancel ⟨some queue, some r, none, none, true, true⟩ ?_ rfl
          rw [ConfigReads.devices_modify, hstart, ConfigReads.devices_modify, Function.update_idem]
      | started =>
          dsimp only
          rw [if_pos h.sends]
          -- read and timer are in the tables before the send, so that answers inside it find
          -- every device as it should be
          have hissued : ∀ t : ConfigReads, t.devices = Function.update s.devices d
              ⟨some queue, some r, some ⟨s.timersCreated, r⟩, none, true, true⟩ →
              t.history = s.history ++ [.issued d r] → Fits setup claimed t := by
            intro t hdevices hhistory
            refine fits_of_update _ h.others h.genuine hdevices hhistory habout trivial ?_
            rw [h.phase, hfree, Option.bind_some, Monitor.step, if_neg (not_not.mpr rfl)]
            dsimp only
            rw [if_pos rfl]
            exact Represents.reading queue r s.timersCreated h.sends
          have hsent := hnested _ (hissued
            ((((s.modify d fun row => { row with startTimer := none }).modify d fun row =>
              { row with queue := some queue, inflight := some r }).armReadTimer d r).emit
                (.issued d r)) ?_ rfl)
          · cases result with
            -- a send that fails cancels whatever its answers have led to
            | accepted => exact hsent
            | rejected => exact hsent.cancel h.unclaimed
            | raises => exact hsent.cancel h.unclaimed
          · rw [ConfigReads.devices_emit, ConfigReads.devices_armReadTimer,
              ConfigReads.devices_modify, hstart, ConfigReads.devices_modify,
              Function.update_idem, Function.update_idem, Function.update_self]
            rfl

mutual

/-- **The next read keeps every device as it should be**, whatever answers arrive inside
the send. -/
theorem fits_kickoff {s : ConfigReads} {d : PyStr} {queue : List ℕ}
    (h : Open setup claimed d queue s) (hrunning : s.stopped = false) :
    (outcome : KickoffOutcome) → Fits setup claimed (kickoffNextConfigRead setup s d outcome)
  | .mk ready timer nested result =>
      h.fits_kickoff hrunning (fun _ ht => fits_handleResponses ht nested) ready timer result

/-- So do responses. -/
theorem fits_handleResponses {s : ConfigReads} (h : Fits setup claimed s) :
    (responses : Responses) → Fits setup claimed (handleResponses setup s responses)
  | .nil => h
  | .cons d r outcome rest => by
      rw [handleResponses]
      refine fits_handleResponses ?_ rest
      split_ifs with hstopped hr
      · exact h
      · obtain ⟨queue, hopen⟩ := h.open hr (Or.inl rfl)
        exact fits_kickoff hopen (Bool.not_eq_true _ ▸ hstopped) outcome
      · exact h

end

theorem Fits.handleConfigReadResponse (h : Fits setup claimed s) (d : PyStr) (r : ℕ)
    (outcome : KickoffOutcome) :
    Fits setup claimed (handleConfigReadResponse setup s d r outcome) :=
  fits_handleResponses h (.cons d r outcome .nil)

theorem Fits.configReadTimeout (h : Fits setup claimed s) (d : PyStr) (r : ℕ)
    (outcome : KickoffOutcome) : Fits setup claimed (configReadTimeout setup s d r outcome) := by
  unfold GroBro.configReadTimeout
  split_ifs with hstopped hr
  · exact h
  · obtain ⟨queue, hopen⟩ := h.open hr (Or.inr rfl)
    exact fits_kickoff hopen (Bool.not_eq_true _ ▸ hstopped) outcome
  · exact h

/-- A device whose start timer is current is between two reads. -/
theorem Fits.open_of_startTimer (h : Fits setup none s) {id : ℕ}
    (hd : (s.devices d).startTimer = some id) :
    ∃ queue, s.devices d = ⟨some queue, none, none, some id, true, true⟩ ∧
      Open setup none d queue s := by
  obtain ⟨hsends, queue, hrow, hm⟩ := (h.rows d).of_startTimer hd
  exact ⟨queue, hrow, hsends, nofun, ⟨some id, hrow⟩, hm, fun d' _ => h.rows d', h.genuine⟩

theorem Fits.startTimerFires (h : Fits setup none s) {id : ℕ}
    (hd : (s.devices d).startTimer = some id) (outcome : KickoffOutcome) :
    Fits setup none (kickoffNextConfigRead setup s d outcome) := by
  by_cases hstopped : s.stopped = true
  · obtain ⟨ready, timer, nested, result⟩ := outcome
    rw [kickoffNextConfigRead, if_pos hstopped]
    exact h
  · obtain ⟨queue, -, hopen⟩ := h.open_of_startTimer hd
    exact fits_kickoff hopen (Bool.not_eq_true _ ▸ hstopped) outcome

/-! ### Starting -/

/-- A change of one row without an event. -/
theorem fits_modify {claimed' : Option PyStr} (h : Fits setup claimed s)
    (hclaimed : ∀ d' ≠ d, (claimed' = some d' ↔ claimed = some d'))
    {f : DeviceReads → DeviceReads}
    (hrow : Represents setup (decide (claimed' = some d)) (f (s.devices d)) (monitor d s.history)) :
    Fits setup claimed' (s.modify d f) := by
  refine ⟨fun d' => ?_, h.genuine⟩
  rw [ConfigReads.devices_modify, ConfigReads.history_modify]
  rcases eq_or_ne d' d with rfl | hne
  · rw [Function.update_self]
    exact hrow
  · rw [Function.update_of_ne hne, decide_eq_decide.mpr (hclaimed d' hne)]
    exact h.rows d'

/-- A queued device waits for its start timer. -/
theorem Open.arm {queue : List ℕ} (h : Open setup none d queue s)
    (hrow : s.devices d = ⟨some queue, none, none, none, true, true⟩) :
    Fits setup none (s.armStartTimer d) := by
  refine ⟨fun d' => ?_, h.genuine⟩
  rw [ConfigReads.devices_armStartTimer, ConfigReads.history_armStartTimer]
  rcases eq_or_ne d' d with rfl | hne
  · rw [Function.update_self, hrow, h.phase]
    exact Represents.waiting queue s.timersCreated h.sends
  · rw [Function.update_of_ne hne]
    exact h.others d' hne

theorem Fits.queueAll (h : Fits setup none s) (d : PyStr) (auto : Bool)
    (hauto : auto = true → (s.devices d).refreshStarted = false) (ready : Bool)
    (timer : TimerOutcome) :
    Fits setup none (queueAllConfigReads setup s d auto ready timer).1 := by
  unfold queueAllConfigReads
  rcases hknown : setup.knownRegisters d with - | ⟨holdingRegisters, configRegisters⟩
  · exact h
  dsimp only
  split_ifs with hsends hready hbusy hqueue
  · exact h
  · exact h
  · exact h
  · exact h
  rw [Bool.or_eq_true, not_or, Bool.not_eq_true, Bool.not_eq_true] at hsends hbusy
  -- the guards leave a device with nothing in the tables
  obtain ⟨b, hrow, hphase⟩ := (h.rows d).of_not_active hbusy.1
  have hopen : Open setup none d configRegisters ((s.modify d fun row =>
      { row with queue := some configRegisters, active := true, refreshStarted := true }).emit
        (.started d auto configRegisters)) := by
    refine ⟨by simpa using hsends.1, nofun, ⟨none, ?_⟩, ?_, ?_, ?_⟩
    · rw [ConfigReads.devices_emit, ConfigReads.devices_modify, Function.update_self, hrow]
    · rw [ConfigReads.history_emit, ConfigReads.history_modify, monitor_concat, hphase,
        Option.bind_some, Monitor.step, if_neg (not_not.mpr rfl)]
      dsimp only
      -- a refresh comes only where no sequence was started before
      rw [if_neg]
      rw [Bool.and_eq_true]
      rintro ⟨ha, rfl⟩
      have hnot := hauto ha
      rw [hrow] at hnot
      cases hnot
    · intro d' hne
      have habout : (.started d auto configRegisters : ReadEvent).about d' = false :=
        decide_eq_false (Ne.symm hne)
      rw [ConfigReads.devices_emit, ConfigReads.devices_modify, Function.update_of_ne hne]
      exact (h.rows d').emit habout
    · exact genuine_emit h.genuine ⟨holdingRegisters, hknown⟩
  cases timer with
  | started =>
      refine hopen.arm ?_
      rw [ConfigReads.devices_emit, ConfigReads.devices_modify, Function.update_self, hrow]
  | fails caught => exact hopen.cancel _ (Function.update_eq_self d _).symm rfl

/-- Where nothing is queued nothing has changed. -/
theorem queueAllConfigReads_returned_false {auto ready : Bool} {timer : TimerOutcome}
    {t : ConfigReads} (h : queueAllConfigReads setup s d auto ready timer = (t, .returned false)) :
    t = s := by
  unfold queueAllConfigReads at h
  rcases hknown : setup.knownRegisters d with - | ⟨holdingRegisters, configRegisters⟩
  · rw [hknown] at h
    exact (Prod.mk.inj h).1.symm
  rw [hknown] at h
  dsimp only at h
  split_ifs at h
  · exact (Prod.mk.inj h).1.symm
  · exact (Prod.mk.inj h).1.symm
  · exact (Prod.mk.inj h).1.symm
  · exact (Prod.mk.inj h).1.symm
  · cases timer with
    | started => cases (Prod.mk.inj h).2
    | fails caught => cases (Prod.mk.inj h).2

theorem Fits.refresh (h : Fits setup none s) (d : PyStr) (outcome : RefreshOutcome) :
    Fits setup none (refreshConfigIfNeeded setup s d outcome).1 := by
  unfold refreshConfigIfNeeded
  split_ifs with hneeded
  · rw [Bool.and_eq_true, Bool.not_eq_true'] at hneeded
    have hqueued := h.queueAll d true (fun _ => hneeded.2) outcome.ready outcome.timer
    split
    · rename_i t hq
      rwa [hq] at hqueued
    · rename_i t r hq hcaught
      rwa [hcaught] at hqueued
  · exact h

theorem Fits.refreshAll (h : Fits setup none s) (devices : List (PyStr × RefreshOutcome)) :
    Fits setup none (refreshAll setup s devices) := by
  induction devices generalizing s with
  | nil => exact h
  | cons device devices ih =>
      obtain ⟨d, outcome⟩ := device
      have hrefreshed := h.refresh d outcome
      unfold GroBro.refreshAll
      dsimp only
      split_ifs
      · exact hrefreshed
      · exact ih hrefreshed

/-- A reset drops everything. -/
theorem Fits.reset (h : Fits setup claimed s) : Fits setup none s.resetConfigReadState := by
  refine ⟨fun d => ?_, genuine_emit h.genuine trivial⟩
  obtain ⟨m, hm⟩ := (h.rows d).accepted
  show Represents setup false .absent (monitor d (s.history ++ [.reset]))
  rw [monitor_concat, hm]
  exact Represents.idle false

theorem Fits.resetAndRefresh (h : Fits setup none s) (devices : List (PyStr × RefreshOutcome)) :
    Fits setup none (resetAndRefresh setup s devices) := by
  unfold GroBro.resetAndRefresh
  split_ifs
  · exact h
  · exact h.reset.refreshAll devices

section ReadAll

variable [PyUnicode]

theorem Fits.readHoldingRegisters (h : Fits setup claimed s) (names : List PyStr)
    (outcomes : List CommandOutcome) :
    Fits setup claimed (readHoldingRegisters setup s names outcomes).1 := by
  induction names generalizing s outcomes with
  | nil => exact h
  | cons name names ih =>
      unfold GroBro.readHoldingRegisters
      rcases slotHidden setup.maxSlots name with - | - | -
      · exact h
      · cases outcomes with
        | nil => exact ih h []
        | cons outcome outcomes =>
            have hnested := fits_handleResponses h outcome.nested
            dsimp only
            cases outcome.result with
            | accepted => exact ih hnested outcomes
            | rejected => exact hnested
            | raises => exact hnested
      · exact ih h outcomes

/-- A Read All press claims its device, and lets go of it whatever happens. -/
theorem Fits.readAll (h : Fits setup none s) (d : PyStr) (outcome : ReadAllOutcome) :
    Fits setup none (readAll setup s d outcome) := by
  unfold GroBro.readAll
  by_cases hstopped : s.stopped = true
  · rw [if_pos hstopped]
    exact h
  rw [if_neg hstopped]
  rcases setup.knownRegisters d with - | ⟨holdingRegisters, configRegisters⟩
  · exact h
  dsimp only
  by_cases hactive : (s.devices d).active = true
  · rw [if_pos hactive]
    exact h
  rw [if_neg hactive]
  rw [Bool.not_eq_true] at hactive
  obtain ⟨b, hrow, hphase⟩ := (h.rows d).of_not_active hactive
  -- the press claims this device and no other
  have hother : ∀ d' ≠ d, (some d = some d' ↔ none = some d') :=
    fun d' hne => ⟨fun he => absurd (Option.some.inj he).symm hne, nofun⟩
  have hclaimed : Fits setup (some d) (s.modify d fun row => { row with active := true }) := by
    refine fits_modify h hother ?_
    rw [hrow, hphase, decide_eq_true rfl]
    exact Represents.claimed b
  have hread := hclaimed.readHoldingRegisters holdingRegisters outcome.commands
  generalize GroBro.readHoldingRegisters setup (s.modify d fun row => { row with active := true })
    holdingRegisters outcome.commands = result at hread ⊢
  obtain ⟨t, finished⟩ := result
  cases finished with
  | false =>
      -- a rejected command cancels the claim
      refine fits_cancel nofun ?_ hread.genuine (hread.rows d).accepted
      intro d' hne
      rw [decide_eq_decide.mpr (hother d' hne).symm]
      exact hread.rows d'
  | true =>
      have hreleased : Fits setup none (t.modify d fun row => { row with active := false }) := by
        refine fits_modify hread (fun d' hne => (hother d' hne).symm) ?_
        have hd := hread.rows d
        rw [decide_eq_true rfl] at hd
        generalize t.devices d = row at hd ⊢
        generalize monitor d t.history = m at hd ⊢
        cases hd with
        | claimed b => exact Represents.idle b
      -- a press may start a sequence also after one that was started before
      have hqueued := hreleased.queueAll d false nofun outcome.ready outcome.timer
      dsimp only
      split
      · rename_i u hq
        rwa [hq] at hqueued
      · rename_i u hq
        obtain rfl := queueAllConfigReads_returned_false hq
        refine fits_modify hreleased (fun _ _ => Iff.rfl) ?_
        have hd := hreleased.rows d
        rw [ConfigReads.devices_modify, Function.update_self] at hd ⊢
        exact hd
      · rename_i u caught hq
        rw [hq] at hqueued
        exact hqueued.cancel nofun

end ReadAll

/-! ### Never stuck -/

/-- The tables of a device agree, and it does not have two reads in flight. -/
structure TablesAgree (s : ConfigReads) (d : PyStr) : Prop where
  /-- At most one read was sent and has neither been answered nor timed out nor dropped,
  and it is the one in the table. -/
  inFlight : inFlight d s.history = (s.devices d).inflight.toList
  /-- A read is in flight exactly while its timer is current. -/
  timed : (s.devices d).inflight = (s.devices d).readTimer.map (·.registerNo)
  /-- What is in the tables belongs to an active device. -/
  active : ((s.devices d).queue.getD [] ≠ [] ∨ (s.devices d).inflight.isSome ∨
    (s.devices d).startTimer.isSome) → (s.devices d).active = true
  /-- An active device has exactly one of its two timers. -/
  continued : (s.devices d).active = true →
    Xor ((s.devices d).startTimer.isSome = true) ((s.devices d).readTimer.isSome = true)

theorem Represents.tablesAgree {d : PyStr} {s : ConfigReads}
    (h : Represents setup false (s.devices d) (monitor d s.history)) : TablesAgree s d := by
  have hflight : ∀ {m}, monitor d s.history = some m →
      Sequencer.inFlight d s.history = m.phase.inFlight.toList := inFlight_of_accepted
  generalize hm : monitor d s.history = m at h hflight
  generalize hr : s.devices d = row at h
  cases h with
  | idle b =>
      refine ⟨?_, ?_, ?_, ?_⟩ <;> rw [hr]
      · exact hflight rfl
      · rfl
      · rintro (h | h | h) <;> simp at h
      · nofun
  | waiting queue id =>
      refine ⟨?_, ?_, ?_, ?_⟩ <;> rw [hr]
      · exact hflight rfl
      · rfl
      · exact fun _ => rfl
      · exact fun _ => Or.inl ⟨rfl, Bool.false_ne_true⟩
  | reading queue r id =>
      refine ⟨?_, ?_, ?_, ?_⟩ <;> rw [hr]
      · exact hflight rfl
      · rfl
      · exact fun _ => rfl
      · exact fun _ => Or.inr ⟨rfl, Bool.false_ne_true⟩

/-- The source is ready, the timer starts, and the send is accepted. -/
def KickoffOutcome.smooth : KickoffOutcome := .mk true .started .nil .accepted

/-- A device between two reads sends the next one, or is done. -/
theorem Open.smooth {queue : List ℕ} (h : Open setup claimed d queue s)
    (hrunning : s.stopped = false) :
    let t := kickoffNextConfigRead setup s d .smooth
    t.stopped = false ∧
      (((t.devices d).active = false ∧ t.history = s.history ++ [.finished d]) ∨
        ∃ r rest, queue = r :: rest ∧ (t.devices d).active = true ∧
          (t.devices d).queue = some rest ∧ t.history = s.history ++ [.issued d r]) := by
  obtain ⟨startTimer, hrow⟩ := h.row
  have hstart : (s.modify d fun row => { row with startTimer := none }).devices d =
      ⟨some queue, none, none, none, true, true⟩ := by
    rw [ConfigReads.devices_modify, Function.update_self, hrow]
  have hready : ¬ (setup.configReadsReady && !true) = true := by simp
  rw [KickoffOutcome.smooth, kickoffNextConfigRead,
    if_neg (by rw [hrunning]; exact Bool.false_ne_true), if_neg hready]
  dsimp only
  rw [hstart, if_neg (by exact Bool.false_ne_true)]
  cases queue with
  | nil =>
      refine ⟨hrunning, Or.inl ⟨?_, rfl⟩⟩
      rw [ConfigReads.devices_emit, ConfigReads.devices_modify, Function.update_self]
  | cons r queue =>
      dsimp only
      rw [if_pos h.sends]
      refine ⟨hrunning, Or.inr ⟨r, queue, rfl, ?_, ?_, rfl⟩⟩
      · rw [handleResponses, ConfigReads.devices_emit, ConfigReads.devices_armReadTimer,
          Function.update_self, ConfigReads.devices_modify, Function.update_self]
        exact congrArg DeviceReads.active hstart
      · rw [handleResponses, ConfigReads.devices_emit, ConfigReads.devices_armReadTimer,
          Function.update_self, ConfigReads.devices_modify, Function.update_self]

/-! ### Runs -/

section Runs

variable [PyUnicode]

/-- Every step keeps all rows fitting their histories. -/
theorem Fits.step (h : Fits setup none s) (a : ReadAction) : Fits setup none (readStep setup s a) := by
  cases a with
  | readAll d outcome => exact h.readAll d outcome
  | refresh d outcome =>
      show Fits setup none (if s.stopped then s else _)
      split_ifs
      · exact h
      · exact h.refresh d outcome
  | sourceReady devices => exact h.resetAndRefresh devices
  | recover devices => exact h.resetAndRefresh devices
  | startTimerFires d id outcome =>
      show Fits setup none (if (s.devices d).startTimer = some id then _ else s)
      split_ifs with hd
      · exact h.startTimerFires hd outcome
      · exact h
  | readTimerFires d id outcome =>
      rw [readStep]
      split
      · exact h
      · split_ifs
        · exact h.configReadTimeout d _ outcome
        · exact h
  | response d r outcome => exact h.handleConfigReadResponse d r outcome
  | stop => exact ⟨h.reset.rows, h.reset.genuine⟩
  | start => exact ⟨h.rows, h.genuine⟩

theorem fits_run (setup : ReadsSetup) (as : List ReadAction) :
    Fits setup none (run (readStep setup) .start as) := by
  refine run_invariant ⟨fun d => ?_, fun _ he => nomatch he⟩ fun _ a _ ht => ht.step a
  exact Represents.idle false

/-- The firings of a device's timers. -/
def ReadAction.fires (d : PyStr) : ReadAction → Bool
  | startTimerFires d' _ _ => d' = d
  | readTimerFires d' _ _ => d' = d
  | _ => false

/-- How many registers of a device are still to be read. -/
def ConfigReads.left (s : ConfigReads) (d : PyStr) : ℕ := ((s.devices d).queue.getD []).length

/-- Nothing interrupts a sequence: it is finished, or has fewer registers to read. -/
structure LeadsOn (d : PyStr) (s t : ConfigReads) (mid : List ReadEvent) : Prop where
  running : t.stopped = false
  goesOn : GoesOn d mid
  next : ((t.devices d).active = false ∧ t.history = s.history ++ (mid ++ [.finished d])) ∨
    ((t.devices d).active = true ∧ t.left d < s.left d ∧ t.history = s.history ++ mid)

/-- The timer of an active device leads on: to the next read or to the end. -/
theorem Fits.timer_leads_on (h : Fits setup none s) (hrunning : s.stopped = false)
    (hactive : (s.devices d).active = true) :
    ∃ (a : ReadAction) (mid : List ReadEvent), a.fires d = true ∧
      LeadsOn d s (readStep setup s a) mid := by
  have hissued : ∀ r : ℕ, GoesOn d [.issued d r] :=
    fun r => List.forall_mem_singleton.mpr ⟨rfl, fun he => by cases he⟩
  rcases (h.rows d).of_active hactive with ⟨id, hstart⟩ | ⟨r, id, hflight, htimer⟩
  · obtain ⟨queue, hrow, hopen⟩ := h.open_of_startTimer hstart
    obtain ⟨hstopped, hnext⟩ := hopen.smooth hrunning
    have hfires : (ReadAction.startTimerFires d id .smooth).fires d = true := decide_eq_true rfl
    have hstep : readStep setup s (.startTimerFires d id .smooth) =
        kickoffNextConfigRead setup s d .smooth := if_pos hstart
    rcases hnext with ⟨hdone, hhistory⟩ | ⟨r, rest, rfl, hactive, hrest, hhistory⟩
    · refine ⟨_, [], hfires, hstep ▸ hstopped, List.forall_mem_nil _, Or.inl ?_⟩
      rw [hstep]
      exact ⟨hdone, hhistory⟩
    · refine ⟨_, [.issued d r], hfires, hstep ▸ hstopped, hissued r, Or.inr ?_⟩
      rw [hstep, ConfigReads.left, ConfigReads.left, hrest, hrow]
      exact ⟨hactive, Nat.lt_succ_self _, hhistory⟩
  · obtain ⟨queue, hopen⟩ := h.open hflight (Or.inr rfl)
    have hqueue : (s.devices d).queue = some queue := by
      obtain ⟨startTimer, hrow⟩ := hopen.row
      rw [ConfigReads.devices_emit, ConfigReads.devices_modify, Function.update_self] at hrow
      exact congrArg DeviceReads.queue hrow
    obtain ⟨hstopped, hnext⟩ := hopen.smooth hrunning
    have hfires : (ReadAction.readTimerFires d id .smooth).fires d = true := decide_eq_true rfl
    have hstep : readStep setup s (.readTimerFires d id .smooth) =
        kickoffNextConfigRead setup ((s.modify d fun row =>
          { row with readTimer := none, inflight := none }).emit (.timedOut d r)) d .smooth := by
      rw [readStep, htimer]
      dsimp only
      rw [if_pos rfl, GroBro.configReadTimeout, hrunning, hflight, if_neg Bool.false_ne_true,
        if_pos rfl]
    have htimedOut : GoesOn d [.timedOut d r] :=
      List.forall_mem_singleton.mpr ⟨rfl, fun he => by cases he⟩
    rcases hnext with ⟨hdone, hhistory⟩ | ⟨r', rest, rfl, hactive, hrest, hhistory⟩
    · refine ⟨_, [.timedOut d r], hfires, hstep ▸ hstopped, htimedOut, Or.inl ?_⟩
      rw [hstep]
      exact ⟨hdone, hhistory.trans (List.append_assoc _ _ _)⟩
    · refine ⟨_, [.timedOut d r, .issued d r'], hfires, hstep ▸ hstopped, ?_, Or.inr ?_⟩
      · exact List.forall_mem_append.mpr ⟨htimedOut, hissued r'⟩
      · rw [hstep, ConfigReads.left, ConfigReads.left, hrest, hqueue]
        exact ⟨hactive, Nat.lt_succ_self _, hhistory.trans (List.append_assoc _ _ _)⟩

/-- **Every sequence can be finished**: while nothing is stopped, the timers of a device that is
active lead to the end of its sequence. -/
theorem Fits.finishes (h : Fits setup none s) (hrunning : s.stopped = false)
    (hactive : (s.devices d).active = true) :
    ∃ (bs : List ReadAction) (mid : List ReadEvent), (∀ b ∈ bs, b.fires d = true) ∧
      GoesOn d mid ∧ ((run (readStep setup) s bs).devices d).active = false ∧
      (run (readStep setup) s bs).history = s.history ++ (mid ++ [.finished d]) := by
  -- induction on the number of registers that are still queued
  induction hn : s.left d using Nat.strongRecOn generalizing s with
  | ind n ih =>
      obtain ⟨a, mid, ha, hlead⟩ := h.timer_leads_on hrunning hactive
      have hsingle : ∀ b ∈ [a], b.fires d = true := by
        intro b hb
        obtain rfl := List.mem_singleton.mp hb
        exact ha
      rcases hlead.next with ⟨hdone, hhistory⟩ | ⟨hgoing, hless, hhistory⟩
      · exact ⟨[a], mid, hsingle, hlead.goesOn, hdone, hhistory⟩
      obtain ⟨bs, mid', hbs, hmid', hdone, hend⟩ :=
        ih _ (hn ▸ hless) (h.step a) hlead.running hgoing rfl
      refine ⟨a :: bs, mid ++ mid', List.forall_mem_append.mpr ⟨hsingle, hbs⟩,
        List.forall_mem_append.mpr ⟨hlead.goesOn, hmid'⟩, hdone, ?_⟩
      rw [hhistory, List.append_assoc, ← List.append_assoc mid] at hend
      exact hend

/-- A device is never stuck and never has two reads in flight. -/
structure NeverStuck (setup : ReadsSetup) (s : ConfigReads) (d : PyStr) : Prop
    extends TablesAgree s d where
  /-- Its timers lead to the end of its sequence, and Read All is possible again. -/
  finishes : s.stopped = false → ∃ bs : List ReadAction, (∀ b ∈ bs, b.fires d = true) ∧
    ((run (readStep setup) s bs).devices d).active = false

/-- **The sequencer is never stuck**: after any steps in any order, for every device. -/
theorem config_reads_never_stuck (setup : ReadsSetup) (as : List ReadAction) (d : PyStr) :
    NeverStuck setup (run (readStep setup) .start as) d := by
  have hfits := fits_run setup as
  refine ⟨(hfits.rows d).tablesAgree, fun hrunning => ?_⟩
  rcases hactive : ((run (readStep setup) .start as).devices d).active with - | -
  · exact ⟨[], List.forall_mem_nil _, hactive⟩
  · obtain ⟨bs, -, hbs, -, hdone, -⟩ := hfits.finishes hrunning hactive
    exact ⟨bs, hbs, hdone⟩

/-- The reads of a device happen in order. -/
structure ReadsInOrder (setup : ReadsSetup) (s : ConfigReads) (d : PyStr) : Prop where
  /-- A sequence is one of the config registers of its device, in order: `mid` is what
  happened since it started, with no interruption and before it finished. -/
  inOrder : ∀ pre auto items mid post, s.history = pre ++ .started d auto items :: (mid ++ post) →
    GoesOn d mid →
      (∃ holdingRegisters, setup.knownRegisters d = some (holdingRegisters, items)) ∧
        InOrder d items mid post
  /-- A refresh starts no second sequence before an interruption. -/
  refreshedOnce : ∀ pre auto items mid items' post,
    s.history = pre ++ .started d auto items :: (mid ++ .started d true items' :: post) →
      ∃ e ∈ mid, e.interrupts d = true
  /-- A sequence under way can be finished with no interruption. -/
  finishes : s.stopped = false → (s.devices d).active = true →
    ∃ (bs : List ReadAction) (mid : List ReadEvent), (∀ b ∈ bs, b.fires d = true) ∧
      GoesOn d mid ∧ (run (readStep setup) s bs).history = s.history ++ (mid ++ [.finished d])

/-- **Each sequence reads every register once and in order**: in the history of any
steps in any order, for every device. -/
theorem config_reads_in_order (setup : ReadsSetup) (as : List ReadAction) (d : PyStr) :
    ReadsInOrder setup (run (readStep setup) .start as) d := by
  have hfits := fits_run setup as
  obtain ⟨m, hm⟩ := (hfits.rows d).accepted
  refine ⟨?_, ?_, ?_⟩
  · intro pre auto items mid post hhistory hmid
    refine ⟨?_, ?_⟩
    · have hmem : .started d auto items ∈ (run (readStep setup) .start as).history := by
        rw [hhistory]
        exact List.mem_append_right _ List.mem_cons_self
      exact hfits.genuine _ hmem
    · rw [hhistory] at hm
      exact inOrder_of_accepted hm hmid
  · intro pre auto items mid items' post hhistory
    rw [hhistory] at hm
    exact interrupted_of_auto hm
  · intro hrunning hactive
    obtain ⟨bs, mid, hbs, hmid, -, hend⟩ := hfits.finishes hrunning hactive
    exact ⟨bs, mid, hbs, hmid, hend⟩

end Runs

end Invariant

/-- Two registers: the first is answered inside its send, the second times out, and
the start timer fires once more in between. -/
theorem config_reads_in_order_twoRegisters :
    letI := PyUnicode.asciiOnly
    let s := run (readStep ⟨true, true, fun _ => some ([], [4, 76]), 1⟩) .start
      [.refresh ['D'] ⟨true, .started⟩,
        .startTimerFires ['D'] 0 (.mk true .started (.cons ['D'] 4 .smooth .nil) .accepted),
        .startTimerFires ['D'] 0 .smooth,
        .response ['D'] 4 .smooth,
        .readTimerFires ['D'] 1 .smooth,
        .readTimerFires ['D'] 2 .smooth]
    let mid : List ReadEvent :=
      [.issued ['D'] 4, .answered ['D'] 4, .issued ['D'] 76, .timedOut ['D'] 76]
    s.history = .started ['D'] true [4, 76] :: (mid ++ [.finished ['D']]) ∧
      InOrder ['D'] [4, 76] mid [.finished ['D']] := by
  intro s mid
  let _ : PyUnicode := PyUnicode.asciiOnly
  have hhistory : s.history = .started ['D'] true [4, 76] :: (mid ++ [.finished ['D']]) := by
    decide
  have hmid : GoesOn ['D'] mid := by
    show ∀ e ∈ mid, e.interrupts ['D'] = false ∧ e ≠ .finished ['D']
    decide
  exact ⟨hhistory, ((config_reads_in_order _ _ _).inOrder [] true [4, 76] mid _ hhistory hmid).2⟩

end GroBro
