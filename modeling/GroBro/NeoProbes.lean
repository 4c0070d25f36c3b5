/-
GroBro/NeoProbes.lean

How a NEO is asked for its inverter power.  The first telemetry packet of a NEO asks, and so does
a timer, for all known NEOs, which comes again while one of them has not been asked
(`grobro/ha/neo_power_runtime.py`).  A recovery forgets who was asked and starts again.

Both bounds are amortized (`total_le`): a schedule pays for four rounds of the timer, and a
recovery for one accepted read of a NEO.
-/
import GroBro.HaClient

/-! ### Amortized costs -/

namespace Machine

variable {σ α : Type*}

/-- What the steps of a run cost. -/
def total (step : σ → α → σ) (cost : σ → α → ℕ) (s : σ) : List α → ℕ
  | [] => 0
  | a :: as => cost s a + total step cost (step s a) as

/-- What a step costs, the state and the step itself have paid for. -/
theorem total_le (step : σ → α → σ) (cost : σ → α → ℕ) (gain : α → ℕ) (saved : σ → ℕ)
    (h : ∀ s a, cost s a + saved (step s a) ≤ saved s + gain a) (s : σ) (as : List α) :
    total step cost s as + saved (run step s as) ≤ saved s + (as.map gain).sum := by
  induction as generalizing s with
  | nil => rw [total, List.map_nil, List.sum_nil, Nat.zero_add]; rfl
  | cons a as ih =>
      have hstep := h s a
      have hrest := ih (step s a)
      rw [total, List.map_cons, List.sum_cons, run_cons]
      omega

theorem sum_map_toNat (p : α → Bool) (l : List α) :
    (l.map fun a => (p a).toNat).sum = l.countP p := by
  induction l with
  | nil => rfl
  | cons a l ih =>
      rw [List.map_cons, List.sum_cons, ih, List.countP_cons, Nat.add_comm]
      cases p a <;> rfl

end Machine

namespace GroBro

open Machine

section Probes

variable {P V γ : Type*} (setup : HaSetup P V γ)

/-! ### Rounds and reads -/

/-- The step is a round of the timer that is set. -/
def probes (s : HaClient P V γ) : ClientAction P V γ → Bool
  | .neoProbeFires id _ _ => !s.stopped && s.neoProbeTimer.any fun timer => timer.id = id
  | _ => false

/-- A connection that fails recovers nothing. -/
def recovers : ClientAction P V γ → Bool
  | .connect failure _ _ => !failure
  | .homeAssistantOnline _ => true
  | _ => false

/-- A schedule whose timer starts, at the end of a recovery or of its own. -/
def schedulesProbe : ClientAction P V γ → Bool
  | .connect failure _ x => !failure && x.probe == some true
  | .homeAssistantOnline x => x.probe == some true
  | .scheduleKnownNeoStateProbe started => started
  | _ => false

/-- The rounds that a timer can still lead to, its own included. -/
def roundsLeft : Option NeoProbeTimer → ℕ
  | none => 0
  | some timer => 4 - min 3 timer.attempt

/-- The device that a call reads from. -/
def ClientCall.readsFrom : ClientCall → Option PyStr
  | .onCommand d .readSingleRegister _ _ => some d
  | _ => none

def SendResult.isAccepted : SendResult → Bool
  | accepted => true
  | _ => false

/-- A step that may ask NEOs. -/
def asksNeos : ClientAction P V γ → Bool
  | .inputRegister _ | .neoProbeFires .. => true
  | _ => false

/-- The device side accepts a read of the step. -/
def neoAccepts (d : PyStr) : ClientAction P V γ → Bool
  | .inputRegister x => x.neoRead.isAccepted
  | .neoProbeFires _ results _ => (results d).isAccepted
  | _ => false

section Reads

variable [PyUnicode]

/-- The devices that a step reads from. -/
def readsIn (s : HaClient P V γ) (a : ClientAction P V γ) : List PyStr :=
  ((clientStep setup s a).calls.drop s.calls.length).filterMap ClientCall.readsFrom

/-- A step asks a NEO, and the read is accepted. -/
def askedIn (d : PyStr) (s : HaClient P V γ) (a : ClientAction P V γ) : Bool :=
  decide (d ∈ readsIn setup s a) && neoAccepts d a

end Reads

/-! ### Frames -/

/-- What the other parts of the client leave alone. -/
structure NeoKept (s s' : HaClient P V γ) : Prop where
  timer : s'.neoProbeTimer = s.neoProbeTimer
  requested : s'.neoReadRequested = s.neoReadRequested

/-- The actions that have nothing to do with NEOs. -/
def Unrelated : ClientAction P V γ → Prop
  | .inputRegister _ | .neoProbeFires .. | .connect .. | .homeAssistantOnline _
  | .scheduleKnownNeoStateProbe _ => False
  | _ => True

variable {setup} {s : HaClient P V γ}

theorem neoKept_calls {ι : Type*} (l : List ι) (c : ι → ClientCall) (s : HaClient P V γ) :
    NeoKept s (l.foldl (fun s x => s.call (c x)) s) := by
  induction l generalizing s with
  | nil => exact ⟨rfl, rfl⟩
  | cons x l ih => exact ⟨(ih _).timer, (ih _).requested⟩

theorem neoKept_syncSupportedClocks (value : PyStr) :
    NeoKept s (s.syncSupportedClocks setup value) := by
  simp only [HaClient.syncSupportedClocks, HaClient.guardRuntime]
  split_ifs
  · exact ⟨rfl, rfl⟩
  · exact neoKept_calls _ _ _
  · exact ⟨rfl, rfl⟩

theorem neoKept_scheduleNextTimeSync (started : Bool) :
    NeoKept s (s.scheduleNextTimeSync started) := by
  simp only [HaClient.scheduleNextTimeSync, HaClient.guardRuntime]
  split_ifs <;> exact ⟨rfl, rfl⟩

theorem neoKept_clientStep [PyUnicode] {a : ClientAction P V γ} (ha : Unrelated a) :
    NeoKept s (clientStep setup s a) := by
  cases a with
  | inputRegister x => exact absurd ha id
  | neoProbeFires id results started => exact absurd ha not_false
  | connect failure bridge x => exact absurd ha not_false
  | homeAssistantOnline x => exact absurd ha not_false
  | scheduleKnownNeoStateProbe started => exact absurd ha not_false
  | holdingRegisterInput d payload activity =>
      simp only [clientStep, HaClient.publishHoldingRegisterInput, HaClient.guardRuntime]
      split_ifs <;> exact ⟨rfl, rfl⟩
  | configRegisterValue d registerNo value retain =>
      simp only [clientStep, HaClient.publishConfigRegisterValue, HaClient.guardRuntime]
      split_ifs <;> exact ⟨rfl, rfl⟩
  | smartMeter d payload activity outcome =>
      simp only [clientStep, HaClient.publishSmartMeter, HaClient.guardRuntime]
      split_ifs <;> exact ⟨rfl, rfl⟩
  | config x =>
      simp only [clientStep, HaClient.setConfig, HaClient.guardRuntime]
      split_ifs <;> exact ⟨rfl, rfl⟩
  | configReadResponse d registerNo activity outcome =>
      simp only [clientStep, HaClient.handleConfigReadResponse, HaClient.guardRuntime]
      split_ifs <;> exact ⟨rfl, rfl⟩
  | sourceReady outcomes =>
      simp only [clientStep, HaClient.handleSourceReady, HaClient.guardRuntime]
      split_ifs <;> exact ⟨rfl, rfl⟩
  | connectFail =>
      simp only [clientStep, HaClient.onConnectFail]
      split_ifs <;> exact ⟨rfl, rfl⟩
  | subscribed rejected =>
      simp only [clientStep, HaClient.onSubscribe, HaClient.guardRuntime]
      split_ifs <;> exact ⟨rfl, rfl⟩
  | readAll d sent outcome =>
      simp only [clientStep, HaClient.onReadAll]
      split_ifs
      · exact ⟨rfl, rfl⟩
      · exact ⟨(neoKept_calls _ _ _).timer, (neoKept_calls _ _ _).requested⟩
  | read d registerNo =>
      simp only [clientStep, HaClient.onRead]
      split_ifs <;> exact ⟨rfl, rfl⟩
  | set x =>
      simp only [clientStep, HaClient.onSet]
      split_ifs
      · exact ⟨rfl, rfl⟩
      · rcases x.write with - | - | -
        · rcases x.switchState with - | ⟨state, outcome⟩ <;> exact ⟨rfl, rfl⟩
        · exact ⟨rfl, rfl⟩
        · exact ⟨rfl, rfl⟩
  | setConfigRegister d registerNo value =>
      simp only [clientStep, HaClient.onSetConfig]
      split_ifs <;> exact ⟨rfl, rfl⟩
  | syncSupportedClocks value => exact neoKept_syncSupportedClocks value
  | scheduleNextTimeSync started => exact neoKept_scheduleNextTimeSync started
  | deviceTimerFires id started o =>
      simp only [clientStep, HaClient.deviceTimerFires]
      split <;> exact ⟨rfl, rfl⟩
  | configReadTimerFires d id outcome => exact ⟨rfl, rfl⟩
  | startTimerFires d id outcome => exact ⟨rfl, rfl⟩
  | timeSyncFires id value started =>
      simp only [clientStep, HaClient.timeSyncFires]
      split_ifs
      · exact ⟨rfl, rfl⟩
      · have hsync : NeoKept { s with timeSyncTimer := none }
            ({ s with timeSyncTimer := none }.syncSupportedClocks setup value) :=
          neoKept_syncSupportedClocks value
        have hnext := neoKept_scheduleNextTimeSync (s :=
          { s with timeSyncTimer := none }.syncSupportedClocks setup value) started
        exact ⟨hnext.timer.trans hsync.timer, hnext.requested.trans hsync.requested⟩
  | tick time => exact ⟨rfl, rfl⟩

/-! ### Asking -/

/-- What asking NEOs does. -/
structure NeoAsked (results : PyStr → SendResult) (s s' : HaClient P V γ) : Prop where
  timer : s'.neoProbeTimer = s.neoProbeTimer
  kept : ∀ d, s.neoReadRequested d = true → s'.neoReadRequested d = true
  /-- Only who was not asked is asked, and then was if the read is accepted. -/
  calls : ∃ new, s'.calls = s.calls ++ new ∧ ∀ d ∈ new.filterMap ClientCall.readsFrom,
    s.neoReadRequested d = false ∧ ((results d).isAccepted = true → s'.neoReadRequested d = true)

variable {results : PyStr → SendResult}

theorem NeoAsked.trans {s' s'' : HaClient P V γ} (h : NeoAsked results s s')
    (h' : NeoAsked results s' s'') : NeoAsked results s s'' := by
  obtain ⟨new, hcalls, hnew⟩ := h.calls
  obtain ⟨new', hcalls', hnew'⟩ := h'.calls
  refine ⟨h'.timer.trans h.timer, fun d hd => h'.kept d (h.kept d hd), new ++ new', ?_, ?_⟩
  · rw [hcalls', hcalls, List.append_assoc]
  · intro d hd
    rw [List.filterMap_append] at hd
    rcases List.mem_append.mp hd with hold | hlate
    · exact ⟨(hnew d hold).1, fun haccepted => h'.kept d ((hnew d hold).2 haccepted)⟩
    · refine ⟨Bool.eq_false_iff.mpr fun hd => ?_, (hnew' d hlate).2⟩
      exact Bool.eq_false_iff.mp (hnew' d hlate).1 (h.kept d hd)

/-- Nobody is asked. -/
theorem asked_of_neoKept {s' : HaClient P V γ} (h : NeoKept s s') {new : List ClientCall}
    (hcalls : s'.calls = s.calls ++ new) (hnew : new.filterMap ClientCall.readsFrom = []) :
    NeoAsked results s s' := by
  refine ⟨h.timer, fun d hd => h.requested ▸ hd, new, hcalls, fun d hd => ?_⟩
  rw [hnew] at hd
  cases hd

theorem asked_requestInitial (d : PyStr) :
    NeoAsked results s (s.requestInitialNeoInverterPower setup d (results d)) := by
  have hsame : NeoAsked results s s :=
    asked_of_neoKept ⟨rfl, rfl⟩ (List.append_nil _).symm rfl
  unfold HaClient.requestInitialNeoInverterPower
  split_ifs with hskip
  · exact hsame
  rw [not_or, not_or] at hskip
  have hfree : s.neoReadRequested d = false := Bool.eq_false_iff.mpr hskip.2.1
  rcases setup.inverterPowerRegister d with - | registerNo
  · exact hsame
  have hreads : ∀ d', d' ∈ [ClientCall.onCommand d .readSingleRegister registerNo
      registerNo].filterMap ClientCall.readsFrom → d' = d := fun d' hd' => List.mem_singleton.mp hd'
  cases hresult : results d with
  | accepted =>
      refine ⟨rfl, fun d' hd' => ?_, _, rfl, fun d' hd' => ?_⟩
      · show Function.update s.neoReadRequested d true d' = true
        rw [Function.update_apply]
        split_ifs
        · rfl
        · exact hd'
      · obtain rfl := hreads d' hd'
        exact ⟨hfree, fun _ => Function.update_self _ _ _⟩
  | rejected =>
      refine ⟨rfl, fun d' hd' => hd', _, rfl, fun d' hd' => ?_⟩
      obtain rfl := hreads d' hd'
      exact ⟨hfree, fun haccepted => by rw [hresult] at haccepted; cases haccepted⟩
  | raises =>
      refine ⟨rfl, fun d' hd' => hd', _, rfl, fun d' hd' => ?_⟩
      obtain rfl := hreads d' hd'
      exact ⟨hfree, fun haccepted => by rw [hresult] at haccepted; cases haccepted⟩

theorem asked_fold (known : List PyStr) :
    NeoAsked results s (known.foldl
      (fun s d => s.requestInitialNeoInverterPower setup d (results d)) s) := by
  induction known generalizing s with
  | nil => exact asked_of_neoKept ⟨rfl, rfl⟩ (List.append_nil _).symm rfl
  | cons d known ih => exact (asked_requestInitial d).trans ih

theorem readsFrom_publishAll (messages : List (PyStr × PyStr)) :
    (messages.map fun m => ClientCall.publish m.1 m.2 true).filterMap ClientCall.readsFrom = [] :=
  List.filterMap_eq_nil_iff.mpr fun c hc => by
    obtain ⟨m, -, rfl⟩ := List.mem_map.mp hc
    rfl

theorem asked_publishInputRegister (x : TelemetryInput P γ) :
    NeoAsked (fun _ => x.neoRead) s (s.publishInputRegister setup x) := by
  have hsame : ∀ {s' : HaClient P V γ}, NeoKept s s' → s'.calls = s.calls →
      NeoAsked (fun _ => x.neoRead) s s' := fun hkept hcalls =>
    asked_of_neoKept hkept (hcalls.trans (List.append_nil _).symm) rfl
  have hpublished : ∀ {s' : HaClient P V γ}, NeoKept s s' →
      s'.calls = s.calls ++ x.otherDiscovery.map (fun m => ClientCall.publish m.1 m.2 true) →
      NeoAsked (fun _ => x.neoRead) s s' := fun hkept hcalls =>
    asked_of_neoKept hkept hcalls (readsFrom_publishAll _)
  simp only [HaClient.publishInputRegister, HaClient.guardRuntime]
  split_ifs
  · exact hsame ⟨rfl, rfl⟩ rfl
  · exact hsame ⟨rfl, rfl⟩ rfl
  · refine NeoAsked.trans ?_ (asked_requestInitial x.deviceId)
    exact hpublished ⟨rfl, rfl⟩ rfl
  · exact hpublished ⟨rfl, rfl⟩ rfl

/-- A timer that is not the current one does nothing.  The current one asks all known NEOs, and
may be set again, for the fourth round at most. -/
theorem neoProbeFires_cases (setup : HaSetup P V γ) (s : HaClient P V γ) (id : ℕ)
    (results : PyStr → SendResult) (started : Bool) :
    (probes s (.neoProbeFires id results started : ClientAction P V γ) = false ∧
      s.neoProbeFires setup id results started = s) ∨
    ∃ timer asked, s.neoProbeTimer = some timer ∧
      NeoAsked results { s with neoProbeTimer := none } asked ∧
      (s.neoProbeFires setup id results started = asked ∨ timer.attempt < 3 ∧
        s.neoProbeFires setup id results started =
          asked.scheduleProbe (timer.attempt + 1) started) := by
  unfold HaClient.neoProbeFires
  rcases htimer : s.neoProbeTimer with - | timer
  · left
    simp [probes, htimer]
  dsimp only
  split_ifs with hstale hends
  · left
    refine ⟨?_, rfl⟩
    rcases hstale with hstopped | hid
    · simp [probes, hstopped]
    · simp [probes, htimer, hid]
  · exact Or.inr ⟨timer, _, rfl, asked_fold _, Or.inl rfl⟩
  · rw [not_or] at hends
    exact Or.inr ⟨timer, _, rfl, asked_fold _, Or.inr ⟨not_le.mp hends.2, rfl⟩⟩

theorem scheduleProbe_spec (s : HaClient P V γ) (attempt : ℕ) (started : Bool) :
    ∃ more, (s.scheduleProbe attempt started).calls = s.calls ++ more ∧
      more.filterMap ClientCall.readsFrom = [] ∧
      (s.scheduleProbe attempt started).neoReadRequested = s.neoReadRequested ∧
      roundsLeft (s.scheduleProbe attempt started).neoProbeTimer ≤
        (4 - min 3 attempt) * started.toNat := by
  cases started with
  | false => exact ⟨[], (List.append_nil _).symm, rfl, rfl, le_rfl⟩
  | true => exact ⟨_, rfl, rfl, rfl, (Nat.mul_one _).ge⟩

/-- A schedule of its own asks nobody, and is good for four rounds if its timer starts. -/
theorem scheduleKnownNeoStateProbe_spec (s : HaClient P V γ) (started : Bool) :
    (s.scheduleKnownNeoStateProbe started).neoReadRequested = s.neoReadRequested ∧
      roundsLeft (s.scheduleKnownNeoStateProbe started).neoProbeTimer ≤
        roundsLeft s.neoProbeTimer + 4 * started.toNat := by
  unfold HaClient.scheduleKnownNeoStateProbe HaClient.guardRuntime
  split_ifs
  · exact ⟨rfl, Nat.le_add_right _ _⟩
  · obtain ⟨-, -, -, hrequested, hrounds⟩ := scheduleProbe_spec s 0 started
    exact ⟨hrequested, hrounds.trans (Nat.le_add_left _ _)⟩

/-- The timer that a recovery leaves: the old one where it does not get to the schedule. -/
theorem rounds_recover (setup : HaSetup P V γ) (s : HaClient P V γ)
    (availability : AvailabilityClient) (x : RecoverInput) :
    roundsLeft (s.recoverAfterHomeAssistantRestart setup availability x).neoProbeTimer ≤
      roundsLeft s.neoProbeTimer + 4 * (x.probe == some true).toNat := by
  unfold HaClient.recoverAfterHomeAssistantRestart HaClient.guardRuntime
  split_ifs
  · exact Nat.le_add_right _ _
  rcases x.probe with - | started
  · exact Nat.le_add_right _ _
  · have hstarted : (some started == some true) = started := by cases started <;> rfl
    rw [hstarted]
    exact (scheduleKnownNeoStateProbe_spec _ started).2

section Steps

variable [PyUnicode]

theorem mem_readsIn {a : ClientAction P V γ} {new : List ClientCall}
    (h : (clientStep setup s a).calls = s.calls ++ new) {d : PyStr}
    (hd : d ∈ readsIn setup s a) : d ∈ new.filterMap ClientCall.readsFrom := by
  rw [readsIn, h, List.drop_left] at hd
  exact hd

/-- What a step does for NEOs. -/
structure NeoStep (setup : HaSetup P V γ) (s : HaClient P V γ) (a : ClientAction P V γ) :
    Prop where
  kept : recovers a = false → ∀ d, s.neoReadRequested d = true →
    (clientStep setup s a).neoReadRequested d = true
  reads : asksNeos a = true → ∀ d ∈ readsIn setup s a, s.neoReadRequested d = false ∧
    (neoAccepts d a = true → (clientStep setup s a).neoReadRequested d = true)
  rounds : (probes s a).toNat + roundsLeft (clientStep setup s a).neoProbeTimer ≤
    roundsLeft s.neoProbeTimer + 4 * (schedulesProbe a).toNat

theorem neoStep_of_neoKept {a : ClientAction P V γ} (h : NeoKept s (clientStep setup s a))
    (hasks : asksNeos a = false) (hprobes : probes s a = false) : NeoStep setup s a where
  kept _ d hd := h.requested ▸ hd
  reads hask := Bool.noConfusion (hask.symm.trans hasks)
  rounds := by
    rw [h.timer, hprobes, Bool.toNat_false, Nat.zero_add]
    exact Nat.le_add_right _ _

/-- Telemetry does not touch the timer. -/
theorem neoStep_inputRegister (x : TelemetryInput P γ) :
    NeoStep setup s (.inputRegister x) := by
  have hasked : NeoAsked (fun _ => x.neoRead) s (clientStep setup s (.inputRegister x)) :=
    asked_publishInputRegister x
  obtain ⟨new, hcalls, hnew⟩ := hasked.calls
  refine ⟨fun _ => hasked.kept, fun _ d hd => hnew d (mem_readsIn hcalls hd), ?_⟩
  rw [hasked.timer]
  exact Nat.le_of_eq (Nat.zero_add _)

/-- A round of the timer is one of those that were left to it. -/
theorem neoStep_neoProbeFires (id : ℕ) (results : PyStr → SendResult) (started : Bool) :
    NeoStep setup s (.neoProbeFires id results started) := by
  rcases neoProbeFires_cases setup s id results started with
    ⟨hprobes, hsame⟩ | ⟨timer, asked, htimer, hasked, hend⟩
  -- a timer that is not the current one
  · have hstep : clientStep setup s (.neoProbeFires id results started) = s := hsame
    have hcalls : (clientStep setup s (.neoProbeFires id results started)).calls =
        s.calls ++ [] := by rw [hstep, List.append_nil]
    refine ⟨fun _ d hd => hstep.symm ▸ hd, fun _ d hd => ?_, ?_⟩
    · cases mem_readsIn hcalls hd
    · rw [hstep, hprobes]
      exact Nat.le_of_eq (Nat.zero_add _)
  obtain ⟨new, hcalls, hnew⟩ := hasked.calls
  have hrounds : ∀ left, left + 1 ≤ roundsLeft (some timer) →
      (probes s (.neoProbeFires id results started : ClientAction P V γ)).toNat + left ≤
        roundsLeft s.neoProbeTimer := by
    intro left hleft
    have hone := Bool.toNat_le
      (probes s (.neoProbeFires id results started : ClientAction P V γ))
    rw [htimer]
    omega
  rcases hend with hstep | ⟨hattempt, hstep⟩
  -- the last round
  · have hstep : clientStep setup s (.neoProbeFires id results started) = asked := hstep
    have hown : 0 + 1 ≤ roundsLeft (some timer) := by
      rw [roundsLeft]
      omega
    refine ⟨fun _ d hd => hstep.symm ▸ hasked.kept d hd, fun _ d hd => ?_, ?_⟩
    · rw [hstep]
      exact hnew d (mem_readsIn (hstep ▸ hcalls) hd)
    · rw [hstep, hasked.timer]
      exact hrounds 0 hown
  -- a round that sets the timer for the next one, if it starts
  · have hstep : clientStep setup s (.neoProbeFires id results started) =
      asked.scheduleProbe (timer.attempt + 1) started := hstep
    obtain ⟨more, hmore, hreads, hrequested, hleft⟩ :=
      scheduleProbe_spec asked (timer.attempt + 1) started
    refine ⟨fun _ d hd => ?_, fun _ d hd => ?_, ?_⟩
    · rw [hstep, hrequested]
      exact hasked.kept d hd
    · have hlater : (clientStep setup s (.neoProbeFires id results started)).calls =
          s.calls ++ (new ++ more) := by
        rw [hstep, hmore, hcalls, List.append_assoc]
      have hmem := mem_readsIn hlater hd
      rw [List.filterMap_append, hreads, List.append_nil] at hmem
      rw [hstep, hrequested]
      exact hnew d hmem
    · have hone := Nat.mul_le_mul_left (4 - min 3 (timer.attempt + 1)) (Bool.toNat_le started)
      rw [hstep]
      refine hrounds _ (le_trans (Nat.succ_le_succ (hleft.trans hone)) ?_)
      show (4 - min 3 (timer.attempt + 1)) * 1 + 1 ≤ 4 - min 3 timer.attempt
      omega

/-- A connection asks nobody; only one that succeeds forgets who was asked. -/
theorem neoStep_connect (failure : Bool) (bridge : Broker.Outcome) (x : RecoverInput) :
    NeoStep setup s (.connect failure bridge x) := by
  refine ⟨fun hrecovers d hd => ?_, fun h => Bool.noConfusion h, ?_⟩
  · have hfailure : failure = true := by simpa [recovers] using hrecovers
    rw [clientStep, HaClient.onConnect, if_pos hfailure]
    split_ifs <;> exact hd
  · show 0 + roundsLeft (s.onConnect setup failure bridge x).neoProbeTimer ≤ _
    rw [Nat.zero_add]
    unfold HaClient.onConnect
    split_ifs with hstopped hfailure
    · exact Nat.le_add_right _ _
    · exact Nat.le_add_right _ _
    · rw [Bool.not_eq_true] at hfailure
      rw [hfailure]
      exact rounds_recover setup _ _ x

theorem neoStep (setup : HaSetup P V γ) (s : HaClient P V γ) (a : ClientAction P V γ) :
    NeoStep setup s a := by
  cases a with
  | inputRegister x => exact neoStep_inputRegister x
  | neoProbeFires id results started => exact neoStep_neoProbeFires id results started
  | connect failure bridge x => exact neoStep_connect failure bridge x
  | homeAssistantOnline x =>
      exact ⟨fun h => Bool.noConfusion h, fun h => Bool.noConfusion h,
        (Nat.zero_add _).le.trans (rounds_recover setup s _ x)⟩
  | scheduleKnownNeoStateProbe started =>
      obtain ⟨hrequested, hrounds⟩ := scheduleKnownNeoStateProbe_spec s started
      exact ⟨fun _ d hd => hrequested.symm ▸ hd, fun h => Bool.noConfusion h,
        (Nat.zero_add _).le.trans hrounds⟩
  -- the rest neither asks a NEO nor touches the timer
  | _ => exact neoStep_of_neoKept (neoKept_clientStep trivial) rfl rfl

/-! ### Runs -/

/-- Who was asked once counts as asked until the next recovery. -/
theorem neoReadRequested_run {as : List (ClientAction P V γ)}
    (has : ∀ a ∈ as, recovers a = false) {d : PyStr} (hd : s.neoReadRequested d = true) :
    (run (clientStep setup) s as).neoReadRequested d = true :=
  run_invariant (I := fun t : HaClient P V γ => t.neoReadRequested d = true) hd
    fun t a ha ht => (neoStep setup t a).kept (has a ha) d ht

/-- How the NEOs are asked in a run. -/
structure NeoProbesExact (setup : HaSetup P V γ) (s : HaClient P V γ)
    (as : List (ClientAction P V γ)) : Prop where
  /-- Every timer that a schedule or a recovery starts leads to four rounds at most. -/
  rounds : total (clientStep setup) (fun s a => (probes s a).toNat) s as ≤
    roundsLeft s.neoProbeTimer + 4 * as.countP schedulesProbe
  /-- Between recoveries one read of a NEO is accepted at most, of those that telemetry and the
  timer make, -/
  accepted : ∀ d, total (clientStep setup) (fun s a => (askedIn setup d s a).toNat) s as ≤
    1 + as.countP recovers
  /-- and once it did, no telemetry packet and no round of the timer asks it. -/
  silent : ∀ d before a between a' after, as = before ++ a :: (between ++ a' :: after) →
    askedIn setup d (run (clientStep setup) s before) a = true →
    (∀ b ∈ between, recovers b = false) → asksNeos a' = true →
      d ∉ readsIn setup (run (clientStep setup) s (before ++ a :: between)) a'

/-- What was asked and accepted is remembered. -/
theorem requested_of_askedIn {d : PyStr} {a : ClientAction P V γ}
    (h : askedIn setup d s a = true) :
    s.neoReadRequested d = false ∧ (clientStep setup s a).neoReadRequested d = true := by
  rw [askedIn, Bool.and_eq_true, decide_eq_true_eq] at h
  have hasks : asksNeos a = true := by
    cases a <;> first | rfl | exact Bool.noConfusion h.2
  obtain ⟨hfree, haccepted⟩ := (neoStep setup s a).reads hasks d h.1
  exact ⟨hfree, haccepted h.2⟩

/-- **NEOs are not asked too often**, in every run of everything that can happen to a client. -/
theorem neo_probes_exact (setup : HaSetup P V γ) (s : HaClient P V γ)
    (as : List (ClientAction P V γ)) : NeoProbesExact setup s as := by
  refine ⟨?_, fun d => ?_, ?_⟩
  · have hbound := total_le (clientStep setup) (fun s a => (probes s a).toNat)
      (fun a => 4 * (schedulesProbe a).toNat) (fun s => roundsLeft s.neoProbeTimer)
      (fun s a => (neoStep setup s a).rounds) s as
    rw [List.sum_map_mul_left, sum_map_toNat] at hbound
    exact (Nat.le_add_right _ _).trans hbound
  · have hstep : ∀ (s : HaClient P V γ) (a : ClientAction P V γ),
        (askedIn setup d s a).toNat + (!(clientStep setup s a).neoReadRequested d).toNat ≤
          (!s.neoReadRequested d).toNat + (recovers a).toNat := by
      intro s a
      rcases hasked : askedIn setup d s a with - | -
      · rcases hrecovers : recovers a with - | -
        · rcases hrequested : s.neoReadRequested d with - | -
          · exact Bool.toNat_le _ |> (Nat.zero_add _).le.trans
          · rw [(neoStep setup s a).kept hrecovers d hrequested]
            exact le_rfl
        · exact (Nat.zero_add _).le.trans ((Bool.toNat_le _).trans (Nat.le_add_left _ _))
      · obtain ⟨hfree, hafter⟩ := requested_of_askedIn hasked
        rw [hfree, hafter]
        exact Nat.le_add_right _ _
    have hbound := total_le (clientStep setup) (fun s a => (askedIn setup d s a).toNat)
      (fun a => (recovers a).toNat) (fun s => (!s.neoReadRequested d).toNat) hstep s as
    rw [sum_map_toNat] at hbound
    have hone := Bool.toNat_le (!s.neoReadRequested d)
    omega
  · rintro d before a between a' after - hasked hquiet hasks hread
    have hafter := (requested_of_askedIn hasked).2
    have hrequested :
        (run (clientStep setup) s (before ++ a :: between)).neoReadRequested d = true := by
      rw [run_append, run_cons]
      exact neoReadRequested_run hquiet hafter
    have hfree := ((neoStep setup _ a').reads hasks d hread).1
    exact Bool.eq_false_iff.mp hfree hrequested

end Steps

end Probes

end GroBro
