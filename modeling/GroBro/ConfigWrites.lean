/-
GroBro/ConfigWrites.lean

The config writes of `grobro/grobro/client.py` and their acknowledgements.  A write
reserves a place in the queue of its device before it is published, and gives it up
when it was not accepted; an acknowledgement takes a write out.  The publish itself
runs outside the lock, so a write is three steps with anything in between:

* `reserve` and `rollback` are the two critical sections of `send_config_message`,
  `publish` is what happens between them;
* `acknowledge` is the critical section of a config acknowledgement;
* `stopForward` and `clearWrites` are the two steps of `stop` that concern the queues.

A queue that grows to its limit is dropped for good, and its device is remembered in
`configAckTrackingDisabled`.

`history` is no part of the client: it records what happened.  For every interleaving
of the steps a queue holds, in the order of sending, what was reserved and neither
acknowledged nor given up (`ack_tracking_exact`).
-/
import GroBro.PyText
import GroBro.Machine
import GroBro.History

namespace GroBro

open History Machine

/-! ### State -/

/-- `_PendingRegister`: a register number with an identity.  Every object has a number
of its own, so two are equal only if they are the same. -/
structure PendingRegister where
  id : ℕ
  registerNo : ℕ
  deriving DecidableEq, Repr

/-- Where a call of `send_config_message` stands: at its publish, or behind one that was
not accepted. -/
inductive SendState where
  | publishing
  | failed
  deriving DecidableEq, Repr

/-- A call of `send_config_message` under way. -/
structure ConfigSend where
  deviceId : PyStr
  reservation : PendingRegister
  state : SendState

inductive WriteEvent where
  /-- A send got its reservation, and whether it was put into the queue. -/
  | sent (deviceId : PyStr) (reservation : PendingRegister) (queued : Bool)
  /-- The queue was dropped at its limit. -/
  | overflowed (deviceId : PyStr)
  /-- An acknowledgement with the register it reports, what it took out of the queue,
  and the register it is logged with. -/
  | acknowledged (deviceId : PyStr) (reported : ℕ) (consumed : Option PendingRegister)
      (label : ℕ)
  /-- A send was not accepted, and whether its reservation was taken out. -/
  | failed (deviceId : PyStr) (reservation : PendingRegister) (removed : Bool)
  /-- `stop` cleared all queues. -/
  | cleared

structure ConfigWrites where
  forwardStopped : Bool
  pendingConfigWrites : PyStr → Option (List PendingRegister)
  configAckTrackingDisabled : PyStr → Bool
  sends : ℕ → Option ConfigSend
  created : ℕ
  history : List WriteEvent

namespace ConfigWrites

def start : ConfigWrites := ⟨false, fun _ => none, fun _ => false, fun _ => none, 0, []⟩

def setPending (s : ConfigWrites) (d : PyStr) (pending : Option (List PendingRegister)) :
    ConfigWrites :=
  { s with pendingConfigWrites := Function.update s.pendingConfigWrites d pending }

def setSend (s : ConfigWrites) (id : ℕ) (send : Option ConfigSend) : ConfigWrites :=
  { s with sends := Function.update s.sends id send }

def emit (s : ConfigWrites) (e : WriteEvent) : ConfigWrites :=
  { s with history := s.history ++ [e] }

end ConfigWrites

/-! ### Operations -/

/-- `MAX_PENDING_CONFIG_WRITES` -/
def maxPendingConfigWrites : ℕ := 128

/-- A queue that became empty is not kept. -/
def keepNonempty : Option (List PendingRegister) → Option (List PendingRegister)
  | some [] => none
  | pending => pending

namespace ConfigWrites

/-- `send_config_message` up to its publish. -/
def reserve (s : ConfigWrites) (d : PyStr) (registerNo : ℕ) : ConfigWrites :=
  let reservation : PendingRegister := ⟨s.created, registerNo⟩
  if s.forwardStopped then s
  else
    let s := { s.setSend s.created (some ⟨d, reservation, .publishing⟩) with
      created := s.created + 1 }
    if s.configAckTrackingDisabled d then s.emit (.sent d reservation false)
    else
      let pending := (s.pendingConfigWrites d).getD []
      if maxPendingConfigWrites ≤ pending.length then
        let s := { s.setPending d none with
          configAckTrackingDisabled := Function.update s.configAckTrackingDisabled d true }
        (s.emit (.overflowed d)).emit (.sent d reservation false)
      else (s.setPending d (some (pending ++ [reservation]))).emit (.sent d reservation true)

/-- The publish of a send: accepted, or rejected or raising. -/
def publish (s : ConfigWrites) (id : ℕ) (accepted : Bool) : ConfigWrites :=
  match s.sends id with
  | some ⟨d, reservation, .publishing⟩ =>
      if accepted then s.setSend id none else s.setSend id (some ⟨d, reservation, .failed⟩)
  | _ => s

/-- The `finally` block of a send that was not accepted. -/
def rollback (s : ConfigWrites) (id : ℕ) : ConfigWrites :=
  match s.sends id with
  | some ⟨d, reservation, .failed⟩ =>
      let s := s.setSend id none
      match s.pendingConfigWrites d with
      | none => s.emit (.failed d reservation false)
      | some pending =>
          (s.setPending d (keepNonempty (some (pending.erase reservation)))).emit
            (.failed d reservation (decide (reservation ∈ pending)))
  | _ => s

/-- The acknowledgement branch of `__on_message`; `known` tells the registers that
`_config_register_name` has a name for. -/
def acknowledge (known : PyStr → ℕ → Bool) (s : ConfigWrites) (d : PyStr) (parsedRegister : ℕ) :
    ConfigWrites :=
  let pending := s.pendingConfigWrites d
  if known d parsedRegister then
    let consumed := (pending.getD []).find? (·.registerNo = parsedRegister)
    let pending := pending.map (·.eraseP (·.registerNo = parsedRegister))
    (s.setPending d (keepNonempty pending)).emit (.acknowledged d parsedRegister consumed parsedRegister)
  else match pending with
  | some (oldest :: rest) =>
      (s.setPending d (keepNonempty (some rest))).emit
        (.acknowledged d parsedRegister (some oldest) oldest.registerNo)
  | _ =>
      (s.setPending d (keepNonempty pending)).emit
        (.acknowledged d parsedRegister none parsedRegister)

/-- `stop` sets the flag first. -/
def stopForward (s : ConfigWrites) : ConfigWrites := { s with forwardStopped := true }

/-- The end of `stop`. -/
def clearWrites (s : ConfigWrites) : ConfigWrites :=
  if s.forwardStopped then
    { s with pendingConfigWrites := fun _ => none,
             configAckTrackingDisabled := fun _ => false }.emit .cleared
  else s

end ConfigWrites

/-! ### Steps -/

inductive WriteAction where
  | reserve (d : PyStr) (registerNo : ℕ)
  | publish (id : ℕ) (accepted : Bool)
  | rollback (id : ℕ)
  | acknowledge (d : PyStr) (parsedRegister : ℕ)
  | stopForward
  | clearWrites

def writeStep (known : PyStr → ℕ → Bool) (s : ConfigWrites) : WriteAction → ConfigWrites
  | .reserve d registerNo => s.reserve d registerNo
  | .publish id accepted => s.publish id accepted
  | .rollback id => s.rollback id
  | .acknowledge d parsedRegister => s.acknowledge known d parsedRegister
  | .stopForward => s.stopForward
  | .clearWrites => s.clearWrites

/-! ### What the history says -/

/-- The entry of an event in the ledger of a device. -/
def WriteEvent.entry (d : PyStr) : WriteEvent → Option (Entry PendingRegister)
  | .sent d' reservation queued => if d' = d ∧ queued then some (.opened reservation) else none
  | .acknowledged d' _ (some consumed) _ => if d' = d then some (.closed consumed) else none
  | .failed d' reservation removed => if d' = d ∧ removed then some (.closed reservation) else none
  | _ => none

/-- The ledger of a device. -/
def ledger (d : PyStr) (history : List WriteEvent) : List (Entry PendingRegister) :=
  history.filterMap (WriteEvent.entry d)

/-- The reservations of a device that were queued and neither acknowledged nor given
up, in the order of sending. -/
def outstanding (d : PyStr) (history : List WriteEvent) : List PendingRegister :=
  openItems (ledger d history)

/-- The queue of a device was dropped, for good. -/
def Dropped (d : PyStr) (history : List WriteEvent) : Prop :=
  .overflowed d ∈ history ∨ .cleared ∈ history

/-- What the events of a device whose queue was not dropped do. -/
def WriteEvent.Exact (known : PyStr → ℕ → Bool) (history : List WriteEvent) : WriteEvent → Prop
  | .sent d reservation queued => (∀ d' q, .sent d' reservation q ∉ history) ∧
      (¬ Dropped d history → (queued = true ∧ (outstanding d history).length < maxPendingConfigWrites))
  | .overflowed d => ¬ Dropped d history → (outstanding d history).length = maxPendingConfigWrites
  | .acknowledged d reported consumed label => ¬ Dropped d history →
      if known d reported then
        consumed = (outstanding d history).find? (·.registerNo = reported) ∧ label = reported
      else
        consumed = (outstanding d history).head? ∧ label = consumed.elim reported (·.registerNo)
  | .failed d reservation removed => (∃ queued, .sent d reservation queued ∈ history) ∧
      (¬ Dropped d history → removed = decide (reservation ∈ outstanding d history))
  | .cleared => True

/-! ### Ledgers of the devices -/

section Ledger

variable {d : PyStr} {h : List WriteEvent} {e : WriteEvent} {r : PendingRegister}

theorem ledger_concat_of_none (he : e.entry d = none) : ledger d (h ++ [e]) = ledger d h := by
  rw [ledger, List.filterMap_append, List.filterMap_cons_none he]
  exact List.append_nil _

theorem outstanding_concat_of_none (he : e.entry d = none) :
    outstanding d (h ++ [e]) = outstanding d h := by
  rw [outstanding, ledger_concat_of_none he]
  rfl

theorem ledger_concat_of_some {x : Entry PendingRegister} (he : e.entry d = some x) :
    ledger d (h ++ [e]) = ledger d h ++ [x] := by
  rw [ledger, List.filterMap_append, List.filterMap_cons_some he]
  rfl

/-- What a ledger opened was sent. -/
theorem sent_of_mem_openedItems (hr : r ∈ openedItems (ledger d h)) : .sent d r true ∈ h := by
  obtain ⟨x, hx, hopened⟩ := List.mem_filterMap.mp hr
  obtain ⟨e, he, hentry⟩ := List.mem_filterMap.mp hx
  have hx' : x = .opened r := by
    cases x with
    | opened a =>
        obtain rfl := Option.some.inj hopened
        rfl
    | closed a => cases hopened
  rw [hx'] at hentry
  cases e with
  | sent d' r' queued =>
      rw [WriteEvent.entry] at hentry
      split_ifs at hentry with hd
      obtain ⟨rfl, rfl⟩ := hd
      obtain rfl := Entry.opened.inj (Option.some.inj hentry)
      exact he
  | overflowed d' => cases hentry
  | acknowledged d' reported consumed label =>
      rcases consumed with - | consumed
      · cases hentry
      · rw [WriteEvent.entry] at hentry
        split_ifs at hentry
        cases hentry
  | failed d' r' removed =>
      rw [WriteEvent.entry] at hentry
      split_ifs at hentry
      cases hentry
  | cleared => cases hentry

/-- Only two kinds of events drop a queue. -/
theorem dropped_concat : Dropped d (h ++ [e]) ↔ Dropped d h ∨ e = .overflowed d ∨ e = .cleared := by
  rw [Dropped, Dropped, List.mem_append, List.mem_append, List.mem_singleton, List.mem_singleton]
  constructor
  · rintro ((ho | rfl) | (hc | rfl))
    · exact Or.inl (Or.inl ho)
    · exact Or.inr (Or.inl rfl)
    · exact Or.inl (Or.inr hc)
    · exact Or.inr (Or.inr rfl)
  · rintro ((ho | hc) | (rfl | rfl))
    · exact Or.inl (Or.inl ho)
    · exact Or.inr (Or.inl hc)
    · exact Or.inl (Or.inr rfl)
    · exact Or.inr (Or.inr rfl)

end Ledger

@[simp] theorem keepNonempty_keepNonempty (q : Option (List PendingRegister)) :
    keepNonempty (keepNonempty q) = keepNonempty q := by
  rcases q with - | (- | ⟨r, q⟩) <;> rfl

theorem getD_keepNonempty (q : List PendingRegister) : (keepNonempty (some q)).getD [] = q := by
  rcases q with - | ⟨r, q⟩ <;> rfl

/-! ### The invariant -/

/-- The queues are what the history says. -/
structure Tracked (known : PyStr → ℕ → Bool) (s : ConfigWrites) : Prop where
  queue : ∀ d, ¬ Dropped d s.history →
    s.pendingConfigWrites d = keepNonempty (some (outstanding d s.history))
  dropped : ∀ d, Dropped d s.history → s.pendingConfigWrites d = none
  bounded : ∀ d, ¬ Dropped d s.history →
    (outstanding d s.history).length ≤ maxPendingConfigWrites
  disabled : ∀ d, s.configAckTrackingDisabled d = true ↔
    .overflowed d ∈ s.history ∧ .cleared ∉ s.history
  stopped : .cleared ∈ s.history → s.forwardStopped = true
  /-- Identities are given out once. -/
  fresh : ∀ d r queued, .sent d r queued ∈ s.history → r.id < s.created
  nodup : ∀ d, (openedItems (ledger d s.history)).Nodup
  closed : ∀ d, ∀ r ∈ closedItems (ledger d s.history), r ∈ openedItems (ledger d s.history)
  exact : Justified (WriteEvent.Exact known) s.history

/-- Every send under way has its reservation on record. -/
def SendsRecorded (s : ConfigWrites) : Prop :=
  ∀ id send, s.sends id = some send →
    ∃ queued, .sent send.deviceId send.reservation queued ∈ s.history

section Steps

variable {known : PyStr → ℕ → Bool} {s : ConfigWrites} {d : PyStr} {e : WriteEvent}
  {r : PendingRegister}

/-- The queue of a device that is not dropped, as a list. -/
theorem Tracked.getD_queue (h : Tracked known s) (hd : ¬ Dropped d s.history) :
    (s.pendingConfigWrites d).getD [] = outstanding d s.history := by
  rw [h.queue d hd, getD_keepNonempty]

theorem Tracked.nodup_outstanding (h : Tracked known s) (d : PyStr) :
    (outstanding d s.history).Nodup := nodup_openItems (h.nodup d)

/-- No queue is stored empty. -/
theorem Tracked.keepNonempty_queue (h : Tracked known s) (d : PyStr) :
    keepNonempty (s.pendingConfigWrites d) = s.pendingConfigWrites d := by
  by_cases hd : Dropped d s.history
  · rw [h.dropped d hd]
    rfl
  · rw [h.queue d hd, keepNonempty_keepNonempty]

/-- Identities stay fresh if a new event has none that is not. -/
theorem Tracked.fresh_concat (h : Tracked known s) {n : ℕ} (hn : s.created ≤ n)
    (hfresh : ∀ d r queued, e = .sent d r queued → r.id < n) :
    ∀ d r queued, .sent d r queued ∈ s.history ++ [e] → r.id < n := by
  intro d r queued hr
  rcases List.mem_append.mp hr with hr | hr
  · exact lt_of_lt_of_le (h.fresh d r queued hr) hn
  · exact hfresh d r queued (List.mem_singleton.mp hr).symm

/-- An event that is on no ledger opens nothing, -/
theorem Tracked.nodup_silent (h : Tracked known s) (hentry : ∀ d, e.entry d = none) :
    ∀ d, (openedItems (ledger d (s.history ++ [e]))).Nodup := by
  intro d
  rw [ledger_concat_of_none (hentry d)]
  exact h.nodup d

/-- and closes nothing. -/
theorem Tracked.closed_silent (h : Tracked known s) (hentry : ∀ d, e.entry d = none) :
    ∀ d, ∀ r ∈ closedItems (ledger d (s.history ++ [e])),
      r ∈ openedItems (ledger d (s.history ++ [e])) := by
  intro d
  rw [ledger_concat_of_none (hentry d)]
  exact h.closed d

theorem Tracked.setSend (h : Tracked known s) (id : ℕ) (send : Option ConfigSend) :
    Tracked known (s.setSend id send) :=
  ⟨h.queue, h.dropped, h.bounded, h.disabled, h.stopped, h.fresh, h.nodup, h.closed, h.exact⟩

/-- A new event is recorded with the queue of its device.  What is left to show is
about that device alone. -/
theorem Tracked.emit (h : Tracked known s) {q : Option (List PendingRegister)} {n : ℕ}
    (hkind : (∀ d', e ≠ .overflowed d') ∧ e ≠ .cleared) (hother : ∀ d', d' ≠ d → e.entry d' = none)
    (hqueue : ¬ Dropped d s.history → q = keepNonempty (some (outstanding d (s.history ++ [e]))))
    (hdropped : Dropped d s.history → q = none)
    (hbounded : ¬ Dropped d s.history →
      (outstanding d (s.history ++ [e])).length ≤ maxPendingConfigWrites)
    (hn : s.created ≤ n) (hfresh : ∀ d' r queued, e = .sent d' r queued → r.id < n)
    (hnodup : (openedItems (ledger d (s.history ++ [e]))).Nodup)
    (hclosed : ∀ r ∈ closedItems (ledger d (s.history ++ [e])),
      r ∈ openedItems (ledger d (s.history ++ [e])))
    (hexact : e.Exact known s.history) :
    Tracked known ({ s.setPending d q with created := n }.emit e) := by
  -- the event drops no queue
  have hoverflowed : ∀ d', .overflowed d' ∈ s.history ++ [e] ↔ .overflowed d' ∈ s.history := by
    intro d'
    rw [List.mem_append, List.mem_singleton]
    exact or_iff_left fun he => hkind.1 d' he.symm
  have hcleared : .cleared ∈ s.history ++ [e] ↔ .cleared ∈ s.history := by
    rw [List.mem_append, List.mem_singleton]
    exact or_iff_left fun he => hkind.2 he.symm
  have hdrop : ∀ d', Dropped d' (s.history ++ [e]) ↔ Dropped d' s.history := fun d' => by
    rw [Dropped, hoverflowed, hcleared, Dropped]
  -- and is in no other device's ledger
  have hledger : ∀ d', d' ≠ d → ledger d' (s.history ++ [e]) = ledger d' s.history :=
    fun d' hd => ledger_concat_of_none (hother d' hd)
  have houtstanding : ∀ d', d' ≠ d → outstanding d' (s.history ++ [e]) = outstanding d' s.history :=
    fun d' hd => outstanding_concat_of_none (hother d' hd)
  have hqueues : ∀ d', d' ≠ d → Function.update s.pendingConfigWrites d q d' =
      s.pendingConfigWrites d' := fun d' hd => Function.update_of_ne hd _ _
  constructor
  case queue =>
    intro d' hd'
    replace hd' := mt (hdrop d').mpr hd'
    show Function.update s.pendingConfigWrites d q d' = _
    by_cases hd : d' = d
    · subst hd
      rw [Function.update_self, hqueue hd']
      rfl
    · rw [hqueues d' hd, h.queue d' hd', ← houtstanding d' hd]
      rfl
  case dropped =>
    intro d' hd'
    replace hd' := (hdrop d').mp hd'
    show Function.update s.pendingConfigWrites d q d' = _
    by_cases hd : d' = d
    · subst hd
      rw [Function.update_self, hdropped hd']
    · rw [hqueues d' hd, h.dropped d' hd']
  case bounded =>
    intro d' hd'
    replace hd' := mt (hdrop d').mpr hd'
    by_cases hd : d' = d
    · subst hd
      exact hbounded hd'
    · exact (congrArg List.length (houtstanding d' hd)).trans_le (h.bounded d' hd')
  case disabled =>
    intro d'
    show _ ↔ .overflowed d' ∈ s.history ++ [e] ∧ .cleared ∉ s.history ++ [e]
    rw [hoverflowed, hcleared]
    exact h.disabled d'
  case stopped => exact fun hc => h.stopped (hcleared.mp hc)
  case fresh => exact h.fresh_concat hn hfresh
  case nodup =>
    intro d'
    by_cases hd : d' = d
    · subst hd
      exact hnodup
    · show (openedItems (ledger d' (s.history ++ [e]))).Nodup
      rw [hledger d' hd]
      exact h.nodup d'
  case closed =>
    intro d'
    by_cases hd : d' = d
    · subst hd
      exact hclosed
    · show ∀ r ∈ closedItems (ledger d' (s.history ++ [e])),
        r ∈ openedItems (ledger d' (s.history ++ [e]))
      rw [hledger d' hd]
      exact h.closed d'
  -- what was justified before stays so
  case exact => exact h.exact.concat hexact

theorem setPending_self (s : ConfigWrites) (d : PyStr) :
    s.setPending d (s.pendingConfigWrites d) = s := by
  rw [ConfigWrites.setPending, Function.update_eq_self]

/-- An event that changes no ledger leaves the queues as they are. -/
theorem Tracked.emit_silent (h : Tracked known s) {n : ℕ}
    (hkind : (∀ d', e ≠ .overflowed d') ∧ e ≠ .cleared) (hentry : ∀ d', e.entry d' = none)
    (hn : s.created ≤ n) (hfresh : ∀ d' r queued, e = .sent d' r queued → r.id < n)
    (hexact : e.Exact known s.history) :
    Tracked known ({ s with created := n }.emit e) := by
  -- the event is about no device, so any device will do
  rw [← setPending_self s []]
  refine h.emit hkind (fun d' _ => hentry d') ?_ (h.dropped []) ?_ hn hfresh
    (h.nodup_silent hentry []) (h.closed_silent hentry []) hexact
  · intro hd
    rw [outstanding_concat_of_none (hentry [])]
    exact h.queue [] hd
  · intro hd
    rw [outstanding_concat_of_none (hentry [])]
    exact h.bounded [] hd

/-- An event that closes a reservation takes it out of the queue. -/
theorem Tracked.emit_closed (h : Tracked known s)
    (hkind : (∀ d', e ≠ .overflowed d') ∧ e ≠ .cleared) (hother : ∀ d', d' ≠ d → e.entry d' = none)
    (hentry : e.entry d = some (.closed r)) (hd : ¬ Dropped d s.history)
    (hr : r ∈ outstanding d s.history) (hsent : ∀ d' r queued, e ≠ .sent d' r queued)
    (hexact : e.Exact known s.history) :
    Tracked known ((s.setPending d
      (keepNonempty (some ((outstanding d s.history).filter (· ≠ r))))).emit e) := by
  have hledger : ledger d (s.history ++ [e]) = ledger d s.history ++ [.closed r] :=
    ledger_concat_of_some hentry
  have houtstanding : outstanding d (s.history ++ [e]) =
      (outstanding d s.history).filter (· ≠ r) := by
    rw [outstanding, hledger, openItems_concat_closed]
    rfl
  refine h.emit hkind hother ?_ (fun hdropped => absurd hdropped hd) ?_ (le_refl _) ?_ ?_ ?_ hexact
  · intro _
    rw [houtstanding]
  · intro _
    rw [houtstanding]
    exact le_trans (List.length_filter_le _ _) (h.bounded d hd)
  · intro d' r' queued he
    exact absurd he (hsent d' r' queued)
  · rw [hledger, openedItems_concat_closed]
    exact h.nodup d
  · intro r' hr'
    rw [hledger, openedItems_concat_closed]
    rw [hledger, closedItems_concat_closed, List.mem_append, List.mem_singleton] at hr'
    rcases hr' with hr' | rfl
    · exact h.closed d r' hr'
    · exact (mem_openItems.mp hr).1

/-- Only a stopped client clears its queues. -/
theorem Tracked.not_cleared (h : Tracked known s) (hs : s.forwardStopped = false) :
    .cleared ∉ s.history := by
  intro hc
  rw [h.stopped hc] at hs
  cases hs

/-- A device that is tracked was not dropped, unless the client cleared its queues. -/
theorem Tracked.not_dropped (h : Tracked known s) (hcleared : .cleared ∉ s.history)
    (hd : s.configAckTrackingDisabled d = false) : ¬ Dropped d s.history := by
  rintro (ho | hc)
  · rw [(h.disabled d).mpr ⟨ho, hcleared⟩] at hd
    cases hd
  · exact hcleared hc

theorem Tracked.new_identity (h : Tracked known s) (hr : r.id = s.created) (d : PyStr)
    (queued : Bool) : .sent d r queued ∉ s.history := by
  intro hmem
  have hlt := h.fresh d r queued hmem
  rw [hr] at hlt
  exact lt_irrefl _ hlt

/-- Dropping a full queue. -/
theorem Tracked.overflow (h : Tracked known s) (hs : s.forwardStopped = false)
    (hlength : ¬ Dropped d s.history → (outstanding d s.history).length = maxPendingConfigWrites) :
    Tracked known ({ s.setPending d none with
      configAckTrackingDisabled := Function.update s.configAckTrackingDisabled d true }.emit
        (.overflowed d)) := by
  have hcleared := h.not_cleared hs
  have hmem : ∀ d', .overflowed d' ∈ s.history ++ [.overflowed d] ↔
      .overflowed d' ∈ s.history ∨ d' = d := by
    intro d'
    rw [List.mem_append, List.mem_singleton, WriteEvent.overflowed.injEq]
  have hcleared' : .cleared ∉ s.history ++ [.overflowed d] := by
    rw [List.mem_append, List.mem_singleton]
    rintro (hc | he)
    · exact hcleared hc
    · cases he
  have houtstanding : ∀ d', outstanding d' (s.history ++ [.overflowed d]) =
      outstanding d' s.history := fun d' => outstanding_concat_of_none rfl
  refine ⟨?_, ?_, ?_, ?_, ?_, ?_, ?_, ?_, h.exact.concat hlength⟩
  · intro d' hd'
    have hne : d' ≠ d := fun he => hd' (Or.inl ((hmem d').mpr (Or.inr he)))
    have hd : ¬ Dropped d' s.history := fun hd => hd' (dropped_concat.mpr (Or.inl hd))
    show Function.update s.pendingConfigWrites d none d' = _
    rw [Function.update_of_ne hne, h.queue d' hd, ← houtstanding d']
    rfl
  · intro d' hd'
    show Function.update s.pendingConfigWrites d none d' = _
    by_cases hd : d' = d
    · subst hd
      exact Function.update_self _ _ _
    · rw [Function.update_of_ne hd]
      apply h.dropped d'
      rcases hd' with ho | hc
      · exact Or.inl (((hmem d').mp ho).resolve_right hd)
      · exact absurd hc hcleared'
  · intro d' hd'
    have hd : ¬ Dropped d' s.history := fun hd => hd' (dropped_concat.mpr (Or.inl hd))
    exact (congrArg List.length (houtstanding d')).trans_le (h.bounded d' hd)
  · intro d'
    show Function.update s.configAckTrackingDisabled d true d' = true ↔
      WriteEvent.overflowed d' ∈ s.history ++ [.overflowed d] ∧
        WriteEvent.cleared ∉ s.history ++ [.overflowed d]
    rw [hmem d']
    by_cases hd : d' = d
    · subst hd
      rw [Function.update_self]
      exact ⟨fun _ => ⟨Or.inr rfl, hcleared'⟩, fun _ => rfl⟩
    · rw [Function.update_of_ne hd, h.disabled d']
      constructor
      · rintro ⟨ho, -⟩
        exact ⟨Or.inl ho, hcleared'⟩
      · rintro ⟨ho, -⟩
        exact ⟨ho.resolve_right hd, hcleared⟩
  · intro hc
    exact absurd hc hcleared'
  · exact h.fresh_concat (le_refl _) nofun
  · exact h.nodup_silent fun d' => rfl
  · exact h.closed_silent fun d' => rfl

/-- A reservation is put at the end of its queue. -/
theorem Tracked.emit_opened (h : Tracked known s) (hr : r.id = s.created)
    (hd : ¬ Dropped d s.history)
    (hlength : (outstanding d s.history).length < maxPendingConfigWrites) :
    Tracked known ({ s.setPending d (some ((s.pendingConfigWrites d).getD [] ++ [r])) with
      created := s.created + 1 }.emit (.sent d r true)) := by
  rw [h.getD_queue hd]
  have hentry : (WriteEvent.sent d r true).entry d = some (.opened r) := if_pos ⟨rfl, rfl⟩
  have hother : ∀ d', d' ≠ d → (WriteEvent.sent d r true).entry d' = none :=
    fun d' hne => if_neg fun hand => hne hand.1.symm
  have hledger : ledger d (s.history ++ [.sent d r true]) = ledger d s.history ++ [.opened r] :=
    ledger_concat_of_some hentry
  have hopened : r ∉ openedItems (ledger d s.history) := fun hmem =>
    h.new_identity hr d true (sent_of_mem_openedItems hmem)
  have hclosed : r ∉ closedItems (ledger d s.history) := fun hmem => hopened (h.closed d r hmem)
  have houtstanding : outstanding d (s.history ++ [.sent d r true]) =
      outstanding d s.history ++ [r] := by
    rw [outstanding, hledger, openItems_concat_opened hclosed]
    rfl
  refine h.emit ⟨nofun, nofun⟩ hother ?_ (fun hdropped => absurd hdropped hd) ?_
    (Nat.le_succ _) ?_ ?_ ?_ ?_
  · intro _
    rw [houtstanding]
    rcases outstanding d s.history with - | ⟨r', q⟩ <;> rfl
  · intro _
    rw [houtstanding, List.length_append]
    exact hlength
  · intro d' r' queued he
    obtain ⟨-, rfl, -⟩ := WriteEvent.sent.inj he
    rw [hr]
    exact Nat.lt_succ_self _
  · rw [hledger, openedItems_concat_opened, ← List.concat_eq_append]
    exact List.Nodup.concat hopened (h.nodup d)
  · intro r' hr'
    rw [hledger, closedItems_concat_opened] at hr'
    rw [hledger, openedItems_concat_opened]
    exact List.mem_append_left _ (h.closed d r' hr')
  · exact ⟨fun d' queued => h.new_identity hr d' queued, fun _ => ⟨rfl, hlength⟩⟩

/-- A send that is not queued leaves the queue as it is. -/
theorem Tracked.emit_unqueued (h : Tracked known s) (hr : r.id = s.created)
    (hd : Dropped d s.history) :
    Tracked known ({ s with created := s.created + 1 }.emit (.sent d r false)) := by
  have hentry : ∀ d', (WriteEvent.sent d r false).entry d' = none :=
    fun d' => if_neg fun hand => Bool.false_ne_true hand.2
  refine h.emit_silent ⟨nofun, nofun⟩ hentry (Nat.le_succ s.created) ?_
    ⟨fun d' queued => h.new_identity hr d' queued, fun hnot => absurd hd hnot⟩
  intro d' r' queued he
  obtain ⟨-, rfl, -⟩ := WriteEvent.sent.inj he
  rw [hr]
  exact Nat.lt_succ_self _

theorem Tracked.reserve (h : Tracked known s) (d : PyStr) (registerNo : ℕ) :
    Tracked known (s.reserve d registerNo) := by
  unfold ConfigWrites.reserve
  dsimp only
  have hs := h.setSend s.created (some ⟨d, ⟨s.created, registerNo⟩, .publishing⟩)
  split_ifs with hstopped hdisabled hfull
  · exact h
  · exact hs.emit_unqueued rfl (Or.inl ((h.disabled d).mp hdisabled).1)
  · rw [Bool.not_eq_true] at hstopped hdisabled
    have hd := h.not_dropped (h.not_cleared hstopped) hdisabled
    have hqueue : (s.pendingConfigWrites d).getD [] = outstanding d s.history := h.getD_queue hd
    have hfull' : (outstanding d s.history).length = maxPendingConfigWrites :=
      le_antisymm (h.bounded d hd) (hqueue ▸ hfull)
    have hover := hs.overflow (d := d) hstopped fun _ => hfull'
    exact hover.emit_unqueued rfl (Or.inl (List.mem_append_right _ (List.mem_singleton_self _)))
  · rw [Bool.not_eq_true] at hstopped hdisabled
    have hd := h.not_dropped (h.not_cleared hstopped) hdisabled
    have hqueue : (s.pendingConfigWrites d).getD [] = outstanding d s.history := h.getD_queue hd
    have hlength : (outstanding d s.history).length < maxPendingConfigWrites := by
      rw [← hqueue]
      exact Nat.not_le.mp hfull
    exact hs.emit_opened rfl hd hlength

theorem Tracked.publish (h : Tracked known s) (id : ℕ) (accepted : Bool) :
    Tracked known (s.publish id accepted) := by
  unfold ConfigWrites.publish
  split
  · split_ifs
    · exact h.setSend _ _
    · exact h.setSend _ _
  · exact h

/-- A write that failed gives up its own reservation, if it is still there. -/
theorem Tracked.rollback (h : Tracked known s) (hsends : SendsRecorded s) (id : ℕ) :
    Tracked known (s.rollback id) := by
  unfold ConfigWrites.rollback
  split
  · rename_i d r hsend
    have hsent : ∃ queued, .sent d r queued ∈ s.history := hsends id _ hsend
    have hs := h.setSend id none
    dsimp only
    have hsilent : ∀ removed, removed = false →
        (¬ Dropped d s.history → removed = decide (r ∈ outstanding d s.history)) →
        Tracked known ((s.setSend id none).emit (.failed d r removed)) := by
      rintro removed rfl hremoved
      have hentry : ∀ d', (WriteEvent.failed d r false).entry d' = none :=
        fun d' => if_neg fun hand => Bool.false_ne_true hand.2
      exact hs.emit_silent ⟨nofun, nofun⟩ hentry (le_refl _) nofun ⟨hsent, hremoved⟩
    rcases hq : (s.setSend id none).pendingConfigWrites d with - | q
    · apply hsilent false rfl
      intro hd
      have hempty : outstanding d s.history = [] := by
        have hqueue := hs.getD_queue hd
        rw [hq] at hqueue
        exact hqueue.symm
      rw [hempty]
      rfl
    · have hd : ¬ Dropped d s.history := by
        intro hd
        rw [hs.dropped d hd] at hq
        cases hq
      obtain rfl : q = outstanding d s.history := by
        have hqueue := hs.getD_queue hd
        rw [hq] at hqueue
        exact hqueue
      dsimp only
      by_cases hr : r ∈ outstanding d s.history
      · have herase : (outstanding d s.history).erase r = (outstanding d s.history).filter (· ≠ r) := by
          rw [(h.nodup_outstanding d).erase_eq_filter]
          exact List.filter_congr fun r' _ => by by_cases hrr : r' = r <;> simp [hrr]
        rw [herase, decide_eq_true hr]
        have hentry : (WriteEvent.failed d r true).entry d = some (.closed r) := if_pos ⟨rfl, rfl⟩
        exact hs.emit_closed ⟨nofun, nofun⟩ (fun d' hne => if_neg fun hand => hne hand.1.symm) hentry
          hd hr nofun ⟨hsent, fun _ => (decide_eq_true hr).symm⟩
      -- an acknowledgement was faster, or the reservation was never queued
      · have hkeep : keepNonempty (some ((outstanding d s.history).erase r)) =
            (s.setSend id none).pendingConfigWrites d := by
          rw [List.erase_of_not_mem hr, ← hq, hs.keepNonempty_queue d]
        rw [hkeep, setPending_self, decide_eq_false hr]
        exact hsilent false rfl fun _ => (decide_eq_false hr).symm
  · exact h

/-- A device has no queue, or it has one that is not empty and holds what is
outstanding. -/
theorem Tracked.queue_cases (h : Tracked known s) (d : PyStr) :
    (s.pendingConfigWrites d = none ∧ (¬ Dropped d s.history → outstanding d s.history = [])) ∨
      ∃ oldest rest, s.pendingConfigWrites d = some (oldest :: rest) ∧
        outstanding d s.history = oldest :: rest ∧ ¬ Dropped d s.history := by
  by_cases hd : Dropped d s.history
  · exact Or.inl ⟨h.dropped d hd, fun hnot => absurd hd hnot⟩
  · have hqueue := h.queue d hd
    rcases ho : outstanding d s.history with - | ⟨oldest, rest⟩
    · rw [ho] at hqueue
      exact Or.inl ⟨hqueue, fun _ => rfl⟩
    · rw [ho] at hqueue
      exact Or.inr ⟨oldest, rest, hqueue, rfl, hd⟩

/-- An acknowledgement that takes nothing out. -/
theorem Tracked.emit_unmatched (h : Tracked known s) {reported label : ℕ}
    (hexact : (WriteEvent.acknowledged d reported none label).Exact known s.history) :
    Tracked known ((s.setPending d (keepNonempty (s.pendingConfigWrites d))).emit
      (.acknowledged d reported none label)) := by
  rw [h.keepNonempty_queue d, setPending_self]
  exact h.emit_silent ⟨nofun, nofun⟩ (fun _ => rfl) (le_refl _) nofun hexact

/-- A device with nothing outstanding: whatever the register is, nothing is taken out. -/
theorem Tracked.emit_nothing_pending (h : Tracked known s) (hnone : s.pendingConfigWrites d = none)
    (hempty : ¬ Dropped d s.history → outstanding d s.history = []) (reported : ℕ) :
    Tracked known ((s.setPending d (keepNonempty none)).emit
      (.acknowledged d reported none reported)) := by
  have hexact : (WriteEvent.acknowledged d reported none reported).Exact known s.history := by
    intro hd
    rw [hempty hd]
    split_ifs
    · exact ⟨rfl, rfl⟩
    · exact ⟨rfl, rfl⟩
  have hunmatched := h.emit_unmatched hexact
  rw [hnone] at hunmatched
  exact hunmatched

/-- An acknowledgement that takes out a write. -/
theorem Tracked.emit_matched (h : Tracked known s) {reported label : ℕ} {rest : List PendingRegister}
    (hd : ¬ Dropped d s.history) (hr : r ∈ outstanding d s.history)
    (hrest : rest = (outstanding d s.history).filter (· ≠ r))
    (hexact : (WriteEvent.acknowledged d reported (some r) label).Exact known s.history) :
    Tracked known ((s.setPending d (keepNonempty (some rest))).emit
      (.acknowledged d reported (some r) label)) := by
  rw [hrest]
  exact h.emit_closed ⟨nofun, nofun⟩ (fun d' hne => if_neg (Ne.symm hne)) (if_pos rfl) hd hr nofun
    hexact

/-- An acknowledgement takes out the oldest write, or the oldest of its register. -/
theorem Tracked.acknowledge (h : Tracked known s) (d : PyStr) (parsedRegister : ℕ) :
    Tracked known (s.acknowledge known d parsedRegister) := by
  unfold ConfigWrites.acknowledge
  dsimp only
  by_cases hknown : known d parsedRegister = true
  · rw [if_pos hknown]
    rcases h.queue_cases d with ⟨hnone, hempty⟩ | ⟨oldest, rest, hsome, ho, hd⟩
    · rw [hnone]
      exact h.emit_nothing_pending hnone hempty parsedRegister
    · rw [hsome, Option.getD_some, Option.map_some]
      rcases hfind : (oldest :: rest).find? (·.registerNo = parsedRegister) with - | r
      · have hexact : (WriteEvent.acknowledged d parsedRegister none parsedRegister).Exact known
            s.history := by
          intro _
          rw [if_pos hknown, ho, hfind]
          exact ⟨rfl, rfl⟩
        have hunmatched := h.emit_unmatched hexact
        rw [hsome] at hunmatched
        rwa [List.eraseP_of_forall_not (List.find?_eq_none.mp hfind), hfind]
      · rw [hfind]
        apply h.emit_matched hd
        · rw [ho]
          exact List.mem_of_find?_eq_some hfind
        · rw [ho]
          exact eraseP_eq_filter (ho ▸ h.nodup_outstanding d) hfind
        · intro _
          rw [if_pos hknown, ho, hfind]
          exact ⟨rfl, rfl⟩
  · rw [if_neg hknown]
    rcases h.queue_cases d with ⟨hnone, hempty⟩ | ⟨oldest, rest, hsome, ho, hd⟩
    · rw [hnone]
      exact h.emit_nothing_pending hnone hempty parsedRegister
    · rw [hsome]
      apply h.emit_matched hd
      · rw [ho]
        exact List.mem_cons_self
      -- the head of a queue without repetitions
      · rw [ho, ← eraseP_eq_filter (p := fun _ => true) (ho ▸ h.nodup_outstanding d) rfl]
        rfl
      · intro _
        rw [if_neg hknown, ho]
        exact ⟨rfl, rfl⟩

/-- Clearing drops every queue. -/
theorem Tracked.clearWrites (h : Tracked known s) : Tracked known s.clearWrites := by
  unfold ConfigWrites.clearWrites
  split_ifs with hs
  · have hcleared : .cleared ∈ s.history ++ [.cleared] :=
      List.mem_append_right _ (List.mem_singleton_self _)
    refine ⟨?_, fun _ _ => rfl, ?_, ?_, fun _ => hs, ?_, ?_, ?_, h.exact.concat trivial⟩
    · intro d hd
      exact absurd (Or.inr hcleared) hd
    · intro d hd
      exact absurd (Or.inr hcleared) hd
    · intro d
      constructor
      · intro hd
        cases hd
      · rintro ⟨-, hnot⟩
        exact absurd hcleared hnot
    · exact h.fresh_concat (le_refl _) nofun
    · exact h.nodup_silent fun d => rfl
    · exact h.closed_silent fun d => rfl
  · exact h

/-! ### Sends under way -/

theorem SendsRecorded.mono {s' : ConfigWrites} (h : SendsRecorded s)
    (hsends : ∀ id send, s'.sends id = some send → ∃ send', s.sends id = some send' ∧
      send.deviceId = send'.deviceId ∧ send.reservation = send'.reservation)
    (hhistory : ∀ e ∈ s.history, e ∈ s'.history) : SendsRecorded s' := by
  intro id send hsend
  obtain ⟨send', hsend', hdevice, hreservation⟩ := hsends id send hsend
  obtain ⟨queued, hsent⟩ := h id send' hsend'
  rw [hdevice, hreservation]
  exact ⟨queued, hhistory _ hsent⟩

/-- A send whose reservation was just recorded. -/
theorem SendsRecorded.reserved {s' : ConfigWrites} {id : ℕ} {queued : Bool}
    {l : List WriteEvent} (h : SendsRecorded s)
    (hsends : s'.sends = Function.update s.sends id (some ⟨d, r, .publishing⟩))
    (hhistory : s'.history = s.history ++ l) (hsent : .sent d r queued ∈ l) :
    SendsRecorded s' := by
  intro id' send hsend
  rw [hsends] at hsend
  rw [hhistory]
  by_cases hid : id' = id
  · subst hid
    rw [Function.update_self] at hsend
    obtain rfl := Option.some.inj hsend
    exact ⟨queued, List.mem_append_right _ hsent⟩
  · rw [Function.update_of_ne hid] at hsend
    obtain ⟨queued', hsent'⟩ := h id' send hsend
    exact ⟨queued', List.mem_append_left _ hsent'⟩

theorem SendsRecorded.reserve (h : SendsRecorded s) (d : PyStr) (registerNo : ℕ) :
    SendsRecorded (s.reserve d registerNo) := by
  unfold ConfigWrites.reserve
  dsimp only
  split_ifs
  · exact h
  · exact h.reserved rfl rfl (List.mem_singleton_self _)
  · apply h.reserved (l := [.overflowed d, .sent d ⟨s.created, registerNo⟩ false]) rfl
    · exact List.append_assoc _ _ _
    · exact List.mem_cons_of_mem _ (List.mem_singleton_self _)
  · exact h.reserved rfl rfl (List.mem_singleton_self _)

/-- A send that ends, or that goes on with what it had. -/
theorem SendsRecorded.setSend (h : SendsRecorded s) {id : ℕ} {send : Option ConfigSend}
    (hsend : ∀ after, send = some after → ∃ before, s.sends id = some before ∧
      after.deviceId = before.deviceId ∧ after.reservation = before.reservation) :
    SendsRecorded (s.setSend id send) := by
  apply h.mono
  · intro id' after hafter
    have hupdate : Function.update s.sends id send id' = some after := hafter
    by_cases hid : id' = id
    · subst hid
      rw [Function.update_self] at hupdate
      exact hsend after hupdate
    · rw [Function.update_of_ne hid] at hupdate
      exact ⟨after, hupdate, rfl, rfl⟩
  · exact fun e he => he

theorem SendsRecorded.emit (h : SendsRecorded s) (q : Option (List PendingRegister)) :
    SendsRecorded ((s.setPending d q).emit e) :=
  h.mono (fun _ send hsend => ⟨send, hsend, rfl, rfl⟩) fun _ he => List.mem_append_left _ he

theorem SendsRecorded.publish (h : SendsRecorded s) (id : ℕ) (accepted : Bool) :
    SendsRecorded (s.publish id accepted) := by
  unfold ConfigWrites.publish
  split
  · rename_i d r hsend
    split_ifs
    · exact h.setSend nofun
    · apply h.setSend
      rintro after hafter
      obtain rfl := Option.some.inj hafter
      exact ⟨_, hsend, rfl, rfl⟩
  · exact h

theorem SendsRecorded.rollback (h : SendsRecorded s) (id : ℕ) : SendsRecorded (s.rollback id) := by
  unfold ConfigWrites.rollback
  split
  · rename_i d r hsend
    have hs : SendsRecorded (s.setSend id none) := h.setSend nofun
    dsimp only
    split
    · rw [← setPending_self (s.setSend id none) d]
      exact hs.emit _
    · exact hs.emit _
  · exact h

theorem SendsRecorded.acknowledge (h : SendsRecorded s) (d : PyStr) (parsedRegister : ℕ) :
    SendsRecorded (s.acknowledge known d parsedRegister) := by
  unfold ConfigWrites.acknowledge
  dsimp only
  split_ifs
  · exact h.emit _
  · split <;> exact h.emit _

theorem SendsRecorded.clearWrites (h : SendsRecorded s) : SendsRecorded s.clearWrites := by
  unfold ConfigWrites.clearWrites
  split_ifs
  · exact h.mono (fun _ send hsend => ⟨send, hsend, rfl, rfl⟩) fun _ he => List.mem_append_left _ he
  · exact h

theorem SendsRecorded.step (h : SendsRecorded s) (a : WriteAction) :
    SendsRecorded (writeStep known s a) := by
  cases a with
  | reserve d registerNo => exact h.reserve d registerNo
  | publish id accepted => exact h.publish id accepted
  | rollback id => exact h.rollback id
  | acknowledge d parsedRegister => exact h.acknowledge d parsedRegister
  | stopForward => exact h
  | clearWrites => exact h.clearWrites

end Steps

/-! ### Runs -/

end GroBro
