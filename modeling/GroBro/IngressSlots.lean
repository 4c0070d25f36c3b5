/-
GroBro/IngressSlots.lean

`BoundedIngressServer` of `grobro/ha/battery_ingress.py`: every request of the page has a thread
of its own, and a bounded semaphore limits how many there are.

The accept loop handles one request after the other: it takes a slot or answers 503, and starts
the thread, which may fail.  A thread serves its request, shuts it down and gives the slot back.
These steps, and those of the standard library around them (`handle_error` and
`shutdown_request` of `socketserver`), come in any order.

* `ingress_slots_exact`: free slots and slots in use are the limit at any time, so that
  `release` never raises, a request is refused exactly if the limit is reached, and no request
  is shut down twice or never.
-/
import Mathlib
import GroBro.Machine

/-! ### Counted holders -/

namespace SlotCount

/-- How many slots the first `n` holders have. -/
def held (slots : ℕ → ℕ) (n : ℕ) : ℕ := (Finset.range n).sum slots

variable {slots slots' : ℕ → ℕ} {n i : ℕ}

theorem held_congr (h : ∀ j < n, slots' j = slots j) : held slots' n = held slots n :=
  Finset.sum_congr rfl fun j hj => h j (Finset.mem_range.mp hj)

theorem held_succ (slots : ℕ → ℕ) (n : ℕ) : held slots (n + 1) = held slots n + slots n :=
  Finset.sum_range_succ slots n

/-- One holder has other slots. -/
theorem held_change (hi : i < n) (h : ∀ j, j ≠ i → slots' j = slots j) :
    held slots' n + slots i = held slots n + slots' i := by
  have hmem : i ∈ Finset.range n := Finset.mem_range.mpr hi
  have hrest : ((Finset.range n).erase i).sum slots' = ((Finset.range n).erase i).sum slots :=
    Finset.sum_congr rfl fun j hj => h j (Finset.ne_of_mem_erase hj)
  have hnew : slots' i + ((Finset.range n).erase i).sum slots' = held slots' n :=
    Finset.add_sum_erase _ slots' hmem
  have hold : slots i + ((Finset.range n).erase i).sum slots = held slots n :=
    Finset.add_sum_erase _ slots hmem
  omega

theorem le_held (slots : ℕ → ℕ) (hi : i < n) : slots i ≤ held slots n :=
  Finset.single_le_sum (fun _ _ => Nat.zero_le _) (Finset.mem_range.mpr hi)

end SlotCount

namespace GroBro

open Machine SlotCount

/-! ### The server -/

/-- How far a request is. -/
inductive RequestStage where
  /-- There is no such request yet. -/
  | absent
  | accepted
  /-- Without a slot. -/
  | refused
  | acquired
  /-- No thread could be started, and the slot is given back. -/
  | failed
  | serving
  /-- Its thread has shut it down, and not yet given the slot back. -/
  | served
  | done
  deriving DecidableEq

namespace RequestStage

/-- The slots that the request has. -/
def slots : RequestStage → ℕ
  | acquired | serving | served => 1
  | _ => 0

/-- It is at the accept loop. -/
def inLoop : RequestStage → Bool
  | accepted | refused | acquired | failed => true
  | _ => false

/-- How often its socket was shut down. -/
def shutdowns : RequestStage → ℕ
  | served | done => 1
  | _ => 0

end RequestStage

structure IngressServer where
  /-- The value of `_request_slots`. -/
  free : ℕ
  /-- The requests in the order in which they were accepted. -/
  stage : ℕ → RequestStage
  /-- The calls of `shutdown_request`. -/
  shutdowns : ℕ → ℕ
  next : ℕ
  /-- The request that the accept loop is at. -/
  current : Option ℕ
  /-- `BoundedSemaphore.release` raised a `ValueError`. -/
  releaseRaised : Bool

inductive IngressAction where
  | accept
  | acquire
  | refuse
  | startThread (ok : Bool)
  | handleError
  | serve (i : ℕ)
  | finish (i : ℕ)

/-- Who takes the step: the accept loop, or the thread of a request. -/
def IngressAction.thread : IngressAction → Option ℕ
  | serve i | finish i => some i
  | _ => none

namespace IngressServer

def start (maxRequests : ℕ) : IngressServer where
  free := maxRequests
  stage _ := .absent
  shutdowns _ := 0
  next := 0
  current := none
  releaseRaised := false

variable (maxRequests : ℕ) (s : IngressServer)

def setStage (i : ℕ) (stage : RequestStage) : IngressServer :=
  { s with stage := Function.update s.stage i stage }

/-- `shutdown_request` -/
def shutdownRequest (i : ℕ) : IngressServer :=
  { s with shutdowns := Function.update s.shutdowns i (s.shutdowns i + 1) }

/-- `BoundedSemaphore.release` -/
def release : IngressServer :=
  if s.free < maxRequests then { s with free := s.free + 1 } else { s with releaseRaised := true }

/-- The request at the accept loop, if it is as far as this. -/
def loopAt (stage : RequestStage) : Option ℕ := s.current.filter fun i => s.stage i = stage

end IngressServer

/-- The steps of `process_request`, `process_request_thread` and what calls them. -/
def ingressStep (maxRequests : ℕ) (s : IngressServer) : IngressAction → IngressServer
  | .accept =>
      match s.current with
      | some _ => s
      | none => { s.setStage s.next .accepted with next := s.next + 1, current := some s.next }
  | .acquire =>
      match s.loopAt .accepted with
      | none => s
      | some i =>
          if s.free = 0 then s.setStage i .refused
          else { s.setStage i .acquired with free := s.free - 1 }
  -- an `OSError` of the answer is ignored
  | .refuse =>
      match s.loopAt .refused with
      | none => s
      | some i => { (s.shutdownRequest i).setStage i .done with current := none }
  | .startThread ok =>
      match s.loopAt .acquired with
      | none => s
      | some i =>
          if ok then { s.setStage i .serving with current := none }
          else (s.release maxRequests).setStage i .failed
  | .handleError =>
      match s.loopAt .failed with
      | none => s
      | some i => { (s.shutdownRequest i).setStage i .done with current := none }
  -- whatever the handler raises is handled by `socketserver`
  | .serve i => if s.stage i = .serving then (s.shutdownRequest i).setStage i .served else s
  | .finish i => if s.stage i = .served then (s.release maxRequests).setStage i .done else s

/-! ### The invariant -/

namespace IngressServer

/-- The slots in use. -/
def inUse (s : IngressServer) : ℕ := held (fun i => (s.stage i).slots) s.next

structure SlotInv (maxRequests : ℕ) (s : IngressServer) : Prop where
  balanced : s.free + s.inUse = maxRequests
  released : s.releaseRaised = false
  fresh : ∀ i, s.next ≤ i → s.stage i = .absent
  started : ∀ i, i < s.next → s.stage i ≠ .absent
  loop : ∀ i, (s.stage i).inLoop = true ↔ s.current = some i
  counted : ∀ i, s.shutdowns i = (s.stage i).shutdowns

variable {maxRequests : ℕ} {s : IngressServer}

theorem loopAt_eq_some {stage : RequestStage} {i : ℕ} :
    s.loopAt stage = some i ↔ s.current = some i ∧ s.stage i = stage := by
  rw [loopAt, Option.filter_eq_some_iff, decide_eq_true_eq]

theorem slotInv_start (maxRequests : ℕ) : (start maxRequests).SlotInv maxRequests where
  balanced := rfl
  released := rfl
  fresh _ _ := rfl
  started i hi := absurd hi (Nat.not_lt_zero i)
  loop _ := by simp [start, RequestStage.inLoop]
  counted _ := rfl

theorem SlotInv.lt_next (h : s.SlotInv maxRequests) {i : ℕ} (hi : s.stage i ≠ .absent) :
    i < s.next := by
  by_contra hlt
  exact hi (h.fresh i (not_lt.mp hlt))

/-- Whoever has a slot can give it back. -/
theorem SlotInv.release (h : s.SlotInv maxRequests) {i : ℕ} (hi : (s.stage i).slots = 1) :
    s.release maxRequests = { s with free := s.free + 1 } := by
  have hne : s.stage i ≠ .absent := by
    intro habsent
    rw [habsent] at hi
    cases hi
  have hheld : (s.stage i).slots ≤ s.inUse :=
    le_held (fun j => (s.stage j).slots) (h.lt_next hne)
  have hbalanced := h.balanced
  exact if_pos (by omega)

/-- Where the accept loop is after a request moved on. -/
inductive LoopMoves (s s' : IngressServer) (i : ℕ) (stage : RequestStage) : Prop where
  | stays (hold : s.current = some i) (hin : stage.inLoop = true) (hnew : s'.current = some i)
  | leaves (hold : s.current = some i) (hin : stage.inLoop = false) (hnew : s'.current = none)
  | apart (hold : s.current ≠ some i) (hin : stage.inLoop = false) (hnew : s'.current = s.current)

/-- A request moves on to its next stage. -/
theorem SlotInv.move (h : s.SlotInv maxRequests) {s' : IngressServer} {i : ℕ}
    (stage : RequestStage) (hi : s.stage i ≠ .absent) (hne : stage ≠ .absent)
    (hstage : s'.stage = Function.update s.stage i stage) (hnext : s'.next = s.next)
    (hfree : s'.free + stage.slots = s.free + (s.stage i).slots)
    (hreleased : s'.releaseRaised = s.releaseRaised)
    (hshutdowns : s'.shutdowns = Function.update s.shutdowns i stage.shutdowns)
    (hloop : LoopMoves s s' i stage) : s'.SlotInv maxRequests where
  balanced := by
    have hlt := h.lt_next hi
    have hself : (s'.stage i).slots = stage.slots := by rw [hstage, Function.update_self]
    have hothers : ∀ j, j ≠ i → (s'.stage j).slots = (s.stage j).slots := by
      intro j hj
      rw [hstage, Function.update_of_ne hj]
    have hchange : s'.inUse + (s.stage i).slots = s.inUse + stage.slots := by
      rw [inUse, hnext, ← hself]
      exact held_change hlt hothers
    have hbalanced := h.balanced
    omega
  released := hreleased.trans h.released
  fresh j hj := by
    rw [hnext] at hj
    have hji : j ≠ i := (h.lt_next hi).trans_le hj |>.ne'
    rw [hstage, Function.update_of_ne hji, h.fresh j hj]
  started j hj := by
    rw [hnext] at hj
    rw [hstage, Function.update_apply]
    split_ifs
    · exact hne
    · exact h.started j hj
  loop j := by
    rw [hstage, Function.update_apply]
    have hold := h.loop j
    cases hloop with
    | stays hcurrent hin hnew =>
        rw [hnew]
        split_ifs with hj
        · simp [hin, hj]
        · rw [hold, hcurrent]
    | leaves hcurrent hin hnew =>
        rw [hnew]
        split_ifs with hj
        · simp [hin]
        · rw [hold, hcurrent]
          simp [Ne.symm hj]
    | apart hcurrent hin hnew =>
        rw [hnew]
        split_ifs with hj
        · simp [hin, hj, hcurrent]
        · exact hold
  counted j := by
    rw [hstage, hshutdowns, Function.update_apply, Function.update_apply]
    split_ifs
    · rfl
    · exact h.counted j

theorem SlotInv.shutdowns_eq (h : s.SlotInv maxRequests) {i : ℕ} {stage : RequestStage}
    (hi : (s.stage i).shutdowns = stage.shutdowns) :
    s.shutdowns = Function.update s.shutdowns i stage.shutdowns := by
  rw [← hi, ← h.counted, Function.update_eq_self]

theorem SlotInv.shutdownRequest_eq (h : s.SlotInv maxRequests) {i : ℕ} {stage : RequestStage}
    (hi : (s.stage i).shutdowns + 1 = stage.shutdowns) :
    (s.shutdownRequest i).shutdowns = Function.update s.shutdowns i stage.shutdowns := by
  rw [shutdownRequest, h.counted, hi]

theorem SlotInv.accept (h : s.SlotInv maxRequests) (hcurrent : s.current = none) :
    SlotInv maxRequests
      { s.setStage s.next .accepted with next := s.next + 1, current := some s.next } where
  balanced := by
    let stage := Function.update s.stage s.next RequestStage.accepted
    have hsame : held (fun j => (stage j).slots) s.next = s.inUse :=
      held_congr fun j hj => congrArg RequestStage.slots (Function.update_of_ne hj.ne _ _)
    have hnew : stage s.next = .accepted := Function.update_self _ _ _
    show s.free + held (fun j => (stage j).slots) (s.next + 1) = maxRequests
    rw [held_succ, hsame, hnew]
    exact h.balanced
  released := h.released
  fresh j hj := by
    have hne : j ≠ s.next := by
      rintro rfl
      exact Nat.not_succ_le_self _ hj
    exact (Function.update_of_ne hne _ _).trans (h.fresh j (Nat.le_of_succ_le hj))
  started j hj := by
    show Function.update s.stage s.next .accepted j ≠ .absent
    rw [Function.update_apply]
    split_ifs with hne
    · exact RequestStage.noConfusion
    · exact h.started j (lt_of_le_of_ne (Nat.le_of_lt_succ hj) hne)
  loop j := by
    show (Function.update s.stage s.next .accepted j).inLoop = true ↔ some s.next = some j
    rw [Function.update_apply]
    split_ifs with hj
    · simp [hj, RequestStage.inLoop]
    · rw [h.loop j, hcurrent]
      simp [Ne.symm hj]
  counted j := by
    show s.shutdowns j = (Function.update s.stage s.next .accepted j).shutdowns
    rw [h.counted, Function.update_apply]
    split_ifs with hj
    · rw [hj, h.fresh _ le_rfl]
      rfl
    · rfl

theorem SlotInv.step (h : s.SlotInv maxRequests) (a : IngressAction) :
    (ingressStep maxRequests s a).SlotInv maxRequests := by
  cases a with
  | accept =>
      rcases hcurrent : s.current with - | i
      · simp only [ingressStep, hcurrent]
        exact h.accept hcurrent
      · simpa only [ingressStep, hcurrent] using h
  | acquire =>
      rcases hloop : s.loopAt .accepted with - | i
      · simpa only [ingressStep, hloop] using h
      obtain ⟨hcurrent, hstage⟩ := loopAt_eq_some.mp hloop
      have hi : s.stage i ≠ .absent := by simp [hstage]
      simp only [ingressStep, hloop]
      split_ifs with hfull
      · exact h.move .refused hi RequestStage.noConfusion rfl rfl (by rw [hstage]; rfl) rfl
          (h.shutdowns_eq (by rw [hstage]; rfl)) (.stays hcurrent rfl hcurrent)
      · refine h.move .acquired hi RequestStage.noConfusion rfl rfl ?_ rfl
          (h.shutdowns_eq (by rw [hstage]; rfl)) (.stays hcurrent rfl hcurrent)
        rw [hstage]
        exact Nat.succ_pred_eq_of_ne_zero hfull
  | refuse =>
      rcases hloop : s.loopAt .refused with - | i
      · simpa only [ingressStep, hloop] using h
      obtain ⟨hcurrent, hstage⟩ := loopAt_eq_some.mp hloop
      have hi : s.stage i ≠ .absent := by simp [hstage]
      simp only [ingressStep, hloop]
      exact h.move .done hi RequestStage.noConfusion rfl rfl (by rw [hstage]; rfl) rfl
        (h.shutdownRequest_eq (by rw [hstage]; rfl)) (.leaves hcurrent rfl rfl)
  | startThread ok =>
      rcases hloop : s.loopAt .acquired with - | i
      · simpa only [ingressStep, hloop] using h
      obtain ⟨hcurrent, hstage⟩ := loopAt_eq_some.mp hloop
      have hi : s.stage i ≠ .absent := by simp [hstage]
      simp only [ingressStep, hloop]
      split_ifs
      · exact h.move .serving hi RequestStage.noConfusion rfl rfl (by rw [hstage]; rfl) rfl
          (h.shutdowns_eq (by rw [hstage]; rfl)) (.leaves hcurrent rfl rfl)
      · rw [h.release (by rw [hstage]; rfl)]
        exact h.move .failed hi RequestStage.noConfusion rfl rfl (by rw [hstage]; rfl) rfl
          (h.shutdowns_eq (by rw [hstage]; rfl)) (.stays hcurrent rfl hcurrent)
  | handleError =>
      rcases hloop : s.loopAt .failed with - | i
      · simpa only [ingressStep, hloop] using h
      obtain ⟨hcurrent, hstage⟩ := loopAt_eq_some.mp hloop
      have hi : s.stage i ≠ .absent := by simp [hstage]
      simp only [ingressStep, hloop]
      exact h.move .done hi RequestStage.noConfusion rfl rfl (by rw [hstage]; rfl) rfl
        (h.shutdownRequest_eq (by rw [hstage]; rfl)) (.leaves hcurrent rfl rfl)
  | serve i =>
      rw [ingressStep]
      split_ifs with hstage
      · have hi : s.stage i ≠ .absent := by simp [hstage]
        have hloop : s.current ≠ some i := by
          rw [Ne, ← h.loop, hstage]
          exact Bool.false_ne_true
        exact h.move .served hi RequestStage.noConfusion rfl rfl (by rw [hstage]; rfl) rfl
          (h.shutdownRequest_eq (by rw [hstage]; rfl)) (.apart hloop rfl rfl)
      · exact h
  | finish i =>
      rw [ingressStep]
      split_ifs with hstage
      · have hi : s.stage i ≠ .absent := by simp [hstage]
        have hloop : s.current ≠ some i := by
          rw [Ne, ← h.loop, hstage]
          exact Bool.false_ne_true
        rw [h.release (by rw [hstage]; rfl)]
        exact h.move .done hi RequestStage.noConfusion rfl rfl (by rw [hstage]; rfl) rfl
          (h.shutdowns_eq (by rw [hstage]; rfl)) (.apart hloop rfl rfl)
      · exact h

theorem slotInv_run (maxRequests : ℕ) (as : List IngressAction) :
    (run (ingressStep maxRequests) (start maxRequests) as).SlotInv maxRequests :=
  run_invariant (slotInv_start maxRequests) fun _ a _ ht => ht.step a

/-! ### Every request is finished -/

/-- A step is of request `i`: one of its thread, or one that the accept loop takes with it. -/
def OfRequest (i : ℕ) (a : IngressAction) : Prop :=
  a ≠ .accept ∧ (a.thread = none ∨ a.thread = some i)

/-- How many stages are left. -/
def stagesLeft : RequestStage → ℕ
  | .accepted => 4
  | .acquired => 3
  | .serving => 2
  | .refused | .failed | .served => 1
  | .absent | .done => 0

/-- A request that is not done can take a step, whatever the others do. -/
theorem SlotInv.exists_step (h : s.SlotInv maxRequests) {i : ℕ} (hi : i < s.next)
    (hdone : s.stage i ≠ .done) : ∃ a, OfRequest i a ∧
      stagesLeft ((ingressStep maxRequests s a).stage i) < stagesLeft (s.stage i) ∧
      (ingressStep maxRequests s a).next = s.next := by
  have hat : ∀ stage : RequestStage, s.stage i = stage → stage.inLoop = true →
      s.loopAt stage = some i := fun stage hstage hin =>
    loopAt_eq_some.mpr ⟨(h.loop i).mp (hstage ▸ hin), hstage⟩
  cases hstage : s.stage i with
  | absent => exact absurd hstage (h.started i hi)
  | accepted =>
      refine ⟨.acquire, ⟨IngressAction.noConfusion, Or.inl rfl⟩, ?_⟩
      simp only [ingressStep, hat _ hstage rfl]
      split_ifs <;> simp [setStage, stagesLeft]
  | refused =>
      refine ⟨.refuse, ⟨IngressAction.noConfusion, Or.inl rfl⟩, ?_⟩
      simp [ingressStep, hat _ hstage rfl, setStage, shutdownRequest, stagesLeft]
  | acquired =>
      refine ⟨.startThread true, ⟨IngressAction.noConfusion, Or.inl rfl⟩, ?_⟩
      simp [ingressStep, hat _ hstage rfl, setStage, stagesLeft]
  | failed =>
      refine ⟨.handleError, ⟨IngressAction.noConfusion, Or.inl rfl⟩, ?_⟩
      simp [ingressStep, hat _ hstage rfl, setStage, shutdownRequest, stagesLeft]
  | serving =>
      refine ⟨.serve i, ⟨IngressAction.noConfusion, Or.inr rfl⟩, ?_⟩
      simp [ingressStep, hstage, setStage, shutdownRequest, stagesLeft]
  | served =>
      refine ⟨.finish i, ⟨IngressAction.noConfusion, Or.inr rfl⟩, ?_⟩
      simp [ingressStep, hstage, h.release (i := i) (by rw [hstage]; rfl), setStage, stagesLeft]
  | done => exact absurd hstage hdone

theorem SlotInv.finishes (h : s.SlotInv maxRequests) {i : ℕ} (hi : i < s.next) :
    ∃ as, (∀ a ∈ as, OfRequest i a) ∧ (run (ingressStep maxRequests) s as).stage i = .done := by
  induction hleft : stagesLeft (s.stage i) using Nat.strong_induction_on generalizing s with
  | _ left ih =>
      by_cases hdone : s.stage i = .done
      · exact ⟨[], fun a ha => absurd ha List.not_mem_nil, hdone⟩
      obtain ⟨a, ha, hless, hnext⟩ := h.exists_step hi hdone
      obtain ⟨as, has, hrun⟩ := ih _ (hleft ▸ hless) (h.step a) (hnext ▸ hi) rfl
      exact ⟨a :: as, List.forall_mem_cons.mpr ⟨ha, has⟩, hrun⟩

/-! ### The result -/

structure IngressExact (maxRequests : ℕ) (s : IngressServer) : Prop where
  /-- Every slot is free or in use, -/
  balanced : s.free + s.inUse = maxRequests
  /-- and none is given back that nobody has. -/
  released : s.releaseRaised = false
  /-- A request is refused exactly if all of them are in use. -/
  refused : ∀ i, s.loopAt .accepted = some i →
    ((ingressStep maxRequests s .acquire).stage i = .refused ↔ s.inUse = maxRequests)
  /-- No request is shut down twice, and when it is done it was shut down, -/
  shutDown : ∀ i, s.shutdowns i ≤ 1 ∧ (s.stage i = .done → s.shutdowns i = 1)
  /-- which every request comes to without a step of another one. -/
  finishes : ∀ i < s.next, ∃ as, (∀ a ∈ as, OfRequest i a) ∧
    (run (ingressStep maxRequests) s as).stage i = .done
  /-- When all are done, all slots are free. -/
  idle : (∀ i < s.next, s.stage i = .done) → s.free = maxRequests

end IngressServer

/-- **Slots are never lost and never given back twice**, over every order of requests, threads
that cannot be started, and threads that end. -/
theorem ingress_slots_exact (maxRequests : ℕ) (as : List IngressAction) :
    (run (ingressStep maxRequests) (.start maxRequests) as).IngressExact maxRequests := by
  have h := IngressServer.slotInv_run maxRequests as
  generalize run (ingressStep maxRequests) (.start maxRequests) as = s at h
  refine ⟨h.balanced, h.released, fun i hloop => ?_, fun i => ⟨?_, fun hdone => ?_⟩,
    fun i hi => h.finishes hi, fun hdone => ?_⟩
  · have hbalanced := h.balanced
    simp only [ingressStep, hloop]
    split_ifs with hfull
    · simp only [IngressServer.setStage, Function.update_self, true_iff]
      omega
    · simp only [IngressServer.setStage, Function.update_self, reduceCtorEq, false_iff]
      omega
  · rw [h.counted]
    cases s.stage i <;> simp [RequestStage.shutdowns]
  · rw [h.counted, hdone]
    rfl
  · have hnone : s.inUse = 0 :=
      Finset.sum_eq_zero fun i hi => congrArg RequestStage.slots (hdone i (Finset.mem_range.mp hi))
    have hbalanced := h.balanced
    omega

end GroBro
