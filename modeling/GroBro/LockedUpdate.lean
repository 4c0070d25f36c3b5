/-
GroBro/LockedUpdate.lean

Updates of a store under a lock.  Any number of calls change one store, in steps that come in
any order: a call takes the lock, fetches what is stored, and writes it changed.  It may fail
before it writes; a write may be rejected, or be stored while the call only sees an error.

The lock is held from the fetch to the write, so that what a call has fetched is what is
stored when it writes (`LockInv.fetched`).  What is stored is then the accepted updates, applied
one after the other (`LockInv.stored`).
-/
import Mathlib

namespace LockedUpdate

/-- Where a call is: `U` is what it is to do, `E` why it may fail. -/
inductive Stage (S U E : Type*) where
  | idle
  | called (update : U)
  | locked (update : U)
  | fetched (update : U) (seen : S)
  /-- Failed before a write. -/
  | failed (error : E)
  | writeFailed
  | done (result : S)

inductive Outcome where
  | accepted
  /-- Stored, but the call sees an error. -/
  | lost
  | rejected
  deriving DecidableEq

/-- A write that was sent. -/
structure Write (U : Type*) where
  call : ℕ
  update : U
  outcome : Outcome

/-- The store, the lock and the calls; each call has a number of its own. -/
structure State (S U E : Type*) where
  stored : S
  lock : Option ℕ
  stage : ℕ → Stage S U E
  /-- The writes so far, which no step looks at. -/
  writes : List (Write U)

/-- The updates of the writes that were stored, in their order. -/
def acceptedUpdates {U : Type*} (writes : List (Write U)) : List U :=
  (writes.filter fun w => w.outcome ≠ .rejected).map Write.update

/-- The stored updates, applied one after the other. -/
def resultOf {S U : Type*} (apply : S → U → S) (initial : S) (writes : List (Write U)) : S :=
  (acceptedUpdates writes).foldl apply initial

section Steps

variable {S U E : Type*}

namespace State

def start (stored : S) : State S U E := ⟨stored, none, fun _ => .idle, []⟩

def setStage (s : State S U E) (i : ℕ) (stage : Stage S U E) : State S U E :=
  { s with stage := Function.update s.stage i stage }

/-- A call begins. -/
def call (s : State S U E) (i : ℕ) (update : U) : State S U E :=
  match s.stage i with
  | .idle => s.setStage i (.called update)
  | _ => s

/-- A call fails before it asks for the lock. -/
def refuse (s : State S U E) (i : ℕ) (error : E) : State S U E :=
  match s.stage i with
  | .idle => s.setStage i (.failed error)
  | _ => s

/-- A call takes the lock, if it is free. -/
def acquire (s : State S U E) (i : ℕ) : State S U E :=
  match s.stage i with
  | .called update =>
      if s.lock = none then { s.setStage i (.locked update) with lock := some i } else s
  | _ => s

/-- A call fetches what is stored. -/
def fetch (s : State S U E) (i : ℕ) : State S U E :=
  match s.stage i with
  | .locked update => s.setStage i (.fetched update s.stored)
  | _ => s

/-- A call fails under the lock, before it writes. -/
def fail (s : State S U E) (i : ℕ) (error : E) : State S U E :=
  match s.stage i with
  | .locked _ => { s.setStage i (.failed error) with lock := none }
  | _ => s

/-- A call writes what it has fetched, updated. -/
def write (apply : S → U → S) (s : State S U E) (i : ℕ) (outcome : Outcome) : State S U E :=
  match s.stage i with
  | .fetched update seen =>
      { s.setStage i (if outcome = .accepted then .done (apply seen update) else .writeFailed) with
        lock := none
        stored := if outcome = .rejected then s.stored else apply seen update
        writes := s.writes ++ [⟨i, update, outcome⟩] }
  | _ => s

end State

end Steps

/-! ### The result of writes -/

section Result

variable {S U : Type*} (apply : S → U → S) (initial : S)

theorem resultOf_concat (writes : List (Write U)) (w : Write U) :
    resultOf apply initial (writes ++ [w]) =
      if w.outcome = .rejected then resultOf apply initial writes
      else apply (resultOf apply initial writes) w.update := by
  by_cases hrejected : w.outcome = .rejected
  · rw [if_pos hrejected]
    simp [resultOf, acceptedUpdates, hrejected]
  · rw [if_neg hrejected]
    simp [resultOf, acceptedUpdates, hrejected]

end Result

/-! ### The invariant -/

namespace Stage

variable {S U E : Type*}

def holdsLock : Stage S U E → Bool
  | locked _ | fetched _ _ => true
  | _ => false

def hasWritten : Stage S U E → Bool
  | writeFailed | done _ => true
  | _ => false

/-- What a call is to do that has fetched nothing yet. -/
def update? : Stage S U E → Option U
  | called update | locked update => some update
  | _ => none

end Stage

section Invariant

variable {S U E : Type*}

/-- The write of a call was accepted, and `result` is what was stored then. -/
def Answered (apply : S → U → S) (initial : S) (writes : List (Write U)) (i : ℕ) (result : S) :
    Prop :=
  ∃ earlier u later, writes = earlier ++ ⟨i, u, .accepted⟩ :: later ∧
    result = resultOf apply initial (earlier ++ [⟨i, u, .accepted⟩])

/-- What holds between any two steps.  `Made i u` says that call `i` is to do `u`, `Ready i u`
that it has found no reason not to. -/
structure LockInv (apply : S → U → S) (Made Ready : ℕ → U → Prop) (initial : S) (s : State S U E) :
    Prop where
  stored : s.stored = resultOf apply initial s.writes
  lock : ∀ i, (s.stage i).holdsLock = true → s.lock = some i
  fetched : ∀ i u seen, s.stage i = .fetched u seen → seen = s.stored
  written : ∀ i, (s.stage i).hasWritten = true ↔ i ∈ s.writes.map Write.call
  once : (s.writes.map Write.call).Nodup
  done : ∀ i result, s.stage i = .done result → Answered apply initial s.writes i result
  unanswered : ∀ i, s.stage i = .writeFailed → ∀ w ∈ s.writes, w.call = i → w.outcome ≠ .accepted
  made : ∀ i u, (s.stage i).update? = some u → Made i u
  ready : ∀ i u seen, s.stage i = .fetched u seen → Ready i u
  readyWrites : ∀ w ∈ s.writes, Ready w.call w.update

variable {apply : S → U → S} {Made Ready : ℕ → U → Prop} {initial : S} {s : State S U E} {i : ℕ}

theorem lockInv_start (apply : S → U → S) (Made Ready : ℕ → U → Prop) (initial : S) :
    LockInv apply Made Ready initial (.start initial : State S U E) where
  stored := rfl
  lock _ h := by cases h
  fetched _ _ _ h := by cases h
  written i := by simp [State.start, Stage.hasWritten]
  once := List.nodup_nil
  done _ _ h := by cases h
  unanswered _ h := by cases h
  made _ _ h := by cases h
  ready _ _ _ h := by cases h
  readyWrites _ h := by cases h

/-- A call that fails before its write has written nothing. -/
theorem LockInv.unwritten (h : LockInv apply Made Ready initial s) {error : E}
    (hfailed : s.stage i = .failed error) : i ∉ s.writes.map Write.call := by
  rw [← h.written, hfailed]
  exact Bool.false_ne_true

/-- Later writes do not change an answer. -/
theorem Answered.concat {writes : List (Write U)} {result : S}
    (h : Answered apply initial writes i result) (w : Write U) :
    Answered apply initial (writes ++ [w]) i result := by
  obtain ⟨earlier, u, later, hwrites, hresult⟩ := h
  refine ⟨earlier, u, later ++ [w], ?_, hresult⟩
  rw [hwrites, List.append_assoc, List.cons_append]

/-- What is said of each call, when one has moved. -/
theorem forall_setStage {stage : Stage S U E} (p : ℕ → Stage S U E → Prop) (hi : p i stage)
    (hothers : ∀ j, j ≠ i → p j (s.stage j)) (j : ℕ) : p j ((s.setStage i stage).stage j) :=
  (Function.forall_update_iff s.stage p).mpr ⟨hi, hothers⟩ j

/-- A call moves on without a write. -/
theorem LockInv.move (h : LockInv apply Made Ready initial s) {stage : Stage S U E}
    {lock : Option ℕ}
    (hbefore : (s.stage i).hasWritten = false) (hafter : stage.hasWritten = false)
    (hothers : ∀ j, j ≠ i → (s.stage j).holdsLock = true → lock = some j)
    (hlock : stage.holdsLock = true → lock = some i)
    (hfetched : ∀ u seen, stage = .fetched u seen → seen = s.stored ∧ Ready i u)
    (hmade : ∀ u, stage.update? = some u → Made i u) :
    LockInv apply Made Ready initial { s.setStage i stage with lock } := by
  constructor
  case stored => exact h.stored
  case once => exact h.once
  case readyWrites => exact h.readyWrites
  case lock =>
    exact forall_setStage (fun j stage => stage.holdsLock = true → lock = some j) hlock hothers
  case fetched =>
    exact forall_setStage (fun _ stage => ∀ u seen, stage = .fetched u seen → seen = s.stored)
      (fun u seen hstage => (hfetched u seen hstage).1) fun j _ => h.fetched j
  case ready =>
    exact forall_setStage (fun j stage => ∀ u seen, stage = .fetched u seen → Ready j u)
      (fun u seen hstage => (hfetched u seen hstage).2) fun j _ => h.ready j
  case written =>
    refine forall_setStage (fun j stage => stage.hasWritten = true ↔ j ∈ s.writes.map Write.call)
      ?_ fun j _ => h.written j
    rw [hafter, ← h.written, hbefore]
  case done =>
    refine forall_setStage (fun j stage => ∀ result, stage = .done result →
      Answered apply initial s.writes j result) ?_ fun j _ => h.done j
    rintro result rfl
    cases hafter
  case unanswered =>
    refine forall_setStage (fun j stage => stage = .writeFailed →
      ∀ w ∈ s.writes, w.call = j → w.outcome ≠ .accepted) ?_ fun j _ => h.unanswered j
    rintro rfl
    cases hafter
  case made =>
    exact forall_setStage (fun j stage => ∀ u, stage.update? = some u → Made j u) hmade
      fun j _ => h.made j

/-- A call moves to where it holds no lock and is not going to write. -/
theorem LockInv.leave (h : LockInv apply Made Ready initial s) {error : E} {lock : Option ℕ}
    (hbefore : (s.stage i).hasWritten = false)
    (hothers : ∀ j, j ≠ i → (s.stage j).holdsLock = true → lock = some j) :
    LockInv apply Made Ready initial { s.setStage i (.failed error) with lock } := by
  refine h.move hbefore rfl hothers ?_ ?_ ?_
  · intro hholds
    cases hholds
  · intro u seen hfetched
    cases hfetched
  · intro u hu
    cases hu

theorem LockInv.call (h : LockInv apply Made Ready initial s) {u : U} (hmade : Made i u) :
    LockInv apply Made Ready initial (s.call i u) := by
  unfold State.call
  split
  next hstage =>
    refine h.move (by rw [hstage]; rfl) rfl (fun j _ hj => h.lock j hj) ?_ ?_ ?_
    · intro hholds
      cases hholds
    · intro u' seen hfetched
      cases hfetched
    · intro u' hu
      exact Option.some.inj hu ▸ hmade
  next => exact h

theorem LockInv.refuse (h : LockInv apply Made Ready initial s) (i : ℕ) (error : E) :
    LockInv apply Made Ready initial (s.refuse i error) := by
  unfold State.refuse
  split
  next hstage => exact h.leave (by rw [hstage]; rfl) fun j _ hj => h.lock j hj
  next => exact h

theorem LockInv.acquire (h : LockInv apply Made Ready initial s) (i : ℕ) :
    LockInv apply Made Ready initial (s.acquire i) := by
  unfold State.acquire
  split
  next u hstage =>
    split_ifs with hlock
    · refine h.move (by rw [hstage]; rfl) rfl ?_ (fun _ => rfl) ?_ ?_
      · intro j _ hj
        rw [h.lock j hj] at hlock
        cases hlock
      · intro u' seen hfetched
        cases hfetched
      · intro u' hu
        exact h.made i u' (hstage ▸ hu)
    · exact h
  next => exact h

theorem LockInv.fetch (h : LockInv apply Made Ready initial s)
    (hready : ∀ u, s.stage i = .locked u → Made i u → Ready i u) :
    LockInv apply Made Ready initial (s.fetch i) := by
  unfold State.fetch
  split
  next u hstage =>
    have hlock : s.lock = some i := h.lock i (by rw [hstage]; rfl)
    refine h.move (by rw [hstage]; rfl) rfl (fun j _ hj => h.lock j hj) (fun _ => hlock) ?_ ?_
    · intro u' seen hfetched
      obtain ⟨rfl, rfl⟩ := Stage.fetched.inj hfetched
      exact ⟨rfl, hready u hstage (h.made i u (by rw [hstage]; rfl))⟩
    · intro u' hu
      cases hu
  next => exact h

/-- Only one call holds the lock. -/
theorem LockInv.eq_of_holdsLock (h : LockInv apply Made Ready initial s) {j : ℕ}
    (hi : (s.stage i).holdsLock = true) (hj : (s.stage j).holdsLock = true) : j = i :=
  Option.some.inj ((h.lock j hj).symm.trans (h.lock i hi))

theorem LockInv.fail (h : LockInv apply Made Ready initial s) (i : ℕ) (error : E) :
    LockInv apply Made Ready initial (s.fail i error) := by
  unfold State.fail
  split
  next u hstage =>
    refine h.leave (by rw [hstage]; rfl) ?_
    intro j hj hholds
    exact absurd (h.eq_of_holdsLock (by rw [hstage]; rfl) hholds) hj
  next => exact h

/-! ### The stages of a call -/

section Stages

variable {u : U} {seen : S} {error : E} {j : ℕ} {outcome : Outcome}

theorem stage_call (h : s.stage i = .idle) : (s.call i u).stage i = .called u := by
  rw [State.call, h]
  exact Function.update_self _ _ _

theorem stage_acquire (h : s.stage i = .called u) (hfree : s.lock = none) :
    (s.acquire i).stage i = .locked u := by
  rw [State.acquire, h]
  dsimp only
  rw [if_pos hfree]
  exact Function.update_self _ _ _

theorem stage_fetch (h : s.stage i = .locked u) : (s.fetch i).stage i = .fetched u s.stored := by
  rw [State.fetch, h]
  exact Function.update_self _ _ _

theorem writes_write (h : s.stage i = .fetched u seen) :
    (s.write apply i outcome).writes = s.writes ++ [⟨i, u, outcome⟩] := by
  rw [State.write, h]

theorem stage_write (h : s.stage i = .fetched u seen) :
    (s.write apply i .accepted).stage i = .done (apply seen u) := by
  rw [State.write, h]
  exact Function.update_self _ _ _

/-- No step of one call moves another. -/
theorem stage_setStage_of_ne {stage : Stage S U E} (hne : j ≠ i) :
    (s.setStage i stage).stage j = s.stage j := Function.update_of_ne hne _ _

theorem stage_call_of_ne (hne : j ≠ i) : (s.call i u).stage j = s.stage j := by
  unfold State.call
  split
  · exact stage_setStage_of_ne hne
  · rfl

theorem stage_refuse_of_ne (hne : j ≠ i) : (s.refuse i error).stage j = s.stage j := by
  unfold State.refuse
  split
  · exact stage_setStage_of_ne hne
  · rfl

theorem stage_acquire_of_ne (hne : j ≠ i) : (s.acquire i).stage j = s.stage j := by
  unfold State.acquire
  split
  · split_ifs
    · exact stage_setStage_of_ne hne
    · rfl
  · rfl

theorem stage_fetch_of_ne (hne : j ≠ i) : (s.fetch i).stage j = s.stage j := by
  unfold State.fetch
  split
  · exact stage_setStage_of_ne hne
  · rfl

theorem stage_fail_of_ne (hne : j ≠ i) : (s.fail i error).stage j = s.stage j := by
  unfold State.fail
  split
  · exact stage_setStage_of_ne hne
  · rfl

theorem stage_write_of_ne (hne : j ≠ i) : (s.write apply i outcome).stage j = s.stage j := by
  unfold State.write
  split
  · exact stage_setStage_of_ne hne
  · rfl

end Stages

/-! ### A write -/

section Write

variable {u : U} {seen : S} {j : ℕ} {outcome : Outcome}

/-- Where a write leaves its call. -/
def Stage.ended (apply : S → U → S) (u : U) (seen : S) (outcome : Outcome) : Stage S U E :=
  if outcome = .accepted then .done (apply seen u) else .writeFailed

theorem Stage.ended_spec (apply : S → U → S) (u : U) (seen : S) (outcome : Outcome) :
    let stage : Stage S U E := .ended apply u seen outcome
    stage.hasWritten = true ∧ stage.holdsLock = false ∧ stage.update? = none := by
  dsimp only
  unfold Stage.ended
  split_ifs <;> exact ⟨rfl, rfl, rfl⟩

/-- What is said of each call, when one has written. -/
theorem forall_write (hstage : s.stage i = .fetched u seen) (p : ℕ → Stage S U E → Prop)
    (hi : p i (.ended apply u seen outcome)) (hothers : ∀ j, j ≠ i → p j (s.stage j)) (j : ℕ) :
    p j ((s.write apply i outcome).stage j) := by
  rw [State.write, hstage]
  exact forall_setStage p hi hothers j

theorem stored_write_of_fetched (hstage : s.stage i = .fetched u seen) :
    (s.write apply i outcome).stored =
      if outcome = .rejected then s.stored else apply seen u := by
  rw [State.write, hstage]

theorem lock_write (hstage : s.stage i = .fetched u seen) :
    (s.write apply i outcome).lock = none := by
  rw [State.write, hstage]

/-- Nobody else holds the lock while a call writes. -/
theorem LockInv.free_of_fetched (h : LockInv apply Made Ready initial s)
    (hstage : s.stage i = .fetched u seen) (hj : j ≠ i) : ¬ (s.stage j).holdsLock = true :=
  fun hholds => hj (h.eq_of_holdsLock (by rw [hstage]; rfl) hholds)

/-- A call that writes has not written before. -/
theorem LockInv.not_mem_of_fetched (h : LockInv apply Made Ready initial s)
    (hstage : s.stage i = .fetched u seen) : i ∉ s.writes.map Write.call := by
  rw [← h.written, hstage]
  exact Bool.false_ne_true

/-- What was fetched is what is stored, so that the update comes behind all others. -/
theorem LockInv.resultOf_write (h : LockInv apply Made Ready initial s)
    (hstage : s.stage i = .fetched u seen) :
    resultOf apply initial (s.writes ++ [⟨i, u, outcome⟩]) =
      (s.write apply i outcome).stored := by
  rw [stored_write_of_fetched hstage, resultOf_concat, h.fetched i u seen hstage, h.stored]

theorem LockInv.lock_of_write (h : LockInv apply Made Ready initial s)
    (hstage : s.stage i = .fetched u seen) (j : ℕ)
    (hj : ((s.write apply i outcome).stage j).holdsLock = true) :
    (s.write apply i outcome).lock = some j := by
  refine absurd hj (forall_write hstage (fun _ stage => ¬ stage.holdsLock = true) ?_ ?_ j)
  · rw [(Stage.ended_spec apply u seen outcome).2.1]
    exact Bool.false_ne_true
  · exact fun j hj => h.free_of_fetched hstage hj

/-- No other call is between its fetch and its write. -/
theorem LockInv.not_fetched_of_write (h : LockInv apply Made Ready initial s)
    (hstage : s.stage i = .fetched u seen) (j : ℕ) (u' : U) (seen' : S) :
    (s.write apply i outcome).stage j ≠ .fetched u' seen' := by
  intro hfetched
  have hlock : (s.write apply i outcome).lock = some j :=
    h.lock_of_write hstage j (by rw [hfetched]; rfl)
  rw [lock_write hstage] at hlock
  cases hlock

theorem LockInv.written_of_write (h : LockInv apply Made Ready initial s)
    (hstage : s.stage i = .fetched u seen) (j : ℕ) :
    ((s.write apply i outcome).stage j).hasWritten = true ↔
      j ∈ (s.writes ++ [(⟨i, u, outcome⟩ : Write U)]).map Write.call := by
  refine forall_write hstage (fun j stage => stage.hasWritten = true ↔
    j ∈ (s.writes ++ [(⟨i, u, outcome⟩ : Write U)]).map Write.call) ?_ ?_ j
  · rw [List.map_append]
    exact iff_of_true (Stage.ended_spec apply u seen outcome).1
      (List.mem_append_right _ List.mem_cons_self)
  · intro j hj
    rw [List.map_append, List.mem_append, List.map_singleton, List.mem_singleton, h.written]
    exact (or_iff_left hj).symm

/-- The answer of the write is what it stored; the others keep theirs. -/
theorem LockInv.done_of_write (h : LockInv apply Made Ready initial s)
    (hstage : s.stage i = .fetched u seen) (j : ℕ) (result : S)
    (hdone : (s.write apply i outcome).stage j = .done result) :
    Answered apply initial (s.writes ++ [⟨i, u, outcome⟩]) j result := by
  revert hdone
  refine forall_write hstage (fun j stage => stage = .done result →
    Answered apply initial (s.writes ++ [⟨i, u, outcome⟩]) j result) ?_ ?_ j
  · intro hdone
    unfold Stage.ended at hdone
    split_ifs at hdone with haccepted
    obtain rfl := haccepted
    refine ⟨s.writes, u, [], rfl, ?_⟩
    rw [h.resultOf_write hstage, stored_write_of_fetched hstage]
    exact (Stage.done.inj hdone).symm
  · exact fun j _ hdone => (h.done j result hdone).concat _

/-- A call that sees an error has no write that was accepted. -/
theorem LockInv.unanswered_of_write (h : LockInv apply Made Ready initial s)
    (hstage : s.stage i = .fetched u seen) (j : ℕ)
    (hfailed : (s.write apply i outcome).stage j = .writeFailed) :
    ∀ w ∈ s.writes ++ [⟨i, u, outcome⟩], w.call = j → w.outcome ≠ .accepted := by
  revert hfailed
  refine forall_write hstage (fun j stage => stage = .writeFailed →
    ∀ w ∈ s.writes ++ [⟨i, u, outcome⟩], w.call = j → w.outcome ≠ .accepted) ?_ ?_ j
  · intro hfailed w hw hcall
    rcases List.mem_append.mp hw with hold | hlast
    · exact absurd (List.mem_map.mpr ⟨w, hold, hcall⟩) (h.not_mem_of_fetched hstage)
    · obtain rfl := List.mem_singleton.mp hlast
      rintro rfl
      cases hfailed
  · intro j hj hfailed w hw hcall
    rcases List.mem_append.mp hw with hold | hlast
    · exact h.unanswered j hfailed w hold hcall
    · obtain rfl := List.mem_singleton.mp hlast
      exact absurd hcall.symm hj

theorem LockInv.made_of_write (h : LockInv apply Made Ready initial s)
    (hstage : s.stage i = .fetched u seen) (j : ℕ) (u' : U)
    (hu : ((s.write apply i outcome).stage j).update? = some u') : Made j u' := by
  revert hu
  refine forall_write hstage (fun j stage => stage.update? = some u' → Made j u') ?_ ?_ j
  · rw [(Stage.ended_spec apply u seen outcome).2.2]
    intro hu
    cases hu
  · exact fun j _ => h.made j u'

end Write

/-- **A write is an update of what is stored.** -/
theorem LockInv.write (h : LockInv apply Made Ready initial s) (i : ℕ) (outcome : Outcome) :
    LockInv apply Made Ready initial (s.write apply i outcome) := by
  by_cases hfetched : ∃ u seen, s.stage i = .fetched u seen
  · obtain ⟨u, seen, hstage⟩ := hfetched
    have hwrites : (s.write apply i outcome).writes = s.writes ++ [⟨i, u, outcome⟩] :=
      writes_write hstage
    constructor
    case stored => rw [hwrites, h.resultOf_write hstage]
    case lock => exact h.lock_of_write hstage
    case fetched =>
      exact fun j u' seen' hj => absurd hj (h.not_fetched_of_write hstage j u' seen')
    case written => exact fun j => hwrites ▸ h.written_of_write hstage j
    case once =>
      rw [hwrites, List.map_append, List.map_singleton, ← List.concat_eq_append]
      exact h.once.concat (h.not_mem_of_fetched hstage)
    case done => exact hwrites ▸ h.done_of_write hstage
    case unanswered => exact hwrites ▸ h.unanswered_of_write hstage
    case made => exact h.made_of_write hstage
    case ready =>
      exact fun j u' seen' hj => absurd hj (h.not_fetched_of_write hstage j u' seen')
    case readyWrites =>
      intro w hw
      rw [hwrites] at hw
      rcases List.mem_append.mp hw with hold | hlast
      · exact h.readyWrites w hold
      · obtain rfl := List.mem_singleton.mp hlast
        exact h.ready i u seen hstage
  -- a call that has fetched nothing writes nothing
  · have hsame : s.write apply i outcome = s := by
      unfold State.write
      split
      next u seen hstage => exact absurd ⟨u, seen, hstage⟩ hfetched
      next => rfl
    rw [hsame]
    exact h

/-! ### What leaves the store alone -/

theorem frame_call (s : State S U E) (i : ℕ) (u : U) :
    (s.call i u).stored = s.stored ∧ (s.call i u).writes = s.writes := by
  unfold State.call
  split <;> exact ⟨rfl, rfl⟩

theorem frame_acquire (s : State S U E) (i : ℕ) :
    (s.acquire i).stored = s.stored ∧ (s.acquire i).writes = s.writes := by
  unfold State.acquire
  split
  · split_ifs <;> exact ⟨rfl, rfl⟩
  · exact ⟨rfl, rfl⟩

theorem frame_fetch (s : State S U E) (i : ℕ) :
    (s.fetch i).stored = s.stored ∧ (s.fetch i).writes = s.writes := by
  unfold State.fetch
  split <;> exact ⟨rfl, rfl⟩

theorem frame_fail (s : State S U E) (i : ℕ) (error : E) :
    (s.fail i error).stored = s.stored ∧ (s.fail i error).writes = s.writes := by
  unfold State.fail
  split <;> exact ⟨rfl, rfl⟩

theorem mem_writes_write {w : Write U} {outcome : Outcome}
    (h : w ∈ (s.write apply i outcome).writes) : w ∈ s.writes ∨ w.outcome = outcome := by
  unfold State.write at h
  split at h
  · rcases List.mem_append.mp h with hold | hlast
    · exact Or.inl hold
    · obtain rfl := List.mem_singleton.mp hlast
      exact Or.inr rfl
  · exact Or.inl h

/-- A write changes the store only if it is accepted, which ends its call, or its answer is
lost. -/
theorem stored_write (apply : S → U → S) (s : State S U E) (i : ℕ) (outcome : Outcome) :
    (s.write apply i outcome).stored = s.stored ∨ outcome = .lost ∨
      (outcome = .accepted ∧
        (s.write apply i outcome).stage i = .done (s.write apply i outcome).stored) := by
  unfold State.write
  split
  · cases outcome with
    | accepted => exact Or.inr (Or.inr ⟨rfl, Function.update_self ..⟩)
    | lost => exact Or.inr (Or.inl rfl)
    | rejected => exact Or.inl rfl
  · exact Or.inl rfl

end Invariant

end LockedUpdate
