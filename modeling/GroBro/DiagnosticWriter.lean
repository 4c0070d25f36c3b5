/-
GroBro/DiagnosticWriter.lean

`DiagnosticWriter` of `grobro/grobro/diagnostic_io.py`: a bounded queue of texts and one lazy
worker that writes them.  Every block under the condition is one step, and so is a write;
`submit` of any thread, the worker, failures and `stop` come in any order.  `flush` only
reads.

The worker waits only while the queue is empty and open, and leaves only when it is empty and
closed (`WriterInv`), so that no wake-up is lost.  `writer_queue_exact` collects what follows.
-/
import GroBro.Machine
import GroBro.PyText

namespace GroBro

open Machine

/-! ### The code -/

/-- A job `(path, text, size)`. -/
structure WriterJob where
  /-- The number of its `submit` call, kept for the theorems. -/
  call : ℕ
  path : PyStr
  text : PyStr
  size : ℕ
  deriving DecidableEq

/-- Where the worker is in `_run`. -/
inductive WorkerPhase where
  /-- There is no thread. -/
  | absent
  /-- Before it looks at the queue. -/
  | ready
  /-- In `wait_for`, until it is notified. -/
  | waiting
  | writing (job : WriterJob)
  | finishing (job : WriterJob)
  | exited
  deriving DecidableEq

namespace WorkerPhase

/-- The job that is not yet handed to `_write_lines`. -/
def unwritten : WorkerPhase → List WriterJob
  | writing job => [job]
  | _ => []

/-- The job whose bytes are still counted. -/
def busy : WorkerPhase → List WriterJob
  | writing job => [job]
  | finishing job => [job]
  | _ => []

/-- `notify_all` -/
def notified : WorkerPhase → WorkerPhase
  | waiting => ready
  | phase => phase

end WorkerPhase

structure WriterLimits where
  maxJobs : ℕ
  maxBytes : ℕ

structure DiagnosticWriter where
  queue : List WriterJob
  bytes : ℤ
  active : Bool
  closed : Bool
  /-- `_thread` is a thread. -/
  thread : Bool
  warned : Bool
  writeFailed : Bool
  worker : WorkerPhase
  /-- The `submit` calls with what they returned, and the jobs that were handed to
  `_write_lines`; no step but `submit` reads a number of calls. -/
  calls : List (WriterJob × Bool)
  handed : List WriterJob

namespace DiagnosticWriter

def start : DiagnosticWriter := ⟨[], 0, false, false, false, false, false, .absent, [], []⟩

def notifyAll (s : DiagnosticWriter) : DiagnosticWriter := { s with worker := s.worker.notified }

def returned (s : DiagnosticWriter) (job : WriterJob) (result : Bool) : DiagnosticWriter × Bool :=
  ({ s with calls := s.calls ++ [(job, result)] }, result)

/-- `submit`; `startOk` is false if the start of the thread raises. -/
def submit (limits : WriterLimits) (s : DiagnosticWriter) (path text : PyStr) (startOk : Bool) :
    DiagnosticWriter × Bool :=
  let size := (encodeUtf8 text).length
  let job : WriterJob := ⟨s.calls.length, path, text, size⟩
  if s.closed then s.returned job false
  else if s.queue.length ≥ limits.maxJobs ∨ s.bytes + size > limits.maxBytes then
    { s with warned := true }.returned job false
  else
    let s := { s with queue := s.queue ++ [job], bytes := s.bytes + size }
    if s.thread then s.notifyAll.returned job true
    else if startOk then { s with thread := true, worker := .ready }.notifyAll.returned job true
    else { s with queue := s.queue.dropLast, bytes := s.bytes - size }.returned job false

/-- The next step of `_run`; `writeOk` is false if `_write_lines` raises. -/
def work (s : DiagnosticWriter) (writeOk : Bool) : DiagnosticWriter :=
  match s.worker with
  | .ready =>
      match s.queue with
      | [] => { s with worker := if s.closed then .exited else .waiting }
      | job :: queue => { s with queue, active := true, worker := .writing job }
  | .writing job =>
      { s with handed := s.handed ++ [job], writeFailed := !writeOk, worker := .finishing job }
  | .finishing job =>
      { s with
        bytes := s.bytes - job.size
        active := false
        warned := if s.queue = [] then false else s.warned
        worker := .ready }
  | .absent | .waiting | .exited => s

/-- `stop`, up to the `join` -/
def stop (s : DiagnosticWriter) : DiagnosticWriter := { s with closed := true }.notifyAll

/-- The jobs for which `submit` returned `True`. -/
def accepted (s : DiagnosticWriter) : List WriterJob :=
  (s.calls.filter fun call => call.2).map Prod.fst

end DiagnosticWriter

inductive WriterAction where
  | submit (path text : PyStr) (startOk : Bool)
  | work (writeOk : Bool)
  /-- The wait returns without a notification. -/
  | wake
  | stop

def writerStep (limits : WriterLimits) (s : DiagnosticWriter) : WriterAction → DiagnosticWriter
  | .submit path text startOk => (s.submit limits path text startOk).1
  | .work writeOk => s.work writeOk
  | .wake => s.notifyAll
  | .stop => s.stop

/-! ### The invariant -/

/-- The bytes of jobs. -/
def jobBytes (jobs : List WriterJob) : ℤ := (jobs.map fun job => (job.size : ℤ)).sum

structure WriterInv (limits : WriterLimits) (s : DiagnosticWriter) : Prop where
  order : s.handed ++ s.worker.unwritten ++ s.queue = s.accepted
  bytes : s.bytes = jobBytes (s.worker.busy ++ s.queue)
  maxBytes : s.bytes ≤ limits.maxBytes
  maxJobs : s.queue.length ≤ limits.maxJobs
  thread : s.thread = true ↔ s.worker ≠ .absent
  absent : s.worker = .absent → s.queue = []
  waiting : s.worker = .waiting → s.queue = [] ∧ s.closed = false
  exited : s.worker = .exited → s.queue = [] ∧ s.closed = true
  active : s.active = true ↔ s.worker.busy ≠ []
  numbered : s.calls.map (fun call => call.1.call) = List.range s.calls.length

section Invariant

variable {limits : WriterLimits} {s : DiagnosticWriter}

theorem jobBytes_append (jobs jobs' : List WriterJob) :
    jobBytes (jobs ++ jobs') = jobBytes jobs + jobBytes jobs' := by
  rw [jobBytes, List.map_append, List.sum_append]
  rfl

theorem accepted_returned (s : DiagnosticWriter) (job : WriterJob) (result : Bool) :
    (s.returned job result).1.accepted = if result then s.accepted ++ [job] else s.accepted := by
  cases result <;> simp [DiagnosticWriter.returned, DiagnosticWriter.accepted]

theorem notified_spec (phase : WorkerPhase) :
    phase.notified.unwritten = phase.unwritten ∧ phase.notified.busy = phase.busy ∧
      phase.notified ≠ .waiting ∧ (phase.notified = .absent ↔ phase = .absent) ∧
      (phase.notified = .exited ↔ phase = .exited) := by
  cases phase <;> simp [WorkerPhase.notified, WorkerPhase.unwritten, WorkerPhase.busy]

theorem numbered_returned (h : s.calls.map (fun call => call.1.call) = List.range s.calls.length)
    (path text : PyStr) (size : ℕ) (result : Bool) :
    let calls := s.calls ++ [(⟨s.calls.length, path, text, size⟩, result)]
    calls.map (fun call => call.1.call) = List.range calls.length := by
  intro calls
  simp [calls, h, List.range_succ]

theorem WriterInv.notifyAll (h : WriterInv limits s) : WriterInv limits s.notifyAll := by
  obtain ⟨hunwritten, hbusy, hwaiting, habsent, hexited⟩ := notified_spec s.worker
  constructor
  case order => exact hunwritten.symm ▸ h.order
  case bytes => exact hbusy.symm ▸ h.bytes
  case maxBytes => exact h.maxBytes
  case maxJobs => exact h.maxJobs
  case thread => exact h.thread.trans (not_congr habsent).symm
  case absent => exact fun he => h.absent (habsent.mp he)
  case waiting => exact fun he => absurd he hwaiting
  case exited => exact fun he => h.exited (hexited.mp he)
  case active => exact hbusy.symm ▸ h.active
  case numbered => exact h.numbered

/-- **What `submit` does**: it refuses the job and changes nothing but the warning, or it
queues the job, with a worker that will look at the queue. -/
theorem submit_cases (limits : WriterLimits) (s : DiagnosticWriter) (path text : PyStr)
    (startOk : Bool) :
    let job : WriterJob := ⟨s.calls.length, path, text, (encodeUtf8 text).length⟩
    (∃ warned, s.submit limits path text startOk = { s with warned }.returned job false) ∨
    (s.closed = false ∧ s.queue.length < limits.maxJobs ∧ s.bytes + job.size ≤ limits.maxBytes ∧
      (s.thread = true ∨ startOk = true) ∧
      s.submit limits path text startOk = { s with
        queue := s.queue ++ [job]
        bytes := s.bytes + job.size
        thread := true
        worker := if s.thread then s.worker.notified else .ready }.returned job true) := by
  intro job
  unfold DiagnosticWriter.submit
  dsimp only
  by_cases hclosed : s.closed = true
  · rw [if_pos hclosed]
    exact Or.inl ⟨s.warned, rfl⟩
  rw [if_neg hclosed]
  by_cases hfull : s.queue.length ≥ limits.maxJobs ∨
      s.bytes + ((encodeUtf8 text).length : ℤ) > limits.maxBytes
  · rw [if_pos hfull]
    exact Or.inl ⟨true, rfl⟩
  rw [if_neg hfull]
  rw [not_or, not_le, not_lt] at hfull
  by_cases hthread : s.thread = true
  · simp only [if_pos hthread]
    refine Or.inr ⟨Bool.eq_false_iff.mpr hclosed, hfull.1, hfull.2, Or.inl hthread, ?_⟩
    rw [← hthread]
    rfl
  · simp only [if_neg hthread]
    by_cases hstart : startOk = true
    · rw [if_pos hstart]
      exact Or.inr ⟨Bool.eq_false_iff.mpr hclosed, hfull.1, hfull.2, Or.inr hstart, rfl⟩
    · -- the start failed: the job is taken back
      rw [if_neg hstart, List.dropLast_concat, Int.add_sub_cancel]
      exact Or.inl ⟨s.warned, rfl⟩

theorem WriterInv.submit (h : WriterInv limits s) (path text : PyStr) (startOk : Bool) :
    WriterInv limits (s.submit limits path text startOk).1 := by
  rcases submit_cases limits s path text startOk with ⟨warned, he⟩ | ⟨hclosed, hjobs, hbytes, -, he⟩
  · rw [he]
    constructor
    case order => exact (accepted_returned { s with warned } _ false).symm ▸ h.order
    case bytes => exact h.bytes
    case maxBytes => exact h.maxBytes
    case maxJobs => exact h.maxJobs
    case thread => exact h.thread
    case absent => exact h.absent
    case waiting => exact h.waiting
    case exited => exact h.exited
    case active => exact h.active
    case numbered => exact numbered_returned h.numbered path text _ false
  · -- the worker is ready, or busy
    have hworker : ∀ phase, phase = (if s.thread then s.worker.notified else .ready) →
        phase.unwritten = s.worker.unwritten ∧ phase.busy = s.worker.busy ∧ phase ≠ .waiting ∧
          phase ≠ .absent ∧ phase ≠ .exited := by
      rintro phase rfl
      split_ifs with hthread
      · obtain ⟨hunwritten, hbusy, hwaiting, habsent, hexited⟩ := notified_spec s.worker
        refine ⟨hunwritten, hbusy, hwaiting, mt habsent.mp (h.thread.mp hthread), fun hex => ?_⟩
        have hopen := (h.exited (hexited.mp hex)).2
        rw [hclosed] at hopen
        cases hopen
      · have habsent : s.worker = .absent := not_not.mp (mt h.thread.mpr hthread)
        rw [habsent]
        simp [WorkerPhase.unwritten, WorkerPhase.busy]
    rw [he]
    generalize (if s.thread then s.worker.notified else .ready) = phase at hworker ⊢
    obtain ⟨hunwritten, hbusy, hwaiting, habsent, hexited⟩ := hworker phase rfl
    constructor
    case order =>
      rw [accepted_returned]
      show s.handed ++ phase.unwritten ++ (s.queue ++ [_]) = s.accepted ++ [_]
      rw [hunwritten, ← List.append_assoc, h.order]
    case bytes =>
      show s.bytes + _ = jobBytes (phase.busy ++ (s.queue ++ [_]))
      rw [hbusy, ← List.append_assoc, jobBytes_append, ← h.bytes]
      simp [jobBytes]
    case maxBytes => exact hbytes
    case maxJobs =>
      show (s.queue ++ [_]).length ≤ _
      rw [List.length_append]
      exact hjobs
    case thread => exact iff_of_true rfl habsent
    case absent => exact fun hp => absurd hp habsent
    case waiting => exact fun hp => absurd hp hwaiting
    case exited => exact fun hp => absurd hp hexited
    case active => exact hbusy.symm ▸ h.active
    case numbered => exact numbered_returned h.numbered path text _ true

/-- The worker finds the queue empty, and waits or leaves. -/
theorem WriterInv.work_idle (h : WriterInv limits s) (hworker : s.worker = .ready)
    (hqueue : s.queue = []) :
    WriterInv limits { s with worker := if s.closed then .exited else .waiting } := by
  have horder := h.order
  have hbytes := h.bytes
  rw [hworker] at horder hbytes
  have hthread : s.thread = true := h.thread.mpr (by simp [hworker])
  have hactive : ¬ s.active = true := by simp [h.active, hworker, WorkerPhase.busy]
  by_cases hclosed : s.closed = true
  · rw [if_pos hclosed]
    exact ⟨horder, hbytes, h.maxBytes, h.maxJobs, by simp [hthread], by simp, by simp,
      fun _ => ⟨hqueue, hclosed⟩, by simp [hactive, WorkerPhase.busy], h.numbered⟩
  · rw [if_neg hclosed]
    exact ⟨horder, hbytes, h.maxBytes, h.maxJobs, by simp [hthread], by simp,
      fun _ => ⟨hqueue, Bool.eq_false_iff.mpr hclosed⟩, by simp,
      by simp [hactive, WorkerPhase.busy], h.numbered⟩

/-- The worker takes the first job. -/
theorem WriterInv.work_take (h : WriterInv limits s) (hworker : s.worker = .ready)
    {job : WriterJob} {queue : List WriterJob} (hqueue : s.queue = job :: queue) :
    WriterInv limits { s with queue, active := true, worker := .writing job } := by
  have horder := h.order
  have hbytes := h.bytes
  have hjobs := h.maxJobs
  rw [hworker, hqueue] at horder hbytes
  rw [hqueue, List.length_cons] at hjobs
  have hthread : s.thread = true := h.thread.mpr (by simp [hworker])
  constructor
  case order =>
    show s.handed ++ [job] ++ queue = s.accepted
    rw [← horder]
    simp [WorkerPhase.unwritten]
  case bytes => exact hbytes
  case maxBytes => exact h.maxBytes
  case maxJobs => exact (Nat.lt_of_succ_le hjobs).le
  case thread => simp [hthread]
  case numbered => exact h.numbered
  all_goals simp [WorkerPhase.busy]

/-- The job is handed to `_write_lines`. -/
theorem WriterInv.work_write (h : WriterInv limits s) {job : WriterJob}
    (hworker : s.worker = .writing job) (writeOk : Bool) :
    WriterInv limits { s with
      handed := s.handed ++ [job], writeFailed := !writeOk, worker := .finishing job } := by
  have horder := h.order
  have hbytes := h.bytes
  rw [hworker] at horder hbytes
  have hthread : s.thread = true := h.thread.mpr (by simp [hworker])
  have hactive : s.active = true := h.active.mpr (by simp [hworker, WorkerPhase.busy])
  constructor
  case order =>
    show s.handed ++ [job] ++ [] ++ s.queue = s.accepted
    rw [← horder]
    simp [WorkerPhase.unwritten]
  case bytes => exact hbytes
  case maxBytes => exact h.maxBytes
  case maxJobs => exact h.maxJobs
  case thread => simp [hthread]
  case numbered => exact h.numbered
  all_goals simp [WorkerPhase.busy, hactive]

/-- The bytes of the job are given back. -/
theorem WriterInv.work_finish (h : WriterInv limits s) {job : WriterJob}
    (hworker : s.worker = .finishing job) (warned : Bool) :
    WriterInv limits { s with
      bytes := s.bytes - job.size, active := false, warned, worker := .ready } := by
  have horder := h.order
  have hbytes := h.bytes
  have hmax := h.maxBytes
  rw [hworker] at horder hbytes
  have hthread : s.thread = true := h.thread.mpr (by simp [hworker])
  constructor
  case order => exact horder
  case bytes =>
    show s.bytes - job.size = jobBytes s.queue
    rw [hbytes]
    simp [WorkerPhase.busy, jobBytes]
  case maxBytes =>
    show s.bytes - job.size ≤ limits.maxBytes
    omega
  case maxJobs => exact h.maxJobs
  case thread => simp [hthread]
  case numbered => exact h.numbered
  all_goals simp [WorkerPhase.busy]

theorem WriterInv.work (h : WriterInv limits s) (writeOk : Bool) :
    WriterInv limits (s.work writeOk) := by
  rcases hworker : s.worker with - | - | - | job | job | - <;>
    rw [DiagnosticWriter.work, hworker] <;> dsimp only
  · exact h
  · split
    next hqueue => exact h.work_idle hworker hqueue
    next job queue hqueue => exact h.work_take hworker hqueue
  · exact h
  · exact h.work_write hworker writeOk
  · exact h.work_finish hworker _
  · exact h

theorem WriterInv.stop (h : WriterInv limits s) : WriterInv limits s.stop := by
  obtain ⟨hunwritten, hbusy, hwaiting, habsent, hexited⟩ := notified_spec s.worker
  have hnotified := h.notifyAll
  exact { hnotified with
    waiting := fun he => absurd he hwaiting
    exited := fun he => ⟨(h.exited (hexited.mp he)).1, rfl⟩ }

theorem WriterInv.step (h : WriterInv limits s) (a : WriterAction) :
    WriterInv limits (writerStep limits s a) := by
  cases a with
  | submit path text startOk => exact h.submit path text startOk
  | work writeOk => exact h.work writeOk
  | wake => exact h.notifyAll
  | stop => exact h.stop

end Invariant

/-! ### Delivery -/

/-- Steps of the present round that are done. -/
def WorkerPhase.roundsDone : WorkerPhase → ℕ
  | ready => 1
  | writing _ => 2
  | _ => 0

/-- Worker steps until the first `n` accepted jobs are handed over, of three for each job. -/
def DiagnosticWriter.workLeft (s : DiagnosticWriter) (n : ℕ) : ℕ :=
  if n ≤ s.handed.length then 0 else 3 * (n - s.handed.length) - s.worker.roundsDone

def WriterAction.isWork : WriterAction → Bool
  | work _ => true
  | _ => false

section Delivery

variable {limits : WriterLimits} {s : DiagnosticWriter}

theorem WriterInv.length_accepted (h : WriterInv limits s) :
    s.accepted.length = s.handed.length + s.worker.unwritten.length + s.queue.length := by
  rw [← h.order, List.length_append, List.length_append]

/-- While accepted jobs are left the worker is at work. -/
theorem WriterInv.at_work (h : WriterInv limits s) (hleft : s.handed.length < s.accepted.length) :
    (s.worker = .ready ∧ s.queue ≠ []) ∨ (∃ job, s.worker = .writing job) ∨
      ∃ job, s.worker = .finishing job := by
  rw [h.length_accepted] at hleft
  rcases hworker : s.worker with - | - | - | job | job | -
  · simp [hworker, h.absent hworker, WorkerPhase.unwritten] at hleft
  · refine Or.inl ⟨rfl, fun hqueue => ?_⟩
    simp [hworker, hqueue, WorkerPhase.unwritten] at hleft
  · simp [hworker, (h.waiting hworker).1, WorkerPhase.unwritten] at hleft
  · exact Or.inr (Or.inl ⟨job, rfl⟩)
  · exact Or.inr (Or.inr ⟨job, rfl⟩)
  · simp [hworker, (h.exited hworker).1, WorkerPhase.unwritten] at hleft

theorem calls_work (s : DiagnosticWriter) (writeOk : Bool) : (s.work writeOk).calls = s.calls := by
  unfold DiagnosticWriter.work
  split
  · split <;> rfl
  all_goals rfl

theorem closed_work (s : DiagnosticWriter) (writeOk : Bool) :
    (s.work writeOk).closed = s.closed := by
  unfold DiagnosticWriter.work
  split
  · split <;> rfl
  all_goals rfl

theorem handed_work (s : DiagnosticWriter) (writeOk : Bool) :
    (s.work writeOk).handed = s.handed ++ s.worker.unwritten := by
  unfold DiagnosticWriter.work WorkerPhase.unwritten
  rcases s.worker with - | - | - | job | job | -
  case ready => rcases s.queue with - | ⟨job, queue⟩ <;> exact (List.append_nil _).symm
  case writing => rfl
  all_goals exact (List.append_nil _).symm

/-- What was accepted stays accepted, and what was handed over stays handed over. -/
theorem writerStep_grows (limits : WriterLimits) (s : DiagnosticWriter) (a : WriterAction) :
    s.accepted <+: (writerStep limits s a).accepted ∧
      s.handed <+: (writerStep limits s a).handed := by
  cases a with
  | submit path text startOk =>
      show s.accepted <+: (s.submit limits path text startOk).1.accepted ∧
        s.handed <+: (s.submit limits path text startOk).1.handed
      rcases submit_cases limits s path text startOk with ⟨warned, he⟩ | ⟨-, -, -, -, he⟩
      · rw [he, accepted_returned]
        exact ⟨List.prefix_rfl, List.prefix_rfl⟩
      · rw [he, accepted_returned]
        exact ⟨List.prefix_append _ _, List.prefix_rfl⟩
  | work writeOk =>
      show s.accepted <+: (s.work writeOk).accepted ∧ s.handed <+: (s.work writeOk).handed
      rw [DiagnosticWriter.accepted, DiagnosticWriter.accepted, calls_work, handed_work]
      exact ⟨List.prefix_rfl, List.prefix_append _ _⟩
  | wake => exact ⟨List.prefix_rfl, List.prefix_rfl⟩
  | stop => exact ⟨List.prefix_rfl, List.prefix_rfl⟩

theorem workLeft_of_le {n : ℕ} (hn : n ≤ s.handed.length) : s.workLeft n = 0 := if_pos hn

theorem workLeft_of_lt {n : ℕ} (hn : s.handed.length < n) :
    s.workLeft n = 3 * (n - s.handed.length) - s.worker.roundsDone := if_neg (Nat.not_le.mpr hn)

/-- A step of the worker does one of the steps that are left. -/
theorem WriterInv.workLeft_work (h : WriterInv limits s) {n : ℕ} (hn : n ≤ s.accepted.length)
    (writeOk : Bool) : (s.work writeOk).workLeft n ≤ s.workLeft n - 1 := by
  have hgrows := (writerStep_grows limits s (.work writeOk)).2.length_le
  by_cases hdone : n ≤ (s.work writeOk).handed.length
  · rw [workLeft_of_le hdone]
    exact Nat.zero_le _
  have hleft : s.handed.length < n := lt_of_le_of_lt hgrows (Nat.not_le.mp hdone)
  have hhanded := handed_work s writeOk
  rw [workLeft_of_lt hleft, workLeft_of_lt (Nat.not_le.mp hdone)]
  rcases h.at_work (by omega) with ⟨hworker, hqueue⟩ | ⟨job, hworker⟩ | ⟨job, hworker⟩
  · obtain ⟨job, queue, hqueue⟩ := List.exists_cons_of_ne_nil hqueue
    have hnext : (s.work writeOk).worker = .writing job := by
      rw [DiagnosticWriter.work, hworker]
      dsimp only
      rw [hqueue]
    rw [hhanded, hworker, hnext]
    simp only [WorkerPhase.unwritten, WorkerPhase.roundsDone, List.append_nil]
    omega
  · have hnext : (s.work writeOk).worker = .finishing job := by rw [DiagnosticWriter.work, hworker]
    rw [hhanded, hworker, hnext]
    simp only [WorkerPhase.unwritten, WorkerPhase.roundsDone, List.length_append, List.length_singleton]
    omega
  · have hnext : (s.work writeOk).worker = .ready := by rw [DiagnosticWriter.work, hworker]
    rw [hhanded, hworker, hnext]
    simp only [WorkerPhase.unwritten, WorkerPhase.roundsDone, List.append_nil]
    omega

/-- The other steps leave the worker at work. -/
theorem WriterInv.worker_other (h : WriterInv limits s)
    (hleft : s.handed.length < s.accepted.length) {a : WriterAction} (ha : a.isWork = false) :
    (writerStep limits s a).worker = s.worker ∧ (writerStep limits s a).handed = s.handed := by
  have hnotified : s.worker.notified = s.worker ∧ s.worker ≠ .absent := by
    rcases h.at_work hleft with ⟨hworker, -⟩ | ⟨job, hworker⟩ | ⟨job, hworker⟩ <;>
      simp [hworker, WorkerPhase.notified]
  cases a with
  | submit path text startOk =>
      show (s.submit limits path text startOk).1.worker = _ ∧
        (s.submit limits path text startOk).1.handed = _
      rcases submit_cases limits s path text startOk with ⟨warned, he⟩ | ⟨-, -, -, -, he⟩
      · rw [he]
        exact ⟨rfl, rfl⟩
      · rw [he]
        refine ⟨?_, rfl⟩
        show (if s.thread then s.worker.notified else .ready) = s.worker
        rw [if_pos (h.thread.mpr hnotified.2), hnotified.1]
  | work writeOk => cases ha
  | wake => exact ⟨hnotified.1, rfl⟩
  | stop => exact ⟨hnotified.1, rfl⟩

/-- The steps that are left after a run. -/
theorem WriterInv.workLeft_run (h : WriterInv limits s) {n : ℕ} (hn : n ≤ s.accepted.length)
    (as : List WriterAction) :
    (run (writerStep limits) s as).workLeft n ≤ s.workLeft n - as.countP (·.isWork) := by
  induction as generalizing s with
  | nil => exact Nat.le_refl _
  | cons a as ih =>
      have hgrows := writerStep_grows limits s a
      have hrest := ih (h.step a) (hn.trans hgrows.1.length_le)
      have hstep : (writerStep limits s a).workLeft n ≤
          s.workLeft n - (if a.isWork then 1 else 0) := by
        cases ha : a.isWork with
        | true =>
            obtain ⟨writeOk, rfl⟩ : ∃ writeOk, a = .work writeOk := by
              cases a <;> first | exact ⟨_, rfl⟩ | cases ha
            exact h.workLeft_work hn writeOk
        | false =>
            by_cases hdone : n ≤ s.handed.length
            · rw [workLeft_of_le (hdone.trans hgrows.2.length_le)]
              exact Nat.zero_le _
            · obtain ⟨hworker, hhanded⟩ := h.worker_other (by omega) ha
              have hsame : (writerStep limits s a).workLeft n = s.workLeft n := by
                rw [DiagnosticWriter.workLeft, DiagnosticWriter.workLeft, hworker, hhanded]
              exact hsame.le
      rw [run_cons, List.countP_cons]
      omega

theorem accepted_run (limits : WriterLimits) (s : DiagnosticWriter) (as : List WriterAction) :
    s.accepted <+: (run (writerStep limits) s as).accepted := by
  induction as generalizing s with
  | nil => exact List.prefix_rfl
  | cons a as ih => exact (writerStep_grows limits s a).1.trans (ih _)

/-- **Every accepted job is handed over** as soon as the worker did three steps for each job
of the queue, and three for its own, whatever happens between them. -/
theorem WriterInv.delivers (h : WriterInv limits s) (as : List WriterAction)
    (hwork : 3 * (s.queue.length + 1) ≤ as.countP (·.isWork)) :
    s.accepted <+: (run (writerStep limits) s as).handed := by
  have hrun : WriterInv limits (run (writerStep limits) s as) :=
    run_invariant h fun _ a _ ht => ht.step a
  have hgrows := accepted_run limits s as
  have hleft := h.workLeft_run (Nat.le_refl _) as
  generalize run (writerStep limits) s as = t at hrun hgrows hleft ⊢
  have hbound : s.workLeft s.accepted.length ≤ 3 * (s.queue.length + 1) := by
    have hunwritten : s.worker.unwritten.length ≤ 1 := by
      cases s.worker <;> simp [WorkerPhase.unwritten]
    rw [DiagnosticWriter.workLeft, h.length_accepted]
    split_ifs <;> omega
  have hhanded : s.accepted.length ≤ t.handed.length := by
    by_contra hshort
    have hrounds : t.worker.roundsDone ≤ 2 := by
      cases t.worker <;> simp [WorkerPhase.roundsDone]
    rw [workLeft_of_lt (Nat.not_le.mp hshort)] at hleft
    omega
  have horder : t.handed <+: t.accepted := by
    rw [← hrun.order, List.append_assoc]
    exact List.prefix_append _ _
  exact List.prefix_of_prefix_length_le hgrows horder hhanded

end Delivery

/-! ### The queue -/

/-- **The queue is exact and bounded.** -/
structure WriterExact (limits : WriterLimits) (s : DiagnosticWriter) : Prop where
  /-- What was handed over, what is about to be and what is queued are the accepted jobs. -/
  inOrder : s.handed ++ s.worker.unwritten ++ s.queue = s.accepted
  /-- Every call has a job of its own. -/
  distinct : (s.calls.map fun call => call.1.call).Nodup
  refused : ∀ job, (job, false) ∈ s.calls → job ∉ s.handed
  delivers : ∀ as : List WriterAction, 3 * (s.queue.length + 1) ≤ as.countP (·.isWork) →
    s.accepted <+: (run (writerStep limits) s as).handed
  staysForQueue : s.queue ≠ [] → s.worker ≠ .absent ∧ s.worker ≠ .waiting ∧ s.worker ≠ .exited
  bytes : s.bytes = jobBytes (s.worker.busy ++ s.queue)
  maxBytes : s.bytes ≤ limits.maxBytes
  maxJobs : s.queue.length ≤ limits.maxJobs
  /-- A thread that cannot be started leaves everything as it was. -/
  failedStart : s.thread = false → ∀ path text,
    let r := s.submit limits path text false
    r.2 = false ∧ r.1.queue = s.queue ∧ r.1.bytes = s.bytes ∧ r.1.thread = false ∧
      r.1.worker = .absent
  stopped : ∀ as : List WriterAction, (run (writerStep limits) s.stop as).accepted = s.accepted

section Exact

variable {limits : WriterLimits} {s : DiagnosticWriter}

/-- A refused job is not accepted: the numbers of the calls differ. -/
theorem WriterInv.not_accepted (h : WriterInv limits s) {job : WriterJob}
    (hjob : (job, false) ∈ s.calls) : job ∉ s.accepted := by
  intro haccepted
  obtain ⟨⟨job', result⟩, hmem, rfl⟩ := List.mem_map.mp haccepted
  obtain ⟨hmem, hresult⟩ := List.mem_filter.mp hmem
  have hnodup : (s.calls.map fun call => call.1.call).Nodup := h.numbered ▸ List.nodup_range
  have hsame := List.inj_on_of_nodup_map hnodup hjob hmem rfl
  rw [Prod.mk.injEq] at hsame
  rw [← hsame.2] at hresult
  cases hresult

/-- A closed writer stays closed and accepts nothing. -/
theorem closed_step (limits : WriterLimits) (hclosed : s.closed = true) (a : WriterAction) :
    (writerStep limits s a).closed = true ∧ (writerStep limits s a).accepted = s.accepted := by
  cases a with
  | submit path text startOk =>
      rcases submit_cases limits s path text startOk with ⟨warned, he⟩ | ⟨hopen, -⟩
      · show (s.submit limits path text startOk).1.closed = true ∧
          (s.submit limits path text startOk).1.accepted = s.accepted
        rw [he, accepted_returned]
        exact ⟨hclosed, rfl⟩
      · rw [hclosed] at hopen
        cases hopen
  | work writeOk =>
      refine ⟨?_, ?_⟩
      · show (s.work writeOk).closed = true
        rw [closed_work, hclosed]
      · show (s.work writeOk).accepted = s.accepted
        rw [DiagnosticWriter.accepted, DiagnosticWriter.accepted, calls_work]
  | wake => exact ⟨hclosed, rfl⟩
  | stop => exact ⟨rfl, rfl⟩

theorem closed_run (hclosed : s.closed = true) (as : List WriterAction) :
    (run (writerStep limits) s as).accepted = s.accepted := by
  induction as generalizing s with
  | nil => rfl
  | cons a as ih =>
      obtain ⟨hstill, haccepted⟩ := closed_step limits hclosed a
      rw [run_cons, ih hstill, haccepted]

theorem WriterInv.exact (h : WriterInv limits s) : WriterExact limits s where
  inOrder := h.order
  distinct := h.numbered ▸ List.nodup_range
  refused job hjob hhanded := by
    apply h.not_accepted hjob
    rw [← h.order, List.append_assoc]
    exact List.mem_append_left _ hhanded
  delivers := h.delivers
  staysForQueue hqueue :=
    ⟨fun hw => hqueue (h.absent hw), fun hw => hqueue (h.waiting hw).1,
      fun hw => hqueue (h.exited hw).1⟩
  bytes := h.bytes
  maxBytes := h.maxBytes
  maxJobs := h.maxJobs
  failedStart hthread path text := by
    intro r
    have hworker : s.worker = .absent := by
      by_contra hworker
      rw [h.thread.mpr hworker] at hthread
      cases hthread
    rcases submit_cases limits s path text false with ⟨warned, he⟩ | ⟨-, -, -, hstart, -⟩
    · have hr : r = _ := he
      rw [hr]
      exact ⟨rfl, rfl, rfl, hthread, hworker⟩
    · rw [hthread] at hstart
      simp at hstart
  stopped as := closed_run rfl as

end Exact

end GroBro
