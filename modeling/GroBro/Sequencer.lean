/-
GroBro/Sequencer.lean

What it means to work through lists of items in order.  Clients `δ` each have a
list of items `ρ` to read, one after the other; a reader may be interrupted and
start again.  A history is the list of what happened.

A `Monitor` watches one client and accepts an event only where it belongs: a
sequence starts when none is under way, the next item is issued when the last one
was answered or timed out, and a sequence finishes when no item is left.  What a
monitor accepts is in order (`inOrder_of_accepted`), never has two items in
flight (`inFlight_of_accepted`) and starts by itself only once
(`interrupted_of_auto`).
-/
import GroBro.Machine

namespace Sequencer

open Machine

variable {δ ρ : Type*}

/-! ### Histories -/

inductive Event (δ ρ : Type*) where
  /-- A sequence starts, by itself or on demand. -/
  | started (d : δ) (auto : Bool) (items : List ρ)
  | issued (d : δ) (r : ρ)
  | answered (d : δ) (r : ρ)
  | timedOut (d : δ) (r : ρ)
  | finished (d : δ)
  | cancelled (d : δ)
  /-- The sequences of all clients are dropped. -/
  | reset
  deriving DecidableEq

variable [DecidableEq δ]

/-- The events that drop the sequence of a client. -/
def Event.interrupts (d : δ) : Event δ ρ → Bool
  | cancelled d' => d' = d
  | reset => true
  | _ => false

/-- The items issued to a client. -/
def issuedItems (d : δ) (history : List (Event δ ρ)) : List ρ :=
  history.filterMap fun
    | .issued d' r => if d' = d then some r else none
    | _ => none

/-! ### The monitor -/

inductive Phase (ρ : Type*) where
  | idle
  | ready (todo : List ρ)
  | reading (r : ρ) (todo : List ρ)

/-- The items that are still to be issued. -/
def Phase.todo : Phase ρ → List ρ
  | idle => []
  | ready todo => todo
  | reading _ todo => todo

/-- The item that waits for its answer. -/
def Phase.inFlight : Phase ρ → Option ρ
  | reading r _ => some r
  | _ => none

/-- Where a client is, and whether a sequence was started since the last
interruption. -/
structure Monitor (ρ : Type*) where
  phase : Phase ρ
  started : Bool

variable [DecidableEq ρ]

/-- The phase after an item came back. -/
def Phase.done (r : ρ) : Phase ρ → Option (Phase ρ)
  | reading r' todo => if r' = r then some (ready todo) else none
  | _ => none

/-- The event is accepted where it belongs. -/
def Monitor.step (d : δ) (m : Monitor ρ) : Event δ ρ → Option (Monitor ρ)
  | .started d' auto items =>
      if d' ≠ d then some m
      else match m.phase with
      | .idle => if auto && m.started then none else some ⟨.ready items, true⟩
      | _ => none
  | .issued d' r =>
      if d' ≠ d then some m
      else match m.phase with
      | .ready (r' :: todo) => if r' = r then some ⟨.reading r todo, m.started⟩ else none
      | _ => none
  | .answered d' r =>
      if d' ≠ d then some m else (m.phase.done r).map fun phase => ⟨phase, m.started⟩
  | .timedOut d' r =>
      if d' ≠ d then some m else (m.phase.done r).map fun phase => ⟨phase, m.started⟩
  | .finished d' =>
      if d' ≠ d then some m
      else match m.phase with
      | .ready [] => some ⟨.idle, m.started⟩
      | _ => none
  | .cancelled d' => if d' ≠ d then some m else some ⟨.idle, false⟩
  | .reset => some ⟨.idle, false⟩

/-- The monitor after a history; `none` where it did not accept. -/
def watch (d : δ) (m : Option (Monitor ρ)) (history : List (Event δ ρ)) : Option (Monitor ρ) :=
  run (fun m e => m.bind fun m => m.step d e) m history

/-- The monitor of a whole history. -/
def monitor (d : δ) (history : List (Event δ ρ)) : Option (Monitor ρ) :=
  watch d (some ⟨.idle, false⟩) history

theorem monitor_concat (d : δ) (history : List (Event δ ρ)) (e : Event δ ρ) :
    monitor d (history ++ [e]) = (monitor d history).bind fun m => m.step d e :=
  run_concat history e

theorem watch_none (d : δ) (history : List (Event δ ρ)) :
    watch d (none : Option (Monitor ρ)) history = none := by
  induction history with
  | nil => rfl
  | cons e history ih => exact ih

theorem watch_cons (d : δ) (m : Monitor ρ) (e : Event δ ρ) (history : List (Event δ ρ)) :
    watch d (some m) (e :: history) = watch d (m.step d e) history := rfl

/-- What is accepted as a whole is accepted in parts. -/
theorem watch_append {d : δ} {m : Option (Monitor ρ)} {h h' : List (Event δ ρ)} {m'' : Monitor ρ}
    (haccept : watch d m (h ++ h') = some m'') :
    ∃ m', watch d m h = some m' ∧ watch d (some m') h' = some m'' := by
  have happend : watch d m (h ++ h') = watch d (watch d m h) h' := run_append h h'
  rw [happend] at haccept
  rcases hm : watch d m h with - | m'
  · rw [hm, watch_none] at haccept
    cases haccept
  · rw [hm] at haccept
    exact ⟨m', rfl, haccept⟩

theorem watch_cons_some {d : δ} {m m'' : Monitor ρ} {e : Event δ ρ} {history : List (Event δ ρ)}
    (haccept : watch d (some m) (e :: history) = some m'') :
    ∃ m', m.step d e = some m' ∧ watch d (some m') history = some m'' := by
  rw [watch_cons] at haccept
  rcases hm : m.step d e with - | m'
  · rw [hm, watch_none] at haccept
    cases haccept
  · rw [hm] at haccept
    exact ⟨m', rfl, haccept⟩

/-! ### What an accepted event does -/

/-- The events that concern a client. -/
def Event.about (d : δ) : Event δ ρ → Bool
  | started d' _ _ => d' = d
  | issued d' _ => d' = d
  | answered d' _ => d' = d
  | timedOut d' _ => d' = d
  | finished d' => d' = d
  | cancelled d' => d' = d
  | reset => true

/-- The two events that bring an item back. -/
def Event.Ends (d : δ) (r : ρ) (e : Event δ ρ) : Prop := e = .answered d r ∨ e = .timedOut d r

/-- The accepted steps, one by one. -/
inductive Accepts (d : δ) (m : Monitor ρ) : Event δ ρ → Monitor ρ → Prop
  | other {e} : e.about d = false → Accepts d m e m
  | started {auto items} : m.phase = .idle → (auto = true → m.started = false) →
      Accepts d m (.started d auto items) ⟨.ready items, true⟩
  | issued {r todo} : m.phase = .ready (r :: todo) →
      Accepts d m (.issued d r) ⟨.reading r todo, m.started⟩
  | ended {e r todo} : e.Ends d r → m.phase = .reading r todo →
      Accepts d m e ⟨.ready todo, m.started⟩
  | finished : m.phase = .ready [] → Accepts d m (.finished d) ⟨.idle, m.started⟩
  | interrupted {e} : e.interrupts d = true → Accepts d m e ⟨.idle, false⟩

variable {d : δ} {m m' : Monitor ρ}

/-- Events about other clients change nothing. -/
theorem step_of_not_about {e : Event δ ρ} (h : e.about d = false) : m.step d e = some m := by
  cases e with
  | reset => cases h
  | _ => exact if_pos (of_decide_eq_false h)

theorem accepts_of_ended {e : Event δ ρ} {r : ρ} (he : e.Ends d r)
    (h : (m.phase.done r).map (fun phase => (⟨phase, m.started⟩ : Monitor ρ)) = some m') :
    Accepts d m e m' := by
  obtain ⟨phase', hphase, rfl⟩ := Option.map_eq_some_iff.mp h
  rcases hp : m.phase with - | todo | ⟨r', todo⟩
  · rw [hp] at hphase
    cases hphase
  · rw [hp] at hphase
    cases hphase
  · rw [hp, Phase.done] at hphase
    split_ifs at hphase with hr
    obtain rfl := Option.some.inj hphase
    subst hr
    exact .ended he hp

/-- **The monitor accepts these steps and no others.** -/
theorem accepts_of_step {e : Event δ ρ} (h : m.step d e = some m') : Accepts d m e m' := by
  -- events about other clients, and then one case for each kind of event
  rcases habout : e.about d with - | -
  · rw [step_of_not_about habout] at h
    obtain rfl := Option.some.inj h
    exact .other habout
  cases e with
  | started d' auto items =>
      obtain rfl : d' = d := of_decide_eq_true habout
      rw [Monitor.step, if_neg (not_not.mpr rfl)] at h
      rcases hp : m.phase with - | todo | ⟨r, todo⟩
      · rw [hp] at h
        dsimp only at h
        split_ifs at h with hauto
        obtain rfl := Option.some.inj h
        refine .started hp fun ha => ?_
        rw [ha, Bool.true_and] at hauto
        exact Bool.not_eq_true _ ▸ hauto
      · rw [hp] at h
        cases h
      · rw [hp] at h
        cases h
  | issued d' r =>
      obtain rfl : d' = d := of_decide_eq_true habout
      rw [Monitor.step, if_neg (not_not.mpr rfl)] at h
      rcases hp : m.phase with - | (- | ⟨r', todo⟩) | ⟨r', todo⟩
      · rw [hp] at h
        cases h
      · rw [hp] at h
        cases h
      · rw [hp] at h
        dsimp only at h
        split_ifs at h with hr
        obtain rfl := Option.some.inj h
        subst hr
        exact .issued hp
      · rw [hp] at h
        cases h
  | answered d' r =>
      obtain rfl : d' = d := of_decide_eq_true habout
      rw [Monitor.step, if_neg (not_not.mpr rfl)] at h
      exact accepts_of_ended (Or.inl rfl) h
  | timedOut d' r =>
      obtain rfl : d' = d := of_decide_eq_true habout
      rw [Monitor.step, if_neg (not_not.mpr rfl)] at h
      exact accepts_of_ended (Or.inr rfl) h
  | finished d' =>
      obtain rfl : d' = d := of_decide_eq_true habout
      rw [Monitor.step, if_neg (not_not.mpr rfl)] at h
      rcases hp : m.phase with - | (- | ⟨r', todo⟩) | ⟨r', todo⟩
      · rw [hp] at h
        cases h
      · rw [hp] at h
        obtain rfl := Option.some.inj h
        exact .finished hp
      · rw [hp] at h
        cases h
      · rw [hp] at h
        cases h
  | cancelled d' =>
      obtain rfl : d' = d := of_decide_eq_true habout
      rw [Monitor.step, if_neg (not_not.mpr rfl)] at h
      obtain rfl := Option.some.inj h
      exact .interrupted (decide_eq_true rfl)
  | reset =>
      obtain rfl := Option.some.inj h
      exact .interrupted rfl

omit [DecidableEq ρ] in
theorem Accepts.of_started {auto : Bool} {items : List ρ}
    (h : Accepts d m (.started d auto items) m') :
    m' = ⟨.ready items, true⟩ ∧ (auto = true → m.started = false) := by
  cases h with
  | other habout => simp [Event.about] at habout
  | started _ hauto => exact ⟨rfl, hauto⟩
  | ended hends => rcases hends with h | h <;> cases h
  | interrupted hi => cases hi

omit [DecidableEq ρ] in
theorem Accepts.of_issued {r : ρ} (h : Accepts d m (.issued d r) m') :
    ∃ todo, m.phase = .ready (r :: todo) ∧ m' = ⟨.reading r todo, m.started⟩ := by
  cases h with
  | other habout => simp [Event.about] at habout
  | issued hready => exact ⟨_, hready, rfl⟩
  | ended hends => rcases hends with h | h <;> cases h
  | interrupted hi => cases hi

omit [DecidableEq ρ] in
theorem Accepts.of_finished (h : Accepts d m (.finished d) m') : m.phase = .ready [] := by
  cases h with
  | other habout => simp [Event.about] at habout
  | ended hends => rcases hends with h | h <;> cases h
  | finished hlast => exact hlast
  | interrupted hi => cases hi

/-! ### In order -/

/-- The sequence goes on: nothing interrupts it and it does not finish. -/
def GoesOn (d : δ) (mid : List (Event δ ρ)) : Prop :=
  ∀ e ∈ mid, e.interrupts d = false ∧ e ≠ .finished d

omit [DecidableEq ρ] in
theorem issuedItems_cons (e : Event δ ρ) (history : List (Event δ ρ)) :
    issuedItems d (e :: history) = issuedItems d [e] ++ issuedItems d history := by
  rw [issuedItems, issuedItems, issuedItems, ← List.filterMap_append]
  rfl

omit [DecidableEq ρ] in
/-- One event of a sequence under way: what it issues and what is left make up what
was left. -/
theorem Accepts.goesOn {e : Event δ ρ} (h : Accepts d m e m') (hp : m.phase ≠ .idle)
    (he : e.interrupts d = false ∧ e ≠ .finished d) :
    m'.phase ≠ .idle ∧ m'.started = m.started ∧
      issuedItems d [e] ++ m'.phase.todo = m.phase.todo ∧
      ∀ auto items, e ≠ .started d auto items := by
  cases h with
  | other habout =>
      refine ⟨hp, rfl, ?_, ?_⟩
      · cases e with
        | issued d' r =>
            have hd : ¬ d' = d := of_decide_eq_false habout
            simp [issuedItems, hd]
        | _ => rfl
      · rintro auto items rfl
        simp [Event.about] at habout
  | started hidle => exact absurd hidle hp
  | issued hready =>
      refine ⟨nofun, rfl, ?_, nofun⟩
      rw [hready]
      simp [issuedItems, Phase.todo]
  | ended hends hreading =>
      refine ⟨nofun, rfl, ?_, ?_⟩
      · rw [hreading]
        rcases hends with rfl | rfl <;> rfl
      · rintro auto items rfl
        rcases hends with h | h <;> cases h
  | finished => exact absurd rfl he.2
  | interrupted hi => exact absurd (hi.symm.trans he.1) Bool.noConfusion

/-- While a sequence goes on, what was issued and what is left make up its items. -/
theorem watch_goesOn {mid : List (Event δ ρ)} (h : watch d (some m) mid = some m')
    (hp : m.phase ≠ .idle) (hmid : GoesOn d mid) :
    m'.phase ≠ .idle ∧ m'.started = m.started ∧
      issuedItems d mid ++ m'.phase.todo = m.phase.todo ∧
      ∀ auto items, .started d auto items ∉ mid := by
  induction mid generalizing m with
  | nil =>
      obtain rfl := Option.some.inj h
      exact ⟨hp, rfl, rfl, fun _ _ => List.not_mem_nil⟩
  | cons e mid ih =>
      obtain ⟨m₁, hstep, hrest⟩ := watch_cons_some h
      obtain ⟨hp₁, hstarted₁, htodo₁, hnot₁⟩ :=
        (accepts_of_step hstep).goesOn hp (hmid e List.mem_cons_self)
      obtain ⟨hp', hstarted', htodo', hnot'⟩ :=
        ih hrest hp₁ fun e he => hmid e (List.mem_cons_of_mem _ he)
      refine ⟨hp', hstarted'.trans hstarted₁, ?_, ?_⟩
      · rw [issuedItems_cons, List.append_assoc, htodo', htodo₁]
      · intro auto items hmem
        rcases List.mem_cons.mp hmem with he | hmem
        · exact hnot₁ auto items he.symm
        · exact hnot' auto items hmem

/-- An item stays in flight until it comes back. -/
theorem watch_reading {mid : List (Event δ ρ)} {r : ρ} {todo : List ρ}
    (h : watch d (some m) mid = some m') (hp : m.phase = .reading r todo) (hmid : GoesOn d mid)
    (hno : ∀ e ∈ mid, ¬ e.Ends d r) : m'.phase = .reading r todo := by
  induction mid generalizing m with
  | nil =>
      obtain rfl := Option.some.inj h
      exact hp
  | cons e mid ih =>
      obtain ⟨m₁, hstep, hrest⟩ := watch_cons_some h
      refine ih hrest ?_ (fun e he => hmid e (List.mem_cons_of_mem _ he))
        fun e he => hno e (List.mem_cons_of_mem _ he)
      have he := hmid e List.mem_cons_self
      cases accepts_of_step hstep with
      | other => exact hp
      | started hidle => cases hp.symm.trans hidle
      | issued hready => cases hp.symm.trans hready
      | ended hends hreading =>
          cases hp.symm.trans hreading
          exact absurd hends (hno e List.mem_cons_self)
      | finished => exact absurd rfl he.2
      | interrupted hi => exact absurd (hi.symm.trans he.1) Bool.noConfusion

/-- A sequence of items is worked through in order: `mid` is what happened since it
started, `post` what came then. -/
structure InOrder (d : δ) (items : List ρ) (mid post : List (Event δ ρ)) : Prop where
  /-- The issued items are the first ones, each once. -/
  ordered : issuedItems d mid <+: items
  /-- An item is issued after the one before has come back. -/
  spaced : ∀ m₁ m₂ m₃ r r', mid = m₁ ++ .issued d r :: (m₂ ++ .issued d r' :: m₃) →
    .answered d r ∈ m₂ ∨ .timedOut d r ∈ m₂
  /-- When the sequence finishes all were issued. -/
  complete : ∀ rest, post = .finished d :: rest → issuedItems d mid = items
  /-- No other sequence starts meanwhile. -/
  single : ∀ auto items', .started d auto items' ∉ mid

/-- **What a monitor accepts is in order.** -/
theorem inOrder_of_accepted {pre mid post : List (Event δ ρ)} {auto : Bool} {items : List ρ}
    (h : monitor d (pre ++ .started d auto items :: (mid ++ post)) = some m')
    (hmid : GoesOn d mid) : InOrder d items mid post := by
  -- the monitor when the sequence starts, after `mid`, and at what follows
  obtain ⟨m₀, -, h₀⟩ := watch_append h
  obtain ⟨m₁, hstart, h₁⟩ := watch_cons_some h₀
  obtain ⟨m₂, hmid₂, hpost⟩ := watch_append h₁
  obtain ⟨rfl, -⟩ := (accepts_of_step hstart).of_started
  obtain ⟨-, -, htodo, hsingle⟩ := watch_goesOn hmid₂ nofun hmid
  refine ⟨⟨_, htodo⟩, ?_, ?_, hsingle⟩
  · rintro n₁ n₂ n₃ r r' rfl
    by_contra hnone
    rw [not_or] at hnone
    obtain ⟨k₁, -, hk₁⟩ := watch_append hmid₂
    obtain ⟨k₂, hissued, hk₂⟩ := watch_cons_some hk₁
    obtain ⟨k₃, hn₂, hk₃⟩ := watch_append hk₂
    obtain ⟨k₄, hissued', -⟩ := watch_cons_some hk₃
    -- `r` is in flight when `r'` is issued
    obtain ⟨todo, -, rfl⟩ := (accepts_of_step hissued).of_issued
    have hsub : ∀ e ∈ n₂, e ∈ n₁ ++ .issued d r :: (n₂ ++ .issued d r' :: n₃) := by
      intro e he
      exact List.mem_append_right _ (List.mem_cons_of_mem _ (List.mem_append_left _ he))
    have hstill : k₃.phase = .reading r todo := by
      refine watch_reading hn₂ rfl (fun e he => hmid e (hsub e he)) ?_
      rintro e he (rfl | rfl)
      · exact hnone.1 he
      · exact hnone.2 he
    obtain ⟨todo', hready, -⟩ := (accepts_of_step hissued').of_issued
    cases hstill.symm.trans hready
  · rintro rest rfl
    -- a sequence finishes only when nothing is left
    obtain ⟨m₃, hfinished, -⟩ := watch_cons_some hpost
    rw [(accepts_of_step hfinished).of_finished] at htodo
    exact (List.append_nil _).symm.trans htodo

/-- Without an interruption the monitor remembers that a sequence was started. -/
theorem watch_started {mid : List (Event δ ρ)} (h : watch d (some m) mid = some m')
    (hm : m.started = true) (hmid : ∀ e ∈ mid, e.interrupts d = false) : m'.started = true := by
  induction mid generalizing m with
  | nil =>
      obtain rfl := Option.some.inj h
      exact hm
  | cons e mid ih =>
      obtain ⟨m₁, hstep, hrest⟩ := watch_cons_some h
      refine ih hrest ?_ fun e he => hmid e (List.mem_cons_of_mem _ he)
      cases accepts_of_step hstep with
      | started => rfl
      | interrupted hi => exact absurd (hi.symm.trans (hmid e List.mem_cons_self)) Bool.noConfusion
      | _ => exact hm

/-- **A sequence starts by itself only once**, until one is interrupted. -/
theorem interrupted_of_auto {pre mid post : List (Event δ ρ)} {auto : Bool} {items items' : List ρ}
    (h : monitor d (pre ++ .started d auto items :: (mid ++ .started d true items' :: post)) =
      some m') : ∃ e ∈ mid, e.interrupts d = true := by
  by_contra hnone
  obtain ⟨m₀, -, h₀⟩ := watch_append h
  obtain ⟨m₁, hstart, h₁⟩ := watch_cons_some h₀
  obtain ⟨m₂, hmid, h₂⟩ := watch_append h₁
  obtain ⟨m₃, hauto, -⟩ := watch_cons_some h₂
  obtain ⟨rfl, -⟩ := (accepts_of_step hstart).of_started
  have hstarted : m₂.started = true := by
    refine watch_started hmid rfl fun e he => ?_
    by_contra hi
    exact hnone ⟨e, he, Bool.not_eq_false _ ▸ hi⟩
  -- but one that starts by itself finds it forgotten
  have hfresh := (accepts_of_step hauto).of_started.2 rfl
  cases hstarted.symm.trans hfresh

/-! ### In flight -/

/-- The items that were issued and have neither come back nor been dropped. -/
def inFlight (d : δ) (history : List (Event δ ρ)) : List ρ :=
  run (fun items e => match e with
    | .issued d' r => if d' = d then items ++ [r] else items
    | .answered d' r => if d' = d then items.erase r else items
    | .timedOut d' r => if d' = d then items.erase r else items
    | e => if e.interrupts d then [] else items) [] history

/-- **An accepted history has at most one item in flight**, the one the monitor says. -/
theorem inFlight_of_accepted {history : List (Event δ ρ)} (h : monitor d history = some m) :
    inFlight d history = m.phase.inFlight.toList := by
  induction history using List.reverseRecOn generalizing m with
  | nil =>
      obtain rfl := Option.some.inj h
      rfl
  | append_singleton history e ih =>
      rw [monitor_concat] at h
      -- the last event decides: the items in flight before it are those of the monitor then
      obtain ⟨m₀, h₀, hstep⟩ := Option.bind_eq_some_iff.mp h
      have hi := ih h₀
      unfold inFlight at hi ⊢
      rw [run_concat, hi]
      cases accepts_of_step hstep with
      | other habout =>
          cases e with
          | reset => cases habout
          | issued d' r => exact if_neg (of_decide_eq_false habout)
          | answered d' r => exact if_neg (of_decide_eq_false habout)
          | timedOut d' r => exact if_neg (of_decide_eq_false habout)
          | cancelled d' =>
              dsimp only
              rw [if_neg]
              exact Bool.not_eq_true _ ▸ habout
          | _ => rfl
      | started hidle =>
          rw [hidle]
          rfl
      | issued hready =>
          rw [hready]
          exact if_pos rfl
      | @ended e r todo hends hreading =>
          rw [hreading]
          rcases hends with rfl | rfl <;> simp [Phase.inFlight]
      | finished hlast =>
          rw [hlast]
          rfl
      | interrupted hint =>
          cases e with
          | cancelled d' => exact if_pos hint
          | reset => rfl
          | _ => cases hint

end Sequencer
