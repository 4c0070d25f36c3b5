/-
GroBro/Machine.lean

Runs of a deterministic machine.  `run step s as` is the state after the actions
`as`.  What one step preserves a run preserves (`run_invariant`), and a preorder
that every step follows, a run follows (`run_le`).  A property that a step keeps under
exactly one condition holds all along a run exactly if every step of the run meets the
condition (`always_iff`); one direction of that is `EveryStep.always`.  Two runs whose
actions look alike to every step are the same (`run_masked`), and two machines whose
steps keep a relation keep it along a run (`run_simulates`).
-/
import Mathlib

namespace Machine

variable {σ α : Type*}

/-- The state after a list of actions. -/
def run (step : σ → α → σ) (s : σ) (as : List α) : σ := as.foldl step s

variable {step : σ → α → σ} {s : σ}

@[simp] theorem run_nil : run step s [] = s := rfl

@[simp] theorem run_cons (a : α) (as : List α) : run step s (a :: as) = run step (step s a) as := rfl

theorem run_append (as bs : List α) : run step s (as ++ bs) = run step (run step s as) bs :=
  List.foldl_append

theorem run_concat (as : List α) (a : α) : run step s (as ++ [a]) = step (run step s as) a := by
  rw [run_append, run_cons, run_nil]

/-- **The invariant rule**: what holds at the start and is kept by every step that
the run takes holds after the run. -/
theorem run_invariant {I : σ → Prop} {as : List α} (h : I s)
    (hstep : ∀ t, ∀ a ∈ as, I t → I (step t a)) : I (run step s as) := by
  induction as generalizing s with
  | nil => exact h
  | cons a as ih =>
      refine ih (hstep s a List.mem_cons_self h) ?_
      intro t b hb
      exact hstep t b (List.mem_cons_of_mem _ hb)

/-- **The simulation rule**: a relation between the states of two machines that every step
keeps holds after the run. -/
theorem run_simulates {τ : Type*} {step' : τ → α → τ} {t : τ} {R : σ → τ → Prop} {as : List α}
    (h : R s t) (hstep : ∀ s t a, R s t → R (step s a) (step' t a)) :
    R (run step s as) (run step' t as) := by
  induction as generalizing s t with
  | nil => exact h
  | cons a as ih => exact ih (hstep s t a h)

/-- **The masking rule**: actions that look alike through a mask, and that steps only see
through it, may be exchanged along a run. -/
theorem run_masked {β : Type*} {mask : α → β}
    (hstep : ∀ t a b, mask a = mask b → step t a = step t b) {as bs : List α}
    (h : as.map mask = bs.map mask) : run step s as = run step s bs := by
  induction as generalizing s bs with
  | nil =>
      obtain rfl := List.map_eq_nil_iff.mp h.symm
      rfl
  | cons a as ih =>
      cases bs with
      | nil => cases h
      | cons b bs =>
          obtain ⟨hhead, htail⟩ := List.cons.inj h
          rw [run_cons, run_cons, hstep s a b hhead]
          exact ih htail

/-- **The monotonicity rule**: a preorder that every step from an invariant state
follows, the run follows. -/
theorem run_le {I : σ → Prop} {R : σ → σ → Prop} (hrefl : ∀ t, R t t)
    (htrans : ∀ t u v, R t u → R u v → R t v) {as : List α} (h : I s)
    (hinv : ∀ t, ∀ a ∈ as, I t → I (step t a)) (hstep : ∀ t, ∀ a ∈ as, I t → R t (step t a)) :
    R s (run step s as) := by
  induction as generalizing s with
  | nil => exact hrefl s
  | cons a as ih =>
      have ha : a ∈ a :: as := List.mem_cons_self
      have hrest : R (step s a) (run step (step s a) as) :=
        ih (hinv s a ha h) (fun t b hb => hinv t b (List.mem_cons_of_mem _ hb))
          (fun t b hb => hstep t b (List.mem_cons_of_mem _ hb))
      exact htrans _ _ _ (hstep s a ha h) hrest

/-- A property holds in every state that a run comes through. -/
def Always (I : σ → Prop) (step : σ → α → σ) (s : σ) (as : List α) : Prop :=
  ∀ pre post, as = pre ++ post → I (run step s pre)

/-- Every step of a run meets a condition. -/
def EveryStep (Q : σ → α → Prop) (step : σ → α → σ) (s : σ) (as : List α) : Prop :=
  ∀ pre a post, as = pre ++ a :: post → Q (run step s pre) a

theorem everyStep_nil (Q : σ → α → Prop) (step : σ → α → σ) (s : σ) : EveryStep Q step s [] := by
  intro pre a post has
  exact absurd has.symm (List.append_ne_nil_of_right_ne_nil pre (List.cons_ne_nil a post))

theorem EveryStep.cons {Q : σ → α → Prop} {a : α} {as : List α} (ha : Q s a)
    (has : EveryStep Q step (step s a) as) : EveryStep Q step s (a :: as) := by
  intro pre b post hsplit
  cases pre with
  | nil =>
      obtain ⟨rfl, -⟩ := List.cons.inj hsplit
      exact ha
  | cons a' pre =>
      obtain ⟨rfl, htail⟩ := List.cons.inj hsplit
      exact has pre b post htail

theorem Always.mono {I J : σ → Prop} {as : List α} (h : Always I step s as)
    (hIJ : ∀ t, I t → J t) : Always J step s as :=
  fun pre post has => hIJ _ (h pre post has)

/-- **The conditional invariant rule**: what a step keeps under a condition holds all along
a run whose steps meet it. -/
theorem EveryStep.always {I : σ → Prop} {Q : σ → α → Prop} {as : List α}
    (hevery : EveryStep Q step s as) (h : I s) (hstep : ∀ t a, I t → Q t a → I (step t a)) :
    Always I step s as := by
  intro pre
  induction pre using List.reverseRecOn with
  | nil =>
      intro _ _
      exact h
  | append_singleton pre a ih =>
      intro post has
      rw [List.append_assoc, List.singleton_append] at has
      rw [run_concat]
      exact hstep _ a (ih (a :: post) has) (hevery pre a post has)

/-- **The exact invariant rule**. -/
theorem always_iff {I : σ → Prop} {Q : σ → α → Prop} {as : List α} (h : I s)
    (hstep : ∀ t a, I t → (I (step t a) ↔ Q t a)) :
    Always I step s as ↔ EveryStep Q step s as := by
  constructor
  · intro halways pre a post has
    have hbefore : I (run step s pre) := halways pre (a :: post) has
    have hafter : I (run step s (pre ++ [a])) := by
      apply halways (pre ++ [a]) post
      rw [has, List.append_assoc]
      rfl
    rw [run_concat] at hafter
    exact (hstep _ a hbefore).mp hafter
  · intro hevery
    exact hevery.always h fun t a ht ha => (hstep t a ht).mpr ha

end Machine
