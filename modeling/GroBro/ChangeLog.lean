/-
GroBro/ChangeLog.lean

A log of values under keys.  A stream of observed values is compared with the last value of each
key, and logged, in changes-only mode if it differs, together with the value before it.

Nothing is lost: who replays the log knows the last value of every key (`known_changeLog`).
The entries of one key are a chain, each begins where the one before it ended
(`isChain_changeLog`).  What is logged of some of the keys is the log of what was observed of
them (`filter_changeLog`), so that streams with different keys do not see each other.
`Logged` is what a program does that stores and logs observations one after the other.
-/
import GroBro.Machine

namespace GroBro

namespace ChangeLog

open Machine

variable {K V : Type*} [DecidableEq K] [DecidableEq V]

/-! ### Observations -/

/-- An entry of the log. -/
structure Change (K V : Type*) where
  key : K
  value : V
  previous : Option V

/-- The observation that an entry is of. -/
def Change.observation (c : Change K V) : K × V := (c.key, c.value)

/-- The last values after one more observation. -/
def observe (values : K → Option V) (o : K × V) : K → Option V :=
  Function.update values o.1 (some o.2)

/-- The last values after a stream of observations. -/
def known (values : K → Option V) (os : List (K × V)) : K → Option V := run observe values os

/-- What is logged of one observation. -/
def note (changesOnly : Bool) (values : K → Option V) (o : K × V) : List (Change K V) :=
  if changesOnly && decide (values o.1 = some o.2) then [] else [⟨o.1, o.2, values o.1⟩]

/-- The log of a stream. -/
def changeLog (changesOnly : Bool) : (K → Option V) → List (K × V) → List (Change K V)
  | _, [] => []
  | values, o :: os => note changesOnly values o ++ changeLog changesOnly (observe values o) os

variable {changesOnly : Bool} {values : K → Option V} {o : K × V} {os : List (K × V)}

omit [DecidableEq V] in
@[simp] theorem known_nil : known values [] = values := rfl

omit [DecidableEq V] in
@[simp] theorem known_cons : known values (o :: os) = known (observe values o) os := rfl

omit [DecidableEq V] in
theorem known_append (os os' : List (K × V)) :
    known values (os ++ os') = known (known values os) os' :=
  List.foldl_append

@[simp] theorem changeLog_nil : changeLog changesOnly values [] = [] := rfl

theorem changeLog_cons : changeLog changesOnly values (o :: os) =
    note changesOnly values o ++ changeLog changesOnly (observe values o) os := rfl

theorem changeLog_append (os os' : List (K × V)) : changeLog changesOnly values (os ++ os') =
    changeLog changesOnly values os ++ changeLog changesOnly (known values os) os' := by
  induction os generalizing values with
  | nil => rfl
  | cons o os ih =>
      rw [List.cons_append, changeLog_cons, ih, changeLog_cons, List.append_assoc, known_cons]

omit [DecidableEq K] in
/-- An observation is left out in changes-only mode, if it is what was there. -/
theorem note_cases (changesOnly : Bool) (values : K → Option V) (o : K × V) :
    (changesOnly = true ∧ values o.1 = some o.2 ∧ note changesOnly values o = []) ∨
      ((changesOnly = true → values o.1 ≠ some o.2) ∧
        note changesOnly values o = [⟨o.1, o.2, values o.1⟩]) := by
  unfold note
  by_cases h : changesOnly = true ∧ values o.1 = some o.2
  · exact Or.inl ⟨h.1, h.2, if_pos (by rw [h.1, decide_eq_true h.2]; rfl)⟩
  · refine Or.inr ⟨fun hc hv => h ⟨hc, hv⟩, if_neg ?_⟩
    rw [Bool.and_eq_true, decide_eq_true_eq]
    exact h

omit [DecidableEq V] in
/-- An observation of what is there changes nothing. -/
theorem observe_self (h : values o.1 = some o.2) : observe values o = values := by
  rw [observe, ← h, Function.update_eq_self]

omit [DecidableEq V] in
/-- What is known of a key is what was observed of it last. -/
theorem known_eq_getLast? (os : List (K × V)) (k : K) : known (fun _ => none) os k =
    ((os.filter fun o => o.1 = k).getLast?).map Prod.snd := by
  induction os using List.reverseRecOn with
  | nil => rfl
  | append_singleton os o ih =>
      rw [known_append, List.filter_append, known_cons, known_nil, observe]
      by_cases hk : o.1 = k
      · have hlast : [o].filter (fun o => o.1 = k) = [o] :=
          List.filter_cons_of_pos (decide_eq_true hk)
        rw [hlast, ← hk, Function.update_self, List.getLast?_concat]
        rfl
      · have hnone : [o].filter (fun o => o.1 = k) = [] :=
          List.filter_cons_of_neg (by simpa using hk)
        rw [hnone, List.append_nil, Function.update_of_ne (Ne.symm hk), ih]

/-! ### Replay -/

/-- **Nothing is lost**: who replays the log knows the last value of every key. -/
theorem known_changeLog (changesOnly : Bool) (values : K → Option V) (os : List (K × V)) :
    known values ((changeLog changesOnly values os).map Change.observation) =
      known values os := by
  induction os generalizing values with
  | nil => rfl
  | cons o os ih =>
      rw [changeLog_cons, List.map_append, known_append, known_cons]
      rcases note_cases changesOnly values o with ⟨-, hsame, hnote⟩ | ⟨-, hnote⟩
      · rw [hnote, List.map_nil, known_nil, ← ih, observe_self hsame]
      · rw [hnote]
        exact ih (observe values o)

/-! ### Some of the keys -/

/-- Two sets of last values have the same under the keys that count. -/
def AgreeOn (p : K → Prop) (values values' : K → Option V) : Prop :=
  ∀ k, p k → values k = values' k

omit [DecidableEq V] in
theorem AgreeOn.observe {p : K → Prop} {values' : K → Option V} (h : AgreeOn p values values')
    (o : K × V) : AgreeOn p (observe values o) (ChangeLog.observe values' o) := by
  intro k hk
  unfold ChangeLog.observe
  by_cases hkey : k = o.1
  · rw [hkey, Function.update_self, Function.update_self]
  · rw [Function.update_of_ne hkey, Function.update_of_ne hkey, h k hk]

omit [DecidableEq V] in
theorem AgreeOn.observe_left {p : K → Prop} {values' : K → Option V}
    (h : AgreeOn p values values') (ho : ¬ p o.1) :
    AgreeOn p (ChangeLog.observe values o) values' := by
  intro k hk
  have hkey : k ≠ o.1 := by
    rintro rfl
    exact ho hk
  rw [ChangeLog.observe, Function.update_of_ne hkey, h k hk]

omit [DecidableEq V] in
/-- Observations of other keys leave those that count. -/
theorem AgreeOn.known_left {p : K → Prop} {values' : K → Option V} (h : AgreeOn p values values')
    (hos : ∀ o ∈ os, ¬ p o.1) : AgreeOn p (known values os) values' := by
  induction os generalizing values with
  | nil => exact h
  | cons o os ih =>
      exact ih (h.observe_left (hos o List.mem_cons_self))
        fun o' ho' => hos o' (List.mem_cons_of_mem _ ho')

/-- What is logged of some of the keys is the log of what was observed of them. -/
theorem filter_changeLog (p : K → Prop) [DecidablePred p] {values values' : K → Option V}
    (h : AgreeOn p values values') (os : List (K × V)) :
    (changeLog changesOnly values os).filter (fun c => p c.key) =
      changeLog changesOnly values' (os.filter fun o => p o.1) := by
  induction os generalizing values values' with
  | nil => rfl
  | cons o os ih =>
      rw [changeLog_cons, List.filter_append]
      by_cases ho : p o.1
      · have hnote : (note changesOnly values o).filter (fun c => p c.key) =
            note changesOnly values' o := by
          rw [note, note, h o.1 ho]
          split_ifs
          · rfl
          · exact List.filter_eq_self.mpr fun c hc => by
              rw [List.mem_singleton.mp hc]
              exact decide_eq_true ho
        have hkept : (o :: os).filter (fun o => p o.1) = o :: os.filter fun o => p o.1 :=
          List.filter_cons_of_pos (decide_eq_true ho)
        rw [hkept, changeLog_cons, hnote, ih (h.observe o)]
      · have hnote : (note changesOnly values o).filter (fun c => p c.key) = [] := by
          refine List.filter_eq_nil_iff.mpr fun c hc => ?_
          rcases note_cases changesOnly values o with ⟨-, -, hnil⟩ | ⟨-, hone⟩
          · rw [hnil] at hc
            cases hc
          · rw [hone, List.mem_singleton] at hc
            rw [hc]
            exact fun hkey => ho (of_decide_eq_true hkey)
        have hdropped : (o :: os).filter (fun o => p o.1) = os.filter fun o => p o.1 :=
          List.filter_cons_of_neg (by simpa using ho)
        rw [hdropped, hnote, List.nil_append, ih (h.observe_left ho)]

/-! ### Chains -/

/-- An entry begins where the one before it ended. -/
def Continues (c c' : Change K V) : Prop := c'.previous = some c.value

/-- The log of one key is a chain that begins with the value before it. -/
theorem isChain_changeLog_of_key {k : K} (hos : ∀ o ∈ os, o.1 = k) :
    List.IsChain Continues (changeLog changesOnly values os) ∧
      ∀ c ∈ (changeLog changesOnly values os).head?, c.previous = values k := by
  induction os generalizing values with
  | nil => exact ⟨.nil, fun c hc => nomatch hc⟩
  | cons o os ih =>
      obtain rfl := hos o List.mem_cons_self
      obtain ⟨hchain, hhead⟩ := @ih (observe values o)
        fun o' ho' => hos o' (List.mem_cons_of_mem _ ho')
      rw [changeLog_cons]
      rcases note_cases changesOnly values o with ⟨-, hsame, hnote⟩ | ⟨-, hnote⟩
      · rw [hnote, List.nil_append]
        rw [observe_self hsame] at hchain hhead ⊢
        exact ⟨hchain, hhead⟩
      · rw [hnote, List.singleton_append]
        refine ⟨List.isChain_cons.mpr ⟨fun c hc => ?_, hchain⟩, fun c hc => ?_⟩
        · exact (hhead c hc).trans (Function.update_self _ _ _)
        · rw [List.head?_cons, Option.mem_some] at hc
          rw [← hc]

/-- **The entries of one key are a chain.** -/
theorem isChain_changeLog (changesOnly : Bool) (values : K → Option V) (os : List (K × V))
    (k : K) : List.IsChain Continues
      ((changeLog changesOnly values os).filter fun c => c.key = k) := by
  rw [filter_changeLog (fun k' => k' = k) (fun _ _ => rfl) os]
  refine (isChain_changeLog_of_key (k := k) fun o ho => ?_).1
  exact of_decide_eq_true (List.mem_filter.mp ho).2

/-- In changes-only mode no entry repeats the value before it. -/
theorem previous_ne_of_mem_changeLog {c : Change K V} (hc : c ∈ changeLog true values os) :
    c.previous ≠ some c.value := by
  induction os generalizing values with
  | nil => cases hc
  | cons o os ih =>
      rw [changeLog_cons] at hc
      rcases List.mem_append.mp hc with hc | hc
      · rcases note_cases true values o with ⟨-, -, hnil⟩ | ⟨hnew, hone⟩
        · rw [hnil] at hc
          cases hc
        · rw [hone, List.mem_singleton] at hc
          rw [hc]
          exact hnew rfl
      · exact ih hc

/-! ### Programs that log -/

/-- From a state to a later one, given by their last values and logs, these observations
were stored and logged. -/
structure Logged (changesOnly : Bool) (s s' : (K → Option V) × List (Change K V))
    (os : List (K × V)) : Prop where
  values : s'.1 = known s.1 os
  log : s'.2 = s.2 ++ changeLog changesOnly s.1 os

variable {s s' s'' : (K → Option V) × List (Change K V)}

theorem Logged.refl (changesOnly : Bool) (s : (K → Option V) × List (Change K V)) :
    Logged changesOnly s s [] :=
  ⟨rfl, (List.append_nil _).symm⟩

theorem Logged.trans {os' : List (K × V)} (h : Logged changesOnly s s' os)
    (h' : Logged changesOnly s' s'' os') : Logged changesOnly s s'' (os ++ os') where
  values := by rw [h'.values, h.values, known_append]
  log := by rw [h'.log, h.log, h.values, changeLog_append, List.append_assoc]

/-- One observation, by the two cases of `note`. -/
theorem Logged.single {o : K × V} (hvalues : s'.1 = observe s.1 o)
    (hskipped : changesOnly = true → s.1 o.1 = some o.2 → s'.2 = s.2)
    (hnoted : (changesOnly = true → s.1 o.1 ≠ some o.2) → s'.2 = s.2 ++ [⟨o.1, o.2, s.1 o.1⟩]) :
    Logged changesOnly s s' [o] where
  values := hvalues
  log := by
    rw [changeLog_cons, changeLog_nil, List.append_nil]
    rcases note_cases changesOnly s.1 o with ⟨hc, hsame, hnote⟩ | ⟨hnew, hnote⟩
    · rw [hnote, List.append_nil, hskipped hc hsame]
    · rw [hnote, hnoted hnew]

/-- **A loop whose every turn logs what it observes.** -/
theorem Logged.foldl {σ α : Type*} (view : σ → (K → Option V) × List (Change K V))
    (f : σ → α → σ) {observed : α → List (K × V)} {I : σ → Prop} {as : List α}
    (hturn : ∀ t, ∀ a ∈ as, I t →
      Logged changesOnly (view t) (view (f t a)) (observed a) ∧ I (f t a))
    {t : σ} (ht : I t) :
    Logged changesOnly (view t) (view (as.foldl f t)) (as.flatMap observed) ∧
      I (as.foldl f t) := by
  induction as generalizing t with
  | nil => exact ⟨.refl _ _, ht⟩
  | cons a as ih =>
      obtain ⟨hlogged, hI⟩ := hturn t a List.mem_cons_self ht
      obtain ⟨hrest, hend⟩ := ih (fun t b hb => hturn t b (List.mem_cons_of_mem _ hb)) hI
      rw [List.flatMap_cons, List.foldl_cons]
      exact ⟨hlogged.trans hrest, hend⟩

end ChangeLog

end GroBro
