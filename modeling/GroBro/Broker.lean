/-
GroBro/Broker.lean

Messages to a broker, seen from the side that sends them.  A publish is accepted,
rejected or raises; a message can also be suppressed because a cache says that the
broker has it already.  A cache of what was accepted is forgotten on a reconnect.

* `lastAccepted t h`: the last message that was accepted on a topic since the caches
  were forgotten;
* `Coherent topic Shows cache h`: what the cache holds for a key is what the last
  accepted message on the topic of that key shows.

A cache stays coherent as long as every accepted publish is followed by a store of
what was published, or by a removal of its key (`Coherent.store`, `Coherent.remove`).
-/
import GroBro.History

namespace Broker

open History

/-- What became of a publish. -/
inductive Outcome where
  | accepted
  | rejected
  | raised
  deriving DecidableEq, Repr

/-- Topics `τ`, messages `ν`. -/
inductive Event (τ ν : Type*) where
  | published (topic : τ) (message : ν) (outcome : Outcome)
  | suppressed (topic : τ) (message : ν)
  | forgotten
  deriving DecidableEq

variable {τ ν : Type*} [DecidableEq τ]

/-- What an event says about a topic: nothing, or what is on it now. -/
def Event.shown (t : τ) : Event τ ν → Option (Option ν)
  | .published t' m .accepted => if t' = t then some (some m) else none
  | .published _ _ _ => none
  | .suppressed _ _ => none
  | .forgotten => some none

/-- The last message accepted on a topic since the caches were forgotten. -/
def lastAccepted (t : τ) (h : List (Event τ ν)) : Option ν := latest (Event.shown t) h

section LastAccepted

variable {t t' : τ} {m : ν} {h : List (Event τ ν)} {e : Event τ ν}

theorem shown_accepted (t : τ) (m : ν) :
    (Event.published t m .accepted).shown t = some (some m) := if_pos rfl

theorem shown_of_ne (ht : t' ≠ t) (m : ν) (o : Outcome) : (Event.published t' m o).shown t = none := by
  cases o with
  | accepted => exact if_neg ht
  | rejected => rfl
  | raised => rfl

theorem shown_of_not_accepted {o : Outcome} (ho : o ≠ .accepted) (t' t : τ) (m : ν) :
    (Event.published t' m o).shown t = none := by
  cases o with
  | accepted => exact absurd rfl ho
  | rejected => rfl
  | raised => rfl

theorem lastAccepted_accepted : lastAccepted t (h ++ [.published t m .accepted]) = some m :=
  latest_concat_of_some _ (shown_accepted t m)

theorem lastAccepted_of_shown_none (he : e.shown t = none) :
    lastAccepted t (h ++ [e]) = lastAccepted t h := latest_concat_of_none _ he

end LastAccepted

/-! ### Coherent caches -/

section Coherent

variable {κ γ : Type*} [DecidableEq κ] {topic : κ → τ} {Shows : γ → ν → Prop}
  {cache : κ → Option γ} {h : List (Event τ ν)} {e : Event τ ν} {k : κ} {c : γ} {m : ν}

omit [DecidableEq κ] in
/-- What the cache holds for a key is shown on the topic of the key. -/
def Coherent (topic : κ → τ) (Shows : γ → ν → Prop) (cache : κ → Option γ)
    (h : List (Event τ ν)) : Prop :=
  ∀ k c, cache k = some c → ∃ m, lastAccepted (topic k) h = some m ∧ Shows c m

omit [DecidableEq κ] in
theorem coherent_empty : Coherent topic Shows (fun _ => none) h := by
  intro k c hk
  cases hk

omit [DecidableEq κ] in
/-- An event that shows nothing on the topics of the stored keys. -/
theorem Coherent.concat (hc : Coherent topic Shows cache h)
    (he : ∀ k c, cache k = some c → e.shown (topic k) = none) :
    Coherent topic Shows cache (h ++ [e]) := by
  intro k c hk
  rw [lastAccepted_of_shown_none (he k c hk)]
  exact hc k c hk

omit [DecidableEq κ] in
theorem Coherent.suppressed (hc : Coherent topic Shows cache h) (t : τ) (m : ν) :
    Coherent topic Shows cache (h ++ [.suppressed t m]) := hc.concat fun _ _ _ => rfl

omit [DecidableEq κ] in
theorem Coherent.not_accepted (hc : Coherent topic Shows cache h) {o : Outcome}
    (ho : o ≠ .accepted) (t : τ) (m : ν) : Coherent topic Shows cache (h ++ [.published t m o]) :=
  hc.concat fun k _ _ => shown_of_not_accepted ho t (topic k) m

omit [DecidableEq κ] in
/-- A publish on a topic that belongs to no key. -/
theorem Coherent.elsewhere (hc : Coherent topic Shows cache h) {t : τ} (ht : ∀ k, topic k ≠ t)
    (m : ν) (o : Outcome) : Coherent topic Shows cache (h ++ [.published t m o]) :=
  hc.concat fun k _ _ => shown_of_ne (ht k).symm m o

/-- **Write through**: an accepted message is stored for its key. -/
theorem Coherent.store (hc : Coherent topic Shows cache h) (htopic : Function.Injective topic)
    (hm : Shows c m) :
    Coherent topic Shows (Function.update cache k (some c))
      (h ++ [.published (topic k) m .accepted]) := by
  intro k' c' hk'
  by_cases hk : k' = k
  · subst hk
    rw [Function.update_self] at hk'
    obtain rfl := Option.some.inj hk'
    exact ⟨m, lastAccepted_accepted, hm⟩
  · rw [Function.update_of_ne hk] at hk'
    have hne : topic k ≠ topic k' := fun he => hk (htopic he).symm
    rw [lastAccepted_of_shown_none (shown_of_ne hne m _)]
    exact hc k' c' hk'

/-- **Invalidation**: a message on the topic of a key that is removed. -/
theorem Coherent.remove (hc : Coherent topic Shows cache h) {t : τ}
    (ht : ∀ k', topic k' = t → k' = k) (m : ν) (o : Outcome) :
    Coherent topic Shows (Function.update cache k none) (h ++ [.published t m o]) := by
  intro k' c' hk'
  by_cases hk : k' = k
  · subst hk
    rw [Function.update_self] at hk'
    cases hk'
  · rw [Function.update_of_ne hk] at hk'
    have hne : t ≠ topic k' := fun he => hk (ht k' he.symm)
    rw [lastAccepted_of_shown_none (shown_of_ne hne m o)]
    exact hc k' c' hk'

end Coherent

end Broker
