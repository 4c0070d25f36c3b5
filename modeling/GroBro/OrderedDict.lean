/-
GroBro/OrderedDict.lean

Dictionaries that remember insertion order.  A `Dict` is a list of entries with
distinct keys; assigning to an existing key replaces its value in place,
assigning to a new one appends.  Iteration is over `entries`, so a loop over a
dictionary is a recursion over that list.

Everything observable about a key goes through `get?`; the lemmas say what each
operation does to it.
-/
import Mathlib

namespace OrderedDict

variable {κ α : Type*} [DecidableEq κ]

/-- Entries in insertion order, each key once. -/
structure Dict (κ α : Type*) where
  entries : List (κ × α)
  nodup : (entries.map Prod.fst).Nodup

/-- The value of the first entry with a key. -/
def lookup (k : κ) : List (κ × α) → Option α
  | [] => none
  | (k', v) :: rest => if k' = k then some v else lookup k rest

/-- Assign: in place if the key is there, at the end if not. -/
def assign (k : κ) (v : α) : List (κ × α) → List (κ × α)
  | [] => [(k, v)]
  | (k', v') :: rest => if k' = k then (k', v) :: rest else (k', v') :: assign k v rest

theorem lookup_eq_none {k : κ} {l : List (κ × α)} :
    lookup k l = none ↔ k ∉ l.map Prod.fst := by
  induction l with
  | nil => simp [lookup]
  | cons p l ih =>
      obtain ⟨k', v⟩ := p
      by_cases h : k' = k
      · simp [lookup, h]
      · simp [lookup, h, ih, Ne.symm h]

theorem mem_of_lookup {k : κ} {v : α} {l : List (κ × α)} (h : lookup k l = some v) :
    (k, v) ∈ l := by
  induction l with
  | nil => cases h
  | cons p l ih =>
      obtain ⟨k', v'⟩ := p
      by_cases hk : k' = k
      · rw [lookup, if_pos hk] at h
        cases h
        rw [hk]
        exact List.mem_cons_self
      · rw [lookup, if_neg hk] at h
        exact List.mem_cons_of_mem _ (ih h)

theorem lookup_of_mem {k : κ} {v : α} {l : List (κ × α)} (hn : (l.map Prod.fst).Nodup)
    (h : (k, v) ∈ l) : lookup k l = some v := by
  induction l with
  | nil => cases h
  | cons p l ih =>
      obtain ⟨k', v'⟩ := p
      rw [List.map_cons, List.nodup_cons] at hn
      rcases List.mem_cons.mp h with he | h'
      · cases he
        rw [lookup, if_pos rfl]
      · have hk : k' ≠ k := by
          rintro rfl
          exact hn.1 (List.mem_map.mpr ⟨(k', v), h', rfl⟩)
        rw [lookup, if_neg hk]
        exact ih hn.2 h'

theorem lookup_assign (k k' : κ) (v : α) (l : List (κ × α)) :
    lookup k' (assign k v l) = if k = k' then some v else lookup k' l := by
  induction l with
  | nil => rfl
  | cons p l ih =>
      obtain ⟨a, b⟩ := p
      by_cases ha : a = k
      · subst ha
        rw [assign, if_pos rfl, lookup, lookup]
        split_ifs <;> rfl
      · rw [assign, if_neg ha, lookup, lookup, ih]
        by_cases hk : a = k'
        · subst hk
          rw [if_pos rfl, if_pos rfl, if_neg (Ne.symm ha)]
        · rw [if_neg hk, if_neg hk]

theorem mem_keys_assign {k k' : κ} {v : α} {l : List (κ × α)} :
    k' ∈ (assign k v l).map Prod.fst ↔ k' = k ∨ k' ∈ l.map Prod.fst := by
  have h : ∀ m : List (κ × α), k' ∈ m.map Prod.fst ↔ ¬ lookup k' m = none := fun m => by
    rw [lookup_eq_none, not_not]
  rw [h, h, lookup_assign]
  by_cases hk : k = k'
  · simp [hk]
  · simp [hk, Ne.symm hk]

theorem nodup_assign (k : κ) (v : α) {l : List (κ × α)} (h : (l.map Prod.fst).Nodup) :
    ((assign k v l).map Prod.fst).Nodup := by
  induction l with
  | nil => simp [assign]
  | cons p l ih =>
      obtain ⟨k', v'⟩ := p
      by_cases hk : k' = k
      · rw [assign, if_pos hk]
        exact h
      · rw [List.map_cons, List.nodup_cons] at h
        rw [assign, if_neg hk, List.map_cons, List.nodup_cons]
        refine ⟨?_, ih h.2⟩
        intro hmem
        rcases mem_keys_assign.mp hmem with he | hm
        · exact hk he
        · exact h.1 hm

theorem assign_of_not_mem {k : κ} {v : α} {l : List (κ × α)} (h : k ∉ l.map Prod.fst) :
    assign k v l = l ++ [(k, v)] := by
  induction l with
  | nil => rfl
  | cons p l ih =>
      rw [List.map_cons, List.mem_cons, not_or] at h
      rw [assign, if_neg (Ne.symm h.1), ih h.2, List.cons_append]

/-- Reading does not depend on the order of the entries. -/
theorem lookup_perm {l l' : List (κ × α)} (hn : (l.map Prod.fst).Nodup) (h : l'.Perm l) (k : κ) :
    lookup k l' = lookup k l := by
  have hn' : (l'.map Prod.fst).Nodup := (h.map Prod.fst).nodup_iff.mpr hn
  apply Option.ext
  intro v
  constructor
  · intro hv
    exact lookup_of_mem hn (h.mem_iff.mp (mem_of_lookup hv))
  · intro hv
    exact lookup_of_mem hn' (h.mem_iff.mpr (mem_of_lookup hv))

theorem lookup_map {β : Type*} (f : α → β) (k : κ) (l : List (κ × α)) :
    lookup k (l.map fun p => (p.1, f p.2)) = (lookup k l).map f := by
  induction l with
  | nil => rfl
  | cons p l ih =>
      rw [List.map_cons, lookup, lookup, ih]
      split_ifs <;> rfl

namespace Dict

variable (d : Dict κ α)

instance [DecidableEq α] : DecidableEq (Dict κ α) := fun a b =>
  decidable_of_iff (a.entries = b.entries) ⟨fun h => by cases a; cases b; congr, fun h => h ▸ rfl⟩

omit [DecidableEq κ] in
@[ext] theorem ext {d e : Dict κ α} (h : d.entries = e.entries) : d = e := by
  cases d
  cases e
  congr

/-- `{}` -/
def empty : Dict κ α := ⟨[], List.nodup_nil⟩

instance : EmptyCollection (Dict κ α) := ⟨empty⟩

def keys : List κ := d.entries.map Prod.fst

def values : List α := d.entries.map Prod.snd

/-- `d.get(k)` -/
def get? (k : κ) : Option α := lookup k d.entries

/-- `d[k] = v` -/
def insert (k : κ) (v : α) : Dict κ α := ⟨assign k v d.entries, nodup_assign k v d.nodup⟩

/-- Assign the entries of a list one after the other. -/
def ofList (l : List (κ × α)) : Dict κ α := l.foldl (fun d p => d.insert p.1 p.2) empty

theorem mem_entries {k : κ} {v : α} : (k, v) ∈ d.entries ↔ d.get? k = some v :=
  ⟨lookup_of_mem d.nodup, mem_of_lookup⟩

theorem mem_values {d : Dict κ α} {v : α} : v ∈ d.values ↔ ∃ k, d.get? k = some v := by
  rw [values, List.mem_map]
  constructor
  · rintro ⟨⟨k, v'⟩, hmem, rfl⟩
    exact ⟨k, d.mem_entries.mp hmem⟩
  · rintro ⟨k, h⟩
    exact ⟨(k, v), d.mem_entries.mpr h, rfl⟩

theorem mem_keys_iff {d : Dict κ α} {k : κ} : k ∈ d.keys ↔ ∃ v, d.get? k = some v := by
  rw [keys, List.mem_map]
  constructor
  · rintro ⟨⟨k', v⟩, hmem, rfl⟩
    exact ⟨v, d.mem_entries.mp hmem⟩
  · rintro ⟨v, h⟩
    exact ⟨(k, v), d.mem_entries.mpr h, rfl⟩

theorem get?_insert (k k' : κ) (v : α) :
    (d.insert k v).get? k' = if k = k' then some v else d.get? k' :=
  lookup_assign k k' v d.entries

@[simp] theorem get?_insert_self (k : κ) (v : α) : (d.insert k v).get? k = some v := by
  rw [get?_insert, if_pos rfl]

theorem get?_insert_of_ne {k k' : κ} (h : k ≠ k') (v : α) :
    (d.insert k v).get? k' = d.get? k' := by
  rw [get?_insert, if_neg h]

theorem mem_keys_insert {k k' : κ} {v : α} : k' ∈ (d.insert k v).keys ↔ k' = k ∨ k' ∈ d.keys :=
  mem_keys_assign

/-- The keys after assigning a list of entries. -/
theorem mem_keys_foldl_insert {k : κ} {l : List (κ × α)} :
    k ∈ (l.foldl (fun d p => d.insert p.1 p.2) d).keys ↔ k ∈ d.keys ∨ k ∈ l.map Prod.fst := by
  induction l generalizing d with
  | nil => simp
  | cons p l ih =>
      rw [List.foldl_cons, ih, mem_keys_insert, List.map_cons, List.mem_cons]
      tauto

/-- A key that no assignment names keeps its value. -/
theorem get?_foldl_insert_of_not_mem {k : κ} {l : List (κ × α)} (h : k ∉ l.map Prod.fst) :
    (l.foldl (fun d p => d.insert p.1 p.2) d).get? k = d.get? k := by
  induction l generalizing d with
  | nil => rfl
  | cons p l ih =>
      rw [List.map_cons, List.mem_cons, not_or] at h
      rw [List.foldl_cons, ih _ h.2, get?_insert_of_ne _ (Ne.symm h.1)]

/-- A key that is only assigned one value has it. -/
theorem get?_foldl_insert_of_mem {k : κ} {v : α} {l : List (κ × α)} (h : (k, v) ∈ l)
    (hv : ∀ v', (k, v') ∈ l → v' = v) :
    (l.foldl (fun d p => d.insert p.1 p.2) d).get? k = some v := by
  induction l generalizing d with
  | nil => cases h
  | cons p l ih =>
      rw [List.foldl_cons]
      have hv' : ∀ v', (k, v') ∈ l → v' = v := fun v' hm => hv v' (List.mem_cons_of_mem _ hm)
      by_cases hk : k ∈ l.map Prod.fst
      · obtain ⟨⟨k', v'⟩, hm, rfl⟩ := List.mem_map.mp hk
        obtain rfl := hv' v' hm
        exact ih _ hm hv'
      · rcases List.mem_cons.mp h with rfl | hm
        · rw [get?_foldl_insert_of_not_mem _ hk, get?_insert_self]
        · exact absurd (List.mem_map.mpr ⟨_, hm, rfl⟩) hk

/-- Where a value comes from after a list of assignments. -/
theorem mem_of_get?_foldl_insert {k : κ} {v : α} {l : List (κ × α)}
    (h : (l.foldl (fun d p => d.insert p.1 p.2) d).get? k = some v) :
    (k, v) ∈ l ∨ d.get? k = some v := by
  induction l generalizing d with
  | nil => exact Or.inr h
  | cons p l ih =>
      rcases ih _ h with hm | hd
      · exact Or.inl (List.mem_cons_of_mem _ hm)
      · rw [get?_insert] at hd
        split_ifs at hd with hk
        · obtain ⟨k', v'⟩ := p
          obtain rfl : k' = k := hk
          obtain rfl := Option.some.inj hd
          exact Or.inl List.mem_cons_self
        · exact Or.inr hd

/-- New keys are appended in their order. -/
theorem entries_foldl_insert {l : List (κ × α)} (h : (l.map Prod.fst).Nodup)
    (hnew : ∀ k ∈ l.map Prod.fst, k ∉ d.keys) :
    (l.foldl (fun d p => d.insert p.1 p.2) d).entries = d.entries ++ l := by
  induction l generalizing d with
  | nil => exact (List.append_nil _).symm
  | cons p l ih =>
      rw [List.map_cons, List.nodup_cons] at h
      have hp : p.1 ∉ d.keys := hnew p.1 List.mem_cons_self
      have hinsert : (d.insert p.1 p.2).entries = d.entries ++ [p] := assign_of_not_mem hp
      rw [List.foldl_cons, ih _ h.2, hinsert, List.append_assoc]
      · rfl
      · intro k hk hkeys
        rcases (mem_keys_insert d).mp hkeys with rfl | hd
        · exact h.1 hk
        · exact hnew k (List.mem_cons_of_mem _ hk) hd

/-- Entries with distinct keys make the dictionary they are the entries of. -/
theorem entries_ofList {l : List (κ × α)} (h : (l.map Prod.fst).Nodup) :
    (ofList l).entries = l :=
  entries_foldl_insert empty h fun _ _ hk => nomatch hk

/-- What a dictionary made of a list holds was in the list. -/
theorem mem_of_mem_ofList {p : κ × α} {l : List (κ × α)} (h : p ∈ (ofList l).entries) : p ∈ l := by
  rcases mem_of_get?_foldl_insert empty ((mem_entries _).mp h) with hm | he
  · exact hm
  · cases he

/-- A key for which a list has one value at most. -/
theorem get?_ofList_of_mem_iff {l : List (κ × α)} {k : κ} {x : Option α}
    (h : ∀ v, (k, v) ∈ l ↔ x = some v) : (ofList l).get? k = x := by
  rcases x with - | v
  · refine get?_foldl_insert_of_not_mem empty fun hkey => ?_
    obtain ⟨⟨k', v⟩, hv, rfl⟩ := List.mem_map.mp hkey
    cases (h v).mp hv
  · refine get?_foldl_insert_of_mem empty ((h v).mpr rfl) fun v' hv' => ?_
    exact (Option.some.inj ((h v').mp hv')).symm

theorem ofList_entries_eq_nil {l : List (κ × α)} : (ofList l).entries = [] ↔ l = [] := by
  constructor
  · intro h
    by_contra hne
    obtain ⟨p, l', rfl⟩ := List.exists_cons_of_ne_nil hne
    have hkey : p.1 ∈ (ofList (p :: l')).keys :=
      (mem_keys_foldl_insert empty).mpr (Or.inr List.mem_cons_self)
    rw [keys, h] at hkey
    cases hkey
  · rintro rfl
    rfl

/-! ### Merging -/

/-- `d.update(e)` -/
def update (d e : Dict κ α) : Dict κ α := e.entries.foldl (fun d p => d.insert p.1 p.2) d

theorem get?_update (d e : Dict κ α) (k : κ) : (d.update e).get? k = (e.get? k).or (d.get? k) := by
  cases he : e.get? k with
  | none =>
      have hk : k ∉ e.entries.map Prod.fst := lookup_eq_none.mp he
      rw [update, get?_foldl_insert_of_not_mem _ hk, Option.none_or]
  | some v =>
      have hmem : (k, v) ∈ e.entries := e.mem_entries.mpr he
      rw [update, get?_foldl_insert_of_mem _ hmem, Option.some_or]
      intro v' hv'
      have hv := e.mem_entries.mp hv'
      rw [he] at hv
      exact (Option.some.inj hv).symm

theorem assign_of_mem {k : κ} {v : α} {l : List (κ × α)} (h : lookup k l = some v) :
    assign k v l = l := by
  induction l with
  | nil => cases h
  | cons p l ih =>
      obtain ⟨k', v'⟩ := p
      by_cases hk : k' = k
      · rw [lookup, if_pos hk] at h
        rw [assign, if_pos hk, Option.some.inj h]
      · rw [lookup, if_neg hk] at h
        rw [assign, if_neg hk, ih h]

/-- Assigning what a key has changes nothing. -/
theorem insert_of_get? {d : Dict κ α} {k : κ} {v : α} (h : d.get? k = some v) : d.insert k v = d :=
  ext (assign_of_mem h)

/-- Merging what is there changes nothing. -/
theorem update_of_get? {d e : Dict κ α} (h : ∀ p ∈ e.entries, d.get? p.1 = some p.2) :
    d.update e = d := by
  rw [update]
  generalize e.entries = l at h ⊢
  induction l with
  | nil => rfl
  | cons p l ih =>
      rw [List.foldl_cons, insert_of_get? (h p List.mem_cons_self)]
      exact ih fun q hq => h q (List.mem_cons_of_mem _ hq)

/-- The entries whose keys are not dropped. -/
def without (d : Dict κ α) (dropped : κ → Bool) : Dict κ α where
  entries := d.entries.filter fun p => !dropped p.1
  nodup := (List.Sublist.map Prod.fst List.filter_sublist).nodup d.nodup

theorem get?_without (d : Dict κ α) (dropped : κ → Bool) (k : κ) :
    (d.without dropped).get? k = if dropped k then none else d.get? k := by
  apply Option.ext
  intro v
  rw [← mem_entries, without, List.mem_filter, mem_entries]
  cases dropped k <;> simp

/-- Dropping keys that are not there changes nothing. -/
theorem without_of_get? {d : Dict κ α} {dropped : κ → Bool}
    (h : ∀ k, dropped k = true → d.get? k = none) : d.without dropped = d := by
  apply ext
  rw [without, List.filter_eq_self]
  intro p hp
  have hget : d.get? p.1 = some p.2 := d.mem_entries.mp hp
  cases hdropped : dropped p.1 with
  | false => rfl
  | true =>
      rw [h p.1 hdropped] at hget
      cases hget

/-- `d[k] = v`, and without a value `d.pop(k, None)`. -/
def setOrPop (d : Dict κ α) (k : κ) : Option α → Dict κ α
  | some v => d.insert k v
  | none => d.without fun k' => k = k'

theorem get?_setOrPop (d : Dict κ α) (k : κ) (v : Option α) (k' : κ) :
    (d.setOrPop k v).get? k' = if k = k' then v else d.get? k' := by
  rcases v with - | v
  · rw [setOrPop, get?_without]
    simp only [decide_eq_true_eq]
  · exact get?_insert d k k' v

/-! ### Maps -/

/-- `{k: f(v) for k, v in d.items()}`, less the keys that `f` drops. -/
def filterMap {β : Type*} (f : α → Option β) (d : Dict κ α) : Dict κ β where
  entries := d.entries.filterMap fun p => (f p.2).map fun v => (p.1, v)
  nodup := by
    have hsublist : ∀ l : List (κ × α),
        ((l.filterMap fun p => (f p.2).map fun v => (p.1, v)).map Prod.fst).Sublist
          (l.map Prod.fst) := by
      intro l
      induction l with
      | nil => exact List.Sublist.refl _
      | cons p l ih =>
          rw [List.filterMap_cons]
          cases f p.2 with
          | none => exact ih.cons _
          | some v => exact ih.cons_cons _
    exact (hsublist d.entries).nodup d.nodup

theorem get?_filterMap {β : Type*} (f : α → Option β) (d : Dict κ α) (k : κ) :
    (d.filterMap f).get? k = (d.get? k).bind f := by
  apply Option.ext
  intro v
  rw [← mem_entries, filterMap, List.mem_filterMap]
  constructor
  · rintro ⟨⟨k', a⟩, hmem, hf⟩
    obtain ⟨v', hv', he⟩ := Option.map_eq_some_iff.mp hf
    obtain ⟨rfl, rfl⟩ := Prod.mk.inj he
    exact Option.bind_eq_some_iff.mpr ⟨a, d.mem_entries.mp hmem, hv'⟩
  · intro h
    obtain ⟨a, ha, hf⟩ := Option.bind_eq_some_iff.mp h
    exact ⟨(k, a), d.mem_entries.mpr ha, Option.map_eq_some_iff.mpr ⟨v, hf, rfl⟩⟩

/-- `{k: f(v) for k, v in d.items()}` -/
def map {β : Type*} (f : α → β) (d : Dict κ α) : Dict κ β := d.filterMap fun v => some (f v)

theorem get?_map {β : Type*} (f : α → β) (d : Dict κ α) (k : κ) :
    (d.map f).get? k = (d.get? k).map f := by
  rw [map, get?_filterMap]
  cases d.get? k <;> rfl

/-- `{k: f(k, v) for k, v in d.items()}` -/
def mapItems {β : Type*} (f : κ → α → β) (d : Dict κ α) : Dict κ β where
  entries := d.entries.map fun p => (p.1, f p.1 p.2)
  nodup := by
    rw [List.map_map]
    exact d.nodup

theorem get?_mapItems {β : Type*} (f : κ → α → β) (d : Dict κ α) (k : κ) :
    (d.mapItems f).get? k = (d.get? k).map (f k) := by
  apply Option.ext
  intro v
  rw [← mem_entries, mapItems, List.mem_map, Option.map_eq_some_iff]
  constructor
  · rintro ⟨⟨k', a⟩, hmem, he⟩
    obtain ⟨rfl, rfl⟩ := Prod.mk.inj he
    exact ⟨a, d.mem_entries.mp hmem, rfl⟩
  · rintro ⟨a, ha, rfl⟩
    exact ⟨(k, a), d.mem_entries.mpr ha, rfl⟩

end Dict

end OrderedDict
