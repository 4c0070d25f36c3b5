/-
GroBro/History.lean

Histories of events, oldest first.

* `Justified P h`: every event of `h` is justified by the events before it;
* `latest f h`: the value that the last event with one has set;
* `openItems l`: what a ledger has opened and not closed, in the order of opening.
-/
import Mathlib

namespace History

/-! ### Justified events -/

section Justified

variable {ε : Type*} {P : List ε → ε → Prop} {h : List ε}

/-- Every event satisfies `P` with the events before it. -/
def Justified (P : List ε → ε → Prop) (h : List ε) : Prop :=
  ∀ pre e post, h = pre ++ e :: post → P pre e

theorem justified_nil : Justified P [] := by
  intro pre e post he
  exact absurd he.symm (List.append_ne_nil_of_right_ne_nil pre (List.cons_ne_nil e post))

/-- A new event only has to be justified by what is there. -/
theorem Justified.concat (hj : Justified P h) {e : ε} (he : P h e) : Justified P (h ++ [e]) := by
  intro pre e' post hsplit
  rcases List.eq_nil_or_concat post with rfl | ⟨post, last, rfl⟩
  · obtain ⟨rfl, hlast⟩ := List.append_inj' hsplit rfl
    obtain rfl := List.singleton_inj.mp hlast
    exact he
  · apply hj pre e' post
    rw [List.concat_eq_append, ← List.cons_append, ← List.append_assoc] at hsplit
    exact (List.append_inj' hsplit rfl).1

end Justified

/-! ### The latest value -/

section Latest

variable {ε β : Type*} (f : ε → Option (Option β)) {h : List ε} {e : ε}

/-- The value that the last event with a value has set. -/
def latest (h : List ε) : Option β := h.foldl (fun value e => (f e).getD value) none

theorem latest_concat (h : List ε) (e : ε) : latest f (h ++ [e]) = (f e).getD (latest f h) := by
  rw [latest, List.foldl_append]
  rfl

theorem latest_concat_of_none (he : f e = none) : latest f (h ++ [e]) = latest f h := by
  rw [latest_concat, he]
  rfl

theorem latest_concat_of_some {v : Option β} (he : f e = some v) : latest f (h ++ [e]) = v := by
  rw [latest_concat, he]
  rfl

end Latest

/-! ### Ledgers -/

/-- An entry of a ledger. -/
inductive Entry (α : Type*) where
  | opened (a : α)
  | closed (a : α)

section Ledger

variable {α : Type*} [DecidableEq α] {l : List (Entry α)} {a : α}

omit [DecidableEq α] in
/-- The items opened so far. -/
def openedItems (l : List (Entry α)) : List α :=
  l.filterMap fun
    | .opened a => some a
    | .closed _ => none

/-- The items closed so far. -/
def closedItems (l : List (Entry α)) : List α :=
  l.filterMap fun
    | .opened _ => none
    | .closed a => some a

/-- The items that were opened and not closed, in the order of opening. -/
def openItems (l : List (Entry α)) : List α := (openedItems l).filter (· ∉ closedItems l)

omit [DecidableEq α] in
theorem openedItems_concat_opened : openedItems (l ++ [.opened a]) = openedItems l ++ [a] :=
  List.filterMap_append

omit [DecidableEq α] in
theorem openedItems_concat_closed : openedItems (l ++ [.closed a]) = openedItems l := by
  rw [openedItems, List.filterMap_append]
  exact List.append_nil _

omit [DecidableEq α] in
theorem closedItems_concat_opened : closedItems (l ++ [.opened a]) = closedItems l := by
  rw [closedItems, List.filterMap_append]
  exact List.append_nil _

omit [DecidableEq α] in
theorem closedItems_concat_closed : closedItems (l ++ [.closed a]) = closedItems l ++ [a] :=
  List.filterMap_append

theorem mem_openItems : a ∈ openItems l ↔ a ∈ openedItems l ∧ a ∉ closedItems l := by
  rw [openItems, List.mem_filter, decide_eq_true_eq]

/-- An item that is opened for the first time comes last. -/
theorem openItems_concat_opened (ha : a ∉ closedItems l) :
    openItems (l ++ [.opened a]) = openItems l ++ [a] := by
  rw [openItems, openedItems_concat_opened, closedItems_concat_opened, List.filter_append,
    List.filter_singleton, decide_eq_true ha]
  rfl

/-- Closing an item takes it out, wherever it stands. -/
theorem openItems_concat_closed : openItems (l ++ [.closed a]) = (openItems l).filter (· ≠ a) := by
  rw [openItems, openedItems_concat_closed, closedItems_concat_closed, openItems,
    List.filter_filter]
  apply List.filter_congr
  intro b _
  rw [← Bool.decide_and, decide_eq_decide, List.mem_append, List.mem_singleton, not_or]
  exact and_comm

theorem nodup_openItems (hl : (openedItems l).Nodup) : (openItems l).Nodup := hl.filter _

end Ledger

/-- Taking out the first item with a property takes out that item. -/
theorem eraseP_eq_filter {α : Type*} [DecidableEq α] {p : α → Bool} {l : List α} {a : α}
    (hl : l.Nodup) (ha : l.find? p = some a) : l.eraseP p = l.filter (· ≠ a) := by
  induction l with
  | nil => cases ha
  | cons b l ih =>
      obtain ⟨hb, hl⟩ := List.nodup_cons.mp hl
      by_cases hpb : p b = true
      · rw [List.find?_cons_of_pos hpb] at ha
        obtain rfl := Option.some.inj ha
        rw [List.eraseP_cons_of_pos hpb, List.filter_cons_of_neg (by simp)]
        refine (List.filter_eq_self.mpr ?_).symm
        intro c hc
        apply decide_eq_true
        rintro rfl
        exact hb hc
      · rw [List.find?_cons_of_neg hpb] at ha
        have hne : b ≠ a := by
          rintro rfl
          exact hpb (List.find?_some ha)
        rw [List.eraseP_cons_of_neg hpb, ih hl ha, List.filter_cons_of_pos (by simpa using hne)]

end History
