/-
GroBro/BatteryRemap.lean

Battery values move together.  A slot key is a pattern head, a slot digit and a
rest; renaming it replaces the digit and nothing else (`matchKey_remapKey`), so
renaming is injective on the keys of one slot and can be undone.

The placement of the batteries is built one battery at a time, each on a free
slot (`placeLoop_induction`); batteries with different serials never share one
(`Placed.ne`).  With both, the keys of a battery reported once are
renamed to its logical slot without loss and without company
(`battery_values_move_together`).
-/
import GroBro.BatteryPosition

namespace GroBro

open OrderedDict

/-! ### Keys -/

@[simp] theorem Slot.ofDigit?_digit (p : Slot) : Slot.ofDigit? p.digit = some p := by
  cases p <;> rfl

theorem Slot.digit_of_ofDigit? {c : Char} {p : Slot} (h : Slot.ofDigit? c = some p) :
    p.digit = c := by
  unfold Slot.ofDigit? at h
  split at h
  · obtain rfl := Option.some.inj h
    rfl
  · obtain rfl := Option.some.inj h
    rfl
  · obtain rfl := Option.some.inj h
    rfl
  · cases h

/-- A pattern matches its head, a slot digit and a rest that it can be followed by. -/
theorem KeyPattern.match?_eq_some_iff {pattern : KeyPattern} {name rest : PyStr} {slot : Slot} :
    pattern.match? name = some (slot, rest) ↔
      name = pattern.head ++ slot.digit :: rest ∧ pattern.follow rest = true := by
  constructor
  · intro h
    unfold KeyPattern.match? at h
    split_ifs at h with hhead
    rcases hd : name.drop pattern.head.length with - | ⟨digit, tail⟩
    · rw [hd] at h
      cases h
    rw [hd] at h
    dsimp only at h
    rcases hs : Slot.ofDigit? digit with - | slot'
    · rw [hs] at h
      cases h
    rw [hs] at h
    dsimp only at h
    split_ifs at h with hfollow
    obtain ⟨rfl, rfl⟩ := Prod.mk.inj (Option.some.inj h)
    refine ⟨?_, hfollow⟩
    rw [Slot.digit_of_ofDigit? hs, ← hd]
    -- the name is its head, the digit and the rest
    conv_lhs => rw [← List.take_append_drop pattern.head.length name, hhead]
  · rintro ⟨rfl, hfollow⟩
    rw [KeyPattern.match?, if_pos List.take_left, List.drop_left]
    simp only [Slot.ofDigit?_digit, if_pos hfollow]

/-- No name is matched by two patterns: their heads part before or at the digit. -/
theorem keyPatterns_exclusive {p p' : KeyPattern} (hp : p ∈ keyPatterns) (hp' : p' ∈ keyPatterns)
    {s s' : Slot} {r r' : PyStr} (h : p.head ++ s.digit :: r = p'.head ++ s'.digit :: r') :
    p = p' := by
  simp only [keyPatterns, List.mem_cons, List.not_mem_nil, or_false] at hp hp'
  rcases hp with rfl | rfl | rfl | rfl | rfl <;> rcases hp' with rfl | rfl | rfl | rfl | rfl <;>
    first
    | rfl
    | (cases s <;> cases s' <;> simp [Slot.digit] at h)

theorem matchKey_eq_some_iff {name rest : PyStr} {pattern : KeyPattern} {slot : Slot} :
    matchKey name = some (pattern, slot, rest) ↔
      pattern ∈ keyPatterns ∧ pattern.match? name = some (slot, rest) := by
  have hsound : ∀ {pattern : KeyPattern} {slot : Slot} {rest : PyStr},
      matchKey name = some (pattern, slot, rest) →
        pattern ∈ keyPatterns ∧ pattern.match? name = some (slot, rest) := by
    intro pattern slot rest h
    obtain ⟨pattern', hmem, hfound⟩ := List.exists_of_findSome?_eq_some h
    obtain ⟨found, hm, he⟩ := Option.map_eq_some_iff.mp hfound
    obtain ⟨rfl, rfl⟩ := Prod.mk.inj he
    exact ⟨hmem, hm⟩
  refine ⟨hsound, ?_⟩
  rintro ⟨hmem, hm⟩
  rcases hk : matchKey name with - | ⟨pattern', slot', rest'⟩
  -- the first pattern that matches is the only one
  · have hnone := List.findSome?_eq_none_iff.mp hk pattern hmem
    rw [hm] at hnone
    cases hnone
  · obtain ⟨hmem', hm'⟩ := hsound hk
    obtain ⟨hname, -⟩ := KeyPattern.match?_eq_some_iff.mp hm
    obtain ⟨hname', -⟩ := KeyPattern.match?_eq_some_iff.mp hm'
    obtain rfl := keyPatterns_exclusive hmem hmem' (hname.symm.trans hname')
    rw [hm] at hm'
    obtain ⟨rfl, rfl⟩ := Prod.mk.inj (Option.some.inj hm')
    rfl

/-- A slot key is a pattern head, the digit of its slot and a rest. -/
theorem logicalSlotFromKey_eq_some_iff {name : PyStr} {slot : Slot} :
    logicalSlotFromKey name = some slot ↔
      ∃ pattern rest, matchKey name = some (pattern, slot, rest) := by
  constructor
  · intro h
    obtain ⟨⟨pattern, slot', rest⟩, hm, rfl⟩ := Option.map_eq_some_iff.mp h
    exact ⟨pattern, rest, hm⟩
  · rintro ⟨pattern, rest, hm⟩
    rw [logicalSlotFromKey, hm]
    rfl

theorem remapKey_of_matchKey {name rest : PyStr} {pattern : KeyPattern} {slot : Slot}
    (h : matchKey name = some (pattern, slot, rest)) (l : Slot) :
    remapKey name l = pattern.head ++ l.digit :: rest := by
  rw [remapKey, h]

/-- Renaming replaces the digit and nothing else. -/
theorem matchKey_remapKey {name rest : PyStr} {pattern : KeyPattern} {slot : Slot}
    (h : matchKey name = some (pattern, slot, rest)) (l : Slot) :
    matchKey (remapKey name l) = some (pattern, l, rest) := by
  obtain ⟨hmem, hm⟩ := matchKey_eq_some_iff.mp h
  obtain ⟨-, hfollow⟩ := KeyPattern.match?_eq_some_iff.mp hm
  rw [remapKey_of_matchKey h]
  exact matchKey_eq_some_iff.mpr ⟨hmem, KeyPattern.match?_eq_some_iff.mpr ⟨rfl, hfollow⟩⟩

theorem logicalSlotFromKey_remapKey {name : PyStr} {slot : Slot}
    (h : logicalSlotFromKey name = some slot) (l : Slot) :
    logicalSlotFromKey (remapKey name l) = some l := by
  obtain ⟨pattern, rest, hm⟩ := logicalSlotFromKey_eq_some_iff.mp h
  exact logicalSlotFromKey_eq_some_iff.mpr ⟨pattern, rest, matchKey_remapKey hm l⟩

/-- Only the last renaming counts. -/
theorem remapKey_remapKey {name : PyStr} {slot : Slot} (h : logicalSlotFromKey name = some slot)
    (l l' : Slot) : remapKey (remapKey name l) l' = remapKey name l' := by
  obtain ⟨pattern, rest, hm⟩ := logicalSlotFromKey_eq_some_iff.mp h
  rw [remapKey_of_matchKey (matchKey_remapKey hm l), remapKey_of_matchKey hm]

/-- Renaming a key to its own slot changes nothing. -/
theorem remapKey_self {name : PyStr} {slot : Slot} (h : logicalSlotFromKey name = some slot) :
    remapKey name slot = name := by
  obtain ⟨pattern, rest, hm⟩ := logicalSlotFromKey_eq_some_iff.mp h
  obtain ⟨-, hmatch⟩ := matchKey_eq_some_iff.mp hm
  obtain ⟨hname, -⟩ := KeyPattern.match?_eq_some_iff.mp hmatch
  rw [remapKey_of_matchKey hm]
  exact hname.symm

/-- Renaming is injective on the keys of one slot. -/
theorem remapKey_injective {name name' : PyStr} {slot l : Slot}
    (h : logicalSlotFromKey name = some slot) (h' : logicalSlotFromKey name' = some slot)
    (e : remapKey name l = remapKey name' l) : name = name' := by
  rw [← remapKey_self h, ← remapKey_self h', ← remapKey_remapKey h l, e, remapKey_remapKey h' l]

theorem logicalSlotFromKey_serialKey (p : Slot) (i : Char) :
    logicalSlotFromKey (serialKey p i) = some p := by
  cases p <;> rfl

theorem remapKey_serialKey (p l : Slot) (i : Char) : remapKey (serialKey p i) l = serialKey l i := by
  cases p <;> rfl

/-! ### Placement -/

theorem usedSlot_iff {toLogical : Slot → Option Slot} {l : Slot} :
    usedSlot toLogical l = true ↔ ∃ p, toLogical p = some l := by
  rw [usedSlot, List.any_eq_true]
  constructor
  · rintro ⟨p, -, h⟩
    exact ⟨p, of_decide_eq_true h⟩
  · rintro ⟨p, h⟩
    exact ⟨p, mem_trackedSlots p, decide_eq_true h⟩

theorem freeLogical_iff {manual : ManualAssignments} {toLogical : Slot → Option Slot} {l : Slot} :
    freeLogical manual toLogical l = true ↔
      reservedManual manual l = false ∧ ∀ p, toLogical p ≠ some l := by
  rw [freeLogical, Bool.and_eq_true, Bool.not_eq_true', Bool.not_eq_true']
  refine and_congr_right fun _ => ?_
  rw [← Bool.not_eq_true, usedSlot_iff, not_exists]

section Placement

variable {mapping : Dict PyStr Slot} {useStableAuto : Bool} {manual : ManualAssignments}
  {current : Slot → Option PyStr}

/-- Whatever slot a battery without an explicit one gets, it is free. -/
theorem freeLogical_of_chooseLogical {toLogical : Slot → Option Slot} {p l : Slot} {serial : PyStr}
    (h : chooseLogical mapping useStableAuto manual toLogical p serial = some l) :
    freeLogical manual toLogical l = true := by
  unfold chooseLogical at h
  dsimp only at h
  split at h
  · rename_i slot hslot
    obtain rfl := Option.some.inj h
    exact (Option.filter_eq_some_iff.mp hslot).2
  · exact List.find?_some h

/-- **The placement rule**: what holds of the explicit slots and is kept when a
battery that has no slot yet gets a free one, holds of the whole placement. -/
theorem placeLoop_induction {P : (Slot → Option Slot) → Prop} {toLogical : Slot → Option Slot}
    {rest : List (Slot × PyStr)} (hrest : ∀ b ∈ rest, current b.1 = some b.2)
    (h : P toLogical)
    (hstep : ∀ t p serial l, P t → current p = some serial → t p = none →
      freeLogical manual t l = true → P (Function.update t p (some l))) :
    P (placeLoop mapping useStableAuto manual toLogical rest) := by
  induction rest generalizing toLogical with
  | nil => exact h
  | cons b rest ih =>
      obtain ⟨p, serial⟩ := b
      have hb : current p = some serial := hrest _ List.mem_cons_self
      have hrest' : ∀ b ∈ rest, current b.1 = some b.2 :=
        fun b hm => hrest b (List.mem_cons_of_mem _ hm)
      rw [placeLoop]
      split_ifs with hplaced
      · exact ih hrest' h
      · have hnone : toLogical p = none := Option.not_isSome_iff_eq_none.mp hplaced
        split
        · exact ih hrest' h
        · rename_i l hl
          exact ih hrest' (hstep _ p serial l h hb hnone (freeLogical_of_chooseLogical hl))

/-- The rule for the placement of a packet. -/
theorem physicalToLogical_induction {P : (Slot → Option Slot) → Prop}
    (h : P (explicitSlots manual current))
    (hstep : ∀ t p serial l, P t → current p = some serial → t p = none →
      freeLogical manual t l = true → P (Function.update t p (some l))) :
    P (physicalToLogical mapping useStableAuto manual current) :=
  placeLoop_induction (fun _ hm => mem_reported.mp hm) h hstep

theorem manual_of_explicitSlot {serial : PyStr} {l : Slot}
    (h : explicitSlot manual serial = some l) : manual l = some serial := by
  have hfound := List.find?_some h
  rw [decide_eq_true_eq] at hfound
  exact hfound.1

/-- Only reported batteries are placed, and batteries with different serials on
different slots. -/
structure Placed (current : Slot → Option PyStr) (toLogical : Slot → Option Slot) : Prop where
  reported : ∀ p l, toLogical p = some l → ∃ serial, current p = some serial
  distinct : ∀ p p' l, toLogical p = some l → toLogical p' = some l → current p = current p'

theorem placed_explicitSlots : Placed current (explicitSlots manual current) := by
  have hinv : ∀ p l, explicitSlots manual current p = some l →
      ∃ serial, current p = some serial ∧ manual l = some serial := by
    intro p l h
    obtain ⟨serial, hs, he⟩ := Option.bind_eq_some_iff.mp h
    exact ⟨serial, hs, manual_of_explicitSlot he⟩
  refine ⟨?_, ?_⟩
  · intro p l h
    obtain ⟨serial, hs, -⟩ := hinv p l h
    exact ⟨serial, hs⟩
  · intro p p' l h h'
    obtain ⟨serial, hs, hm⟩ := hinv p l h
    obtain ⟨serial', hs', hm'⟩ := hinv p' l h'
    rw [hm] at hm'
    rw [hs, hs', hm']

theorem Placed.update {toLogical : Slot → Option Slot} (h : Placed current toLogical) {p l : Slot}
    {serial : PyStr} (hp : current p = some serial)
    (hfree : freeLogical manual toLogical l = true) :
    Placed current (Function.update toLogical p (some l)) := by
  obtain ⟨-, hunused⟩ := freeLogical_iff.mp hfree
  refine ⟨?_, ?_⟩
  · intro q m hq
    by_cases hqp : q = p
    · subst hqp
      exact ⟨serial, hp⟩
    · rw [Function.update_of_ne hqp] at hq
      exact h.reported q m hq
  · intro q q' m hq hq'
    by_cases hqp : q = p <;> by_cases hqp' : q' = p
    · rw [hqp, hqp']
    -- the new slot was free, so nobody else has it
    · rw [hqp, Function.update_self] at hq
      rw [Function.update_of_ne hqp', ← hq] at hq'
      exact absurd hq' (hunused q')
    · rw [hqp', Function.update_self] at hq'
      rw [Function.update_of_ne hqp, ← hq'] at hq
      exact absurd hq (hunused q)
    · rw [Function.update_of_ne hqp] at hq
      rw [Function.update_of_ne hqp'] at hq'
      exact h.distinct q q' m hq hq'

theorem placed_physicalToLogical :
    Placed current (physicalToLogical mapping useStableAuto manual current) :=
  physicalToLogical_induction placed_explicitSlots
    fun _ _ _ _ h hp _ hfree => h.update hp hfree

end Placement

/-! ### The renamed payload -/

section Remap

variable {V : Type*} {manual : ManualAssignments} {current : Slot → Option PyStr}
  {toLogical : Slot → Option Slot} {payload : Dict PyStr V}

/-- Where the loop puts a slot item, if it is not left out. -/
def movedItem (manual : ManualAssignments) (current : Slot → Option PyStr)
    (toLogical : Slot → Option Slot) (item : PyStr × V × Slot) : Option (PyStr × V) :=
  if leftOut manual current toLogical item.2.2 then none
  else some (remapKey item.1 ((toLogical item.2.2).getD item.2.2), item.2.1)

theorem remapLoop_eq (d : Dict PyStr V) (items : List (PyStr × V × Slot)) :
    remapLoop manual current toLogical d items =
      (items.filterMap (movedItem manual current toLogical)).foldl
        (fun d p => d.insert p.1 p.2) d := by
  induction items generalizing d with
  | nil => rfl
  | cons item items ih =>
      obtain ⟨key, value, p⟩ := item
      by_cases hout : leftOut manual current toLogical p = true
      · have hnone : movedItem manual current toLogical (key, value, p) = none := if_pos hout
        rw [remapLoop, if_pos hout, List.filterMap_cons_none hnone, ih]
      · have hsome : movedItem manual current toLogical (key, value, p) =
            some (remapKey key ((toLogical p).getD p), value) := if_neg hout
        rw [remapLoop, if_neg hout, List.filterMap_cons_some hsome, List.foldl_cons]
        exact ih _

/-- The slot items of a payload are its entries with a slot key. -/
theorem mem_slotItems {k : PyStr} {v : V} {p : Slot} :
    (k, v, p) ∈ slotItems payload ↔
      payload.get? k = some v ∧ logicalSlotFromKey k = some p := by
  rw [slotItems, List.mem_filterMap, ← Dict.mem_entries]
  constructor
  · rintro ⟨⟨k', v'⟩, hmem, h⟩
    obtain ⟨slot, hs, he⟩ := Option.map_eq_some_iff.mp h
    simp only [Prod.mk.injEq] at he
    obtain ⟨rfl, rfl, rfl⟩ := he
    exact ⟨hmem, hs⟩
  · rintro ⟨hmem, hs⟩
    exact ⟨(k, v), hmem, by rw [hs]; rfl⟩

theorem get?_otherItems {k : PyStr} :
    (Dict.ofList (otherItems payload)).get? k =
      if logicalSlotFromKey k = none then payload.get? k else none := by
  have hmem : ∀ v, (k, v) ∈ otherItems payload ↔
      payload.get? k = some v ∧ logicalSlotFromKey k = none := by
    intro v
    rw [otherItems, List.mem_filter, Dict.mem_entries, Option.isNone_iff_eq_none]
  apply Option.ext
  intro v
  constructor
  · intro h
    rcases Dict.mem_of_get?_foldl_insert _ h with hm | he
    · obtain ⟨hv, hk⟩ := (hmem v).mp hm
      rw [if_pos hk, hv]
    · cases he
  · intro h
    split_ifs at h with hk
    · refine Dict.get?_foldl_insert_of_mem _ ((hmem v).mpr ⟨h, hk⟩) ?_
      intro v' hm
      have hv' := ((hmem v').mp hm).1
      rw [h] at hv'
      exact (Option.some.inj hv').symm

/-- Every moved key names the slot it was moved to, and has the value of the key
it was moved from. -/
theorem mem_moved {k' : PyStr} {v : V} :
    (k', v) ∈ (slotItems payload).filterMap (movedItem manual current toLogical) ↔
      ∃ k p, payload.get? k = some v ∧ logicalSlotFromKey k = some p ∧
        leftOut manual current toLogical p = false ∧ k' = remapKey k ((toLogical p).getD p) := by
  rw [List.mem_filterMap]
  constructor
  · rintro ⟨⟨k, v', p⟩, hmem, h⟩
    obtain ⟨hv, hk⟩ := mem_slotItems.mp hmem
    unfold movedItem at h
    split_ifs at h with hout
    obtain ⟨rfl, rfl⟩ := Prod.mk.inj (Option.some.inj h)
    exact ⟨k, p, hv, hk, Bool.not_eq_true _ ▸ hout, rfl⟩
  · rintro ⟨k, p, hv, hk, hout, rfl⟩
    refine ⟨(k, v, p), mem_slotItems.mpr ⟨hv, hk⟩, ?_⟩
    rw [movedItem, if_neg (by rw [hout]; exact Bool.false_ne_true)]

theorem logicalSlotFromKey_of_mem_moved {k' : PyStr}
    (h : k' ∈ ((slotItems payload).filterMap (movedItem manual current toLogical)).map Prod.fst) :
    logicalSlotFromKey k' ≠ none := by
  obtain ⟨⟨k, v⟩, hm, rfl⟩ := List.mem_map.mp h
  obtain ⟨k₀, p, -, hk, -, rfl⟩ := mem_moved.mp hm
  rw [logicalSlotFromKey_remapKey hk]
  exact Option.some_ne_none _

/-- The renaming step of `remapPayload`. -/
def renamed (manual : ManualAssignments) (current : Slot → Option PyStr)
    (toLogical : Slot → Option Slot) (payload : Dict PyStr V) : Dict PyStr V :=
  remapLoop manual current toLogical (Dict.ofList (otherItems payload)) (slotItems payload)

/-- Keys that name no slot are copied. -/
theorem get?_renamed_other {k : PyStr} (h : logicalSlotFromKey k = none) :
    (renamed manual current toLogical payload).get? k = payload.get? k := by
  rw [renamed, remapLoop_eq, Dict.get?_foldl_insert_of_not_mem, get?_otherItems, if_pos h]
  intro hm
  exact logicalSlotFromKey_of_mem_moved hm h

/-- Slot keys of the result are moved slot keys of the payload. -/
theorem get?_renamed_slot {k' : PyStr} {l : Slot} {v : V} (hl : logicalSlotFromKey k' = some l)
    (h : (renamed manual current toLogical payload).get? k' = some v) :
    ∃ k p, payload.get? k = some v ∧ logicalSlotFromKey k = some p ∧
      leftOut manual current toLogical p = false ∧ k' = remapKey k l ∧
      (toLogical p).getD p = l := by
  rw [renamed, remapLoop_eq] at h
  rcases Dict.mem_of_get?_foldl_insert _ h with hm | hd
  · obtain ⟨k, p, hv, hk, hout, rfl⟩ := mem_moved.mp hm
    have hslot := logicalSlotFromKey_remapKey hk ((toLogical p).getD p)
    rw [hl] at hslot
    obtain rfl := Option.some.inj hslot
    exact ⟨k, p, hv, hk, hout, rfl, rfl⟩
  · rw [get?_otherItems, if_neg (by rw [hl]; exact Option.some_ne_none _)] at hd
    cases hd

/-- The slot keys of `p` are found under the logical slot `l`, and nothing else is. -/
structure PublishedAt (payload q : Dict PyStr V) (p l : Slot) : Prop where
  moved : ∀ k v, logicalSlotFromKey k = some p → payload.get? k = some v →
    q.get? (remapKey k l) = some v
  alone : ∀ k' v, logicalSlotFromKey k' = some l → q.get? k' = some v →
    ∃ k, logicalSlotFromKey k = some p ∧ payload.get? k = some v ∧ k' = remapKey k l

theorem publishedAt_self (p : Slot) : PublishedAt payload payload p p where
  moved k v hk hv := by rwa [remapKey_self hk]
  alone k' v hk' hv := ⟨k', hk', hv, (remapKey_self hk').symm⟩

/-- The slot keys of `p` are moved to the logical slot `l`. -/
def Fills (manual : ManualAssignments) (current : Slot → Option PyStr)
    (toLogical : Slot → Option Slot) (p l : Slot) : Prop :=
  leftOut manual current toLogical p = false ∧ (toLogical p).getD p = l

/-- A logical slot that one physical slot fills publishes it. -/
theorem publishedAt_renamed {p l : Slot} (hfills : Fills manual current toLogical p l)
    (honly : ∀ p', Fills manual current toLogical p' l → p' = p) :
    PublishedAt payload (renamed manual current toLogical payload) p l where
  moved k v hk hv := by
    obtain ⟨hin, hl⟩ := hfills
    rw [renamed, remapLoop_eq]
    refine Dict.get?_foldl_insert_of_mem _ (mem_moved.mpr ⟨k, p, hv, hk, hin, by rw [hl]⟩) ?_
    intro v' hm
    obtain ⟨k', q, hv', hk', hout, he⟩ := mem_moved.mp hm
    -- a key with the same new name comes from the same slot, so it is the same key
    have hslot := logicalSlotFromKey_remapKey hk l
    rw [he, logicalSlotFromKey_remapKey hk'] at hslot
    have hq := Option.some.inj hslot
    obtain rfl := honly q ⟨hout, hq⟩
    rw [hq] at he
    obtain rfl := remapKey_injective hk hk' he
    rw [hv] at hv'
    exact (Option.some.inj hv').symm
  alone k' v hk' hv := by
    obtain ⟨k, q, hkv, hkq, hout, he, hq⟩ := get?_renamed_slot hk' hv
    obtain rfl := honly q ⟨hout, hq⟩
    exact ⟨k, hkq, hkv, he⟩

theorem fills_of_placed {p l : Slot} (hl : toLogical p = some l) :
    Fills manual current toLogical p l := by
  refine ⟨?_, ?_⟩
  · rw [leftOut, hl]
    rfl
  · rw [hl]
    rfl

/-- Only batteries fill a logical slot that a battery was given. -/
theorem Fills.placed {p q l : Slot} (hl : toLogical p = some l)
    (h : Fills manual current toLogical q l) : toLogical q = some l := by
  obtain ⟨hout, hq⟩ := h
  rcases hqt : toLogical q with - | m
  · -- an unplaced physical slot on a used one is left out
    rw [hqt] at hq
    obtain rfl : q = l := hq
    have hused : usedSlot toLogical q = true := usedSlot_iff.mpr ⟨p, hl⟩
    rw [leftOut, hqt, hused] at hout
    cases hout
  · rw [hqt] at hq
    exact congrArg some hq

/-- An early return only happens where renaming would change nothing. -/
theorem eq_of_staysInPlace (h : staysInPlace manual current toLogical = true) :
    (∀ p, reservedManual manual p = false) ∧ ∀ p l, toLogical p = some l → l = p := by
  rw [staysInPlace, Bool.and_eq_true, Bool.and_eq_true, List.all_eq_true, List.all_eq_true] at h
  obtain ⟨⟨hreserved, hsame⟩, -⟩ := h
  refine ⟨fun p => ?_, fun p l hl => ?_⟩
  · have hp := hreserved p (mem_trackedSlots p)
    rwa [Bool.not_eq_true'] at hp
  · have hp := hsame p (mem_trackedSlots p)
    rw [hl] at hp
    exact of_decide_eq_true hp

end Remap

/-! ### The whole packet -/

section Packet

variable {V : Type*}

/-- The values of a packet moved together: `q` is the payload after the batteries
reported as `current` were given the logical slots `given`. -/
structure MovedTogether (current : Slot → Option PyStr) (given : Slot → Option Slot)
    (payload q : Dict PyStr V) : Prop where
  /-- The keys that name no slot are the same, with the same values. -/
  other : ∀ k, logicalSlotFromKey k = none → q.get? k = payload.get? k
  /-- A battery reported once is published at its logical slot: every slot key of it
  and nothing else. -/
  published : ∀ p serial l, current p = some serial →
    (∀ p', current p' = some serial → p' = p) → given p = some l → PublishedAt payload q p l
  /-- Batteries with different serials have different logical slots. -/
  distinct : ∀ p p' serial serial' l, current p = some serial → current p' = some serial' →
    serial ≠ serial' → given p = some l → given p' ≠ some l
  /-- Every slot key is a renamed slot key of the payload, with its value. -/
  renamed : ∀ k' l v, logicalSlotFromKey k' = some l → q.get? k' = some v →
    ∃ k p, logicalSlotFromKey k = some p ∧ payload.get? k = some v ∧ k' = remapKey k l

variable {manual : ManualAssignments} {current : Slot → Option PyStr}
  {toLogical : Slot → Option Slot} {payload : Dict PyStr V}

theorem Placed.ne (hplaced : Placed current toLogical) (p p' : Slot) (serial serial' : PyStr)
    (l : Slot) (hp : current p = some serial) (hp' : current p' = some serial')
    (hne : serial ≠ serial') (hl : toLogical p = some l) : toLogical p' ≠ some l := by
  intro hl'
  have hsame := hplaced.distinct p p' l hl hl'
  rw [hp, hp'] at hsame
  exact hne (Option.some.inj hsame)

/-- Batteries that stay in place are moved together. -/
theorem movedTogether_self (hplaced : Placed current toLogical)
    (hsame : ∀ p l, toLogical p = some l → l = p) :
    MovedTogether current toLogical payload payload where
  other _ _ := rfl
  published p serial l _ _ hl := by
    obtain rfl := hsame p l hl
    exact publishedAt_self l
  distinct := hplaced.ne
  renamed k' l v hl hv := ⟨k', l, hl, hv, (remapKey_self hl).symm⟩

/-- So are batteries whose keys are renamed. -/
theorem movedTogether_renamed (hplaced : Placed current toLogical) :
    MovedTogether current toLogical payload (renamed manual current toLogical payload) where
  other _ h := get?_renamed_other h
  published p serial l hp hunique hl := by
    refine publishedAt_renamed (fills_of_placed hl) fun q hq => ?_
    exact hunique q ((hplaced.distinct q p l (hq.placed hl) hl).trans hp)
  distinct := hplaced.ne
  renamed k' l v hl hv := by
    obtain ⟨k, p, hkv, hkp, -, he, -⟩ := get?_renamed_slot hl hv
    exact ⟨k, p, hkp, hkv, he⟩

theorem movedTogether_remapPayload (hplaced : Placed current toLogical) :
    MovedTogether current toLogical payload (remapPayload manual current toLogical payload) := by
  unfold remapPayload
  split_ifs with hstay
  · exact movedTogether_self hplaced (eq_of_staysInPlace hstay).2
  · exact movedTogether_renamed hplaced

variable [PyObject V] [PyUnicode]

/-- The map a packet is placed by, and whether stable slots count: a map that
cannot be read is taken as empty, and its slots do not count. -/
def effectiveMapping (w : BatteryWorld) (deviceId : PyStr) (payload : Dict PyStr V)
    (useStableAuto : Bool) (io : IoOutcome) : Dict PyStr Slot × Bool :=
  match positionMaps w io.readOk with
  | none => (∅, false)
  | some positions =>
      let mapping := (positions.get? deviceId).getD ∅
      if useStableAuto then ((assignAll mapping (serialsFromPayload payload)).1, true)
      else (mapping, false)

/-- The logical slots that a packet's batteries are given. -/
def placement (w : BatteryWorld) (deviceId : PyStr) (payload : Dict PyStr V)
    (manual : ManualAssignments) (useStableAuto : Bool) (io : IoOutcome) : Slot → Option Slot :=
  physicalToLogical (effectiveMapping w deviceId payload useStableAuto io).1
    (effectiveMapping w deviceId payload useStableAuto io).2 manual (serialsFromPayload payload)

/-- Without batteries and manual choices, placing and renaming change nothing. -/
theorem stabilized_of_nothingAssigned {mapping : Dict PyStr Slot} {useStableAuto : Bool}
    (h : nothingAssigned manual payload = true) :
    stabilized mapping useStableAuto manual payload = (payload, 1) := by
  rw [nothingAssigned, Bool.and_eq_true, List.all_eq_true, List.all_eq_true] at h
  have hcurrent : serialsFromPayload payload = fun _ => none :=
    funext fun p => Option.isNone_iff_eq_none.mp (h.1 p (mem_trackedSlots p))
  have hmanual : manual = fun _ => none :=
    funext fun p => Option.isNone_iff_eq_none.mp (h.2 p (mem_trackedSlots p))
  unfold stabilized
  rw [hcurrent, hmanual]
  rfl

theorem stabilizeLocked_snd (w : BatteryWorld) (deviceId : PyStr) (payload : Dict PyStr V)
    (manual : ManualAssignments) (useStableAuto : Bool) (io : IoOutcome) :
    (stabilizeLocked w deviceId payload manual useStableAuto io).2 =
      stabilized (effectiveMapping w deviceId payload useStableAuto io).1
        (effectiveMapping w deviceId payload useStableAuto io).2 manual payload := by
  unfold stabilizeLocked effectiveMapping
  rcases positionMaps w io.readOk with - | positions
  · dsimp only
    split_ifs with hnothing
    · exact (stabilized_of_nothingAssigned hnothing).symm
    · rfl
  · dsimp only
    split_ifs with hnothing huse
    · exact (stabilized_of_nothingAssigned hnothing).symm
    · exact (stabilized_of_nothingAssigned hnothing).symm
    · rfl
    · rfl

/-- **The values of a battery move together**: for every packet, every state of the
map and the file, every manual assignment and both ways to place. -/
theorem battery_values_move_together (w : BatteryWorld) (deviceId : PyStr) (payload : Dict PyStr V)
    (manual : ManualAssignments) (useStableAuto : Bool) (io : IoOutcome) :
    MovedTogether (serialsFromPayload payload)
      (placement w deviceId payload manual useStableAuto io) payload
      (stabilizeLocked w deviceId payload manual useStableAuto io).2.1 := by
  rw [stabilizeLocked_snd]
  exact movedTogether_remapPayload placed_physicalToLogical

end Packet

end GroBro
