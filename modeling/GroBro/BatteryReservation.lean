/-
GroBro/BatteryReservation.lean

Manual slot reservations win.  The loader accepts assignments whose explicit
serials are distinct (`loadManualAssignments_distinct`), so a reserved slot has at
most one serial that may own it.

The placement starts from the explicit choices and only ever gives away slots that
are not reserved (`respects_physicalToLogical`).  What is published under a
reserved slot therefore comes from its battery, in all the ways a packet can be
processed (`manual_reservations_win`).
-/
import GroBro.BatteryRemap

namespace GroBro

open OrderedDict

/-! ### What the loader accepts -/

/-- `serial` is explicitly assigned to `slot`. -/
def AssignedTo (manual : ManualAssignments) (slot : Slot) (serial : PyStr) : Prop :=
  manual slot = some serial ∧ serial ≠ autoAssignment ∧ serial ≠ emptyAssignment

/-- No serial is assigned to two slots. -/
def DistinctSerials (manual : ManualAssignments) : Prop :=
  ∀ slot slot' serial, AssignedTo manual slot serial → AssignedTo manual slot' serial → slot = slot'

/-- The explicit serials of `manual` are in `serials`. -/
def ExplicitIn (manual : ManualAssignments) (serials : List PyStr) : Prop :=
  ∀ slot serial, AssignedTo manual slot serial → serial ∈ serials

section Loader

variable {manual clean : ManualAssignments} {serials : List PyStr} {slot : Slot} {value : PyStr}

theorem assignedTo_update {slot' : Slot} {serial : PyStr} :
    AssignedTo (Function.update clean slot (some value)) slot' serial ↔
      (slot' = slot ∧ serial = value ∧ value ≠ autoAssignment ∧ value ≠ emptyAssignment) ∨
        (slot' ≠ slot ∧ AssignedTo clean slot' serial) := by
  by_cases h : slot' = slot
  · subst h
    rw [AssignedTo, Function.update_self, Option.some_inj]
    constructor
    · rintro ⟨rfl, hauto, hempty⟩
      exact Or.inl ⟨rfl, rfl, hauto, hempty⟩
    · rintro (⟨-, rfl, hauto, hempty⟩ | ⟨hne, -⟩)
      · exact ⟨rfl, hauto, hempty⟩
      · exact absurd rfl hne
  · rw [AssignedTo, Function.update_of_ne h]
    constructor
    · intro ha
      exact Or.inr ⟨h, ha⟩
    · rintro (⟨he, -⟩ | ⟨-, ha⟩)
      · exact absurd he h
      · exact ha

/-- Choosing `__auto__` or `__empty__` for a slot assigns no serial. -/
theorem assignedTo_update_choice (hvalue : value = autoAssignment ∨ value = emptyAssignment)
    {slot' : Slot} {serial : PyStr}
    (h : AssignedTo (Function.update clean slot (some value)) slot' serial) :
    AssignedTo clean slot' serial := by
  rcases assignedTo_update.mp h with ⟨-, -, hauto, hempty⟩ | ⟨-, ha⟩
  · rcases hvalue with he | he
    · exact absurd he hauto
    · exact absurd he hempty
  · exact ha

/-- A new serial keeps the serials distinct. -/
theorem DistinctSerials.update (h : DistinctSerials clean) (hin : ExplicitIn clean serials)
    (hnew : value ∉ serials) : DistinctSerials (Function.update clean slot (some value)) := by
  intro s s' serial hs hs'
  rcases assignedTo_update.mp hs with ⟨rfl, rfl, -⟩ | ⟨-, ha⟩ <;>
    rcases assignedTo_update.mp hs' with ⟨rfl, he, -⟩ | ⟨-, ha'⟩
  · rfl
  · exact absurd (hin s' _ ha') hnew
  · rw [he] at ha
    exact absurd (hin s _ ha) hnew
  · exact h s s' serial ha ha'

theorem cleanAssignments_distinct [PyUnicode] {assignments : Dict PyStr PyStr} {slots : List Slot}
    (h : cleanAssignments assignments serials clean slots = some manual)
    (hin : ExplicitIn clean serials) (hclean : DistinctSerials clean) : DistinctSerials manual := by
  induction slots generalizing serials clean with
  | nil =>
      obtain rfl := Option.some.inj h
      exact hclean
  | cons slot slots ih =>
      rw [cleanAssignments] at h
      split_ifs at h with hchoice hbad
      · refine ih h ?_ ?_
        · intro s serial ha
          exact hin s serial (assignedTo_update_choice hchoice ha)
        · intro s s' serial ha ha'
          exact hclean s s' serial (assignedTo_update_choice hchoice ha)
            (assignedTo_update_choice hchoice ha')
      · rw [not_or] at hbad
        refine ih h ?_ (hclean.update hin hbad.2)
        intro s serial ha
        rcases assignedTo_update.mp ha with ⟨-, rfl, -⟩ | ⟨-, ha⟩
        · exact List.mem_cons_self
        · exact List.mem_cons_of_mem _ (hin s serial ha)

theorem loadManualAssignments_distinct [PyUnicode] {assignments : Dict PyStr PyStr}
    (h : loadManualAssignments assignments = some manual) : DistinctSerials manual := by
  have hnone : ∀ slot serial, ¬ AssignedTo noAssignments slot serial := by
    rintro slot serial ⟨h, -⟩
    cases h
  refine cleanAssignments_distinct h ?_ ?_
  · intro slot serial ha
    exact absurd ha (hnone slot serial)
  · intro slot slot' serial ha
    exact absurd ha (hnone slot serial)

end Loader

/-! ### The placement -/

section Placement

variable {mapping : Dict PyStr Slot} {useStableAuto : Bool} {manual : ManualAssignments}
  {current : Slot → Option PyStr}

theorem explicitSlot_iff (h : DistinctSerials manual) {serial : PyStr} {slot : Slot} :
    explicitSlot manual serial = some slot ↔ AssignedTo manual slot serial := by
  constructor
  · intro hfound
    have hassigned := List.find?_some hfound
    rwa [decide_eq_true_eq] at hassigned
  · intro hassigned
    -- some slot is found, and the serial has only one
    rcases hfound : explicitSlot manual serial with - | slot'
    · have hnone := List.find?_eq_none.mp hfound slot (List.mem_reverse.mpr (mem_trackedSlots slot))
      rw [decide_eq_true_eq] at hnone
      exact absurd hassigned hnone
    · have hassigned' := List.find?_some hfound
      rw [decide_eq_true_eq] at hassigned'
      rw [h slot' slot serial hassigned' hassigned]

theorem reservedManual_iff {slot : Slot} :
    reservedManual manual slot = true ↔ ∃ value, manual slot = some value ∧ value ≠ autoAssignment := by
  rw [reservedManual]
  rcases manual slot with - | value
  · simp
  · simp

/-- A slot with an explicit serial is reserved. -/
theorem AssignedTo.reserved {slot : Slot} {serial : PyStr} (h : AssignedTo manual slot serial) :
    reservedManual manual slot = true :=
  reservedManual_iff.mpr ⟨serial, h.1, h.2.1⟩

/-- A placement respects the reservations: a battery with an explicit serial is at
its slot, and a reserved slot is only given to such a battery. -/
structure Respects (manual : ManualAssignments) (current : Slot → Option PyStr)
    (toLogical : Slot → Option Slot) : Prop where
  owner : ∀ p slot serial, current p = some serial → AssignedTo manual slot serial →
    toLogical p = some slot
  reserved : ∀ p slot, toLogical p = some slot → reservedManual manual slot = true →
    ∃ serial, current p = some serial ∧ AssignedTo manual slot serial

theorem respects_explicitSlots (h : DistinctSerials manual) :
    Respects manual current (explicitSlots manual current) where
  owner p slot serial hp hassigned := by
    rw [explicitSlots, hp]
    exact (explicitSlot_iff h).mpr hassigned
  reserved p slot hp _ := by
    obtain ⟨serial, hs, he⟩ := Option.bind_eq_some_iff.mp hp
    exact ⟨serial, hs, (explicitSlot_iff h).mp he⟩

/-- Giving a free slot to a battery without one breaks no reservation. -/
theorem Respects.update {toLogical : Slot → Option Slot} (h : Respects manual current toLogical)
    {p l : Slot} (hp : toLogical p = none) (hfree : freeLogical manual toLogical l = true) :
    Respects manual current (Function.update toLogical p (some l)) := by
  refine ⟨?_, ?_⟩
  · intro q slot serial hq hassigned
    have howner := h.owner q slot serial hq hassigned
    have hqp : q ≠ p := by
      rintro rfl
      rw [hp] at howner
      cases howner
    rw [Function.update_of_ne hqp, howner]
  · intro q slot hq hreserved
    by_cases hqp : q = p
    · rw [hqp, Function.update_self] at hq
      obtain rfl := Option.some.inj hq
      rw [(freeLogical_iff.mp hfree).1] at hreserved
      cases hreserved
    · rw [Function.update_of_ne hqp] at hq
      exact h.reserved q slot hq hreserved

/-- **Reservations are respected** by the placement of every packet. -/
theorem respects_physicalToLogical (h : DistinctSerials manual) :
    Respects manual current (physicalToLogical mapping useStableAuto manual current) :=
  physicalToLogical_induction (respects_explicitSlots h)
    fun _ _ _ _ ht _ hnone hfree => ht.update hnone hfree

end Placement

/-! ### The published payload -/

section Packet

variable {V : Type*}

theorem value_le_foldl_max (slots : List Slot) (n : ℕ) :
    n ≤ slots.foldl (fun n slot => max n slot.value) n ∧
      ∀ l ∈ slots, l.value ≤ slots.foldl (fun n slot => max n slot.value) n := by
  induction slots generalizing n with
  | nil => exact ⟨le_refl n, fun l hl => nomatch hl⟩
  | cons slot slots ih =>
      obtain ⟨hn, hslots⟩ := ih (max n slot.value)
      refine ⟨le_trans (le_max_left _ _) hn, ?_⟩
      intro l hl
      rcases List.mem_cons.mp hl with rfl | hl
      · exact le_trans (le_max_right _ _) hn
      · exact hslots l hl

theorem value_le_maxLogical {toLogical : Slot → Option Slot} {p l : Slot}
    (h : toLogical p = some l) : l.value ≤ maxLogical toLogical :=
  (value_le_foldl_max _ 1).2 l (List.mem_filterMap.mpr ⟨p, mem_trackedSlots p, h⟩)

/-- The reservations of `manual` win in a packet that reports the batteries
`current`: they are given the logical slots `given`, and `payload` is published as
`q` with the maximum `maximum`. -/
structure ReservationsWin (manual : ManualAssignments) (current : Slot → Option PyStr)
    (given : Slot → Option Slot) (payload q : Dict PyStr V) (maximum : ℕ) : Prop where
  /-- Nothing is published under a slot assigned to be empty. -/
  empty : ∀ slot k v, manual slot = some emptyAssignment → q.get? k = some v →
    logicalSlotFromKey k ≠ some slot
  /-- What is published under a slot with an explicit serial comes from a physical
  slot that reports it. -/
  source : ∀ slot serial k' v, AssignedTo manual slot serial → q.get? k' = some v →
    logicalSlotFromKey k' = some slot →
    ∃ k p, logicalSlotFromKey k = some p ∧ payload.get? k = some v ∧ k' = remapKey k slot ∧
      current p = some serial
  /-- A battery with an explicit slot is given it, and its keys are published there. -/
  owner : ∀ p slot serial, current p = some serial → AssignedTo manual slot serial →
    given p = some slot ∧ ∀ k v, logicalSlotFromKey k = some p → payload.get? k = some v →
      ∃ v', q.get? (remapKey k slot) = some v'
  /-- Where a slot is reserved, the maximum covers every slot that was given. -/
  maximum : (∃ slot, reservedManual manual slot = true) →
    ∀ p l, given p = some l → l.value ≤ maximum

variable {manual : ManualAssignments} {current : Slot → Option PyStr}
  {toLogical : Slot → Option Slot} {payload q : Dict PyStr V} {maximum : ℕ}

/-- Without reservations there is nothing to break. -/
theorem reservationsWin_of_unreserved (h : ∀ slot, reservedManual manual slot = false) :
    ReservationsWin manual current toLogical payload q maximum := by
  have hunassigned : ∀ slot serial, ¬ AssignedTo manual slot serial := by
    intro slot serial ha
    have hreserved := ha.reserved
    rw [h slot] at hreserved
    cases hreserved
  refine ⟨?_, ?_, ?_, ?_⟩
  · intro slot k v hempty
    have hreserved : reservedManual manual slot = true :=
      reservedManual_iff.mpr ⟨emptyAssignment, hempty, by decide⟩
    rw [h slot] at hreserved
    cases hreserved
  · intro slot serial k' v ha
    exact absurd ha (hunassigned slot serial)
  · intro p slot serial _ ha
    exact absurd ha (hunassigned slot serial)
  · rintro ⟨slot, hreserved⟩
    rw [h slot] at hreserved
    cases hreserved

/-- What fills a reserved slot is the battery it is reserved for. -/
theorem Respects.fills (h : Respects manual current toLogical) {p slot : Slot}
    (hfills : Fills manual current toLogical p slot) (hreserved : reservedManual manual slot = true) :
    ∃ serial, current p = some serial ∧ AssignedTo manual slot serial := by
  obtain ⟨hout, hslot⟩ := hfills
  rcases hp : toLogical p with - | l
  · -- a physical slot without a logical one is left out where it is reserved
    rw [hp] at hslot
    obtain rfl : p = slot := hslot
    rw [leftOut, hp, hreserved] at hout
    simp at hout
  · rw [hp] at hslot
    obtain rfl : l = slot := hslot
    exact h.reserved p l hp hreserved

theorem reservationsWin_renamed (h : Respects manual current toLogical) :
    ReservationsWin manual current toLogical payload (renamed manual current toLogical payload)
      (maxLogical toLogical) where
  empty slot k' v hempty hv hk' := by
    obtain ⟨k, p, -, -, hout, -, hp⟩ := get?_renamed_slot hk' hv
    have hreserved : reservedManual manual slot = true :=
      reservedManual_iff.mpr ⟨emptyAssignment, hempty, by decide⟩
    obtain ⟨serial, -, hserial, -, hne⟩ := h.fills ⟨hout, hp⟩ hreserved
    rw [hempty] at hserial
    exact hne (Option.some.inj hserial).symm
  source slot serial k' v ha hv hk' := by
    obtain ⟨k, p, hkv, hkp, hout, he, hp⟩ := get?_renamed_slot hk' hv
    obtain ⟨serial', hs, ha'⟩ := h.fills ⟨hout, hp⟩ ha.reserved
    have hsame : some serial' = some serial := ha'.1.symm.trans ha.1
    obtain rfl := Option.some.inj hsame
    exact ⟨k, p, hkp, hkv, he, hs⟩
  owner p slot serial hp ha := by
    have hgiven := h.owner p slot serial hp ha
    refine ⟨hgiven, ?_⟩
    intro k v hk hv
    obtain ⟨hin, hl⟩ : Fills manual current toLogical p slot := fills_of_placed hgiven
    rw [← Dict.mem_keys_iff, renamed, remapLoop_eq, Dict.mem_keys_foldl_insert]
    refine Or.inr (List.mem_map.mpr ⟨(remapKey k slot, v), ?_, rfl⟩)
    exact mem_moved.mpr ⟨k, p, hv, hk, hin, by rw [hl]⟩
  maximum _ p l hl := value_le_maxLogical hl

variable [PyObject V] [PyUnicode]

theorem reservationsWin_stabilized {mapping : Dict PyStr Slot} {useStableAuto : Bool}
    (h : DistinctSerials manual) :
    ReservationsWin manual (serialsFromPayload payload)
      (physicalToLogical mapping useStableAuto manual (serialsFromPayload payload)) payload
      (stabilized mapping useStableAuto manual payload).1
      (stabilized mapping useStableAuto manual payload).2 := by
  unfold stabilized remapPayload
  dsimp only
  split_ifs with hstay
  · exact reservationsWin_of_unreserved (eq_of_staysInPlace hstay).1
  · exact reservationsWin_renamed (respects_physicalToLogical h)

/-- **Manual slot reservations always win**: for every packet, every state of the map
and the file, every assignment that the loader accepts and both ways to place. -/
theorem manual_reservations_win (w : BatteryWorld) (deviceId : PyStr) (payload : Dict PyStr V)
    {assignments : Dict PyStr PyStr} {manual : ManualAssignments}
    (h : loadManualAssignments assignments = some manual) (useStableAuto : Bool) (io : IoOutcome) :
    ReservationsWin manual (serialsFromPayload payload)
      (placement w deviceId payload manual useStableAuto io) payload
      (prepareBatteryPayload w deviceId payload manual useStableAuto io).2.1
      (prepareBatteryPayload w deviceId payload manual useStableAuto io).2.2 := by
  unfold prepareBatteryPayload
  split_ifs with hauto
  · -- no stable slots and no manual choice: the packet is passed on as it is
    refine reservationsWin_of_unreserved fun slot => ?_
    rw [← Bool.not_eq_true]
    intro hreserved
    exact hauto.2 (List.any_eq_true.mpr ⟨slot, mem_trackedSlots slot, hreserved⟩)
  · rw [stabilizeLocked_snd]
    exact reservationsWin_stabilized (loadManualAssignments_distinct h)

end Packet

/-- A battery is chosen for slot 2, slot 3 is to be empty and slot 4 is left alone. -/
def chosenSlots : ManualAssignments
  | .two => some "ABCDEFGH12".toList
  | .three => some emptyAssignment
  | .four => some autoAssignment

/-- The chosen battery is reported as the third one. -/
def thirdBattery : Dict PyStr PyStr :=
  .ofList [(serialKey .three '1', "ABCDEFGH12".toList), ("bat3_soc".toList, "50".toList),
    ("bat2_soc".toList, "0".toList)]

theorem manual_reservations_win_thirdBattery :
    letI := PyUnicode.asciiOnly
    let w : BatteryWorld := ⟨⟨none, false⟩, .absent⟩
    let prepared := prepareBatteryPayload w ['D'] thirdBattery chosenSlots true ⟨true, true⟩
    ReservationsWin chosenSlots (serialsFromPayload thirdBattery)
      (placement w ['D'] thirdBattery chosenSlots true ⟨true, true⟩) thirdBattery
      prepared.2.1 prepared.2.2 :=
  letI := PyUnicode.asciiOnly
  have hload : loadManualAssignments (.ofList [(['2'], "ABCDEFGH12".toList),
      (['3'], emptyAssignment)]) = some chosenSlots :=
    congrArg some (funext fun slot => by cases slot <;> rfl)
  manual_reservations_win _ _ _ hload _ _

end GroBro
