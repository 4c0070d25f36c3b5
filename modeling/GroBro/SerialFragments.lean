/-
GroBro/SerialFragments.lean

A battery's serial comes in four fragments, and `serialAt` joins those that are not
empty.  A fragment that is missing or `None` spoils the serial, unless the first one is a
complete serial.  An empty fragment does not: what stands before and behind the gap is
joined, and if that looks like a serial it is taken for one.

`noIdentity_iff` says exactly when an incomplete slot stays without an identity, on the
way of a packet through the history of detected batteries (`recordDetectedSerials`) and
the automatic map.
-/
import GroBro.BatteryStability

namespace GroBro

open OrderedDict

/-! ### The history of detected batteries -/

/-- What is stored for a device: recorded by this process, or restored from the file. -/
inductive DetectedEntries where
  | recorded (entries : List (Slot × PyStr))
  | restored (value : Json)

/-- `_battery_detected_serials`; `none` until the file was read. -/
abbrev DetectedSerials := Option (Dict PyStr DetectedEntries)

/-- `cache.get(device_id) == entries`; whether a restored value is equal is a parameter. -/
def DetectedEntries.same (restoredEq : Json → List (Slot × PyStr) → Bool)
    (entries : List (Slot × PyStr)) : DetectedEntries → Bool
  | recorded entries' => entries' = entries
  | restored value => restoredEq value entries

/-- `_record_detected_serials`; `file` is what reading the file gives, and `none` an
`OSError`.  What is remembered is also what was saved. -/
def recordDetectedSerials (restoredEq : Json → List (Slot × PyStr) → Bool)
    (detected : DetectedSerials) (file : Option (Dict PyStr DetectedEntries)) (saveOk : Bool)
    (deviceId : PyStr) (serials : Slot → Option PyStr) : DetectedSerials :=
  let entries := reported serials
  if entries = [] then detected
  else match detected.or file with
  | none => detected
  | some cache =>
      if (cache.get? deviceId).any (DetectedEntries.same restoredEq entries) then some cache
      else if saveOk then some (cache.insert deviceId (.recorded entries)) else some cache

/-! ### Incomplete serials -/

section Fragments

variable {V : Type*} [PyObject V] (payload : Dict PyStr V) (slot : Slot)

/-- The values of the four fragments. -/
def fragmentValues : List (Option V) :=
  ['1', '2', '3', '4'].map fun index => payload.get? (serialKey slot index)

/-- The fragments as they are joined. -/
def fragments : List PyStr := (fragmentValues payload slot).map cleanSerialPart

/-- A fragment is empty and a later one is not. -/
def HasGap (parts : List PyStr) : Prop :=
  ∃ before later, parts = before ++ [] :: later ∧ ∃ part ∈ later, part ≠ []

/-- A complete serial in the first field, and no other fragment. -/
def CompleteSerial (parts : List PyStr) : Prop :=
  4 < (parts.headD []).length ∧ ∀ part ∈ parts.tail, part = []

/-- A key is missing or its value is `None`. -/
def FragmentMissing : Prop := ∃ value ∈ fragmentValues payload slot, value.elim true PyObject.isNone

/-- The slot's serial is incomplete. -/
def IncompleteSerial : Prop :=
  HasGap (fragments payload slot) ∨
    (FragmentMissing payload slot ∧ ¬ CompleteSerial (fragments payload slot))

end Fragments

section Identity

variable {V : Type*} [PyObject V] [PyUnicode] (payload : Dict PyStr V) (slot : Slot)

/-- **A slot has no identity in a packet**: it reports no serial, and whatever the packet
adds to the automatic map or to the detected batteries is another slot's. -/
structure NoIdentity : Prop where
  unreported : serialsFromPayload payload slot = none
  unassigned : ∀ (w : BatteryWorld) (deviceId : PyStr) (manual : ManualAssignments)
    (useStableAuto : Bool) (io : IoOutcome) (maps : PositionMaps) (d serial : PyStr) (l : Slot),
    (prepareBatteryPayload w deviceId payload manual useStableAuto io).1.client.positions = some maps →
    slotOf maps d serial = some l →
      (∃ before, positionMaps w true = some before ∧ slotOf before d serial = some l) ∨
        ∃ p, p ≠ slot ∧ serialsFromPayload payload p = some serial
  undetected : ∀ (restoredEq : Json → List (Slot × PyStr) → Bool) (detected : DetectedSerials)
    (file : Option (Dict PyStr DetectedEntries)) (saveOk : Bool) (deviceId d : PyStr)
    (cache : Dict PyStr DetectedEntries) (entries : List (Slot × PyStr)),
    recordDetectedSerials restoredEq detected file saveOk deviceId (serialsFromPayload payload) =
      some cache →
    cache.get? d = some (.recorded entries) →
      (∃ before, detected.or file = some before ∧ before.get? d = some (.recorded entries)) ∨
        ∀ serial, (slot, serial) ∉ entries

/-- The fragments around a gap look like a serial, and no fragment is missing. -/
def GapLooksComplete : Prop :=
  HasGap (fragments payload slot) ∧ ¬ FragmentMissing payload slot ∧
    isPlausibleSerial (fragments payload slot).flatten = true

end Identity

/-! ### What a slot reports -/

/-- A complete serial in the first field leaves no gap. -/
theorem CompleteSerial.not_hasGap {parts : List PyStr} (h : CompleteSerial parts) :
    ¬ HasGap parts := by
  rintro ⟨before, later, rfl, part, hpart, hne⟩
  rcases before with - | ⟨first, before⟩
  · exact absurd h.1 (by simp)
  · exact hne (h.2 part (List.mem_append_right _ (List.mem_cons_of_mem _ hpart)))

/-- What the packet adds comes from the slots that report a serial. -/
theorem reported_of_get?_assignAll {mapping : Dict PyStr Slot} {current : Slot → Option PyStr}
    {serial : PyStr} {l : Slot} (h : (assignAll mapping current).1.get? serial = some l) :
    mapping.get? serial = some l ∨ ∃ p, current p = some serial := by
  revert serial l
  refine assignLoop_induction (P := fun m => ∀ {serial l}, m.get? serial = some l →
    mapping.get? serial = some l ∨ ∃ p, current p = some serial) (fun h => Or.inl h) ?_
  intro m p serial' l' hmem hm _ _ serial l h
  rw [Dict.get?_insert] at h
  split_ifs at h with he
  · exact Or.inr ⟨p, he ▸ mem_reported.mp hmem⟩
  · exact hm h

section Reported

variable {V : Type*} [PyObject V] {payload : Dict PyStr V} {slot : Slot}

theorem trimmed_nil (p : Char → Bool) : Trimmed p [] := by
  constructor
  · intro c hc
    cases hc
  · intro c hc
    cases hc

theorem trimmed_append {p : Char → Bool} {a b : PyStr} (ha : Trimmed p a) (hb : Trimmed p b) :
    Trimmed p (a ++ b) := by
  rcases a with - | ⟨c, a⟩
  · exact hb
  rcases List.eq_nil_or_concat b with rfl | ⟨b, d, rfl⟩
  · rw [List.append_nil]
    exact ha
  · refine ⟨fun x hx => ha.1 x hx, fun x hx => hb.2 x ?_⟩
    rw [List.concat_eq_append, List.getLast?_concat]
    rwa [List.concat_eq_append, ← List.append_assoc, List.getLast?_concat] at hx

theorem trimmed_flatten {p : Char → Bool} {parts : List PyStr} (h : ∀ part ∈ parts, Trimmed p part) :
    Trimmed p parts.flatten := by
  induction parts with
  | nil => exact trimmed_nil p
  | cons part parts ih =>
      rw [List.flatten_cons]
      exact trimmed_append (h part List.mem_cons_self)
        (ih fun part' h' => h part' (List.mem_cons_of_mem _ h'))

theorem trimmed_cleanSerialPart (value : Option V) : Trimmed isSpace (cleanSerialPart value) := by
  rcases value with - | value
  · exact trimmed_nil isSpace
  · rw [cleanSerialPart]
    split_ifs
    · exact trimmed_nil isSpace
    · exact trimmed_stripBy isSpace _

/-- Joined fragments have nothing to strip. -/
theorem strip_fragments (payload : Dict PyStr V) (slot : Slot) :
    strip (fragments payload slot).flatten = (fragments payload slot).flatten := by
  apply stripBy_eq_self
  apply trimmed_flatten
  intro part hpart
  obtain ⟨value, -, rfl⟩ := List.mem_map.mp hpart
  exact trimmed_cleanSerialPart value

variable [PyUnicode]

/-- A slot reports the joined fragments if none is missing, or the first is complete, and
they look like a serial. -/
theorem serialAt_eq_some_iff {serial : PyStr} :
    serialAt payload slot = some serial ↔
      (FragmentMissing payload slot → CompleteSerial (fragments payload slot)) ∧
        serial = (fragments payload slot).flatten ∧ isPlausibleSerial serial = true := by
  have hcomplete : (4 < ((fragments payload slot).headD []).length ∧
      (fragments payload slot).tail.all (· = []) = true) ↔ CompleteSerial (fragments payload slot) := by
    rw [CompleteSerial, List.all_eq_true]
    exact and_congr_right fun _ => forall₂_congr fun part _ => decide_eq_true_iff
  have hmissing : (fragmentValues payload slot).any (fun value => value.elim true PyObject.isNone) = true ↔
      FragmentMissing payload slot := List.any_eq_true
  have hunfold : serialAt payload slot =
      if ¬ (4 < ((fragments payload slot).headD []).length ∧
          (fragments payload slot).tail.all (· = []) = true) ∧
        (fragmentValues payload slot).any (fun value => value.elim true PyObject.isNone) = true then none
      else if isPlausibleSerial (strip (fragments payload slot).flatten) then
        some (strip (fragments payload slot).flatten) else none := rfl
  rw [hunfold, strip_fragments]
  split_ifs with hbad hplausible
  · rw [hcomplete, hmissing] at hbad
    constructor
    · intro h
      cases h
    · rintro ⟨h, -⟩
      exact absurd (h hbad.2) hbad.1
  · rw [hcomplete, hmissing, not_and_or, not_not] at hbad
    constructor
    · intro h
      obtain rfl := Option.some.inj h
      exact ⟨fun hm => hbad.resolve_right (not_not.mpr hm), rfl, hplausible⟩
    · rintro ⟨-, rfl, -⟩
      rfl
  · constructor
    · intro h
      cases h
    · rintro ⟨-, rfl, h⟩
      exact absurd h hplausible

theorem positionMaps_true {w : BatteryWorld} {readOk : Bool} {maps : PositionMaps}
    (h : positionMaps w readOk = some maps) : positionMaps w true = some maps := by
  unfold positionMaps at h ⊢
  split at h
  · exact h
  · split_ifs at h
    exact h

/-- A packet leaves the map that was there, or adds the serials that are reported. -/
theorem slotOf_prepareBatteryPayload {w : BatteryWorld} {deviceId : PyStr}
    {manual : ManualAssignments} {useStableAuto : Bool} {io : IoOutcome} {maps : PositionMaps}
    {d serial : PyStr} {l : Slot}
    (hmaps : (prepareBatteryPayload w deviceId payload manual useStableAuto io).1.client.positions =
      some maps) (h : slotOf maps d serial = some l) :
    (∃ before, positionMaps w true = some before ∧ slotOf before d serial = some l) ∨
      ∃ p, serialsFromPayload payload p = some serial := by
  have hidle : w.client.positions = some maps → ∃ before, positionMaps w true = some before ∧
      slotOf before d serial = some l := by
    intro hw
    exact ⟨maps, by rw [positionMaps, hw], h⟩
  unfold prepareBatteryPayload at hmaps
  split_ifs at hmaps
  · exact Or.inl (hidle hmaps)
  unfold stabilizeLocked at hmaps
  rcases hread : positionMaps w io.readOk with - | before
  · rw [hread] at hmaps
    dsimp only at hmaps
    split_ifs at hmaps <;> exact Or.inl (hidle hmaps)
  have hbefore := positionMaps_true hread
  rw [hread] at hmaps
  dsimp only at hmaps
  split_ifs at hmaps
  · obtain rfl := Option.some.inj hmaps
    exact Or.inl ⟨before, hbefore, h⟩
  · have hpositions : maps = before.insert deviceId
        (assignAll ((before.get? deviceId).getD ∅) (serialsFromPayload payload)).1 := by
      unfold savePositions at hmaps
      split_ifs at hmaps <;> exact (Option.some.inj hmaps).symm
    rw [hpositions, slotOf_insert] at h
    split_ifs at h with he
    · rcases reported_of_get?_assignAll h with hold | hreported
      · subst he
        exact Or.inl ⟨before, hbefore, hold⟩
      · exact Or.inr hreported
    · exact Or.inl ⟨before, hbefore, h⟩
  · obtain rfl := Option.some.inj hmaps
    rw [← sameSlots_insert before deviceId d serial] at h
    exact Or.inl ⟨before, hbefore, h⟩

/-- A slot that reports nothing has no identity. -/
theorem NoIdentity.of_unreported (h : serialsFromPayload payload slot = none) :
    NoIdentity payload slot where
  unreported := h
  unassigned w deviceId manual useStableAuto io maps d serial l hmaps hl := by
    rcases slotOf_prepareBatteryPayload hmaps hl with hold | ⟨p, hp⟩
    · exact Or.inl hold
    · refine Or.inr ⟨p, ?_, hp⟩
      rintro rfl
      rw [h] at hp
      cases hp
  undetected restoredEq detected file saveOk deviceId d cache entries hcache hentries := by
    unfold recordDetectedSerials at hcache
    dsimp only at hcache
    rcases hbefore : detected.or file with - | before
    · rw [hbefore, (Option.or_eq_none_iff.mp hbefore).1] at hcache
      dsimp only at hcache
      rw [ite_self] at hcache
      cases hcache
    rw [hbefore] at hcache
    dsimp only at hcache
    have hkept : before = cache → ∃ before', some before = some before' ∧
        before'.get? d = some (.recorded entries) := by
      rintro rfl
      exact ⟨before, rfl, hentries⟩
    split_ifs at hcache with hempty hsame hok
    · rw [hcache, Option.some_or] at hbefore
      exact Or.inl (hkept (Option.some.inj hbefore).symm)
    · exact Or.inl (hkept (Option.some.inj hcache))
    · obtain rfl := Option.some.inj hcache
      rw [Dict.get?_insert] at hentries
      split_ifs at hentries
      · obtain rfl := DetectedEntries.recorded.inj (Option.some.inj hentries)
        refine Or.inr fun serial hmem => ?_
        rw [mem_reported, h] at hmem
        cases hmem
      · exact Or.inl ⟨before, rfl, hentries⟩
    · exact Or.inl (hkept (Option.some.inj hcache))

/-- **When an incomplete serial stays without an identity**: unless it has a gap and no
fragment missing, and what is around the gap looks like a serial. -/
theorem noIdentity_iff (payload : Dict PyStr V) (slot : Slot) :
    (IncompleteSerial payload slot → NoIdentity payload slot) ↔ ¬ GapLooksComplete payload slot := by
  constructor
  · rintro h ⟨hgap, hmissing, hplausible⟩
    have hreported : serialAt payload slot = some (fragments payload slot).flatten :=
      serialAt_eq_some_iff.mpr ⟨fun hm => absurd hm hmissing, rfl, hplausible⟩
    have hnone : serialAt payload slot = none := (h (Or.inl hgap)).unreported
    rw [hreported] at hnone
    cases hnone
  · intro h hincomplete
    apply NoIdentity.of_unreported
    apply Option.eq_none_iff_forall_ne_some.mpr
    intro serial hserial
    obtain ⟨hcomplete, rfl, hplausible⟩ := serialAt_eq_some_iff.mp hserial
    rcases hincomplete with hgap | ⟨hmissing, hnot⟩
    · exact h ⟨hgap, fun hm => (hcomplete hm).not_hasGap hgap, hplausible⟩
    · exact hnot (hcomplete hmissing)

end Reported

/-- A packet that sends `ABCD` and `EFGH` for slot 2, with nothing between them. -/
def gapPacket : Dict PyStr PyStr :=
  Dict.ofList [(serialKey .two '1', "ABCD".toList), (serialKey .two '2', []),
    (serialKey .two '3', "EFGH".toList), (serialKey .two '4', [])]

/-- Slot 2 of `gapPacket` reports `ABCDEFGH`. -/
theorem not_noIdentity_gapPacket :
    letI := PyUnicode.asciiOnly
    ¬ (IncompleteSerial gapPacket .two → NoIdentity gapPacket .two) := by
  let _ : PyUnicode := PyUnicode.asciiOnly
  intro h
  have hfragments : fragments gapPacket .two = ["ABCD".toList, [], "EFGH".toList, []] := by
    decide +kernel
  have hgap : HasGap (fragments gapPacket .two) :=
    ⟨["ABCD".toList], ["EFGH".toList, []], hfragments, "EFGH".toList, List.mem_cons_self, by decide⟩
  have hnone : serialsFromPayload gapPacket .two = none := (h (Or.inl hgap)).unreported
  exact absurd hnone (by decide +kernel)

end GroBro
