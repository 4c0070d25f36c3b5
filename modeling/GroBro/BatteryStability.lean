/-
GroBro/BatteryStability.lean

The automatic map over whole runs.  A map is tidy when its serials are as the
loader would clean them and no slot is taken twice.  The loader only builds tidy
maps, new assignments keep a map tidy, and a tidy map that is saved is read back
as it was (`slotOf_load_save`).

The state of a run is tied together by `Consistent`: what the file holds is
contained in the loaded map, and equal to it while nothing waits to be saved.
Every packet is a `PacketStep`: slots that the map or the file has given stay.  The
result about all runs is `battery_map_stable`.
-/
import GroBro.BatteryPosition
import GroBro.Machine

namespace GroBro

open OrderedDict Machine

/-! ### Tidy maps -/

/-- Serials as the loader cleans them, and no slot taken twice. -/
structure Tidy (mapping : Dict PyStr Slot) : Prop where
  clean : ∀ serial slot, mapping.get? serial = some slot →
    serial ≠ [] ∧ cleanSerialText serial = serial
  injective : ∀ serial serial' slot, mapping.get? serial = some slot →
    mapping.get? serial' = some slot → serial = serial'

theorem tidy_empty : Tidy ∅ where
  clean _ _ h := nomatch h
  injective _ _ _ h := nomatch h

/-- Being tidy is about what is read, not about the order of the entries. -/
theorem Tidy.congr {mapping mapping' : Dict PyStr Slot} (h : Tidy mapping)
    (he : ∀ serial, mapping.get? serial = mapping'.get? serial) : Tidy mapping' := by
  refine ⟨?_, ?_⟩
  · intro serial slot hs
    rw [← he] at hs
    exact h.clean serial slot hs
  · intro serial serial' slot hs hs'
    rw [← he] at hs hs'
    exact h.injective serial serial' slot hs hs'

theorem Tidy.insert {mapping : Dict PyStr Slot} (h : Tidy mapping) {serial : PyStr} {slot : Slot}
    (hne : serial ≠ []) (hclean : cleanSerialText serial = serial)
    (hfree : slot ∉ mapping.values) : Tidy (mapping.insert serial slot) := by
  have hfresh : ∀ s, mapping.get? s ≠ some slot := fun s hs => hfree (Dict.mem_values.mpr ⟨s, hs⟩)
  refine ⟨?_, ?_⟩
  · intro s p hs
    rw [Dict.get?_insert] at hs
    split_ifs at hs with he
    · subst he
      exact ⟨hne, hclean⟩
    · exact h.clean s p hs
  · intro s s' p hs hs'
    rw [Dict.get?_insert] at hs hs'
    split_ifs at hs with he <;> split_ifs at hs' with he'
    · rw [← he, ← he']
    · obtain rfl := Option.some.inj hs
      exact absurd hs' (hfresh s')
    · obtain rfl := Option.some.inj hs'
      exact absurd hs (hfresh s)
    · exact h.injective s s' p hs hs'

/-! ### Serials -/

theorem cleanSerialText_of_no_nul {s : PyStr} (h : nul ∉ s) : cleanSerialText s = strip s := by
  have hnul : stripNul (strip s) = strip s := by
    apply stripBy_of_not_mem
    intro c hc
    rw [beq_eq_false_iff_ne]
    rintro rfl
    exact h (mem_of_mem_stripBy hc)
  rw [cleanSerialText, hnul, strip_strip]

/-- Cleaning a serial without NUL characters twice is cleaning it once. -/
theorem cleanSerialText_cleanSerialText {s : PyStr} (h : nul ∉ s) :
    cleanSerialText (cleanSerialText s) = cleanSerialText s := by
  have hs : nul ∉ strip s := fun hc => h (mem_of_mem_stripBy hc)
  rw [cleanSerialText_of_no_nul h, cleanSerialText_of_no_nul hs, strip_strip]

section Plausible

variable [PyUnicode]

/-- A plausible serial has nothing to clean away. -/
theorem cleanSerialText_of_plausible {s : PyStr} (h : isPlausibleSerial s = true) :
    s ≠ [] ∧ cleanSerialText s = s := by
  rw [isPlausibleSerial, Bool.and_eq_true, Bool.and_eq_true, List.all_eq_true] at h
  obtain ⟨⟨hlen, -⟩, hchars⟩ := h
  have hlen := of_decide_eq_true hlen
  have hchar : ∀ c ∈ s, isSpace c = false ∧ c ≠ nul := by
    intro c hc
    have hcs := hchars c hc
    rw [Bool.or_eq_true] at hcs
    rcases hcs with halnum | hmark
    · refine ⟨PyUnicode.not_space c halnum, ?_⟩
      rintro rfl
      rw [PyUnicode.ascii nul (by decide)] at halnum
      revert halnum
      decide
    · have hmem := of_decide_eq_true hmark
      simp only [List.mem_cons, List.not_mem_nil, or_false] at hmem
      rcases hmem with rfl | rfl | rfl <;> decide
  refine ⟨?_, ?_⟩
  · rintro rfl
    cases hlen
  · rw [cleanSerialText_of_no_nul fun hnul => (hchar nul hnul).2 rfl]
    exact stripBy_of_not_mem fun c hc => (hchar c hc).1

theorem plausible_of_serialsFromPayload {V : Type*} [PyObject V] {payload : Dict PyStr V} {p : Slot}
    {serial : PyStr} (h : serialsFromPayload payload p = some serial) :
    isPlausibleSerial serial = true := by
  unfold serialsFromPayload serialAt at h
  dsimp only at h
  split_ifs at h with _ hplausible
  obtain rfl := Option.some.inj h
  exact hplausible

/-! ### Loading -/

/-- No serial of the file has a NUL character. -/
def PositionFile.NulFree : PositionFile → Prop
  | .json (.obj devices) => ∀ deviceId pairs, (deviceId, .obj pairs) ∈ devices →
      ∀ entry ∈ pairs, nul ∉ entry.1
  | _ => True

theorem tidy_cleanMapping {clean : Dict PyStr Slot} {usedSlots : List Slot}
    {rest : List (PyStr × Json)} (hrest : ∀ entry ∈ rest, nul ∉ entry.1) (h : Tidy clean)
    (hused : ∀ slot ∈ clean.values, slot ∈ usedSlots) :
    Tidy (cleanMapping clean usedSlots rest) := by
  induction rest generalizing clean usedSlots with
  | nil => exact h
  | cons entry rest ih =>
      obtain ⟨serial, json⟩ := entry
      have hnul : nul ∉ serial := hrest _ List.mem_cons_self
      have hrest' : ∀ entry ∈ rest, nul ∉ entry.1 :=
        fun entry hm => hrest entry (List.mem_cons_of_mem _ hm)
      rw [cleanMapping]
      split
      · exact ih hrest' h hused
      -- an accepted entry has a slot that no entry before it had
      · rename_i slot _
        dsimp only
        split_ifs with haccept
        · have hfree : slot ∉ clean.values := fun hm => haccept.2 (hused slot hm)
          refine ih hrest'
            (h.insert haccept.1 (cleanSerialText_cleanSerialText hnul) hfree) ?_
          intro p hp
          obtain ⟨s, hs⟩ := Dict.mem_values.mp hp
          rw [Dict.get?_insert] at hs
          split_ifs at hs with he
          · obtain rfl := Option.some.inj hs
            exact List.mem_cons_self
          · exact List.mem_cons_of_mem _ (hused p (Dict.mem_values.mpr ⟨s, hs⟩))
        · exact ih hrest' h hused

/-- Reading a device's value: an object is cleaned, anything else has no serials. -/
def cleanDevice : Json → Dict PyStr Slot
  | .obj pairs => cleanMapping ∅ [] (Dict.ofList pairs).entries
  | _ => ∅

theorem cleanDevices_cons (result : PositionMaps) (deviceId : PyStr) (json : Json)
    (rest : List (PyStr × Json)) :
    cleanDevices result ((deviceId, json) :: rest) =
      cleanDevices (if (cleanDevice json).entries = [] then result
        else result.insert deviceId (cleanDevice json)) rest := by
  cases json <;> rfl

end Plausible

/-- The stable slot of a serial. -/
def slotOf (maps : PositionMaps) (deviceId serial : PyStr) : Option Slot :=
  ((maps.get? deviceId).getD ∅).get? serial

theorem slotOf_insert (maps : PositionMaps) (deviceId : PyStr) (mapping : Dict PyStr Slot)
    (d s : PyStr) : slotOf (maps.insert deviceId mapping) d s =
      if deviceId = d then mapping.get? s else slotOf maps d s := by
  rw [slotOf, Dict.get?_insert]
  split_ifs <;> rfl

theorem slotOf_eq_none {maps : PositionMaps} {d : PyStr} (h : maps.get? d = none) (s : PyStr) :
    slotOf maps d s = none := by
  rw [slotOf, h]
  rfl

theorem get?_of_entries_eq_nil {mapping : Dict PyStr Slot} (h : mapping.entries = [])
    (s : PyStr) : mapping.get? s = none := by
  rw [Dict.get?, h]
  rfl

section Load

variable [PyUnicode]

theorem slotOf_cleanDevices_of_not_mem {result : PositionMaps} {rest : List (PyStr × Json)}
    {d : PyStr} (h : d ∉ rest.map Prod.fst) (s : PyStr) :
    slotOf (cleanDevices result rest) d s = slotOf result d s := by
  induction rest generalizing result with
  | nil => rfl
  | cons device rest ih =>
      obtain ⟨deviceId, json⟩ := device
      rw [List.map_cons, List.mem_cons, not_or] at h
      rw [cleanDevices_cons, ih h.2]
      split_ifs
      · rfl
      · rw [slotOf_insert, if_neg (Ne.symm h.1)]

/-- A device whose map is empty is left out, which no serial notices. -/
theorem slotOf_cleanDevices {result : PositionMaps} {rest : List (PyStr × Json)} {d : PyStr}
    (hkeys : (rest.map Prod.fst).Nodup) (hnew : result.get? d = none) (s : PyStr) :
    slotOf (cleanDevices result rest) d s =
      (lookup d rest).bind fun json => (cleanDevice json).get? s := by
  induction rest generalizing result with
  | nil => exact slotOf_eq_none hnew s
  | cons device rest ih =>
      obtain ⟨deviceId, json⟩ := device
      rw [List.map_cons, List.nodup_cons] at hkeys
      rw [cleanDevices_cons, lookup]
      by_cases he : deviceId = d
      · subst he
        -- later devices have other keys
        rw [if_pos rfl, slotOf_cleanDevices_of_not_mem hkeys.1, Option.bind_some]
        split_ifs with hempty
        · rw [slotOf_eq_none hnew, get?_of_entries_eq_nil hempty]
        · rw [slotOf_insert, if_pos rfl]
      · rw [if_neg he]
        apply ih hkeys.2
        split_ifs
        · exact hnew
        · rw [Dict.get?_insert_of_ne _ he, hnew]

/-- What the loader finds in a file that is an object. -/
theorem slotOf_loadAllPositions (devices : List (PyStr × Json)) (d s : PyStr) :
    slotOf (loadAllPositions (.json (.obj devices))) d s =
      ((Dict.ofList devices).get? d).bind fun json => (cleanDevice json).get? s :=
  slotOf_cleanDevices (Dict.ofList devices).nodup rfl s

theorem tidy_cleanDevice {json : Json}
    (h : ∀ pairs, json = .obj pairs → ∀ entry ∈ pairs, nul ∉ entry.1) : Tidy (cleanDevice json) := by
  cases json with
  | obj pairs =>
      refine tidy_cleanMapping ?_ tidy_empty fun _ hm => nomatch hm
      intro entry hm
      exact h pairs rfl entry (Dict.mem_of_mem_ofList hm)
  | _ => exact tidy_empty

/-- The maps of all devices are tidy. -/
def AllTidy (maps : PositionMaps) : Prop := ∀ d, Tidy ((maps.get? d).getD ∅)

omit [PyUnicode] in
theorem allTidy_empty : AllTidy ∅ := fun _ => tidy_empty

/-- The loader only builds tidy maps. -/
theorem allTidy_loadAllPositions {file : PositionFile} (h : file.NulFree) :
    AllTidy (loadAllPositions file) := by
  cases file with
  | absent => exact allTidy_empty
  | malformed => exact allTidy_empty
  | json value =>
      cases value with
      | obj devices =>
          intro d
          have hget := slotOf_loadAllPositions devices d
          rcases hd : (Dict.ofList devices).get? d with - | json
          · rw [hd] at hget
            exact tidy_empty.congr fun s => (hget s).symm
          · rw [hd] at hget
            have hmem : (d, json) ∈ devices :=
              Dict.mem_of_mem_ofList ((Dict.mem_entries _).mpr hd)
            refine Tidy.congr (tidy_cleanDevice ?_) fun s => (hget s).symm
            rintro pairs rfl
            exact h d pairs hmem
      | _ => exact allTidy_empty

/-! ### Saving -/

/-- Cleaning a tidy map that was written changes nothing. -/
theorem cleanMapping_saved {clean : Dict PyStr Slot} {usedSlots : List Slot}
    {l : List (PyStr × Slot)}
    (hkeys : ∀ entry ∈ l, entry.1 ≠ [] ∧ cleanSerialText entry.1 = entry.1)
    (hslots : (l.map Prod.snd).Nodup) (hused : ∀ slot ∈ l.map Prod.snd, slot ∉ usedSlots) :
    cleanMapping clean usedSlots (l.map fun entry => (entry.1, .int entry.2.value)) =
      l.foldl (fun d entry => d.insert entry.1 entry.2) clean := by
  induction l generalizing clean usedSlots with
  | nil => rfl
  | cons entry l ih =>
      obtain ⟨serial, slot⟩ := entry
      rw [List.map_cons, List.nodup_cons] at hslots
      obtain ⟨hne, hclean⟩ := hkeys (serial, slot) List.mem_cons_self
      dsimp only at hne hclean
      have hfree : slot ∉ usedSlots := hused slot List.mem_cons_self
      -- a slot that was written is read as itself
      have hint : ((Json.int slot.value).toInt).bind Slot.ofInt? = some slot := by
        cases slot <;> rfl
      rw [List.map_cons, cleanMapping, hint]
      dsimp only
      rw [hclean, if_pos ⟨hne, hfree⟩, List.foldl_cons]
      refine ih (fun entry hm => hkeys entry (List.mem_cons_of_mem _ hm)) hslots.2 ?_
      intro p hp hm
      rcases List.mem_cons.mp hm with rfl | hm'
      · exact hslots.1 hp
      · exact hused p (List.mem_cons_of_mem _ hp) hm'

omit [PyUnicode] in
theorem sortKeys_perm {α : Type*} (entries : List (PyStr × α)) :
    (sortKeys entries).Perm entries := List.perm_insertionSort _ _

theorem cleanDevice_savedMapping {mapping : Dict PyStr Slot} (h : Tidy mapping) (s : PyStr) :
    (cleanDevice (savedMapping mapping)).get? s = mapping.get? s := by
  have hperm := sortKeys_perm mapping.entries
  have hkeys : ((sortKeys mapping.entries).map Prod.fst).Nodup :=
    (hperm.map Prod.fst).nodup_iff.mpr mapping.nodup
  have hget : ∀ {entry}, entry ∈ sortKeys mapping.entries → mapping.get? entry.1 = some entry.2 :=
    fun hm => mapping.mem_entries.mp (hperm.mem_iff.mp hm)
  -- no slot is written twice, so the loader takes every entry
  have hslots : ((sortKeys mapping.entries).map Prod.snd).Nodup := by
    refine List.Nodup.map_on ?_ (List.Nodup.of_map _ hkeys)
    intro x hx y hy he
    refine Prod.ext (h.injective x.1 y.1 x.2 (hget hx) ?_) he
    rw [he]
    exact hget hy
  rw [savedMapping, cleanDevice, Dict.entries_ofList, cleanMapping_saved]
  · show lookup s (Dict.ofList (sortKeys mapping.entries)).entries = lookup s mapping.entries
    rw [Dict.entries_ofList hkeys, lookup_perm mapping.nodup hperm]
  · intro entry hm
    exact h.clean entry.1 entry.2 (hget hm)
  · exact hslots
  · intro slot _ hm
    cases hm
  · rw [List.map_map]
    exact hkeys

/-- **A tidy map that is saved is read back as it was.** -/
theorem slotOf_load_save {maps : PositionMaps} (h : AllTidy maps) (d s : PyStr) :
    slotOf (loadAllPositions (saveAllPositions maps)) d s = slotOf maps d s := by
  have hperm := sortKeys_perm maps.entries
  rw [saveAllPositions, slotOf_loadAllPositions, Dict.get?, Dict.entries_ofList, lookup_map savedMapping,
    lookup_perm maps.nodup hperm]
  · show ((maps.get? d).map _).bind _ = _
    have hd := h d
    rw [slotOf]
    rcases hget : maps.get? d with - | mapping
    · rfl
    · rw [hget] at hd
      exact cleanDevice_savedMapping hd s
  · rw [List.map_map]
    exact (hperm.map Prod.fst).nodup_iff.mpr maps.nodup

end Load

/-! ### Automatic assignment -/

theorem not_mem_values_of_freeStableSlot {mapping : Dict PyStr Slot} {p l : Slot}
    (h : freeStableSlot mapping p = some l) : l ∉ mapping.values := by
  unfold freeStableSlot at h
  split_ifs at h with htaken
  · have hl := List.find?_some h
    exact of_decide_eq_true hl
  · obtain rfl := Option.some.inj h
    exact htaken

/-- **The assignment rule**: what is kept when a new serial gets a slot that no
serial has is kept by the whole loop. -/
theorem assignLoop_induction {P : Dict PyStr Slot → Prop} {mapping : Dict PyStr Slot}
    {changed : Bool} {rest : List (Slot × PyStr)} (h : P mapping)
    (hstep : ∀ m p serial l, (p, serial) ∈ rest → P m → m.get? serial = none → l ∉ m.values →
      P (m.insert serial l)) : P (assignLoop mapping changed rest).1 := by
  induction rest generalizing mapping changed with
  | nil => exact h
  | cons b rest ih =>
      obtain ⟨p, serial⟩ := b
      have hstep' : ∀ m p serial l, (p, serial) ∈ rest → P m → m.get? serial = none →
          l ∉ m.values → P (m.insert serial l) :=
        fun m p serial l hm => hstep m p serial l (List.mem_cons_of_mem _ hm)
      rw [assignLoop]
      split_ifs with hknown
      · exact ih h hstep'
      · have hnew : mapping.get? serial = none := Option.not_isSome_iff_eq_none.mp hknown
        split
        · exact ih h hstep'
        · rename_i l hl
          exact ih (hstep mapping p serial l List.mem_cons_self h hnew
            (not_mem_values_of_freeStableSlot hl)) hstep'

/-- An assigned serial keeps its slot. -/
theorem get?_assignAll {mapping : Dict PyStr Slot} {current : Slot → Option PyStr}
    {serial : PyStr} {slot : Slot} (h : mapping.get? serial = some slot) :
    (assignAll mapping current).1.get? serial = some slot := by
  refine assignLoop_induction (P := fun m => m.get? serial = some slot) h ?_
  intro m p serial' l _ hm hnew _
  -- only serials without a slot get one
  have hne : serial' ≠ serial := by
    rintro rfl
    rw [hm] at hnew
    cases hnew
  rw [Dict.get?_insert_of_ne _ hne, hm]

/-- Without the mark the loop assigned nothing. -/
theorem assignLoop_unchanged {mapping : Dict PyStr Slot} {changed : Bool}
    {rest : List (Slot × PyStr)} (h : (assignLoop mapping changed rest).2 = false) :
    changed = false ∧ (assignLoop mapping changed rest).1 = mapping := by
  induction rest generalizing mapping changed with
  | nil => exact ⟨h, rfl⟩
  | cons b rest ih =>
      obtain ⟨p, serial⟩ := b
      rw [assignLoop] at h ⊢
      split_ifs at h ⊢ with hknown
      · exact ih h
      · rcases hfree : freeStableSlot mapping p with - | l
        · rw [hfree] at h
          exact ih h
        · rw [hfree] at h
          cases (ih h).1

section Packets

variable {V : Type*} [PyObject V] [PyUnicode]

theorem tidy_assignAll {mapping : Dict PyStr Slot} (h : Tidy mapping) (payload : Dict PyStr V) :
    Tidy (assignAll mapping (serialsFromPayload payload)).1 := by
  refine assignLoop_induction h ?_
  intro m p serial l hmem hm _ hfree
  have hreported : serialsFromPayload payload p = some serial := mem_reported.mp hmem
  obtain ⟨hne, hclean⟩ :=
    cleanSerialText_of_plausible (plausible_of_serialsFromPayload hreported)
  exact hm.insert hne hclean hfree

/-! ### Steps -/

/-- Slots that a map gives stay. -/
def Extends (maps maps' : PositionMaps) : Prop :=
  ∀ d s p, slotOf maps d s = some p → slotOf maps' d s = some p

/-- The same slots, up to devices with an empty map. -/
def SameSlots (maps maps' : PositionMaps) : Prop := ∀ d s, slotOf maps d s = slotOf maps' d s

/-- What a packet can do to the client and the file. -/
inductive PacketStep (readOk : Bool) (w : BatteryWorld) : BatteryWorld → Prop
  | idle : PacketStep readOk w w
  /-- The map is there, read or remembered, and keeps its slots. -/
  | loaded {maps maps'} : positionMaps w readOk = some maps → SameSlots maps maps' →
      PacketStep readOk w ⟨⟨some maps', w.client.dirty⟩, w.file⟩
  /-- The map grew, or was waiting, and was saved. -/
  | saved {maps maps'} : positionMaps w readOk = some maps → Extends maps maps' →
      (AllTidy maps → AllTidy maps') →
      PacketStep readOk w ⟨⟨some maps', false⟩, saveAllPositions maps'⟩
  /-- The same, but the save failed. -/
  | unsaved {maps maps'} : positionMaps w readOk = some maps → Extends maps maps' →
      (AllTidy maps → AllTidy maps') →
      PacketStep readOk w ⟨⟨some maps', true⟩, w.file⟩

omit [PyUnicode] in
theorem sameSlots_insert (maps : PositionMaps) (deviceId : PyStr) :
    SameSlots maps (maps.insert deviceId ((maps.get? deviceId).getD ∅)) := by
  intro d s
  rw [slotOf_insert]
  split_ifs with he
  · rw [slotOf, he]
  · rfl

theorem extends_insert_assignAll (maps : PositionMaps) (deviceId : PyStr) (payload : Dict PyStr V) :
    Extends maps (maps.insert deviceId
      (assignAll ((maps.get? deviceId).getD ∅) (serialsFromPayload payload)).1) := by
  intro d s p h
  rw [slotOf_insert]
  split_ifs with he
  · subst he
    exact get?_assignAll h
  · exact h

theorem allTidy_insert_assignAll {maps : PositionMaps} (h : AllTidy maps) (deviceId : PyStr)
    (payload : Dict PyStr V) : AllTidy (maps.insert deviceId
      (assignAll ((maps.get? deviceId).getD ∅) (serialsFromPayload payload)).1) := by
  intro d
  rw [Dict.get?_insert]
  split_ifs
  · exact tidy_assignAll (h deviceId) payload
  · exact h d

/-- Every packet is one of these steps. -/
theorem packetStep_stabilizeLocked (w : BatteryWorld) (deviceId : PyStr) (payload : Dict PyStr V)
    (manual : ManualAssignments) (useStableAuto : Bool) (io : IoOutcome) :
    PacketStep io.readOk w
      (stabilizeLocked w deviceId payload manual useStableAuto io).1 := by
  unfold stabilizeLocked
  rcases hmaps : positionMaps w io.readOk with - | maps
  · dsimp only
    split_ifs <;> exact PacketStep.idle
  · dsimp only
    split_ifs with hnothing huse
    · exact PacketStep.loaded hmaps fun _ _ => rfl
    · have hextends := extends_insert_assignAll maps deviceId payload
      have htidy : AllTidy maps → AllTidy _ :=
        fun h => allTidy_insert_assignAll h deviceId payload
      unfold savePositions
      dsimp only
      split_ifs with hsave hok
      · exact PacketStep.saved hmaps hextends htidy
      · exact PacketStep.unsaved hmaps hextends htidy
      · -- nothing was assigned
        rw [Bool.or_eq_true, not_or, Bool.not_eq_true] at hsave
        have hsame := (assignLoop_unchanged hsave.1).2
        refine PacketStep.loaded hmaps ?_
        rw [assignAll, hsame]
        exact sameSlots_insert maps deviceId
    · exact PacketStep.loaded hmaps (sameSlots_insert maps deviceId)

theorem packetStep_prepare (w : BatteryWorld) (deviceId : PyStr) (payload : Dict PyStr V)
    (manual : ManualAssignments) (useStableAuto : Bool) (io : IoOutcome) :
    PacketStep io.readOk w
      (prepareBatteryPayload w deviceId payload manual useStableAuto io).1 := by
  unfold prepareBatteryPayload
  split_ifs
  · exact PacketStep.idle
  · exact packetStep_stabilizeLocked w deviceId payload manual useStableAuto io

/-! ### Runs -/

/-- What happens to a process: a packet, or a restart.  A process that ends inside a
packet has made its save or not: that is the packet with this outcome, and a restart. -/
inductive BatteryAction (V : Type*)
  | prepare (deviceId : PyStr) (payload : Dict PyStr V) (manual : ManualAssignments)
      (useStableAuto : Bool) (io : IoOutcome)
  | stabilize (deviceId : PyStr) (payload : Dict PyStr V) (manual : ManualAssignments)
      (useStableAuto : Bool) (io : IoOutcome)
  | restart

/-- A new process with a file. -/
def BatteryWorld.start (file : PositionFile) : BatteryWorld := ⟨⟨none, false⟩, file⟩

def batteryStep (w : BatteryWorld) : BatteryAction V → BatteryWorld
  | .prepare deviceId payload manual useStableAuto io =>
      (prepareBatteryPayload w deviceId payload manual useStableAuto io).1
  | .stabilize deviceId payload manual useStableAuto io =>
      (stabilizeLocked w deviceId payload manual useStableAuto io).1
  | .restart => .start w.file

omit [PyObject V] [PyUnicode] in
def BatteryAction.isRestart : BatteryAction V → Bool
  | .restart => true
  | _ => false

/-- A file that this action reads cannot be read. -/
def BatteryAction.readFails : BatteryAction V → Bool
  | .prepare _ _ _ _ io => !io.readOk
  | .stabilize _ _ _ _ io => !io.readOk
  | .restart => true

/-- A step is a packet or a restart. -/
theorem batteryStep_cases (w : BatteryWorld) (a : BatteryAction V) :
    (a.isRestart = true ∧ batteryStep w a = .start w.file) ∨
      ∃ readOk, (a.readFails = true → readOk = false) ∧ a.isRestart = false ∧
        PacketStep readOk w (batteryStep w a) := by
  cases a with
  | prepare deviceId payload manual use io =>
      refine Or.inr ⟨io.readOk, fun h => ?_, rfl,
        packetStep_prepare w deviceId payload manual use io⟩
      exact Bool.not_eq_true' _ ▸ h
  | stabilize deviceId payload manual use io =>
      refine Or.inr ⟨io.readOk, fun h => ?_, rfl,
        packetStep_stabilizeLocked w deviceId payload manual use io⟩
      exact Bool.not_eq_true' _ ▸ h
  | restart => exact Or.inl ⟨rfl, rfl⟩

/-- The client and the file fit together. -/
structure Consistent (w : BatteryWorld) : Prop where
  file : AllTidy (loadAllPositions w.file)
  /-- Nothing waits to be saved before the map is there. -/
  fresh : w.client.positions = none → w.client.dirty = false
  tidy : ∀ maps, w.client.positions = some maps → AllTidy maps
  covers : ∀ maps, w.client.positions = some maps → Extends (loadAllPositions w.file) maps
  reload : ∀ maps, w.client.positions = some maps → w.client.dirty = false →
    SameSlots (loadAllPositions w.file) maps

omit [PyUnicode] in
theorem AllTidy.congr {maps maps' : PositionMaps} (h : AllTidy maps) (hs : SameSlots maps maps') :
    AllTidy maps' := fun d => (h d).congr (hs d)

omit [PyUnicode] in
theorem SameSlots.extends {maps maps' : PositionMaps} (h : SameSlots maps maps') :
    Extends maps maps' := fun d s _ hp => (h d s).symm.trans hp

omit [PyUnicode] in
theorem Extends.trans {m m' m'' : PositionMaps} (h : Extends m m') (h' : Extends m' m'') :
    Extends m m'' := fun d s p hp => h' d s p (h d s p hp)

theorem consistent_start {file : PositionFile} (h : AllTidy (loadAllPositions file)) :
    Consistent (.start file) where
  file := h
  fresh _ := rfl
  tidy _ hm := nomatch hm
  covers _ hm := nomatch hm
  reload _ hm := nomatch hm

theorem consistent_loaded {maps : PositionMaps} {dirty : Bool} {file : PositionFile}
    (hfile : AllTidy (loadAllPositions file)) (htidy : AllTidy maps)
    (hcovers : Extends (loadAllPositions file) maps)
    (hreload : dirty = false → SameSlots (loadAllPositions file) maps) :
    Consistent ⟨⟨some maps, dirty⟩, file⟩ where
  file := hfile
  fresh := nofun
  tidy _ hm := Option.some.inj hm ▸ htidy
  covers _ hm := Option.some.inj hm ▸ hcovers
  reload _ hm := Option.some.inj hm ▸ hreload

/-- The map that a packet works on fits the file, whether it was read now or before. -/
theorem Consistent.positionMaps {w : BatteryWorld} (h : Consistent w) {readOk : Bool}
    {maps : PositionMaps} (hm : positionMaps w readOk = some maps) :
    AllTidy maps ∧ Extends (loadAllPositions w.file) maps ∧
      (w.client.dirty = false → SameSlots (loadAllPositions w.file) maps) := by
  unfold GroBro.positionMaps at hm
  rcases hp : w.client.positions with - | positions
  · rw [hp] at hm
    dsimp only at hm
    split_ifs at hm
    obtain rfl := Option.some.inj hm
    exact ⟨h.file, fun _ _ _ hs => hs, fun _ _ _ => rfl⟩
  · rw [hp] at hm
    obtain rfl := Option.some.inj hm
    exact ⟨h.tidy _ hp, h.covers _ hp, h.reload _ hp⟩

theorem Consistent.packetStep {w w' : BatteryWorld} (h : Consistent w) {readOk : Bool}
    (hstep : PacketStep readOk w w') : Consistent w' := by
  cases hstep with
  | idle => exact h
  | loaded hmaps hsame =>
      obtain ⟨htidy, hcovers, hreload⟩ := h.positionMaps hmaps
      refine consistent_loaded h.file (htidy.congr hsame) (hcovers.trans hsame.extends) ?_
      intro hclean d s
      exact (hreload hclean d s).trans (hsame d s)
  | saved hmaps hextends hgrows =>
      obtain ⟨htidy, -, -⟩ := h.positionMaps hmaps
      -- what is on disk now is what is in memory
      have hloaded : SameSlots (loadAllPositions (saveAllPositions _)) _ :=
        slotOf_load_save (hgrows htidy)
      exact consistent_loaded ((hgrows htidy).congr fun d s => (hloaded d s).symm) (hgrows htidy)
        hloaded.extends fun _ => hloaded
  | unsaved hmaps hextends hgrows =>
      obtain ⟨htidy, hcovers, -⟩ := h.positionMaps hmaps
      exact consistent_loaded h.file (hgrows htidy) (hcovers.trans hextends) nofun

theorem Consistent.step {w : BatteryWorld} (h : Consistent w) (a : BatteryAction V) :
    Consistent (batteryStep w a) := by
  rcases batteryStep_cases w a with ⟨-, he⟩ | ⟨readOk, -, -, hstep⟩
  · rw [he]
    exact consistent_start h.file
  · exact h.packetStep hstep

/-- A packet loses nothing that the file holds. -/
theorem Consistent.file_extends {w w' : BatteryWorld} (h : Consistent w) {readOk : Bool}
    (hstep : PacketStep readOk w w') :
    Extends (loadAllPositions w.file) (loadAllPositions w'.file) := by
  cases hstep with
  | idle => exact fun _ _ _ hs => hs
  | loaded => exact fun _ _ _ hs => hs
  | saved hmaps hextends hgrows =>
      obtain ⟨htidy, hcovers, -⟩ := h.positionMaps hmaps
      intro d s p hs
      rw [slotOf_load_save (hgrows htidy)]
      exact hextends d s p (hcovers d s p hs)
  | unsaved => exact fun _ _ _ hs => hs

/-- Nor anything that the process has assigned. -/
theorem PacketStep.extends {w w' : BatteryWorld} {readOk : Bool} (hstep : PacketStep readOk w w')
    {maps : PositionMaps} (hm : w.client.positions = some maps) :
    ∃ maps', w'.client.positions = some maps' ∧ Extends maps maps' := by
  have hmaps : positionMaps w readOk = some maps := by rw [positionMaps, hm]
  cases hstep with
  | idle => exact ⟨maps, hm, fun _ _ _ hs => hs⟩
  | loaded hmaps' hsame =>
      obtain rfl := Option.some.inj (hmaps.symm.trans hmaps')
      exact ⟨_, rfl, hsame.extends⟩
  | saved hmaps' hextends =>
      obtain rfl := Option.some.inj (hmaps.symm.trans hmaps')
      exact ⟨_, rfl, hextends⟩
  | unsaved hmaps' hextends =>
      obtain rfl := Option.some.inj (hmaps.symm.trans hmaps')
      exact ⟨_, rfl, hextends⟩

/-- A packet whose read fails changes nothing. -/
theorem PacketStep.unread {w w' : BatteryWorld} (hstep : PacketStep false w w')
    (hm : w.client.positions = none) : w' = w := by
  have hmaps : positionMaps w false = none := by rw [positionMaps, hm]; rfl
  cases hstep with
  | idle => rfl
  | loaded h => cases hmaps.symm.trans h
  | saved h => cases hmaps.symm.trans h
  | unsaved h => cases hmaps.symm.trans h

/-- The automatic map is stable in a state of a run, whatever comes later. -/
structure StableMap (V : Type*) [PyObject V] (w : BatteryWorld) : Prop where
  /-- No slot of a device is given to two serials. -/
  injective : ∀ maps, w.client.positions = some maps → ∀ d s s' p,
    slotOf maps d s = some p → slotOf maps d s' = some p → s = s'
  /-- Only the slots 2 to 4 are given. -/
  tracked : ∀ maps, w.client.positions = some maps → ∀ d s p,
    slotOf maps d s = some p → p.value = 2 ∨ p.value = 3 ∨ p.value = 4
  /-- Until the process ends, an assigned serial keeps its slot. -/
  kept : ∀ as : List (BatteryAction V), (∀ a ∈ as, a.isRestart = false) →
    ∀ maps, w.client.positions = some maps →
      ∃ maps', (run batteryStep w as).client.positions = some maps' ∧ Extends maps maps'
  /-- What the file holds survives every later save and restart, in the file and in
  every process that has read it. -/
  survives : ∀ as : List (BatteryAction V),
    Extends (loadAllPositions w.file) (loadAllPositions (run batteryStep w as).file) ∧
      ∀ maps, (run batteryStep w as).client.positions = some maps →
        Extends (loadAllPositions w.file) maps
  /-- While nothing waits to be saved, reading the file gives the same map. -/
  reload : ∀ maps, w.client.positions = some maps → w.client.dirty = false →
    SameSlots (loadAllPositions w.file) maps
  /-- As long as the file cannot be read it is not written. -/
  unread : w.client.positions = none → ∀ as : List (BatteryAction V),
    (∀ a ∈ as, a.readFails = true) → (run batteryStep w as).file = w.file

theorem Consistent.run {w : BatteryWorld} (h : Consistent w) (as : List (BatteryAction V)) :
    Consistent (run batteryStep w as) :=
  run_invariant h fun _ a _ ht => ht.step a

theorem Consistent.run_file_extends {w : BatteryWorld} (h : Consistent w)
    (as : List (BatteryAction V)) :
    Extends (loadAllPositions w.file) (loadAllPositions (Machine.run batteryStep w as).file) := by
  refine run_le (R := fun w w' : BatteryWorld => Extends (loadAllPositions w.file) (loadAllPositions w'.file))
    (fun _ _ _ _ hs => hs) (fun _ _ _ => Extends.trans) h (fun _ a _ ht => ht.step a) ?_
  intro t a _ ht
  rcases batteryStep_cases t a with ⟨-, he⟩ | ⟨readOk, -, -, hstep⟩
  · rw [he]
    exact fun _ _ _ hs => hs
  · exact ht.file_extends hstep

theorem run_extends {w : BatteryWorld} {as : List (BatteryAction V)}
    (has : ∀ a ∈ as, a.isRestart = false) {maps : PositionMaps}
    (hm : w.client.positions = some maps) :
    ∃ maps', (run batteryStep w as).client.positions = some maps' ∧ Extends maps maps' := by
  refine run_invariant (I := fun w : BatteryWorld => ∃ maps', w.client.positions = some maps' ∧
    Extends maps maps') ⟨maps, hm, fun _ _ _ hs => hs⟩ ?_
  rintro t a ha ⟨maps', hm', hextends⟩
  rcases batteryStep_cases t a with ⟨hrestart, -⟩ | ⟨readOk, -, -, hstep⟩
  · rw [has a ha] at hrestart
    cases hrestart
  · obtain ⟨maps'', hm'', hextends'⟩ := hstep.extends hm'
    exact ⟨maps'', hm'', hextends.trans hextends'⟩

theorem run_unread {w : BatteryWorld} (hm : w.client.positions = none)
    {as : List (BatteryAction V)} (has : ∀ a ∈ as, a.readFails = true) :
    (run batteryStep w as).file = w.file := by
  have hrun : (run batteryStep w as).client.positions = none ∧
      (run batteryStep w as).file = w.file := by
    refine run_invariant (I := fun t : BatteryWorld => t.client.positions = none ∧ t.file = w.file)
      ⟨hm, rfl⟩ ?_
    rintro t a ha ⟨hnone, hfile⟩
    rcases batteryStep_cases t a with ⟨-, he⟩ | ⟨readOk, hfails, -, hstep⟩
    · rw [he]
      exact ⟨rfl, hfile⟩
    -- no map is there, and the read of this step fails as well
    · obtain rfl := hfails (has a ha)
      rw [hstep.unread hnone]
      exact ⟨hnone, hfile⟩
  exact hrun.2

/-- **The automatic map is stable over whole runs**: from any file without NUL
characters in its serials, in every state that packets and restarts lead to,
whatever the outcome of each read and each save. -/
theorem battery_map_stable (file : PositionFile) (hfile : file.NulFree)
    (as : List (BatteryAction V)) : StableMap V (run batteryStep (.start file) as) := by
  have h : Consistent (run batteryStep (.start file) as) :=
    (consistent_start (allTidy_loadAllPositions hfile)).run as
  refine ⟨?_, ?_, ?_, ?_, h.reload, fun hm _ => run_unread hm⟩
  · intro maps hm d
    exact (h.tidy maps hm d).injective
  · intro _ _ _ _ p _
    cases p <;> decide
  · intro bs hbs maps hm
    exact run_extends hbs hm
  · intro bs
    have hextends := h.run_file_extends bs
    exact ⟨hextends, fun maps hm => hextends.trans ((h.run bs).covers maps hm)⟩

end Packets

/-- A file with one battery. -/
def oneBatteryFile : PositionFile :=
  .json (.obj [("0PVPH0ZR00000001".toList, .obj [("BATTERY-A".toList, .int 3)])])

theorem oneBatteryFile_nulFree : oneBatteryFile.NulFree := by
  intro deviceId pairs hdevice entry hentry
  rw [List.mem_singleton, Prod.mk.injEq, Json.obj.injEq] at hdevice
  obtain ⟨-, rfl⟩ := hdevice
  obtain rfl := List.mem_singleton.mp hentry
  decide

/-- The battery of the file in a process that has just replaced another. -/
theorem battery_map_stable_oneBattery :
    letI := PyUnicode.asciiOnly
    StableMap PyStr (run batteryStep (.start oneBatteryFile)
      [.stabilize "0PVPH0ZR00000001".toList (∅ : Dict PyStr PyStr) noAssignments true ⟨true, true⟩,
        .restart]) :=
  letI := PyUnicode.asciiOnly
  battery_map_stable oneBatteryFile oneBatteryFile_nulFree _

end GroBro
