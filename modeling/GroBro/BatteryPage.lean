/-
GroBro/BatteryPage.lean

What the battery page shows, `load_battery_ui_state` of `grobro/ha/battery_position.py`: for every
device of the three files its detected batteries, its automatic slots and its manual choices.
The page posts the choices back, changed or not.

The page shows the choices by which packets are placed, and after a save it shows what was saved
and the other devices as before; to save what is shown changes nothing.  The detected batteries
are those of the last packet that could be recorded.  What the page cannot read it shows as
empty (`battery_page_exact`).
-/
import GroBro.ManualChoices
import GroBro.SerialFragments

namespace GroBro

open OrderedDict Machine

/-! ### Detected batteries -/

/-- `str` of the JSON values that are no text, number or constant. -/
class JsonRepr where
  repr : Json → PyStr

def Json.strOf [JsonRepr] : Json → PyStr
  | .null => "None".toList
  | .bool b => (if b then "True" else "False").toList
  | .int n => (toString n).toList
  | .str s => s
  | value => JsonRepr.repr value

instance [JsonRepr] : PyObject Json where
  isNone
    | .null => true
    | _ => false
  str := Json.strOf

section Detected

variable [JsonRepr] [PyUnicode]

/-- The loop over the entries of one device. -/
def cleanDetected (seen : List PyStr) : List Json → List (Slot × PyStr)
  | [] => []
  | .obj pairs :: rest =>
      let entry := Dict.ofList pairs
      let serial := cleanSerialPart (entry.get? "serial".toList)
      match ((entry.get? "physical_slot".toList).bind Json.toInt).bind Slot.ofInt? with
      | none => cleanDetected seen rest
      | some physicalSlot =>
          if isPlausibleSerial serial ∧ serial ∉ seen then
            (physicalSlot, serial) :: cleanDetected (serial :: seen) rest
          else cleanDetected seen rest
  | _ :: rest => cleanDetected seen rest

/-- What the loader takes for a device. -/
def loadDetectedDevice : Json → Option (List (Slot × PyStr))
  | .arr entries =>
      let cleanEntries := cleanDetected [] entries
      if cleanEntries = [] then none else some cleanEntries
  | _ => none

/-- `_load_detected_serials`, of a JSON file. -/
def loadDetectedSerials : PositionFile → Dict PyStr (List (Slot × PyStr))
  | .json (.obj pairs) => (Dict.ofList pairs).filterMap loadDetectedDevice
  | _ => ∅

end Detected

/-- The entries of a packet, as they are written. -/
def savedDetected : DetectedEntries → Json
  | .recorded entries => .arr (entries.map fun e =>
      .obj [("physical_slot".toList, .int e.1.value), ("serial".toList, .str e.2)])
  | .restored value => value

/-- `_save_json_atomic(updated, _DETECTED_FILE)` -/
def saveDetectedSerials (cache : Dict PyStr DetectedEntries) : PositionFile :=
  .json (.obj ((sortKeys cache.entries).map fun device => (device.1, savedDetected device.2)))

/-- `_battery_detected_serials` with `battery_detected.json`. -/
structure DetectedStore where
  cache : DetectedSerials
  file : PositionFile

/-- What the file has for the devices. -/
def restoredDetected : PositionFile → Dict PyStr DetectedEntries
  | .json (.obj pairs) => (Dict.ofList pairs).map .restored
  | _ => ∅

section Store

variable (restoredEq : Json → List (Slot × PyStr) → Bool)

/-- Whether a packet leads to a write that succeeds. -/
def writesDetected (detected : DetectedSerials) (file : Option (Dict PyStr DetectedEntries))
    (saveOk : Bool) (deviceId : PyStr) (serials : Slot → Option PyStr) : Bool :=
  saveOk && reported serials ≠ [] && (detected.or file).any fun cache =>
    !(cache.get? deviceId).any (DetectedEntries.same restoredEq (reported serials))

/-- `_record_detected_serials`, with the file. -/
def DetectedStore.observe (s : DetectedStore) (deviceId : PyStr) (serials : Slot → Option PyStr)
    (readOk saveOk : Bool) : DetectedStore :=
  let file := if readOk then some (restoredDetected s.file) else none
  let cache := recordDetectedSerials restoredEq s.cache file saveOk deviceId serials
  { cache
    file :=
      if writesDetected restoredEq s.cache file saveOk deviceId serials then
        saveDetectedSerials (cache.getD ∅)
      else s.file }

end Store

/-! ### The page -/

structure PageDevice where
  deviceId : PyStr
  detected : List (Slot × PyStr)
  /-- By `str(slot)`. -/
  automatic : Dict PyStr PyStr
  manual : Dict PyStr PyStr

structure BatteryPage where
  keepBatteryPosition : Bool
  devices : List PageDevice

section Page

variable {V : Type*} [JsonObject V] [JsonRepr] [PyUnicode] [PyLower]

def automaticBySlot (mapping : Dict PyStr Slot) : Dict PyStr PyStr :=
  .ofList (mapping.entries.map fun e => ([e.2.digit], e.1))

def manualBySlot (assignments : ManualAssignments) : Dict PyStr PyStr :=
  .ofList (trackedSlots.map fun slot =>
    ([slot.digit], (assignments slot).getD autoAssignment))

/-- `sorted(set(automatic) | set(manual) | set(detected))` -/
def pageDeviceIds (automatic : PositionMaps) (manual : Dict PyStr ManualAssignments)
    (detected : Dict PyStr (List (Slot × PyStr))) : List PyStr :=
  (automatic.keys ++ manual.keys ++ detected.keys).dedup.insertionSort (· ≤ ·)

/-- `load_battery_ui_state`, of the environment and the files.  A file that cannot be read counts
as one that is not there. -/
def loadBatteryUiState (keepBatteryPosition : Option PyStr) (automaticFile : PositionFile)
    (manualFile : ManualFile V) (detectedFile : PositionFile) : BatteryPage :=
  let automatic := loadAllPositions automaticFile
  let manual := loadManualPositions manualFile
  let detected := loadDetectedSerials detectedFile
  { keepBatteryPosition :=
      decide (lower (keepBatteryPosition.getD "False".toList) = "true".toList)
    devices := (pageDeviceIds automatic manual detected).map fun deviceId =>
      { deviceId
        detected := (detected.get? deviceId).getD []
        automatic := automaticBySlot ((automatic.get? deviceId).getD ∅)
        manual := manualBySlot ((manual.get? deviceId).getD noAssignments) } }

end Page

/-! ### What is detected -/

/-- The entries without those whose serial an earlier one has. -/
def firstBySerial (seen : List PyStr) : List (Slot × PyStr) → List (Slot × PyStr)
  | [] => []
  | (slot, serial) :: rest =>
      if serial ∈ seen then firstBySerial seen rest
      else (slot, serial) :: firstBySerial (serial :: seen) rest

section DetectedAgain

variable [JsonRepr] [PyUnicode]

/-- What was written of a packet is read again, every serial once. -/
theorem cleanDetected_recorded {entries : List (Slot × PyStr)}
    (h : ∀ e ∈ entries, isPlausibleSerial e.2 = true) (seen : List PyStr) :
    cleanDetected seen (entries.map fun e =>
      .obj [("physical_slot".toList, .int e.1.value), ("serial".toList, .str e.2)]) =
        firstBySerial seen entries := by
  induction entries generalizing seen with
  | nil => rfl
  | cons e entries ih =>
      obtain ⟨slot, serial⟩ := e
      have hserial : isPlausibleSerial serial = true := h (slot, serial) List.mem_cons_self
      replace ih := fun seen => ih (fun e he => h e (List.mem_cons_of_mem _ he)) seen
      have hslot : (((Dict.ofList [("physical_slot".toList, Json.int slot.value),
          ("serial".toList, .str serial)]).get? "physical_slot".toList).bind Json.toInt).bind
            Slot.ofInt? = some slot := by
        cases slot <;> rfl
      have hclean : serial ≠ [] ∧ cleanSerialText serial = serial :=
        cleanSerialText_of_plausible hserial
      have htext : cleanSerialPart ((Dict.ofList [("physical_slot".toList, Json.int slot.value),
          ("serial".toList, .str serial)]).get? "serial".toList) = serial := hclean.2
      rw [List.map_cons, cleanDetected, firstBySerial]
      dsimp only
      rw [hslot, htext]
      dsimp only
      by_cases hseen : serial ∈ seen
      · rw [if_neg fun hnew => hnew.2 hseen, if_pos hseen, ih]
      · rw [if_pos ⟨hserial, hseen⟩, if_neg hseen, ih]

theorem get?_loadDetectedSerials_save (cache : Dict PyStr DetectedEntries) (d : PyStr) :
    (loadDetectedSerials (saveDetectedSerials cache)).get? d =
      (cache.get? d).bind fun entries => loadDetectedDevice (savedDetected entries) := by
  have hperm := sortKeys_perm cache.entries
  have hkeys : (((sortKeys cache.entries).map fun device =>
      (device.1, savedDetected device.2)).map Prod.fst).Nodup := by
    rw [List.map_map]
    exact (hperm.map Prod.fst).nodup_iff.mpr cache.nodup
  rw [saveDetectedSerials, loadDetectedSerials, Dict.get?_filterMap, Dict.get?,
    Dict.entries_ofList hkeys, lookup_map savedDetected, lookup_perm cache.nodup hperm]
  show ((cache.get? d).map _).bind _ = _
  rw [Option.bind_map]
  rfl

theorem get?_restoredDetected (file : PositionFile) (d : PyStr) :
    (loadDetectedSerials file).get? d =
      ((restoredDetected file).get? d).bind fun entries =>
        loadDetectedDevice (savedDetected entries) := by
  cases file with
  | json value =>
      cases value with
      | obj pairs =>
          rw [loadDetectedSerials, restoredDetected, Dict.get?_filterMap, Dict.get?_map,
            Option.bind_map]
          rfl
      | _ => rfl
  | _ => rfl

/-- What is shown of the batteries that a packet reports. -/
def shownSerials (serials : Slot → Option PyStr) : List (Slot × PyStr) :=
  firstBySerial [] (reported serials)

theorem loadDetectedDevice_recorded {serials : Slot → Option PyStr}
    (hserials : ∀ slot serial, serials slot = some serial → isPlausibleSerial serial = true)
    (hreported : reported serials ≠ []) :
    loadDetectedDevice (savedDetected (.recorded (reported serials))) =
      some (shownSerials serials) := by
  have hall : ∀ e ∈ reported serials, isPlausibleSerial e.2 = true :=
    fun e he => hserials e.1 e.2 (mem_reported.mp he)
  have hne : shownSerials serials ≠ [] := by
    rw [shownSerials]
    rcases hentries : reported serials with - | ⟨⟨slot, serial⟩, entries⟩
    · exact absurd hentries hreported
    · rw [firstBySerial, if_neg List.not_mem_nil]
      exact List.cons_ne_nil _ _
  rw [savedDetected, loadDetectedDevice, cleanDetected_recorded hall]
  exact if_neg hne

end DetectedAgain

/-! ### The history of detected batteries -/

section History

variable [JsonRepr] [PyUnicode] {restoredEq : Json → List (Slot × PyStr) → Bool}

/-- Values that are equal are shown alike. -/
def RestoredEqual (restoredEq : Json → List (Slot × PyStr) → Bool) : Prop :=
  ∀ value entries, restoredEq value entries = true →
    loadDetectedDevice value = loadDetectedDevice (savedDetected (.recorded entries))

namespace DetectedStore

/-- What the page shows of a device. -/
def shown (s : DetectedStore) (d : PyStr) : Option (List (Slot × PyStr)) :=
  (loadDetectedSerials s.file).get? d

/-- What is remembered is what the file shows. -/
def Sound (s : DetectedStore) : Prop :=
  ∀ cache, s.cache = some cache → ∀ d,
    s.shown d = (cache.get? d).bind fun entries => loadDetectedDevice (savedDetected entries)

/-- What is looked at, in memory or in the file. -/
theorem Sound.before {s : DetectedStore} (h : s.Sound) {readOk : Bool}
    {cache : Dict PyStr DetectedEntries}
    (hcache : s.cache.or (if readOk then some (restoredDetected s.file) else none) = some cache)
    (d : PyStr) : s.shown d =
      (cache.get? d).bind fun entries => loadDetectedDevice (savedDetected entries) := by
  rcases hs : s.cache with - | remembered
  · rw [hs, Option.none_or] at hcache
    split_ifs at hcache with hread
    · rw [← Option.some.inj hcache]
      exact get?_restoredDetected s.file d
  · rw [hs, Option.some_or] at hcache
    exact h cache (hs.trans hcache) d

/-- What a packet makes of what is shown. -/
structure Observed (s s' : DetectedStore) (deviceId : PyStr) (serials : Slot → Option PyStr)
    (readOk saveOk : Bool) : Prop where
  sound : s'.Sound
  others : ∀ d, d ≠ deviceId → s'.shown d = s.shown d
  idle : reported serials = [] → s' = s
  loaded : reported serials ≠ [] → s'.cache.isSome = (s.cache.isSome || readOk)
  recorded : reported serials ≠ [] → (s.cache.isSome || readOk) = true → saveOk = true →
    s'.shown deviceId = loadDetectedDevice (savedDetected (.recorded (reported serials)))
  deferred : ((s.cache.isSome || readOk) && saveOk) = false →
    s'.shown deviceId = s.shown deviceId

omit [JsonRepr] [PyUnicode] in
/-- A packet leaves everything, has the file read, or is written. -/
theorem observe_cases (restoredEq : Json → List (Slot × PyStr) → Bool) (s : DetectedStore)
    (deviceId : PyStr) (serials : Slot → Option PyStr) (readOk saveOk : Bool) :
    (s.observe restoredEq deviceId serials readOk saveOk = s ∧
      (reported serials ≠ [] → s.cache = none ∧ readOk = false)) ∨
    ∃ cache, s.cache.or (if readOk then some (restoredDetected s.file) else none) = some cache ∧
      reported serials ≠ [] ∧
      ((s.observe restoredEq deviceId serials readOk saveOk = ⟨some cache, s.file⟩ ∧
        (saveOk = true → (cache.get? deviceId).any
          (DetectedEntries.same restoredEq (reported serials)) = true)) ∨
      saveOk = true ∧ s.observe restoredEq deviceId serials readOk saveOk =
        ⟨some (cache.insert deviceId (.recorded (reported serials))),
          saveDetectedSerials (cache.insert deviceId (.recorded (reported serials)))⟩) := by
  by_cases hreported : reported serials = []
  · left
    refine ⟨?_, fun hne => absurd hreported hne⟩
    simp [DetectedStore.observe, writesDetected, recordDetectedSerials, hreported]
  rcases hcache : s.cache.or (if readOk then some (restoredDetected s.file) else none) with
    - | cache
  · left
    obtain ⟨hnone, hfile⟩ := Option.or_eq_none_iff.mp hcache
    refine ⟨?_, fun _ => ⟨hnone, Bool.eq_false_iff.mpr fun hread => ?_⟩⟩
    · simp [DetectedStore.observe, writesDetected, recordDetectedSerials, hreported, hcache]
    · rw [if_pos hread] at hfile
      exact absurd hfile (Option.some_ne_none _)
  · right
    refine ⟨cache, rfl, hreported, ?_⟩
    rcases hequal : (cache.get? deviceId).any
      (DetectedEntries.same restoredEq (reported serials)) with - | -
    · cases saveOk with
      | false =>
          left
          refine ⟨?_, fun hsave => absurd hsave Bool.false_ne_true⟩
          simp [DetectedStore.observe, writesDetected, recordDetectedSerials, hreported, hcache,
            hequal]
      | true =>
          right
          refine ⟨rfl, ?_⟩
          simp [DetectedStore.observe, writesDetected, recordDetectedSerials, hreported, hcache,
            hequal]
    · left
      refine ⟨?_, fun _ => rfl⟩
      simp [DetectedStore.observe, writesDetected, recordDetectedSerials, hreported, hcache, hequal]

/-- What is the same is shown alike. -/
theorem loadDetectedDevice_same (heq : RestoredEqual restoredEq)
    {cache : Dict PyStr DetectedEntries} {deviceId : PyStr} {entries : List (Slot × PyStr)}
    (h : (cache.get? deviceId).any (DetectedEntries.same restoredEq entries) = true) :
    ((cache.get? deviceId).bind fun entries => loadDetectedDevice (savedDetected entries)) =
      loadDetectedDevice (savedDetected (.recorded entries)) := by
  rcases hget : cache.get? deviceId with - | ⟨entries'⟩ | value
  · rw [hget] at h
    cases h
  · rw [hget, Option.any_some] at h
    rw [Option.bind_some, of_decide_eq_true h]
  · rw [hget, Option.any_some] at h
    exact heq value entries h

omit [JsonRepr] [PyUnicode] in
/-- There is a cache to look at if the file was read before or can be read now. -/
theorem isSome_before {s : DetectedStore} {readOk : Bool} {cache : Dict PyStr DetectedEntries}
    (hcache : s.cache.or (if readOk then some (restoredDetected s.file) else none) = some cache) :
    (s.cache.isSome || readOk) = true := by
  cases readOk with
  | true => exact Bool.or_true _
  | false =>
      rw [if_neg Bool.false_ne_true, Option.or_none] at hcache
      rw [hcache]
      rfl

theorem Sound.observe {s : DetectedStore} (h : s.Sound) (heq : RestoredEqual restoredEq)
    (deviceId : PyStr) (serials : Slot → Option PyStr) (readOk saveOk : Bool) :
    Observed s (s.observe restoredEq deviceId serials readOk saveOk) deviceId serials readOk
      saveOk := by
  rcases observe_cases restoredEq s deviceId serials readOk saveOk with
    ⟨hsame, hunread⟩ | ⟨cache, hcache, hreported, ⟨hsame, hsave⟩ | ⟨hsave, hwritten⟩⟩
  · rw [hsame]
    have hloaded : reported serials ≠ [] → (s.cache.isSome || readOk) = false := by
      intro hreported
      obtain ⟨hnone, hread⟩ := hunread hreported
      rw [hnone, hread]
      rfl
    refine ⟨h, fun _ _ => rfl, fun _ => rfl, fun hreported => ?_, fun hreported hread => ?_,
      fun _ => rfl⟩
    · rw [hloaded hreported, (hunread hreported).1]
      rfl
    · exact absurd ((hloaded hreported).symm.trans hread) Bool.false_ne_true
  · have hshown := h.before hcache
    rw [hsame]
    refine ⟨?_, fun _ _ => rfl, fun hidle => absurd hidle hreported,
      fun _ => (isSome_before hcache).symm, fun _ _ hsaveOk => ?_, fun _ => rfl⟩
    · intro cache' hcache' d
      rw [← Option.some.inj hcache']
      exact hshown d
    · exact (hshown deviceId).trans (loadDetectedDevice_same heq (hsave hsaveOk))
  · have hshown := h.before hcache
    let updated := cache.insert deviceId (.recorded (reported serials))
    have hafter : ∀ d, (DetectedStore.mk (some updated) (saveDetectedSerials updated)).shown d =
        if deviceId = d then loadDetectedDevice (savedDetected (.recorded (reported serials)))
        else s.shown d := by
      intro d
      rw [shown, get?_loadDetectedSerials_save, Dict.get?_insert]
      split_ifs with hd
      · rfl
      · exact (hshown d).symm
    rw [hwritten]
    refine ⟨?_, fun d hd => ?_, fun hidle => absurd hidle hreported,
      fun _ => (isSome_before hcache).symm, fun _ _ _ => ?_, fun hdeferred => ?_⟩
    · intro cache' hcache' d
      rw [← Option.some.inj hcache']
      exact get?_loadDetectedSerials_save _ d
    · rw [hafter, if_neg hd.symm]
    · rw [hafter, if_pos rfl]
    · rw [isSome_before hcache, hsave] at hdeferred
      exact Bool.noConfusion hdeferred

end DetectedStore

end History

/-! ### What is shown -/

section Shown

variable {V W σ : Type*} [JsonObject V] [PyObject W] [JsonRepr] [PyUnicode] [PyLower]
  [DecidableEq σ]

/-- The choice for a slot as the page shows it. -/
def shownChoice (choices : PyStr → Option ManualAssignments) (deviceId : PyStr) (slot : Slot) :
    PyStr := ((choices deviceId).getD noAssignments slot).getD autoAssignment

omit [JsonObject V] [PyObject W] [JsonRepr] [PyUnicode] [PyLower] [DecidableEq σ] in
theorem get?_manualBySlot (assignments : ManualAssignments) (slot : Slot) :
    (manualBySlot assignments).get? [slot.digit] =
      some ((assignments slot).getD autoAssignment) := by
  cases slot <;> rfl

omit [JsonObject V] [PyObject W] [JsonRepr] [PyUnicode] [PyLower] [DecidableEq σ] in
theorem get?_automaticBySlot {mapping : Dict PyStr Slot} (h : Tidy mapping) (slot : Slot)
    (serial : PyStr) :
    (automaticBySlot mapping).get? [slot.digit] = some serial ↔
      mapping.get? serial = some slot := by
  have hdigit : ∀ a b : Slot, [a.digit] = [b.digit] → a = b := by
    intro a b hab
    cases a <;> cases b <;> first | rfl | cases hab
  constructor
  · intro hget
    have hmem := Dict.mem_of_mem_ofList ((Dict.mem_entries _).mpr hget)
    obtain ⟨⟨s, l⟩, he, hpair⟩ := List.mem_map.mp hmem
    obtain ⟨hslot, rfl⟩ := Prod.mk.inj hpair
    rw [← hdigit l slot hslot]
    exact mapping.mem_entries.mp he
  · intro hget
    have hmem : ([slot.digit], serial) ∈ mapping.entries.map fun e => ([e.2.digit], e.1) :=
      List.mem_map.mpr ⟨(serial, slot), mapping.mem_entries.mpr hget, rfl⟩
    refine Dict.get?_foldl_insert_of_mem _ hmem fun serial' hmem' => ?_
    obtain ⟨⟨s, l⟩, he, hpair⟩ := List.mem_map.mp hmem'
    obtain ⟨hslot, rfl⟩ := Prod.mk.inj hpair
    obtain rfl := hdigit l slot hslot
    exact h.injective s serial l (mapping.mem_entries.mp he) hget

omit [JsonObject V] [PyObject W] [JsonRepr] [PyUnicode] [PyLower] [DecidableEq σ] in
/-- The devices of the page are in ascending order, every one once. -/
theorem sorted_pageDeviceIds (automatic : PositionMaps) (manual : Dict PyStr ManualAssignments)
    (detected : Dict PyStr (List (Slot × PyStr))) :
    (pageDeviceIds automatic manual detected).Pairwise (· < ·) := by
  have hsorted := List.pairwise_insertionSort (r := (· ≤ · : PyStr → PyStr → Prop))
    (automatic.keys ++ manual.keys ++ detected.keys).dedup
  have hnodup : (pageDeviceIds automatic manual detected).Nodup :=
    (List.perm_insertionSort _ _).nodup_iff.mpr (List.nodup_dedup _)
  exact (hsorted.and hnodup).imp fun h => lt_of_le_of_ne h.1 h.2

omit [JsonObject V] [PyObject W] [JsonRepr] [PyUnicode] [PyLower] [DecidableEq σ] in
theorem mem_pageDeviceIds {automatic : PositionMaps} {manual : Dict PyStr ManualAssignments}
    {detected : Dict PyStr (List (Slot × PyStr))} {d : PyStr} :
    d ∈ pageDeviceIds automatic manual detected ↔
      (∃ m, automatic.get? d = some m) ∨ (∃ m, manual.get? d = some m) ∨
        ∃ l, detected.get? d = some l := by
  rw [pageDeviceIds, List.mem_insertionSort, List.mem_dedup, List.mem_append, List.mem_append,
    Dict.mem_keys_iff, Dict.mem_keys_iff, Dict.mem_keys_iff, or_assoc]

omit [PyObject W] [JsonRepr] [PyLower] [DecidableEq σ] in
/-- A save shows what was posted for its device, and the others as before. -/
theorem shownChoice_saved {request : AssignmentRequest V} {deviceId : PyStr}
    {clean : ManualAssignments} (hcheck : request.check = .ok (deviceId, clean))
    (choices : PyStr → Option ManualAssignments) (signature : σ) (d : PyStr) (slot : Slot) :
    shownChoice (chooseStep choices (.save request (some signature) : BatteryEvent V W σ)) d slot =
      if d = deviceId then assignedText (request.assignments.map PyObject.str) slot
      else shownChoice choices d slot := by
  have hclean : ∀ slot, clean slot =
      some (assignedText (request.assignments.map PyObject.str) slot) :=
    loadManualAssignments_eq (check_eq_ok hcheck).2.2
  simp only [chooseStep, hcheck]
  rw [shownChoice, Function.update_apply]
  split_ifs with hd hauto
  · have hslot := of_decide_eq_true (List.all_eq_true.mp hauto slot (mem_trackedSlots slot))
    rw [Option.getD_none]
    exact Option.some.inj (hslot.symm.trans (hclean slot))
  · rw [Option.getD_some, hclean, Option.getD_some]
  · rfl

omit [JsonObject V] [PyObject W] [JsonRepr] [PyLower] [DecidableEq σ] in
/-- No assignments are assignments that leave every slot alone. -/
theorem loadManualAssignments_empty :
    loadManualAssignments ∅ = some fun _ => some autoAssignment :=
  congrArg some (funext fun slot => by cases slot <;> rfl)

omit [PyObject W] [JsonRepr] [PyLower] [DecidableEq σ] in
/-- What is shown of accepted choices is accepted, as they are. -/
theorem check_manualBySlot {positions : Dict PyStr ManualAssignments} (h : AllAccepted positions)
    {d : PyStr} (hd : d ≠ []) (hstrip : strip d = d) :
    ∃ clean, (AssignmentRequest.mk d ((manualBySlot ((positions.get? d).getD noAssignments)).map
        JsonObject.text) : AssignmentRequest V).check = .ok (d, clean) ∧
      ∀ slot, clean slot = some (shownChoice positions.get? d slot) := by
  have hgiven : ∃ assignments manual, loadManualAssignments assignments = some manual ∧
      ∀ slot, shownChoice positions.get? d slot = assignedText assignments slot := by
    rcases hget : positions.get? d with - | manual
    · refine ⟨∅, _, loadManualAssignments_empty, fun slot => ?_⟩
      rw [shownChoice, hget]
      rfl
    · obtain ⟨assignments, hload⟩ := h d manual hget
      refine ⟨assignments, manual, hload, fun slot => ?_⟩
      rw [shownChoice, hget, Option.getD_some, loadManualAssignments_eq hload, Option.getD_some]
  obtain ⟨assignments, manual, hload, hshown⟩ := hgiven
  let posted : Dict PyStr V :=
    (manualBySlot ((positions.get? d).getD noAssignments)).map JsonObject.text
  have htext : ∀ slot, assignedText (posted.map PyObject.str) slot =
      assignedText assignments slot := by
    intro slot
    rw [assignedText, Dict.get?_map, Dict.get?_map, get?_manualBySlot, Option.map_some,
      Option.map_some, JsonObject.str_text, Option.getD_some]
    show strip (shownChoice positions.get? d slot) = _
    rw [hshown, assignedText, strip_strip]
  have hposted : loadManualAssignments (posted.map PyObject.str) = some manual :=
    (cleanAssignments_congr htext _ _ _).trans hload
  refine ⟨manual, ?_, fun slot => ?_⟩
  · rw [AssignmentRequest.check]
    dsimp only
    rw [if_neg (by rwa [hstrip]), hposted, hstrip]
  · rw [loadManualAssignments_eq hload, hshown]

end Shown

/-! ### Runs -/

/-- The automatic map, the manual choices and the detected batteries. -/
structure PageProcess (V σ : Type*) where
  battery : BatteryProcess V σ
  detected : DetectedStore

/-- An event, with the outcomes for the file of detected batteries. -/
structure PageEvent (V W σ : Type*) where
  event : BatteryEvent V W σ
  readOk : Bool
  saveOk : Bool

section Runs

variable {V W σ : Type*} [JsonObject V] [PyObject W] [JsonRepr] [PyUnicode] [DecidableEq σ]
  (restoredEq : Json → List (Slot × PyStr) → Bool)

def PageProcess.start (positions : PositionFile) (file : ManualFile V) (signature : Option σ)
    (detected : PositionFile) : PageProcess V σ := ⟨.start positions file signature, none, detected⟩

def DetectedStore.step (s : DetectedStore) (a : PageEvent V W σ) : DetectedStore :=
  match a.event with
  | .packet deviceId payload _ _ _ _ =>
      s.observe restoredEq deviceId (serialsFromPayload payload) a.readOk a.saveOk
  | .save _ _ => s
  | .restart => ⟨none, s.file⟩

/-- `prepare_battery_payload`, `save_manual_assignments` and a new process. -/
def pageStep (s : PageProcess V σ) (a : PageEvent V W σ) : PageProcess V σ :=
  ⟨processStep s.battery a.event, s.detected.step restoredEq a⟩

/-- What is to be shown: whether this process has read the file, and of every device the batteries
of its last packet that reported some and could be recorded. -/
structure DetectedHistory where
  loaded : Bool
  last : PyStr → Option (List (Slot × PyStr))

/-- A packet can be recorded if the file was read, before or now, and can be written. -/
def DetectedHistory.step (h : DetectedHistory) (a : PageEvent V W σ) : DetectedHistory :=
  match a.event with
  | .packet deviceId payload _ _ _ _ =>
      let serials := serialsFromPayload payload
      let loaded := h.loaded || a.readOk
      if reported serials = [] then h
      else if loaded && a.saveOk then
        ⟨loaded, Function.update h.last deviceId (some (shownSerials serials))⟩
      else ⟨loaded, h.last⟩
  | .save _ _ => h
  | .restart => ⟨false, h.last⟩

/-- The batteries of the last packets that could be recorded, on top of those of the file. -/
def lastDetected (detected : PositionFile) (as : List (PageEvent V W σ)) :
    PyStr → Option (List (Slot × PyStr)) :=
  (run DetectedHistory.step ⟨false, fun d => (loadDetectedSerials detected).get? d⟩ as).last

/-- What is shown is the history. -/
structure DetectedStore.Shows (s : DetectedStore) (h : DetectedHistory) : Prop where
  sound : s.Sound
  loaded : s.cache.isSome = h.loaded
  last : ∀ d, s.shown d = h.last d

variable {restoredEq}

omit [JsonObject V] [DecidableEq σ] in
/-- An event shows what its packet reports if that can be recorded, or leaves what is shown. -/
theorem DetectedStore.Shows.step (heq : RestoredEqual restoredEq) {s : DetectedStore}
    {h : DetectedHistory} (hs : s.Shows h) (a : PageEvent V W σ) :
    (s.step restoredEq a).Shows (h.step a) := by
  obtain ⟨event, readOk, saveOk⟩ := a
  cases event with
  | packet deviceId payload useStableAuto statOk fileOk io =>
      have hobserved := hs.sound.observe heq deviceId (serialsFromPayload payload) readOk saveOk
      have hserials : ∀ slot serial, serialsFromPayload payload slot = some serial →
          isPlausibleSerial serial = true := fun _ _ => plausible_of_serialsFromPayload
      rw [DetectedStore.step, DetectedHistory.step]
      dsimp only
      by_cases hreported : reported (serialsFromPayload payload) = []
      · rw [if_pos hreported, hobserved.idle hreported]
        exact hs
      rw [if_neg hreported, ← hs.loaded]
      have hloaded := hobserved.loaded hreported
      by_cases hwritable : ((s.cache.isSome || readOk) && saveOk) = true
      · obtain ⟨hread, hsave⟩ := Bool.and_eq_true_iff.mp hwritable
        have hrecorded := hobserved.recorded hreported hread hsave
        rw [loadDetectedDevice_recorded hserials hreported] at hrecorded
        rw [if_pos hwritable]
        refine ⟨hobserved.sound, hloaded, fun d => ?_⟩
        dsimp only
        rw [Function.update_apply]
        split_ifs with hd
        · rw [hd, hrecorded]
        · rw [hobserved.others d hd, hs.last]
      · have hkept := hobserved.deferred (Bool.eq_false_iff.mpr hwritable)
        rw [if_neg hwritable]
        refine ⟨hobserved.sound, hloaded, fun d => ?_⟩
        by_cases hd : d = deviceId
        · rw [hd, hkept, hs.last]
        · rw [hobserved.others d hd, hs.last]
  | save request outcome => exact hs
  | restart =>
      refine ⟨fun cache hcache => ?_, rfl, hs.last⟩
      cases hcache

omit [JsonObject V] [DecidableEq σ] in
/-- **What is shown is of the last packet that could be recorded.** -/
theorem shown_run (heq : RestoredEqual restoredEq) (detected : PositionFile)
    (as : List (PageEvent V W σ)) (d : PyStr) :
    (run (DetectedStore.step restoredEq) ⟨none, detected⟩ as).shown d =
      lastDetected detected as d := by
  have hstart : (DetectedStore.mk none detected).Shows
      ⟨false, fun d => (loadDetectedSerials detected).get? d⟩ := by
    refine ⟨fun cache hcache => ?_, rfl, fun _ => rfl⟩
    cases hcache
  exact (run_simulates (R := DetectedStore.Shows) hstart
    fun s h a hs => hs.step heq a).last d

omit [JsonRepr] in
theorem consistent_processStep {s : BatteryProcess V σ} (h : Consistent s.world)
    (event : BatteryEvent V W σ) : Consistent (processStep s event).world := by
  cases event with
  | packet deviceId payload useStableAuto statOk readOk io =>
      exact h.step (.prepare deviceId payload
        (((manualPositions s.manual statOk readOk).2.get? deviceId).getD noAssignments)
        useStableAuto io)
  | save request outcome =>
      have hworld : (s.save request outcome).world = s.world := by
        unfold BatteryProcess.save
        split <;> rfl
      exact hworld.symm ▸ h
  | restart => exact consistent_start h.file

omit [JsonRepr] in
theorem consistent_run {s : BatteryProcess V σ} (h : Consistent s.world)
    (events : List (BatteryEvent V W σ)) : Consistent (run processStep s events).world :=
  run_invariant (I := fun t : BatteryProcess V σ => Consistent t.world) h
    fun _ event _ ht => consistent_processStep ht event

omit [JsonRepr] in
theorem battery_run (s : PageProcess V σ) (as : List (PageEvent V W σ)) :
    (run (pageStep restoredEq) s as).battery =
      run processStep s.battery (as.map PageEvent.event) := by
  induction as using List.reverseRecOn with
  | nil => rfl
  | append_singleton as a ih =>
      rw [run_concat, List.map_append, run_append, ← ih]
      rfl

omit [JsonRepr] in
theorem detected_run (s : PageProcess V σ) (as : List (PageEvent V W σ)) :
    (run (pageStep restoredEq) s as).detected =
      run (DetectedStore.step restoredEq) s.detected as :=
  run_simulates (R := fun (s : PageProcess V σ) (t : DetectedStore) => s.detected = t) rfl
    fun _ _ _ h => congrArg (DetectedStore.step restoredEq · _) h

end Runs

section Exact

variable {V W σ : Type*} [JsonObject V] [PyObject W] [JsonRepr] [PyUnicode] [PyLower]
  [DecidableEq σ] {restoredEq : Json → List (Slot × PyStr) → Bool}

/-- Which of its files the page can read. -/
structure PageReads where
  automatic : Bool
  manual : Bool
  detected : Bool

/-- The page as it is shown now. -/
def PageProcess.page (s : PageProcess V σ) (keepBatteryPosition : Option PyStr)
    (reads : PageReads) : BatteryPage :=
  loadBatteryUiState keepBatteryPosition
    (if reads.automatic then s.battery.world.file else .absent)
    (if reads.manual then s.battery.manual.content else .absent)
    (if reads.detected then s.detected.file else .absent)

/-- What the page posts if nothing was changed. -/
def PageDevice.unchanged (device : PageDevice) : AssignmentRequest V :=
  ⟨device.deviceId, device.manual.map JsonObject.text⟩

/-- What is known of the choices, as far as it can be read. -/
def readChoice (reads : PageReads) (choices : PyStr → Option ManualAssignments) (deviceId : PyStr)
    (slot : Slot) : PyStr :=
  if reads.manual then shownChoice choices deviceId slot else autoAssignment

/-- Some file that can be read has something for a device. -/
def IsListed (file : ManualFile V) (detected : PositionFile) (as : List (PageEvent V W σ))
    (s : PageProcess V σ) (reads : PageReads) (d : PyStr) : Prop :=
  (reads.automatic = true ∧ ∃ m, (loadAllPositions s.battery.world.file).get? d = some m) ∨
    (reads.manual = true ∧ ∃ m, chosen file (as.map PageEvent.event) d = some m) ∨
    reads.detected = true ∧ ∃ l, lastDetected detected as d = some l

/-- The page after the events `as`. -/
structure ShownOnPage (file : ManualFile V) (detected : PositionFile)
    (as : List (PageEvent V W σ)) (s : PageProcess V σ) (reads : PageReads)
    (page : BatteryPage) : Prop where
  /-- Every device is there once, in ascending order, -/
  sorted : (page.devices.map PageDevice.deviceId).Pairwise (· < ·)
  /-- which are those of the three files. -/
  listed : ∀ d, (∃ device ∈ page.devices, device.deviceId = d) ↔
    IsListed file detected as s reads d
  manual : ∀ device ∈ page.devices, ∀ slot, device.manual.get? [slot.digit] =
    some (readChoice reads (chosen file (as.map PageEvent.event)) device.deviceId slot)
  automatic : ∀ device ∈ page.devices, ∀ slot serial,
    device.automatic.get? [slot.digit] = some serial ↔ reads.automatic = true ∧
      slotOf (loadAllPositions s.battery.world.file) device.deviceId serial = some slot
  /-- The detected batteries are those of the last packet that could be recorded. -/
  detected : ∀ device ∈ page.devices, device.detected =
    if reads.detected then (lastDetected detected as device.deviceId).getD [] else []

variable {positions : PositionFile} {file : ManualFile V} {signature : Option σ}
  {detected : PositionFile} {as : List (PageEvent V W σ)} {keepBatteryPosition : Option PyStr}
  {reads : PageReads}

omit [JsonRepr] [PyLower] in
/-- The file of the choices, if it can be read. -/
theorem get?_loadManualPositions_run (d : PyStr) :
    (loadManualPositions (if reads.manual then
      (run (pageStep restoredEq) (.start positions file signature detected)
        as).battery.manual.content else .absent)).get? d =
      if reads.manual then chosen file (as.map PageEvent.event) d else none := by
  split_ifs
  · rw [battery_run]
    exact loadManualPositions_run positions file signature (as.map PageEvent.event) d
  · rfl

/-- The choices that the page shows are those that were saved last. -/
theorem manual_page {device : PageDevice}
    (h : device ∈ ((run (pageStep restoredEq) (.start positions file signature detected)
      as).page keepBatteryPosition reads).devices) (slot : Slot) :
    device.manual.get? [slot.digit] = some
      (readChoice reads (chosen file (as.map PageEvent.event)) device.deviceId slot) := by
  obtain ⟨d, -, rfl⟩ := List.mem_map.mp h
  rw [get?_manualBySlot, get?_loadManualPositions_run, readChoice]
  split_ifs <;> rfl

omit [PyLower] in
/-- The file of the detected batteries, if it can be read. -/
theorem get?_loadDetectedSerials_run (heq : RestoredEqual restoredEq) (d : PyStr) :
    (loadDetectedSerials (if reads.detected then
      (run (pageStep restoredEq) (.start positions file signature detected)
        as).detected.file else .absent)).get? d =
      if reads.detected then lastDetected detected as d else none := by
  split_ifs
  · show (run (pageStep restoredEq) (.start positions file signature detected)
      as).detected.shown d = _
    rw [detected_run]
    exact shown_run heq detected as d
  · rfl

theorem shownOnPage_run (hfile : positions.NulFree) (heq : RestoredEqual restoredEq) :
    ShownOnPage file detected as
      (run (pageStep restoredEq) (.start positions file signature detected) as) reads
      ((run (pageStep restoredEq) (.start positions file signature detected) as).page
        keepBatteryPosition reads) := by
  let s : PageProcess V σ := run (pageStep restoredEq) (.start positions file signature detected) as
  let automatic := loadAllPositions (if reads.automatic then s.battery.world.file else .absent)
  let manual := loadManualPositions (if reads.manual then s.battery.manual.content else .absent)
  let found := loadDetectedSerials (if reads.detected then s.detected.file else .absent)
  have hworld : Consistent s.battery.world := by
    show Consistent (run (pageStep restoredEq) _ as).battery.world
    rw [battery_run]
    exact consistent_run (consistent_start (allTidy_loadAllPositions hfile)) _
  have hautomatic : ∀ d, automatic.get? d =
      if reads.automatic then (loadAllPositions s.battery.world.file).get? d else none := by
    intro d
    show (loadAllPositions (if reads.automatic then _ else _)).get? d = _
    split_ifs <;> rfl
  have hmanual : ∀ d, manual.get? d =
      if reads.manual then chosen file (as.map PageEvent.event) d else none :=
    get?_loadManualPositions_run
  have hfound : ∀ d, found.get? d = if reads.detected then lastDetected detected as d else none :=
    get?_loadDetectedSerials_run heq
  have hids : (s.page keepBatteryPosition reads).devices.map PageDevice.deviceId =
      pageDeviceIds automatic manual found := by
    rw [PageProcess.page, loadBatteryUiState, List.map_map]
    exact List.map_id _
  refine ⟨?_, fun d => ?_, fun device hdevice => manual_page hdevice, ?_, ?_⟩
  · rw [hids]
    exact sorted_pageDeviceIds _ _ _
  · have hmem : d ∈ pageDeviceIds automatic manual found ↔ IsListed file detected as s reads d := by
      rw [mem_pageDeviceIds, hautomatic, hmanual, hfound, IsListed]
      simp only [Option.ite_none_right_eq_some, exists_and_left]
    rw [← hmem, ← hids, List.mem_map]
  · intro device hdevice slot serial
    obtain ⟨d, -, rfl⟩ := List.mem_map.mp hdevice
    have htidy := hworld.file d
    show (automaticBySlot ((automatic.get? d).getD ∅)).get? [slot.digit] = some serial ↔
      reads.automatic = true ∧
        slotOf (loadAllPositions s.battery.world.file) d serial = some slot
    rw [hautomatic]
    cases reads.automatic with
    | true =>
        exact (get?_automaticBySlot htidy slot serial).trans
          ⟨fun hslot => ⟨rfl, hslot⟩, fun hslot => hslot.2⟩
    | false =>
        constructor
        · intro hslot
          cases hslot
        · rintro ⟨hread, -⟩
          cases hread
  · intro device hdevice
    obtain ⟨d, -, rfl⟩ := List.mem_map.mp hdevice
    show (found.get? d).getD [] = _
    rw [hfound]
    split_ifs <;> rfl

/-- The page after assignments were saved: they are shown, and the other devices as before. -/
theorem manual_page_saved {request : AssignmentRequest V} {deviceId : PyStr}
    {clean : ManualAssignments} (hcheck : request.check = .ok (deviceId, clean)) (signature' : σ)
    (readOk saveOk : Bool) {device : PageDevice}
    (h : device ∈ ((run (pageStep restoredEq) (.start positions file signature detected)
      (as ++ [⟨.save request (some signature'), readOk, saveOk⟩])).page
        keepBatteryPosition reads).devices) (hread : reads.manual = true) (slot : Slot) :
    device.manual.get? [slot.digit] = some
      (if device.deviceId = deviceId then assignedText (request.assignments.map PyObject.str) slot
        else shownChoice (chosen file (as.map PageEvent.event)) device.deviceId slot) := by
  rw [manual_page h, readChoice, if_pos hread, List.map_append, chosen, run_append]
  exact congrArg some (shownChoice_saved (W := W) hcheck _ signature' device.deviceId slot)

/-- What is shown is accepted, as it is. -/
theorem check_unchanged {device : PageDevice}
    (h : device ∈ ((run (pageStep restoredEq) (.start positions file signature detected)
      as).page keepBatteryPosition reads).devices) (hne : device.deviceId ≠ [])
    (hstrip : strip device.deviceId = device.deviceId) :
    ∃ clean, (device.unchanged : AssignmentRequest V).check = .ok (device.deviceId, clean) ∧
      ∀ slot, clean slot = some
        (readChoice reads (chosen file (as.map PageEvent.event)) device.deviceId slot) := by
  have hshown := manual_page h
  obtain ⟨d, -, rfl⟩ := List.mem_map.mp h
  obtain ⟨clean, hcheck, hclean⟩ := check_manualBySlot (V := V)
    (allAccepted_loadManualPositions (V := V) _) hne hstrip
  refine ⟨clean, hcheck, fun slot => ?_⟩
  rw [hclean, ← hshown slot]
  exact (get?_manualBySlot _ slot).symm

/-- **The battery page**, over all runs of packets, saves and restarts, whatever of its files it
can read. -/
theorem battery_page_exact (positions : PositionFile) (hfile : positions.NulFree)
    (file : ManualFile V) (signature : Option σ) (detected : PositionFile)
    (heq : RestoredEqual restoredEq) (as : List (PageEvent V W σ))
    (keepBatteryPosition : Option PyStr) (reads : PageReads) :
    let after : List (PageEvent V W σ) → PageProcess V σ :=
      run (pageStep restoredEq) (.start positions file signature detected)
    let shown := shownChoice (chosen file (as.map PageEvent.event))
    ShownOnPage file detected as (after as) reads ((after as).page keepBatteryPosition reads) ∧
      -- after a save its device has what was posted, and the others what they had
      (∀ (request : AssignmentRequest V) (deviceId : PyStr) (clean : ManualAssignments)
        (signature' : σ) (readOk saveOk : Bool), request.check = .ok (deviceId, clean) →
        reads.manual = true →
        ∀ device ∈ ((after (as ++ [⟨.save request (some signature'), readOk, saveOk⟩])).page
          keepBatteryPosition reads).devices, ∀ slot, device.manual.get? [slot.digit] = some
            (if device.deviceId = deviceId then
              assignedText (request.assignments.map PyObject.str) slot
            else shown device.deviceId slot)) ∧
      -- what is shown is accepted, and to save it changes nothing if the choices could be read
      ∀ device ∈ ((after as).page keepBatteryPosition reads).devices, device.deviceId ≠ [] →
        strip device.deviceId = device.deviceId →
        (∃ clean, (device.unchanged : AssignmentRequest V).check = .ok (device.deviceId, clean)) ∧
          (reads.manual = true → ∀ (signature' : σ) (readOk saveOk : Bool), ∀ device' ∈
            ((after (as ++ [⟨.save device.unchanged (some signature'), readOk, saveOk⟩])).page
              keepBatteryPosition reads).devices,
            ∀ slot, device'.manual.get? [slot.digit] = some (shown device'.deviceId slot)) := by
  refine ⟨shownOnPage_run hfile heq, ?_, fun device hdevice hne hstrip => ?_⟩
  · intro request deviceId clean signature' readOk saveOk hcheck hread device hdevice slot
    exact manual_page_saved hcheck signature' readOk saveOk hdevice hread slot
  · obtain ⟨clean, hcheck, hclean⟩ := check_unchanged hdevice hne hstrip
    refine ⟨⟨clean, hcheck⟩, fun hread signature' readOk saveOk device' hdevice' slot => ?_⟩
    rw [manual_page_saved hcheck signature' readOk saveOk hdevice' hread slot]
    split_ifs with hsame
    · have hposted := loadManualAssignments_eq (check_eq_ok hcheck).2.2 slot
      rw [← hposted, hclean, hsame, readChoice, if_pos hread]
    · rfl

end Exact

/-- Whether entries of the file are those that would be written. -/
def sameAsWritten : List Json → List (Slot × PyStr) → Bool
  | [], [] => true
  | .obj [(slotKey, .int n), (textKey, .str s)] :: items, (slot, serial) :: entries =>
      slotKey = "physical_slot".toList && n = slot.value && textKey = "serial".toList &&
        s = serial && sameAsWritten items entries
  | _, _ => false

theorem eq_of_sameAsWritten {items : List Json} {entries : List (Slot × PyStr)}
    (h : sameAsWritten items entries = true) : .arr items = savedDetected (.recorded entries) := by
  rw [savedDetected, Json.arr.injEq]
  fun_induction sameAsWritten items entries with
  | case1 => rfl
  | case2 slotKey n textKey s items slot serial entries ih =>
      simp only [Bool.and_eq_true, decide_eq_true_eq] at h
      obtain ⟨⟨⟨⟨rfl, rfl⟩, rfl⟩, rfl⟩, hitems⟩ := h
      rw [List.map_cons, ← ih hitems]
  | case3 => cases h

/-- `cache.get(device_id) == entries`, of a file that was written. -/
def writtenEq : Json → List (Slot × PyStr) → Bool
  | .arr items, entries => sameAsWritten items entries
  | _, _ => false

/-- A third battery is reported, and another one is chosen for slot 2. -/
theorem battery_page_exact_chosen :
    letI := PyUnicode.asciiOnly
    letI := PyLower.asciiOnly
    letI : JsonRepr := ⟨fun _ => []⟩
    let as : List (PageEvent PyStr PyStr ℕ) :=
      [⟨.packet ['A'] thirdBattery true true true ⟨true, true⟩, true, true⟩,
        ⟨.save chooseBattery (some 1), true, true⟩]
    let s := run (pageStep writtenEq) (.start .absent .absent none .absent) as
    ShownOnPage .absent .absent as s ⟨true, true, true⟩ (s.page none ⟨true, true, true⟩) :=
  letI := PyUnicode.asciiOnly
  letI := PyLower.asciiOnly
  letI : JsonRepr := ⟨fun _ => []⟩
  have heq : RestoredEqual writtenEq := by
    intro value entries h
    cases value with
    | arr items => rw [eq_of_sameAsWritten h]
    | _ => cases h
  (battery_page_exact .absent trivial .absent none .absent heq _ none _).1

end GroBro
