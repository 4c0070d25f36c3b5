/-
GroBro/BatteryAssignments.lean

`save_manual_assignments` of `grobro/ha/battery_position.py`: the manual choices of one device
are checked and merged into the file of all devices, under a lock.

The file is JSON, of which two levels of objects are looked at; the values in them are only
looked at through `str`.  `_save_json_atomic` writes a temporary file and then replaces the
old file by it, so that a write either fails and leaves the file or replaces all of it.

A file is written from what the loader accepted of the old one, and is loaded as it was
written (`loadManualPositions_save`).  So a save changes what is loaded for its device only
(`savesEntry`), but drops the entries that the loader rejects
(`not_entriesKept_shortSerial`).
-/
import GroBro.BatteryStability
import GroBro.LockedUpdate

namespace GroBro

open OrderedDict Machine LockedUpdate

/-! ### The file -/

/-- JSON values, of which a text is one. -/
class JsonObject (V : Type*) extends PyObject V where
  text : PyStr → V
  str_text (s : PyStr) : str (text s) = s

instance : JsonObject PyStr where
  text s := s
  str_text _ := rfl

/-- What the file has for a device: a dict, or anything else. -/
inductive ManualEntry (V : Type*) where
  | dict (assignments : Dict PyStr V)
  | other (value : V)

/-- `battery_manual_positions.json`: missing, unreadable as JSON, no dict, or a dict. -/
inductive ManualFile (V : Type*) where
  | absent
  | malformed
  | other (value : V)
  | devices (entries : Dict PyStr (ManualEntry V))

def ManualFile.entryOf {V : Type*} (file : ManualFile V) (deviceId : PyStr) :
    Option (ManualEntry V) :=
  match file with
  | devices entries => entries.get? deviceId
  | _ => none

section File

variable {V : Type*} [JsonObject V] [PyUnicode]

/-- The assignments of a device, if the loader accepts them. -/
def ManualEntry.load : ManualEntry V → Option ManualAssignments
  | dict assignments => loadManualAssignments (assignments.map PyObject.str)
  | other _ => none

/-- `_load_manual_positions`, when the file can be opened or is missing. -/
def loadManualPositions : ManualFile V → Dict PyStr ManualAssignments
  | .devices entries => entries.filterMap ManualEntry.load
  | _ => ∅

/-- `{str(slot): value for slot, value in assignments.items()}` -/
def savedAssignments (assignments : ManualAssignments) : Dict PyStr V :=
  .ofList (sortKeys (trackedSlots.filterMap fun slot =>
    (assignments slot).map fun value => ([slot.digit], JsonObject.text value)))

/-- What `_save_manual_positions` writes. -/
def saveManualPositions (positions : Dict PyStr ManualAssignments) : ManualFile V :=
  .devices (.ofList ((sortKeys positions.entries).map fun device =>
    (device.1, .dict (savedAssignments device.2))))

end File

/-! ### A save -/

/-- The arguments of `save_manual_assignments`. -/
structure AssignmentRequest (V : Type*) where
  deviceId : PyStr
  assignments : Dict PyStr V

/-- `ValueError` with its text, or `OSError`. -/
inductive AssignmentError where
  | valueError (message : String)
  | osError
  deriving DecidableEq

section Save

variable {V : Type*} [JsonObject V] [PyUnicode]

/-- The checks at the start of `_save_manual_assignments_locked`; the loop over the slots is
the loader's. -/
def AssignmentRequest.check (request : AssignmentRequest V) :
    Except AssignmentError (PyStr × ManualAssignments) :=
  let deviceId := strip request.deviceId
  if deviceId = [] then .error (.valueError "device_id is required")
  else match loadManualAssignments (request.assignments.map PyObject.str) with
    | none => .error (.valueError "invalid or duplicate battery serial")
    | some clean => .ok (deviceId, clean)

/-- `all(value == AUTO_ASSIGNMENT for value in clean.values())` -/
def isAuto (clean : ManualAssignments) : Bool :=
  trackedSlots.all fun slot => clean slot = some autoAssignment

/-- `all_manual` when it is saved. -/
def updatedPositions (allManual : Dict PyStr ManualAssignments) (deviceId : PyStr)
    (clean : ManualAssignments) : Dict PyStr ManualAssignments :=
  if isAuto clean then allManual.without (· = deviceId) else allManual.insert deviceId clean

/-- The file after assignments were saved for a device. -/
def savedFile (file : ManualFile V) (deviceId : PyStr) (clean : ManualAssignments) : ManualFile V :=
  saveManualPositions (updatedPositions (loadManualPositions file) deviceId clean)

/-- What `save_manual_assignments` makes of the file, if every access succeeds. -/
def applyRequest (file : ManualFile V) (request : AssignmentRequest V) : ManualFile V :=
  match request.check with
  | .error _ => file
  | .ok (deviceId, clean) => savedFile file deviceId clean

/-- The file, `_PERSISTENCE_LOCK` and the calls. -/
abbrev AssignmentStore (V : Type*) := State (ManualFile V) (AssignmentRequest V) AssignmentError

/-- A step of a call: it begins, takes the lock, checks its arguments and loads the file, and
saves it.  An access of the file may fail. -/
inductive AssignmentAction (V : Type*) where
  | call (i : ℕ) (request : AssignmentRequest V)
  | acquire (i : ℕ)
  | load (i : ℕ) (readOk : Bool)
  | save (i : ℕ) (saveOk : Bool)

/-- The steps of `save_manual_assignments`. -/
def assignmentStep (s : AssignmentStore V) : AssignmentAction V → AssignmentStore V
  | .call i request => s.call i request
  | .acquire i => s.acquire i
  | .load i readOk =>
      match s.stage i with
      | .locked request =>
          match request.check with
          | .error error => s.fail i error
          | .ok _ => if readOk then s.fetch i else s.fail i .osError
      | _ => s
  | .save i saveOk => s.write applyRequest i (if saveOk then .accepted else .rejected)

end Save

/-! ### The loop over the slots -/

section Loop

variable [PyUnicode]

/-- What the loop takes for a slot. -/
def assignedText (assignments : Dict PyStr PyStr) (slot : Slot) : PyStr :=
  strip ((assignments.get? [slot.digit]).getD autoAssignment)

theorem cleanAssignments_congr {assignments assignments' : Dict PyStr PyStr}
    (h : ∀ slot, assignedText assignments slot = assignedText assignments' slot)
    (serials : List PyStr) (clean : ManualAssignments) (slots : List Slot) :
    cleanAssignments assignments serials clean slots =
      cleanAssignments assignments' serials clean slots := by
  induction slots generalizing serials clean with
  | nil => rfl
  | cons slot slots ih =>
      have hslot := h slot
      unfold assignedText at hslot
      rw [cleanAssignments, cleanAssignments, hslot, ih, ih]

/-- The loop keeps the texts. -/
theorem cleanAssignments_eq {assignments : Dict PyStr PyStr} {serials : List PyStr}
    {clean manual : ManualAssignments} {slots : List Slot}
    (h : cleanAssignments assignments serials clean slots = some manual) (slot : Slot) :
    manual slot = if slot ∈ slots then some (assignedText assignments slot) else clean slot := by
  induction slots generalizing serials clean with
  | nil => rw [← Option.some.inj h, if_neg List.not_mem_nil]
  | cons slot' slots ih =>
      have hupdate : ∀ serials,
          cleanAssignments assignments serials
            (Function.update clean slot' (some (assignedText assignments slot'))) slots =
            some manual →
          manual slot = if slot ∈ slot' :: slots then some (assignedText assignments slot)
            else clean slot := by
        intro serials h
        rw [ih h]
        by_cases he : slot = slot'
        · obtain rfl := he
          simp
        · simp [he]
      rw [cleanAssignments] at h
      split_ifs at h
      · exact hupdate _ h
      · exact hupdate _ h

theorem loadManualAssignments_eq {assignments : Dict PyStr PyStr} {manual : ManualAssignments}
    (h : loadManualAssignments assignments = some manual) (slot : Slot) :
    manual slot = some (assignedText assignments slot) := by
  rw [cleanAssignments_eq h slot, if_pos (mem_trackedSlots slot)]

end Loop

/-! ### What is written is loaded again -/

theorem sortKeys_congr {α : Type*} {d e : Dict PyStr α} (h : ∀ k, d.get? k = e.get? k) :
    sortKeys d.entries = sortKeys e.entries := by
  have : Std.Total fun p q : PyStr × α => p.1 ≤ q.1 := ⟨fun p q => le_total p.1 q.1⟩
  have : IsTrans (PyStr × α) fun p q => p.1 ≤ q.1 := ⟨fun _ _ _ hpq hqr => le_trans hpq hqr⟩
  have hmem : ∀ p, p ∈ d.entries ↔ p ∈ e.entries := by
    rintro ⟨k, v⟩
    rw [d.mem_entries, e.mem_entries, h]
  have hperm : d.entries.Perm e.entries :=
    (List.perm_ext_iff_of_nodup (List.Nodup.of_map _ d.nodup)
      (List.Nodup.of_map _ e.nodup)).mpr hmem
  refine List.Perm.eq_of_pairwise ?_ (List.pairwise_insertionSort _ _)
    (List.pairwise_insertionSort _ _) ((sortKeys_perm _).trans (hperm.trans (sortKeys_perm _).symm))
  -- two entries of one dict with the same key are the same
  rintro ⟨k, v⟩ ⟨k', v'⟩ hd he hle hge
  obtain rfl : k = k' := le_antisymm hle hge
  have hv := d.mem_entries.mp ((sortKeys_perm _).mem_iff.mp hd)
  have hv' := e.mem_entries.mp ((sortKeys_perm _).mem_iff.mp he)
  rw [h, hv'] at hv
  rw [Option.some.inj hv]

section Saved

variable {V : Type*} [JsonObject V]

theorem get?_savedAssignments (assignments : ManualAssignments) (slot : Slot) :
    (savedAssignments assignments : Dict PyStr V).get? [slot.digit] =
      (assignments slot).map JsonObject.text := by
  let entries : List (PyStr × V) := trackedSlots.filterMap fun slot =>
    (assignments slot).map fun value => ([slot.digit], JsonObject.text value)
  have hnodup : (entries.map Prod.fst).Nodup := by
    rcases h2 : assignments .two with - | _ <;> rcases h3 : assignments .three with - | _ <;>
      rcases h4 : assignments .four with - | _ <;>
      simp [entries, trackedSlots, h2, h3, h4, Slot.digit]
  have hperm : (sortKeys entries).Perm entries := sortKeys_perm entries
  rw [savedAssignments, Dict.get?, Dict.entries_ofList ((hperm.map Prod.fst).nodup_iff.mpr hnodup),
    lookup_perm hnodup hperm]
  cases slot <;> rcases h2 : assignments .two with - | _ <;>
    rcases h3 : assignments .three with - | _ <;> rcases h4 : assignments .four with - | _ <;>
    simp [entries, trackedSlots, h2, h3, h4, Slot.digit, lookup]

theorem entryOf_saveManualPositions (positions : Dict PyStr ManualAssignments) (deviceId : PyStr) :
    (saveManualPositions positions : ManualFile V).entryOf deviceId =
      (positions.get? deviceId).map fun clean => .dict (savedAssignments clean) := by
  have hperm := sortKeys_perm positions.entries
  rw [saveManualPositions, ManualFile.entryOf, Dict.get?, Dict.entries_ofList,
    lookup_map fun clean => ManualEntry.dict (savedAssignments clean),
    lookup_perm positions.nodup hperm]
  · rfl
  · rw [List.map_map]
    exact (hperm.map Prod.fst).nodup_iff.mpr positions.nodup

theorem saveManualPositions_congr {positions positions' : Dict PyStr ManualAssignments}
    (h : ∀ d, positions.get? d = positions'.get? d) :
    (saveManualPositions positions : ManualFile V) = saveManualPositions positions' := by
  rw [saveManualPositions, saveManualPositions, sortKeys_congr h]

theorem get?_updatedPositions (allManual : Dict PyStr ManualAssignments) (deviceId : PyStr)
    (clean : ManualAssignments) (d : PyStr) :
    (updatedPositions allManual deviceId clean).get? d =
      if d = deviceId then (if isAuto clean then none else some clean) else allManual.get? d := by
  unfold updatedPositions
  split_ifs with hauto hd hd
  · rw [Dict.get?_without, if_pos (decide_eq_true hd)]
  · rw [Dict.get?_without, if_neg (by simpa using hd)]
  · rw [hd, Dict.get?_insert_self]
  · rw [Dict.get?_insert_of_ne _ (Ne.symm hd)]

variable [PyUnicode]

/-- Assignments that the loader accepts, it accepts as they are written. -/
theorem load_savedAssignments {assignments : Dict PyStr PyStr} {manual : ManualAssignments}
    (h : loadManualAssignments assignments = some manual) :
    (ManualEntry.dict (savedAssignments manual) : ManualEntry V).load = some manual := by
  rw [ManualEntry.load, ← h]
  apply cleanAssignments_congr
  intro slot
  rw [assignedText, Dict.get?_map, get?_savedAssignments, loadManualAssignments_eq h,
    Option.map_some, Option.map_some, JsonObject.str_text, Option.getD_some, assignedText, strip_strip]

theorem get?_loadManualPositions (file : ManualFile V) (d : PyStr) :
    (loadManualPositions file).get? d = (file.entryOf d).bind ManualEntry.load := by
  cases file with
  | devices entries => exact Dict.get?_filterMap _ _ _
  | _ => rfl

/-- The assignments of every device are as the loader leaves them. -/
def AllAccepted (positions : Dict PyStr ManualAssignments) : Prop :=
  ∀ d manual, positions.get? d = some manual →
    ∃ assignments, loadManualAssignments assignments = some manual

theorem allAccepted_loadManualPositions (file : ManualFile V) :
    AllAccepted (loadManualPositions file) := by
  intro d manual h
  rw [get?_loadManualPositions] at h
  obtain ⟨entry, -, hload⟩ := Option.bind_eq_some_iff.mp h
  cases entry with
  | dict assignments => exact ⟨assignments.map PyObject.str, hload⟩
  | other value => cases hload

theorem AllAccepted.update {allManual : Dict PyStr ManualAssignments} (h : AllAccepted allManual)
    {assignments : Dict PyStr PyStr} {clean : ManualAssignments}
    (hclean : loadManualAssignments assignments = some clean) (deviceId : PyStr) :
    AllAccepted (updatedPositions allManual deviceId clean) := by
  intro d manual hget
  rw [get?_updatedPositions] at hget
  split_ifs at hget
  · exact ⟨assignments, Option.some.inj hget ▸ hclean⟩
  · exact h d manual hget

/-- **What was loaded, or checked, is loaded again as it was saved.** -/
theorem loadManualPositions_save {positions : Dict PyStr ManualAssignments}
    (h : AllAccepted positions) (d : PyStr) :
    (loadManualPositions (saveManualPositions positions : ManualFile V)).get? d =
      positions.get? d := by
  rw [get?_loadManualPositions, entryOf_saveManualPositions]
  rcases hget : positions.get? d with - | manual
  · rfl
  · obtain ⟨assignments, hassignments⟩ := h d manual hget
    exact load_savedAssignments hassignments

/-! ### One save -/

theorem check_eq_ok {request : AssignmentRequest V} {deviceId : PyStr} {clean : ManualAssignments}
    (h : request.check = .ok (deviceId, clean)) :
    deviceId = strip request.deviceId ∧ deviceId ≠ [] ∧
      loadManualAssignments (request.assignments.map PyObject.str) = some clean := by
  unfold AssignmentRequest.check at h
  dsimp only at h
  split_ifs at h with hempty
  split at h
  · cases h
  next manual hload =>
    obtain ⟨rfl, rfl⟩ := Prod.mk.inj (Except.ok.inj h)
    exact ⟨rfl, hempty, hload⟩

/-- What is loaded after a save. -/
theorem get?_load_savedFile {request : AssignmentRequest V} {deviceId : PyStr}
    {clean : ManualAssignments} (h : request.check = .ok (deviceId, clean)) (file : ManualFile V)
    (d : PyStr) :
    (loadManualPositions (savedFile file deviceId clean)).get? d =
      if d = deviceId then (if isAuto clean then none else some clean)
      else (loadManualPositions file).get? d := by
  have hpositions := (allAccepted_loadManualPositions file).update (check_eq_ok h).2.2 deviceId
  rw [savedFile, loadManualPositions_save hpositions, get?_updatedPositions]

/-- What the file has for the other devices after a save: what was loaded for them. -/
theorem entryOf_savedFile (file : ManualFile V) (deviceId : PyStr) (clean : ManualAssignments)
    {d : PyStr} (hd : d ≠ deviceId) :
    (savedFile file deviceId clean).entryOf d =
      ((file.entryOf d).bind ManualEntry.load).map fun clean => .dict (savedAssignments clean) := by
  rw [savedFile, entryOf_saveManualPositions, get?_updatedPositions, if_neg hd,
    get?_loadManualPositions]

/-- What a save does that is accepted. -/
structure SavesEntry (file : ManualFile V) (request : AssignmentRequest V) (deviceId : PyStr)
    (clean : ManualAssignments) : Prop where
  device : deviceId = strip request.deviceId
  /-- The assignments are the stripped texts, `AUTO_ASSIGNMENT` where there is none. -/
  normalised : ∀ slot,
    clean slot = some (assignedText (request.assignments.map PyObject.str) slot)
  own : (loadManualPositions (savedFile file deviceId clean)).get? deviceId =
    if isAuto clean then none else some clean
  removed : isAuto clean = true → (savedFile file deviceId clean).entryOf deviceId = none
  others : ∀ d, d ≠ deviceId → (loadManualPositions (savedFile file deviceId clean)).get? d =
    (loadManualPositions file).get? d
  /-- What was not loaded for another device is dropped. -/
  rewritten : ∀ d, d ≠ deviceId → (savedFile file deviceId clean).entryOf d =
    ((file.entryOf d).bind ManualEntry.load).map fun clean => .dict (savedAssignments clean)
  again : savedFile (savedFile file deviceId clean) deviceId clean = savedFile file deviceId clean

theorem savesEntry {request : AssignmentRequest V} {deviceId : PyStr} {clean : ManualAssignments}
    (h : request.check = .ok (deviceId, clean)) (file : ManualFile V) :
    SavesEntry file request deviceId clean where
  device := (check_eq_ok h).1
  normalised := loadManualAssignments_eq (check_eq_ok h).2.2
  own := by rw [get?_load_savedFile h, if_pos rfl]
  removed hauto := by
    rw [savedFile, entryOf_saveManualPositions, get?_updatedPositions, if_pos rfl, if_pos hauto]
    rfl
  others d hd := by rw [get?_load_savedFile h, if_neg hd]
  rewritten _ hd := entryOf_savedFile file deviceId clean hd
  again := by
    apply saveManualPositions_congr
    intro d
    rw [get?_updatedPositions, get?_updatedPositions]
    split_ifs with hd
    · rfl
    · rfl
    · rw [get?_load_savedFile h, if_neg hd]

/-! ### Concurrent saves -/

/-- A call is to save what it was given. -/
def Given (actions : List (AssignmentAction V)) (i : ℕ) (request : AssignmentRequest V) : Prop :=
  .call i request ∈ actions

/-- A call has found nothing wrong with its arguments. -/
def Checked (actions : List (AssignmentAction V)) (i : ℕ) (request : AssignmentRequest V) : Prop :=
  Given actions i request ∧ ∃ deviceId clean, request.check = .ok (deviceId, clean)

/-- What holds after the steps of some calls. -/
structure AssignmentsSaved (initial : ManualFile V) (actions : List (AssignmentAction V))
    (s : AssignmentStore V) : Prop where
  /-- The file is what the accepted saves make of it, one after the other. -/
  stored : s.stored = resultOf applyRequest initial s.writes
  /-- No call saves twice. -/
  once : (s.writes.map Write.call).Nodup
  /-- What is saved was given to the call and passed the checks. -/
  checked : ∀ w ∈ s.writes, Checked actions w.call w.update
  /-- A call that returns is one of the accepted saves. -/
  returned : ∀ i file, s.stage i = .done file → Answered applyRequest initial s.writes i file
  /-- A call that raises is none of them. -/
  raised : ∀ i, (∃ error, s.stage i = .failed error) ∨ s.stage i = .writeFailed →
    ∀ w ∈ s.writes, w.call = i → w.outcome = .rejected

variable {initial : ManualFile V} {actions : List (AssignmentAction V)} {s : AssignmentStore V}

theorem lockInv_assignmentStep
    (h : LockInv applyRequest (Given actions) (Checked actions) initial s)
    {a : AssignmentAction V} (ha : a ∈ actions) :
    LockInv applyRequest (Given actions) (Checked actions) initial (assignmentStep s a) := by
  cases a with
  | call i request => exact h.call ha
  | acquire i => exact h.acquire i
  | save i saveOk => exact h.write i _
  | load i readOk =>
      rw [assignmentStep]
      split
      next request hstage =>
        split
        next error _ => exact h.fail i error
        next positions hcheck =>
          split_ifs
          · refine h.fetch fun request' hstage' hgiven => ⟨hgiven, positions.1, positions.2, ?_⟩
            obtain rfl := Stage.locked.inj (hstage.symm.trans hstage')
            exact hcheck
          · exact h.fail i _
      next => exact h

/-- A step of a call changes the file only if the call returns with it. -/
theorem stored_assignmentStep (s : AssignmentStore V) (a : AssignmentAction V) :
    (assignmentStep s a).stored = s.stored ∨ ∃ i, a = .save i true ∧
      (assignmentStep s a).stage i = .done (assignmentStep s a).stored := by
  cases a with
  | call i request => exact Or.inl (frame_call s i request).1
  | acquire i => exact Or.inl (frame_acquire s i).1
  | load i readOk =>
      left
      rw [assignmentStep]
      split
      · split
        · exact (frame_fail s i _).1
        · split_ifs
          · exact (frame_fetch s i).1
          · exact (frame_fail s i _).1
      · rfl
  | save i saveOk =>
      rw [assignmentStep]
      rcases stored_write applyRequest s i (if saveOk then .accepted else .rejected) with
        hsame | hlost | ⟨haccepted, hdone⟩
      · exact Or.inl hsame
      · cases saveOk <;> cases hlost
      · cases saveOk with
        | true => exact Or.inr ⟨i, rfl, hdone⟩
        | false => cases haccepted

/-- A save that is written is known to be. -/
theorem not_lost_assignmentStep (h : ∀ w ∈ s.writes, w.outcome ≠ .lost) (a : AssignmentAction V) :
    ∀ w ∈ (assignmentStep s a).writes, w.outcome ≠ .lost := by
  have hsame : ∀ {s' : AssignmentStore V}, s'.stored = s.stored ∧ s'.writes = s.writes →
      ∀ w ∈ s'.writes, w.outcome ≠ .lost := fun hframe w hw => h w (hframe.2 ▸ hw)
  cases a with
  | call i request => exact hsame (frame_call s i request)
  | acquire i => exact hsame (frame_acquire s i)
  | load i readOk =>
      rw [assignmentStep]
      split
      · split
        · exact hsame (frame_fail s i _)
        · split_ifs
          · exact hsame (frame_fetch s i)
          · exact hsame (frame_fail s i _)
      · exact h
  | save i saveOk =>
      intro w hw
      rcases mem_writes_write hw with hold | houtcome
      · exact h w hold
      · rw [houtcome]
        cases saveOk <;> exact Outcome.noConfusion

/-- **Saving manual assignments is atomic**, and changes what is loaded for one device only:
for every file, every order of the steps of any calls, and every access of the file that fails. -/
theorem assignments_saved (initial : ManualFile V) (actions : List (AssignmentAction V)) :
    AssignmentsSaved initial actions (run assignmentStep (.start initial) actions) ∧
      (∀ (s : AssignmentStore V) (a : AssignmentAction V), (assignmentStep s a).stored = s.stored ∨
        ∃ i, a = .save i true ∧ (assignmentStep s a).stage i = .done (assignmentStep s a).stored) ∧
      ∀ (file : ManualFile V) (request : AssignmentRequest V) (deviceId : PyStr)
        (clean : ManualAssignments), request.check = .ok (deviceId, clean) →
        applyRequest file request = savedFile file deviceId clean ∧
          SavesEntry file request deviceId clean := by
  refine ⟨?_, stored_assignmentStep, ?_⟩
  · obtain ⟨hrun, hlost⟩ : LockInv applyRequest (Given actions) (Checked actions) initial
          (run assignmentStep (.start initial) actions) ∧
        ∀ w ∈ (run assignmentStep (.start initial) actions).writes, w.outcome ≠ .lost := by
      apply run_invariant (I := fun s : AssignmentStore V =>
        LockInv applyRequest (Given actions) (Checked actions) initial s ∧
          ∀ w ∈ s.writes, w.outcome ≠ .lost)
      · exact ⟨lockInv_start _ _ _ _, fun _ hw => by cases hw⟩
      · rintro s a ha ⟨h, hlost⟩
        exact ⟨lockInv_assignmentStep h ha, not_lost_assignmentStep hlost a⟩
    refine ⟨hrun.stored, hrun.once, hrun.readyWrites, hrun.done, ?_⟩
    rintro i (⟨error, hfailed⟩ | hfailed) w hw hcall
    · exact absurd (List.mem_map.mpr ⟨w, hw, hcall⟩) (hrun.unwritten hfailed)
    · have haccepted := hrun.unanswered i hfailed w hw hcall
      have hnot := hlost w hw
      cases houtcome : w.outcome with
      | accepted => exact absurd houtcome haccepted
      | lost => exact absurd houtcome hnot
      | rejected => rfl
  · intro file request deviceId clean hcheck
    refine ⟨?_, savesEntry hcheck file⟩
    rw [applyRequest, hcheck]

end Saved

/-! ### Entries that the loader rejects -/

/-- A save leaves the entries of the other devices in the file as they are. -/
def EntriesKept {V : Type*} [JsonObject V] [PyUnicode] (file : ManualFile V)
    (request : AssignmentRequest V) : Prop :=
  ∀ deviceId clean, request.check = .ok (deviceId, clean) →
    ∀ d, d ≠ deviceId → (applyRequest file request).entryOf d = file.entryOf d

/-- The serial of device `B` is too short. -/
def shortSerial : Dict PyStr PyStr := .ofList [(['2'], "SHORT".toList)]

def shortSerialFile : ManualFile PyStr := .devices (.ofList [(['B'], .dict shortSerial)])

/-- One battery is assigned, and slots 3 and 4 are left alone. -/
def oneAssigned : ManualAssignments
  | .two => some "ABCDEFGH12".toList
  | .three | .four => some autoAssignment

/-- Saving device `A` drops the entry of `B`. -/
theorem not_entriesKept_shortSerial :
    letI := PyUnicode.asciiOnly
    ¬ EntriesKept shortSerialFile ⟨['A'], .ofList [(['2'], "ABCDEFGH12".toList)]⟩ := by
  let _ : PyUnicode := PyUnicode.asciiOnly
  intro h
  let assignments : Dict PyStr PyStr := .ofList [(['2'], "ABCDEFGH12".toList)]
  have hassigned : loadManualAssignments (assignments.map PyObject.str) = some oneAssigned :=
    congrArg some (funext fun slot => by cases slot <;> rfl)
  have hcheck : AssignmentRequest.check ⟨['A'], assignments⟩ = .ok (['A'], oneAssigned) := by
    rw [AssignmentRequest.check]
    dsimp only
    rw [if_neg (by decide), hassigned]
    rfl
  have hentry : shortSerialFile.entryOf ['B'] = some (.dict shortSerial) := rfl
  have hload : (ManualEntry.dict shortSerial).load = none := rfl
  have hkept := h ['A'] oneAssigned hcheck ['B'] (by decide)
  rw [applyRequest, hcheck] at hkept
  dsimp only at hkept
  rw [entryOf_savedFile _ _ _ (by decide), hentry, Option.bind_some, hload] at hkept
  cases hkept

end GroBro
