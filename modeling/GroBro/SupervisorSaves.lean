/-
GroBro/SupervisorSaves.lean

`save_addon_options` of `grobro/ha/supervisor_config.py`, called by any threads.  A call
normalises its changes, takes the lock, asks the Supervisor for the options, and posts them
merged with the changes.  Any request may fail; a `POST` may be stored and only its answer
lost.  The Supervisor stores the options of the last `POST` it accepted and returns them.

The lock covers both requests, so a save is an update under a lock: the accepted posts are
merges one after the other (`saves_atomic`).
-/
import GroBro.Machine
import GroBro.LockedUpdate
import GroBro.SupervisorOptions

namespace GroBro

open Machine OrderedDict LockedUpdate

/-! ### The code -/

abbrev OptionDict := Dict WideStr JsonValue

/-- `merged` -/
def mergeOptions (current changes : OptionDict) : OptionDict :=
  (current.without fun key => key ∈ retiredOptions).update changes

/-- Why a call sends no `POST`. -/
inductive SaveFailure where
  /-- `normalize_options` raised. -/
  | invalid (error : OptionError)
  /-- The `GET` raised, or its answer has no options. -/
  | getFailed

/-- The Supervisor, `_OPTIONS_LOCK` and the calls. -/
abbrev OptionStore := State OptionDict OptionDict SaveFailure

inductive SaveAction where
  | call (i : ℕ) (raw : JsonValue)
  | acquire (i : ℕ)
  | get (i : ℕ) (ok : Bool)
  | post (i : ℕ) (outcome : Outcome)

/-- The call that an action is of. -/
def SaveAction.number : SaveAction → ℕ
  | call i _ | acquire i | get i _ | post i _ => i

/-- The steps of `save_addon_options`. -/
def saveStep [PyUnicode] [PyUpper] (s : OptionStore) : SaveAction → OptionStore
  | .call i raw =>
      match normalizeOptions raw with
      | .error error => s.refuse i (.invalid error)
      | .ok changes => s.call i changes
  | .acquire i => s.acquire i
  | .get i ok => if ok then s.fetch i else s.fail i .getFailed
  | .post i outcome => s.write mergeOptions i outcome

/-! ### The merge -/

/-- What a merge holds: the changes, and of the rest all but the retired keys. -/
theorem get?_mergeOptions (current changes : OptionDict) (key : WideStr) :
    (mergeOptions current changes).get? key =
      (changes.get? key).or (if key ∈ retiredOptions then none else current.get? key) := by
  rw [mergeOptions, Dict.get?_update, Dict.get?_without]
  simp only [decide_eq_true_eq]

theorem not_allowed_of_retired : ∀ key ∈ retiredOptions, key ∉ allowedOptions := by
  decide +kernel

section Merge

variable [PyUnicode] [PyUpper] {changes : OptionDict}

theorem NormalOptions.not_retired (h : NormalOptions changes) {key : WideStr}
    (hkey : key ∈ retiredOptions) : changes.get? key = none := by
  rw [Option.eq_none_iff_forall_ne_some]
  intro value hget
  exact not_allowed_of_retired key hkey (h key value hget).1

/-- No retired option is written. -/
theorem NormalOptions.retired_mergeOptions (h : NormalOptions changes) (current : OptionDict)
    {key : WideStr} (hkey : key ∈ retiredOptions) :
    (mergeOptions current changes).get? key = none := by
  rw [get?_mergeOptions, h.not_retired hkey, if_pos hkey]
  rfl

/-- A merge that is made again changes nothing. -/
theorem NormalOptions.mergeOptions_again (h : NormalOptions changes) (current : OptionDict) :
    mergeOptions (mergeOptions current changes) changes = mergeOptions current changes := by
  have hretired : (mergeOptions current changes).without (fun key => key ∈ retiredOptions) =
      mergeOptions current changes := by
    apply Dict.without_of_get?
    intro key hkey
    exact h.retired_mergeOptions current (of_decide_eq_true hkey)
  rw [mergeOptions, hretired]
  apply Dict.update_of_get?
  intro p hp
  rw [get?_mergeOptions, changes.mem_entries.mp hp, Option.some_or]

end Merge

/-! ### Concurrent saves -/

section Saves

variable [PyUnicode] [PyUpper]

/-- What the options that a call is given do to those that are stored. -/
structure MergesChecked (raw : JsonValue) (changes : OptionDict) : Prop where
  /-- All that are allowed are changes. -/
  given : ∃ entries, raw = .dict entries ∧ NormalizesTo (.ofList entries) changes
  /-- They pass the checks, each as it is. -/
  checked : NormalOptions changes
  again : normalizeOptions (.dict changes.entries) = .ok changes
  written : ∀ current key value, changes.get? key = some value →
    (mergeOptions current changes).get? key = some value
  retired : ∀ current, ∀ key ∈ retiredOptions, (mergeOptions current changes).get? key = none
  kept : ∀ current key, key ∉ retiredOptions → changes.get? key = none →
    (mergeOptions current changes).get? key = current.get? key
  repeated : ∀ current,
    mergeOptions (mergeOptions current changes) changes = mergeOptions current changes

theorem mergesChecked {raw : JsonValue} {changes : OptionDict}
    (h : normalizeOptions raw = .ok changes) : MergesChecked raw changes where
  given := normalizesTo_of_normalizeOptions h
  checked := normalOptions_of_normalizeOptions h
  again := normalizeOptions_normalized h
  written current key value hget := by rw [get?_mergeOptions, hget, Option.some_or]
  retired current _ hkey := (normalOptions_of_normalizeOptions h).retired_mergeOptions current hkey
  kept current key hkey hget := by rw [get?_mergeOptions, hget, if_neg hkey, Option.none_or]
  repeated := (normalOptions_of_normalizeOptions h).mergeOptions_again

/-- A call was made with options that are normalised to the changes. -/
def Asked (actions : List SaveAction) (i : ℕ) (changes : OptionDict) : Prop :=
  ∃ raw, .call i raw ∈ actions ∧ normalizeOptions raw = .ok changes

/-- How a call goes on: from each stage, whatever else happens, to the next one as soon as its
own step comes. -/
structure Proceeds (s : OptionStore) (i : ℕ) : Prop where
  called : ∀ raw changes, s.stage i = .idle → normalizeOptions raw = .ok changes →
    (saveStep s (.call i raw)).stage i = .called changes
  locked : ∀ changes, s.stage i = .called changes → s.lock = none →
    (saveStep s (.acquire i)).stage i = .locked changes
  fetched : ∀ changes, s.stage i = .locked changes →
    (saveStep s (.get i true)).stage i = .fetched changes s.stored
  /-- A `POST` behind a `GET` that succeeded is one of the writes. -/
  posted : ∀ changes seen outcome, s.stage i = .fetched changes seen →
    (saveStep s (.post i outcome)).writes = s.writes ++ [⟨i, changes, outcome⟩] ∧
      (outcome = .accepted →
        (saveStep s (.post i outcome)).stage i = .done (mergeOptions s.stored changes))
  waits : ∀ a, a.number ≠ i → (saveStep s a).stage i = s.stage i

/-- What holds after the steps of some calls. -/
structure SavesAtomic (initial : OptionDict) (actions : List SaveAction) (s : OptionStore) :
    Prop where
  /-- What is stored is the accepted changes, merged in their order. -/
  stored : s.stored = resultOf mergeOptions initial s.writes
  /-- No call posts twice. -/
  once : (s.writes.map Write.call).Nodup
  /-- The changes of a `POST` are those that its call was given. -/
  asked : ∀ post ∈ s.writes, Asked actions post.call post.update
  /-- A call that returns was accepted, and returns what it stored. -/
  returned : ∀ i merged, s.stage i = .done merged → Answered mergeOptions initial s.writes i merged
  /-- A call that fails before its `POST` sends none. -/
  unsent : ∀ i failure, s.stage i = .failed failure → i ∉ s.writes.map Write.call
  proceeds : ∀ i, Proceeds s i

variable {initial : OptionDict} {actions : List SaveAction} {s : OptionStore}

theorem lockInv_saveStep (h : LockInv mergeOptions (Asked actions) (Asked actions) initial s)
    {a : SaveAction} (ha : a ∈ actions) :
    LockInv mergeOptions (Asked actions) (Asked actions) initial (saveStep s a) := by
  cases a with
  | call i raw =>
      rw [saveStep]
      cases hraw : normalizeOptions raw with
      | error error => exact h.refuse i _
      | ok changes => exact h.call ⟨raw, ha, hraw⟩
  | acquire i => exact h.acquire i
  | get i ok =>
      rw [saveStep]
      split_ifs
      · exact h.fetch fun _ _ hasked => hasked
      · exact h.fail i _
  | post i outcome => exact h.write i outcome

/-- A step of one call leaves the stages of the others. -/
theorem stage_saveStep_of_ne {a : SaveAction} {i : ℕ} (h : a.number ≠ i) :
    (saveStep s a).stage i = s.stage i := by
  have hne : i ≠ a.number := Ne.symm h
  cases a with
  | call j raw =>
      rw [saveStep]
      cases normalizeOptions raw with
      | error error => exact stage_refuse_of_ne hne
      | ok changes => exact stage_call_of_ne hne
  | acquire j => exact stage_acquire_of_ne hne
  | get j ok =>
      rw [saveStep]
      split_ifs
      · exact stage_fetch_of_ne hne
      · exact stage_fail_of_ne hne
  | post j outcome => exact stage_write_of_ne hne

theorem proceeds_of_lockInv {Made Ready : ℕ → OptionDict → Prop}
    (h : LockInv mergeOptions Made Ready initial s) (i : ℕ) : Proceeds s i where
  called raw changes hidle hraw := by
    rw [saveStep, hraw]
    exact stage_call hidle
  locked changes hcalled hfree := stage_acquire hcalled hfree
  fetched changes hlocked := stage_fetch hlocked
  posted changes seen outcome hfetched := by
    -- what was fetched is still what is stored
    obtain rfl := h.fetched i changes seen hfetched
    refine ⟨writes_write hfetched, ?_⟩
    rintro rfl
    exact stage_write hfetched
  waits _ := stage_saveStep_of_ne

/-- **Saving options is an atomic merge of checked changes**, whatever the calls do, in any
order. -/
theorem saves_atomic (initial : OptionDict) (actions : List SaveAction) :
    SavesAtomic initial actions (run saveStep (.start initial) actions) ∧
      ∀ raw changes, normalizeOptions raw = .ok changes → MergesChecked raw changes := by
  constructor
  · have hrun : LockInv mergeOptions (Asked actions) (Asked actions) initial
        (run saveStep (.start initial) actions) := by
      apply run_invariant (lockInv_start _ _ _ initial)
      intro s a ha h
      exact lockInv_saveStep h ha
    exact ⟨hrun.stored, hrun.once, hrun.readyWrites, hrun.done,
      fun _ _ hfailed => hrun.unwritten hfailed, proceeds_of_lockInv hrun⟩
  · intro raw changes h
    exact mergesChecked h

end Saves

/-! ### Two calls -/

/-- The options of a call. -/
def twoChanges (i : ℕ) : JsonValue :=
  if i = 0 then .dict [(wide "MAX_SLOTS", .str (wide " 3 ")), (wide "EXTRA", .int 1)]
  else .dict [(wide "LOG_LEVEL", .str (wide "debug"))]

/-- The second call has to wait for the lock; its `POST` is stored, and the answer is lost. -/
def twoSaves : List SaveAction :=
  [.call 0 (twoChanges 0), .call 1 (twoChanges 1), .acquire 0, .acquire 1, .get 0 true,
    .post 0 .accepted, .acquire 1, .get 1 true, .post 1 .lost]

theorem saves_atomic_twoSaves :
    letI := PyUnicode.asciiOnly
    letI := PyUpper.asciiOnly
    let initial : OptionDict := .ofList [(wide "FILTER_DATA_GLITCHES", .bool true),
      (wide "TZ", .str (wide "UTC"))]
    let s := run saveStep (.start initial) twoSaves
    SavesAtomic initial twoSaves s ∧
      MergesChecked (twoChanges 0) (.ofList [(wide "MAX_SLOTS", .int 3)]) ∧
      s.stored.entries = [(wide "TZ", .str (wide "UTC")), (wide "MAX_SLOTS", .int 3),
        (wide "LOG_LEVEL", .str (wide "DEBUG"))] := by
  let _ : PyUnicode := PyUnicode.asciiOnly
  let _ : PyUpper := PyUpper.asciiOnly
  intro initial s
  obtain ⟨hatomic, hchecked⟩ := saves_atomic initial twoSaves
  exact ⟨hatomic, hchecked _ _ (by rfl), by rfl⟩

end GroBro
