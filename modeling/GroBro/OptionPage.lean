/-
GroBro/OptionPage.lean

The options that the page shows, `get_addon_options` of `grobro/ha/supervisor_config.py`: those
that the Supervisor has stored, over the defaults, without retired ones, and with a timeout that
is one.  What comes back from the page goes through `normalizeOptions` and is merged into what is
stored.

After a save the page shows what was saved, a timeout as the add-on will take it, and everything
else as before.  Options that pass the checks can be saved as they are shown, and are then shown
as before (`option_page_exact`).
-/
import GroBro.SupervisorSaves

namespace GroBro

open OrderedDict

/-! ### The page -/

/-- `int(value or 0)`; `none` is a caught error. -/
def JsonValue.orZeroToInt [PyUnicode] : JsonValue → Option ℤ
  | .null => some 0
  | .bool b => some (if b then 1 else 0)
  | .list items => if items.isEmpty then some 0 else none
  | .dict entries => if entries.isEmpty then some 0 else none
  | .str s => if s.isEmpty then some 0 else intOfWide s
  | .int n => some n
  | .float x => x.truncated

/-- `valid_timeout` -/
def validTimeout [PyUnicode] (value : JsonValue) : Bool :=
  value.orZeroToInt.any fun n => decide (0 < n)

def timeoutKey : WideStr := wide "DEVICE_TIMEOUT"

/-- The options of `get_addon_options`, of the options that the Supervisor returns. -/
def getAddonOptions [PyUnicode] (rawOptions : OptionDict) : OptionDict :=
  let options := (Dict.ofList optionDefaults).update
    (rawOptions.without fun key => key ∈ retiredOptions)
  if validTimeout ((options.get? timeoutKey).getD (.int 120)) then options
  else options.insert timeoutKey (.int 120)

/-- `_effective_device_timeout` of `grobro/ha/client.py`, of the saved number. -/
def effectiveTimeoutOption (value : ℤ) : ℤ := if 0 < value then value else 120

/-! ### What is shown -/

section Shown

variable [PyUnicode]

/-- The timeout that is shown for a stored one. -/
def shownTimeout (value : JsonValue) : JsonValue :=
  if validTimeout value then value else .int 120

/-- The default of an option. -/
def optionDefault (key : WideStr) : Option JsonValue := (Dict.ofList optionDefaults).get? key

omit [PyUnicode] in
theorem timeoutKey_not_retired : timeoutKey ∉ retiredOptions := by decide +kernel

omit [PyUnicode] in
theorem optionDefault_eq_some {key : WideStr} {value : JsonValue} :
    optionDefault key = some value ↔ (key, value) ∈ optionDefaults := by
  have hkeys : (optionDefaults.map Prod.fst).Nodup := by decide +kernel
  rw [optionDefault, ← Dict.mem_entries, Dict.entries_ofList hkeys]

omit [PyUnicode] in
theorem optionDefault_timeout : optionDefault timeoutKey = some (.int 120) := by
  have hat : optionDefaults[21]? = some (timeoutKey, .int 120) := rfl
  exact optionDefault_eq_some.mpr (List.mem_of_getElem? hat)

theorem get?_getAddonOptions (stored : OptionDict) (key : WideStr) :
    (getAddonOptions stored).get? key =
      if key = timeoutKey then some (shownTimeout ((stored.get? timeoutKey).getD (.int 120)))
      else (if key ∈ retiredOptions then none else stored.get? key).or (optionDefault key) := by
  have hoptions : ∀ key, ((Dict.ofList optionDefaults).update
      (stored.without fun key => key ∈ retiredOptions)).get? key =
        (if key ∈ retiredOptions then none else stored.get? key).or (optionDefault key) := by
    intro key
    rw [Dict.get?_update, Dict.get?_without]
    simp only [decide_eq_true_eq]
    rfl
  have htimeout : ((Dict.ofList optionDefaults).update
      (stored.without fun key => key ∈ retiredOptions)).get? timeoutKey =
        some ((stored.get? timeoutKey).getD (.int 120)) := by
    rw [hoptions, if_neg timeoutKey_not_retired, optionDefault_timeout]
    rcases stored.get? timeoutKey with - | value
    · rfl
    · rfl
  rw [getAddonOptions, htimeout, Option.getD_some, shownTimeout]
  by_cases hkey : key = timeoutKey
  · rw [if_pos hkey, hkey]
    split_ifs
    · exact htimeout
    · rw [Dict.get?_insert, if_pos rfl]
  · rw [if_neg hkey, ← hoptions key]
    split_ifs
    · rfl
    · rw [Dict.get?_insert, if_neg (Ne.symm hkey)]

/-- A retired option has no default and is left out where it is stored. -/
theorem get?_getAddonOptions_retired (stored : OptionDict) {key : WideStr}
    (h : key ∈ retiredOptions) : (getAddonOptions stored).get? key = none := by
  have hkey : key ≠ timeoutKey := fun hkey => timeoutKey_not_retired (hkey ▸ h)
  have hdefault : optionDefault key = none := by
    rw [Option.eq_none_iff_forall_ne_some]
    intro value hvalue
    have hmem := List.mem_map_of_mem (f := Prod.fst) (optionDefault_eq_some.mp hvalue)
    exact not_allowed_of_retired key h hmem
  rw [get?_getAddonOptions, if_neg hkey, if_pos h, hdefault]
  rfl

end Shown

/-! ### Defaults -/

section Defaults

variable [PyUnicode] [PyUpper]

/-- A text that the checks of its option leave as it is. -/
def IsPlainText (key text : WideStr) : Prop :=
  cleanText key text = text ∧ (key ∈ hostOptions → text ≠ []) ∧
    (key = wide "HA_BASE_TOPIC" → text.any (· ∈ wide "+#\x00") = false ∧ (narrow text).isSome) ∧
    (key = wide "LOG_LEVEL" → text ∈ logLevels) ∧ (key = wide "MAX_BAT" → text = wide "auto")

instance (key text : WideStr) : Decidable (IsPlainText key text) :=
  inferInstanceAs (Decidable (_ ∧ _ ∧ _ ∧ _ ∧ _))

theorem checkText_of_isPlainText {key text : WideStr} (h : IsPlainText key text) :
    checkText key text = .ok text := by
  obtain ⟨-, hhost, htopic, hlevel, hmaxBat⟩ := h
  rw [checkText, if_neg fun hempty => hhost hempty.1 hempty.2]
  split_ifs with h₁ h₂ h₃ h₄ h₅ h₆
  · rw [(htopic h₁).1] at h₂
    cases h₂
  · have hsome := (htopic h₁).2
    rw [Option.isNone_iff_eq_none.mp h₃] at hsome
    cases hsome
  · rfl
  · rw [upperWide_logLevel (hlevel h₄)]
  · rw [upperWide_logLevel (hlevel h₄)] at h₅
    exact absurd (hlevel h₄) h₅
  · rw [checkMaxBat, if_pos (hmaxBat h₆)]
  · rfl

/-- What the checks ask of a default. -/
def IsPlainDefault (key : WideStr) : JsonValue → Prop
  | .bool _ => key ∈ boolOptions
  | .int n => key ∉ boolOptions ∧ key ∈ intOptions ∧ numberError key n = none
  | .str s => key ∉ boolOptions ∧ key ∉ intOptions ∧ IsPlainText key s
  | _ => False

instance (key : WideStr) : (value : JsonValue) → Decidable (IsPlainDefault key value)
  | .bool _ => inferInstanceAs (Decidable (_ ∈ _))
  | .int _ => inferInstanceAs (Decidable (_ ∧ _ ∧ _))
  | .str _ => inferInstanceAs (Decidable (_ ∧ _ ∧ _))
  | .null => isFalse id
  | .float _ => isFalse id
  | .list _ => isFalse id
  | .dict _ => isFalse id

theorem normalizeValue_of_isPlainDefault {key : WideStr} {value : JsonValue}
    (h : IsPlainDefault key value) : normalizeValue key value = .ok value := by
  cases value with
  | bool b =>
      have hbool : key ∈ boolOptions := h
      rw [normalizeValue, if_pos hbool, JsonValue.isBool, if_pos rfl]
  | int n =>
      obtain ⟨hbool, hint, hnumber⟩ := h
      rw [normalizeValue, if_neg hbool, if_pos hint, normalizeNumber]
      simp [JsonValue.isBool, JsonValue.toInt, JsonValue.isFraction, hnumber]
  | str s =>
      obtain ⟨hbool, hint, htext⟩ := h
      rw [normalizeValue, if_neg hbool, if_neg hint, valueText, ok_bind, htext.1,
        checkText_of_isPlainText htext]
      rfl
  | null => exact h.elim
  | float x => exact h.elim
  | list items => exact h.elim
  | dict entries => exact h.elim

/-- **Every default passes its own check.** -/
theorem normalizeValue_default {key : WideStr} {value : JsonValue}
    (h : (key, value) ∈ optionDefaults) : normalizeValue key value = .ok value := by
  have hall : ∀ p ∈ optionDefaults, IsPlainDefault p.1 p.2 := by decide +kernel
  exact normalizeValue_of_isPlainDefault (hall _ h)

/-! ### What comes back -/

omit [PyUnicode] [PyUpper] in
/-- A loop that passes over some entries. -/
theorem foldlM_filter_of_pure {m : Type → Type} [Monad m] [LawfulMonad m] {α β : Type}
    (p : α → Prop) [DecidablePred p] {f : β → α → m β} (h : ∀ b a, ¬ p a → f b a = pure b)
    (as : List α) (b : β) : (as.filter fun a => p a).foldlM f b = as.foldlM f b := by
  induction as generalizing b with
  | nil => rfl
  | cons a as ih =>
      by_cases ha : p a
      · have hkept : (a :: as).filter (fun a => p a) = a :: as.filter fun a => p a :=
          List.filter_cons_of_pos (decide_eq_true ha)
        rw [hkept, List.foldlM_cons, List.foldlM_cons]
        exact congrArg (f b a >>= ·) (funext ih)
      · have hdropped : (a :: as).filter (fun a => p a) = as.filter fun a => p a :=
          List.filter_cons_of_neg (by simpa using ha)
        rw [hdropped, List.foldlM_cons, h b a ha, pure_bind, ih]

/-- Options that are not allowed are passed over. -/
theorem normalizeOptions_filter (entries : List (WideStr × JsonValue)) :
    normalizeOptions (.dict (entries.filter fun p => p.1 ∈ allowedOptions)) =
      normalizeOptions (.dict entries) := by
  refine foldlM_filter_of_pure (fun p : WideStr × JsonValue => p.1 ∈ allowedOptions) ?_ entries
    (∅ : OptionDict)
  intro result p hp
  exact if_neg hp

/-- Stored options of which those that are allowed pass the checks, as they are. -/
def NormalStored (stored : OptionDict) : Prop :=
  ∀ key ∈ allowedOptions, ∀ value, stored.get? key = some value →
    normalizeValue key value = .ok value

/-- The allowed ones of some options go through the checks unchanged. -/
theorem normalizeOptions_of_normalStored {options : OptionDict} (h : NormalStored options) :
    normalizeOptions (.dict options.entries) =
      .ok (options.without fun key => key ∉ allowedOptions) := by
  have hnormal : NormalOptions (options.without fun key => key ∉ allowedOptions) := by
    intro key value hget
    rw [Dict.get?_without] at hget
    split_ifs at hget with hdropped
    have hallowed : key ∈ allowedOptions := by simpa using hdropped
    exact ⟨hallowed, h key hallowed value hget⟩
  rw [← normalizeOptions_of_normalOptions hnormal, ← normalizeOptions_filter]
  refine congrArg (fun entries => normalizeOptions (.dict entries)) (List.filter_congr ?_)
  intro p _
  simp

/-- A timeout that passed the checks is a number that is not negative. -/
theorem NormalOptions.timeout {changes : OptionDict} (h : NormalOptions changes)
    {value : JsonValue} (hget : changes.get? timeoutKey = some value) : ∃ n, value = .int n := by
  obtain ⟨-, hvalue⟩ := h timeoutKey value hget
  have hbool : timeoutKey ∉ boolOptions := by decide +kernel
  have hint : timeoutKey ∈ intOptions := by decide +kernel
  rw [normalizeValue, if_neg hbool, if_pos hint, normalizeNumber] at hvalue
  rcases hnumber : value.toInt with - | n
  · rw [hnumber] at hvalue
    split_ifs at hvalue
  · rw [hnumber] at hvalue
    dsimp only at hvalue
    split_ifs at hvalue
    rcases herror : numberError timeoutKey n with - | error
    · rw [herror] at hvalue
      exact ⟨n, (Except.ok.inj hvalue).symm⟩
    · rw [herror] at hvalue
      cases hvalue

omit [PyUpper] in
theorem shownTimeout_valid (value : JsonValue) : validTimeout (shownTimeout value) = true := by
  rw [shownTimeout]
  split_ifs with hvalid
  · exact hvalid
  · rfl

omit [PyUpper] in
theorem shownTimeout_shownTimeout (value : JsonValue) :
    shownTimeout (shownTimeout value) = shownTimeout value := if_pos (shownTimeout_valid value)

/-- How the page shows an option that was saved. -/
def shownChange (key : WideStr) (value : JsonValue) : JsonValue :=
  if key = timeoutKey then shownTimeout value else value

omit [PyUpper] in
theorem shownTimeout_int (n : ℤ) : shownTimeout (.int n) = .int (effectiveTimeoutOption n) := by
  by_cases hn : 0 < n
  · rw [shownTimeout, if_pos (by simpa [validTimeout, JsonValue.orZeroToInt] using hn),
      effectiveTimeoutOption, if_pos hn]
  · rw [shownTimeout, if_neg (by simpa [validTimeout, JsonValue.orZeroToInt] using hn),
      effectiveTimeoutOption, if_neg hn]

/-- After a save the page shows the changes, and the rest as before. -/
theorem get?_getAddonOptions_mergeOptions {changes : OptionDict} (h : NormalOptions changes)
    (stored : OptionDict) (key : WideStr) :
    (getAddonOptions (mergeOptions stored changes)).get? key =
      ((changes.get? key).map (shownChange key)).or ((getAddonOptions stored).get? key) := by
  rw [get?_getAddonOptions, get?_getAddonOptions, get?_mergeOptions, get?_mergeOptions,
    if_neg timeoutKey_not_retired]
  by_cases hkey : key = timeoutKey
  · rw [if_pos hkey, if_pos hkey, hkey]
    rcases changes.get? timeoutKey with - | value
    · rfl
    · simp [shownChange]
  · rw [if_neg hkey, if_neg hkey]
    by_cases hretired : key ∈ retiredOptions
    · rw [if_pos hretired, if_pos hretired, h.not_retired hretired]
      rfl
    · rw [if_neg hretired, if_neg hretired]
      rcases changes.get? key with - | value
      · rfl
      · simp [shownChange, hkey]

/-- Options that are shown pass the checks if the stored ones do. -/
theorem NormalStored.getAddonOptions {stored : OptionDict} (h : NormalStored stored) :
    NormalStored (getAddonOptions stored) := by
  intro key hkey value hget
  rw [get?_getAddonOptions] at hget
  have hdefault : ∀ value, optionDefault key = some value → normalizeValue key value = .ok value :=
    fun value hvalue => normalizeValue_default (optionDefault_eq_some.mp hvalue)
  split_ifs at hget with htimeout hretired
  · obtain rfl := Option.some.inj hget
    subst htimeout
    rw [shownTimeout]
    split_ifs
    · rcases hstored : stored.get? timeoutKey with - | value
      · exact hdefault _ optionDefault_timeout
      · exact h timeoutKey hkey value hstored
    · exact hdefault _ optionDefault_timeout
  · rw [Option.none_or] at hget
    exact hdefault value hget
  · rcases Option.or_eq_some_iff.mp hget with hstored | ⟨-, hvalue⟩
    · exact h key hkey value hstored
    · exact hdefault value hvalue

/-! ### The page and the store -/

/-- What the page shows of stored options, and what becomes of it. -/
structure OptionPageExact (stored : OptionDict) : Prop where
  /-- Every default passes its own check. -/
  default : ∀ key value, optionDefault key = some value → normalizeValue key value = .ok value
  retired : ∀ key ∈ retiredOptions, (getAddonOptions stored).get? key = none
  complete : ∀ key ∈ allowedOptions, ∃ value, (getAddonOptions stored).get? key = some value
  shown : ∀ key, key ∉ retiredOptions → key ≠ timeoutKey →
    (getAddonOptions stored).get? key = (stored.get? key).or (optionDefault key)
  /-- The timeout that is shown is one. -/
  timeout : ∃ value, (getAddonOptions stored).get? timeoutKey = some value ∧
    validTimeout value = true
  /-- A save is shown, and changes nothing else that is shown. -/
  saved : ∀ raw changes, normalizeOptions raw = .ok changes → ∀ key,
    (getAddonOptions (mergeOptions stored changes)).get? key =
      ((changes.get? key).map (shownChange key)).or ((getAddonOptions stored).get? key)
  /-- A timeout is shown as the add-on takes it. -/
  savedTimeout : ∀ raw changes value, normalizeOptions raw = .ok changes →
    changes.get? timeoutKey = some value → ∃ n, value = .int n ∧
      (getAddonOptions (mergeOptions stored changes)).get? timeoutKey =
        some (.int (effectiveTimeoutOption n))
  /-- What is shown can be saved, and is shown again. -/
  again : NormalStored stored → ∃ changes,
    normalizeOptions (.dict (getAddonOptions stored).entries) = .ok changes ∧
      NormalStored (mergeOptions stored changes) ∧
      ∀ key, (getAddonOptions (mergeOptions stored changes)).get? key =
        (getAddonOptions stored).get? key

/-- **The page and the store agree.** -/
theorem option_page_exact (stored : OptionDict) : OptionPageExact stored where
  default key value h := normalizeValue_default (optionDefault_eq_some.mp h)
  retired key hretired := get?_getAddonOptions_retired stored hretired
  complete key hkey := by
    obtain ⟨⟨key, value⟩, hdefault, rfl⟩ := List.mem_map.mp hkey
    rw [get?_getAddonOptions, optionDefault_eq_some.mpr hdefault]
    split_ifs
    · exact ⟨_, rfl⟩
    · exact ⟨value, rfl⟩
    · exact ⟨_, Option.or_some⟩
  shown key hretired hkey := by
    rw [get?_getAddonOptions, if_neg hkey, if_neg hretired]
  timeout := by
    rw [get?_getAddonOptions, if_pos rfl]
    exact ⟨_, rfl, shownTimeout_valid _⟩
  saved raw changes h key :=
    get?_getAddonOptions_mergeOptions (normalOptions_of_normalizeOptions h) stored key
  savedTimeout raw changes value h hget := by
    obtain ⟨n, rfl⟩ := (normalOptions_of_normalizeOptions h).timeout hget
    refine ⟨n, rfl, ?_⟩
    rw [get?_getAddonOptions_mergeOptions (normalOptions_of_normalizeOptions h), hget]
    simp [shownChange, shownTimeout_int]
  again h := by
    have hshown := h.getAddonOptions
    have hchanges := normalizeOptions_of_normalStored hshown
    refine ⟨_, hchanges, fun key hkey value hget => ?_, fun key => ?_⟩
    · rw [get?_mergeOptions, Dict.get?_without] at hget
      rcases Option.or_eq_some_iff.mp hget with hchange | ⟨-, hrest⟩
      · split_ifs at hchange
        exact hshown key hkey value hchange
      · split_ifs at hrest
        exact h key hkey value hrest
    · rw [get?_getAddonOptions_mergeOptions (normalOptions_of_normalizeOptions hchanges),
        Dict.get?_without]
      rcases hvalue : (getAddonOptions stored).get? key with - | value
      · rw [ite_self]
        rfl
      split_ifs
      · rfl
      · rw [Option.map_some, Option.some_or, shownChange]
        split_ifs with hkey
        · subst hkey
          rw [get?_getAddonOptions, if_pos rfl] at hvalue
          rw [← Option.some.inj hvalue, shownTimeout_shownTimeout]
        · rfl

end Defaults

end GroBro
