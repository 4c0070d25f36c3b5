/-
GroBro/SupervisorOptions.lean

`normalize_options` of `grobro/ha/supervisor_config.py`: what of a JSON object becomes an
add-on option.  Booleans stay, numbers are made of numbers and numerals, and everything else
is turned into text, of which most is stripped, the log level put in capitals and the battery
limit rewritten.

A JSON string may hold surrogates, so its characters are code points (`WideChar`).  Floats are
what the code asks of them.

What comes out goes through again unchanged (`normalizeOptions_normalized`).
-/
import GroBro.BatteryPosition

namespace GroBro

open OrderedDict

/-! ### Text and values -/

/-- A character of a `str`: a code point, which may be a surrogate. -/
inductive WideChar where
  | scalar (c : Char)
  | surrogate (n : Fin 2048)
  deriving DecidableEq

abbrev WideStr := List WideChar

instance : LawfulBEq WideStr := inferInstance

def wide (s : String) : WideStr := s.toList.map .scalar

namespace WideChar

def isSpace : WideChar → Bool
  | scalar c => GroBro.isSpace c
  | surrogate _ => false

def toChar? : WideChar → Option Char
  | scalar c => some c
  | surrogate _ => none

end WideChar

/-- The text without surrogates; `none` is a `UnicodeEncodeError`. -/
def narrow (s : WideStr) : Option PyStr := s.mapM WideChar.toChar?

/-- `s.strip()` -/
def stripWide (s : WideStr) : WideStr := (s.dropWhile (·.isSpace)).rdropWhile (·.isSpace)

/-- `str.upper` of one character, by the interpreter's Unicode database. -/
class PyUpper where
  upperChar : Char → PyStr
  ascii : ∀ c, c.toNat < 128 → upperChar c = [c.toUpper]

/-- The database in which only ASCII has two cases. -/
@[reducible] def PyUpper.asciiOnly : PyUpper where
  upperChar c := [c.toUpper]
  ascii _ _ := rfl

/-- `s.upper()` -/
def upperWide [PyUpper] (s : WideStr) : WideStr :=
  s.flatMap fun
    | .scalar c => (PyUpper.upperChar c).map .scalar
    | .surrogate n => [.surrogate n]

/-- `int(text)` -/
def intOfWide [PyUnicode] (text : WideStr) : Option ℤ := (narrow text).bind intOfText

/-- What is asked of a float: `int(x)`, whether it is equal to that, and `str(x)`. -/
structure JsonFloat where
  truncated : Option ℤ
  integral : Bool
  repr : String
  deriving DecidableEq

/-- A value that was read from JSON. -/
inductive JsonValue where
  | null
  | bool (b : Bool)
  | int (n : ℤ)
  | float (x : JsonFloat)
  | str (s : WideStr)
  | list (items : List JsonValue)
  | dict (entries : List (WideStr × JsonValue))

/-- `SupervisorConfigError` with its text, or the `ValueError` of `str` for a number that is
too long. -/
inductive OptionError where
  | config (message : WideStr)
  | valueError
  deriving DecidableEq

/-! ### The options -/

def hostOptions : List WideStr := [wide "SOURCE_MQTT_HOST", wide "TARGET_MQTT_HOST"]

def portOptions : List WideStr := [wide "SOURCE_MQTT_PORT", wide "TARGET_MQTT_PORT"]

def passwordOptions : List WideStr := [wide "SOURCE_MQTT_PASS", wide "TARGET_MQTT_PASS"]

/-- `_RETIRED_OPTIONS` -/
def retiredOptions : List WideStr :=
  [wide "PUBLISH_SENSORS_RETAINED", wide "FILTER_DATA_GLITCHES"]

/-- `_DEFAULTS`; its keys are `_ALLOWED_OPTIONS`. -/
def optionDefaults : List (WideStr × JsonValue) :=
  [(wide "SOURCE_MQTT_HOST", .str (wide "homeassistant.local")),
   (wide "SOURCE_MQTT_PORT", .int 7006),
   (wide "SOURCE_MQTT_TLS", .bool true),
   (wide "SOURCE_MQTT_USER", .str []),
   (wide "SOURCE_MQTT_PASS", .str []),
   (wide "TARGET_MQTT_HOST", .str (wide "homeassistant.local")),
   (wide "TARGET_MQTT_PORT", .int 1883),
   (wide "TARGET_MQTT_TLS", .bool false),
   (wide "TARGET_MQTT_USER", .str []),
   (wide "TARGET_MQTT_PASS", .str []),
   (wide "MQTT_CLIENT_SUFFIX", .str []),
   (wide "HA_BASE_TOPIC", .str (wide "homeassistant")),
   (wide "GROWATT_CLOUD", .bool false),
   (wide "GROWATT_CLOUD_CONFIG_FILTER", .bool false),
   (wide "LOG_LEVEL", .str (wide "ERROR")),
   (wide "DUMP_MESSAGES", .bool false),
   (wide "DUMP_DIR", .str (wide "/share/GroBro/dump")),
   (wide "REGISTER_DEBUG", .bool false),
   (wide "REGISTER_DEBUG_DIR", .str (wide "/share/GroBro/register_debug")),
   (wide "REGISTER_DEBUG_MAX_REGISTER", .int 65535),
   (wide "REGISTER_DEBUG_CHANGES_ONLY", .bool true),
   (wide "DEVICE_TIMEOUT", .int 120),
   (wide "MAX_SLOTS", .int 1),
   (wide "MAX_BAT", .str (wide "auto")),
   (wide "AVAILABILITY_SENSOR", .bool false),
   (wide "TZ", .str []),
   (wide "KEEP_BATTERY_POSITION", .bool false)]

/-- `_ALLOWED_OPTIONS` -/
def allowedOptions : List WideStr := optionDefaults.map Prod.fst

def JsonValue.isBool : JsonValue → Bool
  | bool _ => true
  | _ => false

/-- `_BOOL_OPTIONS` -/
def boolOptions : List WideStr := (optionDefaults.filter fun p => p.2.isBool).map Prod.fst

/-- `_INT_OPTIONS` -/
def intOptions : List WideStr :=
  portOptions ++
    [wide "REGISTER_DEBUG_MAX_REGISTER", wide "DEVICE_TIMEOUT", wide "MAX_SLOTS"]

def logLevels : List WideStr := [wide "ERROR", wide "INFO", wide "DEBUG"]

/-! ### The checks -/

/-- An error that names its option first. -/
def optionError (key : WideStr) (text : String) : OptionError := .config (key ++ wide text)

/-- The range check of a number. -/
def numberError (key : WideStr) (number : ℤ) : Option OptionError :=
  if key ∈ portOptions ∧ ¬ (1 ≤ number ∧ number ≤ 65535) then
    some (optionError key ": Port muss zwischen 1 und 65535 liegen")
  else if key = wide "REGISTER_DEBUG_MAX_REGISTER" ∧ ¬ (0 ≤ number ∧ number ≤ 65535) then
    some (optionError key " muss zwischen 0 und 65535 liegen")
  else if key = wide "DEVICE_TIMEOUT" ∧ number < 0 then
    some (optionError key " darf nicht negativ sein")
  else if key = wide "MAX_SLOTS" ∧ ¬ (1 ≤ number ∧ number ≤ 9) then
    some (optionError key " muss zwischen 1 und 9 liegen")
  else none

section Normalize

variable [PyUnicode] [PyUpper]

/-- `int(value)` of a value that is no `bool`; `none` is a caught error. -/
def JsonValue.toInt : JsonValue → Option ℤ
  | int n => some n
  | float x => x.truncated
  | str s => intOfWide s
  | _ => none

/-- A float that is not its own `int`. -/
def JsonValue.isFraction : JsonValue → Bool
  | float x => !x.integral
  | _ => false

/-- An option of `_INT_OPTIONS`. -/
def normalizeNumber (key : WideStr) (value : JsonValue) : Except OptionError JsonValue :=
  if value.isBool then .error (optionError key ": Zahl erwartet")
  else match value.toInt with
    | none => .error (optionError key ": ungültige Zahl")
    | some number =>
        if value.isFraction then .error (optionError key ": ungültige Zahl")
        else match numberError key number with
          | some error => .error error
          | none => .ok (.int number)

/-- `str(n)`, which refuses a number of more than 4300 digits. -/
def intText (n : ℤ) : Except OptionError WideStr :=
  if (toString n.natAbs).length ≤ 4300 then .ok (wide (toString n)) else .error .valueError

/-- `"" if value is None else str(value)` -/
def valueText (key : WideStr) : JsonValue → Except OptionError WideStr
  | .null => .ok []
  | .bool b => .ok (wide (if b then "True" else "False"))
  | .int n => intText n
  | .float x => .ok (wide x.repr)
  | .str s => .ok s
  | .list _ | .dict _ => .error (optionError key ": Text erwartet")

/-- Everything but a password is stripped. -/
def cleanText (key text : WideStr) : WideStr :=
  if key ∈ passwordOptions then text else stripWide text

/-- The battery limit: `auto`, or a number from 1 to 4. -/
def checkMaxBat (text : WideStr) : Except OptionError WideStr :=
  if text = wide "auto" then .ok text
  else match intOfWide text with
    | none => .error (.config (wide "MAX_BAT ist ungültig"))
    | some count =>
        if 1 ≤ count ∧ count ≤ 4 then .ok (wide (toString count))
        else .error (.config (wide "MAX_BAT muss auto oder 1 bis 4 sein"))

/-- The checks of a text. -/
def checkText (key text : WideStr) : Except OptionError WideStr :=
  if key ∈ hostOptions ∧ text = [] then .error (optionError key ": MQTT-Host darf nicht leer sein")
  else if key = wide "HA_BASE_TOPIC" then
    if text.any (· ∈ wide "+#\x00") then
      .error (optionError key " enthält ungültige MQTT-Zeichen")
    else if (narrow text).isNone then .error (optionError key " ist kein gültiger UTF-8-Text")
    else .ok text
  else if key = wide "LOG_LEVEL" then
    if upperWide text ∈ logLevels then .ok (upperWide text)
    else .error (optionError key " ist ungültig")
  else if key = wide "MAX_BAT" then checkMaxBat text
  else .ok text

/-- The loop body, for an option that is allowed. -/
def normalizeValue (key : WideStr) (value : JsonValue) : Except OptionError JsonValue :=
  if key ∈ boolOptions then
    if value.isBool then .ok value else .error (optionError key ": boolescher Wert erwartet")
  else if key ∈ intOptions then normalizeNumber key value
  else do
    let text ← valueText key value
    let text ← checkText key (cleanText key text)
    return .str text

/-- `normalize_options` -/
def normalizeOptions : JsonValue → Except OptionError (Dict WideStr JsonValue)
  | .dict entries =>
      entries.foldlM (fun result (key, value) =>
        if key ∈ allowedOptions then do return result.insert key (← normalizeValue key value)
        else return result) ∅
  | _ => .error (.config (wide "Ungültige Optionen"))

end Normalize

/-! ### Stripped text -/

theorem dropWhile_rdropWhile {α : Type*} (p : α → Bool) {l : List α} (h : l.dropWhile p = l) :
    (l.rdropWhile p).dropWhile p = l.rdropWhile p := by
  rcases l with - | ⟨a, l⟩
  · rfl
  have ha : ¬ p a = true := by
    intro ha
    have hlength := congrArg List.length h
    rw [List.dropWhile_cons_of_pos ha, List.length_cons] at hlength
    have hle := (List.dropWhile_suffix (l := l) p).length_le
    omega
  rcases hr : (a :: l).rdropWhile p with - | ⟨b, t⟩
  · rfl
  obtain ⟨rest, hrest⟩ := List.rdropWhile_prefix p (a :: l)
  rw [hr, List.cons_append] at hrest
  obtain ⟨rfl, -⟩ := List.cons.inj hrest
  exact List.dropWhile_cons_of_neg ha

theorem stripWide_stripWide (s : WideStr) : stripWide (stripWide s) = stripWide s := by
  have hdrop : (s.dropWhile (·.isSpace)).dropWhile (·.isSpace) = s.dropWhile (·.isSpace) :=
    List.dropWhile_idempotent _ s
  rw [stripWide, stripWide, dropWhile_rdropWhile _ hdrop, List.rdropWhile_idempotent]

theorem cleanText_cleanText (key text : WideStr) :
    cleanText key (cleanText key text) = cleanText key text := by
  unfold cleanText
  split_ifs
  · rfl
  · exact stripWide_stripWide text

theorem stripWide_logLevel {s : WideStr} (h : s ∈ logLevels) : stripWide s = s := by
  have hall : ∀ s ∈ logLevels, stripWide s = s := by decide +kernel
  exact hall s h

section Fixpoint

/-- A character before the small letters is its own upper case. -/
theorem toUpper_eq_self {c : Char} (h : c.toNat < 97) : c.toUpper = c := by
  have hsmall : ¬ ('a'.val ≤ c.val ∧ c.val ≤ 'z'.val) := by
    rintro ⟨ha, -⟩
    have hnat : 97 ≤ c.toNat := UInt32.le_iff_toNat_le.mp ha
    omega
  rw [Char.toUpper, dif_neg hsmall]

variable [PyUpper]

/-- Capitals of ASCII stay. -/
theorem upperWide_of_capitals {s : WideStr}
    (h : ∀ x ∈ s, ∃ c : Char, x = .scalar c ∧ c.toNat < 97) : upperWide s = s := by
  induction s with
  | nil => rfl
  | cons x s ih =>
      obtain ⟨c, rfl, hcapital⟩ := h x List.mem_cons_self
      rw [upperWide, List.flatMap_cons]
      dsimp only
      rw [PyUpper.ascii c (by omega), toUpper_eq_self hcapital]
      exact congrArg (WideChar.scalar c :: ·) (ih fun y hy => h y (List.mem_cons_of_mem _ hy))

theorem upperWide_logLevel {s : WideStr} (h : s ∈ logLevels) : upperWide s = s := by
  let capitals := ['E', 'R', 'O', 'I', 'N', 'F', 'D', 'B', 'U', 'G']
  have hcapital : ∀ c ∈ capitals, c.toNat < 97 := by simp [capitals]
  have hchars : ∀ s ∈ logLevels, ∀ x ∈ s, x ∈ capitals.map .scalar := by decide +kernel
  apply upperWide_of_capitals
  intro x hx
  obtain ⟨c, hc, rfl⟩ := List.mem_map.mp (hchars s h x hx)
  exact ⟨c, rfl, hcapital c hc⟩

variable [PyUnicode]

omit [PyUpper] in
/-- The numbers of batteries, as they are written. -/
theorem maxBat_text {count : ℤ} (h : 1 ≤ count ∧ count ≤ 4) :
    intOfWide (wide (toString count)) = some count ∧
      stripWide (wide (toString count)) = wide (toString count) ∧
      wide (toString count) ≠ wide "auto" := by
  have hcount : count = 1 ∨ count = 2 ∨ count = 3 ∨ count = 4 := by omega
  rcases hcount with rfl | rfl | rfl | rfl
  · exact ⟨intOfText_digit (d := '1') (by decide), by decide +kernel, by decide +kernel⟩
  · exact ⟨intOfText_digit (d := '2') (by decide), by decide +kernel, by decide +kernel⟩
  · exact ⟨intOfText_digit (d := '3') (by decide), by decide +kernel, by decide +kernel⟩
  · exact ⟨intOfText_digit (d := '4') (by decide), by decide +kernel, by decide +kernel⟩

/-- What the checks make of a text. -/
theorem checkText_cases {key text t : WideStr} (h : checkText key text = .ok t) :
    t = text ∨ (key = wide "LOG_LEVEL" ∧ t ∈ logLevels) ∨
      (key = wide "MAX_BAT" ∧ ∃ count : ℤ, (1 ≤ count ∧ count ≤ 4) ∧ t = wide (toString count)) := by
  unfold checkText at h
  split_ifs at h with hhost htopic hchars hutf8 hlevel hin hmax
  · exact Or.inl (Except.ok.inj h).symm
  · exact Or.inr (Or.inl ⟨hlevel, (Except.ok.inj h) ▸ hin⟩)
  · unfold checkMaxBat at h
    split_ifs at h with hauto
    · exact Or.inl (Except.ok.inj h).symm
    · split at h
      · cases h
      next count _ =>
        split_ifs at h with hcount
        exact Or.inr (Or.inr ⟨hmax, count, hcount, (Except.ok.inj h).symm⟩)
  · exact Or.inl (Except.ok.inj h).symm

/-- A text that was checked is clean and passes its checks. -/
theorem checkText_again {key raw t : WideStr} (h : checkText key (cleanText key raw) = .ok t) :
    cleanText key t = t ∧ checkText key t = .ok t := by
  rcases checkText_cases h with rfl | ⟨rfl, hlevel⟩ | ⟨rfl, count, hcount, rfl⟩
  · exact ⟨cleanText_cleanText key raw, h⟩
  · have hplain : wide "LOG_LEVEL" ∉ passwordOptions ∧ wide "LOG_LEVEL" ∉ hostOptions ∧
        wide "LOG_LEVEL" ≠ wide "HA_BASE_TOPIC" := by decide +kernel
    constructor
    · rw [cleanText, if_neg hplain.1, stripWide_logLevel hlevel]
    · rw [checkText, if_neg fun he => hplain.2.1 he.1, if_neg hplain.2.2, if_pos rfl,
        upperWide_logLevel hlevel, if_pos hlevel]
  · have hplain : wide "MAX_BAT" ∉ passwordOptions ∧ wide "MAX_BAT" ∉ hostOptions ∧
        wide "MAX_BAT" ≠ wide "HA_BASE_TOPIC" ∧ wide "MAX_BAT" ≠ wide "LOG_LEVEL" := by
      decide +kernel
    obtain ⟨hint, hstrip, hauto⟩ := maxBat_text hcount
    constructor
    · rw [cleanText, if_neg hplain.1, hstrip]
    · rw [checkText, if_neg fun he => hplain.2.1 he.1, if_neg hplain.2.2.1, if_neg hplain.2.2.2,
        if_pos rfl, checkMaxBat, if_neg hauto, hint]
      exact if_pos hcount

omit [PyUpper] in
theorem normalizeNumber_again {key : WideStr} {value v : JsonValue}
    (h : normalizeNumber key value = .ok v) : normalizeNumber key v = .ok v := by
  unfold normalizeNumber at h
  by_cases hbool : value.isBool = true
  · rw [if_pos hbool] at h
    cases h
  rw [if_neg hbool] at h
  rcases hint : value.toInt with - | number
  · rw [hint] at h
    cases h
  rw [hint] at h
  dsimp only at h
  by_cases hfraction : value.isFraction = true
  · rw [if_pos hfraction] at h
    cases h
  rw [if_neg hfraction] at h
  rcases hrange : numberError key number with - | error
  · rw [hrange] at h
    obtain rfl := Except.ok.inj h
    simp [normalizeNumber, JsonValue.isBool, JsonValue.toInt, JsonValue.isFraction, hrange]
  · rw [hrange] at h
    cases h

/-- **What a check returns passes the check unchanged.** -/
theorem normalizeValue_again {key : WideStr} {value v : JsonValue}
    (h : normalizeValue key value = .ok v) : normalizeValue key v = .ok v := by
  unfold normalizeValue at h
  by_cases hbool : key ∈ boolOptions
  · rw [if_pos hbool] at h
    split_ifs at h with hvalue
    obtain rfl := Except.ok.inj h
    rw [normalizeValue, if_pos hbool, if_pos hvalue]
  rw [if_neg hbool] at h
  by_cases hint : key ∈ intOptions
  · rw [if_pos hint] at h
    rw [normalizeValue, if_neg hbool, if_pos hint]
    exact normalizeNumber_again h
  rw [if_neg hint] at h
  rcases htext : valueText key value with error | raw
  · rw [htext] at h
    cases h
  rw [htext, ok_bind] at h
  rcases hcheck : checkText key (cleanText key raw) with error | t
  · rw [hcheck] at h
    cases h
  rw [hcheck, ok_bind] at h
  obtain rfl := Except.ok.inj h
  obtain ⟨hclean, hagain⟩ := checkText_again hcheck
  rw [normalizeValue, if_neg hbool, if_neg hint, valueText, ok_bind, hclean, hagain]
  rfl

/-- A dictionary of options as they are written. -/
def NormalOptions (options : Dict WideStr JsonValue) : Prop :=
  ∀ key value, options.get? key = some value →
    key ∈ allowedOptions ∧ normalizeValue key value = .ok value

theorem normalOptions_loop {entries : List (WideStr × JsonValue)}
    {result options : Dict WideStr JsonValue} (hresult : NormalOptions result)
    (h : entries.foldlM (fun result (key, value) =>
        if key ∈ allowedOptions then do return result.insert key (← normalizeValue key value)
        else return result) result = Except.ok options) : NormalOptions options := by
  induction entries generalizing result with
  | nil =>
      obtain rfl := Except.ok.inj h
      exact hresult
  | cons entry entries ih =>
      obtain ⟨key, value⟩ := entry
      rw [List.foldlM_cons] at h
      dsimp only at h
      split_ifs at h with hallowed
      · rcases hvalue : normalizeValue key value with error | v
        · rw [hvalue] at h
          cases h
        · rw [hvalue] at h
          refine ih ?_ h
          intro key' value' hget
          rw [Dict.get?_insert] at hget
          split_ifs at hget with he
          · obtain rfl := Option.some.inj hget
            exact ⟨he ▸ hallowed, he ▸ normalizeValue_again hvalue⟩
          · exact hresult key' value' hget
      · exact ih hresult h

/-- Every option that is written satisfies the checks. -/
theorem normalOptions_of_normalizeOptions {raw : JsonValue} {options : Dict WideStr JsonValue}
    (h : normalizeOptions raw = .ok options) : NormalOptions options := by
  cases raw with
  | dict entries =>
      refine normalOptions_loop ?_ h
      intro key value hget
      cases hget
  | _ => cases h

/-- Options that come of a dict: its allowed options, each as its check returns it, and
nothing else. -/
structure NormalizesTo (given options : Dict WideStr JsonValue) : Prop where
  allowed : ∀ key ∈ allowedOptions, ∀ value, given.get? key = some value →
    ∃ v, normalizeValue key value = .ok v ∧ options.get? key = some v
  other : ∀ key, key ∉ allowedOptions ∨ given.get? key = none → options.get? key = none

theorem normalizesTo_loop {entries : List (WideStr × JsonValue)}
    {given result options : Dict WideStr JsonValue} (hresult : NormalizesTo given result)
    (h : entries.foldlM (fun result (key, value) =>
        if key ∈ allowedOptions then do return result.insert key (← normalizeValue key value)
        else return result) result = Except.ok options) :
    NormalizesTo (entries.foldl (fun d p => d.insert p.1 p.2) given) options := by
  induction entries generalizing given result with
  | nil =>
      obtain rfl := Except.ok.inj h
      exact hresult
  | cons entry entries ih =>
      obtain ⟨key, value⟩ := entry
      rw [List.foldlM_cons] at h
      rw [List.foldl_cons]
      dsimp only at h ⊢
      split_ifs at h with hallowed
      · rcases hvalue : normalizeValue key value with error | v
        · rw [hvalue] at h
          cases h
        rw [hvalue] at h
        refine ih ⟨fun key' hkey' value' hget => ?_, fun key' hkey' => ?_⟩ h
        · by_cases he : key = key'
          · subst he
            rw [Dict.get?_insert_self] at hget ⊢
            exact ⟨v, Option.some.inj hget ▸ hvalue, rfl⟩
          · rw [Dict.get?_insert_of_ne _ he] at hget ⊢
            exact hresult.allowed key' hkey' value' hget
        · have he : key ≠ key' := by
            rintro rfl
            rw [Dict.get?_insert_self] at hkey'
            exact hkey'.elim (absurd hallowed) (Option.some_ne_none value)
          rw [Dict.get?_insert_of_ne _ he] at hkey' ⊢
          exact hresult.other key' hkey'
      -- an option that is not allowed is passed over
      · refine ih ⟨fun key' hkey' value' hget => ?_, fun key' hkey' => ?_⟩ h
        · have he : key ≠ key' := by
            rintro rfl
            exact hallowed hkey'
          rw [Dict.get?_insert_of_ne _ he] at hget
          exact hresult.allowed key' hkey' value' hget
        · by_cases he : key = key'
          · exact hresult.other key' (Or.inl (he ▸ hallowed))
          · rw [Dict.get?_insert_of_ne _ he] at hkey'
            exact hresult.other key' hkey'

/-- **Every allowed option that is given comes out**, as its check returns it. -/
theorem normalizesTo_of_normalizeOptions {raw : JsonValue} {options : Dict WideStr JsonValue}
    (h : normalizeOptions raw = .ok options) :
    ∃ entries, raw = .dict entries ∧ NormalizesTo (.ofList entries) options := by
  cases raw with
  | dict entries =>
      refine ⟨entries, rfl, normalizesTo_loop ⟨fun key _ value hget => ?_, fun _ _ => rfl⟩ h⟩
      cases hget
  | _ => cases h

/-- Options that satisfy the checks go through unchanged. -/
theorem normalizeOptions_of_normalOptions {options : Dict WideStr JsonValue}
    (h : NormalOptions options) : normalizeOptions (.dict options.entries) = .ok options := by
  have hloop : ∀ (entries : List (WideStr × JsonValue)) (result : Dict WideStr JsonValue),
      (∀ entry ∈ entries, entry ∈ options.entries) →
      entries.foldlM (fun result (key, value) =>
        if key ∈ allowedOptions then do return result.insert key (← normalizeValue key value)
        else return result) result =
        Except.ok (entries.foldl (fun d p => d.insert p.1 p.2) result) := by
    intro entries
    induction entries with
    | nil =>
        intro result _
        rfl
    | cons entry entries ih =>
        intro result hmem
        obtain ⟨key, value⟩ := entry
        obtain ⟨hallowed, hvalue⟩ := h key value
          ((Dict.mem_entries options).mp (hmem _ List.mem_cons_self))
        rw [List.foldlM_cons]
        dsimp only
        rw [if_pos hallowed, hvalue]
        exact ih _ fun entry he => hmem entry (List.mem_cons_of_mem _ he)
  rw [normalizeOptions, hloop options.entries ∅ fun _ he => he]
  exact congrArg Except.ok (Dict.ext (Dict.entries_ofList options.nodup))

/-- **A normalised dict is its own normal form.** -/
theorem normalizeOptions_normalized {raw : JsonValue} {options : Dict WideStr JsonValue}
    (h : normalizeOptions raw = .ok options) :
    normalizeOptions (.dict options.entries) = .ok options :=
  normalizeOptions_of_normalOptions (normalOptions_of_normalizeOptions h)

end Fixpoint

end GroBro
