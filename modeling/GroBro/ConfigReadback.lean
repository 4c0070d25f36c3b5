/-
GroBro/ConfigReadback.lean

What `Client.__on_message` of `grobro/grobro/client.py` does with the response to a
configuration read.  Each entry is looked up in the config registers of the device, may
be metadata for `on_config`, is published as a readback, and is reported to
`on_config_read_response`.  Register 7 is the password of the datalogger: its readback
is an empty value.

The mask is put on entry by entry, and below it nothing of the value is seen
(`entryCalls_masked`), so two responses that differ in passwords lead to the same calls
if the parser finds the same entries in both.  An empty value ends the list of entries,
and in front it makes everything behind it the value of the first register, password and
all.  `passwordHidden_of_readAlike` says for which pairs of responses the calls are the same.
-/
import GroBro.ConfigResponse
import GroBro.Machine
import GroBro.MessageDispatch
import GroBro.Topics

namespace GroBro

open ByteCodec Framing Machine

/-! ### `int` of a text -/

/-- White space around an integer in a text without non-ASCII digits. -/
def isIntSpace (c : Char) : Bool := (9 ≤ c.toNat && c.toNat ≤ 13) || c == ' '

/-- Digits, with single underscores between them. -/
def parseDigits : PyStr → Option (List ℕ)
  | [] => none
  | [c] => if c.isDigit then some [c.toNat - 48] else none
  | c :: '_' :: rest =>
      if c.isDigit then (parseDigits rest).map ((c.toNat - 48) :: ·) else none
  | c :: rest => if c.isDigit then (parseDigits rest).map ((c.toNat - 48) :: ·) else none

def splitSign : PyStr → ℤ × PyStr
  | '-' :: text => (-1, text)
  | '+' :: text => (1, text)
  | text => (1, text)

/-- `int(value)`, for what the ASCII codec decodes; `none` is a `ValueError`, also of the
limit on the number of digits. -/
def parseInt (value : PyStr) : Option ℤ :=
  let (sign, text) := splitSign (stripBy isIntSpace value)
  match parseDigits text with
  | none => none
  | some digits =>
      if 4300 < digits.length then none
      else some (sign * (digits.foldl (fun n d => n * 10 + d) 0 : ℕ))

/-! ### Calls of a response -/

/-- The value of a readback: a text, or an integer. -/
inductive ReadbackValue where
  | text (s : PyStr)
  | int (n : ℤ)
  deriving DecidableEq, Repr

/-- `str(value)` -/
def ReadbackValue.str : ReadbackValue → PyStr
  | .text s => s
  | .int n => (toString n).toList

/-- A call that a response leads to. -/
inductive ReadbackCall where
  | onConfig (deviceId : PyStr) (config : DeviceConfig)
  | onConfigRegisterValue (deviceId : PyStr) (registerNo : ℕ) (value : ReadbackValue)
      (retain : Bool)
  | publish (topic : PyStr) (value : ReadbackValue) (retain : Bool)
  | onConfigReadResponse (deviceId : PyStr) (registerNo : ℕ)

structure ReadbackSetup where
  haBaseTopic : PyStr
  /-- `on_config_register_value` is callable. -/
  onConfigRegisterValue : Bool
  /-- `on_config_read_response` is set. -/
  onConfigReadResponse : Bool
  /-- Whether the last of some calls raises, where it is one of `on_config`; the other
  exceptions are caught and change nothing. -/
  onConfigRaises : List ReadbackCall → Bool

/-- The fields that registers are metadata of, by their names. -/
def metadataFields : List (PyStr × ConfigField) :=
  [("software_version".toList, .swVersion), ("hardware_version".toList, .hwVersion),
    ("data_interval".toList, .dataInterval), ("local_ip".toList, .localIp),
    ("wifi_signal_strength".toList, .wifiSignal)]

/-- `DeviceConfig(serial_number=..., **{metadata_field: ...})` -/
def metadataConfig (serialNumber : PyStr) (field : ConfigField) (value : PyStr) : DeviceConfig :=
  DeviceConfig.make fun f =>
    if f = .serialNumber then some serialNumber else if f = field then some value else none

section Calls

variable (setup : ReadbackSetup) (client : BridgeClient) (deviceId : PyStr)

/-- The value of an entry: an integer, if its register has integers and it is one. -/
def entryValue (e : ConfigEntry) : ReadbackValue :=
  match findConfigRegister deviceId e.registerNo with
  | none => .text e.value
  | some (_, register) =>
      if register.dataType = .int then
        match parseInt e.value with
        | none => .text e.value
        | some n => .int n
      else .text e.value

/-- The calls of `on_config` for metadata; the Wi-Fi signal of a gateway is also that of
the inverter behind it. -/
def metadataCalls (before : List ReadbackCall) (field : ConfigField) (value : PyStr) :
    List ReadbackCall :=
  let call := .onConfig deviceId (metadataConfig deviceId field value)
  if setup.onConfigRaises (before ++ [call]) then [call]
  else if field = .wifiSignal then
    match client.ptqForRaq.get? deviceId with
    | none => [call]
    | some mappedNeo =>
        if mappedNeo = [] then [call]
        else [call, .onConfig mappedNeo (metadataConfig mappedNeo .wifiSignal value)]
  else [call]

/-- The loop's body. -/
def entryCalls (before : List ReadbackCall) (e : ConfigEntry) : List ReadbackCall :=
  let register := findConfigRegister deviceId e.registerNo
  let value := entryValue deviceId e
  let metadata := match register.bind fun p => metadataFields.lookup p.1 with
    | none => []
    | some field => metadataCalls setup client deviceId before field value.str
  let retain := register.any fun p => p.2.publish
  let (value, retain) := if e.registerNo = 7 then (.text [], true) else (value, retain)
  let readback := if setup.onConfigRegisterValue then
      .onConfigRegisterValue deviceId e.registerNo value retain
    else .publish (readbackTopic setup.haBaseTopic deviceId e.registerNo) value retain
  metadata ++ readback ::
    if setup.onConfigReadResponse then [.onConfigReadResponse deviceId e.registerNo] else []

def entryStep (calls : List ReadbackCall) (e : ConfigEntry) : List ReadbackCall :=
  calls ++ entryCalls setup client deviceId calls e

/-- The branch for responses to configuration reads. -/
def onConfigResponse (data : Bytes) : List ReadbackCall :=
  match parseConfigMessage data with
  | .error _ => []
  | .ok cfg =>
      let entries := if cfg.entries = [] then [⟨cfg.registerNo, cfg.value⟩] else cfg.entries
      run (entryStep setup client cfg.deviceId) [] entries

/-- The calls of these kinds that a packet leads to, whatever it is taken for. -/
def packetCalls {F : Type*} [PyFloat F] (bridge : BridgeSetup F) (unscrambled : Bytes) :
    List ReadbackCall :=
  (onUnscrambled bridge client deviceId unscrambled).2.flatMap fun
    | .onConfig d config => [.onConfig d config]
    | .configReadResponse data => onConfigResponse setup client data
    | _ => []

end Calls

/-! ### What is seen of the calls -/

/-- The readback that a call publishes; `publish_config_register_value` hides the password
once more. -/
def ReadbackCall.readback? (base : PyStr) : ReadbackCall → Option (PyStr × ReadbackValue × Bool)
  | .onConfigRegisterValue d registerNo value retain =>
      some (if registerNo = 7 then (readbackTopic base d registerNo, .text [], true)
        else (readbackTopic base d registerNo, value, retain))
  | .publish topic value retain => some (topic, value, retain)
  | .onConfig _ _ => none
  | .onConfigReadResponse _ _ => none

def ReadbackCall.config? : ReadbackCall → Option (PyStr × DeviceConfig)
  | .onConfig d config => some (d, config)
  | _ => none

def ReadbackCall.response? : ReadbackCall → Option (PyStr × ℕ)
  | .onConfigReadResponse d registerNo => some (d, registerNo)
  | _ => none

/-- Two lists of calls show the same: readbacks, configs and reported registers. -/
structure SameReadbacks (base : PyStr) (calls calls' : List ReadbackCall) : Prop where
  readbacks : calls.filterMap (ReadbackCall.readback? base) =
    calls'.filterMap (ReadbackCall.readback? base)
  configs : calls.filterMap ReadbackCall.config? = calls'.filterMap ReadbackCall.config?
  responses : calls.filterMap ReadbackCall.response? = calls'.filterMap ReadbackCall.response?

theorem SameReadbacks.symm {base : PyStr} {calls calls' : List ReadbackCall}
    (h : SameReadbacks base calls calls') : SameReadbacks base calls' calls :=
  ⟨h.readbacks.symm, h.configs.symm, h.responses.symm⟩

theorem SameReadbacks.of_eq {base : PyStr} {calls calls' : List ReadbackCall} (h : calls = calls') :
    SameReadbacks base calls calls' := by
  subst h
  exact ⟨rfl, rfl, rfl⟩

/-! ### The mask -/

/-- An entry without its value, if it is the password. -/
def ConfigEntry.masked (e : ConfigEntry) : ConfigEntry := if e.registerNo = 7 then ⟨7, []⟩ else e

section Mask

variable {setup : ReadbackSetup} {client : BridgeClient} {d : PyStr} {e e' : ConfigEntry}

theorem registerNo_masked (e : ConfigEntry) : e.masked.registerNo = e.registerNo := by
  unfold ConfigEntry.masked
  split_ifs with he
  · exact he.symm
  · rfl

/-- No family has a config register for the password. -/
theorem findConfigRegister_password (d : PyStr) : findConfigRegister d 7 = none := by
  rw [findConfigRegister]
  cases getDeviceFamily d with
  | none => rfl
  | some family => cases family <;> rfl

theorem entryCalls_password (setup : ReadbackSetup) (client : BridgeClient) (d : PyStr)
    (before : List ReadbackCall) (value : PyStr) :
    entryCalls setup client d before ⟨7, value⟩ = entryCalls setup client d before ⟨7, []⟩ := by
  rw [entryCalls, entryCalls]
  dsimp only
  rw [findConfigRegister_password]
  rfl

/-- The calls for an entry do not depend on what the mask hides. -/
theorem entryCalls_masked (h : e.masked = e'.masked) (before : List ReadbackCall) :
    entryCalls setup client d before e = entryCalls setup client d before e' := by
  have hregister : e.registerNo = e'.registerNo := by
    rw [← registerNo_masked e, h, registerNo_masked]
  obtain ⟨registerNo, value⟩ := e
  obtain ⟨registerNo', value'⟩ := e'
  obtain rfl : registerNo = registerNo' := hregister
  by_cases hpassword : registerNo = 7
  · subst hpassword
    rw [entryCalls_password, entryCalls_password _ _ _ _ value']
  · rw [ConfigEntry.masked, ConfigEntry.masked, if_neg hpassword, if_neg hpassword] at h
    rw [h]

/-- The readback of an entry. -/
def readbackOf (base d : PyStr) (e : ConfigEntry) : PyStr × ReadbackValue × Bool :=
  if e.registerNo = 7 then (readbackTopic base d e.registerNo, .text [], true)
  else (readbackTopic base d e.registerNo, entryValue d e,
    (findConfigRegister d e.registerNo).any fun p => p.2.publish)

theorem readback_metadataCalls (setup : ReadbackSetup) (client : BridgeClient) (d base : PyStr)
    (before : List ReadbackCall) (field : ConfigField) (value : PyStr) :
    (metadataCalls setup client d before field value).filterMap
      (ReadbackCall.readback? base) = [] := by
  unfold metadataCalls
  dsimp only
  split_ifs
  · rfl
  · cases client.ptqForRaq.get? d with
    | none => rfl
    | some mappedNeo =>
        dsimp only
        split_ifs <;> rfl
  · rfl

/-- Every entry is published once. -/
theorem readback_entryCalls (setup : ReadbackSetup) (client : BridgeClient) (d : PyStr)
    (before : List ReadbackCall) (e : ConfigEntry) :
    (entryCalls setup client d before e).filterMap (ReadbackCall.readback? setup.haBaseTopic) =
      [readbackOf setup.haBaseTopic d e] := by
  have hmetadata : ∀ field : Option ConfigField,
      (match field with
        | none => []
        | some field => metadataCalls setup client d before field (entryValue d e).str).filterMap
          (ReadbackCall.readback? setup.haBaseTopic) = [] := by
    intro field
    cases field with
    | none => rfl
    | some field => exact readback_metadataCalls setup client d _ before field _
  have hresponse : (if setup.onConfigReadResponse then
      [ReadbackCall.onConfigReadResponse d e.registerNo] else []).filterMap
        (ReadbackCall.readback? setup.haBaseTopic) = [] := by
    split_ifs <;> rfl
  rw [entryCalls]
  dsimp only
  rw [List.filterMap_append, hmetadata, List.nil_append, List.filterMap_cons_some, hresponse]
  rw [readbackOf]
  by_cases hpassword : e.registerNo = 7
  · rw [if_pos hpassword, if_pos hpassword]
    split_ifs
    · show some (if e.registerNo = 7 then _ else _) = _
      rw [if_pos hpassword]
    · rfl
  · rw [if_neg hpassword, if_neg hpassword]
    split_ifs
    · show some (if e.registerNo = 7 then _ else _) = _
      rw [if_neg hpassword]
    · rfl

/-- The readbacks of a response are those of its entries. -/
theorem readback_run (setup : ReadbackSetup) (client : BridgeClient) (d : PyStr)
    (before : List ReadbackCall) (entries : List ConfigEntry) :
    (run (entryStep setup client d) before entries).filterMap
        (ReadbackCall.readback? setup.haBaseTopic) =
      before.filterMap (ReadbackCall.readback? setup.haBaseTopic) ++
        entries.map (readbackOf setup.haBaseTopic d) := by
  induction entries generalizing before with
  | nil => exact (List.append_nil _).symm
  | cons e entries ih =>
      rw [run_cons, ih, entryStep, List.filterMap_append, readback_entryCalls, List.append_assoc]
      rfl

end Mask

/-! ### Two lists of entries -/

/-- The same entry, but for the password. -/
structure SameButPassword (e e' : RawEntry) : Prop where
  registerNo : e.registerNo = e'.registerNo
  rawValue : e.registerNo ≠ 7 → e.rawValue = e'.rawValue

/-- How many entries the parser takes from a list that has some: it stops at the first
empty value, but always takes one. -/
def entriesTaken (entries : List RawEntry) : ℕ :=
  max 1 (entries.takeWhile (·.rawValue ≠ [])).length

/-- **The parser finds the same entries in both lists**, as far as the mask lets see them: it
takes the same number of them, and where an empty value of another register comes first,
everything behind it is the same text. -/
def FramedAlike : List RawEntry → List RawEntry → Prop
  | e :: rest, e' :: rest' =>
      entriesTaken (e :: rest) = entriesTaken (e' :: rest') ∧
        (e.rawValue = [] → e.registerNo ≠ 7 →
          configValue (entryFormat.encodeAll rest) = configValue (entryFormat.encodeAll rest'))
  | _, _ => True

section Pairs

variable {entries entries' rest rest' : List RawEntry} {e e' : RawEntry} {base d : PyStr}

theorem length_readRaw (hne : entries ≠ []) : (readRaw entries).length = entriesTaken entries := by
  obtain ⟨e, rest, rfl⟩ := List.exists_cons_of_ne_nil hne
  by_cases hempty : e.rawValue = []
  · have hnone : (e :: rest).takeWhile (·.rawValue ≠ []) = [] :=
      List.takeWhile_cons_of_neg (by simpa using hempty)
    rw [readRaw, if_pos hempty, entriesTaken, hnone]
    rfl
  · have hsome : 1 ≤ ((e :: rest).takeWhile (·.rawValue ≠ [])).length := by
      rw [List.takeWhile_cons_of_pos (by simpa using hempty)]
      exact Nat.le_add_left 1 _
    rw [readRaw, if_neg hempty, List.length_map, entriesTaken, max_eq_right hsome]

/-- A password in front, and nothing else taken. -/
theorem masked_readRaw_password (hpassword : e.registerNo = 7)
    (htaken : entriesTaken (e :: rest) = 1) :
    (readRaw (e :: rest)).map ConfigEntry.masked = [⟨7, []⟩] := by
  have hlength : (readRaw (e :: rest)).length = 1 :=
    (length_readRaw (List.cons_ne_nil _ _)).trans htaken
  obtain ⟨first, hfirst⟩ := List.length_eq_one_iff.mp hlength
  have hregister : first.registerNo = e.registerNo := by
    rw [readRaw] at hfirst
    split_ifs at hfirst with hempty
    · exact congrArg ConfigEntry.registerNo (List.cons.inj hfirst).1.symm
    · rw [List.takeWhile_cons_of_pos (by simpa using hempty), List.map_cons] at hfirst
      exact congrArg ConfigEntry.registerNo (List.cons.inj hfirst).1.symm
  rw [hfirst, List.map_singleton, ConfigEntry.masked, if_pos (hregister.trans hpassword)]

theorem SameButPassword.masked_entry (h : SameButPassword e e') :
    e.entry.masked = e'.entry.masked := by
  obtain ⟨registerNo, rawValue⟩ := e
  obtain ⟨registerNo', rawValue'⟩ := e'
  obtain ⟨hregister, hvalue⟩ := h
  obtain rfl : registerNo = registerNo' := hregister
  by_cases hpassword : registerNo = 7
  · show ite (registerNo = 7) _ _ = ite (registerNo = 7) _ _
    rw [if_pos hpassword, if_pos hpassword]
  · obtain rfl : rawValue = rawValue' := hvalue hpassword
    rfl

theorem masked_entries (h : List.Forall₂ SameButPassword entries entries') :
    entries.map (ConfigEntry.masked ∘ RawEntry.entry) =
      entries'.map (ConfigEntry.masked ∘ RawEntry.entry) := by
  induction h with
  | nil => rfl
  | cons hentry _ ih =>
      rw [List.map_cons, List.map_cons, ih]
      exact congrArg (· :: _) hentry.masked_entry

/-- Lists that are framed alike are read alike, up to the mask. -/
theorem masked_readRaw (h : List.Forall₂ SameButPassword entries entries')
    (hframed : FramedAlike entries entries') :
    (readRaw entries).map ConfigEntry.masked = (readRaw entries').map ConfigEntry.masked := by
  cases h with
  | nil => rfl
  | @cons e e' rest rest' hentry hrest =>
      obtain ⟨htaken, htext⟩ := hframed
      by_cases hboth : e.rawValue ≠ [] ∧ e'.rawValue ≠ []
      -- the parser takes as many entries from both
      · have hlength : ((e :: rest).takeWhile (·.rawValue ≠ [])).length =
            ((e' :: rest').takeWhile (·.rawValue ≠ [])).length := by
          have htaken' := htaken
          rw [← length_readRaw (List.cons_ne_nil _ _), ← length_readRaw (List.cons_ne_nil _ _),
            readRaw, readRaw, if_neg hboth.1, if_neg hboth.2, List.length_map,
            List.length_map] at htaken'
          exact htaken'
        have hprefix : List.Forall₂ SameButPassword
            ((e :: rest).takeWhile (·.rawValue ≠ [])) ((e' :: rest').takeWhile (·.rawValue ≠ [])) := by
          rw [List.prefix_iff_eq_take.mp (List.takeWhile_prefix (·.rawValue ≠ []) (l := e :: rest)),
            List.prefix_iff_eq_take.mp (List.takeWhile_prefix (·.rawValue ≠ []) (l := e' :: rest')),
            hlength]
          exact List.forall₂_take _ (List.Forall₂.cons hentry hrest)
        rw [readRaw, readRaw, if_neg hboth.1, if_neg hboth.2, List.map_map, List.map_map]
        exact masked_entries hprefix
      · by_cases hpassword : e.registerNo = 7
        -- an empty password: only that is taken
        · have hone : entriesTaken (e :: rest) = 1 := by
            by_cases hempty : e.rawValue = []
            · rw [← length_readRaw (List.cons_ne_nil _ _), readRaw, if_pos hempty]
              rfl
            · have hempty' : e'.rawValue = [] := not_not.mp fun h' => hboth ⟨hempty, h'⟩
              rw [htaken, ← length_readRaw (List.cons_ne_nil _ _), readRaw, if_pos hempty']
              rfl
          rw [masked_readRaw_password hpassword hone,
            masked_readRaw_password (hentry.registerNo.symm.trans hpassword) (htaken.symm.trans hone)]
        · have hvalue := hentry.rawValue hpassword
          have hempty : e.rawValue = [] := by
            by_contra hne
            exact hboth ⟨hne, fun h' => hne (hvalue.trans h')⟩
          rw [readRaw, readRaw, if_pos hempty, if_pos (hvalue.symm.trans hempty),
            htext hempty hpassword, hentry.registerNo]

/-! ### What an integer is made of -/

/-- The characters of an integer. -/
def IsIntChar (c : Char) : Prop := isIntSpace c = true ∨ c.isDigit = true ∨ c ∈ ['_', '+', '-']

theorem isDigit_of_parseDigits {text : PyStr} {digits : List ℕ} (h : parseDigits text = some digits) :
    ∀ c ∈ text, c.isDigit = true ∨ c = '_' := by
  induction text using parseDigits.induct generalizing digits with
  | case1 => cases h
  | case2 c hdigit =>
      intro c' hc'
      obtain rfl := List.mem_singleton.mp hc'
      exact Or.inl hdigit
  | case3 c hdigit =>
      rw [parseDigits, if_neg hdigit] at h
      cases h
  | case4 c rest hdigit ih =>
      rw [parseDigits, if_pos hdigit] at h
      obtain ⟨digits', hrest, -⟩ := Option.map_eq_some_iff.mp h
      intro c' hc'
      rcases List.mem_cons.mp hc' with rfl | hc'
      · exact Or.inl hdigit
      · rcases List.mem_cons.mp hc' with rfl | hc'
        · exact Or.inr rfl
        · exact ih hrest c' hc'
  | case5 c rest hdigit =>
      rw [parseDigits, if_neg hdigit] at h
      cases h
  | case6 c rest hne hunderscore hdigit ih =>
      rw [parseDigits, if_pos hdigit] at h
      · obtain ⟨digits', hrest, -⟩ := Option.map_eq_some_iff.mp h
        intro c' hc'
        rcases List.mem_cons.mp hc' with rfl | hc'
        · exact Or.inl hdigit
        · exact ih hrest c' hc'
      · exact hne
      · exact hunderscore
  | case7 c rest hne hunderscore hdigit =>
      rw [parseDigits, if_neg hdigit] at h
      · cases h
      · exact hne
      · exact hunderscore

theorem mem_splitSign {c : Char} {text : PyStr} (h : c ∈ text) :
    c ∈ ['+', '-'] ∨ c ∈ (splitSign text).2 := by
  unfold splitSign
  split
  · rcases List.mem_cons.mp h with rfl | hrest
    · exact Or.inl (by decide)
    · exact Or.inr hrest
  · rcases List.mem_cons.mp h with rfl | hrest
    · exact Or.inl (by decide)
    · exact Or.inr hrest
  · exact Or.inr h

theorem isIntChar_of_parseInt {value : PyStr} {n : ℤ} (h : parseInt value = some n) :
    ∀ c ∈ value, IsIntChar c := by
  intro c hc
  obtain ⟨before, after, hvalue, hbefore, hafter⟩ := exists_stripBy isIntSpace value
  rw [hvalue, List.mem_append, List.mem_append] at hc
  rcases hc with hc | hc | hc
  · exact Or.inl (hbefore c hc)
  · rcases hdigits : parseDigits (splitSign (stripBy isIntSpace value)).2 with - | digits
    · rw [parseInt] at h
      dsimp only at h
      rw [hdigits] at h
      cases h
    · rcases mem_splitSign hc with hsign | htext
      · exact Or.inr (Or.inr (List.mem_cons_of_mem _ hsign))
      · rcases isDigit_of_parseDigits hdigits c htext with hdigit | rfl
        · exact Or.inr (Or.inl hdigit)
        · exact Or.inr (Or.inr List.mem_cons_self)
  · exact Or.inl (hafter c hc)

/-- The character of the number of the password's register, which no integer has. -/
def passwordMark : Char := Char.ofNat 7

theorem parseInt_of_mark {value : PyStr} (h : passwordMark ∈ value) : parseInt value = none := by
  by_contra hint
  obtain ⟨n, hn⟩ := Option.ne_none_iff_exists'.mp hint
  rcases isIntChar_of_parseInt hn passwordMark h with hspace | hdigit | hother
  · exact absurd hspace (by decide)
  · exact absurd hdigit (by decide)
  · exact absurd hother (by decide)

/-- The bytes of a list with a password show its register. -/
theorem mark_mem_configValue (h : ∃ e ∈ rest, e.registerNo = 7) :
    passwordMark ∈ configValue (entryFormat.encodeAll rest) := by
  obtain ⟨e, he, hpassword⟩ := h
  have hbyte : (7 : UInt8) ∈ e.wire := by
    rw [RawEntry.wire, hpassword]
    exact List.mem_append_left _ (by decide)
  have hbytes : (7 : UInt8) ∈ entryFormat.encodeAll rest := List.mem_flatMap.mpr ⟨e, he, hbyte⟩
  have hchar : passwordMark ∈ decodeReplace (entryFormat.encodeAll rest) :=
    List.mem_map.mpr ⟨7, hbytes, rfl⟩
  obtain ⟨before, after, htext, hbefore, hafter⟩ :=
    exists_stripBy (· == nul) (decodeReplace (entryFormat.encodeAll rest))
  rw [htext, List.mem_append, List.mem_append] at hchar
  rcases hchar with hnul | hchar | hnul
  · exact absurd (hbefore _ hnul) (by decide)
  · exact hchar
  · exact absurd (hafter _ hnul) (by decide)

/-- Lists that differ have a password. -/
theorem eq_or_password (h : List.Forall₂ SameButPassword rest rest') :
    rest = rest' ∨ (∃ e ∈ rest, e.registerNo = 7) ∧ ∃ e ∈ rest', e.registerNo = 7 := by
  induction h with
  | nil => exact Or.inl rfl
  | @cons e e' rest rest' hentry _ ih =>
      by_cases hpassword : e.registerNo = 7
      · exact Or.inr ⟨⟨e, List.mem_cons_self, hpassword⟩,
          ⟨e', List.mem_cons_self, hentry.registerNo.symm.trans hpassword⟩⟩
      · obtain rfl : e = e' := by
          obtain ⟨registerNo, rawValue⟩ := e
          obtain ⟨rfl, hvalue⟩ := hentry
          rw [show rawValue = e'.rawValue from hvalue hpassword]
        rcases ih with rfl | ⟨⟨p, hp, hseven⟩, ⟨p', hp', hseven'⟩⟩
        · exact Or.inl rfl
        · exact Or.inr ⟨⟨p, List.mem_cons_of_mem _ hp, hseven⟩,
            ⟨p', List.mem_cons_of_mem _ hp', hseven'⟩⟩

theorem entryValue_of_mark {registerNo : ℕ} {value : PyStr} (h : passwordMark ∈ value) :
    entryValue d ⟨registerNo, value⟩ = .text value := by
  rw [entryValue]
  cases findConfigRegister d registerNo with
  | none => rfl
  | some p =>
      dsimp only
      rw [parseInt_of_mark h, ite_self]

/-- **Readbacks show how a list is framed.** -/
theorem framedAlike_of_readbacks (h : List.Forall₂ SameButPassword entries entries')
    (hreadbacks : (readRaw entries).map (readbackOf base d) =
      (readRaw entries').map (readbackOf base d)) :
    FramedAlike entries entries' := by
  cases h with
  | nil => trivial
  | @cons e e' rest rest' hentry hrest =>
      refine ⟨?_, ?_⟩
      · have hlength := congrArg List.length hreadbacks
        rw [List.length_map, List.length_map, length_readRaw (List.cons_ne_nil _ _),
          length_readRaw (List.cons_ne_nil _ _)] at hlength
        exact hlength
      · intro hempty hpassword
        rcases eq_or_password hrest with rfl | ⟨hmark, hmark'⟩
        · rfl
        · have hpassword' : e'.registerNo ≠ 7 := fun he => hpassword (hentry.registerNo.trans he)
          have hempty' : e'.rawValue = [] := (hentry.rawValue hpassword).symm.trans hempty
          rw [readRaw, readRaw, if_pos hempty, if_pos hempty'] at hreadbacks
          have hentries := (List.cons.inj hreadbacks).1
          rw [readbackOf, readbackOf, if_neg hpassword, if_neg hpassword',
            entryValue_of_mark (mark_mem_configValue hmark),
            entryValue_of_mark (mark_mem_configValue hmark')] at hentries
          have hvalues := congrArg (fun p => p.2.1) hentries
          exact ReadbackValue.text.inj hvalues

/-- Without empty values all entries are taken. -/
theorem framedAlike_of_nonempty (h : List.Forall₂ SameButPassword entries entries')
    (hnonempty : ∀ e ∈ entries, e.rawValue ≠ []) (hnonempty' : ∀ e ∈ entries', e.rawValue ≠ []) :
    FramedAlike entries entries' := by
  have htaken : ∀ {l : List RawEntry}, (∀ e ∈ l, e.rawValue ≠ []) →
      entriesTaken l = max 1 l.length := by
    intro l hl
    have hall : l.takeWhile (·.rawValue ≠ []) = l := by
      rw [List.takeWhile_eq_self_iff]
      intro e he
      exact decide_eq_true (hl e he)
    rw [entriesTaken, hall]
  have hlength := h.length_eq
  cases h with
  | nil => trivial
  | @cons e e' rest rest' _ _ =>
      refine ⟨?_, fun hempty => absurd hempty (hnonempty e List.mem_cons_self)⟩
      rw [htaken hnonempty, htaken hnonempty', hlength]

end Pairs

/-! ### Two responses -/

/-- The device id in the header of a response. -/
def responseDeviceId (header : Bytes) : PyStr := decodeReplace (rstripNul (slice header 8 24))

/-- The word at offset 4, the length of the packet, is one of the message types that the
dispatcher looks for there. -/
def TakenForSettings (header : Bytes) : Prop := u16At header 4 ∈ [340, 341, 387]

instance (header : Bytes) : Decidable (TakenForSettings header) :=
  inferInstanceAs (Decidable (_ ∈ _))

def settingsOf (b : Bytes) : DeviceConfig := parseConfigType b (findConfigOffset b)

/-- Two responses of one device that differ in the values for register 7, and in the length
in the header as it may be. -/
structure PasswordPair (header header' trailer : Bytes) (entries entries' : List RawEntry) :
    Prop where
  headerLength : header.length = configResponseHeaderSize
  headerLength' : header'.length = configResponseHeaderSize
  type : u16At header 6 = configReadType
  sameHeader : header.drop 6 = header'.drop 6
  trailerLength : trailer.length = 2
  sendable : ∀ e ∈ entries, e.Sendable
  sendable' : ∀ e ∈ entries', e.Sendable
  sameEntries : List.Forall₂ SameButPassword entries entries'

/-- **Two responses are read alike**: as responses whose entries are framed alike. -/
def ReadAlike (header header' : Bytes) (entries entries' : List RawEntry) : Prop :=
  ¬ TakenForSettings header ∧ ¬ TakenForSettings header' ∧ FramedAlike entries entries'

section Responses

variable {F : Type*} [PyFloat F] {bridge : BridgeSetup F} {setup : ReadbackSetup}
  {client : BridgeClient} {deviceId : PyStr} {header header' trailer : Bytes}
  {entries entries' : List RawEntry}

/-- The words of a header are those of its response. -/
theorem u16At_rawResponse (hh : header.length = configResponseHeaderSize) {i : ℕ} (hi : i < 40) :
    u16At (rawResponse header entries trailer) i = u16At header i := by
  have hlength : i + 1 < header.length := by
    rw [hh, configResponseHeaderSize]
    omega
  rw [rawResponse, u16At_append_left _ _ hlength]

/-- A response that is dispatched as one. -/
theorem packetCalls_response (hh : header.length = configResponseHeaderSize)
    (htype : u16At header 6 = configReadType) (hsettings : ¬ TakenForSettings header) :
    packetCalls setup client deviceId bridge (rawResponse header entries trailer) =
      onConfigResponse setup client (rawResponse header entries trailer) := by
  have htype' : u16At header 6 = 281 := htype
  have hdispatch : onUnscrambled bridge client deviceId (rawResponse header entries trailer) =
      (client, [.configReadResponse (rawResponse header entries trailer)]) := by
    rw [onUnscrambled, u16At_rawResponse hh (by omega), u16At_rawResponse hh (by omega), htype']
    exact (if_neg (not_or.mpr ⟨hsettings, by omega⟩)).trans (if_pos rfl)
  rw [packetCalls, hdispatch]
  exact List.append_nil _

/-- A response that is dispatched as settings. -/
theorem packetCalls_settings (hh : header.length = configResponseHeaderSize)
    (htype : u16At header 6 = configReadType) (hsettings : TakenForSettings header) :
    packetCalls setup client deviceId bridge (rawResponse header entries trailer) =
      [.onConfig deviceId (settingsOf (rawResponse header entries trailer))] := by
  have htype' : u16At (rawResponse header entries trailer) 6 = 281 :=
    (u16At_rawResponse hh (by omega)).trans htype
  have hdispatch : (onUnscrambled bridge client deviceId (rawResponse header entries trailer)).2 =
      [.findConfigOffset (rawResponse header entries trailer),
        .parseConfigType (rawResponse header entries trailer)
          (findConfigOffset (rawResponse header entries trailer)),
        .onConfig deviceId (settingsOf (rawResponse header entries trailer))] := by
    have hword : u16At header 4 ∈ [340, 341, 387] := hsettings
    rw [onUnscrambled, u16At_rawResponse hh (by omega), if_pos (Or.inl hword), onConfigTlv,
      if_neg (fun h => by omega)]
    rfl
  rw [packetCalls, hdispatch]
  rfl

/-- A response is read entry by entry. -/
theorem onConfigResponse_raw (hh : header.length = configResponseHeaderSize)
    (ht : trailer.length = 2) (hne : entries ≠ []) (h : ∀ e ∈ entries, e.Sendable) :
    onConfigResponse setup client (rawResponse header entries trailer) =
      run (entryStep setup client (responseDeviceId header)) [] (readRaw entries) := by
  have hdevice : slice (rawResponse header entries trailer) 8 24 = slice header 8 24 := by
    rw [rawResponse, slice_append_left]
    rw [hh, configResponseHeaderSize]
    omega
  have hread : readRaw entries ≠ [] := by
    rw [← List.length_pos_iff, length_readRaw hne]
    exact Nat.lt_of_lt_of_le Nat.zero_lt_one (le_max_left _ _)
  rw [onConfigResponse, parseConfigMessage_raw hh ht hne h]
  show run (entryStep setup client (decodeReplace (rstripNul (slice _ 8 24)))) []
    (if readRaw entries = [] then _ else readRaw entries) = _
  rw [hdevice, if_neg hread, responseDeviceId]

theorem onConfigResponse_raw_nil (hh : header.length = configResponseHeaderSize)
    (ht : trailer.length = 2) :
    onConfigResponse setup client (rawResponse header [] trailer) = [] := by
  rw [onConfigResponse, parseConfigMessage_raw_nil hh ht]

/-- The readbacks of a response are those of the entries that are read. -/
theorem readback_onConfigResponse (hh : header.length = configResponseHeaderSize)
    (ht : trailer.length = 2) (h : ∀ e ∈ entries, e.Sendable) :
    (onConfigResponse setup client (rawResponse header entries trailer)).filterMap
        (ReadbackCall.readback? setup.haBaseTopic) =
      (readRaw entries).map (readbackOf setup.haBaseTopic (responseDeviceId header)) := by
  by_cases hne : entries = []
  · subst hne
    rw [onConfigResponse_raw_nil hh ht]
    rfl
  · rw [onConfigResponse_raw hh ht hne h, readback_run]
    rfl

namespace PasswordPair

variable (h : PasswordPair header header' trailer entries entries')

include h

theorem symm : PasswordPair header' header trailer entries' entries where
  headerLength := h.headerLength'
  headerLength' := h.headerLength
  type := by
    have hword : u16At (header.drop 6) 0 = u16At (header'.drop 6) 0 := by rw [h.sameHeader]
    rw [u16At_drop, u16At_drop] at hword
    exact hword.symm.trans h.type
  sameHeader := h.sameHeader.symm
  trailerLength := h.trailerLength
  sendable := h.sendable'
  sendable' := h.sendable
  sameEntries := h.sameEntries.flip.imp fun e e' he => ⟨he.registerNo.symm, fun hpassword =>
    (he.rawValue fun heq => hpassword (he.registerNo.symm.trans heq)).symm⟩

theorem responseDeviceId_eq : responseDeviceId header = responseDeviceId header' := by
  have hslice : slice (header.drop 6) 2 18 = slice (header'.drop 6) 2 18 := by rw [h.sameHeader]
  rw [slice_drop, slice_drop] at hslice
  rw [responseDeviceId, responseDeviceId]
  exact congrArg (fun b => decodeReplace (rstripNul b)) hslice

/-- Responses that are framed alike lead to the same calls. -/
theorem onConfigResponse_eq (hframed : FramedAlike entries entries') :
    onConfigResponse setup client (rawResponse header entries trailer) =
      onConfigResponse setup client (rawResponse header' entries' trailer) := by
  by_cases hne : entries = []
  · subst hne
    obtain rfl := List.forall₂_nil_left_iff.mp h.sameEntries
    rw [onConfigResponse_raw_nil h.headerLength h.trailerLength, onConfigResponse_raw_nil h.headerLength' h.trailerLength]
  · have hne' : entries' ≠ [] := by
      rintro rfl
      exact hne (List.forall₂_nil_right_iff.mp h.sameEntries)
    rw [onConfigResponse_raw h.headerLength h.trailerLength hne h.sendable,
      onConfigResponse_raw h.headerLength' h.trailerLength hne' h.sendable', h.responseDeviceId_eq]
    apply run_masked _ (masked_readRaw h.sameEntries hframed)
    intro before e e' he
    exact congrArg (before ++ ·) (entryCalls_masked he before)

/-- Responses that are dispatched as such show the same exactly if they are framed alike. -/
theorem sameReadbacks_iff (hsettings : ¬ TakenForSettings header)
    (hsettings' : ¬ TakenForSettings header') :
    SameReadbacks setup.haBaseTopic
        (packetCalls setup client deviceId bridge (rawResponse header entries trailer))
        (packetCalls setup client deviceId bridge (rawResponse header' entries' trailer)) ↔
      FramedAlike entries entries' := by
  rw [packetCalls_response h.headerLength h.type hsettings,
    packetCalls_response h.headerLength' h.symm.type hsettings']
  constructor
  · intro hsame
    have hreadbacks := hsame.readbacks
    rw [readback_onConfigResponse h.headerLength h.trailerLength h.sendable,
      readback_onConfigResponse h.headerLength' h.trailerLength h.sendable', h.responseDeviceId_eq] at hreadbacks
    exact framedAlike_of_readbacks h.sameEntries hreadbacks
  · intro hframed
    exact .of_eq (h.onConfigResponse_eq hframed)

/-- A response and settings do not show the same. -/
theorem not_sameReadbacks (hsettings : TakenForSettings header)
    (hsettings' : ¬ TakenForSettings header') :
    ¬ SameReadbacks setup.haBaseTopic
      (packetCalls setup client deviceId bridge (rawResponse header entries trailer))
      (packetCalls setup client deviceId bridge (rawResponse header' entries' trailer)) := by
  rw [packetCalls_settings h.headerLength h.type hsettings,
    packetCalls_response h.headerLength' h.symm.type hsettings']
  intro hsame
  by_cases hne : entries' = []
  · subst hne
    have hconfigs := hsame.configs
    rw [onConfigResponse_raw_nil h.headerLength' h.trailerLength] at hconfigs
    cases hconfigs
  · have hreadbacks := hsame.readbacks
    rw [readback_onConfigResponse h.headerLength' h.trailerLength h.sendable'] at hreadbacks
    have hnone : (readRaw entries').map
        (readbackOf setup.haBaseTopic (responseDeviceId header')) = [] := hreadbacks.symm
    have htaken : (readRaw entries').length = 0 :=
      List.length_eq_zero_iff.mpr (List.map_eq_nil_iff.mp hnone)
    rw [length_readRaw hne, entriesTaken] at htaken
    omega

end PasswordPair

/-- **When the password stays hidden.**  Two responses that differ in passwords lead to the
same readbacks, configs and reported registers if they are read alike, and otherwise at most where
both are taken for settings. -/
theorem passwordHidden_of_readAlike (bridge : BridgeSetup F) (setup : ReadbackSetup)
    (client : BridgeClient) (deviceId : PyStr)
    (h : PasswordPair header header' trailer entries entries') :
    (ReadAlike header header' entries entries' → SameReadbacks setup.haBaseTopic
      (packetCalls setup client deviceId bridge (rawResponse header entries trailer))
      (packetCalls setup client deviceId bridge (rawResponse header' entries' trailer))) ∧
    (SameReadbacks setup.haBaseTopic
        (packetCalls setup client deviceId bridge (rawResponse header entries trailer))
        (packetCalls setup client deviceId bridge (rawResponse header' entries' trailer)) →
      ReadAlike header header' entries entries' ∨
        TakenForSettings header ∧ TakenForSettings header') := by
  refine ⟨fun hread => (h.sameReadbacks_iff hread.1 hread.2.1).mpr hread.2.2, fun hsame => ?_⟩
  by_cases hsettings : TakenForSettings header
  · by_cases hsettings' : TakenForSettings header'
    · exact Or.inr ⟨hsettings, hsettings'⟩
    · exact absurd hsame (h.not_sameReadbacks hsettings hsettings')
  · by_cases hsettings' : TakenForSettings header'
    · exact absurd hsame.symm (h.symm.not_sameReadbacks hsettings' hsettings)
    · exact Or.inl ⟨hsettings, hsettings', (h.sameReadbacks_iff hsettings hsettings').mp hsame⟩

end Responses

/-! ### Two packets -/

/-- A bridge that is wired to a Home Assistant client. -/
def wiredSetup : ReadbackSetup where
  haBaseTopic := "homeassistant".toList
  onConfigRegisterValue := true
  onConfigReadResponse := true
  onConfigRaises _ := false

/-- Responses of one NEO gateway with the password and one other register. -/
theorem passwordPair_neo {entries entries' : List RawEntry}
    (hsendable : ∀ e ∈ entries ++ entries', e.registerNo < 65536 ∧ e.rawValue.length < 65536)
    (hentries : List.Forall₂ SameButPassword entries entries') :
    PasswordPair neoResponseHeader neoResponseHeader [0x44, 0x58] entries entries' where
  headerLength := rfl
  headerLength' := rfl
  type := by decide
  sameHeader := rfl
  trailerLength := rfl
  sendable e he := by
    obtain ⟨hregister, hlength⟩ := hsendable e (List.mem_append_left _ he)
    exact ⟨hregister, hlength⟩
  sendable' e he := by
    obtain ⟨hregister, hlength⟩ := hsendable e (List.mem_append_right _ he)
    exact ⟨hregister, hlength⟩
  sameEntries := hentries

/-- Passwords `pw1` and `pw2` in front of register 5 do not show. -/
theorem passwordHidden_front :
    SameReadbacks wiredSetup.haBaseTopic
      (packetCalls wiredSetup bareClient "QMN000BZP4N991ML".toList bareSetup
        (rawResponse neoResponseHeader [⟨7, [0x70, 0x77, 0x31]⟩, ⟨5, [0x31, 0x32]⟩] [0x44, 0x58]))
      (packetCalls wiredSetup bareClient "QMN000BZP4N991ML".toList bareSetup
        (rawResponse neoResponseHeader [⟨7, [0x70, 0x77, 0x32]⟩, ⟨5, [0x31, 0x32]⟩] [0x44, 0x58])) := by
  have hpair : PasswordPair neoResponseHeader neoResponseHeader [0x44, 0x58]
      [⟨7, [0x70, 0x77, 0x31]⟩, ⟨5, [0x31, 0x32]⟩] [⟨7, [0x70, 0x77, 0x32]⟩, ⟨5, [0x31, 0x32]⟩] := by
    apply passwordPair_neo (by decide)
    exact .cons ⟨rfl, fun h => absurd rfl h⟩ (.cons ⟨rfl, fun _ => rfl⟩ .nil)
  apply (passwordHidden_of_readAlike bareSetup wiredSetup bareClient _ hpair).1
  refine ⟨by decide, by decide, ?_⟩
  exact framedAlike_of_nonempty hpair.sameEntries (by decide) (by decide)

/-- An empty interval in front of the password gives it away. -/
theorem not_passwordHidden_emptyInterval :
    ¬ ∀ (bridge : BridgeSetup ℤ) (setup : ReadbackSetup) (client : BridgeClient)
      (deviceId : PyStr) (header trailer : Bytes) (entries entries' : List RawEntry),
      PasswordPair header header trailer entries entries' →
      SameReadbacks setup.haBaseTopic
        (packetCalls setup client deviceId bridge (rawResponse header entries trailer))
        (packetCalls setup client deviceId bridge (rawResponse header entries' trailer)) := by
  intro hall
  have hpair : PasswordPair neoResponseHeader neoResponseHeader [0x44, 0x58]
      [⟨4, []⟩, ⟨7, [0x61, 0x6C, 0x70, 0x68, 0x61]⟩] [⟨4, []⟩, ⟨7, [0x6F, 0x6D, 0x65, 0x67, 0x61]⟩] := by
    apply passwordPair_neo (by decide)
    exact .cons ⟨rfl, fun _ => rfl⟩ (.cons ⟨rfl, fun h => absurd rfl h⟩ .nil)
  have hsame := hall bareSetup wiredSetup bareClient "QMN000BZP4N991ML".toList _ _ _ _ hpair
  have hframed := (hpair.sameReadbacks_iff (by decide) (by decide)).mp hsame
  have htext := hframed.2 rfl (by decide)
  revert htext
  decide

end GroBro
