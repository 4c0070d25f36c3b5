/-
GroBro/CloudPolicy.lean

`grobro/grobro/cloud_policy.py` and the module variables of
`grobro/grobro/client.py` that are made of it: whether a device may use the
Growatt cloud, and which messages of the cloud are filtered.

`GROWATT_CLOUD` is `true`, one of the words for false, or a comma list of
serials.  The client keeps the parsed settings in module variables, and at run
time writes them as text again and parses that (`currentCloudPolicy`).  The text of
a one-item list is the item, so an item that is itself such a word changes its
meaning on the way; nothing else does (`runtimePolicy_iff`).
-/
import GroBro.PyText

namespace GroBro

/-! ### Parsing the settings -/

/-- `_FALSE_VALUES` -/
def falseValues : List PyStr :=
  ["".toList, "false".toList, "0".toList, "no".toList, "off".toList]

structure CloudForwardingPolicy where
  enabled : Bool
  allowlist : Finset PyStr
  blockConfigCommands : Bool

/-- `value or "false"` -/
def orFalse : Option PyStr → PyStr
  | some (c :: cs) => c :: cs
  | _ => "false".toList

/-- The items of a comma list that are more than white space. -/
def listItems (raw : PyStr) : List PyStr := ((raw.splitOn ',').map strip).filter (· ≠ [])

namespace CloudForwardingPolicy

def parse [PyLower] (cloudValue configFilterValue : Option PyStr) : CloudForwardingPolicy :=
  let raw := strip (orFalse cloudValue)
  let lowered := lower raw
  let blockConfig := decide (lower (strip (orFalse configFilterValue)) = "true".toList)
  if lowered ∈ falseValues then ⟨false, ∅, blockConfig⟩
  else if lowered = "true".toList then ⟨true, ∅, blockConfig⟩
  else
    let allowlist := (listItems raw).toFinset
    ⟨decide (allowlist ≠ ∅), allowlist, blockConfig⟩

def allowsDevice (policy : CloudForwardingPolicy) (deviceId : PyStr) : Bool :=
  if !policy.enabled then false
  else decide (policy.allowlist = ∅) || decide (deviceId ∈ policy.allowlist)

def shouldBlockCloudMessage (policy : CloudForwardingPolicy) (messageType : ℕ) : Bool :=
  policy.blockConfigCommands && decide (messageType ∈ [0x0118, 0x0110])

end CloudForwardingPolicy

open CloudForwardingPolicy

/-! ### The module variables -/

/-- `GROWATT_CLOUD`, `GROWATT_CLOUD_CONFIG_FILTER`, `GROWATT_CLOUD_ENABLED`,
`GROWATT_CLOUD_FILTER` and `_cloud_lower`. -/
structure CloudSettings where
  growattCloud : PyStr
  configFilter : PyStr
  enabled : Bool
  filter : Finset PyStr
  cloudLower : PyStr

/-- What the import computes from the two configured strings. -/
def CloudSettings.ofConfigured [PyLower] (cloud configFilter : PyStr) : CloudSettings :=
  let growattCloud := strip cloud
  let configFilter := lower configFilter
  let policy := parse (some growattCloud) (some configFilter)
  { growattCloud, configFilter, enabled := policy.enabled, filter := policy.allowlist,
    cloudLower := lower growattCloud }

/-- `",".join(sorted(items))` -/
def joinSorted (items : Finset PyStr) : PyStr := [','].intercalate items.sort

/-- The settings as text again. -/
def CloudSettings.cloudValue (settings : CloudSettings) : PyStr :=
  if !settings.enabled then "false".toList
  else if settings.cloudLower = "true".toList then "true".toList
  else if settings.filter ≠ ∅ then joinSorted settings.filter
  else if settings.growattCloud ≠ [] then settings.growattCloud
  else "true".toList

/-- `_current_cloud_policy`; the cache in between returns what `parse` does. -/
def currentCloudPolicy [PyLower] (settings : CloudSettings) : CloudForwardingPolicy :=
  parse (some settings.cloudValue) (some settings.configFilter)

/-! ### Lists of items -/

/-- An item of a comma list as the parser leaves it. -/
structure IsItem (item : PyStr) : Prop where
  nonempty : item ≠ []
  no_comma : ',' ∉ item
  trimmed : Trimmed isSpace item

theorem comma_not_mem_of_mem_splitOn {s piece : PyStr} (h : piece ∈ s.splitOn ',') :
    ',' ∉ piece := by
  induction s generalizing piece with
  | nil =>
      rw [List.splitOn_nil, List.mem_singleton] at h
      rw [h]
      exact List.not_mem_nil
  | cons c s ih =>
      rw [List.splitOn_cons_eq_if_modifyHead] at h
      split_ifs at h with hc
      · rcases List.mem_cons.mp h with rfl | h
        · exact List.not_mem_nil
        · exact ih h
      · -- the character is put before the first piece of the rest
        obtain ⟨head, tail, hsplit⟩ := List.exists_cons_of_ne_nil (List.splitOn_ne_nil ',' s)
        rw [hsplit, List.modifyHead_cons] at h
        rw [hsplit] at ih
        rcases List.mem_cons.mp h with rfl | h
        · rw [List.mem_cons, not_or]
          exact ⟨fun he => hc (beq_iff_eq.mpr he.symm), ih List.mem_cons_self⟩
        · exact ih (List.mem_cons_of_mem _ h)

theorem isItem_of_mem_listItems {raw item : PyStr} (h : item ∈ listItems raw) : IsItem item := by
  rw [listItems, List.mem_filter, List.mem_map] at h
  obtain ⟨⟨piece, hpiece, rfl⟩, hne⟩ := h
  refine ⟨of_decide_eq_true hne, ?_, trimmed_stripBy isSpace piece⟩
  intro hcomma
  exact comma_not_mem_of_mem_splitOn hpiece (mem_of_mem_stripBy hcomma)

/-- A list of items is read back as it was joined. -/
theorem listItems_intercalate {items : List PyStr} (hne : items ≠ [])
    (h : ∀ item ∈ items, IsItem item) : listItems ([','].intercalate items) = items := by
  have hstrip : items.map strip = items := by
    conv_rhs => rw [← List.map_id items]
    exact List.map_congr_left fun item hi => stripBy_eq_self (h item hi).trimmed
  rw [listItems, List.splitOn_intercalate _ (fun item hi => (h item hi).no_comma) hne, hstrip]
  exact List.filter_eq_self.mpr fun item hi => decide_eq_true (h item hi).nonempty

theorem Trimmed.append {a b : PyStr} (ha : Trimmed isSpace a) (hb : Trimmed isSpace b)
    (hane : a ≠ []) (hbne : b ≠ []) (m : PyStr) : Trimmed isSpace (a ++ m ++ b) := by
  refine ⟨?_, ?_⟩
  · intro c hc
    apply ha.1
    rwa [List.append_assoc, List.head?_append_of_ne_nil _ hane] at hc
  · intro c hc
    apply hb.2
    rwa [List.getLast?_append_of_ne_nil _ hbne] at hc

/-- Neither end of a joined list is white space, and it is not empty. -/
theorem trimmed_intercalate {items : List PyStr} (hne : items ≠ [])
    (h : ∀ item ∈ items, IsItem item) :
    [','].intercalate items ≠ [] ∧ Trimmed isSpace ([','].intercalate items) := by
  induction items with
  | nil => exact absurd rfl hne
  | cons item items ih =>
      have hitem := h item List.mem_cons_self
      rcases items with - | ⟨item', items⟩
      · rw [List.intercalate_singleton]
        exact ⟨hitem.nonempty, hitem.trimmed⟩
      · obtain ⟨hrest, htrimmed⟩ := ih (List.cons_ne_nil _ _)
          fun item hi => h item (List.mem_cons_of_mem _ hi)
        rw [List.intercalate_cons_cons]
        refine ⟨?_, Trimmed.append hitem.trimmed htrimmed hitem.nonempty hrest _⟩
        intro hnil
        exact hrest (List.append_eq_nil_iff.mp hnil).2

theorem comma_mem_intercalate (item item' : PyStr) (items : List PyStr) :
    ',' ∈ [','].intercalate (item :: item' :: items) := by
  rw [List.intercalate_cons_cons, List.append_assoc]
  exact List.mem_append_right _ (List.mem_append_left _ (List.mem_singleton_self ','))

theorem controlWord_plain {w : PyStr} (h : w ∈ falseValues ∨ w = "true".toList) :
    (∀ c ∈ w, c.toNat < 128 ∧ c ≠ 'k') ∧ ',' ∉ w := by
  have hwords : ∀ w ∈ "true".toList :: falseValues,
      (∀ c ∈ w, c.toNat < 128 ∧ c ≠ 'k') ∧ ',' ∉ w := by simp [falseValues]
  rcases h with h | rfl
  · exact hwords w (List.mem_cons_of_mem _ h)
  · exact hwords _ List.mem_cons_self

theorem orFalse_of_ne_nil {s : PyStr} (h : s ≠ []) : orFalse (some s) = s := by
  obtain ⟨c, cs, rfl⟩ := List.exists_cons_of_ne_nil h
  rfl

/-! ### Answers of a parsed policy -/

section Answers

variable [PyLower]

/-- A text that is not read as a list. -/
def IsControlWord (s : PyStr) : Prop := lower s ∈ falseValues ∨ lower s = "true".toList

theorem IsControlWord.no_comma {s : PyStr} (h : IsControlWord s) : ',' ∉ s := by
  obtain ⟨hplain, hcomma⟩ := controlWord_plain h
  obtain ⟨-, hmap⟩ := (lower_eq_iff hplain).mp (rfl : lower s = lower s)
  intro hmem
  apply hcomma
  rw [← hmap]
  exact List.mem_map_of_mem (f := Char.toLower) hmem

theorem lower_word {w : PyStr} (hw : ∀ c ∈ w, c.toNat < 128 ∧ c ≠ 'k')
    (hlower : w.map Char.toLower = w) : lower w = w :=
  (lower_eq_iff hw).mpr ⟨fun c hc => (hw c hc).1, hlower⟩

theorem lower_false : lower "false".toList = "false".toList :=
  lower_word (by simp) (by decide)

theorem lower_true : lower "true".toList = "true".toList :=
  lower_word (by simp) (by decide)

variable {s : PyStr} {configFilter : Option PyStr} {d : PyStr}

/-- A word for false, also one of white space only. -/
theorem parse_of_false (h : lower (strip s) ∈ falseValues) :
    (parse (some s) configFilter).enabled = false ∧
      (parse (some s) configFilter).allowlist = ∅ := by
  have hfalse : lower (strip (orFalse (some s))) ∈ falseValues := by
    by_cases hs : s = []
    · rw [hs]
      show lower "false".toList ∈ falseValues
      rw [lower_false]
      decide
    · rwa [orFalse_of_ne_nil hs]
  rw [parse, if_pos hfalse]
  exact ⟨rfl, rfl⟩

theorem ne_nil_of_not_false (h : lower (strip s) ∉ falseValues) : s ≠ [] := by
  rintro rfl
  exact h List.mem_cons_self

theorem parse_of_true (h : lower (strip s) = "true".toList) :
    (parse (some s) configFilter).enabled = true ∧
      (parse (some s) configFilter).allowlist = ∅ := by
  have hfalse : lower (strip s) ∉ falseValues := by
    rw [h]
    decide
  rw [parse, orFalse_of_ne_nil (ne_nil_of_not_false hfalse), if_neg hfalse, if_pos h]
  exact ⟨rfl, rfl⟩

theorem parse_of_list (h : ¬ IsControlWord (strip s)) :
    (parse (some s) configFilter).enabled = decide ((listItems (strip s)).toFinset ≠ ∅) ∧
      (parse (some s) configFilter).allowlist = (listItems (strip s)).toFinset := by
  rw [IsControlWord, not_or] at h
  rw [parse, orFalse_of_ne_nil (ne_nil_of_not_false h.1), if_neg h.1, if_neg h.2]
  exact ⟨rfl, rfl⟩

theorem allowsDevice_of_false (h : lower (strip s) ∈ falseValues) :
    (parse (some s) configFilter).allowsDevice d = false := by
  rw [allowsDevice, (parse_of_false h).1]
  rfl

theorem allowsDevice_of_true (h : lower (strip s) = "true".toList) :
    (parse (some s) configFilter).allowsDevice d = true := by
  rw [allowsDevice, (parse_of_true h).1, (parse_of_true h).2]
  rfl

/-- A list allows its items; an empty one allows nothing. -/
theorem allowsDevice_of_list (h : ¬ IsControlWord (strip s)) :
    (parse (some s) configFilter).allowsDevice d = decide (d ∈ listItems (strip s)) := by
  obtain ⟨henabled, hallowlist⟩ := @parse_of_list _ s configFilter h
  rw [allowsDevice, henabled, hallowlist]
  by_cases hempty : (listItems (strip s)).toFinset = ∅
  · have hd : d ∉ listItems (strip s) := by
      rw [← List.mem_toFinset, hempty]
      exact Finset.notMem_empty d
    simp [hempty, hd]
  · simp [hempty]

/-- A joined list is read as a list, unless it is a single control word. -/
theorem allowsDevice_joinSorted {items : Finset PyStr} (hne : items ≠ ∅)
    (h : ∀ item ∈ items, IsItem item) (hword : ∀ w, items = {w} → ¬ IsControlWord w) :
    (parse (some (joinSorted items)) configFilter).allowsDevice d = decide (d ∈ items) := by
  have hsorted : ∀ item ∈ items.sort, IsItem item := fun item hi => h item ((Finset.mem_sort _).mp hi)
  have hsortne : items.sort ≠ [] := by
    intro hnil
    apply hne
    rw [← Finset.sort_toFinset (s := items) (r := (· ≤ ·)), hnil]
    rfl
  have hstrip : strip (joinSorted items) = joinSorted items :=
    stripBy_eq_self (trimmed_intercalate hsortne hsorted).2
  have hlist : ¬ IsControlWord (strip (joinSorted items)) := by
    rw [hstrip]
    intro hcontrol
    -- a control word has no comma, so there is one item only
    rcases hs : items.sort with - | ⟨item, - | ⟨item', rest⟩⟩
    · exact hsortne hs
    · have hsingle : items = {item} := by
        rw [← Finset.sort_toFinset (s := items) (r := (· ≤ ·)), hs]
        rfl
      rw [joinSorted, hs, List.intercalate_singleton] at hcontrol
      exact hword item hsingle hcontrol
    · apply hcontrol.no_comma
      rw [joinSorted, hs]
      exact comma_mem_intercalate item item' rest
  rw [allowsDevice_of_list hlist, hstrip, joinSorted, listItems_intercalate hsortne hsorted]
  exact decide_eq_decide.mpr (Finset.mem_sort _)

end Answers

/-! ### The runtime policy -/

/-- Two policies answer alike for every device and every message type. -/
def SameAnswers (policy policy' : CloudForwardingPolicy) : Prop :=
  (∀ deviceId, policy.allowsDevice deviceId = policy'.allowsDevice deviceId) ∧
    ∀ messageType, policy.shouldBlockCloudMessage messageType =
      policy'.shouldBlockCloudMessage messageType

section Runtime

variable [PyLower]

/-- `cloud` is a list, and its items are all one control word. -/
def OnlyControlWord (cloud : PyStr) : Prop :=
  ¬ IsControlWord (strip cloud) ∧
    ∃ w, IsControlWord w ∧ (listItems (strip cloud)).toFinset = {w}

variable {cloud configFilter : PyStr}

/-- The filter is the same in lower case. -/
theorem blockConfigCommands_lower (v v' : Option PyStr) :
    (parse v (some (lower configFilter))).blockConfigCommands =
      (parse v' (some configFilter)).blockConfigCommands := by
  have hblock : ∀ (v f : Option PyStr), (parse v f).blockConfigCommands =
      decide (lower (strip (orFalse f)) = "true".toList) := by
    intro v f
    unfold parse
    dsimp only
    split_ifs <;> rfl
  rw [hblock, hblock]
  apply decide_eq_decide.mpr
  by_cases hnil : configFilter = []
  · rw [hnil]
    rfl
  · have hlower : lower configFilter ≠ [] := by
      intro h
      obtain ⟨-, hmap⟩ := (lower_eq_iff (List.forall_mem_nil _)).mp h
      exact hnil (List.map_eq_nil_iff.mp hmap)
    rw [orFalse_of_ne_nil hnil, orFalse_of_ne_nil hlower]
    exact lower_strip_lower (by simp) (by decide)

/-- The import reads what is configured: stripping it first changes nothing. -/
theorem ofConfigured_of_false (h : lower (strip cloud) ∈ falseValues) :
    (CloudSettings.ofConfigured cloud configFilter).enabled = false := by
  rw [← strip_strip] at h
  exact (parse_of_false h).1

theorem ofConfigured_of_true (h : lower (strip cloud) = "true".toList) :
    (CloudSettings.ofConfigured cloud configFilter).enabled = true ∧
      (CloudSettings.ofConfigured cloud configFilter).cloudLower = "true".toList := by
  refine ⟨?_, h⟩
  rw [← strip_strip] at h
  exact (parse_of_true h).1

theorem ofConfigured_of_list (h : ¬ IsControlWord (strip cloud)) :
    (CloudSettings.ofConfigured cloud configFilter).enabled =
        decide ((listItems (strip cloud)).toFinset ≠ ∅) ∧
      (CloudSettings.ofConfigured cloud configFilter).filter = (listItems (strip cloud)).toFinset ∧
      (CloudSettings.ofConfigured cloud configFilter).cloudLower ≠ "true".toList := by
  have hstrip := strip_strip cloud
  obtain ⟨henabled, hallowlist⟩ := @parse_of_list _ (strip cloud)
    (some (lower configFilter)) (by rwa [hstrip])
  rw [hstrip] at henabled hallowlist
  exact ⟨henabled, hallowlist, fun htrue => h (Or.inr htrue)⟩

/-- A list with items is joined again. -/
theorem cloudValue_of_list (h : ¬ IsControlWord (strip cloud))
    (hne : (listItems (strip cloud)).toFinset ≠ ∅) :
    (CloudSettings.ofConfigured cloud configFilter).cloudValue =
      joinSorted (listItems (strip cloud)).toFinset := by
  obtain ⟨henabled, hfilter, hlower⟩ := @ofConfigured_of_list _ cloud configFilter h
  rw [CloudSettings.cloudValue, henabled, hfilter, decide_eq_true hne, if_neg hlower, if_pos hne]
  rfl

/-- What is configured is answered at run time, except for a single control word. -/
theorem allowsDevice_current (h : ¬ OnlyControlWord cloud) (deviceId : PyStr) :
    (parse (some cloud) (some configFilter)).allowsDevice deviceId =
      (currentCloudPolicy (.ofConfigured cloud configFilter)).allowsDevice deviceId := by
  have hoff : lower (strip "false".toList) ∈ falseValues := by
    show lower "false".toList ∈ falseValues
    rw [lower_false]
    decide
  by_cases hfalse : lower (strip cloud) ∈ falseValues
  · have hvalue : (CloudSettings.ofConfigured cloud configFilter).cloudValue = "false".toList := by
      rw [CloudSettings.cloudValue, ofConfigured_of_false hfalse]
      rfl
    rw [currentCloudPolicy, hvalue, allowsDevice_of_false hfalse, allowsDevice_of_false hoff]
  by_cases htrue : lower (strip cloud) = "true".toList
  · have hvalue : (CloudSettings.ofConfigured cloud configFilter).cloudValue = "true".toList := by
      obtain ⟨henabled, hlower⟩ := @ofConfigured_of_true _ cloud configFilter htrue
      rw [CloudSettings.cloudValue, henabled, if_pos hlower]
      rfl
    rw [currentCloudPolicy, hvalue, allowsDevice_of_true htrue,
      allowsDevice_of_true (s := "true".toList) lower_true]
  have hlist : ¬ IsControlWord (strip cloud) := by
    rw [IsControlWord, not_or]
    exact ⟨hfalse, htrue⟩
  rw [allowsDevice_of_list hlist, currentCloudPolicy]
  by_cases hempty : (listItems (strip cloud)).toFinset = ∅
  -- an empty list turns the cloud off
  · have hvalue : (CloudSettings.ofConfigured cloud configFilter).cloudValue = "false".toList := by
      obtain ⟨henabled, -⟩ := @ofConfigured_of_list _ cloud configFilter hlist
      rw [CloudSettings.cloudValue, henabled, hempty]
      rfl
    rw [hvalue, allowsDevice_of_false hoff, ← Bool.not_eq_true, decide_eq_true_eq,
      ← List.mem_toFinset, hempty]
    exact Finset.notMem_empty deviceId
  · have hitems : ∀ item ∈ (listItems (strip cloud)).toFinset, IsItem item :=
      fun item hi => isItem_of_mem_listItems (List.mem_toFinset.mp hi)
    rw [cloudValue_of_list hlist hempty, allowsDevice_joinSorted hempty hitems]
    · exact decide_eq_decide.mpr List.mem_toFinset.symm
    · intro w hsingle hcontrol
      exact h ⟨hlist, w, hcontrol, hsingle⟩

/-- A single control word is read as what it says, not as a serial. -/
theorem not_allowsDevice_current (h : OnlyControlWord cloud) :
    ∃ deviceId, (parse (some cloud) (some configFilter)).allowsDevice deviceId ≠
      (currentCloudPolicy (.ofConfigured cloud configFilter)).allowsDevice deviceId := by
  obtain ⟨hlist, w, hcontrol, hsingle⟩ := h
  have hmem : ∀ d, d ∈ listItems (strip cloud) ↔ d = w := by
    intro d
    rw [← List.mem_toFinset, hsingle, Finset.mem_singleton]
  have hitem : IsItem w := isItem_of_mem_listItems ((hmem w).mpr rfl)
  have hvalue : (CloudSettings.ofConfigured cloud configFilter).cloudValue = w := by
    have hne : (listItems (strip cloud)).toFinset ≠ ∅ := by
      rw [hsingle]
      exact Finset.singleton_ne_empty w
    rw [cloudValue_of_list hlist hne, hsingle, joinSorted, Finset.sort_singleton,
      List.intercalate_singleton]
  have hstrip : strip w = w := stripBy_eq_self hitem.trimmed
  rw [currentCloudPolicy, hvalue]
  rcases hcontrol with hfalse | htrue
  -- the only listed device is shut out
  · refine ⟨w, ?_⟩
    rw [allowsDevice_of_list hlist, allowsDevice_of_false (by rwa [hstrip]),
      decide_eq_true ((hmem w).mpr rfl)]
    exact Bool.false_ne_true.symm
  -- a device that is not listed is let in
  · refine ⟨w ++ ['0'], ?_⟩
    have hother : w ++ ['0'] ∉ listItems (strip cloud) := by
      rw [hmem]
      intro he
      have hlength := congrArg List.length he
      rw [List.length_append] at hlength
      simp at hlength
    rw [allowsDevice_of_list hlist, allowsDevice_of_true (by rwa [hstrip]),
      decide_eq_false hother]
    exact Bool.false_ne_true

/-- **The runtime policy is the configured one**, unless `GROWATT_CLOUD` is a list
whose items are all one word for true or false. -/
theorem runtimePolicy_iff (cloud configFilter : PyStr) :
    SameAnswers (parse (some cloud) (some configFilter))
        (currentCloudPolicy (.ofConfigured cloud configFilter)) ↔
      ¬ OnlyControlWord cloud := by
  constructor
  · rintro ⟨hallows, -⟩ hcontrol
    obtain ⟨deviceId, hne⟩ := @not_allowsDevice_current _ cloud configFilter hcontrol
    exact hne (hallows deviceId)
  · intro h
    refine ⟨allowsDevice_current h, ?_⟩
    intro messageType
    rw [shouldBlockCloudMessage, shouldBlockCloudMessage, currentCloudPolicy]
    rw [show (CloudSettings.ofConfigured cloud configFilter).configFilter = lower configFilter
      from rfl, blockConfigCommands_lower]

end Runtime

/-- With `GROWATT_CLOUD=true,` only a device called `true` is configured, but every
device is forwarded. -/
theorem not_runtimePolicy_trailingComma :
    letI := PyLower.asciiOnly
    ¬ ∀ cloud configFilter : PyStr, SameAnswers (parse (some cloud) (some configFilter))
      (currentCloudPolicy (.ofConfigured cloud configFilter)) := by
  let _ : PyLower := PyLower.asciiOnly
  intro h
  have hallows := (h "true,".toList "false".toList).1 "0PVP1".toList
  revert hallows
  decide +kernel

end GroBro
