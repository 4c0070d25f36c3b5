/-
GroBro/DiscoveryWiring.lean

What discovery tells Home Assistant and what the client does are written down in different
places: topics and names in `build_discovery_payload`, subscriptions in
`_command_subscriptions`, the reading of topics in `__handle_message`, the topics of states
where they are published.  Here they are put side by side.

Main results:

* `discovery_wired`: every control that discovery offers has a command topic that is
  subscribed to, and using it asks for what the control is about;
* `discovery_complete`: every register that is shown has its own component, whatever else is
  shown, if no two of the names are the same.
-/
import GroBro.DiscoveryPayload

namespace GroBro

open ByteCodec OrderedDict

/-! ### Subscriptions -/

/-- A filter and a topic, level by level: `+` stands for one level, `#` for the rest. -/
def levelsMatch : List PyStr → List PyStr → Bool
  | [], [] => true
  | [], _ :: _ => false
  | filter :: _, [] => filter = ['#']
  | filter :: filters, level :: levels =>
      filter = ['#'] || ((filter = ['+'] || filter = level) && levelsMatch filters levels)

/-- An MQTT subscription covers a topic. -/
def topicMatches (filter topic : PyStr) : Bool :=
  levelsMatch (filter.splitOn '/') (topic.splitOn '/')

/-- The same levels in front of a filter and a topic do not matter. -/
theorem levelsMatch_append (front : List PyStr) {filters levels : List PyStr}
    (h : levelsMatch filters levels = true) :
    levelsMatch (front ++ filters) (front ++ levels) = true := by
  induction front with
  | nil => exact h
  | cons level front ih =>
      rw [List.cons_append, List.cons_append, levelsMatch, ih]
      simp

/-! ### Topics -/

section Topics

variable {base root deviceId id action : PyStr}

/-- The part of a control topic that the handler splits. -/
theorem controlTopic_eq (base root deviceId id action : PyStr) :
    controlTopic base root deviceId id action =
      base ++ ['/'] ++ (root ++ '/' :: ("grobro".toList ++ '/' :: (deviceId ++ '/' ::
        (id ++ '/' :: action)))) := by
  rw [controlTopic]
  simp only [List.append_assoc, List.cons_append, List.nil_append]
  rfl

theorem splitOn_levels (hroot : '/' ∉ root) (hdevice : '/' ∉ deviceId) (hid : '/' ∉ id)
    (haction : '/' ∉ action) :
    (root ++ '/' :: ("grobro".toList ++ '/' :: (deviceId ++ '/' ::
      (id ++ '/' :: action)))).splitOn '/' = [root, "grobro".toList, deviceId, id, action] := by
  have hgrobro : '/' ∉ "grobro".toList := by decide
  rw [List.splitOn_append_cons_self_of_not_mem hroot,
    List.splitOn_append_cons_self_of_not_mem hgrobro,
    List.splitOn_append_cons_self_of_not_mem hdevice,
    List.splitOn_append_cons_self_of_not_mem hid, List.splitOn_eq_singleton haction]

/-- A control topic is read back as it was made. -/
theorem parseCommandTopic_controlTopic {cmdType : CommandType} (hdevice : '/' ∉ deviceId)
    (hid : '/' ∉ id) (haction : '/' ∉ action) :
    parseCommandTopic base (controlTopic base cmdType.text deviceId id action) =
      some ⟨cmdType, deviceId, id, action⟩ := by
  rw [parseCommandTopic, controlTopic_eq, removePrefix_append,
    splitOn_levels (CommandType.slash_not_mem_text cmdType) hdevice hid haction]
  simp only [CommandType.ofText?_text, Option.map_some]

/-- Sets and reads of every kind of control are subscribed to. -/
theorem controlTopic_subscribed {cmdType : CommandType} (hdevice : '/' ∉ deviceId)
    (hid : '/' ∉ id) (haction : action ∈ [setAction, readAction]) :
    ∃ filter ∈ commandSubscriptions base,
      topicMatches filter (controlTopic base cmdType.text deviceId id action) = true := by
  have hslash : '/' ∉ action := by
    simp only [List.mem_cons, List.not_mem_nil, or_false] at haction
    rcases haction with rfl | rfl <;> decide
  have hall : cmdType ∈ CommandType.all := by
    cases cmdType <;> decide
  refine ⟨controlTopic base cmdType.text ['+'] ['+'] action, ?_, ?_⟩
  · refine List.mem_append_left _ (List.mem_flatMap.mpr ⟨cmdType, hall, ?_⟩)
    refine List.mem_map.mpr ⟨action, haction, ?_⟩
    rw [controlTopic]
    simp only [List.append_assoc, List.cons_append]
    rfl
  · have hsplit : ∀ d i : PyStr, '/' ∉ d → '/' ∉ i →
        (controlTopic base cmdType.text d i action).splitOn '/' =
          base.splitOn '/' ++ [cmdType.text, "grobro".toList, d, i, action] := by
      intro d i hd hi
      rw [controlTopic_eq, List.append_assoc, List.singleton_append,
        List.splitOn_append_cons_self,
        splitOn_levels (CommandType.slash_not_mem_text cmdType) hd hi hslash]
    rw [topicMatches, hsplit _ _ (by decide) (by decide), hsplit _ _ hdevice hid]
    apply levelsMatch_append
    simp [levelsMatch]

/-- The topic that a holding register is published on. -/
theorem holdingTopic_eq (base deviceId : PyStr) (type name : TopicLevel) :
    holdingTopic base type deviceId name =
      controlTopic base type.val deviceId name.val getAction := by
  rw [holdingTopic, controlTopic]
  simp only [List.append_assoc, List.cons_append]
  rfl

theorem readbackTopic_eq (base deviceId : PyStr) (registerNo : ℕ) :
    readbackTopic base deviceId registerNo =
      controlTopic base "config".toList deviceId (toString registerNo).toList getAction := by
  rw [readbackTopic, controlTopic]
  simp only [List.append_assoc, List.cons_append]
  rfl

theorem slash_not_mem_toString (n : ℕ) : '/' ∉ (toString n).toList := by
  intro h
  have hdigit : '/'.isDigit = true :=
    Nat.isDigit_of_mem_toDigits (by decide) (by decide) (Nat.toList_repr ▸ h)
  exact absurd hdigit (by decide)

end Topics

/-! ### Fields of components -/

/-- The fields that a component has from the traversal and not from its register. -/
def ownFields : List PyStr :=
  ["platform", "unique_id", "state_topic", "command_topic"].map String.toList

theorem get?_ofList_of_not_mem {items : List (PyStr × UiValue)} {key : PyStr}
    (h : key ∉ items.map Prod.fst) : (Dict.ofList items).get? key = none :=
  Dict.get?_foldl_insert_of_not_mem _ h

theorem get?_ofList_append_of_not_mem {items more : List (PyStr × UiValue)} {key : PyStr}
    (h : key ∉ more.map Prod.fst) :
    (Dict.ofList (items ++ more)).get? key = (Dict.ofList items).get? key := by
  rw [Dict.ofList, List.foldl_append]
  exact Dict.get?_foldl_insert_of_not_mem _ h

theorem not_mem_optionalField {name : String} (value : Option UiValue) {key : PyStr}
    (h : key ≠ name.toList) : key ∉ (optionalField name value).map Prod.fst := by
  intro hmem
  obtain ⟨p, hp, rfl⟩ := List.mem_map.mp hmem
  obtain ⟨v, -, rfl⟩ := List.mem_map.mp hp
  exact h rfl

theorem modelDump_ownFields (ha : HomeAssistantCommandRegister) {key : PyStr}
    (h : key ∈ ownFields) : ha.modelDump.get? key = none := by
  apply get?_ofList_of_not_mem
  simp only [List.map_append, List.mem_append, not_or]
  simp only [ownFields, List.map_cons, List.map_nil, List.mem_cons, List.not_mem_nil, or_false] at h
  rcases h with rfl | rfl | rfl | rfl
  all_goals
    refine ⟨⟨⟨⟨⟨⟨⟨⟨?_, ?_⟩, ?_⟩, ?_⟩, ?_⟩, ?_⟩, ?_⟩, ?_⟩, ?_⟩
    · simp [field]
    all_goals exact not_mem_optionalField _ (by decide)

/-- What a component says of itself does not come from the dumped register. -/
theorem commandComponent_get? (base deviceId : PyStr) (entry : CommandEntry) :
    let component := commandComponent base deviceId entry
    component.get? "platform".toList = some (.text entry.ha.type) ∧
    component.get? "unique_id".toList =
      some (.text (uniqueId deviceId (commandSuffix entry.name))) ∧
    component.get? "state_topic".toList =
      some (.text (controlTopic base entry.topicRoot deviceId entry.stateId getAction)) ∧
    component.get? "command_topic".toList =
      if entry.ha.type ≠ "sensor".toList then
        some (.text (controlTopic base entry.topicRoot deviceId entry.cmdId setAction))
      else none := by
  intro component
  -- the dump without its icon and with its options as a list
  set dump := if usesRedundantDefaultIcon entry.ha.deviceClass entry.ha.icon then
    entry.ha.modelDump.without (fun key => key = "icon".toList) else entry.ha.modelDump with hdump
  set haData := if entry.ha.type = "select".toList then
    entry.ha.options.elim dump fun options => dump.insert "options".toList (.list options.values)
    else dump with hhaData
  have hkeep : ∀ key ∈ ownFields, dump.get? key = none := by
    intro key hkey
    rw [hdump]
    split_ifs
    · rw [Dict.get?_without, modelDump_ownFields _ hkey]
      exact ite_self none
    · exact modelDump_ownFields _ hkey
  have hown : ∀ key ∈ ownFields, haData.get? key = none := by
    intro key hkey
    have hoptions : "options".toList ≠ key := by
      rintro rfl
      exact absurd hkey (by decide)
    rw [hhaData]
    split_ifs
    · rcases entry.ha.options with - | options
      · exact hkeep key hkey
      · show (dump.insert _ _).get? key = none
        rw [Dict.get?_insert_of_ne _ hoptions, hkeep key hkey]
    · exact hkeep key hkey
  set front := Dict.ofList
    [field "platform" (.text entry.ha.type), field "name" (.text entry.ha.name),
      field "unique_id" (.text (uniqueId deviceId (commandSuffix entry.name))),
      field "state_topic"
        (.text (controlTopic base entry.topicRoot deviceId entry.stateId getAction))] with hfront
  have hcomponent : component = if entry.ha.type ≠ "sensor".toList then
      (front.update haData).insert "command_topic".toList
        (.text (controlTopic base entry.topicRoot deviceId entry.cmdId setAction))
      else front.update haData := rfl
  have hfield : ∀ key ∈ ownFields, "command_topic".toList ≠ key →
      component.get? key = front.get? key := by
    intro key hkey hne
    have hupdate : (front.update haData).get? key = front.get? key := by
      rw [Dict.get?_update, hown key hkey, Option.none_or]
    rw [hcomponent]
    split_ifs
    · rw [Dict.get?_insert_of_ne _ hne, hupdate]
    · exact hupdate
  refine ⟨?_, ?_, ?_, ?_⟩
  · rw [hfield _ (by decide) (by decide)]
    rfl
  · rw [hfield _ (by decide) (by decide)]
    rfl
  · rw [hfield _ (by decide) (by decide)]
    rfl
  · rw [hcomponent]
    split_ifs
    · exact Dict.get?_insert_self _ _ _
    · rw [Dict.get?_update, hown _ (by decide), Option.none_or]
      rfl

/-! ### What is in a payload -/

theorem commandSuffix_injective : Function.Injective commandSuffix :=
  List.append_right_injective _

theorem uniqueId_injective (deviceId : PyStr) : Function.Injective (uniqueId deviceId) := by
  intro a b h
  exact (List.cons.inj (List.append_right_injective _ h)).2

section Members

def buttonNames : List PyStr :=
  ["restart_datalogger", "sync_time", "cmd_read_all"].map String.toList

/-- The names of components that no register stands for. -/
def ownNames : List PyStr :=
  buttonNames ++ ["fw_version", "serial", "type", "online"].map String.toList ++
    trackedSlots.map combinedSerialName

/-- What the loop over the commands makes: a component for each entry that is shown. -/
theorem commandComponents_eq [PyUnicode] {base deviceId : PyStr} {maxSlots : ℤ}
    {entries : List CommandEntry} {components : List (PyStr × Component)}
    (h : commandComponents base deviceId maxSlots entries = some components) :
    components = (entries.filter fun entry => commandShown maxSlots entry = some true).map
      fun entry => (commandSuffix entry.name, commandComponent base deviceId entry) := by
  induction entries generalizing components with
  | nil =>
      obtain rfl := Option.some.inj h
      rfl
  | cons entry entries ih =>
      rw [commandComponents] at h
      rcases hshown : commandShown maxSlots entry with - | (- | -)
      · rw [hshown] at h
        cases h
      · rw [hshown] at h
        rw [List.filter_cons_of_neg (by rw [hshown]; decide)]
        exact ih h
      · rw [hshown] at h
        obtain ⟨rest, hrest, rfl⟩ := Option.map_eq_some_iff.mp h
        rw [List.filter_cons_of_pos (by rw [hshown]; decide), List.map_cons, ih hrest]

theorem stateComponents_eq [PyDigit] {F : Type*} {base deviceId : PyStr} {effectiveMaxBat : ℤ}
    {pvCount : Option ℕ} {entries : List (PyStr × InputRegisterEntry F)}
    {components : List (PyStr × Component)}
    (h : stateComponents base deviceId effectiveMaxBat pvCount entries = some components) :
    components = (entries.filter fun p =>
        stateShown effectiveMaxBat pvCount p.1 p.2 = some true).map
      fun p => (p.1, stateComponent base deviceId p.1 p.2) := by
  induction entries generalizing components with
  | nil =>
      obtain rfl := Option.some.inj h
      rfl
  | cons p entries ih =>
      obtain ⟨name, register⟩ := p
      rw [stateComponents] at h
      rcases hshown : stateShown effectiveMaxBat pvCount name register with - | (- | -)
      · rw [hshown] at h
        cases h
      · rw [hshown] at h
        rw [List.filter_cons_of_neg (by simp [hshown])]
        exact ih h
      · rw [hshown] at h
        obtain ⟨rest, hrest, rfl⟩ := Option.map_eq_some_iff.mp h
        rw [List.filter_cons_of_pos (by simp [hshown]), List.map_cons, ih hrest]

variable [PyDigit] {F : Type*} {base bridgeTopic deviceId : PyStr}
  {known : GroBroRegisterMap F} {deviceInfo : Dict PyStr UiValue} {o : DiscoveryOptions}
  {payload : DiscoveryPayload}

/-- What is in a payload, without the order in which exceptions are met. -/
theorem componentList_eq {components : List (PyStr × Component)}
    (h : componentList base deviceId known o = some components) :
    components =
      ((iterCommandRegisters known).filter fun entry =>
        commandShown o.maxSlots entry = some true).map (fun entry =>
          (commandSuffix entry.name, commandComponent base deviceId entry)) ++
      buttonComponents base deviceId ++
      (known.inputRegisters.entries.filter fun p =>
        stateShown o.effectiveMaxBat o.pvCount p.1 p.2 = some true).map (fun p =>
          (p.1, stateComponent base deviceId p.1 p.2)) ++
      sensorComponents base deviceId known o := by
  rw [componentList] at h
  rcases hcommands : commandComponents base deviceId o.maxSlots (iterCommandRegisters known)
    with - | commands
  · rw [hcommands] at h
    cases h
  rcases hstates : stateComponents base deviceId o.effectiveMaxBat o.pvCount
    known.inputRegisters.entries with - | states
  · rw [hcommands, hstates] at h
    cases h
  rw [hcommands, hstates] at h
  rw [← commandComponents_eq hcommands, ← stateComponents_eq hstates]
  exact (Option.some.inj h).symm

omit [PyDigit] in
/-- A sensor is not set, and is named as no register is. -/
theorem mem_sensorComponents {p : PyStr × Component} (h : p ∈ sensorComponents base deviceId known o) :
    p.2.get? "command_topic".toList = none ∧ p.1 ∈ ownNames := by
  simp only [sensorComponents, List.mem_append] at h
  rcases h with ((h | h) | h) | h
  · rw [serialComponents] at h
    split_ifs at h
    · obtain ⟨slot, hslot, rfl⟩ := List.mem_map.mp h
      exact ⟨rfl, List.mem_append_right _
        (List.mem_map.mpr ⟨slot, (List.mem_filter.mp hslot).1, rfl⟩)⟩
    · cases h
  · rw [firmwareComponents] at h
    split_ifs at h
    · cases h
    · obtain rfl := List.mem_singleton.mp h
      exact ⟨rfl, show firmwareSuffix ∈ ownNames by decide⟩
  · simp only [List.mem_cons, List.not_mem_nil, or_false] at h
    rcases h with rfl | rfl
    · exact ⟨rfl, show "serial".toList ∈ ownNames by decide⟩
    · exact ⟨rfl, show "type".toList ∈ ownNames by decide⟩
  · split_ifs at h
    · obtain rfl := List.mem_singleton.mp h
      exact ⟨rfl, show "online".toList ∈ ownNames by decide⟩
    · cases h

omit [PyDigit] in
/-- A state comes from the state message, under its own name. -/
theorem stateComponent_get? (base deviceId name : PyStr) (register : InputRegisterEntry F) :
    let component := stateComponent base deviceId name register
    component.get? "command_topic".toList = none ∧
    component.get? "state_topic".toList = some (.text (stateTopic base deviceId)) ∧
    component.get? "value_template".toList = some (.text (valueTemplate name)) := by
  intro component
  have hicon : ∀ key, "icon".toList ≠ key → "suggested_display_precision".toList ≠ key →
      component.get? key = (Dict.ofList
        [field "platform" (.text "sensor".toList),
          field "name" (.text register.homeassistant.name),
          field "state_topic" (.text (stateTopic base deviceId)),
          field "value_template" (.text (valueTemplate name)),
          field "unique_id" (.text (uniqueId deviceId name)),
          nullableField "device_class" register.homeassistant.deviceClass,
          nullableField "state_class" register.homeassistant.stateClass,
          nullableField "unit_of_measurement"
            register.homeassistant.unitOfMeasurement]).get? key := by
    intro key hne hprecision
    have hoptional := not_mem_optionalField
      (register.homeassistant.suggestedDisplayPrecision.map .int) hprecision.symm
    rw [← get?_ofList_append_of_not_mem hoptional]
    show (stateComponent base deviceId name register).get? key = _
    rw [stateComponent]
    split_ifs
    · rfl
    · exact Dict.get?_insert_of_ne _ hne _
  refine ⟨?_, ?_, ?_⟩
  · rw [hicon _ (by decide) (by decide)]
    rfl
  · rw [hicon _ (by decide) (by decide)]
    rfl
  · rw [hicon _ (by decide) (by decide)]
    rfl

/-! ### Names -/

/-- No two components have one name. -/
structure DistinctNames (known : GroBroRegisterMap F) : Prop where
  commands : ((iterCommandRegisters known).map CommandEntry.name).Nodup
  command : ∀ entry ∈ iterCommandRegisters known, commandSuffix entry.name ∉ ownNames
  state : ∀ name register, known.inputRegisters.get? name = some register →
    name ∉ ownNames ∧ ¬ "cmd_".toList <+: name

omit [PyDigit] in
theorem mem_buttonComponents {p : PyStr × Component} (h : p ∈ buttonComponents base deviceId) :
    p.1 ∈ buttonNames := by
  simp only [buttonComponents, List.mem_cons, List.not_mem_nil, or_false] at h
  rcases h with rfl | rfl | rfl
  · exact show "restart_datalogger".toList ∈ buttonNames by decide
  · exact show "sync_time".toList ∈ buttonNames by decide
  · exact show commandSuffix "read_all".toList ∈ buttonNames by decide

omit [PyDigit] in
theorem mem_ownNames_of_button {name : PyStr} (h : name ∈ buttonNames) : name ∈ ownNames :=
  List.mem_append_left _ (List.mem_append_left _ h)

/-- The component of a name in the payload. -/
theorem payload_get? (hpayload : buildDiscoveryPayload base bridgeTopic deviceId known deviceInfo o =
    some payload) {name : PyStr} {x : Option Component}
    (h : ∀ components, componentList base deviceId known o = some components →
      ∀ component, (name, component) ∈ components ↔ x = some component) :
    payload.cmps.get? (uniqueId deviceId name) = x := by
  obtain ⟨components, hcomponents, rfl⟩ := Option.map_eq_some_iff.mp hpayload
  refine Dict.get?_ofList_of_mem_iff fun component => ?_
  rw [← h components hcomponents component, List.mem_map]
  constructor
  · rintro ⟨⟨name', component'⟩, hmem, he⟩
    obtain ⟨hname, rfl⟩ := Prod.mk.inj he
    exact uniqueId_injective deviceId hname ▸ hmem
  · intro hmem
    exact ⟨(name, component), hmem, rfl⟩

/-- **A state is shown under its name**, whatever else is shown. -/
theorem payload_state (hpayload : buildDiscoveryPayload base bridgeTopic deviceId known deviceInfo
    o = some payload) (hnames : DistinctNames known) {name : PyStr}
    {register : InputRegisterEntry F} (hregister : known.inputRegisters.get? name = some register) :
    payload.cmps.get? (uniqueId deviceId name) =
      if stateShown o.effectiveMaxBat o.pvCount name register = some true then
        some (stateComponent base deviceId name register)
      else none := by
  obtain ⟨hown, hcommand⟩ := hnames.state name register hregister
  refine payload_get? hpayload fun components hcomponents component => ?_
  rw [componentList_eq hcomponents]
  simp only [List.mem_append]
  constructor
  · rintro (((h | h) | h) | h)
    · obtain ⟨entry, -, he⟩ := List.mem_map.mp h
      exact absurd ⟨_, (Prod.mk.inj he).1⟩ hcommand
    · exact absurd (mem_ownNames_of_button (mem_buttonComponents h)) hown
    · obtain ⟨⟨name', register'⟩, hmem, he⟩ := List.mem_map.mp h
      obtain ⟨hentry, hshown⟩ := List.mem_filter.mp hmem
      obtain ⟨rfl, rfl⟩ := Prod.mk.inj he
      obtain rfl := Option.some.inj
        (((Dict.mem_entries _).mp hentry).symm.trans hregister)
      rw [if_pos (of_decide_eq_true hshown)]
    · exact absurd (mem_sensorComponents h).2 hown
  · intro h
    split_ifs at h with hshown
    obtain rfl := Option.some.inj h
    exact Or.inl (Or.inr (List.mem_map.mpr ⟨(name, register),
      List.mem_filter.mpr ⟨(Dict.mem_entries _).mpr hregister, decide_eq_true hshown⟩, rfl⟩))

/-- A command register is shown under its name. -/
theorem payload_command (hpayload : buildDiscoveryPayload base bridgeTopic deviceId known
    deviceInfo o = some payload) (hnames : DistinctNames known) {entry : CommandEntry}
    (hentry : entry ∈ iterCommandRegisters known) :
    payload.cmps.get? (uniqueId deviceId (commandSuffix entry.name)) =
      if commandShown o.maxSlots entry = some true then
        some (commandComponent base deviceId entry)
      else none := by
  have hown := hnames.command entry hentry
  refine payload_get? hpayload fun components hcomponents component => ?_
  rw [componentList_eq hcomponents]
  simp only [List.mem_append]
  constructor
  · rintro (((h | h) | h) | h)
    · obtain ⟨entry', hmem, he⟩ := List.mem_map.mp h
      obtain ⟨hentry', hshown⟩ := List.mem_filter.mp hmem
      obtain ⟨hname, rfl⟩ := Prod.mk.inj he
      obtain rfl := List.inj_on_of_nodup_map hnames.commands hentry' hentry
        (commandSuffix_injective hname)
      rw [if_pos (of_decide_eq_true hshown)]
    · exact absurd (mem_ownNames_of_button (mem_buttonComponents h)) hown
    · obtain ⟨⟨name', register'⟩, hmem, he⟩ := List.mem_map.mp h
      obtain ⟨hregister, -⟩ := List.mem_filter.mp hmem
      refine absurd ?_ (hnames.state name' register' ((Dict.mem_entries _).mp hregister)).2
      exact ⟨entry.name, (Prod.mk.inj he).1.symm⟩
    · exact absurd (mem_sensorComponents h).2 hown
  · intro h
    split_ifs at h with hshown
    obtain rfl := Option.some.inj h
    exact Or.inl (Or.inl (Or.inl (List.mem_map.mpr ⟨entry,
      List.mem_filter.mpr ⟨hentry, decide_eq_true hshown⟩, rfl⟩)))

/-- A sensor that no register stands for is shown under its name. -/
theorem payload_sensor (hpayload : buildDiscoveryPayload base bridgeTopic deviceId known
    deviceInfo o = some payload) (hnames : DistinctNames known) {name : PyStr}
    (hown : name ∈ ownNames) (hbutton : name ∉ buttonNames) {x : Option Component}
    (h : ∀ component, (name, component) ∈ sensorComponents base deviceId known o ↔
      x = some component) :
    payload.cmps.get? (uniqueId deviceId name) = x := by
  refine payload_get? hpayload fun components hcomponents component => ?_
  rw [componentList_eq hcomponents, ← h component]
  simp only [List.mem_append]
  constructor
  · rintro (((h | h) | h) | h)
    · obtain ⟨entry, hmem, he⟩ := List.mem_map.mp h
      refine absurd hown ?_
      rw [← (Prod.mk.inj he).1]
      exact hnames.command entry (List.mem_filter.mp hmem).1
    · exact absurd (mem_buttonComponents h) hbutton
    · obtain ⟨⟨name', register'⟩, hmem, he⟩ := List.mem_map.mp h
      refine absurd hown ?_
      rw [← (Prod.mk.inj he).1]
      exact (hnames.state name' register'
        ((Dict.mem_entries _).mp (List.mem_filter.mp hmem).1)).1
    · exact h
  · exact Or.inr

end Members

/-! ### Controls -/

section Controls

variable {F : Type*}

/-- Names, kinds and numbers are as in the maps of the package. -/
structure PlainMap (known : GroBroRegisterMap F) : Prop where
  holdingName : ∀ name entry, known.holdingRegisters.get? name = some entry → '/' ∉ name
  holdingType : ∀ name entry, known.holdingRegisters.get? name = some entry →
    ∃ cmdType : CommandType, cmdType.isSetting = true ∧ entry.homeassistant.type = cmdType.text
  configNumber : ∀ name entry, known.configRegisters.get? name = some entry →
    entry.registerNo < 65536

variable [PyDigit] [PyUpper] [PyLower]

/-- What the control of a component is about, and what using it asks for: `handled` is what
the client makes of a payload on the command topic of the component. -/
inductive Wired (setup : CommandSetup F) (now deviceId : PyStr) (known : GroBroRegisterMap F)
    (component : Component) (handled : Bytes → Except CommandFailure (Option HaRequest)) :
    Prop where
  /-- A holding register: its setting is handled by its kind, and its state comes on the
  topic on which it is published. -/
  | setting (name : TopicLevel) (entry : HoldingRegisterEntry F) (cmdType : CommandType)
      (hentry : known.holdingRegisters.get? name.val = some entry)
      (htype : entry.homeassistant.type = cmdType.text)
      (hid : component.get? "unique_id".toList =
        some (.text (uniqueId deviceId (commandSuffix name.val))))
      (hstate : component.get? "state_topic".toList = some (.text (holdingTopic
        setup.haBaseTopic ⟨cmdType.text, cmdType.slash_not_mem_text⟩ deviceId name)))
      (hhandled : ∀ payload, handled payload =
        handleSetting known ⟨cmdType, deviceId, name.val, setAction⟩ payload)
  /-- A config register. -/
  | config (name : PyStr) (entry : ConfigRegisterEntry F)
      (hentry : known.configRegisters.get? name = some entry)
      (hid : component.get? "unique_id".toList =
        some (.text (uniqueId deviceId (commandSuffix name))))
      (hstate : component.get? "state_topic".toList =
        some (.text (readbackTopic setup.haBaseTopic deviceId entry.registerNo)))
      (hhandled : ∀ payload rawValue, settingText payload = .ok rawValue → handled payload =
        .ok (some (.setConfig deviceId entry.registerNo
          (if entry.registerNo = 31 then now else rawValue))))
  /-- The button that restarts the datalogger. -/
  | restart (hpress : component.get? "payload_press".toList = some (.text "1".toList))
      (hhandled : handled (encodeUtf8 "1".toList) =
        .ok (some (.setConfig deviceId 32 "1".toList)))
  | readAll (hhandled : ∀ payload, handled payload = .ok (some (.readAll deviceId)))

variable {setup : CommandSetup F} {now deviceId : PyStr} {known : GroBroRegisterMap F}

/-- A message on a control topic of a known device. -/
theorem handleMessage_controlTopic {cmdType : CommandType} {id action : PyStr}
    (hdevice : '/' ∉ deviceId) (hknown : knownRegisterMap setup.registers deviceId = some known)
    (hid : '/' ∉ id) (haction : '/' ∉ action) (payload : Bytes) :
    handleMessage setup now (controlTopic setup.haBaseTopic cmdType.text deviceId id action)
        payload = handleCommand now known ⟨cmdType, deviceId, id, action⟩ payload :=
  handleMessage_of_parsed (parseCommandTopic_controlTopic hdevice hid haction) hknown

omit [PyLower] in
/-- A config register is set by its number. -/
theorem handleCommand_config {registerNo : ℕ} (h : registerNo < 65536) {payload : Bytes}
    {rawValue : PyStr} (htext : settingText payload = .ok rawValue) :
    handleCommand now known ⟨.config, deviceId, (toString registerNo).toList, setAction⟩ payload =
      .ok (some (.setConfig deviceId registerNo (if registerNo = 31 then now else rawValue))) := by
  have hshort : (toString registerNo).toList.length ≤ 4300 := by
    have hdigits : (Nat.toDigits 10 registerNo).length ≤ 5 :=
      (Nat.length_toDigits_le_iff (by decide) (by decide)).mpr (by omega)
    rw [show (toString registerNo).toList = Nat.toDigits 10 registerNo from Nat.toList_repr]
    omega
  have hnumber : intOrInvalid (toString registerNo).toList = .ok (registerNo : ℤ) :=
    intOrInvalid_eq_ok_iff.mpr (intOfText_toString hshort)
  have hcommand : handleCommand now known ⟨.config, deviceId, (toString registerNo).toList,
      setAction⟩ payload =
      handleConfig now ⟨.config, deviceId, (toString registerNo).toList, setAction⟩ payload := by
    rw [handleCommand, if_neg (fun h => by cases h.1), if_neg (fun h => by cases h.1),
      if_neg (fun h => by cases h.1), if_pos ⟨rfl, rfl⟩]
  rw [hcommand, handleConfig, hnumber, htext]
  by_cases hclock : registerNo = 31
  · subst hclock
    rfl
  · have hother : (registerNo : ℤ) ≠ 31 := by exact_mod_cast hclock
    rw [if_neg hclock]
    simp only [ok_bind, if_neg hother]
    rfl

omit [PyLower] in
/-- Pressing the button for a restart sets register 32. -/
theorem handleCommand_restart :
    handleCommand now known ⟨.config, deviceId, "32".toList, setAction⟩ (encodeUtf8 "1".toList) =
      .ok (some (.setConfig deviceId 32 "1".toList)) := by
  have hpress : settingText (encodeUtf8 "1".toList) = .ok "1".toList := by
    rw [settingText, decodeUtf8_encodeUtf8]
    show Except.ok (strip "1".toList) = _
    refine congrArg _ (stripBy_of_not_mem ?_)
    intro c hc
    obtain rfl := List.mem_singleton.mp hc
    rfl
  have hnumber : "32".toList = (toString 32).toList := by
    rfl
  have hcommand : handleCommand now known ⟨.config, deviceId, (toString 32).toList, setAction⟩
      (encodeUtf8 "1".toList) =
      .ok (some (.setConfig deviceId 32 (if 32 = 31 then now else "1".toList))) :=
    handleCommand_config (by omega) hpress
  rw [hnumber, hcommand, if_neg (by decide)]

omit [PyDigit] [PyUpper] [PyLower] in
theorem setting_not_sensor {cmdType : CommandType} (h : cmdType.isSetting = true) :
    cmdType.text ≠ "sensor".toList ∧ cmdType ≠ .button := by
  cases cmdType with
  | button => cases h
  | config => cases h
  | _ => exact ⟨by decide, by decide⟩

/-- The control of a holding register. -/
theorem wired_holding (now : PyStr) (hmap : PlainMap known) (hdevice : '/' ∉ deviceId)
    (hknown : knownRegisterMap setup.registers deviceId = some known) {name : PyStr}
    {entry : HoldingRegisterEntry F} (hentry : known.holdingRegisters.get? name = some entry) :
    ∃ cmdType : CommandType,
      (commandComponent setup.haBaseTopic deviceId (holdingCommand (name, entry))).get?
          "command_topic".toList =
        some (.text (controlTopic setup.haBaseTopic cmdType.text deviceId name setAction)) ∧
      Wired setup now deviceId known
        (commandComponent setup.haBaseTopic deviceId (holdingCommand (name, entry)))
        (handleMessage setup now
          (controlTopic setup.haBaseTopic cmdType.text deviceId name setAction)) := by
  obtain ⟨cmdType, hsetting, htype⟩ := hmap.holdingType name entry hentry
  have hslash := hmap.holdingName name entry hentry
  obtain ⟨hsensor, hbutton⟩ := setting_not_sensor hsetting
  obtain ⟨-, hid, hstate, hcommand⟩ :=
    commandComponent_get? setup.haBaseTopic deviceId (holdingCommand (name, entry))
  refine ⟨cmdType, ?_, ?_⟩
  · have hother : (holdingCommand (name, entry)).ha.type ≠ "sensor".toList :=
      fun h => hsensor (htype.symm.trans h)
    rw [hcommand, if_pos hother]
    show some (UiValue.text (controlTopic _ entry.homeassistant.type _ _ _)) = _
    rw [htype]
    rfl
  · refine .setting ⟨name, hslash⟩ entry cmdType hentry htype hid ?_ ?_
    · rw [hstate, holdingTopic_eq]
      show some (UiValue.text (controlTopic _ entry.homeassistant.type _ _ _)) = _
      rw [htype]
      rfl
    · intro payload
      rw [handleMessage_controlTopic hdevice hknown hslash (by decide), handleCommand,
        if_neg fun h => hbutton h.1, if_neg fun h => hbutton h.1, if_pos ⟨hsetting, rfl⟩]

/-- The control of a config register, if it has one. -/
theorem wired_config (now : PyStr) (hmap : PlainMap known) (hdevice : '/' ∉ deviceId)
    (hknown : knownRegisterMap setup.registers deviceId = some known) {name : PyStr}
    {entry : ConfigRegisterEntry F} (hentry : known.configRegisters.get? name = some entry)
    {topic : UiValue}
    (htopic : (commandComponent setup.haBaseTopic deviceId (configCommand (name, entry))).get?
      "command_topic".toList = some topic) :
    topic = .text (controlTopic setup.haBaseTopic CommandType.config.text deviceId
        (toString entry.registerNo).toList setAction) ∧
      Wired setup now deviceId known
        (commandComponent setup.haBaseTopic deviceId (configCommand (name, entry)))
        (handleMessage setup now (controlTopic setup.haBaseTopic CommandType.config.text deviceId
          (toString entry.registerNo).toList setAction)) := by
  obtain ⟨-, hid, hstate, hcommand⟩ :=
    commandComponent_get? setup.haBaseTopic deviceId (configCommand (name, entry))
  rw [hcommand] at htopic
  split_ifs at htopic
  refine ⟨(Option.some.inj htopic).symm, .config name entry hentry hid (hstate.trans ?_) ?_⟩
  · rw [readbackTopic_eq]
    rfl
  · intro payload rawValue htext
    rw [handleMessage_controlTopic hdevice hknown (slash_not_mem_toString _) (by decide)]
    exact handleCommand_config (hmap.configNumber name entry hentry) htext

/-- What a component of the payload is about, if it is a control that is offered. -/
theorem wired_of_mem (now : PyStr) {o : DiscoveryOptions}
    {components : List (PyStr × Component)} (hmap : PlainMap known) (hdevice : '/' ∉ deviceId)
    (hknown : knownRegisterMap setup.registers deviceId = some known)
    (hcomponents : componentList setup.haBaseTopic deviceId known o = some components)
    {p : PyStr × Component} (hp : p ∈ components) (hoffered : p.1 ≠ "sync_time".toList)
    {topic : UiValue} (htopic : p.2.get? "command_topic".toList = some topic) :
    ∃ (cmdType : CommandType) (id action : PyStr), '/' ∉ id ∧ action ∈ [setAction, readAction] ∧
      topic = .text (controlTopic setup.haBaseTopic cmdType.text deviceId id action) ∧
      Wired setup now deviceId known p.2 (handleMessage setup now
        (controlTopic setup.haBaseTopic cmdType.text deviceId id action)) := by
  rw [componentList_eq hcomponents] at hp
  simp only [List.mem_append] at hp
  rcases hp with ((hp | hp) | hp) | hp
  · obtain ⟨entry, hentry, rfl⟩ := List.mem_map.mp hp
    rcases List.mem_append.mp (List.mem_filter.mp hentry).1 with hentry | hentry
    · obtain ⟨⟨name, register⟩, hregister, rfl⟩ := List.mem_map.mp hentry
      have hget := (Dict.mem_entries _).mp hregister
      obtain ⟨cmdType, hcommand, hwired⟩ := wired_holding now hmap hdevice hknown hget
      obtain rfl := Option.some.inj (hcommand.symm.trans htopic)
      exact ⟨cmdType, name, setAction, hmap.holdingName name register hget, List.mem_cons_self,
        rfl, hwired⟩
    · obtain ⟨⟨name, register⟩, hregister, rfl⟩ := List.mem_map.mp hentry
      have hget := (Dict.mem_entries _).mp hregister
      obtain ⟨rfl, hwired⟩ := wired_config now hmap hdevice hknown hget htopic
      exact ⟨.config, _, setAction, slash_not_mem_toString _, List.mem_cons_self, rfl, hwired⟩
  · simp only [buttonComponents, List.mem_cons, List.not_mem_nil, or_false] at hp
    rcases hp with rfl | rfl | rfl
    · refine ⟨.config, "32".toList, setAction, by decide, List.mem_cons_self,
        (Option.some.inj htopic).symm, .restart rfl ?_⟩
      rw [handleMessage_controlTopic hdevice hknown (by decide) (by decide)]
      exact handleCommand_restart
    · exact absurd rfl hoffered
    · refine ⟨.button, "read_all".toList, readAction, by decide,
        List.mem_cons_of_mem _ List.mem_cons_self, (Option.some.inj htopic).symm, .readAll ?_⟩
      intro payload
      rw [handleMessage_controlTopic hdevice hknown (by decide) (by decide), handleCommand,
        if_pos ⟨rfl, rfl⟩]
  · obtain ⟨⟨name, register⟩, -, rfl⟩ := List.mem_map.mp hp
    rw [(stateComponent_get? _ _ name register).1] at htopic
    cases htopic
  · rw [(mem_sensorComponents hp).1] at htopic
    cases htopic

end Controls

/-! ### Cleaning -/

section Cleaning

variable (c : DiscoveryCleaning) (deviceId id : PyStr) (component : Component)

/-- The fields that cleaning may change. -/
def cleanedFields : List PyStr :=
  ["name", "publish", "type", "command_topic"].map String.toList

omit deviceId id in
theorem translatedComponent_get? {key : PyStr} (h : "name".toList ≠ key) :
    (translatedComponent c component).get? key = component.get? key := by
  unfold translatedComponent
  split
  · exact Dict.get?_insert_of_ne _ h _
  · rfl

theorem cleanComponent_get? {key : PyStr} (h : key ∉ cleanedFields) :
    (cleanComponent c deviceId id component).get? key = component.get? key := by
  simp only [cleanedFields, List.map_cons, List.map_nil, List.mem_cons, List.not_mem_nil, or_false,
    not_or] at h
  obtain ⟨hname, hpublish, htype, hcommand⟩ := h
  have hnamed := translatedComponent_get? c component (Ne.symm hname)
  unfold cleanComponent
  extract_lets named cleaned
  have hcleaned : cleaned.get? key = component.get? key := by
    rw [Dict.get?_without, decide_eq_false (not_or.mpr ⟨hpublish, htype⟩)]
    exact hnamed
  split_ifs
  · exact hnamed
  · rw [Dict.get?_without, decide_eq_false hcommand]
    exact hcleaned
  · exact hcleaned

/-- Cleaning takes its command topic from a sensor. -/
theorem cleanComponent_command :
    (cleanComponent c deviceId id component).get? "command_topic".toList =
      if isUpstreamNeoInverterPower deviceId id = false ∧
        component.get? "platform".toList = some (.text "sensor".toList) then none
      else component.get? "command_topic".toList := by
  have hnamed : (translatedComponent c component).get? "command_topic".toList =
      component.get? "command_topic".toList := translatedComponent_get? c component (by decide)
  unfold cleanComponent
  extract_lets named cleaned
  have hcleaned : cleaned.get? "command_topic".toList = component.get? "command_topic".toList := by
    rw [Dict.get?_without]
    exact hnamed
  have hplatform : cleaned.get? "platform".toList = component.get? "platform".toList := by
    rw [Dict.get?_without]
    exact translatedComponent_get? c component (by decide)
  rw [hplatform]
  rcases hneo : isUpstreamNeoInverterPower deviceId id with - | -
  · by_cases hsensor : component.get? "platform".toList = some (.text "sensor".toList)
    · rw [if_neg (by decide), if_pos hsensor, if_pos ⟨rfl, hsensor⟩, Dict.get?_without]
      rfl
    · rw [if_neg (by decide), if_neg hsensor, if_neg fun h => hsensor h.2]
      exact hcleaned
  · rw [if_pos rfl, if_neg fun h => absurd h.1 (by decide)]
    exact hnamed

/-- A component as it is published. -/
def publishedComponent : Component :=
  if id = uniqueId deviceId firmwareSuffix then
    (cleanComponent c deviceId id component).insert "value_template".toList
      (.text (valueTemplate firmwareSuffix))
  else cleanComponent c deviceId id component

theorem publishedComponent_get? {key : PyStr} (h : key ∉ cleanedFields)
    (htemplate : "value_template".toList ≠ key) :
    (publishedComponent c deviceId id component).get? key = component.get? key := by
  rw [publishedComponent]
  split_ifs
  · rw [Dict.get?_insert_of_ne _ htemplate, cleanComponent_get? c deviceId id component h]
  · exact cleanComponent_get? c deviceId id component h

theorem publishedComponent_command :
    (publishedComponent c deviceId id component).get? "command_topic".toList =
      if isUpstreamNeoInverterPower deviceId id = false ∧
        component.get? "platform".toList = some (.text "sensor".toList) then none
      else component.get? "command_topic".toList := by
  rw [← cleanComponent_command, publishedComponent]
  split_ifs
  · exact Dict.get?_insert_of_ne _ (by decide) _
  · rfl

/-- What is published under an id. -/
theorem publishedDiscovery_get? (data : DiscoveryPayload) :
    (publishedDiscovery c deviceId data).cmps.get? id =
      if id ∈ droppedComponents deviceId then none
      else (data.cmps.get? id).map (publishedComponent c deviceId id) := by
  have hclean : ∀ id, (cleanDiscoveryPayload c deviceId data).cmps.get? id =
      if id ∈ droppedComponents deviceId then none
      else (data.cmps.get? id).map (cleanComponent c deviceId id) := by
    intro id
    show ((data.cmps.without _).mapItems _).get? id = _
    rw [Dict.get?_mapItems, Dict.get?_without]
    simp only [decide_eq_true_eq]
    split_ifs
    · rfl
    · rfl
  set firmwareId := uniqueId deviceId firmwareSuffix
  show (((cleanDiscoveryPayload c deviceId data).cmps.get? firmwareId).elim
    (cleanDiscoveryPayload c deviceId data).cmps fun component =>
      (cleanDiscoveryPayload c deviceId data).cmps.insert firmwareId
        (component.insert "value_template".toList
          (.text (valueTemplate firmwareSuffix)))).get? id = _
  rcases hget : (cleanDiscoveryPayload c deviceId data).cmps.get? firmwareId with - | component
  · -- without a firmware sensor nothing is put under its id
    rw [Option.elim_none, hclean]
    split_ifs
    · rfl
    rcases hdata : data.cmps.get? id with - | component
    · rfl
    · have hid : id ≠ firmwareId := by
        rintro rfl
        rw [hclean, if_neg (by assumption), hdata] at hget
        cases hget
      rw [Option.map_some, Option.map_some, publishedComponent, if_neg hid]
  · rw [Option.elim_some, Dict.get?_insert, hclean]
    by_cases hid : id = firmwareId
    · subst hid
      rw [hclean] at hget
      split_ifs at hget with hdropped
      obtain ⟨shown, hshown, rfl⟩ := Option.map_eq_some_iff.mp hget
      rw [if_pos rfl, if_neg hdropped, hshown, Option.map_some, publishedComponent, if_pos rfl]
    · rw [if_neg (Ne.symm hid)]
      split_ifs
      · rfl
      rcases data.cmps.get? id with - | component
      · rfl
      · rw [Option.map_some, Option.map_some, publishedComponent, if_neg hid]

end Cleaning

/-! ### Discovery is wired -/

section Discovery

variable {F : Type*} [PyDigit] [PyUpper] [PyLower] {now deviceId : PyStr}
  {known : GroBroRegisterMap F}

omit [PyLower] in
/-- Cleaning keeps what a control is about. -/
theorem Wired.published {setup : CommandSetup F} {component : Component}
    {handled : Bytes → Except CommandFailure (Option HaRequest)}
    (h : Wired setup now deviceId known component handled) (c : DiscoveryCleaning) (id : PyStr) :
    Wired setup now deviceId known (publishedComponent c deviceId id component) handled := by
  have hkept : ∀ key, key ∉ cleanedFields → "value_template".toList ≠ key →
      (publishedComponent c deviceId id component).get? key = component.get? key :=
    fun key hkey htemplate => publishedComponent_get? c deviceId id component hkey htemplate
  cases h with
  | setting name entry cmdType hentry htype hid hstate hhandled =>
      exact .setting name entry cmdType hentry htype
        ((hkept _ (by decide) (by decide)).trans hid)
        ((hkept _ (by decide) (by decide)).trans hstate) hhandled
  | config name entry hentry hid hstate hhandled =>
      exact .config name entry hentry ((hkept _ (by decide) (by decide)).trans hid)
        ((hkept _ (by decide) (by decide)).trans hstate) hhandled
  | restart hpress hhandled =>
      exact .restart ((hkept _ (by decide) (by decide)).trans hpress) hhandled
  | readAll hhandled => exact .readAll hhandled

/-- **Discovery is wired.**  A control that is published has a command topic that is
subscribed to, and using it asks for what the control is about; and of the command
registers that are shown every one has its control, but for those that are read only and the
system time. -/
theorem discovery_wired (setup : CommandSetup F) (now : PyStr) (c : DiscoveryCleaning)
    {bridgeTopic : PyStr} {deviceInfo : Dict PyStr UiValue} {o : DiscoveryOptions}
    {payload : DiscoveryPayload} (hdevice : '/' ∉ deviceId)
    (hknown : knownRegisterMap setup.registers deviceId = some known) (hmap : PlainMap known)
    (hnames : DistinctNames known)
    (hpayload : buildDiscoveryPayload setup.haBaseTopic bridgeTopic deviceId known deviceInfo o =
      some payload) :
    (∀ id component topic,
      (publishedDiscovery c deviceId payload).cmps.get? id = some component →
      component.get? "command_topic".toList = some topic →
      ∃ t, topic = .text t ∧
        (∃ filter ∈ commandSubscriptions setup.haBaseTopic, topicMatches filter t = true) ∧
        Wired setup now deviceId known component (handleMessage setup now t)) ∧
    (∀ entry ∈ iterCommandRegisters known, commandShown o.maxSlots entry = some true →
      entry.ha.type ≠ "sensor".toList → entry.name ≠ "system_time".toList →
      ∃ component, (publishedDiscovery c deviceId payload).cmps.get?
          (uniqueId deviceId (commandSuffix entry.name)) = some component ∧
        component.get? "command_topic".toList = some (.text (controlTopic setup.haBaseTopic
          entry.topicRoot deviceId entry.cmdId setAction))) := by
  constructor
  · intro id component topic hcomponent htopic
    rw [publishedDiscovery_get?] at hcomponent
    split_ifs at hcomponent with hdropped
    obtain ⟨built, hbuilt, rfl⟩ := Option.map_eq_some_iff.mp hcomponent
    obtain ⟨components, hcomponents, rfl⟩ := Option.map_eq_some_iff.mp hpayload
    obtain ⟨⟨suffix, built⟩, hmem, he⟩ :=
      List.mem_map.mp (Dict.mem_of_mem_ofList ((Dict.mem_entries _).mpr hbuilt))
    obtain ⟨rfl, rfl⟩ := Prod.mk.inj he
    have hoffered : suffix ≠ "sync_time".toList := by
      rintro rfl
      exact hdropped List.mem_cons_self
    rw [publishedComponent_command] at htopic
    split_ifs at htopic
    obtain ⟨cmdType, cmdId, action, hid, haction, rfl, hwired⟩ :=
      wired_of_mem now hmap hdevice hknown hcomponents hmem hoffered htopic
    exact ⟨_, rfl, controlTopic_subscribed hdevice hid haction, hwired.published c _⟩
  · intro entry hentry hshown hsensor htime
    have hget := payload_command hpayload hnames hentry
    rw [if_pos hshown] at hget
    obtain ⟨hplatform, -, -, hcommand⟩ :=
      commandComponent_get? setup.haBaseTopic deviceId entry
    have hkept : uniqueId deviceId (commandSuffix entry.name) ∉ droppedComponents deviceId := by
      intro h
      simp only [droppedComponents, List.mem_cons, List.not_mem_nil, or_false] at h
      rcases h with h | h
      · exact absurd (uniqueId_injective deviceId h) (by simp [commandSuffix])
      · exact htime (commandSuffix_injective (uniqueId_injective deviceId h))
    refine ⟨_, by rw [publishedDiscovery_get?, if_neg hkept, hget]; rfl, ?_⟩
    rw [publishedComponent_command, if_neg, hcommand, if_pos hsensor]
    rintro ⟨-, h⟩
    rw [hplatform] at h
    exact hsensor (UiValue.text.inj (Option.some.inj h))

end Discovery

/-- The switch of a NOAH battery is shown and switches. -/
theorem discovery_wired_switch :
    letI := PyDigit.asciiOnly
    letI := PyUpper.asciiOnly
    letI := PyLower.asciiOnly
    ∃ payload component, buildDiscoveryPayload ['h', 'a'] [] "0PVP1".toList
        (chargingSetup.registers .noah) ∅ ⟨1, none, 1, 0, false⟩ = some payload ∧
      (publishedDiscovery ⟨[], none, id, none⟩ "0PVP1".toList payload).cmps.get?
        (uniqueId "0PVP1".toList (commandSuffix chargingName)) = some component ∧
      ∃ topic filter, component.get? "command_topic".toList = some (.text topic) ∧
        filter ∈ commandSubscriptions ['h', 'a'] ∧ topicMatches filter topic = true := by
  let _ : PyDigit := PyDigit.asciiOnly
  let _ : PyUpper := PyUpper.asciiOnly
  let _ : PyLower := PyLower.asciiOnly
  have honly : ∀ name entry, (chargingSetup.registers .noah).holdingRegisters.get? name =
      some entry → name = chargingName ∧ entry = chargingSwitch := by
    intro name entry h
    have hmem : (name, entry) ∈ [(chargingName, chargingSwitch)] := (Dict.mem_entries _).mpr h
    exact Prod.mk.inj (List.mem_singleton.mp hmem)
  have hmap : PlainMap (chargingSetup.registers .noah) :=
    { holdingName := by
        rintro name entry h
        obtain ⟨rfl, -⟩ := honly name entry h
        decide
      holdingType := by
        rintro name entry h
        obtain ⟨-, rfl⟩ := honly name entry h
        exact ⟨.switch, rfl, rfl⟩
      configNumber := fun name entry h => by cases h }
  have hnames : DistinctNames (chargingSetup.registers .noah) :=
    { commands := by decide
      command := by
        intro entry hentry
        obtain rfl := List.mem_singleton.mp hentry
        decide
      state := fun name register h => by cases h }
  obtain ⟨payload, hpayload⟩ : ∃ payload, buildDiscoveryPayload ['h', 'a'] [] "0PVP1".toList
      (chargingSetup.registers .noah) ∅ ⟨1, none, 1, 0, false⟩ = some payload := ⟨_, rfl⟩
  obtain ⟨hcontrols, hshown⟩ := discovery_wired chargingSetup [] ⟨[], none, id, none⟩ (by decide)
    rfl hmap hnames hpayload
  obtain ⟨component, hcomponent, hcommand⟩ := hshown (holdingCommand (chargingName, chargingSwitch))
    List.mem_cons_self (by decide) (by decide) (by decide)
  obtain ⟨topic, htopic, ⟨filter, hfilter, hmatches⟩, -⟩ :=
    hcontrols _ component _ hcomponent hcommand
  exact ⟨payload, component, hpayload, hcomponent, topic, filter, htopic ▸ hcommand, hfilter,
    hmatches⟩

end GroBro
