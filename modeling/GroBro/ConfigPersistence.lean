/-
GroBro/ConfigPersistence.lean

Device metadata across restarts: `set_config` of `grobro/ha/client.py`, the helpers of
`grobro/ha/config_runtime.py` and `DeviceConfig.to_file`.  A config has three copies: the
cache, its file, and a snapshot of the file as it was last parsed, which is used again as long
as the signature of the file is the same.  A packet is merged into the cache, and the result
is written if the file has other metadata; a device whose write failed is dirty, and is
written again with its telemetry.

Only the program changes the files.  Serial numbers are normal (`ConfigSerial.lean`), so that
a file is read back as it was written; the snapshot is of the file that is there or has
another signature, so that a write is only skipped if the file agrees (`EntryInv`).

A file is found by its path, and the id of a device is part of it as it is: ids with slashes
can name one file, and the metadata of one device is then overwritten with that of the other
(`not_metadataKept_sharedFile`).  Where no device comes whose file another one has, each
device is kept as if it were alone (`metadata_kept`), and ids without a slash never share a
file (`configPath_injective`).
-/
import GroBro.ConfigSerial

namespace GroBro

open ByteCodec Machine

/-! ### The code -/

/-- `_STABLE_DEVICE_FIELDS` -/
def stableDeviceFields : List ConfigField :=
  [.serialNumber, .deviceType, .modelId, .swVersion, .hwVersion, .macAddress, .protocolVersion]

/-- `_PERSISTED_RUNTIME_FIELDS` -/
def persistedRuntimeFields : List ConfigField := stableDeviceFields ++ [.dataInterval, .localIp]

/-- `persisted_runtime_data`; `none` stands for a key that the dict has not. -/
def persistedRuntimeData (config : Option DeviceConfig) : List (Option PyStr) :=
  persistedRuntimeFields.map fun field => config.bind fun config => config field

/-- `_merge_config` -/
def mergeConfig (previous : Option DeviceConfig) (incoming : DeviceConfig) : DeviceConfig :=
  match previous with
  | none => incoming
  | some previous => .make fun field => (incoming field).or (previous field)

/-- The fields that `to_file` writes. -/
def toFile (config : DeviceConfig) : ConfigField → Option PyStr := fun field =>
  if field = .password ∨ field = .raw then none else config field

/-- A config file with its stat signature. -/
structure ConfigFile (σ : Type*) where
  signature : σ
  /-- The fields in it; `none` if `from_file` cannot read them. -/
  data : Option (ConfigField → Option PyStr)

/-- `DeviceConfig.from_file` -/
def ConfigFile.config {σ : Type*} (file : ConfigFile σ) : Option DeviceConfig :=
  file.data.map DeviceConfig.make

/-- A write, or the attempt of one. -/
structure ConfigWrite where
  data : ConfigField → Option PyStr
  saved : Bool

/-- What there is of a device: what the client has, and its file. -/
structure DeviceEntry (σ : Type*) where
  /-- `_config_cache` -/
  cache : Option DeviceConfig
  /-- `_dirty_device_configs` -/
  dirty : Bool
  /-- `_persisted_config_snapshots` -/
  snapshot : Option (σ × DeviceConfig)
  file : Option (ConfigFile σ)
  /-- The packets and the writes so far, which no step looks at. -/
  supplied : List DeviceConfig
  writes : List ConfigWrite

/-- A config that a packet leads to. -/
structure ConfigPacket where
  config : DeviceConfig
  normal : NormalSerial config

namespace DeviceEntry

variable {σ : Type*} [DecidableEq σ]

/-- A client that starts; `listed` says that `restore_config_cache_by_filename` sees the
file. -/
def start (file : Option (ConfigFile σ)) (listed : Bool) : DeviceEntry σ :=
  ⟨if listed then file.bind ConfigFile.config else none, false, none, file, [], []⟩

/-- `load_persisted_config` -/
def loadPersistedConfig (e : DeviceEntry σ) : DeviceEntry σ × Option DeviceConfig :=
  match e.file with
  | none => ({ e with snapshot := none }, none)
  | some file =>
      match e.snapshot.filter fun cached => cached.1 = file.signature with
      | some cached => (e, some cached.2)
      | none =>
          ({ e with snapshot := file.config.map fun config => (file.signature, config) },
            file.config)

/-- `persist_device_config`; the outcome is the new signature, or `none` for an `OSError`. -/
def persistDeviceConfig (e : DeviceEntry σ) (config : DeviceConfig) (outcome : Option σ) :
    DeviceEntry σ :=
  match outcome with
  | none => { e with dirty := true, writes := e.writes ++ [⟨toFile config, false⟩] }
  | some signature =>
      { e with
        dirty := false
        file := some ⟨signature, some (toFile config)⟩
        writes := e.writes ++ [⟨toFile config, true⟩] }

/-- `set_config`, up to the discovery. -/
def setConfig (e : DeviceEntry σ) (incoming : DeviceConfig) (outcome : Option σ) : DeviceEntry σ :=
  let (e, existing) := e.loadPersistedConfig
  let effective := mergeConfig (e.cache.or existing) incoming
  let needsSensitiveCleanup := existing.any fun config =>
    (config .password).isSome || (config .raw).isSome
  let e :=
    if existing.isNone ∨ needsSensitiveCleanup ∨
        persistedRuntimeData existing ≠ persistedRuntimeData (some effective) then
      e.persistDeviceConfig effective outcome
    else e
  { e with cache := some effective, supplied := e.supplied ++ [incoming] }

/-- `retry_pending_device_config` -/
def retryPending (e : DeviceEntry σ) (outcome : Option σ) : DeviceEntry σ :=
  if e.dirty then
    match e.cache with
    | none => e
    | some config => e.persistDeviceConfig config outcome
  else e

/-- `DeviceConfig(serial_number=device_id)` -/
def minimalConfig (deviceId : PyStr) : DeviceConfig :=
  .make fun field => if field = .serialNumber then some deviceId else none

/-- `__device_info_from_config`, as far as it finds or makes a config. -/
def deviceInfo (e : DeviceEntry σ) (deviceId : PyStr) (outcome : Option σ) : DeviceEntry σ :=
  match e.cache with
  | some _ => e
  | none =>
      match e.file.bind ConfigFile.config with
      | some config => { e with cache := some config }
      | none =>
          { e.persistDeviceConfig (minimalConfig deviceId) outcome with
            cache := some (minimalConfig deviceId) }

end DeviceEntry

/-- What happens to a device, with the outcome of a write if there is one. -/
inductive ConfigEvent (σ : Type*) where
  | packet (packet : ConfigPacket) (outcome : Option σ)
  | telemetry (outcome : Option σ)
  | deviceInfo (outcome : Option σ)

def ConfigEvent.outcome {σ : Type*} : ConfigEvent σ → Option σ
  | packet _ outcome | telemetry outcome | deviceInfo outcome => outcome

structure ConfigAction (σ : Type*) where
  deviceId : PyStr
  event : ConfigEvent σ

section Step

variable {σ : Type*} [DecidableEq σ]

def DeviceEntry.step (e : DeviceEntry σ) (deviceId : PyStr) : ConfigEvent σ → DeviceEntry σ
  | .packet packet outcome => e.setConfig packet.config outcome
  | .telemetry outcome => e.retryPending outcome
  | .deviceInfo outcome => e.deviceInfo deviceId outcome

end Step

/-! ### The store -/

/-- `config_{device_id}.json` -/
def configFilename (deviceId : PyStr) : PyStr :=
  "config_".toList ++ deviceId ++ ".json".toList

/-- `os.path.abspath`, as the names of a path in their order, from those of the current
directory on. -/
def absPath (cwd : List PyStr) (path : PyStr) : List PyStr :=
  (path.splitOn '/').foldl (fun names name =>
    if name = [] ∨ name = ".".toList then names
    else if name = "..".toList then names.dropLast
    else names ++ [name]) cwd

def configPath (cwd : List PyStr) (deviceId : PyStr) : List PyStr :=
  absPath cwd (configFilename deviceId)

/-- What the client has of a device. -/
structure DeviceMemory where
  cache : Option DeviceConfig
  dirty : Bool
  supplied : List DeviceConfig

/-- What there is of a path. -/
structure PathEntry (σ : Type*) where
  snapshot : Option (σ × DeviceConfig)
  file : Option (ConfigFile σ)
  writes : List ConfigWrite

structure ConfigStore (σ : Type*) where
  memory : PyStr → DeviceMemory
  disk : List PyStr → PathEntry σ

namespace ConfigStore

variable {σ : Type*} (cwd : List PyStr) (w : ConfigStore σ) (d : PyStr)

/-- What a device finds: its own memory, and its path. -/
def entry : DeviceEntry σ :=
  let memory := w.memory d
  let path := w.disk (configPath cwd d)
  ⟨memory.cache, memory.dirty, path.snapshot, path.file, memory.supplied, path.writes⟩

/-- What it leaves. -/
def put (e : DeviceEntry σ) : ConfigStore σ where
  memory := Function.update w.memory d ⟨e.cache, e.dirty, e.supplied⟩
  disk := Function.update w.disk (configPath cwd d) ⟨e.snapshot, e.file, e.writes⟩

/-- A client that starts with the files on the disk.  `restore_config_cache_by_filename` sees
those that are listed, which have no slash in their names. -/
def start (initial : List PyStr → Option (ConfigFile σ)) (listed : PyStr → Bool) :
    ConfigStore σ where
  memory d :=
    let e := DeviceEntry.start (initial (configPath cwd d)) (listed d && !d.contains '/')
    ⟨e.cache, e.dirty, e.supplied⟩
  disk path := ⟨none, initial path, []⟩

end ConfigStore

/-- A name with a NUL is no file name: `os.stat` and `open` raise `ValueError`. -/
def configStep {σ : Type*} [DecidableEq σ] (cwd : List PyStr) (w : ConfigStore σ)
    (a : ConfigAction σ) : ConfigStore σ :=
  if nul ∈ a.deviceId then w
  else w.put cwd a.deviceId ((w.entry cwd a.deviceId).step a.deviceId a.event)

/-! ### Paths -/

/-- A name without a slash is one more name in the directory. -/
theorem absPath_of_slash_not_mem (cwd : List PyStr) {name : PyStr} (hslash : '/' ∉ name)
    (hname : name ≠ []) (hdot : name ≠ ".".toList) (hdots : name ≠ "..".toList) :
    absPath cwd name = cwd ++ [name] := by
  rw [absPath, List.splitOn_eq_singleton hslash, List.foldl_cons, List.foldl_nil,
    if_neg (not_or.mpr ⟨hname, hdot⟩), if_neg hdots]

theorem configPath_of_slash_not_mem (cwd : List PyStr) {d : PyStr} (hslash : '/' ∉ d) :
    configPath cwd d = cwd ++ [configFilename d] := by
  have hbefore : '/' ∉ "config_".toList := by decide
  have hbehind : '/' ∉ ".json".toList := by decide
  have hfilename : '/' ∉ configFilename d := fun hmem =>
    (List.mem_append.mp hmem).elim
      (fun hmem => (List.mem_append.mp hmem).elim hbefore hslash) hbehind
  -- the name begins with a "c"
  have hhead : (configFilename d).head? = some 'c' := rfl
  refine absPath_of_slash_not_mem cwd hfilename ?_ ?_ ?_ <;>
  · intro he
    rw [he] at hhead
    revert hhead
    decide

/-- **Ids without a slash have files of their own.** -/
theorem configPath_injective {cwd : List PyStr} {d d' : PyStr} (hslash : '/' ∉ d)
    (hslash' : '/' ∉ d') (h : configPath cwd d = configPath cwd d') : d = d' := by
  rw [configPath_of_slash_not_mem cwd hslash, configPath_of_slash_not_mem cwd hslash'] at h
  have hname : configFilename d = configFilename d' :=
    List.singleton_inj.mp (List.append_cancel_left h)
  exact List.append_cancel_left (List.append_cancel_right hname)

/-! ### Fields of files -/

theorem persistedRuntimeData_eq_iff {config config' : DeviceConfig} :
    persistedRuntimeData (some config) = persistedRuntimeData (some config') ↔
      ∀ field ∈ persistedRuntimeFields, config field = config' field := List.map_inj_left

/-- What is written is read back, without the password and the raw fallback. -/
theorem make_toFile {config : DeviceConfig} (h : NormalSerial config) (field : ConfigField) :
    DeviceConfig.make (toFile config) field = toFile config field := by
  cases field with
  | serialNumber => exact h
  | _ => rfl

theorem normalSerial_make_toFile {config : DeviceConfig} (h : NormalSerial config) :
    NormalSerial (.make (toFile config)) := by
  rw [NormalSerial, make_toFile h]
  exact h

theorem persisted_make_toFile {config : DeviceConfig} (h : NormalSerial config) :
    ∀ field ∈ persistedRuntimeFields, DeviceConfig.make (toFile config) field = config field := by
  intro field hfield
  have hexclude : ¬ (field = .password ∨ field = .raw) := by
    rintro (rfl | rfl) <;> revert hfield <;> decide
  rw [make_toFile h, toFile, if_neg hexclude]

/-- A merge has the new values, and the old ones where there is none. -/
theorem mergeConfig_apply {previous : Option DeviceConfig} {incoming : DeviceConfig}
    {field : ConfigField} (hfield : field ≠ .serialNumber) :
    mergeConfig previous incoming field =
      (incoming field).or (previous.bind fun config => config field) := by
  rcases previous with - | previous
  · exact (Option.or_none).symm
  · cases field <;> first | exact absurd rfl hfield | rfl

theorem normalSerial_mergeConfig {previous : Option DeviceConfig} {incoming : DeviceConfig}
    (hprevious : ∀ config ∈ previous, NormalSerial config) (hincoming : NormalSerial incoming) :
    NormalSerial (mergeConfig previous incoming) := by
  rcases previous with - | previous
  · exact hincoming
  · have hserial : rejectPlaceholderSerialNumber
        ((incoming .serialNumber).or (previous .serialNumber)) =
        (incoming .serialNumber).or (previous .serialNumber) := by
      rcases hs : incoming .serialNumber with - | s
      · exact hprevious previous rfl
      · rw [Option.some_or, ← hs]
        exact hincoming
    show rejectPlaceholderSerialNumber (rejectPlaceholderSerialNumber _) =
      rejectPlaceholderSerialNumber _
    rw [hserial, hserial]

/-! ### The invariant of a device -/

/-- The last value that was given for a field, of the config at first if none was. -/
def lastSupplied (first : Option DeviceConfig) (supplied : List DeviceConfig) (field : ConfigField) :
    Option PyStr :=
  supplied.foldl (fun last config => (config field).or last) (first.bind fun config => config field)

theorem lastSupplied_concat (first : Option DeviceConfig) (supplied : List DeviceConfig)
    (config : DeviceConfig) (field : ConfigField) :
    lastSupplied first (supplied ++ [config]) field =
      (config field).or (lastSupplied first supplied field) := by
  rw [lastSupplied, List.foldl_append]
  rfl

section Invariant

variable {σ : Type*}

/-- The config in the file. -/
def DeviceEntry.fileConfig (e : DeviceEntry σ) : Option DeviceConfig := e.file.bind ConfigFile.config

/-- The snapshot is of the file that is there. -/
def DeviceEntry.Fresh (e : DeviceEntry σ) : Prop :=
  ∀ signature config, e.snapshot = some (signature, config) →
    ∃ file, e.file = some file ∧ file.signature = signature ∧ file.config = some config

/-- The file has the persisted fields of a config. -/
def DeviceEntry.SavedAs (e : DeviceEntry σ) (config : DeviceConfig) : Prop :=
  ∃ saved, e.fileConfig = some saved ∧ ∀ field ∈ persistedRuntimeFields, saved field = config field

/-- What holds of a device between any two steps; `first` is the config in the file that the
client started with. -/
structure EntryInv (first : Option DeviceConfig) (e : DeviceEntry σ) : Prop where
  fileNormal : ∀ config ∈ e.fileConfig, NormalSerial config
  /-- The snapshot is of the file, or its signature is not that of the file. -/
  snapshot : e.Fresh ∨ ∀ cached ∈ e.snapshot, ∀ file ∈ e.file, cached.1 ≠ file.signature
  uncached : e.cache = none → e.fileConfig = first ∧ e.supplied = [] ∧ e.dirty = false ∧ e.Fresh
  normal : ∀ config ∈ e.cache, NormalSerial config
  cached : ∀ config ∈ e.cache, ∀ field, field ≠ .serialNumber →
    config field = lastSupplied first e.supplied field
  agree : ∀ config ∈ e.cache, e.dirty = false → e.SavedAs config
  /-- No file was written since a write failed. -/
  dirty : e.dirty = true → e.Fresh
  clean : ∀ w ∈ e.writes, w.data .password = none ∧ w.data .raw = none

variable {first : Option DeviceConfig} {e : DeviceEntry σ} {config : DeviceConfig}

theorem entryInv_start {file : Option (ConfigFile σ)}
    (h : ∀ config ∈ file.bind ConfigFile.config, NormalSerial config) (listed : Bool) :
    EntryInv (file.bind ConfigFile.config) (.start file listed) := by
  have hfresh : (DeviceEntry.start file listed).Fresh := fun _ _ hsnapshot => by cases hsnapshot
  have hcache : ∀ config ∈ (DeviceEntry.start file listed).cache,
      file.bind ConfigFile.config = some config := by
    intro config hconfig
    cases listed with
    | true => exact hconfig
    | false => cases hconfig
  constructor
  case fileNormal => exact h
  case snapshot => exact Or.inl hfresh
  case uncached => exact fun _ => ⟨rfl, rfl, rfl, hfresh⟩
  case normal => exact fun config hconfig => h config (hcache config hconfig)
  case cached =>
    intro config hconfig field _
    show config field = (file.bind ConfigFile.config).bind fun config => config field
    rw [hcache config hconfig]
    rfl
  case agree => exact fun config hconfig _ => ⟨config, hcache config hconfig, fun _ _ => rfl⟩
  case dirty => exact fun hdirty => by cases hdirty
  case clean => exact fun _ hw => by cases hw

/-- A signature that a write may get. -/
def NewSignature (e : DeviceEntry σ) (outcome : Option σ) : Prop :=
  ∀ signature ∈ outcome, ∀ file ∈ e.file, file.signature ≠ signature

theorem supplied_persistDeviceConfig (e : DeviceEntry σ) (config : DeviceConfig)
    (outcome : Option σ) : (e.persistDeviceConfig config outcome).supplied = e.supplied := by
  cases outcome <;> rfl

/-- A config is cached and written. -/
theorem EntryInv.persist (h : EntryInv first e) (hfresh : e.Fresh) (hnormal : NormalSerial config)
    {supplied : List DeviceConfig} (hcached : ∀ field, field ≠ .serialNumber →
      config field = lastSupplied first supplied field)
    {outcome : Option σ} (hnew : NewSignature e outcome) :
    EntryInv first { e.persistDeviceConfig config outcome with cache := some config, supplied } := by
  have hclean : ∀ saved, ∀ w ∈ e.writes ++ [⟨toFile config, saved⟩],
      w.data .password = none ∧ w.data .raw = none := by
    intro saved w hw
    rcases List.mem_append.mp hw with hold | hlast
    · exact h.clean w hold
    · obtain rfl := List.mem_singleton.mp hlast
      exact ⟨by simp [toFile], by simp [toFile]⟩
  have hself : ∀ config' ∈ some config, config' = config := fun _ he => (Option.some.inj he).symm
  cases outcome with
  | none =>
      constructor
      case fileNormal => exact h.fileNormal
      case snapshot => exact Or.inl hfresh
      case uncached => exact fun hnone => by cases hnone
      case normal => exact fun config' he => hself config' he ▸ hnormal
      case cached => exact fun config' he => hself config' he ▸ hcached
      case agree => exact fun _ _ hdirty => by cases hdirty
      case dirty => exact fun _ => hfresh
      case clean => exact hclean false
  | some signature =>
      constructor
      case fileNormal =>
        intro config' he
        obtain rfl := Option.some.inj he
        exact normalSerial_make_toFile hnormal
      case snapshot =>
        right
        intro cached hsnapshot file he
        obtain rfl := Option.some.inj he
        obtain ⟨file, hfile, hsignature, -⟩ := hfresh cached.1 cached.2 hsnapshot
        exact hsignature ▸ hnew signature rfl file hfile
      case uncached => exact fun hnone => by cases hnone
      case normal => exact fun config' he => hself config' he ▸ hnormal
      case cached => exact fun config' he => hself config' he ▸ hcached
      case agree =>
        intro config' he _
        obtain rfl := hself config' he
        exact ⟨_, rfl, persisted_make_toFile hnormal⟩
      case dirty => exact fun hdirty => by cases hdirty
      case clean => exact hclean true

theorem EntryInv.retryPending (h : EntryInv first e) {outcome : Option σ}
    (hnew : NewSignature e outcome) : EntryInv first (e.retryPending outcome) := by
  unfold DeviceEntry.retryPending
  split_ifs with hdirty
  · split
    · exact h
    next config hcache =>
      have hsame : e.persistDeviceConfig config outcome =
          { e.persistDeviceConfig config outcome with
            cache := some config
            supplied := e.supplied } := by
        cases outcome <;> simp [DeviceEntry.persistDeviceConfig, hcache]
      rw [hsame]
      exact h.persist (h.dirty hdirty) (h.normal config hcache) (h.cached config hcache) hnew
  · exact h

theorem EntryInv.deviceInfo (h : EntryInv first e) {deviceId : PyStr} (hd : nul ∉ deviceId)
    {outcome : Option σ} (hnew : NewSignature e outcome) :
    EntryInv first (e.deviceInfo deviceId outcome) := by
  unfold DeviceEntry.deviceInfo
  split
  · exact h
  next hcache =>
    obtain ⟨hfirst, hsupplied, hclean, hfresh⟩ := h.uncached hcache
    split
    next config hfile =>
      exact { h with
        uncached := fun hnone => by cases hnone
        normal := fun _ he => Option.some.inj he ▸ h.fileNormal config hfile
        cached := fun config' he field _ => by
          obtain rfl := Option.some.inj he
          show config field = lastSupplied first e.supplied field
          rw [hsupplied, ← hfirst, DeviceEntry.fileConfig, hfile]
          rfl
        agree := fun _ he _ => Option.some.inj he ▸ ⟨config, hfile, fun _ _ => rfl⟩ }
    next hfile =>
      have hnormal : NormalSerial (DeviceEntry.minimalConfig deviceId) :=
        normalSerial_make fun _ hs => Option.some.inj hs ▸ hd
      refine h.persist hfresh hnormal ?_ hnew
      intro field hfield
      rw [supplied_persistDeviceConfig, hsupplied, ← hfirst, DeviceEntry.fileConfig, hfile]
      cases field <;> first | exact absurd rfl hfield | rfl

variable [DecidableEq σ]

/-- **Parsed or reused, what is loaded is what the file has.** -/
theorem EntryInv.load (h : EntryInv first e) :
    ∃ snapshot, e.loadPersistedConfig = ({ e with snapshot }, e.fileConfig) ∧
      ({ e with snapshot } : DeviceEntry σ).Fresh := by
  rcases Option.eq_none_or_eq_some e.file with hfile | ⟨file, hfile⟩
  · refine ⟨none, ?_, fun _ _ hsnapshot => by cases hsnapshot⟩
    rw [DeviceEntry.fileConfig, DeviceEntry.loadPersistedConfig, hfile]
    rfl
  have hconfig : e.fileConfig = file.config := by
    rw [DeviceEntry.fileConfig, hfile]
    rfl
  rcases Option.eq_none_or_eq_some
    (e.snapshot.filter fun cached => cached.1 = file.signature) with hcached | ⟨cached, hcached⟩
  · refine ⟨file.config.map fun config => (file.signature, config), ?_, ?_⟩
    · rw [hconfig, DeviceEntry.loadPersistedConfig, hfile]
      dsimp only
      rw [hcached]
    · intro signature config hsnapshot
      obtain ⟨config', hparsed, he⟩ := Option.map_eq_some_iff.mp hsnapshot
      obtain ⟨rfl, rfl⟩ := Prod.mk.inj he
      exact ⟨file, hfile, rfl, hparsed⟩
  · obtain ⟨hsnapshot, hsignature⟩ := Option.filter_eq_some_iff.mp hcached
    have hfresh : e.Fresh := by
      rcases h.snapshot with hfresh | hstale
      · exact hfresh
      · exact absurd (of_decide_eq_true hsignature) (hstale cached hsnapshot file hfile)
    obtain ⟨file', hfile', -, hparsed⟩ := hfresh cached.1 cached.2 hsnapshot
    obtain rfl : file' = file := Option.some.inj (hfile'.symm.trans hfile)
    refine ⟨e.snapshot, ?_, hfresh⟩
    rw [hconfig, hparsed, DeviceEntry.loadPersistedConfig, hfile]
    dsimp only
    rw [hcached, ← hfile]

theorem EntryInv.setConfig (h : EntryInv first e) {incoming : DeviceConfig}
    (hincoming : NormalSerial incoming) {outcome : Option σ} (hnew : NewSignature e outcome) :
    EntryInv first (e.setConfig incoming outcome) := by
  obtain ⟨snapshot, hload, hfresh⟩ := h.load
  have hbefore : EntryInv first { e with snapshot } := { h with
    snapshot := Or.inl hfresh
    uncached := fun hnone =>
      ⟨(h.uncached hnone).1, (h.uncached hnone).2.1, (h.uncached hnone).2.2.1, hfresh⟩
    dirty := fun _ => hfresh }
  have hprevious : ∀ config ∈ e.cache.or e.fileConfig, NormalSerial config := by
    intro config he
    rcases hcache : e.cache with - | cached
    · rw [hcache, Option.none_or] at he
      exact h.fileNormal config he
    · rw [hcache] at he
      exact h.normal config (hcache.trans he)
  have hnormal : NormalSerial (mergeConfig (e.cache.or e.fileConfig) incoming) :=
    normalSerial_mergeConfig hprevious hincoming
  have hcached : ∀ field, field ≠ .serialNumber →
      mergeConfig (e.cache.or e.fileConfig) incoming field =
        lastSupplied first (e.supplied ++ [incoming]) field := by
    intro field hfield
    rw [mergeConfig_apply hfield, lastSupplied_concat]
    congr 1
    rcases hcache : e.cache with - | cached
    · obtain ⟨hfirst, hsupplied, -⟩ := h.uncached hcache
      rw [Option.none_or, hfirst, hsupplied]
      rfl
    · exact h.cached cached hcache field hfield
  unfold DeviceEntry.setConfig
  rw [hload]
  dsimp only
  split_ifs with hwrite
  · rw [supplied_persistDeviceConfig]
    exact hbefore.persist hfresh hnormal hcached hnew
  · rw [not_or, not_or, not_not] at hwrite
    have hsaved : e.SavedAs (mergeConfig (e.cache.or e.fileConfig) incoming) := by
      obtain ⟨hexisting, -, hsame⟩ := hwrite
      obtain ⟨saved, hfile⟩ :=
        Option.ne_none_iff_exists'.mp (mt Option.isNone_iff_eq_none.mpr hexisting)
      rw [hfile] at hsame
      exact ⟨saved, hfile, hfile ▸ persistedRuntimeData_eq_iff.mp hsame⟩
    exact { hbefore with
      uncached := fun hnone => by cases hnone
      normal := fun _ he => Option.some.inj he ▸ hnormal
      cached := fun _ he => Option.some.inj he ▸ hcached
      agree := fun _ he _ => Option.some.inj he ▸ hsaved }

theorem EntryInv.step (h : EntryInv first e) {deviceId : PyStr} (hd : nul ∉ deviceId)
    {event : ConfigEvent σ} (hnew : NewSignature e event.outcome) :
    EntryInv first (e.step deviceId event) := by
  cases event with
  | packet packet outcome => exact h.setConfig packet.normal hnew
  | telemetry outcome => exact h.retryPending hnew
  | deviceInfo outcome => exact h.deviceInfo hd hnew

end Invariant

/-! ### Runs -/

section Run

variable {σ : Type*} [DecidableEq σ]

/-- The packet of an action, if it is one for a device. -/
def ConfigAction.packetFor? (d : PyStr) (a : ConfigAction σ) : Option DeviceConfig :=
  if a.deviceId = d then
    match a.event with
    | .packet packet _ => some packet.config
    | _ => none
  else none

/-- A file that is replaced gets another signature. -/
def ReplacedSignature (cwd : List PyStr) (w : ConfigStore σ) (a : ConfigAction σ) : Prop :=
  NewSignature (w.entry cwd a.deviceId) a.event.outcome

/-- No other device that the client knows has the file of this one. -/
def Alone (cwd : List PyStr) (w : ConfigStore σ) (d : PyStr) : Prop :=
  ∀ d', d' ≠ d → configPath cwd d' = configPath cwd d → (w.memory d').cache = none

/-- What comes is for a device that has its file for itself. -/
def OwnFile (cwd : List PyStr) (w : ConfigStore σ) (a : ConfigAction σ) : Prop :=
  nul ∉ a.deviceId → Alone cwd w a.deviceId

theorem loadPersistedConfig_frame (e : DeviceEntry σ) :
    ∃ snapshot, e.loadPersistedConfig.1 = { e with snapshot } := by
  unfold DeviceEntry.loadPersistedConfig
  split
  · exact ⟨_, rfl⟩
  · split
    · exact ⟨e.snapshot, rfl⟩
    · exact ⟨_, rfl⟩

/-- A step writes nothing or one config, and nothing else happens to what is given and to the
file. -/
theorem step_cases (e : DeviceEntry σ) (deviceId : PyStr) (event : ConfigEvent σ) :
    ∃ snapshot cache, let supplied := e.supplied ++
        ((⟨deviceId, event⟩ : ConfigAction σ).packetFor? deviceId).toList
      e.step deviceId event = { e with snapshot, cache, supplied } ∨
      ∃ config, e.step deviceId event =
        { e.persistDeviceConfig config event.outcome with snapshot, cache, supplied } := by
  rw [ConfigAction.packetFor?, if_pos rfl]
  cases event with
  | packet packet outcome =>
      obtain ⟨snapshot, hload⟩ := loadPersistedConfig_frame e
      refine ⟨snapshot, some (mergeConfig (e.cache.or e.loadPersistedConfig.2) packet.config), ?_⟩
      show e.setConfig packet.config outcome = _ ∨ ∃ config, e.setConfig packet.config outcome = _
      unfold DeviceEntry.setConfig
      dsimp only
      rw [hload]
      split_ifs
      · right
        refine ⟨mergeConfig (e.cache.or e.loadPersistedConfig.2) packet.config, ?_⟩
        cases outcome <;> rfl
      · exact Or.inl rfl
  | telemetry outcome =>
      refine ⟨e.snapshot, e.cache, ?_⟩
      show e.retryPending outcome = _ ∨ ∃ config, e.retryPending outcome = _
      dsimp only
      rw [Option.toList_none, List.append_nil]
      unfold DeviceEntry.retryPending
      split_ifs
      · split
        · exact Or.inl rfl
        next config _ =>
          right
          refine ⟨config, ?_⟩
          cases outcome <;> rfl
      · exact Or.inl rfl
  | deviceInfo outcome =>
      show ∃ snapshot cache, e.deviceInfo deviceId outcome = _ ∨
        ∃ config, e.deviceInfo deviceId outcome = _
      dsimp only
      rw [Option.toList_none, List.append_nil]
      unfold DeviceEntry.deviceInfo
      split
      · exact ⟨e.snapshot, e.cache, Or.inl rfl⟩
      · split
        next config _ => exact ⟨e.snapshot, some config, Or.inl rfl⟩
        · refine ⟨e.snapshot, some (DeviceEntry.minimalConfig deviceId),
            Or.inr ⟨DeviceEntry.minimalConfig deviceId, ?_⟩⟩
          cases outcome <;> rfl

theorem supplied_step (e : DeviceEntry σ) (deviceId : PyStr) (event : ConfigEvent σ) :
    (e.step deviceId event).supplied =
      e.supplied ++ ((⟨deviceId, event⟩ : ConfigAction σ).packetFor? deviceId).toList := by
  obtain ⟨snapshot, cache, hstep | ⟨config, hstep⟩⟩ := step_cases e deviceId event
  · rw [hstep]
  · rw [hstep]

/-! ### Devices in the store -/

section Put

variable {cwd : List PyStr} {w : ConfigStore σ} {d d' : PyStr} {e : DeviceEntry σ}

omit [DecidableEq σ] in
theorem entry_put_self : (w.put cwd d e).entry cwd d = e := by
  simp only [ConfigStore.entry, ConfigStore.put, Function.update_self]

omit [DecidableEq σ] in
theorem memory_put_of_ne (hne : d' ≠ d) : (w.put cwd d e).memory d' = w.memory d' :=
  Function.update_of_ne hne _ _

omit [DecidableEq σ] in
theorem entry_put_of_ne (hpath : configPath cwd d' ≠ configPath cwd d) :
    (w.put cwd d e).entry cwd d' = w.entry cwd d' := by
  have hne : d' ≠ d := by
    rintro rfl
    exact hpath rfl
  simp only [ConfigStore.entry, ConfigStore.put, Function.update_of_ne hne,
    Function.update_of_ne hpath]

omit [DecidableEq σ] in
theorem put_entry : w.put cwd d (w.entry cwd d) = w := by
  simp only [ConfigStore.entry, ConfigStore.put, Function.update_eq_self]

end Put

theorem supplied_run (cwd : List PyStr) {d : PyStr} (hd : nul ∉ d) (w : ConfigStore σ)
    (actions : List (ConfigAction σ)) :
    ((run (configStep cwd) w actions).memory d).supplied =
      (w.memory d).supplied ++ actions.filterMap (ConfigAction.packetFor? d) := by
  induction actions generalizing w with
  | nil => exact (List.append_nil _).symm
  | cons a actions ih =>
      have hstep : ((configStep cwd w a).memory d).supplied =
          (w.memory d).supplied ++ (a.packetFor? d).toList := by
        obtain ⟨deviceId, event⟩ := a
        by_cases he : deviceId = d
        · obtain rfl := he
          rw [configStep, if_neg hd]
          show (Function.update w.memory deviceId _ deviceId).supplied = _
          rw [Function.update_self]
          exact supplied_step (w.entry cwd deviceId) deviceId event
        · have hnone : (⟨deviceId, event⟩ : ConfigAction σ).packetFor? d = none := if_neg he
          have hsame : (configStep cwd w ⟨deviceId, event⟩).memory d = w.memory d := by
            unfold configStep
            split_ifs
            · rfl
            · exact memory_put_of_ne (Ne.symm he)
          rw [hsame, hnone]
          exact (List.append_nil _).symm
      rw [run_cons, ih, hstep, List.append_assoc, List.filterMap_cons]
      cases a.packetFor? d <;> rfl

/-- A device that a step leaves unknown, it leaves as it was. -/
theorem EntryInv.step_of_uncached {first : Option DeviceConfig} {e : DeviceEntry σ}
    (h : EntryInv first e) {deviceId : PyStr} {event : ConfigEvent σ}
    (hnone : (e.step deviceId event).cache = none) : e.step deviceId event = e := by
  cases event with
  | packet packet outcome => cases hnone
  | telemetry outcome =>
      rcases hcache : e.cache with - | config
      · exact if_neg (by rw [(h.uncached hcache).2.2.1]; exact Bool.false_ne_true)
      · have hkept : (e.retryPending outcome).cache = some config := by
          unfold DeviceEntry.retryPending
          split_ifs
          · rw [hcache]
            cases outcome <;> exact hcache
          · exact hcache
        cases hnone.symm.trans hkept
  | deviceInfo outcome =>
      replace hnone : (e.deviceInfo deviceId outcome).cache = none := hnone
      unfold DeviceEntry.deviceInfo at hnone
      split at hnone
      next config hcache => cases hnone.symm.trans hcache
      · split at hnone <;> cases hnone

/-- What holds of a path. -/
structure PathInv (p : PathEntry σ) : Prop where
  normal : ∀ config ∈ p.file.bind ConfigFile.config, NormalSerial config
  clean : ∀ write ∈ p.writes, write.data .password = none ∧ write.data .raw = none

/-- What holds of the store while every device has its file for itself; `first` are the
configs in the files that the client started with. -/
structure StoreInv (cwd : List PyStr) (first : PyStr → Option DeviceConfig) (w : ConfigStore σ) :
    Prop where
  alone : ∀ d, Alone cwd w d → EntryInv (first d) (w.entry cwd d)
  apart : ∀ d, (w.memory d).cache ≠ none → Alone cwd w d
  unknown : ∀ d, (w.memory d).cache = none → (w.memory d).dirty = false
  paths : ∀ path, PathInv (w.disk path)

section Store

variable {cwd : List PyStr} {w : ConfigStore σ} {first : PyStr → Option DeviceConfig}

omit [DecidableEq σ] in
/-- The devices that are known at the start have no slash in their ids. -/
theorem slash_not_mem_of_start {initial : List PyStr → Option (ConfigFile σ)}
    {listed : PyStr → Bool} {d : PyStr}
    (h : ((ConfigStore.start cwd initial listed).memory d).cache ≠ none) : '/' ∉ d := by
  intro hslash
  refine h ?_
  show (if (listed d && !d.contains '/') = true then _ else none) = none
  have hlisted : (listed d && !d.contains '/') = false := by
    rw [List.contains_iff_mem.mpr hslash, Bool.not_true, Bool.and_false]
  rw [hlisted, if_neg Bool.false_ne_true]

omit [DecidableEq σ] in
theorem storeInv_start {initial : List PyStr → Option (ConfigFile σ)}
    (h : ∀ path, ∀ config ∈ (initial path).bind ConfigFile.config, NormalSerial config)
    (listed : PyStr → Bool) :
    StoreInv cwd (fun d => (initial (configPath cwd d)).bind ConfigFile.config)
      (.start cwd initial listed) where
  alone d _ := entryInv_start (h (configPath cwd d)) _
  apart d hd d' hne hpath := by
    by_contra hd'
    exact hne (configPath_injective (slash_not_mem_of_start hd') (slash_not_mem_of_start hd) hpath)
  unknown _ _ := rfl
  paths path := ⟨h path, fun _ hwrite => by cases hwrite⟩

/-- **A step for a device that has its file for itself.** -/
theorem StoreInv.step (h : StoreInv cwd first w) {a : ConfigAction σ} (hown : OwnFile cwd w a)
    (hnew : ReplacedSignature cwd w a) : StoreInv cwd first (configStep cwd w a) := by
  unfold configStep
  split_ifs with hnul
  · exact h
  have halone := hown hnul
  have hbefore : EntryInv (first a.deviceId) (w.entry cwd a.deviceId) := h.alone _ halone
  have hafter := hbefore.step hnul hnew
  generalize he : (w.entry cwd a.deviceId).step a.deviceId a.event = e at hafter
  have hself : ((w.put cwd a.deviceId e).memory a.deviceId).cache = e.cache := by
    show (Function.update w.memory a.deviceId _ a.deviceId).cache = _
    rw [Function.update_self]
  constructor
  case alone =>
    intro d hd
    by_cases hpath : configPath cwd d = configPath cwd a.deviceId
    · by_cases hsame : d = a.deviceId
      · rw [hsame, entry_put_self]
        exact hafter
      · -- the device of the step has the file, and is still unknown
        have hunknown : e.cache = none := hself ▸ hd a.deviceId (Ne.symm hsame) hpath.symm
        rw [← he] at hunknown
        rw [← he, hbefore.step_of_uncached hunknown, put_entry] at hd ⊢
        exact h.alone d hd
    · rw [entry_put_of_ne hpath]
      apply h.alone d
      intro d' hne hpath'
      have hother : d' ≠ a.deviceId := by
        rintro rfl
        exact hpath hpath'.symm
      rw [← memory_put_of_ne hother]
      exact hd d' hne hpath'
  case apart =>
    intro d hd d' hne hpath
    by_cases hsame : d = a.deviceId
    · obtain rfl := hsame
      rw [memory_put_of_ne hne]
      exact halone d' hne hpath
    · rw [memory_put_of_ne hsame] at hd
      have hother : d' ≠ a.deviceId := by
        rintro rfl
        exact hd (halone d hsame hpath.symm)
      rw [memory_put_of_ne hother]
      exact h.apart d hd d' hne hpath
  case unknown =>
    intro d hd
    by_cases hsame : d = a.deviceId
    · rw [hsame] at hd ⊢
      show (Function.update w.memory a.deviceId _ a.deviceId).dirty = false
      rw [Function.update_self]
      exact (hafter.uncached (hself ▸ hd)).2.2.1
    · rw [memory_put_of_ne hsame] at hd ⊢
      exact h.unknown d hd
  case paths =>
    exact (Function.forall_update_iff w.disk fun _ p => PathInv p).mpr
      ⟨⟨hafter.fileNormal, hafter.clean⟩, fun path _ => h.paths path⟩

/-- **Devices without slashes in their ids always have their files for themselves.** -/
theorem everyStep_ownFile (initial : List PyStr → Option (ConfigFile σ)) (listed : PyStr → Bool)
    {actions : List (ConfigAction σ)} (h : ∀ a ∈ actions, '/' ∉ a.deviceId) :
    EveryStep (OwnFile cwd) (configStep cwd) (.start cwd initial listed) actions := by
  intro before a after hactions _ d' hne hpath
  by_contra hcached
  have ha : '/' ∉ a.deviceId := h a (hactions ▸ List.mem_append_right _ List.mem_cons_self)
  have hknown : ∀ d, ((run (configStep cwd) (.start cwd initial listed) before).memory d).cache ≠
      none → '/' ∉ d := by
    refine run_invariant (I := fun w : ConfigStore σ => ∀ d, (w.memory d).cache ≠ none → '/' ∉ d)
      (fun d => slash_not_mem_of_start) fun w b hb hw d hd => ?_
    by_cases hsame : d = b.deviceId
    · rw [hsame]
      exact h b (hactions ▸ List.mem_append_left _ hb)
    · refine hw d ?_
      unfold configStep at hd
      split_ifs at hd
      · exact hd
      · rwa [memory_put_of_ne hsame] at hd
  exact hne (configPath_injective (hknown d' hcached) ha hpath)

end Store

/-! ### Writes -/

/-- What holds after any packets and telemetry. -/
structure MetadataKept (cwd : List PyStr) (initial : List PyStr → Option (ConfigFile σ))
    (actions : List (ConfigAction σ)) (w : ConfigStore σ) : Prop where
  /-- A cached field is the last value that a packet gave for it, and else the restored one. -/
  cached : ∀ d, nul ∉ d → ∀ config ∈ (w.memory d).cache, ∀ field, field ≠ .serialNumber →
    config field = lastSupplied ((initial (configPath cwd d)).bind ConfigFile.config)
      (actions.filterMap (ConfigAction.packetFor? d)) field
  /-- The file of a device that is not dirty has the persisted fields of the cache. -/
  agree : ∀ d, ∀ config ∈ (w.memory d).cache, (w.memory d).dirty = false →
    (w.entry cwd d).SavedAs config
  /-- A dirty device is cached, and a retry that succeeds makes its file agree. -/
  retried : ∀ d signature, (w.memory d).dirty = true → ∃ config, (w.memory d).cache = some config ∧
    ((w.entry cwd d).retryPending (some signature)).dirty = false ∧
    ((w.entry cwd d).retryPending (some signature)).cache = some config ∧
    ((w.entry cwd d).retryPending (some signature)).SavedAs config
  /-- No password and no raw packet is written. -/
  clean : ∀ path, ∀ write ∈ (w.disk path).writes,
    write.data .password = none ∧ write.data .raw = none
  /-- The next client starts with such files again. -/
  normal : ∀ path, ∀ config ∈ (w.disk path).file.bind ConfigFile.config, NormalSerial config

omit [DecidableEq σ] in
theorem EntryInv.retried {first : Option DeviceConfig} {e : DeviceEntry σ} (h : EntryInv first e)
    (signature : σ) (hdirty : e.dirty = true) :
    ∃ config, e.cache = some config ∧ (e.retryPending (some signature)).dirty = false ∧
      (e.retryPending (some signature)).cache = some config ∧
      (e.retryPending (some signature)).SavedAs config := by
  rcases hcache : e.cache with - | config
  · rw [(h.uncached hcache).2.2.1] at hdirty
    cases hdirty
  · have hretry :
        e.retryPending (some signature) = e.persistDeviceConfig config (some signature) := by
      unfold DeviceEntry.retryPending
      rw [if_pos hdirty, hcache]
    rw [hretry]
    exact ⟨config, rfl, rfl, hcache, _, rfl, persisted_make_toFile (h.normal config hcache)⟩

omit [DecidableEq σ] in
/-- A known device is kept as if it were alone. -/
theorem StoreInv.known {cwd : List PyStr} {first : PyStr → Option DeviceConfig} {w : ConfigStore σ}
    (h : StoreInv cwd first w) {d : PyStr} {config : DeviceConfig}
    (hconfig : (w.memory d).cache = some config) : EntryInv (first d) (w.entry cwd d) :=
  h.alone d (h.apart d (by rw [hconfig]; exact Option.some_ne_none config))

theorem metadataKept_of_ownFile (cwd : List PyStr) (initial : List PyStr → Option (ConfigFile σ))
    (listed : PyStr → Bool) (actions : List (ConfigAction σ))
    (hinitial : ∀ path, ∀ config ∈ (initial path).bind ConfigFile.config, NormalSerial config)
    (hsignatures : EveryStep (ReplacedSignature cwd) (configStep cwd) (.start cwd initial listed)
      actions)
    (hown : EveryStep (OwnFile cwd) (configStep cwd) (.start cwd initial listed) actions) :
    MetadataKept cwd initial actions
      (run (configStep cwd) (.start cwd initial listed) actions) := by
  have hboth : EveryStep (fun w a => OwnFile cwd w a ∧ ReplacedSignature cwd w a) (configStep cwd)
      (.start cwd initial listed) actions := fun before a after hactions =>
    ⟨hown before a after hactions, hsignatures before a after hactions⟩
  have hrun := hboth.always (storeInv_start hinitial listed) (fun w a hw ha => hw.step ha.1 ha.2)
    actions [] (List.append_nil _).symm
  constructor
  case cached =>
    intro d hd config hconfig field hfield
    rw [(hrun.known hconfig).cached config hconfig field hfield]
    have hsupplied := supplied_run cwd hd (.start cwd initial listed) actions
    show lastSupplied _ ((run (configStep cwd) (.start cwd initial listed) actions).memory
      d).supplied field = _
    rw [hsupplied]
    rfl
  case agree => exact fun d config hconfig => (hrun.known hconfig).agree config hconfig
  case retried =>
    intro d signature hdirty
    rcases hcache : ((run (configStep cwd) (.start cwd initial listed) actions).memory d).cache
      with - | config
    · exact absurd (hdirty.symm.trans (hrun.unknown d hcache)) Bool.noConfusion
    · obtain ⟨config', hconfig', hretried⟩ := (hrun.known hcache).retried signature hdirty
      exact ⟨config', hcache.symm.trans hconfig', hretried⟩
  case clean => exact fun path => (hrun.paths path).clean
  case normal => exact fun path => (hrun.paths path).normal

end Run

/-! ### Packets of the device side -/

section Packets

variable {σ : Type*} {F : Type*} [PyFloat F]

/-- A packet of a device, with the outcomes of the writes that its configs lead to. -/
structure ReceivedPacket (σ : Type*) where
  client : BridgeClient
  deviceId : PyStr
  unscrambled : Bytes
  outcomes : ReadbackCall → Option σ

variable (bridge : BridgeSetup F) (setup : ReadbackSetup) (packet : ReceivedPacket σ)

def ReceivedPacket.calls : List ReadbackCall :=
  packetCalls setup packet.client packet.deviceId bridge packet.unscrambled

/-- A call of `on_config` is one of `set_config`. -/
def ReceivedPacket.action? (call : ReadbackCall) (h : call ∈ packet.calls bridge setup) :
    Option (ConfigAction σ) :=
  match call, h with
  | .onConfig d config, h =>
      if hd : nul ∈ d then none
      else
        some ⟨d, .packet ⟨config, normalSerial_of_packetCalls hd h⟩
          (packet.outcomes (.onConfig d config))⟩
  | _, _ => none

def ReceivedPacket.actions : List (ConfigAction σ) :=
  (packet.calls bridge setup).attach.filterMap fun call =>
    packet.action? bridge setup call.val call.property

/-- Every config that a packet leads to is set. -/
theorem ReceivedPacket.set_of_call {d : PyStr} {config : DeviceConfig} (hd : nul ∉ d)
    (h : .onConfig d config ∈ packet.calls bridge setup) :
    ∃ a ∈ packet.actions bridge setup, a.packetFor? d = some config := by
  refine ⟨_, List.mem_filterMap.mpr ⟨⟨_, h⟩, List.mem_attach _ _, dif_neg hd⟩, ?_⟩
  exact if_pos rfl

/-- **The metadata in the packets of the device side is kept**, whatever the packets are. -/
theorem metadataKept_of_packets [DecidableEq σ] (cwd : List PyStr)
    (initial : List PyStr → Option (ConfigFile σ)) (listed : PyStr → Bool)
    (packets : List (ReceivedPacket σ))
    (hinitial : ∀ path, ∀ config ∈ (initial path).bind ConfigFile.config, NormalSerial config)
    (hsignatures : EveryStep (ReplacedSignature cwd) (configStep cwd) (.start cwd initial listed)
      (packets.flatMap fun packet => packet.actions bridge setup))
    (hslash : ∀ a ∈ packets.flatMap fun packet => packet.actions bridge setup, '/' ∉ a.deviceId) :
    MetadataKept cwd initial (packets.flatMap fun packet => packet.actions bridge setup)
      (run (configStep cwd) (.start cwd initial listed)
        (packets.flatMap fun packet => packet.actions bridge setup)) :=
  metadataKept_of_ownFile cwd initial listed _ hinitial hsignatures
    (everyStep_ownFile initial listed hslash)

end Packets

/-! ### A device of its own, and two in one file -/

end GroBro
