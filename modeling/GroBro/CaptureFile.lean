/-
GroBro/CaptureFile.lean

The lines of `registers.jsonl`, of `grobro/grobro/register_debug.py`: those of Modbus messages
(`writeModbusMessage`) and those of packets of type 0x0103 (`_write_noah_0103`), whose words are
recorded by their index, and those of an embedded register block also by their register.  All of
them are compared with the last values in one cache, under keys of their own.

What is observed of a packet (`observations`) leaves the caches, breaks and skipped blocks out.
The lines are the change log of what was observed, for every sequence of messages and packets,
and the lines of Modbus messages are those that they have alone (`captures_exact`).
-/
import GroBro.ChangeLog
import GroBro.EmbeddedBlock
import GroBro.RegisterCapture

namespace GroBro

open ByteCodec Machine ChangeLog

/-! ### Packets of type 0x0103 -/

/-- What `parse_noah_0103` returns; the type of the message is always 0x0103. -/
structure Noah0103 where
  deviceId : PyStr
  registers : List ℕ
  registerCount : ℕ

def parseNoah0103 (data : Bytes) : Except PyError Noah0103 := do
  let deviceId := decodeReplace (rstripNul (slice data 38 54))
  let regData := data.drop 54
  let registers ← iterUnpackU16 (regData.take (regData.length - regData.length % 2))
  return { deviceId, registers, registerCount := registers.length }

/-- `_canonical_0103_device_id` -/
def canonical0103DeviceId [PyUnicode] (rawDeviceId : PyStr) : PyStr :=
  let rawDeviceId := strip rawDeviceId
  if rawDeviceId.length = 10 ∧ rawDeviceId.all PyUnicode.isAlnum then
    "QMN000".toList ++ rawDeviceId
  else rawDeviceId

/-! ### Lines -/

/-- What the lines of both kinds have of a word. -/
structure CapturedWord where
  uint16 : ℕ
  int16 : ℤ
  hex : PyStr
  highByte : ℕ
  lowByte : ℕ
  previous : Option ℕ
  changed : Bool

/-- The constants of a line are left out: the addressing of the words is `"unknown"`, the
function of the registers 3, and the texts of a watched register are always the same. -/
inductive CaptureLine where
  | modbus (record : RegisterRecord)
  /-- `"source": "noah_0103"` -/
  | noahValue (capturedAt deviceId : PyStr) (rawDeviceId : Option PyStr)
      (valueIndex valueCount : ℕ) (word : CapturedWord)
  /-- `"source": "noah_0103_modbus"` -/
  | noahRegister (capturedAt deviceId : PyStr) (rawDeviceId : Option PyStr)
      (blockOffset blockStart blockEnd register : ℕ) (word : CapturedWord)
      (watchRegister : Bool)

/-- The caches, and the lines that were appended so far. -/
structure Captures where
  lastValues : LastValues
  lastBlockValues : LastBlockValues
  lines : List CaptureLine

namespace Captures

def start : Captures := ⟨fun _ => none, fun _ => none, []⟩

end Captures

/-! ### Captures -/

section Operations

variable (changesOnly : Bool) (maxRegister : ℕ) (now : PyStr)

/-- A word is compared with its last value, stored and recorded. -/
def storeWord (key : PyStr × ℕ × ℕ) (line : CapturedWord → CaptureLine) (s : Captures)
    (value : ℕ) : Captures :=
  let previous := s.lastValues key
  let changed := decide (previous ≠ some value)
  let s := { s with lastValues := Function.update s.lastValues key (some value) }
  if changesOnly && !changed then s
  else
    { s with lines := s.lines ++ [line {
        uint16 := value
        int16 := signed16 value
        hex := hexWord value
        highByte := value / 256
        lowByte := value % 256
        previous
        changed }] }

/-- The raw id stands in a line if it is another one. -/
def rawDeviceIdOf (rawDeviceId deviceId : PyStr) : Option PyStr :=
  if rawDeviceId ≠ deviceId then some rawDeviceId else none

variable [PyUnicode]

/-- The loop over `result["registers"]`. -/
def captureValues (result : Noah0103) (s : Captures) : Captures :=
  let deviceId := canonical0103DeviceId result.deviceId
  result.registers.zipIdx.foldl (fun s e =>
    storeWord changesOnly (deviceId, 0x0103, e.2)
      (.noahValue now deviceId (rawDeviceIdOf result.deviceId deviceId) e.2 result.registerCount)
      s e.1) s

/-- `NOAH_0103_WATCH_REGISTERS` -/
def isWatchRegister (register : ℕ) : Bool := decide (299 ≤ register ∧ register < 305)

/-- The loop over the values of the embedded block, from a register on. -/
def captureEmbedded (result : Noah0103) (block : EmbeddedRegisterBlock) (s : Captures)
    (registerNo : ℕ) : List ℕ → Captures
  | [] => s
  | value :: values =>
      if block.end_ < registerNo ∨ maxRegister < registerNo then s
      else
        let deviceId := canonical0103DeviceId result.deviceId
        captureEmbedded result block
          (storeWord changesOnly (deviceId, 0x010303, registerNo)
            (.noahRegister now deviceId (rawDeviceIdOf result.deviceId deviceId) block.offset
              block.start block.end_ registerNo · (isWatchRegister registerNo)) s value)
          (registerNo + 1) values

/-- `_write_noah_0103` -/
def writeNoah0103 (result : Noah0103) (embedded : Option EmbeddedRegisterBlock) (s : Captures) :
    Captures :=
  let s := captureValues changesOnly now result s
  match embedded with
  | none => s
  | some block =>
      captureEmbedded changesOnly maxRegister now result block s block.start block.values

/-- `capture_noah_0103` of what `parse_noah_0103` returns; exceptions are only logged. -/
def captureNoah0103 (data : Bytes) (s : Captures) : Captures :=
  match parseNoah0103 data, findEmbeddedRegisterBlock data with
  | .ok result, .ok embedded => writeNoah0103 changesOnly maxRegister now result embedded s
  | _, _ => s

/-- `capture_modbus_message` -/
def captureModbusMessage (message : GrowattModbusMessage) (s : Captures) : Captures :=
  let caches := writeModbusMessage changesOnly maxRegister
    ⟨s.lastValues, s.lastBlockValues, []⟩ (now, message)
  ⟨caches.lastValues, caches.lastBlockValues, s.lines ++ caches.records.map .modbus⟩

end Operations

inductive CaptureEvent where
  | modbus (now : PyStr) (message : GrowattModbusMessage)
  | noah0103 (now : PyStr) (data : Bytes)

def captureStep [PyUnicode] (changesOnly : Bool) (maxRegister : ℕ) (s : Captures) :
    CaptureEvent → Captures
  | .modbus now message => captureModbusMessage changesOnly maxRegister now message s
  | .noah0103 now data => captureNoah0103 changesOnly maxRegister now data s

/-! ### Observations -/

/-- What a block says of the registers in its range. -/
def blockObservations (maxRegister : ℕ) (message : GrowattModbusMessage)
    (block : GrowattModbusBlock) : List ((PyStr × ℕ × ℕ) × ℕ) :=
  (blockRegisters block).filterMap fun registerNo =>
    (blockValue maxRegister block.start block.end_ block.values registerNo).map
      fun value => (registerKey message registerNo, value)

/-- The words after the header of a packet. -/
def packetWords (data : Bytes) : List ℕ :=
  (List.range ((data.length - 54) / 2)).map fun i => u16At data (54 + 2 * i)

/-- What `parse_noah_0103` reads from a packet. -/
def packet0103 (data : Bytes) : Noah0103 where
  deviceId := decodeReplace (rstripNul (slice data 38 54))
  registers := packetWords data
  registerCount := (packetWords data).length

/-- The words of a packet by their index, and those of its block by their register. -/
def noahObservations [PyUnicode] (maxRegister : ℕ) (result : Noah0103) :
    Option EmbeddedRegisterBlock → List ((PyStr × ℕ × ℕ) × ℕ)
  | none => result.registers.zipIdx.map fun e =>
      ((canonical0103DeviceId result.deviceId, 0x0103, e.2), e.1)
  | some block =>
      (result.registers.zipIdx.map fun e =>
        ((canonical0103DeviceId result.deviceId, 0x0103, e.2), e.1)) ++
      ((block.values.zipIdx block.start).filter fun e => e.2 ≤ maxRegister).map fun e =>
        ((canonical0103DeviceId result.deviceId, 0x010303, e.2), e.1)

/-- What is observed of a message or packet, under the keys of the cache. -/
def observations [PyUnicode] (maxRegister : ℕ) : CaptureEvent → List ((PyStr × ℕ × ℕ) × ℕ)
  | .modbus _ message => message.registerBlocks.flatMap (blockObservations maxRegister message)
  | .noah0103 _ data => noahObservations maxRegister (packet0103 data) (exhaustiveBlock data)

/-! ### Lines as changes -/

def RegisterRecord.change (record : RegisterRecord) : Change (PyStr × ℕ × ℕ) ℕ :=
  ⟨(record.deviceId, record.function, record.register), record.uint16, record.previous⟩

/-- What a line says, under the key of the cache. -/
def CaptureLine.change : CaptureLine → Change (PyStr × ℕ × ℕ) ℕ
  | .modbus record => record.change
  | .noahValue _ deviceId _ valueIndex _ word =>
      ⟨(deviceId, 0x0103, valueIndex), word.uint16, word.previous⟩
  | .noahRegister _ deviceId _ _ _ _ register word _ =>
      ⟨(deviceId, 0x010303, register), word.uint16, word.previous⟩

/-- The record of a line of a Modbus message. -/
def CaptureLine.modbus? : CaptureLine → Option RegisterRecord
  | .modbus record => some record
  | _ => none

def CaptureState.view (s : CaptureState) :
    (PyStr × ℕ × ℕ → Option ℕ) × List (Change (PyStr × ℕ × ℕ) ℕ) :=
  (s.lastValues, s.records.map RegisterRecord.change)

def Captures.view (s : Captures) :
    (PyStr × ℕ × ℕ → Option ℕ) × List (Change (PyStr × ℕ × ℕ) ℕ) :=
  (s.lastValues, s.lines.map CaptureLine.change)

/-! ### Modbus messages -/

section Modbus

variable {changesOnly : Bool} {maxRegister : ℕ} {now : PyStr} {message : GrowattModbusMessage}
  {block : GrowattModbusBlock}

theorem logged_storeRegister (s : CaptureState) (registerNo value : ℕ) :
    Logged changesOnly s.view (storeRegister changesOnly now message block s registerNo value).view
      [(registerKey message registerNo, value)] := by
  unfold storeRegister
  dsimp only
  split_ifs with hskip
  · have hsame : changesOnly = true ∧
        s.lastValues (registerKey message registerNo) = some value := by
      simpa [registerKey] using hskip
    exact .single rfl (fun _ _ => rfl) fun hnew => absurd hsame.2 (hnew hsame.1)
  · have hnew : changesOnly = true →
        s.lastValues (registerKey message registerNo) ≠ some value := by
      simpa [registerKey] using hskip
    exact .single rfl (fun hc hsame => absurd hsame (hnew hc)) fun _ => List.map_append

theorem logged_captureRegisters (s : CaptureState) :
    Logged changesOnly s.view
      (captureRegisters changesOnly maxRegister now message s block).view
      (blockObservations maxRegister message block) := by
  have hobservations : blockObservations maxRegister message block =
      (blockRegisters block).flatMap fun registerNo =>
        ((blockValue maxRegister block.start block.end_ block.values registerNo).map
          fun value => (registerKey message registerNo, value)).toList :=
    List.filterMap_eq_flatMap_toList _ _
  rw [hobservations]
  refine (Logged.foldl CaptureState.view (captureRegister changesOnly maxRegister now message block)
    (I := fun _ => True) (fun t registerNo hmem _ => ⟨?_, trivial⟩) trivial).1
  rw [captureRegister_eq changesOnly hmem]
  rcases blockValue maxRegister block.start block.end_ block.values registerNo with - | value
  · exact .refl _ _
  · exact logged_storeRegister t registerNo value

/-- The caches of Modbus blocks are valid in changes-only mode, the only one that has them. -/
structure CacheInv (changesOnly : Bool) (maxRegister : ℕ) (s : CaptureState) : Prop where
  valid : changesOnly = true → CacheValid maxRegister s
  function : ∀ key values, s.lastBlockValues key = some values →
    ∃ f : GrowattModbusFunction, key.2.1 = f.value

theorem CacheInv.captureBlock {s : CaptureState} (h : CacheInv changesOnly maxRegister s) :
    CacheInv changesOnly maxRegister
      (captureBlock changesOnly maxRegister now message s block) := by
  cases changesOnly
  · refine ⟨fun hc => (nomatch hc), fun key values hcached => h.function key values ?_⟩
    rwa [GroBro.captureBlock, if_neg Bool.false_ne_true, captureRegisters_lastBlockValues]
      at hcached
  · refine ⟨fun _ => (h.valid rfl).captureBlock, fun key values hcached => ?_⟩
    rw [GroBro.captureBlock, if_pos rfl] at hcached
    split_ifs at hcached with hhit
    · exact h.function key values hcached
    · rw [captureRegisters_lastBlockValues] at hcached
      by_cases hkey : key = blockKey message block
      · exact ⟨message.function, by rw [hkey]; rfl⟩
      · rw [rememberBlock_of_ne hkey] at hcached
        split_ifs at hcached
        exact h.function key values hcached

/-- A block that is skipped has nothing new. -/
theorem logged_captureBlock {s : CaptureState} (h : CacheInv changesOnly maxRegister s) :
    Logged changesOnly s.view (captureBlock changesOnly maxRegister now message s block).view
      (blockObservations maxRegister message block) := by
  cases changesOnly
  · rw [GroBro.captureBlock, if_neg Bool.false_ne_true]
    exact logged_captureRegisters s
  · rw [GroBro.captureBlock, if_pos rfl]
    split_ifs with hhit
    · have hplain : Logged true s.view (captureRegisters true maxRegister now message s block).view
          (blockObservations maxRegister message block) := logged_captureRegisters s
      rwa [captureRegisters_of_summarizes (h.valid rfl _ _ hhit)] at hplain
    · exact logged_captureRegisters (rememberBlock message s block)

theorem logged_writeModbusMessage (now : PyStr) (message : GrowattModbusMessage)
    {s : CaptureState} (h : CacheInv changesOnly maxRegister s) :
    Logged changesOnly s.view (writeModbusMessage changesOnly maxRegister s (now, message)).view
        (message.registerBlocks.flatMap (blockObservations maxRegister message)) ∧
      CacheInv changesOnly maxRegister
        (writeModbusMessage changesOnly maxRegister s (now, message)) := by
  refine Logged.foldl CaptureState.view (captureBlock changesOnly maxRegister now message)
    (I := CacheInv changesOnly maxRegister) ?_ h
  intro t block _ ht
  exact ⟨logged_captureBlock ht, ht.captureBlock⟩

end Modbus

/-! ### Packets -/

section Packets

variable (changesOnly : Bool) (maxRegister : ℕ) (now : PyStr)

/-- What the captures of Modbus messages have of the state is as before. -/
structure ModbusKept (s s' : Captures) : Prop where
  blocks : s'.lastBlockValues = s.lastBlockValues
  records : s'.lines.filterMap CaptureLine.modbus? = s.lines.filterMap CaptureLine.modbus?

theorem ModbusKept.trans {s s' s'' : Captures} (h : ModbusKept s s') (h' : ModbusKept s' s'') :
    ModbusKept s s'' :=
  ⟨h'.blocks.trans h.blocks, h'.records.trans h.records⟩

theorem logged_storeWord {key : PyStr × ℕ × ℕ} {line : CapturedWord → CaptureLine}
    (hline : ∀ word, (line word).change = ⟨key, word.uint16, word.previous⟩) (s : Captures)
    (value : ℕ) :
    Logged changesOnly s.view (storeWord changesOnly key line s value).view [(key, value)] := by
  unfold storeWord
  dsimp only
  split_ifs with hskip
  · have hsame : changesOnly = true ∧ s.lastValues key = some value := by
      simpa using hskip
    exact .single rfl (fun _ _ => rfl) fun hnew => absurd hsame.2 (hnew hsame.1)
  · have hnew : changesOnly = true → s.lastValues key ≠ some value := by
      simpa using hskip
    refine .single rfl (fun hc hsame => absurd hsame (hnew hc)) fun _ => ?_
    rw [Captures.view, Captures.view, List.map_append, List.map_singleton, hline]

theorem modbusKept_storeWord {key : PyStr × ℕ × ℕ} {line : CapturedWord → CaptureLine}
    (hline : ∀ word, (line word).modbus? = none) (s : Captures) (value : ℕ) :
    ModbusKept s (storeWord changesOnly key line s value) := by
  unfold storeWord
  dsimp only
  split_ifs
  · exact ⟨rfl, rfl⟩
  · refine ⟨rfl, ?_⟩
    dsimp only
    rw [List.filterMap_append, List.filterMap_cons_none (hline _), List.filterMap_nil,
      List.append_nil]

variable [PyUnicode]

theorem logged_captureValues (result : Noah0103) (s : Captures) :
    Logged changesOnly s.view (captureValues changesOnly now result s).view
        (result.registers.zipIdx.map fun e =>
          ((canonical0103DeviceId result.deviceId, 0x0103, e.2), e.1)) ∧
      ModbusKept s (captureValues changesOnly now result s) := by
  rw [List.map_eq_flatMap]
  refine Logged.foldl Captures.view _ (I := ModbusKept s) ?_ ⟨rfl, rfl⟩
  intro t e _ ht
  exact ⟨logged_storeWord changesOnly (fun _ => rfl) t e.1,
    ht.trans (modbusKept_storeWord changesOnly (fun _ => rfl) t e.1)⟩

/-- The loop ends at the last register that is captured, all later ones are greater. -/
theorem logged_captureEmbedded (result : Noah0103) (block : EmbeddedRegisterBlock)
    (values : List ℕ) (registerNo : ℕ) (hend : registerNo + values.length ≤ block.end_ + 1)
    (s : Captures) :
    Logged changesOnly s.view
        (captureEmbedded changesOnly maxRegister now result block s registerNo values).view
        (((values.zipIdx registerNo).filter fun e => e.2 ≤ maxRegister).map fun e =>
          ((canonical0103DeviceId result.deviceId, 0x010303, e.2), e.1)) ∧
      ModbusKept s
        (captureEmbedded changesOnly maxRegister now result block s registerNo values) := by
  induction values generalizing registerNo s with
  | nil => exact ⟨.refl _ _, rfl, rfl⟩
  | cons value values ih =>
      rw [List.length_cons] at hend
      rw [captureEmbedded]
      by_cases hmax : maxRegister < registerNo
      · have hnone : ((value :: values).zipIdx registerNo).filter
            (fun e => decide (e.2 ≤ maxRegister)) = [] := by
          refine List.filter_eq_nil_iff.mpr fun e he => ?_
          have hfrom := (List.mem_zipIdx he).1
          rw [decide_eq_true_eq]
          omega
        rw [if_pos (Or.inr hmax), hnone]
        exact ⟨.refl _ _, rfl, rfl⟩
      · have hkept : ((value, registerNo) :: values.zipIdx (registerNo + 1)).filter
            (fun e => decide (e.2 ≤ maxRegister)) = (value, registerNo) ::
              (values.zipIdx (registerNo + 1)).filter fun e => decide (e.2 ≤ maxRegister) :=
          List.filter_cons_of_pos (decide_eq_true (not_lt.mp hmax))
        rw [if_neg (by omega), List.zipIdx_cons, hkept, List.map_cons]
        obtain ⟨hlogged, hkept⟩ := ih (registerNo + 1) (by omega)
          (storeWord changesOnly (canonical0103DeviceId result.deviceId, 0x010303, registerNo)
            (.noahRegister now (canonical0103DeviceId result.deviceId)
              (rawDeviceIdOf result.deviceId (canonical0103DeviceId result.deviceId)) block.offset
              block.start block.end_ registerNo · (isWatchRegister registerNo)) s value)
        exact ⟨(logged_storeWord changesOnly (fun _ => rfl) s value).trans hlogged,
          (modbusKept_storeWord changesOnly (fun _ => rfl) s value).trans hkept⟩

omit [PyUnicode] in
theorem parseNoah0103_eq (data : Bytes) : parseNoah0103 data = .ok (packet0103 data) := by
  have hlength : ((data.drop 54).take ((data.drop 54).length - (data.drop 54).length % 2)).length =
      2 * ((data.length - 54) / 2) := by
    rw [List.length_take, List.length_drop]
    omega
  have hwords : iterUnpackU16 ((data.drop 54).take
      ((data.drop 54).length - (data.drop 54).length % 2)) = .ok (packetWords data) := by
    rw [iterUnpackU16_ok hlength]
    refine congrArg _ (List.map_congr_left fun i hi => ?_)
    have hi := List.mem_range.mp hi
    have hword := u16At_slice (data.drop 54) (i := 0) (k := 2 * i)
      (j := (data.drop 54).length - (data.drop 54).length % 2)
      (by rw [List.length_drop]; omega)
    rw [Nat.zero_add, u16At_drop] at hword
    exact hword
  rw [parseNoah0103, hwords]
  rfl

omit [PyUnicode] in
/-- The embedded block ends where its last value stands. -/
theorem length_values_of_exhaustiveBlock {data : Bytes} {block : EmbeddedRegisterBlock}
    (h : exhaustiveBlock data = some block) :
    block.start + block.values.length ≤ block.end_ + 1 := by
  obtain ⟨hblock, hdescribes⟩ := exhaustiveBlock_spec h
  have hle := hdescribes.1
  rw [hblock, blockAt, List.length_map, List.length_range, registerCount]
  dsimp only
  omega

theorem logged_writeNoah0103 (result : Noah0103) (embedded : Option EmbeddedRegisterBlock)
    (hend : ∀ block ∈ embedded, block.start + block.values.length ≤ block.end_ + 1)
    (s : Captures) :
    Logged changesOnly s.view
        (writeNoah0103 changesOnly maxRegister now result embedded s).view
        (noahObservations maxRegister result embedded) ∧
      ModbusKept s (writeNoah0103 changesOnly maxRegister now result embedded s) := by
  have hvalues := logged_captureValues changesOnly now result s
  rcases embedded with - | block
  · exact hvalues
  · have hembedded := logged_captureEmbedded changesOnly maxRegister now result block block.values
      block.start (hend block rfl) (captureValues changesOnly now result s)
    exact ⟨hvalues.1.trans hembedded.1, hvalues.2.trans hembedded.2⟩

/-- What a packet of type 0x0103 leaves. -/
theorem logged_captureNoah0103 (data : Bytes) (s : Captures) :
    Logged changesOnly s.view (captureNoah0103 changesOnly maxRegister now data s).view
        (observations maxRegister (.noah0103 now data)) ∧
      ModbusKept s (captureNoah0103 changesOnly maxRegister now data s) := by
  rw [captureNoah0103, parseNoah0103_eq, findEmbeddedRegisterBlock_eq]
  exact logged_writeNoah0103 changesOnly maxRegister now (packet0103 data) (exhaustiveBlock data)
    (fun block hblock => length_values_of_exhaustiveBlock hblock) s

end Packets

/-! ### Messages and packets -/

section Steps

variable {changesOnly : Bool} {maxRegister : ℕ}

/-- The caches, as the captures of a Modbus message find them. -/
def Captures.caches (s : Captures) : CaptureState := ⟨s.lastValues, s.lastBlockValues, []⟩

/-- The keys of Modbus registers. -/
def IsModbusKey (key : PyStr × ℕ × ℕ) : Prop := ∃ f : GrowattModbusFunction, key.2.1 = f.value

theorem not_isModbusKey_of_mem [PyUnicode] {result : Noah0103}
    {embedded : Option EmbeddedRegisterBlock} {o : (PyStr × ℕ × ℕ) × ℕ}
    (ho : o ∈ noahObservations maxRegister result embedded) : ¬ IsModbusKey o.1 := by
  have hnoah : o.1.2.1 = 0x0103 ∨ o.1.2.1 = 0x010303 := by
    rcases embedded with - | block
    · obtain ⟨e, -, rfl⟩ := List.mem_map.mp ho
      exact Or.inl rfl
    · rcases List.mem_append.mp ho with ho | ho
      · obtain ⟨e, -, rfl⟩ := List.mem_map.mp ho
        exact Or.inl rfl
      · obtain ⟨e, -, rfl⟩ := List.mem_map.mp ho
        exact Or.inr rfl
  rintro ⟨f, hf⟩
  have hlt := f.value_lt
  omega

variable [PyUnicode]

/-- A packet leaves the values of the Modbus registers. -/
theorem agreeOn_captureNoah0103 (changesOnly : Bool) (maxRegister : ℕ) (now : PyStr)
    (data : Bytes) (s : Captures) :
    AgreeOn IsModbusKey (captureNoah0103 changesOnly maxRegister now data s).lastValues
      s.lastValues := by
  have hvalues := (logged_captureNoah0103 changesOnly maxRegister now data s).1.values
  rw [show (captureNoah0103 changesOnly maxRegister now data s).lastValues = _ from hvalues]
  exact AgreeOn.known_left (fun _ _ => rfl) fun _ ho => not_isModbusKey_of_mem ho

/-- A message or packet is logged, and leaves the caches valid. -/
theorem logged_captureStep (e : CaptureEvent) {s : Captures}
    (h : CacheInv changesOnly maxRegister s.caches) :
    Logged changesOnly s.view (captureStep changesOnly maxRegister s e).view
        (observations maxRegister e) ∧
      CacheInv changesOnly maxRegister (captureStep changesOnly maxRegister s e).caches := by
  cases e with
  | modbus now message =>
      obtain ⟨hlogged, hinv⟩ := logged_writeModbusMessage now message h
      refine ⟨⟨hlogged.values, ?_⟩, hinv.valid, hinv.function⟩
      have hlog : (writeModbusMessage changesOnly maxRegister s.caches (now, message)).records.map
          RegisterRecord.change = changeLog changesOnly s.lastValues
            (observations maxRegister (.modbus now message)) := hlogged.log
      show (s.lines ++ (writeModbusMessage changesOnly maxRegister s.caches
        (now, message)).records.map CaptureLine.modbus).map CaptureLine.change = _
      rw [List.map_append, List.map_map]
      exact congrArg (s.lines.map CaptureLine.change ++ ·) hlog
  | noah0103 now data =>
      obtain ⟨hlogged, hkept⟩ := logged_captureNoah0103 changesOnly maxRegister now data s
      have hblocks : ∀ key,
          (captureNoah0103 changesOnly maxRegister now data s).lastBlockValues key =
            s.lastBlockValues key := congrFun hkept.blocks
      refine ⟨hlogged, fun hc key values hcached registerNo value hvalue => ?_,
        fun key values hcached => ?_⟩
      · have hcached' : s.lastBlockValues key = some values := (hblocks key).symm.trans hcached
        obtain ⟨f, hf⟩ := h.function key values hcached'
        have hsame := agreeOn_captureNoah0103 changesOnly maxRegister now data s
          (key.1, key.2.1, registerNo) ⟨f, hf⟩
        exact hsame.trans (h.valid hc key values hcached' registerNo value hvalue)
      · exact h.function key values ((hblocks key).symm.trans hcached)

/-! ### Modbus messages alone -/

/-- A capture that has seen other packets too, and one that has not; the second has emitted
some records before. -/
structure SameModbus (emitted : List RegisterRecord) (s t : CaptureState) : Prop where
  values : AgreeOn IsModbusKey s.lastValues t.lastValues
  blocks : s.lastBlockValues = t.lastBlockValues
  records : t.records = emitted ++ s.records

omit [PyUnicode] in
theorem SameModbus.storeRegister {emitted : List RegisterRecord} {s t : CaptureState}
    (h : SameModbus emitted s t) (now : PyStr) (message : GrowattModbusMessage)
    (block : GrowattModbusBlock) (registerNo value : ℕ) :
    SameModbus emitted (storeRegister changesOnly now message block s registerNo value)
      (storeRegister changesOnly now message block t registerNo value) := by
  have hvalue : s.lastValues (message.deviceId, message.function.value, registerNo) =
      t.lastValues (message.deviceId, message.function.value, registerNo) :=
    h.values _ ⟨message.function, rfl⟩
  have hvalues := h.values.observe (registerKey message registerNo, value)
  unfold GroBro.storeRegister
  dsimp only
  rw [hvalue]
  split_ifs
  · exact ⟨hvalues, h.blocks, h.records⟩
  · refine ⟨hvalues, h.blocks, ?_⟩
    dsimp only
    rw [h.records, List.append_assoc]

omit [PyUnicode] in
theorem SameModbus.captureRegisters {emitted : List RegisterRecord} {s t : CaptureState}
    (h : SameModbus emitted s t) (now : PyStr) (message : GrowattModbusMessage)
    (block : GrowattModbusBlock) :
    SameModbus emitted (captureRegisters changesOnly maxRegister now message s block)
      (captureRegisters changesOnly maxRegister now message t block) := by
  apply run_simulates h
  intro s t registerNo h
  unfold captureRegister
  dsimp only
  split_ifs
  · exact h
  · exact h
  · exact h.storeRegister now message block registerNo _

omit [PyUnicode] in
theorem SameModbus.captureBlock {emitted : List RegisterRecord} {s t : CaptureState}
    (h : SameModbus emitted s t) (now : PyStr) (message : GrowattModbusMessage)
    (block : GrowattModbusBlock) :
    SameModbus emitted (captureBlock changesOnly maxRegister now message s block)
      (captureBlock changesOnly maxRegister now message t block) := by
  have hremembered : SameModbus emitted (rememberBlock message s block)
      (rememberBlock message t block) := by
    refine ⟨h.values, ?_, h.records⟩
    unfold rememberBlock
    rw [h.blocks]
  unfold GroBro.captureBlock
  rw [h.blocks]
  split_ifs
  · exact h
  · exact hremembered.captureRegisters now message block
  · exact h.captureRegisters now message block

/-- The state of all captures, and that of Modbus messages alone. -/
structure ModbusPart (s : Captures) (t : CaptureState) : Prop where
  values : AgreeOn IsModbusKey s.lastValues t.lastValues
  blocks : s.lastBlockValues = t.lastBlockValues
  records : t.records = s.lines.filterMap CaptureLine.modbus?

def CaptureEvent.modbus? : CaptureEvent → Option (PyStr × GrowattModbusMessage)
  | .modbus now message => some (now, message)
  | .noah0103 _ _ => none

theorem ModbusPart.modbus {s : Captures} {t : CaptureState} (h : ModbusPart s t) (now : PyStr)
    (message : GrowattModbusMessage) :
    ModbusPart (captureStep changesOnly maxRegister s (.modbus now message))
      (writeModbusMessage changesOnly maxRegister t (now, message)) := by
  have hstart : SameModbus (s.lines.filterMap CaptureLine.modbus?) s.caches t :=
    ⟨h.values, h.blocks, by rw [h.records]; exact (List.append_nil _).symm⟩
  have hend : SameModbus (s.lines.filterMap CaptureLine.modbus?)
      (writeModbusMessage changesOnly maxRegister s.caches (now, message))
      (writeModbusMessage changesOnly maxRegister t (now, message)) :=
    run_simulates hstart fun _ _ block h => h.captureBlock now message block
  refine ⟨hend.values, hend.blocks, ?_⟩
  have hlines : ((writeModbusMessage changesOnly maxRegister s.caches (now, message)).records.map
      CaptureLine.modbus).filterMap CaptureLine.modbus? =
        (writeModbusMessage changesOnly maxRegister s.caches (now, message)).records := by
    rw [List.filterMap_map]
    exact List.filterMap_some
  rw [hend.records, ← hlines, ← List.filterMap_append]
  rfl

theorem ModbusPart.noah0103 {s : Captures} {t : CaptureState} (h : ModbusPart s t) (now : PyStr)
    (data : Bytes) :
    ModbusPart (captureStep changesOnly maxRegister s (.noah0103 now data)) t := by
  have hkept := (logged_captureNoah0103 changesOnly maxRegister now data s).2
  refine ⟨fun key hkey => ?_, hkept.blocks.trans h.blocks, h.records.trans hkept.records.symm⟩
  have hsame := agreeOn_captureNoah0103 changesOnly maxRegister now data s key hkey
  exact hsame.trans (h.values key hkey)

end Steps

/-! ### Words -/

/-- The word of a line. -/
def CaptureLine.word : CaptureLine → CapturedWord
  | .modbus r => ⟨r.uint16, r.int16, r.hex, r.highByte, r.lowByte, r.previous, r.changed⟩
  | .noahValue _ _ _ _ _ word => word
  | .noahRegister _ _ _ _ _ _ _ word _ => word

/-- A word in all its forms, compared with the one before it. -/
def wordOf (value : ℕ) (previous : Option ℕ) : CapturedWord where
  uint16 := value
  int16 := signed16 value
  hex := hexWord value
  highByte := value / 256
  lowByte := value % 256
  previous
  changed := decide (previous ≠ some value)

/-- A line has the forms of its own word. -/
def LineExact (line : CaptureLine) : Prop :=
  line.word = wordOf line.word.uint16 line.word.previous

section Words

variable {changesOnly : Bool} {maxRegister : ℕ} {now : PyStr}

theorem lineExact_storeRegister {message : GrowattModbusMessage} {block : GrowattModbusBlock}
    {s : CaptureState} (h : ∀ r ∈ s.records, LineExact (.modbus r)) (registerNo value : ℕ) :
    ∀ r ∈ (storeRegister changesOnly now message block s registerNo value).records,
      LineExact (.modbus r) := by
  unfold storeRegister
  dsimp only
  split_ifs
  · exact h
  · intro r hr
    rcases List.mem_append.mp hr with hr | hr
    · exact h r hr
    · rw [List.mem_singleton.mp hr]
      rfl

theorem lineExact_captureRegisters {message : GrowattModbusMessage} {s : CaptureState}
    (h : ∀ r ∈ s.records, LineExact (.modbus r)) (block : GrowattModbusBlock) :
    ∀ r ∈ (captureRegisters changesOnly maxRegister now message s block).records,
      LineExact (.modbus r) := by
  refine run_invariant (I := fun t : CaptureState => ∀ r ∈ t.records, LineExact (.modbus r)) h ?_
  intro t registerNo _ ht
  unfold captureRegister
  dsimp only
  split_ifs
  · exact ht
  · exact ht
  · exact lineExact_storeRegister ht registerNo _

theorem lineExact_writeModbusMessage (message : GrowattModbusMessage) {s : CaptureState}
    (h : ∀ r ∈ s.records, LineExact (.modbus r)) :
    ∀ r ∈ (writeModbusMessage changesOnly maxRegister s (now, message)).records,
      LineExact (.modbus r) := by
  refine run_invariant (I := fun t : CaptureState => ∀ r ∈ t.records, LineExact (.modbus r)) h ?_
  intro t block _ ht
  unfold captureBlock
  split_ifs
  · exact ht
  · exact lineExact_captureRegisters (s := rememberBlock message t block) ht block
  · exact lineExact_captureRegisters ht block

theorem lineExact_storeWord {key : PyStr × ℕ × ℕ} {line : CapturedWord → CaptureLine}
    (hline : ∀ word, (line word).word = word) {s : Captures} (h : ∀ l ∈ s.lines, LineExact l)
    (value : ℕ) : ∀ l ∈ (storeWord changesOnly key line s value).lines, LineExact l := by
  unfold storeWord
  dsimp only
  split_ifs
  · exact h
  · intro l hl
    rcases List.mem_append.mp hl with hl | hl
    · exact h l hl
    · rw [List.mem_singleton.mp hl, LineExact, hline]
      rfl

variable [PyUnicode]

theorem lineExact_captureEmbedded (result : Noah0103) (block : EmbeddedRegisterBlock)
    (values : List ℕ) (registerNo : ℕ) {s : Captures} (h : ∀ l ∈ s.lines, LineExact l) :
    ∀ l ∈ (captureEmbedded changesOnly maxRegister now result block s registerNo values).lines,
      LineExact l := by
  induction values generalizing registerNo s with
  | nil => exact h
  | cons value values ih =>
      rw [captureEmbedded]
      split_ifs
      · exact h
      · exact ih (registerNo + 1) (lineExact_storeWord (fun _ => rfl) h value)

theorem lineExact_captureStep {s : Captures} (h : ∀ l ∈ s.lines, LineExact l)
    (e : CaptureEvent) : ∀ l ∈ (captureStep changesOnly maxRegister s e).lines, LineExact l := by
  cases e with
  | modbus now message =>
      intro l hl
      rcases List.mem_append.mp hl with hl | hl
      · exact h l hl
      · obtain ⟨r, hr, rfl⟩ := List.mem_map.mp hl
        exact lineExact_writeModbusMessage message (fun _ h => absurd h List.not_mem_nil) r hr
  | noah0103 now data =>
      show ∀ l ∈ (captureNoah0103 changesOnly maxRegister now data s).lines, LineExact l
      rw [captureNoah0103, parseNoah0103_eq, findEmbeddedRegisterBlock_eq]
      have hvalues : ∀ l ∈ (captureValues changesOnly now (packet0103 data) s).lines,
          LineExact l :=
        run_invariant (I := fun t : Captures => ∀ l ∈ t.lines, LineExact l) h
          fun t e _ ht => lineExact_storeWord (fun _ => rfl) ht e.1
      rcases exhaustiveBlock data with - | block
      · exact hvalues
      · exact lineExact_captureEmbedded _ block block.values block.start hvalues

end Words

/-! ### Runs -/

/-- What the lines of a sequence of messages and packets are. -/
structure CapturesExact [PyUnicode] (changesOnly : Bool) (maxRegister : ℕ)
    (events : List CaptureEvent) (s : Captures) : Prop where
  log : s.lines.map CaptureLine.change =
    changeLog changesOnly (fun _ => none) (events.flatMap (observations maxRegister))
  /-- Who replays the lines knows what was observed last under every key. -/
  replay : ∀ key, known (fun _ => none) (s.lines.map (·.change.observation)) key =
    (((events.flatMap (observations maxRegister)).filter fun o => o.1 = key).getLast?).map
      Prod.snd
  chain : ∀ key, List.IsChain Continues
    ((s.lines.map CaptureLine.change).filter fun c => c.key = key)
  changes : changesOnly = true → ∀ line ∈ s.lines, line.word.changed = true
  words : ∀ line ∈ s.lines, LineExact line
  /-- The lines of Modbus messages are those that they have alone. -/
  modbus : s.lines.filterMap CaptureLine.modbus? =
    (run (writeModbusMessage changesOnly maxRegister) .start
      (events.filterMap CaptureEvent.modbus?)).records

theorem modbusPart_run [PyUnicode] (changesOnly : Bool) (maxRegister : ℕ)
    (events : List CaptureEvent) :
    ModbusPart (run (captureStep changesOnly maxRegister) .start events)
      (run (writeModbusMessage changesOnly maxRegister) .start
        (events.filterMap CaptureEvent.modbus?)) := by
  induction events using List.reverseRecOn with
  | nil => exact ⟨fun _ _ => rfl, rfl, rfl⟩
  | append_singleton events e ih =>
      rw [run_concat, List.filterMap_append]
      cases e with
      | modbus now message =>
          have hone : [CaptureEvent.modbus now message].filterMap CaptureEvent.modbus? =
              [(now, message)] := rfl
          rw [hone, run_concat]
          exact ih.modbus now message
      | noah0103 now data =>
          have hnone : [CaptureEvent.noah0103 now data].filterMap CaptureEvent.modbus? = [] := rfl
          rw [hnone, List.append_nil]
          exact ih.noah0103 now data

theorem CaptureLine.word_change (line : CaptureLine) :
    line.change.value = line.word.uint16 ∧ line.change.previous = line.word.previous := by
  cases line with
  | modbus => exact ⟨rfl, rfl⟩
  | noahValue => exact ⟨rfl, rfl⟩
  | noahRegister => exact ⟨rfl, rfl⟩

/-- **The lines are the log of what was observed.** -/
theorem captures_exact [PyUnicode] (changesOnly : Bool) (maxRegister : ℕ)
    (events : List CaptureEvent) : CapturesExact changesOnly maxRegister events
      (run (captureStep changesOnly maxRegister) .start events) := by
  have hstart : CacheInv changesOnly maxRegister Captures.start.caches :=
    ⟨fun _ _ _ hcached => (nomatch hcached), fun _ _ hcached => (nomatch hcached)⟩
  have hlogged : Logged changesOnly Captures.start.view
      (run (captureStep changesOnly maxRegister) .start events).view
      (events.flatMap (observations maxRegister)) :=
    (Logged.foldl Captures.view (captureStep changesOnly maxRegister)
      (I := fun t : Captures => CacheInv changesOnly maxRegister t.caches)
      (fun t e _ ht => logged_captureStep e ht) hstart).1
  have hlog : (run (captureStep changesOnly maxRegister) .start events).lines.map
      CaptureLine.change =
        changeLog changesOnly (fun _ => none) (events.flatMap (observations maxRegister)) :=
    hlogged.log
  have hwords : ∀ line ∈ (run (captureStep changesOnly maxRegister) .start events).lines,
      LineExact line :=
    run_invariant (I := fun t : Captures => ∀ line ∈ t.lines, LineExact line)
      (fun _ h => absurd h List.not_mem_nil) fun t e _ ht => lineExact_captureStep ht e
  refine ⟨hlog, fun key => ?_, fun key => ?_, ?_, hwords,
    (modbusPart_run changesOnly maxRegister events).records.symm⟩
  · have hobserved := known_changeLog changesOnly (fun _ => none)
      (events.flatMap (observations maxRegister))
    rw [← hlog, List.map_map] at hobserved
    rw [← known_eq_getLast?, ← hobserved]
    rfl
  · rw [hlog]
    exact isChain_changeLog changesOnly _ _ key
  · rintro rfl line hline
    have hchange : line.change ∈ List.map CaptureLine.change _ := List.mem_map_of_mem hline
    rw [hlog] at hchange
    have hne := previous_ne_of_mem_changeLog hchange
    rw [line.word_change.1, line.word_change.2] at hne
    rw [show line.word = _ from hwords line hline]
    exact decide_eq_true hne

end GroBro
