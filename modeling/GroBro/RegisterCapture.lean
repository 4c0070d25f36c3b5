/-
GroBro/RegisterCapture.lean

The register capture of `grobro/grobro/register_debug.py`: every value of every block of
a Modbus message is compared with the last one of its register, and recorded, in
changes-only mode if it differs.

Changes-only mode has a fast path: a block whose bytes are those of the last block of the
same layout is skipped.  The bytes of a layout say what its registers hold only as long
as no other layout has written one of them, so a block that is not skipped drops all
layouts it overlaps (`Summarizes`).

`plainMessage` is the same without the cache of blocks.  The two emit the same records
and remember the same values (`fast_path_changes_nothing`).
-/
import GroBro.Machine
import GroBro.ModbusMessage

namespace GroBro

open ByteCodec Machine

/-! ### Records -/

/-- `_signed_16` -/
def signed16 (value : ℕ) : ℤ := if value < 32768 then value else (value : ℤ) - 65536

def upperHexDigit (n : ℕ) : Char := if n < 10 then Char.ofNat (48 + n) else Char.ofNat (55 + n)

/-- `f"0x{value:04X}"` of a word. -/
def hexWord (value : ℕ) : PyStr :=
  ['0', 'x', upperHexDigit (value / 4096), upperHexDigit (value / 256 % 16),
    upperHexDigit (value / 16 % 16), upperHexDigit (value % 16)]

/-- A line of the capture; its `source` is always `"modbus"`. -/
structure RegisterRecord where
  capturedAt : PyStr
  deviceTimestamp : Option DateTime
  deviceId : PyStr
  function : ℕ
  blockStart : ℕ
  blockEnd : ℕ
  register : ℕ
  uint16 : ℕ
  int16 : ℤ
  hex : PyStr
  highByte : ℕ
  lowByte : ℕ
  previous : Option ℕ
  changed : Bool
  deriving DecidableEq

/-! ### State -/

/-- `_LAST_VALUES`, by device, function and register -/
abbrev LastValues := PyStr × ℕ × ℕ → Option ℕ

/-- `_LAST_BLOCK_VALUES`, by device, function, first and last register -/
abbrev LastBlockValues := PyStr × ℕ × ℕ × ℕ → Option Bytes

/-- The caches, and what was emitted so far. -/
structure CaptureState where
  lastValues : LastValues
  lastBlockValues : LastBlockValues
  records : List RegisterRecord

namespace CaptureState

def start : CaptureState := ⟨fun _ => none, fun _ => none, []⟩

end CaptureState

/-! ### Operations -/

section Operations

variable (changesOnly : Bool) (maxRegister : ℕ) (now : PyStr) (message : GrowattModbusMessage)

/-- A register's value is compared with its last one, stored and recorded. -/
def storeRegister (block : GrowattModbusBlock) (s : CaptureState) (registerNo value : ℕ) :
    CaptureState :=
  let key := (message.deviceId, message.function.value, registerNo)
  let previous := s.lastValues key
  let changed := decide (previous ≠ some value)
  let s := { s with lastValues := Function.update s.lastValues key (some value) }
  if changesOnly && !changed then s
  else
    { s with records := s.records ++ [{
        capturedAt := now
        deviceTimestamp := message.metadata.bind (·.timestamp)
        deviceId := message.deviceId
        function := message.function.value
        blockStart := block.start
        blockEnd := block.end_
        register := registerNo
        uint16 := value
        int16 := signed16 value
        hex := hexWord value
        highByte := value / 256
        lowByte := value % 256
        previous
        changed }] }

/-- One turn of the loop over the registers of a block. -/
def captureRegister (block : GrowattModbusBlock) (s : CaptureState) (registerNo : ℕ) :
    CaptureState :=
  if maxRegister < registerNo then s
  else
    let offset := (registerNo - block.start) * 2
    if block.values.length < offset + 2 then s
    else storeRegister changesOnly now message block s registerNo (u16At block.values offset)

/-- `range(block.start, block.end + 1)` -/
def blockRegisters (block : GrowattModbusBlock) : List ℕ :=
  List.range' block.start (block.end_ + 1 - block.start)

/-- The loop over the registers of a block. -/
def captureRegisters (s : CaptureState) (block : GrowattModbusBlock) : CaptureState :=
  (blockRegisters block).foldl (captureRegister changesOnly maxRegister now message block) s

/-- The key of a block's layout. -/
def blockKey (block : GrowattModbusBlock) : PyStr × ℕ × ℕ × ℕ :=
  (message.deviceId, message.function.value, block.start, block.end_)

/-- A cached layout shares a register with a block. -/
def overlaps (block : GrowattModbusBlock) : PyStr × ℕ × ℕ × ℕ → Bool
  | (deviceId, cachedFunction, start, end_) =>
      deviceId = message.deviceId ∧ cachedFunction = message.function.value ∧
        start ≤ block.end_ ∧ block.start ≤ end_

/-- A block takes the place of the layouts it overlaps. -/
def rememberBlock (s : CaptureState) (block : GrowattModbusBlock) : CaptureState :=
  let kept := fun key => if overlaps message block key then none else s.lastBlockValues key
  { s with
    lastBlockValues := Function.update kept (blockKey message block) (some block.values) }

/-- One turn of the loop over the blocks. -/
def captureBlock (s : CaptureState) (block : GrowattModbusBlock) : CaptureState :=
  if changesOnly then
    if s.lastBlockValues (blockKey message block) = some block.values then s
    else captureRegisters changesOnly maxRegister now message (rememberBlock message s block) block
  else captureRegisters changesOnly maxRegister now message s block

end Operations

/-- `_write_modbus_message`; the action is the time and the message. -/
def writeModbusMessage (changesOnly : Bool) (maxRegister : ℕ) (s : CaptureState)
    (action : PyStr × GrowattModbusMessage) : CaptureState :=
  action.2.registerBlocks.foldl (captureBlock changesOnly maxRegister action.1 action.2) s

/-- The plain algorithm: every register of every block is compared. -/
def plainMessage (changesOnly : Bool) (maxRegister : ℕ) (s : CaptureState)
    (action : PyStr × GrowattModbusMessage) : CaptureState :=
  action.2.registerBlocks.foldl (captureRegisters changesOnly maxRegister action.1 action.2) s

/-! ### What a block says -/

/-- The value that the bytes of a layout give to a register. -/
def blockValue (maxRegister start end_ : ℕ) (values : Bytes) (registerNo : ℕ) : Option ℕ :=
  if start ≤ registerNo ∧ registerNo ≤ end_ ∧ registerNo ≤ maxRegister ∧
      (registerNo - start) * 2 + 2 ≤ values.length then
    some (u16At values ((registerNo - start) * 2))
  else none

/-- The registers of a layout hold what its bytes say. -/
def Summarizes (maxRegister : ℕ) (lastValues : LastValues) (key : PyStr × ℕ × ℕ × ℕ)
    (values : Bytes) : Prop :=
  ∀ registerNo value, blockValue maxRegister key.2.2.1 key.2.2.2 values registerNo = some value →
    lastValues (key.1, key.2.1, registerNo) = some value

/-- Every cached block still says what its registers hold. -/
def CacheValid (maxRegister : ℕ) (s : CaptureState) : Prop :=
  ∀ key values, s.lastBlockValues key = some values →
    Summarizes maxRegister s.lastValues key values

section Capture

variable {maxRegister : ℕ} {now : PyStr} {message : GrowattModbusMessage}
  {block : GrowattModbusBlock} {s : CaptureState}

/-- The key of a register. -/
def registerKey (message : GrowattModbusMessage) (registerNo : ℕ) : PyStr × ℕ × ℕ :=
  (message.deviceId, message.function.value, registerNo)

theorem mem_blockRegisters {registerNo : ℕ} :
    registerNo ∈ blockRegisters block ↔ block.start ≤ registerNo ∧ registerNo ≤ block.end_ := by
  rw [blockRegisters, List.mem_range'_1]
  omega

/-- The loop stores the values that the block gives, and skips the other registers. -/
theorem captureRegister_eq (changesOnly : Bool) {registerNo : ℕ}
    (hmem : registerNo ∈ blockRegisters block) :
    captureRegister changesOnly maxRegister now message block s registerNo =
      (blockValue maxRegister block.start block.end_ block.values registerNo).elim s
        (storeRegister changesOnly now message block s registerNo) := by
  obtain ⟨hstart, hend⟩ := mem_blockRegisters.mp hmem
  unfold captureRegister blockValue
  by_cases hmax : maxRegister < registerNo
  · rw [if_pos hmax, if_neg (by omega)]
    rfl
  · rw [if_neg hmax]
    dsimp only
    by_cases hshort : block.values.length < (registerNo - block.start) * 2 + 2
    · rw [if_pos hshort, if_neg (by omega)]
      rfl
    · rw [if_neg hshort, if_pos ⟨hstart, hend, by omega, by omega⟩]
      rfl

theorem storeRegister_lastValues (changesOnly : Bool) (registerNo value : ℕ) :
    (storeRegister changesOnly now message block s registerNo value).lastValues =
      Function.update s.lastValues (registerKey message registerNo) (some value) := by
  unfold storeRegister
  dsimp only
  split_ifs <;> rfl

theorem storeRegister_lastBlockValues (changesOnly : Bool) (registerNo value : ℕ) :
    (storeRegister changesOnly now message block s registerNo value).lastBlockValues =
      s.lastBlockValues := by
  unfold storeRegister
  dsimp only
  split_ifs <;> rfl

/-- A value that a register has already is neither recorded nor changed. -/
theorem storeRegister_unchanged {registerNo value : ℕ}
    (h : s.lastValues (registerKey message registerNo) = some value) :
    storeRegister true now message block s registerNo value = s := by
  have hkey : s.lastValues (message.deviceId, message.function.value, registerNo) = some value := h
  have hupdate : Function.update s.lastValues
      (message.deviceId, message.function.value, registerNo) (some value) = s.lastValues := by
    rw [← hkey]
    exact Function.update_eq_self _ _
  rw [storeRegister, hkey, hupdate]
  simp

/-- The registers that the loop came through have the values of the block. -/
theorem foldl_captureRegister_lastValues (changesOnly : Bool) {registers : List ℕ}
    (hmem : ∀ registerNo ∈ registers, registerNo ∈ blockRegisters block)
    (deviceId : PyStr) (function r : ℕ) :
    (registers.foldl (captureRegister changesOnly maxRegister now message block) s).lastValues
        (deviceId, function, r) =
      if r ∈ registers ∧ deviceId = message.deviceId ∧ function = message.function.value then
        (blockValue maxRegister block.start block.end_ block.values r).or
          (s.lastValues (deviceId, function, r))
      else s.lastValues (deviceId, function, r) := by
  induction registers using List.reverseRecOn with
  | nil => exact (if_neg fun h => List.not_mem_nil h.1).symm
  | append_singleton registers registerNo ih =>
      replace ih := ih fun r hr => hmem r (List.mem_append_left _ hr)
      have hlast : registerNo ∈ registers ++ [registerNo] :=
        List.mem_append_right _ (List.mem_singleton_self _)
      rw [List.foldl_append, List.foldl_cons, List.foldl_nil,
        captureRegister_eq changesOnly (hmem registerNo hlast)]
      by_cases hkey : (deviceId, function, r) = (message.deviceId, message.function.value, registerNo)
      · obtain ⟨rfl, hrest⟩ := Prod.mk.inj hkey
        obtain ⟨rfl, rfl⟩ := Prod.mk.inj hrest
        rw [if_pos ⟨hlast, rfl, rfl⟩]
        rcases hvalue : blockValue maxRegister block.start block.end_ block.values r with - | value
        · rw [hvalue, Option.none_or, ite_self] at ih
          rw [Option.elim_none, Option.none_or, ih]
        · rw [Option.elim_some, storeRegister_lastValues, Option.some_or]
          exact Function.update_self _ _ _
      · have hsame : (r ∈ registers ++ [registerNo] ∧ deviceId = message.deviceId ∧
              function = message.function.value) ↔
            (r ∈ registers ∧ deviceId = message.deviceId ∧ function = message.function.value) := by
          constructor
          · rintro ⟨hin, rfl, rfl⟩
            rcases List.mem_append.mp hin with hin | hin
            · exact ⟨hin, rfl, rfl⟩
            · obtain rfl := List.mem_singleton.mp hin
              exact absurd rfl hkey
          · rintro ⟨hin, hk⟩
            exact ⟨List.mem_append_left _ hin, hk⟩
        rw [if_congr hsame rfl rfl, ← ih]
        rcases blockValue maxRegister block.start block.end_ block.values registerNo with - | value
        · rfl
        · rw [Option.elim_some, storeRegister_lastValues]
          exact Function.update_of_ne hkey _ _

/-- After the loop the registers of a block have its values, and the others what they had. -/
theorem captureRegisters_lastValues (changesOnly : Bool) (deviceId : PyStr) (function r : ℕ) :
    (captureRegisters changesOnly maxRegister now message s block).lastValues
        (deviceId, function, r) =
      if deviceId = message.deviceId ∧ function = message.function.value then
        (blockValue maxRegister block.start block.end_ block.values r).or
          (s.lastValues (deviceId, function, r))
      else s.lastValues (deviceId, function, r) := by
  rw [captureRegisters, foldl_captureRegister_lastValues changesOnly fun _ h => h]
  by_cases hkey : deviceId = message.deviceId ∧ function = message.function.value
  · rw [if_pos hkey]
    by_cases hmem : r ∈ blockRegisters block
    · rw [if_pos ⟨hmem, hkey⟩]
    · have hnone : blockValue maxRegister block.start block.end_ block.values r = none :=
        if_neg fun h => hmem (mem_blockRegisters.mpr ⟨h.1, h.2.1⟩)
      rw [if_neg fun h => hmem h.1, hnone, Option.none_or]
  · rw [if_neg hkey, if_neg fun h => hkey h.2]

theorem captureRegisters_lastBlockValues (changesOnly : Bool) :
    (captureRegisters changesOnly maxRegister now message s block).lastBlockValues =
      s.lastBlockValues := by
  rw [captureRegisters]
  apply List.foldlRecOn (motive := fun t : CaptureState => t.lastBlockValues = s.lastBlockValues)
  · rfl
  · intro t ht registerNo hmem
    rw [captureRegister_eq changesOnly hmem]
    rcases blockValue maxRegister block.start block.end_ block.values registerNo with - | value
    · exact ht
    · rw [Option.elim_some, storeRegister_lastBlockValues, ht]

/-- **The fast path**: comparing a block that says what its registers hold does nothing. -/
theorem captureRegisters_of_summarizes
    (h : Summarizes maxRegister s.lastValues (blockKey message block) block.values) :
    captureRegisters true maxRegister now message s block = s := by
  rw [captureRegisters]
  apply List.foldlRecOn (motive := fun t : CaptureState => t = s)
  · rfl
  · rintro t rfl registerNo hmem
    rw [captureRegister_eq true hmem]
    rcases hvalue : blockValue maxRegister block.start block.end_ block.values registerNo with - | value
    · rfl
    · exact storeRegister_unchanged (h registerNo value hvalue)

/-! ### The cache of blocks -/

theorem rememberBlock_self : (rememberBlock message s block).lastBlockValues
    (blockKey message block) = some block.values := by
  show Function.update (fun key => if overlaps message block key then none
    else s.lastBlockValues key) (blockKey message block) (some block.values) _ = _
  rw [Function.update_self]

theorem rememberBlock_of_ne {key : PyStr × ℕ × ℕ × ℕ} (h : key ≠ blockKey message block) :
    (rememberBlock message s block).lastBlockValues key =
      if overlaps message block key then none else s.lastBlockValues key := by
  show Function.update (fun key => if overlaps message block key then none
    else s.lastBlockValues key) (blockKey message block) (some block.values) key = _
  rw [Function.update_of_ne h]

/-- A layout that gives a register a value has it in its range. -/
theorem bounds_of_blockValue {start end_ registerNo value : ℕ} {values : Bytes}
    (h : blockValue maxRegister start end_ values registerNo = some value) :
    start ≤ registerNo ∧ registerNo ≤ end_ := by
  unfold blockValue at h
  split_ifs at h with hbounds
  exact ⟨hbounds.1, hbounds.2.1⟩

/-- **A block that is not skipped leaves a valid cache**: it says what its registers hold,
and the layouts that are kept share none of them. -/
theorem CacheValid.captureBlock (h : CacheValid maxRegister s) :
    CacheValid maxRegister (captureBlock true maxRegister now message s block) := by
  unfold GroBro.captureBlock
  rw [if_pos rfl]
  split_ifs with hhit
  · exact h
  · rintro ⟨deviceId, function, start, end_⟩ values hcached registerNo value hvalue
    dsimp only at hvalue ⊢
    rw [captureRegisters_lastBlockValues] at hcached
    rw [captureRegisters_lastValues]
    by_cases hkey : (deviceId, function, start, end_) = blockKey message block
    · rw [hkey, rememberBlock_self] at hcached
      obtain rfl := Option.some.inj hcached
      obtain ⟨hdevice, hrest⟩ := Prod.mk.inj hkey
      obtain ⟨hfunction, hrest⟩ := Prod.mk.inj hrest
      obtain ⟨rfl, rfl⟩ := Prod.mk.inj hrest
      rw [if_pos ⟨hdevice, hfunction⟩, hvalue, Option.some_or]
    · rw [rememberBlock_of_ne hkey] at hcached
      split_ifs at hcached with hoverlap
      have hold : s.lastValues (deviceId, function, registerNo) = some value :=
        h _ values hcached registerNo value hvalue
      split_ifs with hregister
      · rcases hblock : blockValue maxRegister block.start block.end_ block.values registerNo with
          - | value'
        · rw [Option.none_or]
          exact hold
        -- a layout that has the register too would have been dropped
        · obtain ⟨hstart, hend⟩ := bounds_of_blockValue hvalue
          obtain ⟨hstart', hend'⟩ := bounds_of_blockValue hblock
          exact absurd (decide_eq_true ⟨hregister.1, hregister.2, le_trans hstart hend',
            le_trans hstart' hend⟩) hoverlap
      · exact hold

end Capture

/-! ### Runs -/

section Runs

variable {maxRegister : ℕ} {now : PyStr} {message : GrowattModbusMessage} {s t : CaptureState}

/-- The two algorithms remember the same values and have emitted the same records. -/
structure SameCapture (s t : CaptureState) : Prop where
  lastValues : s.lastValues = t.lastValues
  records : s.records = t.records

/-- The loop over the registers of a block does not look at the cache of blocks. -/
theorem SameCapture.captureRegisters (h : SameCapture s t) (changesOnly : Bool)
    (block : GrowattModbusBlock) :
    SameCapture (captureRegisters changesOnly maxRegister now message s block)
      (captureRegisters changesOnly maxRegister now message t block) := by
  apply run_simulates h
  intro s t registerNo h
  unfold captureRegister storeRegister
  dsimp only
  rw [h.lastValues]
  split_ifs
  · exact h
  · exact h
  · exact ⟨rfl, h.records⟩
  · exact ⟨rfl, by rw [h.records]⟩

/-- **A block with the fast path and the same block without it.** -/
theorem SameCapture.captureBlock (h : SameCapture s t) (hs : CacheValid maxRegister s)
    (block : GrowattModbusBlock) :
    SameCapture (captureBlock true maxRegister now message s block)
      (GroBro.captureRegisters true maxRegister now message t block) := by
  unfold GroBro.captureBlock
  rw [if_pos rfl]
  split_ifs with hhit
  · have hsummary : Summarizes maxRegister t.lastValues (blockKey message block) block.values := by
      rw [← h.lastValues]
      exact hs _ _ hhit
    rw [captureRegisters_of_summarizes hsummary]
    exact h
  · have hremembered : SameCapture (rememberBlock message s block) t := ⟨h.lastValues, h.records⟩
    exact hremembered.captureRegisters true block

/-- **The fast path changes nothing**: for every sequence of messages, whatever their
blocks, the records and the last values are those of the plain algorithm. -/
theorem fast_path_changes_nothing (maxRegister : ℕ)
    (messages : List (PyStr × GrowattModbusMessage)) :
    SameCapture (run (writeModbusMessage true maxRegister) .start messages)
      (run (plainMessage true maxRegister) .start messages) := by
  have h : SameCapture (run (writeModbusMessage true maxRegister) .start messages)
        (run (plainMessage true maxRegister) .start messages) ∧
      CacheValid maxRegister (run (writeModbusMessage true maxRegister) .start messages) := by
    apply run_simulates (R := fun s t => SameCapture s t ∧ CacheValid maxRegister s)
    · exact ⟨⟨rfl, rfl⟩, fun _ _ hcached => nomatch hcached⟩
    · rintro s t ⟨now, message⟩ h
      apply run_simulates (R := fun s t => SameCapture s t ∧ CacheValid maxRegister s) h
      rintro s t block ⟨hsame, hvalid⟩
      exact ⟨hsame.captureBlock hvalid block, hvalid.captureBlock⟩
  exact h.1

end Runs

end GroBro
