/-
GroBro/ConfigBlock.lean

A configuration block behind padding: `find_config_offset` and `parse_config_type` of
`grobro/grobro/parser.py`, as `parse_noah_fe19` uses them.  The entries are frames
(`tlvFormat`), and the loop of the parser is a scan of them (`parseConfigTlvs_eq`).

The search for the block slides a window over the bytes.  A window that starts in the padding
reads a key of zero, as the first key has no high byte, so that the first window that looks
like an entry is the first entry (`findConfigOffset_padded`).
-/
import GroBro.ConfigTlv
import GroBro.Framing

namespace GroBro

open ByteCodec Framing

/-! ### Entries as frames -/

structure TlvEntry where
  key : ℕ
  value : Bytes
  deriving DecidableEq, Repr

/-- The entries that the parser reads. -/
structure TlvEntry.OnWire (e : TlvEntry) : Prop where
  key_lt : e.key < 65536
  length_pos : 0 < e.value.length
  length_le : e.value.length ≤ 512

/-- The bytes of an entry. -/
def TlvEntry.wire (e : TlvEntry) : Bytes :=
  u16Bytes e.key ++ (u16Bytes e.value.length ++ e.value)

theorem TlvEntry.length_wire (e : TlvEntry) : e.wire.length = 4 + e.value.length := by
  simp only [wire, List.length_append, length_u16Bytes]
  omega

theorem TlvEntry.wire_append (e : TlvEntry) (r : Bytes) :
    e.wire ++ r = u16Bytes e.key ++ (u16Bytes e.value.length ++ (e.value ++ r)) := by
  simp [wire]

theorem TlvEntry.u16At_wire {e : TlvEntry} (h : e.key < 65536) (r : Bytes) :
    u16At (e.wire ++ r) 0 = e.key := by
  rw [wire_append]
  exact u16At_u16Bytes h _

theorem TlvEntry.u16At_wire_length {e : TlvEntry} (h : e.value.length < 65536) (r : Bytes) :
    u16At (e.wire ++ r) 2 = e.value.length := by
  rw [wire_append]
  exact u16At_mid _ _ h rfl

/-- The entry at the front of a buffer. -/
def decodeTlv (w : Bytes) : Option TlvEntry :=
  if w.length < 4 then none
  else if u16At w 2 = 0 ∨ u16At w 2 > 512 ∨ 4 + u16At w 2 > w.length then none
  else some ⟨u16At w 0, slice w 4 (4 + u16At w 2)⟩

theorem decodeTlv_of_short {w : Bytes} (h : w.length < 4) : decodeTlv w = none := if_pos h

theorem decodeTlv_wire {e : TlvEntry} (h : e.OnWire) (r : Bytes) :
    decodeTlv (e.wire ++ r) = some e := by
  obtain ⟨hkey, hpos, hle⟩ := h
  have htotal : (e.wire ++ r).length = 4 + e.value.length + r.length := by
    rw [List.length_append, e.length_wire]
  have hvalue : slice (e.wire ++ r) 4 (4 + e.value.length) = e.value := by
    rw [e.wire_append, ← List.append_assoc]
    exact slice_append_mid _ _ _ rfl rfl
  unfold decodeTlv
  rw [TlvEntry.u16At_wire hkey, TlvEntry.u16At_wire_length (by omega), htotal, hvalue,
    if_neg (by omega), if_neg (by omega)]

theorem decodeTlv_sound {w : Bytes} {e : TlvEntry} (h : decodeTlv w = some e) :
    e.OnWire ∧ ∃ r, w = e.wire ++ r := by
  unfold decodeTlv at h
  split_ifs at h with hshort hstop
  obtain rfl := Option.some.inj h
  rw [not_or, not_or] at hstop
  obtain ⟨hpos, hle, hfit⟩ := hstop
  have hlength : (slice w 4 (4 + u16At w 2)).length = u16At w 2 := by
    rw [length_slice_of_le (by omega)]
    omega
  refine ⟨⟨u16At_lt w 0, ?_, ?_⟩, w.drop (4 + u16At w 2), ?_⟩
  · rw [hlength]
    exact Nat.pos_of_ne_zero hpos
  · rw [hlength]
    exact Nat.not_lt.mp hle
  · have hhead : u16Bytes (u16At w 0) ++ u16Bytes (u16At w 2) = w.take 4 := by
      rw [u16Bytes_u16At w (by omega), u16Bytes_u16At w (by omega)]
      exact slice_append_slice w (by omega) (by omega)
    calc w = w.take (4 + u16At w 2) ++ w.drop (4 + u16At w 2) :=
          (List.take_append_drop _ w).symm
      _ = (w.take 4 ++ slice w 4 (4 + u16At w 2)) ++ w.drop (4 + u16At w 2) := by
          rw [take_append_slice w (by omega)]
      _ = _ := by
          rw [← hhead, TlvEntry.wire, hlength]
          simp

/-- Entries are self-delimiting frames. -/
def tlvFormat : Format TlvEntry UInt8 where
  Valid := TlvEntry.OnWire
  encode := TlvEntry.wire
  decode := decodeTlv
  decode_append h r := decodeTlv_wire h r
  decode_sound h := decodeTlv_sound h
  encode_ne_nil h e := by
    have hl := congrArg List.length e
    rw [TlvEntry.length_wire] at hl
    simp at hl

/-- What the parser keeps of an entry. -/
def TlvEntry.param (e : TlvEntry) : ℕ × PyStr := (e.key, configTlvValue e.value)

/-- The loop reads the entries at the front of what is left. -/
theorem parseConfigTlvs_eq (data : Bytes) (offset : ℕ) :
    parseConfigTlvs data offset = (tlvFormat.scan (data.drop offset)).1.map TlvEntry.param := by
  have hlength : ∀ n, (data.drop n).length = data.length - n := fun _ => List.length_drop
  have hkeyAt : ∀ n, u16At (data.drop n) 0 = u16At data n := fun n => u16At_drop data n 0
  have hlenAt : ∀ n, u16At (data.drop n) 2 = u16At data (n + 2) := fun n => u16At_drop data n 2
  induction offset using parseConfigTlvs.induct data with
  | case1 offset hle keyLen start hstop =>
      have hnone : tlvFormat.decode (data.drop offset) = none := by
        show decodeTlv (data.drop offset) = none
        unfold decodeTlv
        rw [hlength, hlenAt, if_neg (by omega), if_pos]
        exact hstop.imp_right fun h => h.imp_right fun h => by omega
      rw [parseConfigTlvs, dif_pos hle, if_pos hstop, tlvFormat.scan_of_none hnone]
      rfl
  | case2 offset hle keyLen start hgo ih =>
      have hsome : tlvFormat.decode (data.drop offset) =
          some ⟨u16At data offset, slice data start (start + keyLen)⟩ := by
        show decodeTlv (data.drop offset) = _
        unfold decodeTlv
        rw [hlength, hkeyAt, hlenAt, if_neg (by omega), if_neg, slice_drop, Nat.add_assoc]
        exact fun h => hgo (h.imp_right fun h => h.imp_right fun h => by omega)
      -- the loop and the scan go on behind the same entry
      have hvalue : (slice data start (start + keyLen)).length = keyLen := by
        rw [not_or, not_or] at hgo
        rw [length_slice_of_le (by omega), Nat.add_sub_cancel_left]
      have hnext : offset + (tlvFormat.encode
          ⟨u16At data offset, slice data start (start + keyLen)⟩).length = start + keyLen := by
        rw [show tlvFormat.encode = TlvEntry.wire from rfl, TlvEntry.length_wire, hvalue]
        omega
      rw [parseConfigTlvs, dif_pos hle, if_neg hgo, tlvFormat.scan_of_some hsome, List.drop_drop,
        hnext, ih]
      rfl
  | case3 offset hshort =>
      have hnone : tlvFormat.decode (data.drop offset) = none := by
        apply decodeTlv_of_short
        rw [hlength]
        omega
      rw [parseConfigTlvs, dif_neg hshort, tlvFormat.scan_of_none hnone]
      rfl

/-! ### Values and fields -/

/-- The text of a value: the ASCII text without NULs at its ends if that can be printed, and
else the bytes in hex. -/
inductive TlvText (value : Bytes) : PyStr → Prop
  | printable (text : PyStr) (hascii : IsAscii text) (he : value = asciiBytes text)
      (h : ∀ c ∈ stripNul text, 32 ≤ c.toNat ∧ c.toNat ≤ 126) : TlvText value (stripNul text)
  | hex (h : ∀ text, IsAscii text → value = asciiBytes text →
      ∃ c ∈ stripNul text, c.toNat < 32 ∨ 126 < c.toNat) : TlvText value (hexOf value)

theorem tlvText_configTlvValue (value : Bytes) : TlvText value (configTlvValue value) := by
  unfold configTlvValue
  split
  next e hdecode =>
    refine .hex fun text hascii he => ?_
    rw [he, decodeAscii_asciiBytes hascii] at hdecode
    cases hdecode
  next text hdecode =>
    obtain ⟨hascii, he⟩ := eq_asciiBytes_of_decodeAscii hdecode
    dsimp only
    split_ifs with hcontrol
    · refine .hex fun text' hascii' he' => ?_
      rw [he', decodeAscii_asciiBytes hascii'] at hdecode
      obtain rfl := Except.ok.inj hdecode
      obtain ⟨c, hc, hout⟩ := List.any_eq_true.mp hcontrol
      rw [Bool.or_eq_true, decide_eq_true_eq, decide_eq_true_eq] at hout
      exact ⟨c, hc, hout⟩
    · refine .printable text hascii he fun c hc => ?_
      rw [Bool.not_eq_true, List.any_eq_false] at hcontrol
      have hin := hcontrol c hc
      rw [Bool.or_eq_true, decide_eq_true_eq, decide_eq_true_eq] at hin
      omega

/-- The key of a field. -/
def configKey : ConfigField → ℕ
  | .dataInterval => 4
  | .unknown5 => 5
  | .unknown6 => 6
  | .password => 7
  | .serialNumber => 8
  | .protocolVersion => 9
  | .unknown10 => 10
  | .unknown11 => 11
  | .dnsAddress => 12
  | .deviceType => 13
  | .localIp => 14
  | .unknownPort => 15
  | .macAddress => 16
  | .remoteIp => 17
  | .remotePort => 18
  | .remoteUrl => 19
  | .modelId => 20
  | .swVersion => 21
  | .hwVersion => 22
  | .unknown23 => 23
  | .unknown24 => 24
  | .subnetMask => 25
  | .defaultGateway => 26
  | .unknown27 => 27
  | .unknown28 => 28
  | .unknown29 => 29
  | .timezone => 30
  | .datetime => 31
  | .wifiSignal => 76
  | .raw => 0

/-- No field has two keys. -/
theorem configKey_of_configParamNames {key : ℕ} {field : ConfigField}
    (h : configParamNames key = some field) : configKey field = key := by
  unfold configParamNames at h
  split at h <;> cases h <;> rfl

theorem configParamNames_ne_raw (key : ℕ) : configParamNames key ≠ some .raw := by
  intro h
  obtain rfl := configKey_of_configParamNames h
  cases h

/-- **The last entry with a key counts.** -/
theorem find?_reverse_of_last {before after : List TlvEntry} {e : TlvEntry} {field : ConfigField}
    (hfield : configParamNames e.key = some field) (hlast : ∀ e' ∈ after, e'.key ≠ e.key) :
    ((before ++ e :: after).map TlvEntry.param).reverse.find?
        (fun p => configParamNames p.1 = some field) = some e.param := by
  have hafter : (after.map TlvEntry.param).reverse.find?
      (fun p => configParamNames p.1 = some field) = none := by
    rw [List.find?_eq_none]
    intro p hp hsame
    obtain ⟨e', he', rfl⟩ := List.mem_map.mp (List.mem_reverse.mp hp)
    have hkey := configKey_of_configParamNames (of_decide_eq_true hsame)
    rw [configKey_of_configParamNames hfield] at hkey
    exact hlast e' he' hkey.symm
  rw [List.map_append, List.map_cons, List.reverse_append, List.reverse_cons, List.append_assoc,
    List.find?_append, hafter, Option.none_or, List.cons_append, List.nil_append]
  exact List.find?_cons_of_pos (decide_eq_true hfield)

theorem DeviceConfig.make_apply (config : ConfigField → Option PyStr) (field : ConfigField) :
    DeviceConfig.make config field =
      if field = .serialNumber then rejectPlaceholderSerialNumber (config field)
      else config field := by
  cases field <;> rfl

/-! ### The start of the block -/

/-- A window in the padding reads a key of zero, also at its last byte: the key of the
entry behind it has no high byte. -/
theorem u16At_padding {first : TlvEntry} (hkey : first.key < 256) (k : ℕ) (behind : Bytes) :
    u16At (List.replicate (k + 1) 0 ++ (first.wire ++ behind)) 0 = 0 := by
  have hhigh : u8At (List.replicate k 0 ++ (first.wire ++ behind)) 0 = 0 := by
    cases k with
    | zero =>
        rw [first.wire_append, u16Bytes, Nat.div_eq_of_lt hkey]
        rfl
    | succ k => rfl
  show 0 * 256 + u8At (List.replicate k 0 ++ (first.wire ++ behind)) 0 = 0
  rw [hhigh]

/-- **Padding is skipped**, and the window behind it reads the first entry. -/
theorem findConfigOffset_padded {head : Bytes} (hhead : head.length = 28) (padding : ℕ)
    {first : TlvEntry} (hkey : 0 < first.key ∧ first.key < 256)
    (hlength : 0 < first.value.length ∧ first.value.length < 256) (behind : Bytes) :
    findConfigOffset (head ++ (List.replicate padding 0 ++ (first.wire ++ behind))) =
      28 + padding := by
  set data := head ++ (List.replicate padding 0 ++ (first.wire ++ behind)) with hdata
  have hfrom : ∀ i, i ≤ padding → data.drop (28 + i) =
      List.replicate (padding - i) 0 ++ (first.wire ++ behind) := by
    intro i hi
    rw [← List.drop_drop, hdata, List.drop_left' hhead, List.drop_append_of_le_length
      (by rwa [List.length_replicate]), List.drop_replicate]
  have hkeyAt : u16At data (28 + padding) = first.key := by
    rw [← Nat.add_zero (28 + padding), ← u16At_drop, hfrom padding le_rfl, Nat.sub_self]
    exact first.u16At_wire (by omega) behind
  have hlenAt : u16At data (28 + padding + 2) = first.value.length := by
    rw [← u16At_drop, hfrom padding le_rfl, Nat.sub_self]
    exact first.u16At_wire_length (by omega) behind
  have hpadding : ∀ i < padding, u16At data (28 + i) = 0 := by
    intro i hi
    obtain ⟨k, hk⟩ := Nat.exists_eq_add_of_lt hi
    have hleft : padding - i = k + 1 := by omega
    rw [← Nat.add_zero (28 + i), ← u16At_drop, hfrom i hi.le, hleft]
    exact u16At_padding hkey.2 k behind
  have hfound : (List.range' 0x1C (data.length - 4 - 0x1C)).find? (fun i =>
      let key := u16At data i
      let length := u16At data (i + 2)
      0 < key ∧ key < 1000 ∧ 0 < length ∧ length < 256) = some (28 + padding) := by
    rw [List.find?_range'_eq_some]
    refine ⟨?_, ?_, ?_⟩
    · rw [decide_eq_true_eq, hkeyAt, hlenAt]
      omega
    · rw [List.mem_range'_1]
      have htotal : data.length = 28 + padding + (4 + first.value.length + behind.length) := by
        rw [hdata, List.length_append, List.length_append, List.length_append,
          List.length_replicate, first.length_wire, hhead]
        omega
      omega
    · intro j hj hlt
      obtain ⟨i, rfl⟩ := Nat.exists_eq_add_of_le hj
      have hzero := hpadding i (by omega)
      rw [Bool.not_eq_true', decide_eq_false_iff_not]
      exact fun h => absurd (hzero ▸ h.1) (lt_irrefl 0)
  unfold findConfigOffset
  rw [hfound]
  rfl

/-! ### The whole block -/

/-- Bytes with a configuration block in them. -/
structure ConfigBlock where
  head : Bytes
  length_head : head.length = 28
  /-- Zero bytes between the head and the first entry. -/
  padding : ℕ
  first : TlvEntry
  first_key : 0 < first.key ∧ first.key < 256
  first_length : 0 < first.value.length ∧ first.value.length < 256
  rest : List TlvEntry
  rest_onWire : ∀ e ∈ rest, e.OnWire
  trailing : Bytes
  length_trailing : trailing.length ≤ 3

namespace ConfigBlock

def entries (block : ConfigBlock) : List TlvEntry := block.first :: block.rest

def bytes (block : ConfigBlock) : Bytes :=
  block.head ++ (List.replicate block.padding 0 ++
    (tlvFormat.encodeAll block.entries ++ block.trailing))

/-- Where the first entry is. -/
def start (block : ConfigBlock) : ℕ := 28 + block.padding

theorem onWire (block : ConfigBlock) : ∀ e ∈ block.entries, e.OnWire := by
  intro e he
  rcases List.mem_cons.mp he with rfl | hrest
  · have hkey := block.first_key
    have hlength := block.first_length
    exact ⟨by omega, by omega, by omega⟩
  · exact block.rest_onWire e hrest

theorem findConfigOffset_bytes (block : ConfigBlock) :
    findConfigOffset block.bytes = block.start := by
  have hfirst : tlvFormat.encodeAll block.entries ++ block.trailing =
      block.first.wire ++ (tlvFormat.encodeAll block.rest ++ block.trailing) := by
    rw [entries, tlvFormat.encodeAll_cons, List.append_assoc]
    rfl
  rw [bytes, hfirst]
  exact findConfigOffset_padded block.length_head block.padding block.first_key
    block.first_length _

theorem parseConfigTlvs_bytes (block : ConfigBlock) :
    parseConfigTlvs block.bytes block.start = block.entries.map TlvEntry.param := by
  have hdrop : block.bytes.drop block.start =
      tlvFormat.encodeAll block.entries ++ block.trailing := by
    rw [start, bytes, ← List.drop_drop, List.drop_left' block.length_head,
      List.drop_left' List.length_replicate]
  have hshort : block.trailing.length < 4 := Nat.lt_succ_of_le block.length_trailing
  rw [parseConfigTlvs_eq, hdrop, tlvFormat.scan_append block.onWire (decodeTlv_of_short hshort)]

/-- What the parser makes of a block. -/
structure Decoded (block : ConfigBlock) (config : DeviceConfig) : Prop where
  /-- A field has the value of the last entry with its key. -/
  last : ∀ before e after field, block.entries = before ++ e :: after →
    configParamNames e.key = some field → (∀ e' ∈ after, e'.key ≠ e.key) →
    ∃ text, TlvText e.value text ∧ config field =
      if field = .serialNumber then rejectPlaceholderSerialNumber (some text) else some text
  other : ∀ field, (∀ e ∈ block.entries, configParamNames e.key ≠ some field) →
    config field = none
  raw : config .raw = none

/-- Fields are what the entries say, after the validator of the serial number. -/
theorem parseConfigType_bytes (block : ConfigBlock) :
    parseConfigType block.bytes block.start = .make fun field =>
      ((block.entries.map TlvEntry.param).reverse.find? fun p =>
        configParamNames p.1 = some field).map Prod.snd := by
  unfold parseConfigType
  rw [parseConfigTlvs_bytes]
  exact congrArg DeviceConfig.make (funext fun _ => if_neg fun h => List.cons_ne_nil _ _ h.1)

theorem decoded (block : ConfigBlock) :
    block.Decoded (parseConfigType block.bytes block.start) := by
  rw [parseConfigType_bytes]
  have hother : ∀ field, (∀ e ∈ block.entries, configParamNames e.key ≠ some field) →
      ((block.entries.map TlvEntry.param).reverse.find? fun p =>
        configParamNames p.1 = some field) = none := by
    intro field hnone
    rw [List.find?_eq_none]
    intro p hp hsame
    obtain ⟨e, he, rfl⟩ := List.mem_map.mp (List.mem_reverse.mp hp)
    exact hnone e he (of_decide_eq_true hsame)
  constructor
  case last =>
    intro before e after field he hfield hlast
    refine ⟨configTlvValue e.value, tlvText_configTlvValue e.value, ?_⟩
    rw [DeviceConfig.make_apply, he, find?_reverse_of_last hfield hlast]
    rfl
  case other =>
    intro field hnone
    rw [DeviceConfig.make_apply, hother field hnone]
    exact ite_self none
  case raw =>
    rw [DeviceConfig.make_apply, hother .raw fun e _ => configParamNames_ne_raw e.key]
    rfl

end ConfigBlock

/-- **A configuration block is located and decoded exactly.** -/
theorem config_block_exact (block : ConfigBlock) :
    findConfigOffset block.bytes = block.start ∧
      block.Decoded (parseConfigType block.bytes block.start) :=
  ⟨block.findConfigOffset_bytes, block.decoded⟩

/-- Two zero bytes before the first entry, a serial number that is sent twice, a value with a
control character, an entry that no field has, and the start of another entry. -/
def paddedBlock : ConfigBlock where
  head := List.replicate 28 1
  length_head := rfl
  padding := 2
  first := ⟨8, asciiBytes "0PVP50ZR16".toList⟩
  first_key := by decide
  first_length := by decide
  rest := [⟨21, [49, 10]⟩, ⟨200, [7]⟩, ⟨8, asciiBytes "0PVP50ZR17".toList⟩]
  rest_onWire e he := by
    simp only [List.mem_cons, List.not_mem_nil, or_false] at he
    obtain rfl | rfl | rfl := he <;> exact ⟨by decide, by decide, by decide⟩
  trailing := [0, 9, 0]
  length_trailing := by decide

theorem config_block_exact_padded :
    findConfigOffset paddedBlock.bytes = 30 ∧
      let config := parseConfigType paddedBlock.bytes 30
      paddedBlock.Decoded config ∧ config .serialNumber = some "0PVP50ZR17".toList ∧
        config .swVersion = some "310a".toList := by
  obtain ⟨hoffset, hdecoded⟩ := config_block_exact paddedBlock
  have hconfig := paddedBlock.parseConfigType_bytes
  refine ⟨hoffset, hdecoded, ?_, ?_⟩
  · rw [show (30 : ℕ) = paddedBlock.start from rfl, hconfig]
    decide +kernel
  · rw [show (30 : ℕ) = paddedBlock.start from rfl, hconfig]
    decide +kernel

end GroBro
