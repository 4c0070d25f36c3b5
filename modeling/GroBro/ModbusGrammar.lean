/-
GroBro/ModbusGrammar.lean

What the Modbus message parser accepts.  Register blocks are a frame format
(`blockFormat`), the parser's `while` loop is a scan of it (`parseBlocks_eq`),
and the whole parser is a pure decoder that never raises (`parseGrobro_eq`):

    parseGrobro b = ok (decodeMessage b).

`decodeMessage_isSome_iff` states the wire grammar that decides acceptance, and
`blockSplit_unique` that the blocks of an accepted message are the only reading
of its bytes.
-/
import GroBro.ModbusMessage

namespace GroBro

open ByteCodec Framing

/-! ### Register blocks as frames -/

/-- The blocks that exist on the wire: a nonempty register range with two
bytes for each register. -/
structure GrowattModbusBlock.OnWire (block : GrowattModbusBlock) : Prop where
  start_le : block.start ≤ block.end_
  end_lt : block.end_ < 65536
  length_values : block.values.length = 2 * (block.end_ - block.start + 1)

/-- The bytes of a block. -/
def GrowattModbusBlock.wire (block : GrowattModbusBlock) : Bytes :=
  u16Bytes block.start ++ (u16Bytes block.end_ ++ block.values)

theorem GrowattModbusBlock.length_wire (block : GrowattModbusBlock) :
    block.wire.length = block.size := by
  simp only [wire, List.length_append, length_u16Bytes, size, blockHeaderSize]
  omega

/-- The block at the front of a buffer. -/
def decodeBlock (w : Bytes) : Option GrowattModbusBlock :=
  if w.length < blockHeaderSize then none
  else if u16At w 2 < u16At w 0 then none
  else if w.length < blockHeaderSize + (u16At w 2 - u16At w 0 + 1) * 2 then none
  else some
    { start := u16At w 0
      end_ := u16At w 2
      values := slice w blockHeaderSize (blockHeaderSize + (u16At w 2 - u16At w 0 + 1) * 2) }

/-- The block parser reads the block at the front of what is left, and its
`try` never has anything to catch. -/
theorem GrowattModbusBlock.parseGrobro_eq (buffer : Bytes) (offset : ℕ) :
    GrowattModbusBlock.parseGrobro buffer offset = .ok (decodeBlock (buffer.drop offset)) := by
  unfold GrowattModbusBlock.parseGrobro decodeBlock
  have hlen : (buffer.drop offset).length = buffer.length - offset := List.length_drop
  by_cases hshort : buffer.length - offset < blockHeaderSize
  · simp [hlen, hshort]
  have hsize : blockHeaderSize = 4 := rfl
  have hfit : offset + blockHeaderSize ≤ buffer.length := by omega
  have hstart : u16At (slice buffer offset (offset + blockHeaderSize)) 0
      = u16At (buffer.drop offset) 0 := by
    rw [u16At_slice buffer (by simp [blockHeaderSize]), u16At_drop]
  have hend : u16At (slice buffer offset (offset + blockHeaderSize)) 2
      = u16At (buffer.drop offset) 2 := by
    rw [u16At_slice buffer (by simp [blockHeaderSize]), u16At_drop]
  simp only [hlen, hshort, if_false, unpackFrom_ok hfit, ok_bind, hstart, hend, slice_drop,
    pure_eq_ok]
  split_ifs <;> rfl

theorem decodeBlock_of_short {w : Bytes} (h : w.length < minBlockSize) : decodeBlock w = none := by
  have hsize : blockHeaderSize = 4 := rfl
  have hmin : minBlockSize = 6 := rfl
  unfold decodeBlock
  split_ifs
  · rfl
  · rfl
  · rfl
  · omega

theorem decodeBlock_wire {block : GrowattModbusBlock} (h : block.OnWire) (r : Bytes) :
    decodeBlock (block.wire ++ r) = some block := by
  obtain ⟨hle, hlt, hlen⟩ := h
  have hw : block.wire ++ r
      = u16Bytes block.start ++ (u16Bytes block.end_ ++ (block.values ++ r)) := by
    simp [GrowattModbusBlock.wire]
  have hstart : u16At (block.wire ++ r) 0 = block.start := by
    rw [hw]
    exact u16At_u16Bytes (by omega) _
  have hend : u16At (block.wire ++ r) 2 = block.end_ := by
    rw [hw]
    exact u16At_mid _ _ hlt rfl
  have htotal : (block.wire ++ r).length = 4 + block.values.length + r.length := by
    rw [List.length_append, block.length_wire, GrowattModbusBlock.size, blockHeaderSize]
  have hsize : blockHeaderSize = 4 := rfl
  have hvalues : slice (block.wire ++ r) blockHeaderSize
      (blockHeaderSize + (block.end_ - block.start + 1) * 2) = block.values := by
    rw [hw, ← List.append_assoc]
    exact slice_append_mid _ _ _ rfl (by simp [hsize, hlen, Nat.mul_comm])
  unfold decodeBlock
  rw [hstart, hend, htotal]
  rw [if_neg (by omega), if_neg (by omega), if_neg (by omega), hvalues]

theorem decodeBlock_sound {w : Bytes} {block : GrowattModbusBlock}
    (h : decodeBlock w = some block) : block.OnWire ∧ ∃ r, w = block.wire ++ r := by
  have hsize : blockHeaderSize = 4 := rfl
  unfold decodeBlock at h
  split_ifs at h with hshort hrange hfit
  obtain rfl := Option.some.inj h
  have hlt := u16At_lt w 2
  set n := blockHeaderSize + (u16At w 2 - u16At w 0 + 1) * 2 with hn
  have hvalues : (slice w blockHeaderSize n).length = 2 * (u16At w 2 - u16At w 0 + 1) := by
    rw [length_slice_of_le (by omega)]
    omega
  refine ⟨⟨Nat.not_lt.mp hrange, hlt, hvalues⟩, w.drop n, ?_⟩
  have hhead : u16Bytes (u16At w 0) ++ u16Bytes (u16At w 2) = w.take 4 := by
    rw [u16Bytes_u16At w (by omega), u16Bytes_u16At w (by omega)]
    exact slice_append_slice w (by omega) (by omega)
  calc w = w.take n ++ w.drop n := (List.take_append_drop n w).symm
    _ = (w.take 4 ++ slice w blockHeaderSize n) ++ w.drop n := by
        rw [hsize, take_append_slice w (by omega)]
    _ = _ := by rw [← hhead]; simp [GrowattModbusBlock.wire]

/-- Register blocks are self-delimiting frames. -/
def blockFormat : Format GrowattModbusBlock UInt8 where
  Valid := GrowattModbusBlock.OnWire
  encode := GrowattModbusBlock.wire
  decode := decodeBlock
  decode_append h r := decodeBlock_wire h r
  decode_sound h := decodeBlock_sound h
  encode_ne_nil h e := by
    have hl := congrArg List.length e
    rw [GrowattModbusBlock.length_wire, GrowattModbusBlock.size] at hl
    simp [blockHeaderSize] at hl

/-- The blocks and the trailer that a byte string is the concatenation of. -/
structure BlockSplit (w : Bytes) (blocks : List GrowattModbusBlock) (trailer : Bytes) : Prop where
  onWire : ∀ block ∈ blocks, block.OnWire
  split : w = blockFormat.encodeAll blocks ++ trailer
  trailer : trailer.length = 0 ∨ trailer.length = trailerSize

theorem BlockSplit.undecodable {w : Bytes} {blocks : List GrowattModbusBlock} {trailer : Bytes}
    (h : BlockSplit w blocks trailer) : decodeBlock trailer = none := by
  apply decodeBlock_of_short
  rcases h.trailer with h₀ | h₂
  · rw [h₀]; decide
  · rw [h₂]; decide

/-- A byte string has one reading as blocks and a trailer. -/
theorem blockSplit_unique {w : Bytes} {blocks blocks' : List GrowattModbusBlock}
    {trailer trailer' : Bytes} (h : BlockSplit w blocks trailer)
    (h' : BlockSplit w blocks' trailer') : blocks = blocks' ∧ trailer = trailer' :=
  blockFormat.split_unique h.onWire h.undecodable h'.onWire h'.undecodable
    (h.split.symm.trans h'.split)

theorem blockSplit_iff_scan (w : Bytes) (blocks : List GrowattModbusBlock) (trailer : Bytes) :
    BlockSplit w blocks trailer ↔ blockFormat.scan w = (blocks, trailer) ∧
      (trailer.length = 0 ∨ trailer.length = trailerSize) := by
  rw [Format.scan_eq_iff]
  constructor
  · intro h
    exact ⟨⟨h.onWire, h.split.symm, h.undecodable⟩, h.trailer⟩
  · rintro ⟨⟨hv, hs, _⟩, ht⟩
    exact ⟨hv, hs.symm, ht⟩

/-! ### The loop is a scan -/

/-- The parser's loop returns the scanned blocks, unless it stopped at bytes
that should have been a block. -/
theorem GrowattModbusMessage.parseBlocks_eq {buffer : Bytes} {offset : ℕ}
    (ho : offset ≤ buffer.length) :
    parseBlocks buffer offset =
      .ok (let p := blockFormat.scan (buffer.drop offset)
        if p.2.length < minBlockSize then some (p.1, buffer.length - p.2.length) else none) := by
  -- on the number of bytes left
  induction hn : buffer.length - offset using Nat.strong_induction_on generalizing offset with
  | _ n ih =>
  subst hn
  by_cases hroom : minBlockSize ≤ buffer.length - offset
  · rw [parseBlocks, dif_pos hroom, GrowattModbusBlock.parseGrobro_eq]
    cases hd : decodeBlock (buffer.drop offset) with
    | none =>
        simp only [blockFormat.scan_of_none hd, List.length_drop]
        rw [if_neg (by omega)]
    | some block =>
        -- the loop and the scan go on behind the same block
        have hsize : (blockFormat.encode block).length = block.size := block.length_wire
        have hpos : 0 < block.size := by
          simp only [GrowattModbusBlock.size, blockHeaderSize]
          omega
        have hstop : offset + block.size ≤ buffer.length := by
          obtain ⟨_, r, hr⟩ := decodeBlock_sound hd
          have hl := congrArg List.length hr
          rw [List.length_drop, List.length_append, block.length_wire] at hl
          omega
        have hrec := ih (buffer.length - (offset + block.size)) (by omega) hstop rfl
        simp only [hrec, blockFormat.scan_of_some hd, hsize, List.drop_drop]
        split_ifs <;> rfl
  · rw [parseBlocks, dif_neg hroom]
    have hshort : (buffer.drop offset).length < minBlockSize := by
      rw [List.length_drop]
      omega
    rw [blockFormat.scan_of_none (decodeBlock_of_short hshort)]
    dsimp only
    rw [if_pos hshort, List.length_drop, Nat.sub_sub_self ho]

/-! ### The parser as a pure decoder -/

/-- The metadata at the front of a buffer; an impossible date is no timestamp. -/
def decodeMetadata (w : Bytes) : GrowattMetadata where
  deviceSn := stripNul (decodeIgnore (slice w 0 30))
  timestamp := (DateTime.make (u8At w 30 + 2000) (u8At w 31) (u8At w 32) (u8At w 33)
    (u8At w 34) (u8At w 35) (u8At w 36 * 1000)).toOption

theorem GrowattMetadata.parseGrobro_eq (buffer : Bytes) (offset : ℕ) :
    GrowattMetadata.parseGrobro buffer offset =
      .ok (if (buffer.drop offset).length < metadataSize then none
        else some (decodeMetadata (buffer.drop offset))) := by
  unfold GrowattMetadata.parseGrobro
  have hlen : (buffer.drop offset).length = buffer.length - offset := List.length_drop
  by_cases hshort : buffer.length - offset < metadataSize
  · rw [hlen, if_pos hshort, if_pos hshort]
  have hfit : offset + metadataSize ≤ buffer.length := by
    simp only [metadataSize] at hshort ⊢
    omega
  -- the parser reads from a window of the buffer, the decoder from the buffer
  have hbyte : ∀ k, k < metadataSize →
      u8At (slice buffer offset (offset + metadataSize)) k = u8At (buffer.drop offset) k := by
    intro k hk
    rw [u8At_slice buffer (by omega), u8At_drop]
  have hserial : slice (slice buffer offset (offset + metadataSize)) 0 30
      = slice (buffer.drop offset) 0 30 := by
    rw [slice_slice buffer (by simp [metadataSize]), slice_drop]
  rw [hlen, if_neg hshort, if_neg hshort, unpackFrom_ok hfit]
  simp only [ok_bind, hserial, hbyte 30 (by decide), hbyte 31 (by decide), hbyte 32 (by decide),
    hbyte 33 (by decide), hbyte 34 (by decide), hbyte 35 (by decide), hbyte 36 (by decide)]
  unfold decodeMetadata DateTime.make
  split_ifs <;> rfl

/-- The acknowledgement at the front of a buffer. -/
def decodeWriteAck (w : Bytes) : GrowattModbusWriteAck where
  registerNo := u16At w 0
  status := u8At w 2
  value := u16At w 3

theorem GrowattModbusWriteAck.parseGrobro_eq (buffer : Bytes) (offset : ℕ) :
    GrowattModbusWriteAck.parseGrobro buffer offset =
      .ok (if (buffer.drop offset).length < writeSingleAckSize then none
        else some (decodeWriteAck (buffer.drop offset))) := by
  unfold GrowattModbusWriteAck.parseGrobro
  have hlen : (buffer.drop offset).length = buffer.length - offset := List.length_drop
  by_cases hshort : buffer.length - offset < writeSingleAckSize
  · rw [hlen, if_pos hshort, if_pos hshort]
  have hfit : offset + writeSingleAckSize ≤ buffer.length := by
    simp only [writeSingleAckSize] at hshort ⊢
    omega
  rw [hlen, if_neg hshort, if_neg hshort, unpackFrom_ok hfit]
  simp only [ok_bind, decodeWriteAck, pure_eq_ok, catching_ok, u16At_drop, u8At_drop]
  rw [u16At_slice buffer (by simp [writeSingleAckSize]),
    u16At_slice buffer (by simp [writeSingleAckSize]),
    u8At_slice buffer (by simp [writeSingleAckSize])]

/-- What follows the metadata, read as a message. -/
def decodePayload (w : Bytes) (unknown : ℕ) (deviceId : PyStr) (function : GrowattModbusFunction)
    (metadata : Option GrowattMetadata) : Option GrowattModbusMessage :=
  if function = .presetSingleRegister then
    if w.length = writeSingleAckSize ∨ w.length = writeSingleAckSize + trailerSize then
      some { unknown, deviceId, metadata, function, registerBlocks := [],
             writeAck := some (decodeWriteAck w) }
    else none
  else
    let p := blockFormat.scan w
    if p.2.length = 0 ∨ p.2.length = trailerSize then
      some { unknown, deviceId, metadata, function, registerBlocks := p.1 }
    else none

theorem GrowattModbusMessage.parsePayload_eq {buffer : Bytes} {offset : ℕ}
    (ho : offset ≤ buffer.length) (unknown : ℕ) (deviceId : PyStr)
    (function : GrowattModbusFunction) (metadata : Option GrowattMetadata) :
    parsePayload buffer offset unknown deviceId function metadata =
      .ok (decodePayload (buffer.drop offset) unknown deviceId function metadata) := by
  unfold parsePayload decodePayload
  have hlen : (buffer.drop offset).length = buffer.length - offset := List.length_drop
  by_cases hf : function = .presetSingleRegister
  · rw [if_pos hf, if_pos hf, GrowattModbusWriteAck.parseGrobro_eq, hlen]
    by_cases hr : buffer.length - offset = writeSingleAckSize ∨
        buffer.length - offset = writeSingleAckSize + trailerSize
    · have hbad : ¬ (buffer.length - offset ≠ writeSingleAckSize ∧
          buffer.length - offset ≠ writeSingleAckSize + trailerSize) := by tauto
      have hlong : ¬ buffer.length - offset < writeSingleAckSize := by omega
      simp [if_neg hbad, if_pos hr, if_neg hlong]
    · have hbad : buffer.length - offset ≠ writeSingleAckSize ∧
          buffer.length - offset ≠ writeSingleAckSize + trailerSize := by tauto
      simp [if_pos hbad, if_neg hr]
  · rw [if_neg hf, if_neg hf, parseBlocks_eq ho]
    have hrest : (blockFormat.scan (buffer.drop offset)).2.length ≤ buffer.length := by
      have hs := congrArg List.length (blockFormat.scan_sound (buffer.drop offset)).2.1
      rw [List.length_append, hlen] at hs
      omega
    dsimp only
    generalize blockFormat.scan (buffer.drop offset) = p at hrest ⊢
    by_cases hshort : p.2.length < minBlockSize
    · rw [if_pos hshort]
      simp only [ok_bind, Nat.sub_sub_self hrest, pure_eq_ok]
      by_cases ht : p.2.length = 0 ∨ p.2.length = trailerSize
      · rw [if_pos ht, if_neg (by tauto)]
      · rw [if_neg ht, if_pos (by tauto)]
    -- no trailer is long enough to be taken for a block
    · have ht : ¬ (p.2.length = 0 ∨ p.2.length = trailerSize) := by
        simp only [minBlockSize, trailerSize] at hshort ⊢
        omega
      rw [if_neg hshort, if_neg ht]
      rfl

/-- The whole message, read without exceptions. -/
def decodeMessage (b : Bytes) : Option GrowattModbusMessage :=
  if b.length < headerSize then none
  else if u16At b 2 ≠ 7 then none
  else if u16At b 4 ≠ b.length - 8 then none
  else
    let deviceId := stripNul (decodeIgnore (slice b 8 38))
    (GrowattModbusFunction.ofValue? (u8At b 7)).bind fun function =>
      if function = .readInputRegister then
        if (b.drop headerSize).length < metadataSize then none
        else decodePayload (b.drop (headerSize + metadataSize)) (u16At b 0) deviceId function
          (some (decodeMetadata (b.drop headerSize)))
      else decodePayload (b.drop headerSize) (u16At b 0) deviceId function none

/-- **The parser never raises**, and what it returns is the pure decoder's
reading of the buffer. -/
theorem GrowattModbusMessage.parseGrobro_eq (b : Bytes) :
    GrowattModbusMessage.parseGrobro b = .ok (decodeMessage b) := by
  unfold GrowattModbusMessage.parseGrobro decodeMessage
  by_cases hshort : b.length < headerSize
  · simp [hshort]
  have hfit : 0 + headerSize ≤ b.length := by omega
  -- the fields read from the window of the header are those of the buffer
  have hword : ∀ k, k + 1 < headerSize → u16At (slice b 0 (0 + headerSize)) k = u16At b k := by
    intro k hk
    rw [u16At_slice b (by omega), Nat.zero_add]
  have hbyte : u8At (slice b 0 (0 + headerSize)) 7 = u8At b 7 := u8At_slice b (by decide)
  have hid : slice (slice b 0 (0 + headerSize)) 8 38 = slice b 8 38 :=
    slice_slice b (by decide)
  simp only [hshort, if_false, unpackFrom_ok hfit, ok_bind, hword 0 (by decide),
    hword 2 (by decide), hword 4 (by decide), hbyte, hid]
  by_cases h7 : u16At b 2 = 7
  case neg => simp [h7]
  by_cases hlen : u16At b 4 = b.length - 8
  case neg => simp [h7, hlen]
  simp only [h7, hlen, ne_eq, not_true_eq_false, if_false]
  rcases GrowattModbusFunction.ofValue? (u8At b 7) with - | function
  · rfl
  simp only [Option.bind_some]
  by_cases hf : function = .readInputRegister
  · rw [if_pos hf, if_pos hf, GrowattMetadata.parseGrobro_eq]
    by_cases hm : (b.drop headerSize).length < metadataSize
    · rw [if_pos hm, if_pos hm]
      rfl
    · have ho : headerSize + metadataSize ≤ b.length := by
        rw [List.length_drop] at hm
        omega
      simp only [if_neg hm, ok_bind, parsePayload_eq ho, catching_ok]
  · rw [if_neg hf, if_neg hf, parsePayload_eq (by omega), catching_ok]

/-! ### The wire grammar -/

/-- The bytes that hold the register blocks and the trailer: after the header,
and after the metadata of an input-register message. -/
def blockArea (function : GrowattModbusFunction) (b : Bytes) : Bytes :=
  b.drop (if function = .readInputRegister then headerSize + metadataSize else headerSize)

/-- The wire grammar of a message with a given function. -/
structure WireGrammar (b : Bytes) (function : GrowattModbusFunction) : Prop where
  header : headerSize ≤ b.length
  constant : u16At b 2 = 7
  length : u16At b 4 = b.length - 8
  known : GrowattModbusFunction.ofValue? (u8At b 7) = some function
  ack : function = .presetSingleRegister →
    b.length = headerSize + 5 ∨ b.length = headerSize + 7
  metadata : function = .readInputRegister → headerSize + metadataSize ≤ b.length
  blocks : function ≠ .presetSingleRegister →
    ∃ blocks trailer, BlockSplit (blockArea function b) blocks trailer

theorem decodePayload_isSome_iff (w : Bytes) (unknown : ℕ) (deviceId : PyStr)
    (function : GrowattModbusFunction) (metadata : Option GrowattMetadata) :
    (decodePayload w unknown deviceId function metadata).isSome ↔
      (function = .presetSingleRegister → w.length = 5 ∨ w.length = 7) ∧
      (function ≠ .presetSingleRegister → ∃ blocks trailer, BlockSplit w blocks trailer) := by
  unfold decodePayload
  by_cases hf : function = .presetSingleRegister
  · rw [if_pos hf]
    by_cases hl : w.length = writeSingleAckSize ∨ w.length = writeSingleAckSize + trailerSize
    · rw [if_pos hl]
      exact ⟨fun _ => ⟨fun _ => hl, fun h => absurd hf h⟩, fun _ => rfl⟩
    · rw [if_neg hl]
      exact ⟨by simp, fun h => absurd (h.1 hf) hl⟩
  · rw [if_neg hf]
    -- there is a split exactly if the scan leaves a trailer
    have hsplit : (∃ blocks trailer, BlockSplit w blocks trailer) ↔
        ((blockFormat.scan w).2.length = 0 ∨ (blockFormat.scan w).2.length = trailerSize) := by
      constructor
      · rintro ⟨blocks, trailer, h⟩
        obtain ⟨hs, ht⟩ := (blockSplit_iff_scan w blocks trailer).mp h
        rw [hs]
        exact ht
      · intro h
        exact ⟨_, _, (blockSplit_iff_scan w _ _).mpr ⟨rfl, h⟩⟩
    rw [hsplit]
    dsimp only
    split_ifs with ht
    · exact ⟨fun _ => ⟨fun h => absurd h hf, fun _ => ht⟩, fun _ => rfl⟩
    · exact ⟨by simp, fun h => absurd (h.2 hf) ht⟩

/-- The decoder accepts exactly the wire grammar. -/
theorem decodeMessage_isSome_iff (b : Bytes) :
    (decodeMessage b).isSome ↔ ∃ function, WireGrammar b function := by
  have hmeta : metadataSize = 37 := rfl
  have hhead : headerSize = 38 := rfl
  have hdrop : ∀ n, (b.drop n).length = b.length - n := fun n => List.length_drop
  unfold decodeMessage
  constructor
  · intro h
    by_cases hshort : b.length < headerSize
    · simp [hshort] at h
    by_cases h7 : u16At b 2 = 7
    case neg => simp [h7] at h
    by_cases hlen : u16At b 4 = b.length - 8
    case neg => simp [hlen] at h
    rw [if_neg hshort, if_neg (not_not.mpr h7), if_neg (not_not.mpr hlen)] at h
    obtain ⟨m, hm⟩ := Option.isSome_iff_exists.mp h
    obtain ⟨function, hf, hbody⟩ := Option.bind_eq_some_iff.mp hm
    refine ⟨function, Nat.not_lt.mp hshort, h7, hlen, hf, ?_, ?_, ?_⟩
    · rintro rfl
      rw [if_neg (by decide)] at hbody
      have hack := (decodePayload_isSome_iff _ _ _ _ _).mp (Option.isSome_of_eq_some hbody)
      have hl := hack.1 rfl
      rw [hdrop] at hl
      omega
    · rintro rfl
      rw [if_pos rfl] at hbody
      split_ifs at hbody with hshortMeta
      rw [hdrop] at hshortMeta
      omega
    · intro hne
      unfold blockArea
      by_cases hin : function = .readInputRegister
      · rw [if_pos hin] at hbody ⊢
        split_ifs at hbody
        exact ((decodePayload_isSome_iff _ _ _ _ _).mp (Option.isSome_of_eq_some hbody)).2 hne
      · rw [if_neg hin] at hbody ⊢
        exact ((decodePayload_isSome_iff _ _ _ _ _).mp (Option.isSome_of_eq_some hbody)).2 hne
  · rintro ⟨function, hg⟩
    rw [if_neg (Nat.not_lt.mpr hg.header), if_neg (not_not.mpr hg.constant),
      if_neg (not_not.mpr hg.length), hg.known]
    simp only [Option.bind_some]
    by_cases hin : function = .readInputRegister
    · have hm := hg.metadata hin
      rw [if_pos hin, if_neg (by rw [hdrop]; omega), decodePayload_isSome_iff]
      have hblocks := hg.blocks
      rw [blockArea, if_pos hin] at hblocks
      refine ⟨fun h => ?_, hblocks⟩
      rw [hin] at h
      cases h
    · rw [if_neg hin, decodePayload_isSome_iff]
      have hblocks := hg.blocks
      rw [blockArea, if_neg hin] at hblocks
      refine ⟨fun h => ?_, hblocks⟩
      have hl := hg.ack h
      rw [hdrop]
      omega

/-- What an accepted message says, field by field. -/
structure MessageFields (b : Bytes) (m : GrowattModbusMessage) : Prop where
  unknown : m.unknown = u16At b 0
  deviceId : m.deviceId = stripNul (decodeIgnore (slice b 8 38))
  metadata : m.metadata =
    if m.function = .readInputRegister then some (decodeMetadata (b.drop headerSize)) else none
  ack : m.function = .presetSingleRegister →
    m.registerBlocks = [] ∧ m.writeAck = some (decodeWriteAck (b.drop headerSize))
  blocks : m.function ≠ .presetSingleRegister → m.writeAck = none ∧
    ∃ trailer, BlockSplit (blockArea m.function b) m.registerBlocks trailer

theorem decodePayload_fields {w : Bytes} {unknown : ℕ} {deviceId : PyStr}
    {function : GrowattModbusFunction} {metadata : Option GrowattMetadata}
    {m : GrowattModbusMessage}
    (h : decodePayload w unknown deviceId function metadata = some m) :
    m.unknown = unknown ∧ m.deviceId = deviceId ∧ m.function = function ∧
      m.metadata = metadata ∧
      (function = .presetSingleRegister →
        m.registerBlocks = [] ∧ m.writeAck = some (decodeWriteAck w)) ∧
      (function ≠ .presetSingleRegister → m.writeAck = none ∧
        ∃ trailer, BlockSplit w m.registerBlocks trailer) := by
  unfold decodePayload at h
  by_cases hf : function = .presetSingleRegister
  · rw [if_pos hf] at h
    split_ifs at h
    obtain rfl := Option.some.inj h
    exact ⟨rfl, rfl, rfl, rfl, fun _ => ⟨rfl, rfl⟩, fun hne => absurd hf hne⟩
  · rw [if_neg hf] at h
    dsimp only at h
    split_ifs at h with ht
    obtain rfl := Option.some.inj h
    refine ⟨rfl, rfl, rfl, rfl, fun he => absurd he hf, fun _ => ⟨rfl, ?_⟩⟩
    exact ⟨_, (blockSplit_iff_scan w _ _).mpr ⟨rfl, ht⟩⟩

/-- An accepted buffer satisfies the grammar of its function, and the message
carries exactly its fields. -/
theorem decodeMessage_fields {b : Bytes} {m : GrowattModbusMessage}
    (h : decodeMessage b = some m) : WireGrammar b m.function ∧ MessageFields b m := by
  obtain ⟨function, hg⟩ := (decodeMessage_isSome_iff b).mp (Option.isSome_of_eq_some h)
  unfold decodeMessage at h
  rw [if_neg (Nat.not_lt.mpr hg.header), if_neg (not_not.mpr hg.constant),
    if_neg (not_not.mpr hg.length), hg.known] at h
  simp only [Option.bind_some] at h
  by_cases hin : function = .readInputRegister
  · rw [if_pos hin] at h
    split_ifs at h
    obtain ⟨hu, hd, hf, hm, hack, hblocks⟩ := decodePayload_fields h
    subst hf
    refine ⟨hg, hu, hd, by rw [hm, if_pos hin], ?_, ?_⟩
    · intro he
      rw [hin] at he
      cases he
    · rw [blockArea, if_pos hin]
      exact hblocks
  · rw [if_neg hin] at h
    obtain ⟨hu, hd, hf, hm, hack, hblocks⟩ := decodePayload_fields h
    subst hf
    refine ⟨hg, hu, hd, by rw [hm, if_neg hin], hack, ?_⟩
    rw [blockArea, if_neg hin]
    exact hblocks

/-- The same of what the parser accepts. -/
theorem parseGrobro_fields {b : Bytes} {m : GrowattModbusMessage}
    (h : GrowattModbusMessage.parseGrobro b = .ok (some m)) :
    WireGrammar b m.function ∧ MessageFields b m := by
  rw [GrowattModbusMessage.parseGrobro_eq] at h
  exact decodeMessage_fields (Except.ok.inj h)

/-- The function byte gives the function. -/
theorem WireGrammar.function_eq {b : Bytes} {function function' : GrowattModbusFunction}
    (h : WireGrammar b function) (hbyte : u8At b 7 = function'.value) : function = function' := by
  have hknown := h.known
  rw [hbyte, GrowattModbusFunction.ofValue?_value] at hknown
  exact (Option.some.inj hknown).symm

/-- Blocks that can be read are the ones that the parser reads. -/
theorem parseGrobro_of_split {b : Bytes} {function : GrowattModbusFunction}
    (hg : WireGrammar b function) (hset : function ≠ .presetSingleRegister)
    {blocks : List GrowattModbusBlock} {trailer : Bytes}
    (hsplit : BlockSplit (blockArea function b) blocks trailer) :
    ∃ m, GrowattModbusMessage.parseGrobro b = .ok (some m) ∧ m.registerBlocks = blocks := by
  obtain ⟨m, hm⟩ := Option.isSome_iff_exists.mp ((decodeMessage_isSome_iff b).mpr ⟨function, hg⟩)
  obtain ⟨hg', hfields⟩ := decodeMessage_fields hm
  obtain rfl : m.function = function := Option.some.inj (hg'.known.symm.trans hg.known)
  obtain ⟨-, trailer', hsplit'⟩ := hfields.blocks hset
  refine ⟨m, ?_, (blockSplit_unique hsplit' hsplit).1⟩
  rw [GrowattModbusMessage.parseGrobro_eq, hm]

end GroBro
