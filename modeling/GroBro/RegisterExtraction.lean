/-
GroBro/RegisterExtraction.lean

`GrowattModbusMessage.get_data` with all that its positions can be, integers of
either sign, and with the path for a single block beside the loop.

A register is read in the first block that contains it and nowhere else, and only if
all its bytes are there (`getDataLoop_eq_some_iff`).  In a parsed message a block's
values stand where the blocks before it end (`drop_valuesStart`), so what is read is
a slice of the packet (`getData_exact`).
-/
import GroBro.ModbusRoundTrip
import GroBro.Registers

namespace GroBro

open ByteCodec

/-! ### `get_data` -/

/-- A register position as its class takes it. -/
structure SignedRegisterPosition where
  registerNo : ℤ
  offset : ℤ := 0
  size : ℤ := 2
  deriving DecidableEq, Repr

def GrowattRegisterPosition.signed (pos : GrowattRegisterPosition) : SignedRegisterPosition :=
  ⟨pos.registerNo, pos.offset, pos.size⟩

/-- A bound of a slice; a negative one counts from the end. -/
def sliceBound (b : Bytes) (k : ℤ) : ℕ := if k < 0 then (k + b.length).toNat else k.toNat

/-- `b[i:j]` -/
def signedSlice (b : Bytes) (i j : ℤ) : Bytes := slice b (sliceBound b i) (sliceBound b j)

/-- The block contains the register. -/
def GrowattModbusBlock.Contains (block : GrowattModbusBlock) (registerNo : ℤ) : Prop :=
  ¬ ((block.start : ℤ) > registerNo ∨ (block.end_ : ℤ) < registerNo)

instance (block : GrowattModbusBlock) (registerNo : ℤ) : Decidable (block.Contains registerNo) :=
  inferInstanceAs (Decidable (¬ _))

/-- The bytes at a position in a block that contains its register. -/
def GrowattModbusBlock.dataAt (block : GrowattModbusBlock) (pos : SignedRegisterPosition) :
    Option Bytes :=
  let blockPos := (pos.registerNo - block.start) * 2 + pos.offset
  let endPos := blockPos + pos.size
  if blockPos < 0 ∨ endPos > block.values.length then none
  else some (signedSlice block.values blockPos endPos)

/-- Where the bytes of a position start among the values of a block. -/
def SignedRegisterPosition.blockPos (pos : SignedRegisterPosition) (block : GrowattModbusBlock) :
    ℕ := ((pos.registerNo - block.start) * 2 + pos.offset).toNat

/-- A block that contains the register has the bytes if they do not run past its end. -/
theorem GrowattModbusBlock.dataAt_eq_some_iff {pos : SignedRegisterPosition}
    {block : GrowattModbusBlock} (hoffset : 0 ≤ pos.offset) (hsize : 0 ≤ pos.size)
    (hcontains : block.Contains pos.registerNo) {raw : Bytes} :
    block.dataAt pos = some raw ↔
      2 * (pos.registerNo - block.start) + pos.offset + pos.size ≤ block.values.length ∧
        raw = slice block.values (pos.blockPos block)
          (pos.blockPos block + pos.size.toNat) := by
  have hstart : (block.start : ℤ) ≤ pos.registerNo := by
    by_contra h
    exact hcontains (Or.inl (by omega))
  have hend : ((pos.registerNo - block.start) * 2 + pos.offset + pos.size).toNat
      = pos.blockPos block + pos.size.toNat := by
    rw [SignedRegisterPosition.blockPos]
    omega
  have hslice : signedSlice block.values ((pos.registerNo - block.start) * 2 + pos.offset)
      ((pos.registerNo - block.start) * 2 + pos.offset + pos.size)
        = slice block.values (pos.blockPos block) (pos.blockPos block + pos.size.toNat) := by
    rw [signedSlice, sliceBound, sliceBound, if_neg (by omega), if_neg (by omega), hend]
    rfl
  rw [GrowattModbusBlock.dataAt, hslice]
  split_ifs with hout
  · simp only [false_iff, not_and]
    intro hfits
    omega
  · rw [Option.some.injEq]
    constructor
    · rintro rfl
      exact ⟨by omega, rfl⟩
    · rintro ⟨-, rfl⟩
      rfl

namespace GrowattModbusMessage

/-- The loop over the blocks. -/
def getDataLoop (pos : SignedRegisterPosition) : List GrowattModbusBlock → Option Bytes
  | [] => none
  | block :: blocks =>
      if block.Contains pos.registerNo then block.dataAt pos else getDataLoop pos blocks

/-- `get_data`, with its path for a single block. -/
def getDataSigned (m : GrowattModbusMessage) (pos : SignedRegisterPosition) : Option Bytes :=
  match m.registerBlocks with
  | [block] => if block.Contains pos.registerNo then block.dataAt pos else none
  | blocks => getDataLoop pos blocks

/-- The path for a single block is the loop. -/
theorem getDataSigned_eq_loop (m : GrowattModbusMessage) (pos : SignedRegisterPosition) :
    m.getDataSigned pos = getDataLoop pos m.registerBlocks := by
  unfold getDataSigned
  rcases m.registerBlocks with - | ⟨block, - | ⟨block', blocks⟩⟩
  · rfl
  · rfl
  · rfl

/-! ### The first block that contains the register -/

theorem getDataLoop_eq_some_iff {pos : SignedRegisterPosition} {blocks : List GrowattModbusBlock}
    {raw : Bytes} :
    getDataLoop pos blocks = some raw ↔
      ∃ before block after, blocks = before ++ block :: after ∧
        (∀ x ∈ before, ¬ x.Contains pos.registerNo) ∧ block.Contains pos.registerNo ∧
        block.dataAt pos = some raw := by
  induction blocks with
  | nil => simp [getDataLoop]
  | cons first blocks ih =>
      rw [getDataLoop]
      split_ifs with hfirst
      · constructor
        · intro h
          exact ⟨[], first, blocks, rfl, by simp, hfirst, h⟩
        · rintro ⟨- | ⟨x, before⟩, block, after, hsplit, hbefore, -, h⟩
          · obtain ⟨rfl, rfl⟩ := List.cons.inj hsplit
            exact h
          · obtain ⟨rfl, -⟩ := List.cons.inj hsplit
            exact absurd hfirst (hbefore first List.mem_cons_self)
      · rw [ih]
        constructor
        · rintro ⟨before, block, after, rfl, hbefore, hcontains, h⟩
          refine ⟨first :: before, block, after, rfl, ?_, hcontains, h⟩
          exact List.forall_mem_cons.mpr ⟨hfirst, hbefore⟩
        · rintro ⟨- | ⟨x, before⟩, block, after, hsplit, hbefore, hcontains, h⟩
          · obtain ⟨rfl, -⟩ := List.cons.inj hsplit
            exact absurd hcontains hfirst
          · obtain ⟨rfl, rfl⟩ := List.cons.inj hsplit
            exact ⟨before, block, after, rfl,
              fun x hx => hbefore x (List.mem_cons_of_mem _ hx), hcontains, h⟩

/-- On positions from zero on it is the extraction that the register decoders use. -/
theorem getData_eq_signed (m : GrowattModbusMessage) (pos : GrowattRegisterPosition) :
    m.getData pos = m.getDataSigned pos.signed := by
  rw [getDataSigned_eq_loop, getData]
  induction m.registerBlocks with
  | nil => rfl
  | cons block blocks ih =>
      have hcontains : block.Contains pos.signed.registerNo ↔
          ¬ (block.start > pos.registerNo ∨ block.end_ < pos.registerNo) := by
        show ¬ ((block.start : ℤ) > pos.registerNo ∨ (block.end_ : ℤ) < pos.registerNo) ↔ _
        omega
      rw [getData.go, getDataLoop, ih]
      by_cases hin : block.Contains pos.signed.registerNo
      · rw [if_pos hin, if_neg (hcontains.mp hin)]
        have hstart := not_or.mp (hcontains.mp hin)
        have hblockPos : pos.signed.blockPos block =
            (pos.registerNo - block.start) * 2 + pos.offset := by
          show (((pos.registerNo : ℤ) - block.start) * 2 + pos.offset).toNat = _
          omega
        ext raw
        have hfits : 2 * (pos.signed.registerNo - block.start) + pos.signed.offset +
            pos.signed.size ≤ block.values.length ↔
              ¬ (pos.registerNo - block.start) * 2 + pos.offset + pos.size >
                block.values.length := by
          show 2 * ((pos.registerNo : ℤ) - block.start) + pos.offset + pos.size ≤ _ ↔ _
          omega
        have hsize : pos.signed.size.toNat = pos.size := rfl
        rw [block.dataAt_eq_some_iff (Int.natCast_nonneg _) (Int.natCast_nonneg _) hin, hblockPos,
          hfits, hsize]
        dsimp only
        split_ifs with hout
        · simp [hout]
        · simp [hout, eq_comm]
      · rw [if_neg hin, if_pos (by tauto)]

/-! ### Where the bytes stand in the packet -/

/-- Where the values of a block start in the packet: behind the header, the blocks
before it and its own range. -/
def valuesStart (m : GrowattModbusMessage) (before : List GrowattModbusBlock) : ℕ :=
  (if m.function = .readInputRegister then headerSize + metadataSize else headerSize) +
    (before.map GrowattModbusBlock.size).sum + blockHeaderSize

/-- The values of a block in the packet that it was parsed from. -/
theorem drop_valuesStart {b : Bytes} {m : GrowattModbusMessage} (h : parseGrobro b = .ok (some m))
    {before after : List GrowattModbusBlock} {block : GrowattModbusBlock}
    (hsplit : m.registerBlocks = before ++ block :: after) :
    ∃ rest, b.drop (m.valuesStart before) = block.values ++ rest := by
  obtain ⟨-, hm⟩ := parseGrobro_fields h
  have hfunction : m.function ≠ .presetSingleRegister := by
    intro he
    rw [(hm.ack he).1] at hsplit
    simp at hsplit
  obtain ⟨-, trailer, hs⟩ := hm.blocks hfunction
  refine ⟨blockFormat.encodeAll after ++ trailer, ?_⟩
  have hhead :
      (blockFormat.encodeAll before ++ (u16Bytes block.start ++ u16Bytes block.end_)).length =
        (before.map GrowattModbusBlock.size).sum + blockHeaderSize := by
    rw [List.length_append, length_encodeAll_blocks]
    simp [blockHeaderSize]
  have hwire : blockArea m.function b =
      (blockFormat.encodeAll before ++ (u16Bytes block.start ++ u16Bytes block.end_)) ++
        (block.values ++ (blockFormat.encodeAll after ++ trailer)) := by
    rw [hs.split, hsplit, Framing.Format.encodeAll_append, Framing.Format.encodeAll_cons]
    simp [blockFormat, GrowattModbusBlock.wire]
  rw [valuesStart, Nat.add_assoc, ← List.drop_drop, ← hhead]
  show (blockArea m.function b).drop _ = _
  rw [hwire]
  exact List.drop_left

/-- What lies inside a block is a slice of the packet. -/
theorem slice_valuesStart {b : Bytes} {m : GrowattModbusMessage}
    (h : parseGrobro b = .ok (some m)) {before after : List GrowattModbusBlock}
    {block : GrowattModbusBlock} (hsplit : m.registerBlocks = before ++ block :: after) {i j : ℕ}
    (hj : j ≤ block.values.length) :
    slice block.values i j = slice b (m.valuesStart before + i) (m.valuesStart before + j) := by
  obtain ⟨rest, hrest⟩ := drop_valuesStart h hsplit
  rw [← slice_drop, hrest, slice_append_left _ _ hj]

/-- **Register extraction never crosses a block.**  From a parsed packet a position
that does not go backwards is read exactly if some block contains its register and
the first such block has all its bytes; what is read is the slice of the packet at
that block's values.  The path for a single block is the loop, and the positions of the
register maps are read so. -/
theorem getData_exact :
    (∀ b m pos raw, parseGrobro b = .ok (some m) → 0 ≤ pos.offset → 0 ≤ pos.size →
      (m.getDataSigned pos = some raw ↔
        ∃ before block after, m.registerBlocks = before ++ block :: after ∧
          (∀ x ∈ before, ¬ x.Contains pos.registerNo) ∧ block.Contains pos.registerNo ∧
          2 * (pos.registerNo - block.start) + pos.offset + pos.size ≤ block.values.length ∧
          raw = slice b (m.valuesStart before + pos.blockPos block)
            (m.valuesStart before + (pos.blockPos block + pos.size.toNat))) ∧
      (m.getDataSigned pos = some raw → (raw.length : ℤ) = pos.size)) ∧
    (∀ b m before block after, parseGrobro b = .ok (some m) →
      m.registerBlocks = before ++ block :: after →
      slice b (m.valuesStart before) (m.valuesStart before + block.values.length)
        = block.values) ∧
    (∀ (m : GrowattModbusMessage) block pos, m.registerBlocks = [block] →
      m.getDataSigned pos = getDataLoop pos m.registerBlocks) ∧
    (∀ (m : GrowattModbusMessage) (pos : GrowattRegisterPosition),
      m.getData pos = m.getDataSigned pos.signed) := by
  refine ⟨?_, ?_, fun m _ pos _ => m.getDataSigned_eq_loop pos, getData_eq_signed⟩
  · intro b m pos raw h hoffset hsize
    -- the end of the position lies in the block that contains its register
    have hend : ∀ block : GrowattModbusBlock, block.Contains pos.registerNo →
        2 * (pos.registerNo - block.start) + pos.offset + pos.size ≤ block.values.length →
        pos.blockPos block + pos.size.toNat ≤ block.values.length := by
      intro block hcontains hfits
      have hstart := not_or.mp hcontains
      rw [SignedRegisterPosition.blockPos]
      omega
    rw [getDataSigned_eq_loop, getDataLoop_eq_some_iff]
    refine ⟨?_, ?_⟩
    · constructor
      · rintro ⟨before, block, after, hsplit, hbefore, hcontains, hdata⟩
        obtain ⟨hfits, rfl⟩ := (block.dataAt_eq_some_iff hoffset hsize hcontains).mp hdata
        exact ⟨before, block, after, hsplit, hbefore, hcontains, hfits,
          slice_valuesStart h hsplit (hend block hcontains hfits)⟩
      · rintro ⟨before, block, after, hsplit, hbefore, hcontains, hfits, rfl⟩
        refine ⟨before, block, after, hsplit, hbefore, hcontains, ?_⟩
        refine (block.dataAt_eq_some_iff hoffset hsize hcontains).mpr ⟨hfits, ?_⟩
        exact (slice_valuesStart h hsplit (hend block hcontains hfits)).symm
    · rintro ⟨before, block, after, hsplit, hbefore, hcontains, hdata⟩
      obtain ⟨hfits, rfl⟩ := (block.dataAt_eq_some_iff hoffset hsize hcontains).mp hdata
      rw [length_slice_of_le (hend block hcontains hfits)]
      omega
  · intro b m before block after h hsplit
    have hslice := slice_valuesStart h hsplit (i := 0) (Nat.le_refl block.values.length)
    rw [slice_zero, List.take_length] at hslice
    exact hslice.symm

/-- Register 7 of a message whose first block does not contain it. -/
theorem getData_exact_secondBlock :
    ∃ b, parseGrobro b = .ok (some twoBlockMessage) ∧
      twoBlockMessage.getDataSigned ⟨7, 0, 2⟩ = some (slice b 87 89) := by
  obtain ⟨hread, -⟩ := getData_exact
  have hparse := parseGrobro_buildGrobro twoBlockMessage twoBlockMessage_wellFormed [0, 0] rfl
  obtain ⟨b, -, h⟩ := hparse
  refine ⟨_, h, ?_⟩
  refine (hread _ _ ⟨7, 0, 2⟩ _ h (by decide) (by decide)).1.mpr
    ⟨[⟨3000, 3001, [1, 2, 3, 4]⟩], ⟨7, 7, [5, 6]⟩, [], rfl, by decide, by decide, by decide, rfl⟩

end GrowattModbusMessage

end GroBro
