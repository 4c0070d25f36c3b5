/-
GroBro/EmbeddedBlock.lean

`grobro/grobro/noah_0103.py`: behind an opaque prefix a NOAH 0x0103 packet has a register
block that ends where the two-byte trailer begins.  `findEmbeddedRegisterBlock` is the
search of the source: it starts as late as the longest block allows, steps over every
other offset, keeps the best candidate so far and decodes only that one.

`exhaustiveBlock` is the search without any of this: all offsets, the ones that describe
a block, the first of the longest.  The two agree on every packet, and the block that is
found is what the packet has there (`embedded_search_exact`).
-/
import GroBro.PyText

namespace GroBro

open ByteCodec

/-! ### The search -/

structure EmbeddedRegisterBlock where
  /-- Counted from behind the serial. -/
  offset : ℕ
  start : ℕ
  end_ : ℕ
  values : List ℕ
  deriving DecidableEq, Repr

/-- `range(start, stop, 2)` -/
def rangeByTwo (start stop : ℕ) : List ℕ := List.range' start ((stop - start + 1) / 2) 2

/-- `struct.iter_unpack(">H", ...)`: `struct.error` if a byte is left over. -/
def iterUnpackU16 : Bytes → Except PyError (List ℕ)
  | [] => .ok []
  | [_] => .error .structError
  | hi :: lo :: rest => do return u16At [hi, lo] 0 :: (← iterUnpackU16 rest)

/-- `best` and `best_count` -/
structure BlockSearch where
  best : Option (ℕ × ℕ × ℕ)
  bestCount : ℕ
  deriving DecidableEq, Repr

/-- One turn of the loop over the offsets. -/
def searchStep (data : Bytes) (dataEnd : ℕ) (s : BlockSearch) (offset : ℕ) :
    Except PyError BlockSearch := do
  let w ← unpackFrom 4 data offset
  let start := u16At w 0
  let end_ := u16At w 2
  if end_ < start then return s
  let count := end_ - start + 1
  if 2048 < count ∨ offset + 4 + count * 2 ≠ dataEnd then return s
  if s.bestCount < count then return ⟨some (offset, start, end_), count⟩
  return s

def findEmbeddedRegisterBlock (decodedPacket : Bytes) :
    Except PyError (Option EmbeddedRegisterBlock) := do
  if decodedPacket.length < 24 + 30 + 6 + 2 then return none
  let data := decodedPacket.drop 54
  let dataEnd := data.length - 2
  -- `max(0, ...)` is the truncated difference
  let searchStart := dataEnd - 4 - 2048 * 2
  let searchStart := searchStart + (dataEnd - searchStart) % 2
  let s ← (rangeByTwo searchStart (dataEnd - 5)).foldlM (searchStep data dataEnd) ⟨none, 0⟩
  match s.best with
  | none => return none
  | some (offset, start, end_) =>
      let values ← iterUnpackU16 (slice data (offset + 4) dataEnd)
      return some ⟨offset, start, end_, values⟩

/-! ### The exhaustive search -/

/-- The registers that the two words at an offset describe, if the first is not greater. -/
def registerCount (region : Bytes) (offset : ℕ) : ℕ :=
  u16At region (offset + 2) - u16At region offset + 1

/-- The two words at an offset describe 1 to 2048 registers that end with the region. -/
def DescribesBlock (region : Bytes) (offset : ℕ) : Prop :=
  u16At region offset ≤ u16At region (offset + 2) ∧ registerCount region offset ≤ 2048 ∧
    offset + 4 + registerCount region offset * 2 = region.length

instance (region : Bytes) (offset : ℕ) : Decidable (DescribesBlock region offset) :=
  inferInstanceAs (Decidable (_ ∧ _ ∧ _))

/-- The block at an offset. -/
def blockAt (region : Bytes) (offset : ℕ) : EmbeddedRegisterBlock where
  offset
  start := u16At region offset
  end_ := u16At region (offset + 2)
  values := (List.range (registerCount region offset)).map fun i => u16At region (offset + 4 + 2 * i)

/-- The offsets of a region that describe a block. -/
def candidates (region : Bytes) : List ℕ :=
  (List.range region.length).filter fun offset => DescribesBlock region offset

/-- The bytes after the serial and before the trailer. -/
def searchRegion (decodedPacket : Bytes) : Bytes :=
  slice decodedPacket 54 (decodedPacket.length - 2)

/-- The first of the longest blocks, by looking everywhere. -/
def exhaustiveBlock (decodedPacket : Bytes) : Option EmbeddedRegisterBlock :=
  let region := searchRegion decodedPacket
  ((candidates region).argmax (registerCount region)).map (blockAt region)

/-- The bytes of a block. -/
def EmbeddedRegisterBlock.encode (block : EmbeddedRegisterBlock) : Bytes :=
  u16Bytes block.start ++ u16Bytes block.end_ ++ block.values.flatMap u16Bytes

/-! ### Words -/

/-- The words of a byte string of even length. -/
theorem iterUnpackU16_ok {b : Bytes} {n : ℕ} (h : b.length = 2 * n) :
    iterUnpackU16 b = .ok ((List.range n).map fun i => u16At b (2 * i)) := by
  induction n generalizing b with
  | zero =>
      obtain rfl := List.length_eq_zero_iff.mp h
      rfl
  | succ n ih =>
      match b, h with
      | hi :: lo :: rest, h =>
          have hrest : rest.length = 2 * n := by
            simp only [List.length_cons] at h
            omega
          have hword : ∀ i, u16At (hi :: lo :: rest) (2 * (i + 1)) = u16At rest (2 * i) := by
            intro i
            have hskip := u16At_append_right [hi, lo] rest (2 * i)
            rwa [show [hi, lo].length + 2 * i = 2 * (i + 1) by simp; omega] at hskip
          rw [iterUnpackU16, ih hrest, List.range_succ_eq_map, List.map_cons, List.map_map]
          have htail : (List.range n).map ((fun i => u16At (hi :: lo :: rest) (2 * i)) ∘ Nat.succ) =
              (List.range n).map fun i => u16At rest (2 * i) :=
            List.map_congr_left fun i _ => hword i
          rw [htail]
          rfl

/-- Writing back the words of a byte string. -/
theorem flatMap_u16Bytes_words {b : Bytes} {n : ℕ} (h : b.length = 2 * n) :
    ((List.range n).map fun i => u16At b (2 * i)).flatMap u16Bytes = b := by
  have hwords : ∀ m ≤ n, ((List.range m).map fun i => u16At b (2 * i)).flatMap u16Bytes =
      b.take (2 * m) := by
    intro m hm
    induction m with
    | zero => rfl
    | succ m ih =>
        have hword : u16Bytes (u16At b (2 * m)) = slice b (2 * m) (2 * m + 2) :=
          u16Bytes_u16At b (by omega)
        rw [List.range_succ, List.map_append, List.flatMap_append, ih (by omega), List.map_singleton,
          List.flatMap_singleton, hword]
        exact take_append_slice b (by omega)
  rw [hwords n (le_refl n), ← h, List.take_length]

/-! ### The loop -/

section Search

variable {data : Bytes} {dataEnd : ℕ}

/-- What the loop has found when the best candidate so far is at an offset. -/
def bestSearch (region : Bytes) : Option ℕ → BlockSearch
  | none => ⟨none, 0⟩
  | some offset =>
      ⟨some (offset, u16At region offset, u16At region (offset + 2)), registerCount region offset⟩

/-- A turn that reads inside the region compares the candidate with the best one. -/
theorem searchStep_ok (hend : dataEnd ≤ data.length) {offset : ℕ} (hoffset : offset + 4 ≤ dataEnd)
    (s : BlockSearch) :
    searchStep data dataEnd s offset = .ok
      (if DescribesBlock (data.take dataEnd) offset ∧
          s.bestCount < registerCount (data.take dataEnd) offset
        then bestSearch (data.take dataEnd) (some offset) else s) := by
  have hstart : u16At (slice data offset (offset + 4)) 0 = u16At (data.take dataEnd) offset := by
    have htake := u16At_slice data (show 0 + offset + 1 < dataEnd by omega)
    rw [slice_zero, Nat.zero_add] at htake
    rw [u16At_slice data (by omega), htake, Nat.add_zero]
  have hlast : u16At (slice data offset (offset + 4)) 2 = u16At (data.take dataEnd) (offset + 2) := by
    have htake := u16At_slice data (show 0 + (offset + 2) + 1 < dataEnd by omega)
    rw [slice_zero, Nat.zero_add] at htake
    rw [u16At_slice data (by omega), htake]
  have hlength : (data.take dataEnd).length = dataEnd := List.length_take_of_le hend
  have hcount : u16At (data.take dataEnd) (offset + 2) - u16At (data.take dataEnd) offset + 1 =
      registerCount (data.take dataEnd) offset := rfl
  rw [searchStep, unpackFrom_ok (by omega), ok_bind, hstart, hlast]
  dsimp only
  rw [hcount]
  by_cases hdescribes : DescribesBlock (data.take dataEnd) offset
  · obtain ⟨horder, hbound, hfit⟩ := hdescribes
    rw [if_neg (Nat.not_lt.mpr horder), if_neg (by omega)]
    by_cases hbest : s.bestCount < registerCount (data.take dataEnd) offset
    · rw [if_pos hbest, if_pos ⟨⟨horder, hbound, hfit⟩, hbest⟩]
      rfl
    · have hworse : ¬ (DescribesBlock (data.take dataEnd) offset ∧
          s.bestCount < registerCount (data.take dataEnd) offset) := fun h => hbest h.2
      rw [if_neg hbest, if_neg hworse]
      rfl
  · have hrejected : ¬ (DescribesBlock (data.take dataEnd) offset ∧
        s.bestCount < registerCount (data.take dataEnd) offset) := fun h => hdescribes h.1
    rw [if_neg hrejected]
    by_cases horder : u16At (data.take dataEnd) (offset + 2) < u16At (data.take dataEnd) offset
    · rw [if_pos horder]
      rfl
    · rw [if_neg horder]
      apply if_pos
      by_contra hfit
      exact hdescribes ⟨by omega, by omega, by omega⟩

/-- **The loop keeps the first of the longest candidates.** -/
theorem foldlM_searchStep (hend : dataEnd ≤ data.length) {offsets : List ℕ}
    (hoffsets : ∀ offset ∈ offsets, offset + 4 ≤ dataEnd) :
    offsets.foldlM (searchStep data dataEnd) ⟨none, 0⟩ = .ok
      (bestSearch (data.take dataEnd)
        ((offsets.filter fun offset => DescribesBlock (data.take dataEnd) offset).argmax
          (registerCount (data.take dataEnd)))) := by
  induction offsets using List.reverseRecOn with
  | nil => rfl
  | append_singleton offsets offset ih =>
      have hstep := searchStep_ok hend (hoffsets offset (by simp))
      rw [List.foldlM_append, ih fun o ho => hoffsets o (List.mem_append_left _ ho), ok_bind,
        List.foldlM_cons, hstep, ok_bind, List.foldlM_nil, pure_eq_ok, List.filter_append,
        List.filter_singleton]
      by_cases hdescribes : DescribesBlock (data.take dataEnd) offset
      · rw [decide_eq_true hdescribes, cond_true, List.argmax_concat]
        rcases (offsets.filter _).argmax (registerCount (data.take dataEnd)) with - | best
        · rw [if_pos ⟨hdescribes, Nat.succ_pos _⟩]
        · by_cases hbest : registerCount (data.take dataEnd) best <
              registerCount (data.take dataEnd) offset
          · rw [if_pos ⟨hdescribes, hbest⟩]
            exact congrArg (fun o => Except.ok (bestSearch _ o)) (if_pos hbest).symm
          · rw [if_neg fun h => hbest h.2]
            exact congrArg (fun o => Except.ok (bestSearch _ o)) (if_neg hbest).symm
      · rw [decide_eq_false hdescribes, cond_false, List.append_nil, if_neg fun h => hdescribes h.1]

end Search

/-! ### The offsets that are left out -/

theorem mem_rangeByTwo {start stop n : ℕ} :
    n ∈ rangeByTwo start stop ↔ start ≤ n ∧ n < stop ∧ (n - start) % 2 = 0 := by
  rw [rangeByTwo, List.mem_range']
  constructor
  · rintro ⟨i, hi, rfl⟩
    omega
  · rintro ⟨hstart, hstop, heven⟩
    exact ⟨(n - start) / 2, by omega, by omega⟩

/-- A block ends with the region, so it begins at an even distance from its end, has room
for one register and no more than 2048. -/
theorem DescribesBlock.offset_bounds {region : Bytes} {offset : ℕ}
    (h : DescribesBlock region offset) :
    region.length ≤ offset + 4 + 2048 * 2 ∧ offset + 6 ≤ region.length ∧
      (region.length - offset) % 2 = 0 := by
  obtain ⟨-, hcount, hfit⟩ := h
  have hpos : 1 ≤ registerCount region offset := Nat.le_add_left 1 _
  omega

/-- **Nothing is missed**: the offsets that the loop steps over describe no block. -/
theorem filter_searched (region : Bytes) :
    let searchStart := region.length - 4 - 2048 * 2
    let searchStart := searchStart + (region.length - searchStart) % 2
    (rangeByTwo searchStart (region.length - 5)).filter (fun offset => DescribesBlock region offset) =
      candidates region := by
  intro lower searchStart
  have hsorted := (List.pairwise_lt_range' (s := searchStart)
    (n := (region.length - 5 - searchStart + 1) / 2) 2).filter
      fun offset => decide (DescribesBlock region offset)
  apply hsorted.eq_of_mem_iff (List.pairwise_lt_range.filter _)
  intro offset
  show offset ∈ (rangeByTwo searchStart (region.length - 5)).filter _ ↔ _
  rw [List.mem_filter, List.mem_filter, mem_rangeByTwo, List.mem_range, decide_eq_true_eq]
  constructor
  · rintro ⟨⟨-, hstop, -⟩, hdescribes⟩
    exact ⟨by omega, hdescribes⟩
  · rintro ⟨-, hdescribes⟩
    have hbounds := hdescribes.offset_bounds
    refine ⟨⟨?_, ?_, ?_⟩, hdescribes⟩ <;> omega

/-! ### The result -/

/-- The block that is found is the one that is in the packet. -/
theorem encode_blockAt {region : Bytes} {offset : ℕ} (h : DescribesBlock region offset) :
    (blockAt region offset).encode = region.drop offset := by
  obtain ⟨horder, -, hfit⟩ := h
  have hvalues : (blockAt region offset).values = (List.range (registerCount region offset)).map
      fun i => u16At (region.drop (offset + 4)) (2 * i) :=
    List.map_congr_left fun i _ => (u16At_drop region (offset + 4) (2 * i)).symm
  have hlength : (region.drop (offset + 4)).length = 2 * registerCount region offset := by
    rw [List.length_drop]
    omega
  have hfirst : u16Bytes (blockAt region offset).start = slice region offset (offset + 2) :=
    u16Bytes_u16At region (by omega)
  have hsecond : u16Bytes (blockAt region offset).end_ = slice region (offset + 2) (offset + 4) :=
    u16Bytes_u16At region (by omega)
  rw [EmbeddedRegisterBlock.encode, hvalues, flatMap_u16Bytes_words hlength, hfirst, hsecond,
    slice_append_slice region (by omega) (by omega), slice_eq_take_drop, Nat.add_sub_cancel_left,
    ← List.drop_drop, List.take_append_drop]

/-- **What the search is for**: it finds what looking everywhere finds, and the block is
what the packet has between its offset and the trailer. -/
structure SearchExact (decodedPacket : Bytes) : Prop where
  exhaustive : findEmbeddedRegisterBlock decodedPacket = .ok (exhaustiveBlock decodedPacket)
  faithful : ∀ block, findEmbeddedRegisterBlock decodedPacket = .ok (some block) →
    block.encode = slice decodedPacket (54 + block.offset) (decodedPacket.length - 2)

theorem exhaustiveBlock_spec {decodedPacket : Bytes} {block : EmbeddedRegisterBlock}
    (h : exhaustiveBlock decodedPacket = some block) :
    block = blockAt (searchRegion decodedPacket) block.offset ∧
      DescribesBlock (searchRegion decodedPacket) block.offset := by
  obtain ⟨offset, hoffset, rfl⟩ := Option.map_eq_some_iff.mp h
  have hmem := List.argmax_mem hoffset
  rw [candidates, List.mem_filter, decide_eq_true_eq] at hmem
  exact ⟨rfl, hmem.2⟩

/-- Nothing fits into less than six bytes. -/
theorem exhaustiveBlock_of_short {decodedPacket : Bytes} (h : decodedPacket.length < 62) :
    exhaustiveBlock decodedPacket = none := by
  have hnone : candidates (searchRegion decodedPacket) = [] := by
    apply List.filter_eq_nil_iff.mpr
    intro offset _ hdescribes
    have hbounds := (of_decide_eq_true hdescribes).offset_bounds
    rw [searchRegion, length_slice] at hbounds
    omega
  rw [exhaustiveBlock, hnone]
  rfl

theorem take_drop_eq_searchRegion (decodedPacket : Bytes) :
    (decodedPacket.drop 54).take ((decodedPacket.drop 54).length - 2) =
      searchRegion decodedPacket := by
  rw [searchRegion, slice_eq_take_drop, List.length_drop, Nat.sub_right_comm]

/-- The best candidate is decoded as the block at its offset. -/
theorem iterUnpackU16_blockAt {region : Bytes} {offset : ℕ} (h : DescribesBlock region offset) :
    iterUnpackU16 (region.drop (offset + 4)) = .ok (blockAt region offset).values := by
  have hlength : (region.drop (offset + 4)).length = 2 * registerCount region offset := by
    have hfit := h.2.2
    rw [List.length_drop]
    omega
  have hwords : (List.range (registerCount region offset)).map
      (fun i => u16At (region.drop (offset + 4)) (2 * i)) = (blockAt region offset).values :=
    List.map_congr_left fun i _ => u16At_drop region (offset + 4) (2 * i)
  rw [iterUnpackU16_ok hlength, hwords]

theorem findEmbeddedRegisterBlock_eq (decodedPacket : Bytes) :
    findEmbeddedRegisterBlock decodedPacket = .ok (exhaustiveBlock decodedPacket) := by
  unfold findEmbeddedRegisterBlock
  by_cases hshort : decodedPacket.length < 24 + 30 + 6 + 2
  · rw [if_pos hshort, exhaustiveBlock_of_short hshort]
    rfl
  · rw [if_neg hshort]
    have hregion := take_drop_eq_searchRegion decodedPacket
    set data := decodedPacket.drop 54
    set dataEnd := data.length - 2
    have hend : dataEnd ≤ data.length := Nat.sub_le _ _
    have hlength : (searchRegion decodedPacket).length = dataEnd := by
      rw [← hregion]
      exact List.length_take_of_le hend
    have hsearched := filter_searched (searchRegion decodedPacket)
    rw [hlength] at hsearched
    have hoffsets : ∀ offset ∈ rangeByTwo
        (dataEnd - 4 - 2048 * 2 + (dataEnd - (dataEnd - 4 - 2048 * 2)) % 2) (dataEnd - 5),
        offset + 4 ≤ dataEnd := by
      intro offset hoffset
      have hbounds := mem_rangeByTwo.mp hoffset
      omega
    have hloop := foldlM_searchStep hend hoffsets
    rw [hregion, hsearched] at hloop
    show (List.foldlM (searchStep data dataEnd) ⟨none, 0⟩ _ >>= _) = _
    rw [hloop, ok_bind, exhaustiveBlock]
    rcases hbest : (candidates (searchRegion decodedPacket)).argmax
        (registerCount (searchRegion decodedPacket)) with - | offset
    · rfl
    · have hmem := List.argmax_mem hbest
      rw [candidates, List.mem_filter, decide_eq_true_eq] at hmem
      have hvalues : slice data (offset + 4) dataEnd =
          (searchRegion decodedPacket).drop (offset + 4) := by
        rw [← hregion]
        rfl
      show (iterUnpackU16 (slice data (offset + 4) dataEnd) >>= _) = _
      rw [hvalues, iterUnpackU16_blockAt hmem.2]
      rfl

/-- **The embedded-block search is the exhaustive one**, for every byte string. -/
theorem embedded_search_exact (decodedPacket : Bytes) : SearchExact decodedPacket where
  exhaustive := findEmbeddedRegisterBlock_eq decodedPacket
  faithful block hfound := by
    rw [findEmbeddedRegisterBlock_eq] at hfound
    obtain ⟨hblock, hdescribes⟩ := exhaustiveBlock_spec (Except.ok.inj hfound)
    have hencode := encode_blockAt hdescribes
    rw [← hblock] at hencode
    rw [hencode, searchRegion, slice, slice, List.drop_drop]

end GroBro
