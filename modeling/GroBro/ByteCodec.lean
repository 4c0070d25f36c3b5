/-
GroBro/ByteCodec.lean

Byte strings, slices and big-endian words: the part of Python's `bytes` and
`struct` that a fixed-layout wire format needs.  Nothing here knows any
particular format.

* `slice b i j` is `b[i:j]` for non-negative `i` and `j`;
* `u16Bytes` and `u16At` are the `H` field in network order, written and read
  at an offset; `u8At` reads the `B` field.

The two directions a format proof needs are `u16At_u16Bytes` (reading back what
was written) and `u16Bytes_u16At` (writing back what was read).  Reads commute
with `drop` and with appending on either side, so a layout is taken apart one
field at a time with the lemmas tagged `simp`.
-/
import Mathlib

namespace ByteCodec

/-- A byte string. -/
abbrev Bytes := List UInt8

/-! ### Slices -/

variable {α : Type*}

/-- `b[i:j]` for non-negative bounds: short if `b` is short. -/
def slice (b : List α) (i j : ℕ) : List α := (b.take j).drop i

theorem length_slice (b : List α) (i j : ℕ) :
    (slice b i j).length = min j b.length - i := by
  simp [slice]

/-- A slice inside the buffer has the length its bounds say. -/
theorem length_slice_of_le {b : List α} {i j : ℕ} (h : j ≤ b.length) :
    (slice b i j).length = j - i := by
  rw [length_slice, Nat.min_eq_left h]

@[simp] theorem slice_zero (b : List α) (j : ℕ) : slice b 0 j = b.take j := rfl

theorem slice_eq_take_drop (b : List α) (i j : ℕ) :
    slice b i j = (b.drop i).take (j - i) := by
  rw [slice, List.drop_take]

/-- Adjacent slices join. -/
theorem slice_append_slice (b : List α) {i j k : ℕ} (hij : i ≤ j) (hjk : j ≤ k) :
    slice b i j ++ slice b j k = slice b i k := by
  have hk : k - i = (j - i) + (k - j) := by omega
  rw [slice_eq_take_drop, slice_eq_take_drop, slice_eq_take_drop, hk, List.take_add,
    List.drop_drop, Nat.add_sub_cancel' hij]

theorem slice_append_drop (b : List α) {i j : ℕ} (h : i ≤ j) :
    slice b i j ++ b.drop j = b.drop i := by
  have hdrop : b.drop j = (b.drop i).drop (j - i) := by
    rw [List.drop_drop, Nat.add_sub_cancel' h]
  rw [slice_eq_take_drop, hdrop, List.take_append_drop]

theorem take_append_slice (b : List α) {i j : ℕ} (h : i ≤ j) :
    b.take i ++ slice b i j = b.take j := by
  have hs := slice_append_slice b (Nat.zero_le i) h
  simpa using hs

theorem slice_drop (b : List α) (n i j : ℕ) :
    slice (b.drop n) i j = slice b (n + i) (n + j) := by
  rw [slice_eq_take_drop, slice_eq_take_drop, List.drop_drop, Nat.add_sub_add_left]

theorem slice_append_right (a r : List α) (i j : ℕ) :
    slice (a ++ r) (a.length + i) (a.length + j) = slice r i j := by
  rw [← slice_drop, List.drop_left]

theorem slice_append_left (a r : List α) {i j : ℕ} (h : j ≤ a.length) :
    slice (a ++ r) i j = slice a i j := by
  rw [slice, slice, List.take_append_of_le_length h]

/-- The slice that skips exactly the first part and takes exactly the second. -/
theorem slice_append_mid (a m r : List α) {i j : ℕ} (hi : i = a.length)
    (hj : j = a.length + m.length) : slice (a ++ (m ++ r)) i j = m := by
  subst hi hj
  have h := slice_append_right a (m ++ r) 0 m.length
  rw [Nat.add_zero] at h
  rw [h, slice_zero, List.take_left]

theorem slice_slice (b : List α) {i j k l : ℕ} (h : i + l ≤ j) :
    slice (slice b i j) k l = slice b (i + k) (i + l) := by
  have hi : slice b i j = (b.take j).drop i := rfl
  rw [hi, slice_drop, slice, slice, List.take_take, Nat.min_eq_left h]

/-! ### One byte -/

/-- The `B` field at offset `i`. -/
def u8At (b : Bytes) (i : ℕ) : ℕ := (b.getD i 0).toNat

theorem u8At_lt (b : Bytes) (i : ℕ) : u8At b i < 256 := (b.getD i 0).toNat_lt

/-- The one byte a `B` field packs. -/
def u8Bytes (n : ℕ) : Bytes := [UInt8.ofNat n]

@[simp] theorem length_u8Bytes (n : ℕ) : (u8Bytes n).length = 1 := rfl

theorem u8At_drop (b : Bytes) (n i : ℕ) : u8At (b.drop n) i = u8At b (n + i) := by
  simp [u8At, List.getD_eq_getElem?_getD, List.getElem?_drop]

theorem u8At_slice (b : Bytes) {i j k : ℕ} (h : i + k < j) :
    u8At (slice b i j) k = u8At b (i + k) := by
  rw [slice, u8At_drop]
  simp [u8At, List.getD_eq_getElem?_getD, List.getElem?_take_of_lt h]

theorem u8At_append_right (a r : Bytes) (i : ℕ) :
    u8At (a ++ r) (a.length + i) = u8At r i := by
  rw [← u8At_drop, List.drop_left]

theorem u8At_append_left (a r : Bytes) {i : ℕ} (h : i < a.length) :
    u8At (a ++ r) i = u8At a i := by
  rw [u8At, u8At, List.getD_append _ _ _ _ h]

/-- Reading back a packed byte. -/
theorem u8At_u8Bytes {n : ℕ} (h : n < 256) (r : Bytes) : u8At (u8Bytes n ++ r) 0 = n := by
  simp [u8At, u8Bytes, Nat.mod_eq_of_lt h]

/-- Writing back a byte that was read. -/
theorem u8Bytes_u8At (b : Bytes) {i : ℕ} (h : i < b.length) :
    u8Bytes (u8At b i) = slice b i (i + 1) := by
  rw [slice_eq_take_drop, Nat.add_sub_cancel_left, List.drop_eq_getElem_cons h,
    List.take_succ_cons, List.take_zero, u8At, List.getD_eq_getElem b 0 h, u8Bytes,
    UInt8.ofNat_toNat]

/-! ### Two bytes, most significant first -/

/-- The `H` field at offset `i`, in network order. -/
def u16At (b : Bytes) (i : ℕ) : ℕ := u8At b i * 256 + u8At b (i + 1)

theorem u16At_lt (b : Bytes) (i : ℕ) : u16At b i < 65536 := by
  have h₁ := u8At_lt b i
  have h₂ := u8At_lt b (i + 1)
  unfold u16At
  omega

/-- The two bytes an `H` field packs. -/
def u16Bytes (n : ℕ) : Bytes := u8Bytes (n / 256) ++ u8Bytes (n % 256)

@[simp] theorem length_u16Bytes (n : ℕ) : (u16Bytes n).length = 2 := rfl

theorem u16At_drop (b : Bytes) (n i : ℕ) : u16At (b.drop n) i = u16At b (n + i) := by
  simp [u16At, u8At_drop, Nat.add_assoc]

theorem u16At_slice (b : Bytes) {i j k : ℕ} (h : i + k + 1 < j) :
    u16At (slice b i j) k = u16At b (i + k) := by
  have hlo : u8At (slice b i j) (k + 1) = u8At b (i + (k + 1)) := u8At_slice b (by omega)
  rw [u16At, u16At, u8At_slice b (by omega), hlo, Nat.add_assoc]

theorem u16At_append_right (a r : Bytes) (i : ℕ) :
    u16At (a ++ r) (a.length + i) = u16At r i := by
  rw [← u16At_drop, List.drop_left]

theorem u16At_append_left (a r : Bytes) {i : ℕ} (h : i + 1 < a.length) :
    u16At (a ++ r) i = u16At a i := by
  rw [u16At, u16At, u8At_append_left a r h, u8At_append_left a r (Nat.lt_of_succ_lt h)]

/-- Reading back a packed word. -/
theorem u16At_u16Bytes {n : ℕ} (h : n < 65536) (r : Bytes) :
    u16At (u16Bytes n ++ r) 0 = n := by
  have hhi : u8At (u16Bytes n ++ r) 0 = n / 256 := by
    rw [u16Bytes, List.append_assoc]
    exact u8At_u8Bytes (by omega) _
  have hlo : u8At (u16Bytes n ++ r) 1 = n % 256 := by
    rw [u16Bytes, List.append_assoc]
    exact (u8At_append_right (u8Bytes (n / 256)) _ 0).trans (u8At_u8Bytes (by omega) _)
  rw [u16At, hhi, hlo]
  omega

/-- Writing back a word that was read. -/
theorem u16Bytes_u16At (b : Bytes) {i : ℕ} (h : i + 2 ≤ b.length) :
    u16Bytes (u16At b i) = slice b i (i + 2) := by
  have hlo := u8At_lt b (i + 1)
  have hdiv : u16At b i / 256 = u8At b i := by unfold u16At; omega
  have hmod : u16At b i % 256 = u8At b (i + 1) := by unfold u16At; omega
  rw [u16Bytes, hdiv, hmod, u8Bytes_u8At b (by omega), u8Bytes_u8At b (by omega)]
  exact slice_append_slice b (by omega) (by omega)

/-- The word after a prefix of known length. -/
theorem u16At_mid (a r : Bytes) {n i : ℕ} (hn : n < 65536) (hi : i = a.length) :
    u16At (a ++ (u16Bytes n ++ r)) i = n := by
  subst hi
  exact (u16At_append_right a _ 0).trans (u16At_u16Bytes hn r)

/-- The byte after a prefix of known length. -/
theorem u8At_mid (a r : Bytes) {n i : ℕ} (hn : n < 256) (hi : i = a.length) :
    u8At (a ++ (u8Bytes n ++ r)) i = n := by
  subst hi
  exact (u8At_append_right a _ 0).trans (u8At_u8Bytes hn r)

/-! ### Skipping fields

A layout is read left to right: each lemma drops one field off the front and
lowers the offset by its width. -/

section Skip

variable (n : ℕ) (r : Bytes) (i j : ℕ)

@[simp] theorem u8At_u8Bytes_skip : u8At (u8Bytes n ++ r) (i + 1) = u8At r i := by
  rw [Nat.add_comm]
  exact u8At_append_right (u8Bytes n) r i

@[simp] theorem u8At_u16Bytes_skip : u8At (u16Bytes n ++ r) (i + 2) = u8At r i := by
  rw [Nat.add_comm]
  exact u8At_append_right (u16Bytes n) r i

@[simp] theorem u16At_u8Bytes_skip : u16At (u8Bytes n ++ r) (i + 1) = u16At r i := by
  rw [Nat.add_comm]
  exact u16At_append_right (u8Bytes n) r i

@[simp] theorem u16At_u16Bytes_skip : u16At (u16Bytes n ++ r) (i + 2) = u16At r i := by
  rw [Nat.add_comm]
  exact u16At_append_right (u16Bytes n) r i

@[simp] theorem slice_u8Bytes_skip :
    slice (u8Bytes n ++ r) (i + 1) (j + 1) = slice r i j := by
  rw [Nat.add_comm i, Nat.add_comm j]
  exact slice_append_right (u8Bytes n) r i j

@[simp] theorem slice_u16Bytes_skip :
    slice (u16Bytes n ++ r) (i + 2) (j + 2) = slice r i j := by
  rw [Nat.add_comm i, Nat.add_comm j]
  exact slice_append_right (u16Bytes n) r i j

variable {n r i j} {a : Bytes} {k : ℕ}

/-- Skip a field of known width. -/
theorem u16At_skip (h : a.length = k) : u16At (a ++ r) (k + i) = u16At r i := by
  subst h
  exact u16At_append_right a r i

end Skip

end ByteCodec
