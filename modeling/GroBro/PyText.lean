/-
GroBro/PyText.lean

Python's `str`, its ASCII codec and its exceptions, as far as the bridge uses
them.  A `str` is a list of characters.  `strip` removes Python's white space
(the exact set of `str.isspace`), `stripNul` removes NUL characters, and `splitlines` splits
at Python's line breaks.

The character classes of the interpreter's Unicode database that the code asks
for are the class `PyUnicode`: nothing beyond ASCII is fixed, except that no
alphanumeric character is white space.  Its lower case is the class `PyLower`.
-/
import GroBro.ByteCodec

namespace GroBro

open ByteCodec

/-- A Python `str`. -/
abbrev PyStr := List Char

/-- `in` compares texts with `==`. -/
instance : LawfulBEq PyStr := inferInstance

/-- The exception classes the modelled code raises or catches. -/
inductive PyError where
  | structError
  | valueError
  | typeError
  | overflowError
  | osError
  deriving DecidableEq, Repr

section Except

universe u v

variable {α β : Type u} {ε : Type v}

@[simp] theorem ok_bind (a : α) (f : α → Except ε β) : (Except.ok a >>= f) = f a := rfl

@[simp] theorem pure_eq_ok (a : α) : (pure a : Except ε α) = Except.ok a := rfl

end Except

/-- `try: x except handled: fallback`. -/
def catching {α : Type*} (handled : List PyError) (fallback : α) (x : Except PyError α) :
    Except PyError α :=
  match x with
  | .ok a => .ok a
  | .error e => if e ∈ handled then .ok fallback else .error e

@[simp] theorem catching_ok {α : Type*} (handled : List PyError) (fallback a : α) :
    catching handled fallback (.ok a) = .ok a := rfl

/-! ### `struct` -/

/-- `Struct.unpack_from`: the window of `size` bytes at `offset`, from which the
fields are read, or `struct.error` when the buffer is too short. -/
def unpackFrom (size : ℕ) (buffer : Bytes) (offset : ℕ) : Except PyError Bytes :=
  if buffer.length < offset + size then .error .structError
  else .ok (slice buffer offset (offset + size))

theorem unpackFrom_ok {size offset : ℕ} {buffer : Bytes} (h : offset + size ≤ buffer.length) :
    unpackFrom size buffer offset = .ok (slice buffer offset (offset + size)) :=
  if_neg (by omega)

/-- Packing a `B` field. -/
def packU8 (n : ℕ) : Except PyError Bytes :=
  if n < 256 then .ok (u8Bytes n) else .error .structError

/-- Packing an `H` field. -/
def packU16 (n : ℕ) : Except PyError Bytes :=
  if n < 65536 then .ok (u16Bytes n) else .error .structError

theorem packU8_ok {n : ℕ} (h : n < 256) : packU8 n = .ok (u8Bytes n) := if_pos h

theorem packU16_ok {n : ℕ} (h : n < 65536) : packU16 n = .ok (u16Bytes n) := if_pos h

/-! ### White space and alphanumerics -/

/-- `str.isspace` of one character. -/
def isSpace (c : Char) : Bool :=
  let n := c.toNat
  (9 ≤ n && n ≤ 13) || (28 ≤ n && n ≤ 32) || n == 0x85 || n == 0xA0 || n == 0x1680 ||
    (0x2000 ≤ n && n ≤ 0x200A) || n == 0x2028 || n == 0x2029 || n == 0x202F ||
    n == 0x205F || n == 0x3000

/-- The NUL character. -/
def nul : Char := Char.ofNat 0

/-- `str.isalnum` and the decimal value of one character, by the interpreter's
Unicode database. -/
class PyUnicode where
  isAlnum : Char → Bool
  decimal : Char → Option ℕ
  ascii : ∀ c : Char, c.toNat < 128 → isAlnum c = c.isAlphanum
  decimal_ascii : ∀ c : Char, c.toNat < 128 →
    decimal c = if c.isDigit then some (c.toNat - 48) else none
  not_space : ∀ c, isAlnum c = true → isSpace c = false

/-- An ASCII letter or digit, by code point. -/
theorem toNat_of_isAlphanum {c : Char} (h : c.isAlphanum = true) :
    ((65 ≤ c.toNat ∧ c.toNat ≤ 90) ∨ (97 ≤ c.toNat ∧ c.toNat ≤ 122)) ∨
      (48 ≤ c.toNat ∧ c.toNat ≤ 57) := by
  simp only [Char.isAlphanum, Char.isAlpha, Char.isUpper, Char.isLower, Char.isDigit,
    Bool.or_eq_true, Bool.and_eq_true, decide_eq_true_eq, UInt32.le_iff_toNat_le, ge_iff_le] at h
  exact h

/-- The database that knows no character beyond ASCII. -/
@[reducible] def PyUnicode.asciiOnly : PyUnicode where
  isAlnum c := decide (c.toNat < 128) && c.isAlphanum
  decimal c := if c.isDigit then some (c.toNat - 48) else none
  ascii c h := by simp [h]
  decimal_ascii _ _ := rfl
  not_space c h := by
    rw [Bool.and_eq_true, decide_eq_true_eq] at h
    have hc := toNat_of_isAlphanum h.2
    simp only [isSpace, Bool.or_eq_false_iff, Bool.and_eq_false_iff, decide_eq_false_iff_not,
      beq_eq_false_iff_ne]
    omega

/-! ### Stripping -/

/-- Remove the characters of a class from both ends. -/
def stripBy (p : Char → Bool) (s : PyStr) : PyStr := (s.dropWhile p).rdropWhile p

/-- `str.strip()`. -/
def strip (s : PyStr) : PyStr := stripBy isSpace s

/-- `str.strip("\x00")`. -/
def stripNul (s : PyStr) : PyStr := stripBy (· == nul) s

/-- No character of the class at either end. -/
def Trimmed (p : Char → Bool) (s : PyStr) : Prop :=
  (∀ c ∈ s.head?, p c = false) ∧ (∀ c ∈ s.getLast?, p c = false)

instance (p : Char → Bool) (s : PyStr) : Decidable (Trimmed p s) :=
  @instDecidableAnd _ _ (Option.decidableForallMem s.head?) (Option.decidableForallMem s.getLast?)

variable {p : Char → Bool} {s : PyStr}

theorem dropWhile_eq_self (h : ∀ c ∈ s.head?, p c = false) : s.dropWhile p = s := by
  cases s with
  | nil => rfl
  | cons c t => simp [h c (by simp)]

theorem rdropWhile_eq_self (h : ∀ c ∈ s.getLast?, p c = false) : s.rdropWhile p = s := by
  rw [List.rdropWhile_eq_self_iff]
  intro hne
  simp [h _ (List.getLast?_eq_some_getLast hne)]

theorem stripBy_eq_self (h : Trimmed p s) : stripBy p s = s := by
  rw [stripBy, dropWhile_eq_self h.1, rdropWhile_eq_self h.2]

/-- Padding at the right end goes, the string itself stays. -/
theorem stripBy_append_replicate (h : Trimmed p s) {c : Char} (hc : p c = true) (n : ℕ) :
    stripBy p (s ++ List.replicate n c) = s := by
  have hr : List.rdropWhile p (s ++ List.replicate n c) = s := by
    induction n with
    | zero => simp [rdropWhile_eq_self h.2]
    | succ n ih =>
        rw [List.replicate_succ', ← List.append_assoc, List.rdropWhile_concat_pos _ _ _ hc, ih]
  cases s with
  | nil =>
      have hd : List.dropWhile p (List.replicate n c) = [] := by
        simp [hc]
      rw [List.nil_append, stripBy, hd]
      rfl
  | cons a t =>
      have ha : p a = false := h.1 a (by simp)
      have hd : (a :: t ++ List.replicate n c).dropWhile p = a :: t ++ List.replicate n c :=
        dropWhile_eq_self (by simpa using ha)
      rw [stripBy, hd, hr]

/-- A stripped string has no character of the class at its ends. -/
theorem trimmed_stripBy (p : Char → Bool) (s : PyStr) : Trimmed p (stripBy p s) := by
  have hlast : ∀ c ∈ (stripBy p s).getLast?, p c = false := by
    intro c hc
    have hne : stripBy p s ≠ [] := by
      intro e
      simp [e] at hc
    rw [List.getLast?_eq_some_getLast hne, Option.mem_some_iff] at hc
    subst hc
    have hnot := List.rdropWhile_last_not p _ hne
    exact Bool.eq_false_iff.mpr hnot
  refine ⟨?_, hlast⟩
  intro c hc
  -- the first character survives both passes, so it is the first one `dropWhile` kept
  obtain ⟨t, ht⟩ : ∃ t, stripBy p s = c :: t := by
    cases e : stripBy p s with
    | nil => simp [e] at hc
    | cons a t =>
        rw [e, List.head?_cons, Option.mem_some_iff] at hc
        exact ⟨t, by rw [hc]⟩
  obtain ⟨u, hu⟩ := List.rdropWhile_prefix p (s.dropWhile p)
  rw [← stripBy, ht, List.cons_append] at hu
  have hne : s.dropWhile p ≠ [] := by simp [← hu]
  have hnot := List.dropWhile_get_zero_not p s (List.length_pos_of_ne_nil hne)
  simpa [← hu] using hnot

/-- Stripping only removes characters. -/
theorem mem_of_mem_stripBy {c : Char} (h : c ∈ stripBy p s) : c ∈ s :=
  (List.dropWhile_suffix p).subset ((List.rdropWhile_prefix p _).subset h)

/-- Stripping a class that does not occur does nothing. -/
theorem stripBy_of_not_mem (h : ∀ c ∈ s, p c = false) : stripBy p s = s :=
  stripBy_eq_self ⟨fun c hc => h c (List.mem_of_mem_head? hc),
    fun c hc => h c (List.mem_of_mem_getLast? hc)⟩

theorem strip_strip (s : PyStr) : strip (strip s) = strip s :=
  stripBy_eq_self (trimmed_stripBy isSpace s)

/-- What stripping leaves, and what it takes away at both ends. -/
theorem exists_stripBy (p : Char → Bool) (s : PyStr) :
    ∃ a b, s = a ++ (stripBy p s ++ b) ∧ (∀ c ∈ a, p c = true) ∧ ∀ c ∈ b, p c = true := by
  refine ⟨s.takeWhile p, (s.dropWhile p).rtakeWhile p, ?_, ?_, ?_⟩
  · rw [stripBy, List.rdropWhile_append_rtakeWhile, List.takeWhile_append_dropWhile]
  · intro c hc
    exact List.mem_takeWhile_imp hc
  · intro c hc
    exact List.mem_rtakeWhile_imp hc

/-- Stripping commutes with a map that keeps the class. -/
theorem stripBy_map {f : Char → Char} (h : ∀ c, p (f c) = p c) (s : PyStr) :
    stripBy p (s.map f) = (stripBy p s).map f := by
  have hcomp : p ∘ f = p := funext h
  have hdrop : ∀ l : PyStr, (l.map f).dropWhile p = (l.dropWhile p).map f := by
    intro l
    rw [List.dropWhile_map, hcomp]
  rw [stripBy, stripBy, List.rdropWhile, List.rdropWhile, hdrop, ← List.map_reverse, hdrop,
    List.map_reverse]

/-! ### The ASCII codec -/

/-- Every character is ASCII. -/
def IsAscii (s : PyStr) : Prop := ∀ c ∈ s, c.toNat < 128

instance (s : PyStr) : Decidable (IsAscii s) :=
  List.decidableBAll (fun c : Char => c.toNat < 128) s

/-- The bytes of an ASCII string. -/
def asciiBytes (s : PyStr) : Bytes := s.map fun c => UInt8.ofNat c.toNat

/-- `str.encode("ascii")`: `UnicodeEncodeError` is a `ValueError`. -/
def encodeAscii (s : PyStr) : Except PyError Bytes :=
  if IsAscii s then .ok (asciiBytes s) else .error .valueError

/-- The character of an ASCII byte. -/
def asciiChar (b : UInt8) : Char := Char.ofNat b.toNat

/-- `bytes.decode("ascii", errors="ignore")`. -/
def decodeIgnore (b : Bytes) : PyStr := (b.filter (·.toNat < 128)).map asciiChar

/-- `bytes.decode("ascii", errors="replace")`. -/
def decodeReplace (b : Bytes) : PyStr :=
  b.map fun x => if x.toNat < 128 then asciiChar x else Char.ofNat 0xFFFD

/-- `bytes.decode("ascii")`: `UnicodeDecodeError` is a `ValueError`. -/
def decodeAscii (b : Bytes) : Except PyError PyStr :=
  if b.all (·.toNat < 128) then .ok (b.map asciiChar) else .error .valueError

/-- `bytes.rstrip(b"\x00")`. -/
def rstripNul (b : Bytes) : Bytes := b.rdropWhile (· == 0)

/-- `bytes.ljust(n, b"\x00")`. -/
def ljustNul (n : ℕ) (b : Bytes) : Bytes := b ++ List.replicate (n - b.length) 0

@[simp] theorem length_asciiBytes (s : PyStr) : (asciiBytes s).length = s.length :=
  List.length_map _

theorem length_ljustNul {n : ℕ} {b : Bytes} (h : b.length ≤ n) : (ljustNul n b).length = n := by
  simp [ljustNul, Nat.add_sub_cancel' h]

theorem encodeAscii_ok (h : IsAscii s) : encodeAscii s = .ok (asciiBytes s) := if_pos h

theorem toNat_asciiByte {c : Char} (h : c.toNat < 128) :
    (UInt8.ofNat c.toNat).toNat = c.toNat := by
  simp only [UInt8.toNat_ofNat']
  omega

theorem asciiChar_asciiByte {c : Char} (h : c.toNat < 128) :
    asciiChar (UInt8.ofNat c.toNat) = c := by
  rw [asciiChar, toNat_asciiByte h, Char.ofNat_toNat]

theorem mem_asciiBytes_lt (h : IsAscii s) {x : UInt8} (hx : x ∈ asciiBytes s) :
    x.toNat < 128 := by
  obtain ⟨c, hc, rfl⟩ := List.mem_map.mp hx
  rw [toNat_asciiByte (h c hc)]
  exact h c hc

theorem map_asciiChar_asciiBytes (h : IsAscii s) : (asciiBytes s).map asciiChar = s := by
  rw [asciiBytes, List.map_map]
  exact (List.map_congr_left fun c hc => asciiChar_asciiByte (h c hc)).trans s.map_id

theorem decodeIgnore_append (a b : Bytes) :
    decodeIgnore (a ++ b) = decodeIgnore a ++ decodeIgnore b := by
  simp [decodeIgnore]

theorem decodeIgnore_asciiBytes (h : IsAscii s) : decodeIgnore (asciiBytes s) = s := by
  rw [decodeIgnore, List.filter_eq_self.mpr, map_asciiChar_asciiBytes h]
  intro x hx
  simpa using mem_asciiBytes_lt h hx

theorem decodeIgnore_replicate (n : ℕ) :
    decodeIgnore (List.replicate n 0) = List.replicate n nul := by
  simp [decodeIgnore, asciiChar, nul]

theorem decodeReplace_asciiBytes (h : IsAscii s) : decodeReplace (asciiBytes s) = s := by
  have hmap : decodeReplace (asciiBytes s) = (asciiBytes s).map asciiChar :=
    List.map_congr_left fun x hx => if_pos (mem_asciiBytes_lt h hx)
  rw [hmap, map_asciiChar_asciiBytes h]

theorem decodeAscii_asciiBytes (h : IsAscii s) : decodeAscii (asciiBytes s) = .ok s := by
  rw [decodeAscii, if_pos, map_asciiChar_asciiBytes h]
  simpa using fun x hx => mem_asciiBytes_lt h hx

/-- What decodes is the ASCII text it decodes to. -/
theorem eq_asciiBytes_of_decodeAscii {b : Bytes} (h : decodeAscii b = .ok s) :
    IsAscii s ∧ b = asciiBytes s := by
  unfold decodeAscii at h
  split_ifs at h with hall
  obtain rfl := Except.ok.inj h
  have hbyte : ∀ x ∈ b, x.toNat < 128 := fun x hx => by simpa using List.all_eq_true.mp hall x hx
  have hchar : ∀ x ∈ b, (asciiChar x).toNat = x.toNat := by
    intro x hx
    have hvalid : x.toNat.isValidChar := Or.inl ((hbyte x hx).trans (by decide))
    rw [asciiChar, Char.ofNat, dif_pos hvalid]
    rfl
  refine ⟨?_, ?_⟩
  · intro c hc
    obtain ⟨x, hx, rfl⟩ := List.mem_map.mp hc
    rw [hchar x hx]
    exact hbyte x hx
  · rw [asciiBytes, List.map_map]
    refine (List.map_id b).symm.trans (List.map_congr_left fun x hx => ?_)
    show x = UInt8.ofNat (asciiChar x).toNat
    rw [hchar x hx, UInt8.ofNat_toNat]

/-- No NUL at either end. -/
abbrev NulTrimmed (s : PyStr) : Prop := Trimmed (· == nul) s

/-- A zero-padded ASCII field decodes to the string that was padded. -/
theorem stripNul_decodeIgnore_ljustNul (ha : IsAscii s) (ht : NulTrimmed s) (n : ℕ) :
    stripNul (decodeIgnore (ljustNul n (asciiBytes s))) = s := by
  rw [ljustNul, decodeIgnore_append, decodeIgnore_asciiBytes ha, decodeIgnore_replicate]
  exact stripBy_append_replicate ht (by simp) _

/-- A field that is an ASCII id padded with NUL bytes on the right, and nothing else. -/
def IsPaddedId (n : ℕ) (field : Bytes) : Prop :=
  ∃ id : PyStr, IsAscii id ∧ NulTrimmed id ∧ id.length ≤ n ∧ field = ljustNul n (asciiBytes id)

theorem IsPaddedId.encode {n : ℕ} {field : Bytes} (h : IsPaddedId n field) :
    IsAscii (stripNul (decodeIgnore field)) ∧ (stripNul (decodeIgnore field)).length ≤ n ∧
      ljustNul n (asciiBytes (stripNul (decodeIgnore field))) = field := by
  obtain ⟨id, ha, ht, hlen, rfl⟩ := h
  rw [stripNul_decodeIgnore_ljustNul ha ht]
  exact ⟨ha, hlen, rfl⟩

theorem rstripNul_append_replicate {b : Bytes} (h : ∀ x ∈ b.getLast?, x ≠ 0) (n : ℕ) :
    rstripNul (b ++ List.replicate n 0) = b := by
  induction n with
  | zero =>
      rw [List.replicate_zero, List.append_nil, rstripNul, List.rdropWhile_eq_self_iff]
      intro hne
      simpa using h _ (List.getLast?_eq_some_getLast hne)
  | succ n ih =>
      rw [List.replicate_succ', ← List.append_assoc, rstripNul,
        List.rdropWhile_concat_pos _ _ _ (by rfl)]
      exact ih

/-- A zero-padded ASCII field that does not end in NUL survives `rstrip` and decoding. -/
theorem decodeReplace_rstripNul_ljustNul (ha : IsAscii s) (hl : ∀ c ∈ s.getLast?, c ≠ nul)
    (n : ℕ) : decodeReplace (rstripNul (ljustNul n (asciiBytes s))) = s := by
  rw [ljustNul, rstripNul_append_replicate, decodeReplace_asciiBytes ha]
  intro x hx hzero
  rw [asciiBytes, List.getLast?_map, Option.mem_map] at hx
  obtain ⟨c, hc, rfl⟩ := hx
  have hn := toNat_asciiByte (ha c (List.mem_of_mem_getLast? hc))
  rw [hzero] at hn
  exact hl c hc (by rw [nul, show (0 : ℕ) = c.toNat from hn, Char.ofNat_toNat])

/-! ### Lower case -/

theorem toNat_toLower (c : Char) :
    c.toLower.toNat = if 65 ≤ c.toNat ∧ c.toNat ≤ 90 then c.toNat + 32 else c.toNat := by
  unfold Char.toLower
  split_ifs with h hrange hrange
  · have hle : c.val.toNat ≤ 90 := hrange.2
    have hval : (c.val + 32).toNat = c.val.toNat + 32 := by
      rw [UInt32.toNat_add]
      exact Nat.mod_eq_of_lt (show c.val.toNat + 32 < _ by omega)
    exact hval
  · exact absurd h hrange
  · exact absurd hrange h
  · rfl

theorem toLower_eq_self {c : Char} (h : c.toNat < 65 ∨ 90 < c.toNat) : c.toLower = c := by
  apply Char.toNat_inj.mp
  rw [toNat_toLower, if_neg (by omega)]

/-- No capital letter is white space, and neither is a small one. -/
theorem isSpace_toLower (c : Char) : isSpace c.toLower = isSpace c := by
  have hletter : ∀ d : Char, 65 ≤ d.toNat ∧ d.toNat ≤ 122 → isSpace d = false := by
    intro d hd
    simp only [isSpace, Bool.or_eq_false_iff, Bool.and_eq_false_iff, decide_eq_false_iff_not,
      beq_eq_false_iff_ne]
    omega
  by_cases h : 65 ≤ c.toNat ∧ c.toNat ≤ 90
  · have hlower := toNat_toLower c
    rw [if_pos h] at hlower
    rw [hletter c (by omega), hletter c.toLower (by omega)]
  · rw [toLower_eq_self (by omega)]

/-- `str.lower`, by the interpreter's Unicode database: the lower case of a character
between the text before it and the text after it, which a capital sigma looks at.
Of the characters beyond ASCII only the Kelvin sign turns into nothing but ASCII. -/
class PyLower where
  lowerChar : PyStr → Char → PyStr → PyStr
  ascii : ∀ before c after, c.toNat < 128 → lowerChar before c after = [c.toLower]
  space : ∀ before c after, isSpace c = true → lowerChar before c after = [c]
  other : ∀ before c after, 128 ≤ c.toNat → isSpace c = false →
    ∃ d ∈ lowerChar before c after, isSpace d = false ∧ (128 ≤ d.toNat ∨ d = 'k')

/-- The database in which only ASCII has two cases. -/
@[reducible] def PyLower.asciiOnly : PyLower where
  lowerChar _ c _ := [c.toLower]
  ascii _ _ _ _ := rfl
  space _ c _ h := by
    rw [toLower_eq_self]
    by_contra hupper
    simp only [isSpace, Bool.or_eq_true, Bool.and_eq_true, decide_eq_true_eq, beq_iff_eq] at h
    omega
  other _ c _ h hspace := by
    have hself : c.toLower = c := toLower_eq_self (by omega)
    exact ⟨c.toLower, List.mem_singleton_self _, by rw [hself]; exact ⟨hspace, Or.inl h⟩⟩

section Lower

variable [PyLower]

/-- The loop of `str.lower`. -/
def lowerFrom (before : PyStr) : PyStr → PyStr
  | [] => []
  | c :: after => PyLower.lowerChar before c after ++ lowerFrom (before ++ [c]) after

/-- `s.lower()` -/
def lower (s : PyStr) : PyStr := lowerFrom [] s

/-- White space or ASCII, but not the letter that the Kelvin sign turns into. -/
def LowersPlainly (c : Char) : Prop := isSpace c = true ∨ (c.toNat < 128 ∧ c ≠ 'k')

theorem lowerFrom_eq_map {before s : PyStr} (h : ∀ c ∈ s, isSpace c = true ∨ c.toNat < 128) :
    lowerFrom before s = s.map Char.toLower := by
  induction s generalizing before with
  | nil => rfl
  | cons c after ih =>
      have hrest := @ih (before ++ [c]) fun d hd => h d (List.mem_cons_of_mem _ hd)
      have hchar : PyLower.lowerChar before c after = [c.toLower] := by
        by_cases hascii : c.toNat < 128
        · exact PyLower.ascii before c after hascii
        · have hspace := (h c List.mem_cons_self).resolve_right hascii
          rw [PyLower.space before c after hspace, toLower_eq_self (by omega)]
      rw [lowerFrom, hchar, hrest]
      rfl

/-- Where nothing but white space and ASCII comes out, nothing else went in. -/
theorem plain_of_lowerFrom {before s : PyStr} (h : ∀ d ∈ lowerFrom before s, LowersPlainly d) :
    ∀ c ∈ s, isSpace c = true ∨ c.toNat < 128 := by
  induction s generalizing before with
  | nil => exact fun c hc => nomatch hc
  | cons c after ih =>
      rw [lowerFrom] at h
      intro c' hc'
      rcases List.mem_cons.mp hc' with rfl | hc'
      · by_contra hplain
        rw [not_or, Bool.not_eq_true, not_lt] at hplain
        obtain ⟨d, hd, hspace, hother⟩ := PyLower.other before c' after hplain.2 hplain.1
        rcases h d (List.mem_append_left _ hd) with hd' | ⟨hascii, hk⟩
        · rw [hspace] at hd'
          cases hd'
        · rcases hother with hbig | rfl
          · omega
          · exact hk rfl
      · exact ih (fun d hd => h d (List.mem_append_right _ hd)) c' hc'

theorem lower_eq_map {s : PyStr} (h : ∀ c ∈ s, isSpace c = true ∨ c.toNat < 128) :
    lower s = s.map Char.toLower := lowerFrom_eq_map h

/-- A text lowers to a plain word exactly if its letters do, one by one. -/
theorem lower_eq_iff {s w : PyStr} (hw : ∀ c ∈ w, c.toNat < 128 ∧ c ≠ 'k') :
    lower s = w ↔ IsAscii s ∧ s.map Char.toLower = w := by
  constructor
  · intro h
    have hmap : lower s = s.map Char.toLower :=
      lower_eq_map (plain_of_lowerFrom fun d hd => Or.inr (hw d (h ▸ hd)))
    rw [hmap] at h
    refine ⟨?_, h⟩
    intro c hc
    have hlower := (hw c.toLower (h ▸ List.mem_map_of_mem hc)).1
    rw [toNat_toLower] at hlower
    split_ifs at hlower <;> omega
  · rintro ⟨hascii, h⟩
    rw [lower_eq_map fun c hc => Or.inr (hascii c hc), h]

/-- Lowering before stripping makes no difference to whether a plain word comes out. -/
theorem lower_strip_lower {s w : PyStr} (hw : ∀ c ∈ w, c.toNat < 128 ∧ c ≠ 'k')
    (hlower : w.map Char.toLower = w) :
    lower (strip (lower s)) = w ↔ lower (strip s) = w := by
  have hstrip : ∀ t : PyStr, strip (t.map Char.toLower) = (strip t).map Char.toLower :=
    stripBy_map isSpace_toLower
  constructor
  · intro h
    obtain ⟨hascii, hmap⟩ := (lower_eq_iff hw).mp h
    -- what was stripped is white space, and the rest lowers to the word
    obtain ⟨a, b, hsplit, ha, hb⟩ := exists_stripBy isSpace (lower s)
    have hplain : ∀ d ∈ lower s, LowersPlainly d := by
      intro d hd
      rw [hsplit, List.mem_append, List.mem_append] at hd
      rcases hd with hd | hd | hd
      · exact Or.inl (ha d hd)
      · refine Or.inr ⟨hascii d hd, ?_⟩
        rintro rfl
        exact (hw _ (hmap ▸ List.mem_map_of_mem hd)).2 (by decide)
      · exact Or.inl (hb d hd)
    rw [lower_eq_map (plain_of_lowerFrom hplain), hstrip] at hascii hmap
    rw [lower_eq_iff hw]
    refine ⟨?_, ?_⟩
    · intro c hc
      have hc' := hascii c.toLower (List.mem_map_of_mem hc)
      rw [toNat_toLower] at hc'
      split_ifs at hc' <;> omega
    · rw [← hmap, List.map_map]
      exact List.map_congr_left fun c _ => (Char.toLower_toLower_eq_toLower c).symm
  · intro h
    obtain ⟨hascii, hmap⟩ := (lower_eq_iff hw).mp h
    obtain ⟨a, b, hsplit, ha, hb⟩ := exists_stripBy isSpace s
    have hplain : ∀ c ∈ s, isSpace c = true ∨ c.toNat < 128 := by
      intro c hc
      rw [hsplit, List.mem_append, List.mem_append] at hc
      rcases hc with hc | hc | hc
      · exact Or.inl (ha c hc)
      · exact Or.inr (hascii c hc)
      · exact Or.inl (hb c hc)
    rw [lower_eq_map hplain, hstrip, hmap, lower_eq_map fun c hc => Or.inr (hw c hc).1, hlower]

end Lower

/-! ### UTF-8 -/

/-- `s.encode("utf-8")` -/
def encodeUtf8 (s : PyStr) : Bytes := s.flatMap String.utf8EncodeChar

/-- A UTF-8 decoder that has `skip` bytes of a character before it.  A byte that starts no
character is passed over or ends the text. -/
def decodeUtf8From (ignore : Bool) : ℕ → Bytes → Option PyStr
  | _, [] => some []
  | skip + 1, _ :: rest => decodeUtf8From ignore skip rest
  | 0, b :: rest =>
      match (b :: rest).toByteArray.utf8DecodeChar? 0 with
      | some c => (decodeUtf8From ignore (c.utf8Size - 1) rest).map (c :: ·)
      | none => if ignore then decodeUtf8From ignore 0 rest else none

/-- `b.decode()` -/
def decodeUtf8 (b : Bytes) : Except PyError PyStr :=
  match decodeUtf8From false 0 b with
  | some s => .ok s
  | none => .error .valueError

/-- `b.decode(errors="ignore")` -/
def decodeUtf8Ignore (b : Bytes) : PyStr := (decodeUtf8From true 0 b).getD []

theorem decodeUtf8From_skip (ignore : Bool) (a b : Bytes) :
    decodeUtf8From ignore a.length (a ++ b) = decodeUtf8From ignore 0 b := by
  induction a with
  | nil => rfl
  | cons x a ih => exact ih

/-- What was encoded is read back, whatever is done about errors. -/
theorem decodeUtf8From_encodeUtf8 (ignore : Bool) (s : PyStr) :
    decodeUtf8From ignore 0 (encodeUtf8 s) = some s := by
  induction s with
  | nil => rfl
  | cons c s ih =>
      have hlen : (String.utf8EncodeChar c).length = c.utf8Size := String.length_utf8EncodeChar c
      have hpos : 0 < c.utf8Size := c.utf8Size_pos
      obtain ⟨b, bs, hchar⟩ : ∃ b bs, String.utf8EncodeChar c = b :: bs :=
        List.exists_cons_of_length_pos (by omega)
      have hdecode : (b :: (bs ++ encodeUtf8 s)).toByteArray.utf8DecodeChar? 0 = some c := by
        have h := List.utf8DecodeChar?_utf8Encode_cons (l := s) (c := c)
        rw [List.utf8Encode, List.flatMap_cons, hchar] at h
        exact h
      have hskip : c.utf8Size - 1 = bs.length := by
        rw [hchar, List.length_cons] at hlen
        omega
      rw [encodeUtf8, List.flatMap_cons, hchar, List.cons_append]
      show decodeUtf8From ignore 0 (b :: (bs ++ encodeUtf8 s)) = some (c :: s)
      rw [decodeUtf8From, hdecode]
      dsimp only
      rw [hskip, decodeUtf8From_skip, ih]
      rfl

theorem decodeUtf8_encodeUtf8 (s : PyStr) : decodeUtf8 (encodeUtf8 s) = .ok s := by
  rw [decodeUtf8, decodeUtf8From_encodeUtf8]

/-! ### Lines -/

/-- The characters that `str.splitlines` splits at. -/
def isLineBreak (c : Char) : Bool :=
  c ∈ ['\n', '\r', '\x0b', '\x0c', '\x1c', '\x1d', '\x1e', '\u0085', '\u2028', '\u2029']

/-- `s.splitlines(keepends=True)` -/
def splitlines : PyStr → List PyStr
  | [] => []
  | '\r' :: '\n' :: rest => ['\r', '\n'] :: splitlines rest
  | c :: rest =>
      if isLineBreak c then [c] :: splitlines rest
      else match splitlines rest with
        | [] => [[c]]
        | first :: others => (c :: first) :: others

/-- The end of a line is its only line break, and a newline. -/
def EndsInNewline (s : PyStr) : Prop :=
  ∃ body, (∀ c ∈ body, isLineBreak c = false) ∧ (s = body ++ ['\n'] ∨ s = body ++ ['\r', '\n'])

theorem splitlines_append {s : PyStr} (h : EndsInNewline s) (rest : PyStr) :
    splitlines (s ++ rest) = s :: splitlines rest := by
  obtain ⟨body, hbody, hs⟩ := h
  induction body generalizing s with
  | nil =>
      rcases hs with rfl | rfl
      · rfl
      · rfl
  | cons c body ih =>
      have hc : isLineBreak c = false := hbody c List.mem_cons_self
      obtain ⟨s', rfl, hs'⟩ : ∃ s', s = c :: s' ∧ (s' = body ++ ['\n'] ∨ s' = body ++ ['\r', '\n']) := by
        rcases hs with rfl | rfl
        · exact ⟨_, rfl, Or.inl rfl⟩
        · exact ⟨_, rfl, Or.inr rfl⟩
      have hrest := ih (fun d hd => hbody d (List.mem_cons_of_mem _ hd)) hs'
      have hreturn : c ≠ '\r' := by
        rintro rfl
        exact absurd hc (by decide)
      rw [List.cons_append, splitlines, hrest, hc]
      · rfl
      · intro _ hcr
        exact absurd hcr hreturn

theorem splitlines_flatten {lines : List PyStr} (h : ∀ s ∈ lines, EndsInNewline s) :
    splitlines lines.flatten = lines := by
  induction lines with
  | nil => rfl
  | cons s lines ih =>
      rw [List.flatten_cons, splitlines_append (h s List.mem_cons_self),
        ih fun s' hs' => h s' (List.mem_cons_of_mem _ hs')]

/-- The last byte of such a line is the newline. -/
theorem getLast?_encodeUtf8 {s : PyStr} (h : EndsInNewline s) :
    (encodeUtf8 s).getLast? = some 0x0A := by
  have hnewline : String.utf8EncodeChar '\n' = [0x0A] := by decide
  obtain ⟨body, -, rfl | rfl⟩ := h
  · rw [encodeUtf8, List.flatMap_append, List.flatMap_singleton, hnewline, List.getLast?_concat]
  · rw [encodeUtf8, List.flatMap_append, List.flatMap_cons, List.flatMap_singleton, hnewline,
      ← List.append_assoc, List.getLast?_concat]

end GroBro
