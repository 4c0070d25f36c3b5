/-
GroBro/JsonText.lean

Which byte strings a JSON reader accepts.  The reader goes through a text byte by byte with
a stack of the containers that are open; `NaN` and the infinities count as numbers, and
strings may hold any byte from `0x20` on, so that UTF-8 is checked apart from the grammar.

Behind the brace that closes an object only white space may follow.  So no proper prefix
of an object text is accepted (`not_accepts_of_start`).
-/
import GroBro.ByteCodec

namespace JsonText

open ByteCodec

/-! ### The reader -/

inductive Container where
  | object
  | array
  deriving DecidableEq

/-- What the reader is in, or waits for. -/
inductive Expect where
  | value
  /-- The first element of an array, or its end. -/
  | firstElement
  /-- The first key of an object, or its end. -/
  | firstKey
  | key
  | colon
  | afterValue
  | text (isKey : Bool)
  | escape (isKey : Bool)
  /-- Hexadecimal digits that are left. -/
  | hex (isKey : Bool) (left : ℕ)
  | minus
  | zero
  | digits
  | point
  | fraction
  | exponent
  | exponentSign
  | exponentDigits
  /-- The rest of a literal. -/
  | word (rest : Bytes)
  | failed
  deriving DecidableEq

structure Reader where
  expect : Expect
  stack : List Container
  deriving DecidableEq

def byte (c : Char) : UInt8 := UInt8.ofNat c.toNat

def bytes (s : String) : Bytes := s.toList.map byte

def isSpace (b : UInt8) : Bool := b ∈ bytes " \t\n\r"

def isDigit (b : UInt8) : Bool := byte '0' ≤ b && b ≤ byte '9'

def isHexDigit (b : UInt8) : Bool :=
  isDigit b || (byte 'a' ≤ b && b ≤ byte 'f') || (byte 'A' ≤ b && b ≤ byte 'F')

def afterText (isKey : Bool) : Expect := if isKey then .colon else .afterValue

/-- The first byte of a number's digits. -/
def startDigits (stack : List Container) (b : UInt8) : Reader :=
  if b = byte '0' then ⟨.zero, stack⟩
  else if isDigit b then ⟨.digits, stack⟩
  else ⟨.failed, stack⟩

/-- The first byte of a value. -/
def startValue (stack : List Container) (b : UInt8) : Reader :=
  if isSpace b then ⟨.value, stack⟩
  else if b = byte '\x7b' then ⟨.firstKey, .object :: stack⟩
  else if b = byte '[' then ⟨.firstElement, .array :: stack⟩
  else if b = byte '"' then ⟨.text false, stack⟩
  else if b = byte '-' then ⟨.minus, stack⟩
  else if b = byte 't' then ⟨.word (bytes "rue"), stack⟩
  else if b = byte 'f' then ⟨.word (bytes "alse"), stack⟩
  else if b = byte 'n' then ⟨.word (bytes "ull"), stack⟩
  else if b = byte 'N' then ⟨.word (bytes "aN"), stack⟩
  else if b = byte 'I' then ⟨.word (bytes "nfinity"), stack⟩
  else startDigits stack b

/-- A byte behind a value. -/
def endValue (stack : List Container) (b : UInt8) : Reader :=
  if isSpace b then ⟨.afterValue, stack⟩
  else match stack with
    | [] => ⟨.failed, []⟩
    | .object :: outer =>
        if b = byte ',' then ⟨.key, stack⟩
        else if b = byte '\x7d' then ⟨.afterValue, outer⟩
        else ⟨.failed, stack⟩
    | .array :: outer =>
        if b = byte ',' then ⟨.value, stack⟩
        else if b = byte ']' then ⟨.afterValue, outer⟩
        else ⟨.failed, stack⟩

def isExponent (b : UInt8) : Bool := b = byte 'e' || b = byte 'E'

/-- One byte. -/
def step (r : Reader) (b : UInt8) : Reader :=
  let stack := r.stack
  match r.expect with
  | .value => startValue stack b
  | .firstElement =>
      if b = byte ']' then ⟨.afterValue, stack.tail⟩
      else if isSpace b then r
      else startValue stack b
  | .firstKey =>
      if b = byte '\x7d' then ⟨.afterValue, stack.tail⟩
      else if isSpace b then r
      else if b = byte '"' then ⟨.text true, stack⟩
      else ⟨.failed, stack⟩
  | .key =>
      if isSpace b then r
      else if b = byte '"' then ⟨.text true, stack⟩
      else ⟨.failed, stack⟩
  | .colon =>
      if isSpace b then r
      else if b = byte ':' then ⟨.value, stack⟩
      else ⟨.failed, stack⟩
  | .afterValue => endValue stack b
  | .text isKey =>
      if b = byte '"' then ⟨afterText isKey, stack⟩
      else if b = byte '\\' then ⟨.escape isKey, stack⟩
      else if b < 0x20 then ⟨.failed, stack⟩
      else r
  | .escape isKey =>
      if b = byte 'u' then ⟨.hex isKey 4, stack⟩
      else if b ∈ bytes "\"\\/bfnrt" then ⟨.text isKey, stack⟩
      else ⟨.failed, stack⟩
  | .hex isKey left =>
      if !isHexDigit b then ⟨.failed, stack⟩
      else if left ≤ 1 then ⟨.text isKey, stack⟩
      else ⟨.hex isKey (left - 1), stack⟩
  | .minus => if b = byte 'I' then ⟨.word (bytes "nfinity"), stack⟩ else startDigits stack b
  | .zero =>
      if b = byte '.' then ⟨.point, stack⟩
      else if isExponent b then ⟨.exponent, stack⟩
      else endValue stack b
  | .digits =>
      if isDigit b then r
      else if b = byte '.' then ⟨.point, stack⟩
      else if isExponent b then ⟨.exponent, stack⟩
      else endValue stack b
  | .point => if isDigit b then ⟨.fraction, stack⟩ else ⟨.failed, stack⟩
  | .fraction =>
      if isDigit b then r
      else if isExponent b then ⟨.exponent, stack⟩
      else endValue stack b
  | .exponent =>
      if isDigit b then ⟨.exponentDigits, stack⟩
      else if b = byte '+' || b = byte '-' then ⟨.exponentSign, stack⟩
      else ⟨.failed, stack⟩
  | .exponentSign => if isDigit b then ⟨.exponentDigits, stack⟩ else ⟨.failed, stack⟩
  | .exponentDigits => if isDigit b then r else endValue stack b
  | .word rest =>
      match rest with
      | [] => ⟨.failed, stack⟩
      | c :: rest =>
          if b ≠ c then ⟨.failed, stack⟩
          else if rest = [] then ⟨.afterValue, stack⟩
          else ⟨.word rest, stack⟩
  | .failed => r

/-- A value may end where a text ends. -/
def Expect.final : Expect → Bool
  | .afterValue | .zero | .digits | .fraction | .exponentDigits => true
  | _ => false

def read (r : Reader) (text : Bytes) : Reader := text.foldl step r

def accepts (text : Bytes) : Bool :=
  let r := read ⟨.value, []⟩ text
  r.expect.final && r.stack.isEmpty

example : accepts (bytes "\x7b\"a\": [1, -2.5e+3, \"\\u00e9\", null], \"b\": \x7b\x7d\x7d") = true := by
  decide +kernel

example : accepts (bytes "\x7b\"a\": 1,\x7d") = false := by decide +kernel

/-! ### Object texts -/

/-- An accepted text of an object that ends with its brace. -/
structure IsObjectText (text : Bytes) : Prop where
  accepted : accepts text = true
  head : (text.dropWhile isSpace).head? = some (byte '\x7b')
  last : text.getLast? = some (byte '\x7d')

/-- Inside a container, or behind the outermost one. -/
def Enclosed (r : Reader) : Prop := r.stack ≠ [] ∨ r.expect = .afterValue ∨ r.expect = .failed

theorem Enclosed.ite {p : Prop} [Decidable p] {r r' : Reader} (h : Enclosed r) (h' : Enclosed r') :
    Enclosed (if p then r else r') := by
  by_cases hp : p
  · rwa [if_pos hp]
  · rwa [if_neg hp]

theorem enclosed_startDigits {stack : List Container} (h : stack ≠ []) (b : UInt8) :
    Enclosed (startDigits stack b) := .ite (Or.inl h) (.ite (Or.inl h) (Or.inl h))

theorem enclosed_startValue {stack : List Container} (h : stack ≠ []) (b : UInt8) :
    Enclosed (startValue stack b) := by
  have hinside : ∀ expect, Enclosed ⟨expect, stack⟩ := fun _ => Or.inl h
  have hopened : ∀ expect container, Enclosed ⟨expect, container :: stack⟩ :=
    fun _ _ => Or.inl (List.cons_ne_nil _ _)
  unfold startValue
  apply Enclosed.ite (hinside _)
  -- a container that is opened
  apply Enclosed.ite (hopened _ _)
  apply Enclosed.ite (hopened _ _)
  -- a text, a number or a literal
  iterate 7 apply Enclosed.ite (hinside _)
  exact enclosed_startDigits h b

theorem enclosed_endValue (stack : List Container) (b : UInt8) : Enclosed (endValue stack b) := by
  have hclosed : ∀ stack, Enclosed ⟨.afterValue, stack⟩ := fun _ => Or.inr (Or.inl rfl)
  have hfailed : ∀ stack, Enclosed ⟨.failed, stack⟩ := fun _ => Or.inr (Or.inr rfl)
  unfold endValue
  apply Enclosed.ite (hclosed stack)
  rcases stack with - | ⟨- | -, outer⟩
  · exact hfailed []
  · exact .ite (Or.inl (List.cons_ne_nil _ _)) (.ite (hclosed outer) (hfailed _))
  · exact .ite (Or.inl (List.cons_ne_nil _ _)) (.ite (hclosed outer) (hfailed _))

/-- A reader that is inside a container stays there, or ends behind the outermost one. -/
theorem Enclosed.step {r : Reader} (h : Enclosed r) (b : UInt8) : Enclosed (step r b) := by
  obtain ⟨expect, stack⟩ := r
  by_cases hstack : stack = []
  · rcases h with h | h | h
    · exact absurd hstack h
    · obtain rfl : expect = .afterValue := h
      exact enclosed_endValue stack b
    · obtain rfl : expect = .failed := h
      exact Or.inr (Or.inr rfl)
  have hinside : ∀ expect, Enclosed ⟨expect, stack⟩ := fun _ => Or.inl hstack
  have hclosed : ∀ stack, Enclosed ⟨.afterValue, stack⟩ := fun _ => Or.inr (Or.inl rfl)
  have hvalue : Enclosed (startValue stack b) := enclosed_startValue hstack b
  have hdigits : Enclosed (startDigits stack b) := enclosed_startDigits hstack b
  have hend : Enclosed (endValue stack b) := enclosed_endValue stack b
  cases expect
  case value => exact hvalue
  case firstElement => exact .ite (hclosed _) (.ite (hinside _) hvalue)
  case firstKey => exact .ite (hclosed _) (.ite (hinside _) (.ite (hinside _) (hinside _)))
  case key => exact .ite (hinside _) (.ite (hinside _) (hinside _))
  case colon => exact .ite (hinside _) (.ite (hinside _) (hinside _))
  case afterValue => exact hend
  case text => exact .ite (hinside _) (.ite (hinside _) (.ite (hinside _) (hinside _)))
  case escape => exact .ite (hinside _) (.ite (hinside _) (hinside _))
  case hex => exact .ite (hinside _) (.ite (hinside _) (hinside _))
  case minus => exact .ite (hinside _) hdigits
  case zero => exact .ite (hinside _) (.ite (hinside _) hend)
  case digits => exact .ite (hinside _) (.ite (hinside _) (.ite (hinside _) hend))
  case point => exact .ite (hinside _) (hinside _)
  case fraction => exact .ite (hinside _) (.ite (hinside _) hend)
  case exponent => exact .ite (hinside _) (.ite (hinside _) (hinside _))
  case exponentSign => exact .ite (hinside _) (hinside _)
  case exponentDigits => exact .ite (hinside _) hend
  case word rest =>
    rcases rest with - | ⟨c, rest⟩
    · exact hinside _
    · exact .ite (hinside _) (.ite (hinside _) (hinside _))
  case failed => exact hinside _

theorem Enclosed.read {r : Reader} (h : Enclosed r) (text : Bytes) : Enclosed (read r text) := by
  induction text generalizing r with
  | nil => exact h
  | cons b text ih => exact ih (h.step b)

theorem read_append (r : Reader) (text rest : Bytes) :
    read r (text ++ rest) = read (read r text) rest := List.foldl_append

theorem read_failed (stack : List Container) (text : Bytes) :
    read ⟨.failed, stack⟩ text = ⟨.failed, stack⟩ := by
  induction text with
  | nil => rfl
  | cons b text ih => exact ih

/-- Behind the outermost container only white space goes on. -/
theorem read_afterValue (text : Bytes) :
    read ⟨.afterValue, []⟩ text =
      if text.all isSpace then ⟨.afterValue, []⟩ else ⟨.failed, []⟩ := by
  induction text with
  | nil => rfl
  | cons b text ih =>
      have hstep : step ⟨.afterValue, []⟩ b =
          if isSpace b then ⟨.afterValue, []⟩ else ⟨.failed, []⟩ := rfl
      show read (step ⟨.afterValue, []⟩ b) text = _
      rw [hstep, List.all_cons]
      cases isSpace b with
      | true => exact ih
      | false => exact read_failed [] text

/-- White space before a value is skipped. -/
theorem read_dropWhile (stack : List Container) (text : Bytes) :
    read ⟨.value, stack⟩ (text.dropWhile isSpace) = read ⟨.value, stack⟩ text := by
  induction text with
  | nil => rfl
  | cons b text ih =>
      rw [List.dropWhile_cons]
      split_ifs with hb
      · have hstep : step ⟨.value, stack⟩ b = ⟨.value, stack⟩ := if_pos hb
        show _ = read (step ⟨.value, stack⟩ b) text
        rw [ih, hstep]
      · rfl

/-- What is accepted from the opening brace on ends behind the outermost container. -/
theorem read_of_accepts {text : Bytes} (hhead : (text.dropWhile isSpace).head? = some (byte '\x7b'))
    (h : accepts text = true) : read ⟨.value, []⟩ text = ⟨.afterValue, []⟩ := by
  unfold accepts at h
  dsimp only at h
  rw [← read_dropWhile] at h ⊢
  rcases hdrop : text.dropWhile isSpace with - | ⟨b, rest⟩
  · rw [hdrop] at hhead
    cases hhead
  rw [hdrop] at h hhead
  obtain rfl : b = byte '\x7b' := Option.some.inj hhead
  have henclosed : Enclosed (read ⟨.value, []⟩ (byte '\x7b' :: rest)) :=
    Enclosed.read (r := ⟨.firstKey, [.object]⟩) (Or.inl (List.cons_ne_nil _ _)) rest
  obtain ⟨hfinal, hstack⟩ := Bool.and_eq_true_iff.mp h
  rcases hread : read ⟨.value, []⟩ (byte '\x7b' :: rest) with ⟨expect, stack⟩
  rw [hread] at henclosed hfinal hstack
  obtain rfl : stack = [] := List.isEmpty_iff.mp hstack
  rcases henclosed with hne | he | he
  · exact absurd rfl hne
  · obtain rfl : expect = .afterValue := he
    rfl
  · obtain rfl : expect = .failed := he
    cases hfinal

/-- A text of white space is not accepted. -/
theorem not_accepts_of_dropWhile_eq_nil {text : Bytes} (h : text.dropWhile isSpace = []) :
    accepts text = false := by
  unfold accepts
  rw [← read_dropWhile, h]
  rfl

/-- **No proper prefix of an object text is accepted.** -/
theorem not_accepts_of_start {pre text : Bytes} (h : IsObjectText text) (hpre : pre <+: text)
    (hne : pre ≠ text) : accepts pre = false := by
  obtain ⟨rest, rfl⟩ := hpre
  have hrest : rest ≠ [] := by
    rintro rfl
    exact hne (List.append_nil pre).symm
  by_cases hblank : pre.dropWhile isSpace = []
  · exact not_accepts_of_dropWhile_eq_nil hblank
  by_contra haccepts
  have hhead : (pre.dropWhile isSpace).head? = some (byte '\x7b') := by
    rw [← h.head, List.dropWhile_append, if_neg (by rwa [List.isEmpty_iff]),
      List.head?_append_of_ne_nil _ hblank]
  have hread := read_of_accepts h.head h.accepted
  rw [read_append, read_of_accepts hhead (Bool.not_eq_false _ ▸ haccepts), read_afterValue] at hread
  have hspace : rest.all isSpace = true := by
    by_contra hspace
    rw [if_neg hspace] at hread
    cases hread
  -- the last brace is no white space
  have hlast : rest.getLast? = some (byte '\x7d') := by
    rw [← h.last, List.getLast?_append_of_ne_nil _ hrest]
  have hbrace := List.all_eq_true.mp hspace _ (List.mem_of_getLast? hlast)
  exact absurd hbrace (by decide)

theorem IsObjectText.first {b : UInt8} {text : Bytes} (h : IsObjectText (b :: text)) :
    isSpace b = true ∨ b = byte '\x7b' := by
  rcases hb : isSpace b with - | -
  · have hhead := h.head
    rw [List.dropWhile_cons_of_neg (by rw [hb]; exact Bool.false_ne_true)] at hhead
    exact Or.inr (Option.some.inj hhead)
  · exact Or.inl rfl

/-- The second byte of an object text is no NUL. -/
theorem IsObjectText.second_ne_zero {b c : UInt8} {text : Bytes}
    (h : IsObjectText (b :: c :: text)) : c ≠ 0 := by
  rintro rfl
  have hfailed : step (step ⟨.value, []⟩ b) 0 = ⟨.failed, (step ⟨.value, []⟩ b).stack⟩ := by
    rcases h.first with hb | rfl
    · have hstep : step ⟨.value, []⟩ b = ⟨.value, []⟩ := if_pos hb
      rw [hstep]
      rfl
    · rfl
  have haccepts := h.accepted
  unfold accepts at haccepts
  have hread : read ⟨.value, []⟩ (b :: 0 :: text) = ⟨.failed, (step ⟨.value, []⟩ b).stack⟩ := by
    show read (step (step ⟨.value, []⟩ b) 0) text = _
    rw [hfailed, read_failed]
  rw [hread] at haccepts
  cases haccepts

/-! ### Encodings -/

def isContinuation (b : UInt8) : Bool := 0x80 ≤ b && b ≤ 0xBF

/-- UTF-8, in which surrogates may be encoded as well. -/
def isUtf8 : Bytes → Bool
  | [] => true
  | b :: rest =>
      if b < 0x80 then isUtf8 rest
      else if 0xC2 ≤ b && b ≤ 0xDF then
        match rest with
        | c :: rest => isContinuation c && isUtf8 rest
        | [] => false
      else if 0xE0 ≤ b && b ≤ 0xEF then
        match rest with
        | c :: d :: rest =>
            (b ≠ 0xE0 || 0xA0 ≤ c) && isContinuation c && isContinuation d && isUtf8 rest
        | _ => false
      else if 0xF0 ≤ b && b ≤ 0xF4 then
        match rest with
        | c :: d :: e :: rest =>
            (b ≠ 0xF0 || 0x90 ≤ c) && (b ≠ 0xF4 || c ≤ 0x8F) && isContinuation c &&
              isContinuation d && isContinuation e && isUtf8 rest
        | _ => false
      else false

/-- The byte order marks of UTF-32, UTF-16 and UTF-8. -/
def byteOrderMarks : List Bytes :=
  [[0x00, 0x00, 0xFE, 0xFF], [0xFF, 0xFE, 0x00, 0x00], [0xFE, 0xFF], [0xFF, 0xFE],
    [0xEF, 0xBB, 0xBF]]

/-- No mark, and no NUL where a text in UTF-16 or UTF-32 has one. -/
def detectsUtf8 (text : Bytes) : Bool :=
  !byteOrderMarks.any (·.isPrefixOf text) &&
    match text with
    | [_] | [_, _, _] => true
    | b :: c :: _ => b ≠ 0 && c ≠ 0
    | [] => true

/-- White space and braces are no byte order mark. -/
theorem no_byteOrderMark {b : UInt8} (hb : isSpace b = true ∨ b = byte '\x7b') (text : Bytes) :
    byteOrderMarks.any (·.isPrefixOf (b :: text)) = false := by
  have hmem : b ∈ ([0x20, 0x09, 0x0A, 0x0D, 0x7B] : Bytes) := by
    rcases hb with hb | rfl
    · have hspace : b ∈ bytes " \t\n\r" := of_decide_eq_true hb
      exact List.mem_append_left [0x7B] hspace
    · decide
  have hnone : ∀ c ∈ ([0x20, 0x09, 0x0A, 0x0D, 0x7B] : Bytes),
      byteOrderMarks.all (fun mark => mark.head? ≠ none ∧ mark.head? ≠ some c) = true := by
    decide +kernel
  rw [List.any_eq_false]
  intro mark hmark hstarts
  obtain ⟨rest, hrest⟩ := List.isPrefixOf_iff_prefix.mp hstarts
  obtain ⟨hne, hhead⟩ := of_decide_eq_true (List.all_eq_true.mp (hnone b hmem) mark hmark)
  rcases mark with - | ⟨c, mark⟩
  · exact hne rfl
  · exact hhead (congrArg some (List.cons.inj hrest).1)

/-- A prefix of an object text is taken for UTF-8. -/
theorem detectsUtf8_of_start {pre text : Bytes} (h : IsObjectText text) (hpre : pre <+: text) :
    detectsUtf8 pre = true := by
  obtain ⟨rest, rfl⟩ := hpre
  rcases pre with - | ⟨b, - | ⟨c, pre⟩⟩
  · rfl
  · unfold detectsUtf8
    rw [no_byteOrderMark h.first]
    rfl
  · have hb : b ≠ 0 := by
      rcases h.first with hb | rfl
      · rintro rfl
        exact absurd hb (by decide)
      · decide
    have hboth : (b ≠ 0 && c ≠ 0) = true := by
      rw [decide_eq_true hb, decide_eq_true h.second_ne_zero]
      rfl
    unfold detectsUtf8
    rw [no_byteOrderMark h.first]
    rcases pre with - | ⟨d, - | ⟨e, pre⟩⟩
    · exact hboth
    · rfl
    · exact hboth

end JsonText
