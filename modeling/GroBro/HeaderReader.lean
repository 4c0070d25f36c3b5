/-
GroBro/HeaderReader.lean

`_HeaderDeadlineReader` of `grobro/ha/battery_ingress.py`: `readline` with one
deadline for all header lines, over the buffered reader of a connection.

A raw read returns a segment, or raises whatever the connection raises; the clock
is read before every piece of a line.  What one round of the loop takes is a piece
that the plain `readline` would take as well (`readChunk_spec`), so by induction on
what is left of the stream a call that completes is the plain call, on the same
stream and with the same stream behind it (`readlineLoop_ok`).
-/
import GroBro.BufferedStream
import GroBro.ByteCodec
import Mathlib.Algebra.Order.Ring.Rat

namespace GroBro

open ByteCodec BufferedStream

/-! ### The reader -/

/-- `b"\n"` -/
def lineFeed : UInt8 := 10

/-- `BufferedReader.readline`: a negative limit is no limit. -/
def bufferedReadline {ε : Type*} (limit : ℤ) (stream : Reader UInt8 ε) :
    Except ε Bytes × Reader UInt8 ε :=
  stream.readline (· == lineFeed) (if limit < 0 then none else some limit.toNat)

/-- `hasPeek` is whether the stream has a method `peek`, `timeout` what the
connection's `gettimeout` returns, and `now` counts the readings of the clock. -/
structure HeaderReader (ε : Type*) where
  stream : Reader UInt8 ε
  hasPeek : Bool
  timeout : Option ℚ
  deadline : ℚ
  now : ℕ

namespace HeaderReader

variable {ε : Type*}

/-- How much of what is buffered belongs to the line. -/
def chunkSize (limit : ℤ) (line buffered : Bytes) : ℕ :=
  let size := match buffered.findIdx? (· == lineFeed) with
    | some i => i + 1
    | none => buffered.length
  if 0 ≤ limit then min size (limit - line.length).toNat else size

/-- One `read` of the loop. -/
def readChunk (limit : ℤ) (line : Bytes) (hasPeek : Bool) (stream : Reader UInt8 ε) :
    Except ε Bytes × Reader UInt8 ε :=
  if hasPeek then
    match stream.peek with
    | (.error e, stream) => (.error e, stream)
    | (.ok buffered, stream) => stream.read (chunkSize limit line buffered)
  else stream.read 1

/-- What a chunk takes is in front of what it leaves. -/
theorem readChunk_content {limit : ℤ} {line value : Bytes} {hasPeek : Bool}
    {stream stream' : Reader UInt8 ε}
    (h : readChunk limit line hasPeek stream = (.ok value, stream')) :
    value ++ stream'.content = stream.content := by
  unfold readChunk at h
  by_cases hp : hasPeek
  · rw [if_pos hp] at h
    rcases hpeek : stream.peek with ⟨e | buffered, r⟩
    · rw [hpeek] at h
      cases h
    · rw [hpeek] at h
      exact (read_content h).2.trans (peek_content hpeek).2
  · rw [if_neg hp] at h
    exact (read_content h).2

theorem readChunk_shorter {limit : ℤ} {line value : Bytes} {hasPeek : Bool}
    {stream stream' : Reader UInt8 ε}
    (h : readChunk limit line hasPeek stream = (.ok value, stream')) (hvalue : value ≠ []) :
    stream'.content.length < stream.content.length := by
  rw [← readChunk_content h, List.length_append]
  exact Nat.lt_add_of_pos_left (List.length_pos_of_ne_nil hvalue)

/-- The `while` loop.  `clock` gives the readings of `time.monotonic`. -/
def readlineLoop (timeoutError : ε) (clock : ℕ → ℚ) (limit : ℤ) (line : Bytes)
    (s : HeaderReader ε) : Except ε Bytes × HeaderReader ε :=
  if limit < 0 ∨ (line.length : ℤ) < limit then
    let remaining := s.deadline - clock s.now
    if remaining ≤ 0 then (.error timeoutError, { s with now := s.now + 1 })
    else
      match _h : readChunk limit line s.hasPeek s.stream with
      | (.error e, stream) =>
          (.error e, { s with stream, timeout := some remaining, now := s.now + 1 })
      | (.ok value, stream) =>
          let s := { s with stream, timeout := some remaining, now := s.now + 1 }
          if _hvalue : value = [] then (.ok line, s)
          else if value.getLast? = some lineFeed then (.ok (line ++ value), s)
          else readlineLoop timeoutError clock limit (line ++ value) s
  else (.ok line, s)
termination_by s.stream.content.length
decreasing_by exact readChunk_shorter _h _hvalue

/-- `readline`; `finally` puts back the connection's timeout. -/
def readline (timeoutError : ε) (clock : ℕ → ℚ) (limit : ℤ) (s : HeaderReader ε) :
    Except ε Bytes × HeaderReader ε :=
  let previous := s.timeout
  let (result, s) := readlineLoop timeoutError clock limit [] s
  (result, { s with timeout := previous })

/-! ### One round of the loop -/

/-- What the limit leaves for the rest of the line. -/
def lineLimit (limit : ℤ) (line : Bytes) : Option ℕ :=
  if limit < 0 then none else some (limit - line.length).toNat

theorem lineLimit_nil (limit : ℤ) :
    lineLimit limit [] = if limit < 0 then none else some limit.toNat := by
  simp [lineLimit]

theorem lineLimit_append (limit : ℤ) (line value : Bytes) :
    lineLimit limit (line ++ value) = (lineLimit limit line).map (· - value.length) := by
  unfold lineLimit
  split_ifs with hl
  · rfl
  · rw [Option.map_some, List.length_append]
    congr 1
    omega

/-- The loop goes on as long as the limit leaves something. -/
theorem lineLimit_eq_zero_iff (limit : ℤ) (line : Bytes) :
    lineLimit limit line = some 0 ↔ ¬ (limit < 0 ∨ (line.length : ℤ) < limit) := by
  unfold lineLimit
  split_ifs with hl
  · simp [hl]
  · rw [Option.some.injEq]
    omega

/-- The chunk goes to the end of the line, or takes the buffer. -/
theorem chunkSize_eq (limit : ℤ) (line buffered : Bytes) :
    chunkSize limit line buffered =
      (lineEnd (· == lineFeed) (lineLimit limit line) buffered).getD buffered.length := by
  have hsize : (match buffered.findIdx? (· == lineFeed) with
      | some i => i + 1
      | none => buffered.length) =
        (lineEnd (· == lineFeed) none buffered).getD buffered.length := by
    rw [lineEnd_none]
    rcases buffered.findIdx? (· == lineFeed) with - | i <;> rfl
  rw [chunkSize, hsize, lineLimit]
  by_cases hl : limit < 0
  · rw [if_neg (by omega), if_pos hl]
  · rw [if_pos (by omega), if_neg hl, lineEnd_some]
    split_ifs with h
    · rw [Option.getD_some, Nat.min_eq_right h]
    · rw [Nat.min_eq_left (Nat.le_of_not_le h)]

theorem chunkSize_le (limit : ℤ) (line buffered : Bytes) :
    chunkSize limit line buffered ≤ buffered.length := by
  rw [chunkSize_eq]
  rcases hend : lineEnd (· == lineFeed) (lineLimit limit line) buffered with - | n
  · exact Nat.le_refl _
  · exact (lineEnd_eq_some hend).1

/-- What a line is after a first piece: the piece alone if it is empty or ends in a
newline, else the piece and the line from there. -/
def afterChunk (limit : Option ℕ) (value : Bytes) (stream : Reader UInt8 ε) :
    Except ε Bytes × Reader UInt8 ε :=
  if value = [] ∨ value.getLast? = some lineFeed then (.ok value, stream)
  else prepend value (stream.readline (· == lineFeed) (limit.map (· - value.length)))

/-- A piece of one byte. -/
theorem readlineFrom_byte {limit : Option ℕ} (hl : limit ≠ some 0) (a : UInt8) (as : Bytes)
    (raw : List (Except ε (Segment UInt8))) :
    readlineFrom (· == lineFeed) limit (a :: as) raw = afterChunk limit [a] ⟨as, raw⟩ := by
  rw [readlineFrom_cons hl, afterChunk]
  by_cases ha : a = lineFeed
  · simp [ha]
  · rw [if_neg (by simpa using ha), if_neg (by simpa using ha)]
    rfl

/-- A piece to the end of the line, or the whole buffer. -/
theorem readlineFrom_buffered {limit : Option ℕ} (hl : limit ≠ some 0) (buffered : Bytes)
    (hne : buffered ≠ []) (raw : List (Except ε (Segment UInt8))) :
    readlineFrom (· == lineFeed) limit buffered raw =
      let n := (lineEnd (· == lineFeed) limit buffered).getD buffered.length
      afterChunk limit (buffered.take n) ⟨buffered.drop n, raw⟩ := by
  rcases hend : lineEnd (· == lineFeed) limit buffered with - | n
  · -- no lineFeed in the buffer, and the limit is beyond it
    obtain ⟨-, hstop⟩ := lineEnd_eq_none hend
    have hlast : buffered.getLast? ≠ some lineFeed := by
      intro e
      simpa using hstop lineFeed (List.mem_of_getLast? e)
    simp only [Option.getD_none, List.take_length, List.drop_length]
    rw [afterChunk, if_neg (by simp [hne, hlast])]
    exact readlineFrom_of_lineEnd_none hend raw
  · obtain ⟨hle, hcut⟩ := lineEnd_eq_some hend
    have hpos := lineEnd_pos hl hend
    have hlength : (buffered.take n).length = n := by
      rw [List.length_take, Nat.min_eq_left hle]
    simp only [Option.getD_some]
    rw [readlineFrom_of_lineEnd hend, afterChunk]
    split_ifs with hnewline
    · rfl
    · -- the piece ends at the limit, so nothing is left to read
      have hlimit : limit = some n := by
        refine hcut.resolve_right ?_
        rintro ⟨a, ha, hnl⟩
        exact hnewline (Or.inr (by rw [ha, beq_iff_eq.mp hnl]))
      rw [hlimit, Option.map_some, hlength, Nat.sub_self, Reader.readline,
        readlineFrom_of_lineEnd (lineEnd_zero _)]
      simp [prepend]

/-- **What one round takes is a piece of the plain line**, with and without `peek`. -/
theorem readChunk_spec {limit : ℤ} {line value : Bytes} {hasPeek : Bool}
    {stream stream' : Reader UInt8 ε} (hl : lineLimit limit line ≠ some 0)
    (h : readChunk limit line hasPeek stream = (.ok value, stream')) :
    stream.readline (· == lineFeed) (lineLimit limit line) =
      afterChunk (lineLimit limit line) value stream' := by
  set left := lineLimit limit line with hleft
  -- the end of the stream
  have hempty : ∀ r, stream.peek = (.ok [], r) →
      stream.readline (· == lineFeed) left = afterChunk left [] r := by
    intro r hpeek
    rw [readline_peek_nil hpeek, afterChunk, if_pos (Or.inl rfl)]
  unfold readChunk at h
  by_cases hp : hasPeek
  · rw [if_pos hp] at h
    rcases hpeek : stream.peek with ⟨e | buffered, r⟩
    · rw [hpeek] at h
      cases h
    · rw [hpeek] at h
      obtain ⟨rfl, -⟩ := peek_content hpeek
      have hsize : chunkSize limit line r.buffered =
          (lineEnd (· == lineFeed) left r.buffered).getD r.buffered.length :=
        chunkSize_eq limit line r.buffered
      have hread := read_buffered r.buffered r.raw (chunkSize_le limit line r.buffered)
      obtain ⟨hvalue, rfl⟩ := Prod.mk.inj (hread.symm.trans h)
      obtain rfl := Except.ok.inj hvalue
      by_cases hne : r.buffered = []
      · have hr : (⟨r.buffered.drop (chunkSize limit line r.buffered), r.raw⟩ : Reader UInt8 ε)
            = r := by
          rcases r with ⟨buffered, raw⟩
          simp only at hne
          simp [hne]
        rw [hr, hne, List.take_nil]
        rw [hne] at hpeek
        exact hempty r hpeek
      · rw [readline_peek hl hpeek, hsize]
        exact readlineFrom_buffered hl r.buffered hne r.raw
  · rw [if_neg hp, read_one] at h
    rcases hpeek : stream.peek with ⟨e | ⟨- | ⟨a, as⟩⟩, r⟩
    · rw [hpeek] at h
      cases h
    · rw [hpeek] at h
      cases h
      exact hempty _ hpeek
    · rw [hpeek] at h
      cases h
      rw [readline_peek hl hpeek, Reader.readline, (peek_content hpeek).1]
      exact readlineFrom_byte hl a as r.raw

/-! ### A call -/

variable {timeoutError : ε} {clock : ℕ → ℚ} {limit : ℤ} {line result : Bytes}
  {s s' : HeaderReader ε}

/-- **A loop that completes has read the rest of the plain line.** -/
theorem readlineLoop_ok (h : readlineLoop timeoutError clock limit line s = (.ok result, s')) :
    prepend line (s.stream.readline (· == lineFeed) (lineLimit limit line)) =
      (.ok result, s'.stream) := by
  -- on what is left of the stream
  induction hn : s.stream.content.length using Nat.strong_induction_on generalizing line s with
  | _ n ih =>
  subst hn
  rw [readlineLoop] at h
  by_cases hmore : limit < 0 ∨ (line.length : ℤ) < limit
  · have hl : lineLimit limit line ≠ some 0 := fun e => (lineLimit_eq_zero_iff _ _).mp e hmore
    rw [if_pos hmore] at h
    dsimp only at h
    by_cases hexpired : s.deadline - clock s.now ≤ 0
    · rw [if_pos hexpired] at h
      cases h
    · rw [if_neg hexpired] at h
      split at h
      · cases h
      next value stream hchunk =>
        rw [readChunk_spec hl hchunk, afterChunk]
        by_cases hnil : value = []
        · rw [dif_pos hnil] at h
          cases h
          rw [if_pos (Or.inl hnil), hnil]
          simp [prepend]
        rw [dif_neg hnil] at h
        by_cases hnewline : value.getLast? = some lineFeed
        · rw [if_pos hnewline] at h
          cases h
          rw [if_pos (Or.inr hnewline)]
          rfl
        · rw [if_neg hnewline] at h
          rw [if_neg (by simp [hnil, hnewline]), prepend_prepend, ← lineLimit_append]
          exact ih _ (readChunk_shorter hchunk hnil) h rfl
  · have hl : lineLimit limit line = some 0 := (lineLimit_eq_zero_iff _ _).mpr hmore
    rw [if_neg hmore] at h
    cases h
    rw [hl, Reader.readline, readlineFrom_of_lineEnd (lineEnd_zero _)]
    simp [prepend]

/-- The timeout is put back whether the call completes or raises. -/
theorem readline_timeout (timeoutError : ε) (clock : ℕ → ℚ) (limit : ℤ) (s : HeaderReader ε) :
    (readline timeoutError clock limit s).2.timeout = s.timeout := rfl

/-- **A call that completes is the plain call.** -/
theorem readline_ok (h : readline timeoutError clock limit s = (.ok line, s')) :
    bufferedReadline limit s.stream = (.ok line, s'.stream) := by
  rcases hloop : readlineLoop timeoutError clock limit [] s with ⟨result, s₁⟩
  rw [readline, hloop] at h
  obtain ⟨rfl, rfl⟩ := Prod.mk.inj h
  have hplain := readlineLoop_ok hloop
  rwa [prepend_nil, lineLimit_nil] at hplain

theorem readChunk_reliable {stream : Reader UInt8 ε} (h : stream.Reliable) (limit : ℤ)
    (line : Bytes) (hasPeek : Bool) :
    ∃ value stream', readChunk limit line hasPeek stream = (.ok value, stream') ∧
      stream'.Reliable := by
  by_cases hp : hasPeek
  · obtain ⟨buffered, r, hpeek, hr⟩ := h.peek
    obtain ⟨value, stream', hread, hr'⟩ := hr.readline (fun _ => false)
      (some (chunkSize limit line buffered))
    refine ⟨value, stream', ?_, hr'⟩
    rw [readChunk, if_pos hp, hpeek]
    exact hread
  · obtain ⟨value, stream', hread, hr'⟩ := h.readline (fun _ => false) (some 1)
    refine ⟨value, stream', ?_, hr'⟩
    rw [readChunk, if_neg hp]
    exact hread

/-- Before the deadline the loop completes on a stream that does not fail. -/
theorem readlineLoop_completes (timeoutError : ε) (limit : ℤ) (line : Bytes)
    (hclock : ∀ n, clock n < s.deadline) (hr : s.stream.Reliable) :
    ∃ result s', readlineLoop timeoutError clock limit line s = (.ok result, s') ∧
      s'.deadline = s.deadline ∧ s'.stream.Reliable := by
  induction hn : s.stream.content.length using Nat.strong_induction_on generalizing line s with
  | _ n ih =>
  subst hn
  rw [readlineLoop]
  by_cases hmore : limit < 0 ∨ (line.length : ℤ) < limit
  · have hremaining : ¬ s.deadline - clock s.now ≤ 0 :=
      not_le.mpr (sub_pos.mpr (hclock s.now))
    rw [if_pos hmore]
    dsimp only
    rw [if_neg hremaining]
    obtain ⟨value, stream, hchunk, hr'⟩ := readChunk_reliable hr limit line s.hasPeek
    split
    next e stream' herror =>
      rw [hchunk] at herror
      cases herror
    next value' stream' hchunk' =>
      obtain ⟨rfl, rfl⟩ : value = value' ∧ stream = stream' := by
        rw [hchunk] at hchunk'
        simpa using hchunk'
      by_cases hnil : value = []
      · rw [dif_pos hnil]
        exact ⟨_, _, rfl, rfl, hr'⟩
      rw [dif_neg hnil]
      by_cases hnewline : value.getLast? = some lineFeed
      · rw [if_pos hnewline]
        exact ⟨_, _, rfl, rfl, hr'⟩
      · rw [if_neg hnewline]
        exact ih _ (readChunk_shorter hchunk hnil) (line ++ value) hclock hr' rfl
  · rw [if_neg hmore]
    exact ⟨line, s, rfl, rfl, hr⟩

theorem readline_completes (timeoutError : ε) (limit : ℤ) (hclock : ∀ n, clock n < s.deadline)
    (hr : s.stream.Reliable) :
    ∃ line s', readline timeoutError clock limit s = (.ok line, s') ∧
      s'.deadline = s.deadline ∧ s'.stream.Reliable := by
  obtain ⟨result, s₁, hloop, hd, hr₁⟩ := readlineLoop_completes timeoutError limit [] hclock hr
  exact ⟨result, { s₁ with timeout := s.timeout }, by rw [readline, hloop], hd, hr₁⟩

end HeaderReader

/-! ### Any number of calls -/

section Calls

variable {ε σ : Type*}

/-- Calls with these limits complete one after the other and return these lines. -/
inductive Completes (call : ℤ → σ → Except ε Bytes × σ) : List ℤ → σ → List Bytes → σ → Prop
  | nil (s : σ) : Completes call [] s [] s
  | cons {limit : ℤ} {limits : List ℤ} {line : Bytes} {lines : List Bytes} {s s₁ s₂ : σ}
      (first : call limit s = (.ok line, s₁)) (rest : Completes call limits s₁ lines s₂) :
      Completes call (limit :: limits) s (line :: lines) s₂

theorem bufferedReadline_content {limits : List ℤ} {lines : List Bytes}
    {stream stream' : Reader UInt8 ε} (h : Completes bufferedReadline limits stream lines stream') :
    lines.flatten ++ stream'.content = stream.content := by
  induction h with
  | nil s => rfl
  | cons first rest ih =>
      rw [List.flatten_cons, List.append_assoc, ih]
      exact (readline_content first).2

variable {timeoutError : ε} {clock : ℕ → ℚ} {limits : List ℤ} {lines : List Bytes}
  {s s' : HeaderReader ε}

/-- Calls that complete are plain calls on the stream, one after the other. -/
theorem Completes.bufferedReadline
    (h : Completes (HeaderReader.readline timeoutError clock) limits s lines s') :
    Completes bufferedReadline limits s.stream lines s'.stream ∧ s'.timeout = s.timeout := by
  induction h with
  | nil s => exact ⟨.nil s.stream, rfl⟩
  | @cons limit limits line lines s s₁ s₂ first rest ih =>
      have htimeout := HeaderReader.readline_timeout timeoutError clock limit s
      rw [first] at htimeout
      exact ⟨.cons (HeaderReader.readline_ok first) ih.1, ih.2.trans htimeout⟩

/-- Before the deadline all calls complete on a stream that does not fail. -/
theorem exists_completes (timeoutError : ε) (hclock : ∀ n, clock n < s.deadline)
    (hr : s.stream.Reliable) (limits : List ℤ) :
    ∃ lines s', Completes (HeaderReader.readline timeoutError clock) limits s lines s' := by
  induction limits generalizing s with
  | nil => exact ⟨[], s, .nil s⟩
  | cons limit limits ih =>
      obtain ⟨line, s₁, first, hd, hr₁⟩ :=
        HeaderReader.readline_completes timeoutError limit hclock hr
      obtain ⟨lines, s₂, rest⟩ := ih (s := s₁) (by rwa [hd]) hr₁
      exact ⟨line :: lines, s₂, .cons first rest⟩

/-- **The header reader is a `readline` with a deadline that takes no byte of the
body**: calls that complete return what the buffered reader returns, and what they
returned with what is read afterwards is the stream; the timeout of the connection
is back after every call. -/
theorem header_reader_exact (timeoutError : ε) (clock : ℕ → ℚ) (s : HeaderReader ε) :
    (∀ limits lines s', Completes (HeaderReader.readline timeoutError clock) limits s lines s' →
      Completes bufferedReadline limits s.stream lines s'.stream ∧
      lines.flatten ++ s'.stream.content = s.stream.content ∧
      (∀ rest stream, s'.stream.readAll = (.ok rest, stream) →
        lines.flatten ++ rest = s.stream.content) ∧
      s'.timeout = s.timeout) ∧
    (∀ limit, (HeaderReader.readline timeoutError clock limit s).2.timeout = s.timeout) ∧
    ((∀ n, clock n < s.deadline) → s.stream.Reliable → ∀ limits, ∃ lines s',
      Completes (HeaderReader.readline timeoutError clock) limits s lines s') := by
  refine ⟨?_, ?_, ?_⟩
  · intro limits lines s' h
    obtain ⟨hplain, htimeout⟩ := h.bufferedReadline
    have hcontent := bufferedReadline_content hplain
    refine ⟨hplain, hcontent, ?_, htimeout⟩
    intro rest stream hall
    rw [readAll_content hall, hcontent]
  · intro limit
    exact HeaderReader.readline_timeout timeoutError clock limit s
  · intro hclock hr limits
    exact exists_completes timeoutError hclock hr limits

/-- A line that ends in the second segment, with a byte of the body behind it. -/
theorem header_reader_exact_segments :
    ∃ lines s', Completes (HeaderReader.readline () fun _ => 0) [-1, 0, 2]
        ⟨⟨[72, 13], [.ok ⟨[10, 98], by decide⟩]⟩, true, none, 10, 0⟩ lines s' ∧
      lines.flatten ++ s'.stream.content = [72, 13, 10, 98] ∧ s'.timeout = none := by
  obtain ⟨hexact, -, hcompletes⟩ := header_reader_exact () (fun _ => 0)
    ⟨⟨[72, 13], [.ok ⟨[10, 98], by decide⟩]⟩, true, none, 10, 0⟩
  obtain ⟨lines, s', h⟩ := hcompletes (fun _ => by norm_num) (by simp [Reader.Reliable]) [-1, 0, 2]
  obtain ⟨-, hcontent, -, htimeout⟩ := hexact _ _ _ h
  exact ⟨lines, s', h, hcontent, htimeout⟩

end Calls

end GroBro
