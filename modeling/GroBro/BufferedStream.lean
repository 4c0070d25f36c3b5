/-
GroBro/BufferedStream.lean

Buffered readers over a stream that arrives in segments.

A `Reader` holds what is buffered and the outcome of each raw read from here on: a
segment that is not empty, or an error; when the outcomes are used up the stream
has ended.  The operations are those of a blocking buffered reader: `peek` reads
once if nothing is buffered, `read` and `readline` read until they have what they
were asked for, and `read1` takes what is there.

How the stream is cut into segments does not show in what is read: `content` is
all that is left, an operation that succeeds returns a front of it and leaves the
rest (`read_content`, `readline_content`), and what `readline` returns is the
first line of the content (`readline_eq_firstLine`).  The rules at the end take a
line apart: into what is peeked, its first element, or a whole buffer.
-/
import Mathlib.Data.List.Basic
import Mathlib.Tactic.Common

namespace GroBro

namespace BufferedStream

/-! ### Readers -/

variable {α : Type*} {ε : Type*}

/-- What one raw read returns before the end of the stream. -/
abbrev Segment (α : Type*) := {segment : List α // segment ≠ []}

structure Reader (α ε : Type*) where
  buffered : List α
  raw : List (Except ε (Segment α))

/-- The elements a raw read delivers. -/
def delivered : Except ε (Segment α) → List α
  | .ok segment => segment.1
  | .error _ => []

namespace Reader

/-- Everything that is left of the stream. -/
def content (r : Reader α ε) : List α := r.buffered ++ r.raw.flatMap delivered

/-- No raw read from here on fails. -/
def Reliable (r : Reader α ε) : Prop := ∀ x ∈ r.raw, ∃ segment, x = .ok segment

@[simp] theorem content_ok (buffered : List α) (segment : Segment α)
    (raw : List (Except ε (Segment α))) :
    content ⟨buffered, .ok segment :: raw⟩ = buffered ++ content ⟨segment.1, raw⟩ := rfl

@[simp] theorem content_nil (buffered : List α) :
    content (⟨buffered, []⟩ : Reader α ε) = buffered := List.append_nil _

end Reader

/-- The outcome of reading, and the reader afterwards. -/
abbrev Outcome (α ε : Type*) := Except ε (List α) × Reader α ε

/-- Put what was read before in front. -/
def prepend (chunk : List α) : Outcome α ε → Outcome α ε
  | (.ok rest, r) => (.ok (chunk ++ rest), r)
  | (.error e, r) => (.error e, r)

@[simp] theorem prepend_nil (o : Outcome α ε) : prepend [] o = o := by
  rcases o with ⟨e | rest, r⟩ <;> rfl

theorem prepend_prepend (a b : List α) (o : Outcome α ε) :
    prepend a (prepend b o) = prepend (a ++ b) o := by
  rcases o with ⟨e | rest, r⟩
  · rfl
  · simp [prepend]

theorem prepend_eq_ok {chunk line : List α} {o : Outcome α ε} {r : Reader α ε} :
    prepend chunk o = (.ok line, r) ↔ ∃ rest, o = (.ok rest, r) ∧ line = chunk ++ rest := by
  rcases o with ⟨e | rest, r'⟩
  · simp [prepend]
  · simp only [prepend, Prod.mk.injEq, Except.ok.injEq]
    constructor
    · rintro ⟨rfl, rfl⟩
      exact ⟨rest, ⟨rfl, rfl⟩, rfl⟩
    · rintro ⟨_, ⟨rfl, rfl⟩, rfl⟩
      exact ⟨rfl, rfl⟩

/-! ### Where a line ends -/

/-- The length of the line at the front of a list: through the first element that
stops it, and no longer than the limit; `none` if the list ends before the line. -/
def lineEnd (stop : α → Bool) : Option ℕ → List α → Option ℕ
  | some 0, _ => some 0
  | _, [] => none
  | limit, a :: as =>
      if stop a then some 1 else (lineEnd stop (limit.map (· - 1)) as).map (· + 1)

/-- The line at the front of a list, or all of it. -/
def firstLine (stop : α → Bool) (limit : Option ℕ) (w : List α) : List α :=
  w.take ((lineEnd stop limit w).getD w.length)

section LineEnd

variable {stop : α → Bool} {limit : Option ℕ}

theorem lineEnd_zero (w : List α) : lineEnd stop (some 0) w = some 0 := by
  rw [lineEnd]

theorem lineEnd_nil (h : limit ≠ some 0) : lineEnd stop limit [] = none := by
  rw [lineEnd]
  exact h

theorem lineEnd_cons (h : limit ≠ some 0) (a : α) (as : List α) :
    lineEnd stop limit (a :: as) =
      if stop a then some 1 else (lineEnd stop (limit.map (· - 1)) as).map (· + 1) := by
  rw [lineEnd]
  exact h

/-- A line goes on behind a piece that it does not end in. -/
theorem lineEnd_append (xs ys : List α) :
    lineEnd stop limit (xs ++ ys) =
      match lineEnd stop limit xs with
      | some n => some n
      | none => (lineEnd stop (limit.map (· - xs.length)) ys).map (· + xs.length) := by
  induction xs generalizing limit with
  | nil =>
      by_cases h : limit = some 0
      · rw [h, lineEnd_zero, lineEnd_zero]
      · rw [lineEnd_nil h]
        simp
  | cons a as ih =>
      by_cases h : limit = some 0
      · rw [h, lineEnd_zero, lineEnd_zero]
      · rw [List.cons_append, lineEnd_cons h, lineEnd_cons h]
        split_ifs with ha
        · rfl
        · rw [ih]
          rcases lineEnd stop (limit.map (· - 1)) as with - | n
          · simp [Option.map_map, Function.comp_def, Nat.sub_sub, Nat.add_assoc, Nat.add_comm]
          · rfl

/-- A line ends inside the list, at the limit or behind an element that stops it. -/
theorem lineEnd_eq_some {w : List α} {n : ℕ} (h : lineEnd stop limit w = some n) :
    n ≤ w.length ∧ (limit = some n ∨ ∃ a, (w.take n).getLast? = some a ∧ stop a = true) := by
  induction w generalizing limit n with
  | nil =>
      by_cases hz : limit = some 0
      · rw [hz, lineEnd_zero] at h
        obtain rfl := Option.some.inj h
        exact ⟨Nat.le_refl _, Or.inl hz⟩
      · rw [lineEnd_nil hz] at h
        cases h
  | cons a as ih =>
      by_cases hz : limit = some 0
      · rw [hz, lineEnd_zero] at h
        obtain rfl := Option.some.inj h
        exact ⟨Nat.zero_le _, Or.inl hz⟩
      · rw [lineEnd_cons hz] at h
        split_ifs at h with ha
        · obtain rfl := Option.some.inj h
          exact ⟨by simp, Or.inr ⟨a, by simp, ha⟩⟩
        · obtain ⟨k, hk, rfl⟩ := Option.map_eq_some_iff.mp h
          obtain ⟨hle, hend⟩ := ih hk
          refine ⟨by simpa using hle, ?_⟩
          rcases hend with hlimit | ⟨b, hb, hstop⟩
          · obtain ⟨l, hl, hlk⟩ := Option.map_eq_some_iff.mp hlimit
            have hl0 : l ≠ 0 := fun e => hz (by rw [hl, e])
            left
            rw [hl]
            congr 1
            omega
          · right
            refine ⟨b, ?_, hstop⟩
            rw [List.take_succ_cons, List.getLast?_cons, hb]
            rfl

/-- A list without the end of its line is shorter than the limit, and nothing in
it stops the line. -/
theorem lineEnd_eq_none {w : List α} (h : lineEnd stop limit w = none) :
    (∀ l ∈ limit, w.length < l) ∧ ∀ a ∈ w, stop a = false := by
  induction w generalizing limit with
  | nil =>
      refine ⟨fun l hl => ?_, by simp⟩
      rw [Option.mem_def] at hl
      rcases l with - | l
      · rw [hl, lineEnd_zero] at h
        cases h
      · simp
  | cons a as ih =>
      have hz : limit ≠ some 0 := by
        rintro rfl
        rw [lineEnd_zero] at h
        cases h
      rw [lineEnd_cons hz] at h
      split_ifs at h with ha
      obtain ⟨hlen, hstop⟩ := ih (Option.map_eq_none_iff.mp h)
      refine ⟨fun l hl => ?_, ?_⟩
      · have hlt := hlen (l - 1) (Option.mem_map_of_mem (· - 1) hl)
        rw [List.length_cons]
        omega
      · rintro b (_ | ⟨_, hb⟩)
        · simpa using ha
        · exact hstop b hb

theorem lineEnd_pos {w : List α} {n : ℕ} (hl : limit ≠ some 0)
    (h : lineEnd stop limit w = some n) : 0 < n := by
  rcases w with - | ⟨a, as⟩
  · rw [lineEnd_nil hl] at h
    cases h
  · rw [lineEnd_cons hl] at h
    split_ifs at h with ha
    · obtain rfl := Option.some.inj h
      exact Nat.one_pos
    · obtain ⟨k, -, rfl⟩ := Option.map_eq_some_iff.mp h
      exact Nat.succ_pos k

theorem lineEnd_none (w : List α) :
    lineEnd stop none w = (w.findIdx? stop).map (· + 1) := by
  induction w with
  | nil => rfl
  | cons a as ih =>
      rw [lineEnd_cons (by simp), List.findIdx?_cons]
      split_ifs with ha
      · rfl
      · rw [Option.map_none, ih]

/-- A limit ends the line if the line does not end before it. -/
theorem lineEnd_some (l : ℕ) (w : List α) :
    lineEnd stop (some l) w =
      if l ≤ (lineEnd stop none w).getD w.length then some l else lineEnd stop none w := by
  induction w generalizing l with
  | nil =>
      rcases l with - | l
      · rfl
      · rfl
  | cons a as ih =>
      rcases l with - | l
      · rw [lineEnd_zero, if_pos (Nat.zero_le _)]
      · rw [lineEnd_cons (by simp), lineEnd_cons (by simp), Option.map_some, Nat.add_sub_cancel, ih]
        by_cases ha : stop a
        · simp only [if_pos ha, Option.getD_some]
          by_cases hl : l = 0
          · simp [hl]
          · rw [if_neg (by omega)]
        · simp only [if_neg ha, Option.map_none]
          rcases lineEnd stop none as with - | n
          · simp only [Option.map_none, Option.getD_none, List.length_cons, Nat.add_le_add_iff_right]
            split_ifs <;> rfl
          · simp only [Option.map_some, Option.getD_some, Nat.add_le_add_iff_right]
            split_ifs <;> rfl

end LineEnd

/-! ### Operations -/

/-- The buffer, after one raw read if it is empty; nothing is consumed. -/
def Reader.peek (r : Reader α ε) : Outcome α ε :=
  match r.buffered, r.raw with
  | [], .ok segment :: raw => (.ok segment.1, ⟨segment.1, raw⟩)
  | [], .error e :: raw => (.error e, ⟨[], raw⟩)
  | buffered, raw => (.ok buffered, ⟨buffered, raw⟩)

/-- Read a line: look for its end in the buffer, and fill the buffer again if it
is not there. -/
def readlineFrom (stop : α → Bool) (limit : Option ℕ) (buffered : List α) :
    List (Except ε (Segment α)) → Outcome α ε
  | [] =>
      let n := (lineEnd stop limit buffered).getD buffered.length
      (.ok (buffered.take n), ⟨buffered.drop n, []⟩)
  | next :: raw =>
      match lineEnd stop limit buffered with
      | some n => (.ok (buffered.take n), ⟨buffered.drop n, next :: raw⟩)
      | none =>
          match next with
          | .error e => (.error e, ⟨[], raw⟩)
          | .ok segment =>
              prepend buffered
                (readlineFrom stop (limit.map (· - buffered.length)) segment.1 raw)

def Reader.readline (stop : α → Bool) (limit : Option ℕ) (r : Reader α ε) : Outcome α ε :=
  readlineFrom stop limit r.buffered r.raw

/-- Read `n` elements, fewer at the end of the stream: a line that only the limit
ends. -/
def Reader.read (n : ℕ) (r : Reader α ε) : Outcome α ε := r.readline (fun _ => false) (some n)

/-- Read at most `n` elements: of what is buffered, or by one raw read, which leaves what
it does not take to the next one. -/
def Reader.read1 (n : ℕ) (r : Reader α ε) : Outcome α ε :=
  match r.buffered, r.raw with
  | [], .ok segment :: raw =>
      (.ok (segment.1.take n),
        ⟨[], if h : segment.1.drop n = [] then raw else .ok ⟨segment.1.drop n, h⟩ :: raw⟩)
  | [], .error e :: raw => (.error e, ⟨[], raw⟩)
  | buffered, raw => (.ok (buffered.take n), ⟨buffered.drop n, raw⟩)

/-- Read to the end of the stream. -/
def Reader.readAll (r : Reader α ε) : Outcome α ε := r.readline (fun _ => false) none

/-! ### What is read is a front of the content -/

section Content

open Reader

variable {r r' : Reader α ε} {line : List α} {stop : α → Bool} {limit : Option ℕ}

/-- Peeking consumes nothing. -/
theorem peek_content (h : r.peek = (.ok line, r')) :
    r'.buffered = line ∧ r'.content = r.content := by
  rcases r with ⟨- | ⟨a, as⟩, - | ⟨e | segment, raw⟩⟩ <;>
    simp only [peek, Prod.mk.injEq, Except.ok.injEq, reduceCtorEq, false_and] at h
  all_goals
    obtain ⟨rfl, rfl⟩ := h
    exact ⟨rfl, rfl⟩

/-- A line that ends in the buffer is the first line of the content. -/
theorem firstLine_of_lineEnd {buffered : List α} {n : ℕ} (h : lineEnd stop limit buffered = some n)
    (rest : List α) : firstLine stop limit (buffered ++ rest) = buffered.take n := by
  rw [firstLine, lineEnd_append, h]
  exact List.take_append_of_le_length (lineEnd_eq_some h).1

/-- A line that does not end in the buffer goes on behind it. -/
theorem firstLine_of_lineEnd_none {buffered : List α} (h : lineEnd stop limit buffered = none)
    (rest : List α) : firstLine stop limit (buffered ++ rest) =
      buffered ++ firstLine stop (limit.map (· - buffered.length)) rest := by
  rw [firstLine, firstLine, lineEnd_append, h]
  rcases lineEnd stop (limit.map (· - buffered.length)) rest with - | n
  · simp only [Option.map_none, Option.getD_none, List.length_append,
      List.take_length_add_append]
  · simp only [Option.map_some, Option.getD_some, Nat.add_comm n, List.take_length_add_append]

theorem readlineFrom_content {buffered : List α} {raw : List (Except ε (Segment α))}
    (h : readlineFrom stop limit buffered raw = (.ok line, r')) :
    line = firstLine stop limit (content ⟨buffered, raw⟩) ∧
      line ++ r'.content = content ⟨buffered, raw⟩ := by
  induction raw generalizing limit buffered line with
  | nil =>
      simp only [readlineFrom, Prod.mk.injEq, Except.ok.injEq] at h
      obtain ⟨rfl, rfl⟩ := h
      rw [content_nil, content_nil, firstLine]
      exact ⟨rfl, List.take_append_drop _ _⟩
  | cons next raw ih =>
      unfold readlineFrom at h
      rcases hend : lineEnd stop limit buffered with - | n
      · rw [hend] at h
        rcases next with e | segment
        · cases h
        · obtain ⟨rest, hrest, rfl⟩ := prepend_eq_ok.mp h
          obtain ⟨hline, hcontent⟩ := ih hrest
          rw [content_ok, firstLine_of_lineEnd_none hend, ← hline, List.append_assoc, hcontent]
          exact ⟨rfl, rfl⟩
      · rw [hend] at h
        simp only [Prod.mk.injEq, Except.ok.injEq] at h
        obtain ⟨rfl, rfl⟩ := h
        refine ⟨(firstLine_of_lineEnd hend _).symm, ?_⟩
        rw [content, content, ← List.append_assoc, List.take_append_drop]

/-- **A line is the first line of the content**, however the stream is cut, and
what follows it is left. -/
theorem readline_content (h : r.readline stop limit = (.ok line, r')) :
    line = firstLine stop limit r.content ∧ line ++ r'.content = r.content :=
  readlineFrom_content h

/-- A line that nothing stops ends at the limit, if the list is that long. -/
theorem lineEnd_never (w : List α) :
    lineEnd (fun _ => false) limit w = limit.filter (· ≤ w.length) := by
  rcases hend : lineEnd (fun _ => false) limit w with - | n
  · obtain ⟨hlen, -⟩ := lineEnd_eq_none hend
    rw [eq_comm, Option.filter_eq_none_iff]
    intro l hl
    have hlt := hlen l hl
    simpa using hlt
  · obtain ⟨hle, rfl | ⟨a, -, ha⟩⟩ := lineEnd_eq_some hend
    · rw [Option.filter_some, if_pos (by simpa using hle)]
    · cases ha

theorem read_content {n : ℕ} (h : r.read n = (.ok line, r')) :
    line = r.content.take n ∧ line ++ r'.content = r.content := by
  obtain ⟨rfl, hcontent⟩ := readline_content h
  refine ⟨?_, hcontent⟩
  rw [firstLine, lineEnd_never]
  by_cases hn : n ≤ r.content.length
  · rw [Option.filter_some, if_pos (by simpa using hn), Option.getD_some]
  · rw [Option.filter_some, if_neg (by simpa using hn), Option.getD_none,
      List.take_of_length_le (Nat.le_refl _), List.take_of_length_le (Nat.le_of_not_le hn)]

theorem readAll_content (h : r.readAll = (.ok line, r')) : line = r.content := by
  obtain ⟨rfl, -⟩ := readline_content h
  rw [firstLine, lineEnd_never, Option.filter_none, Option.getD_none, List.take_length]

theorem read1_content {n : ℕ} {chunk : List α} (h : r.read1 n = (.ok chunk, r')) :
    chunk ++ r'.content = r.content ∧ chunk.length ≤ n := by
  rcases r with ⟨- | ⟨a, as⟩, - | ⟨e | segment, raw⟩⟩ <;>
    simp only [read1, Prod.mk.injEq, Except.ok.injEq, reduceCtorEq, false_and] at h
  case nil.cons.ok =>
    obtain ⟨rfl, rfl⟩ := h
    refine ⟨?_, List.length_take_le n _⟩
    have hsegment := List.take_append_drop n segment.1
    split_ifs with hnil
    · rw [hnil, List.append_nil] at hsegment
      simp only [content, List.flatMap_cons, delivered, hsegment, List.nil_append]
    · simp only [content, List.flatMap_cons, delivered, List.nil_append]
      rw [← List.append_assoc, hsegment]
  all_goals
    obtain ⟨rfl, rfl⟩ := h
    refine ⟨?_, List.length_take_le n _⟩
    simp only [content]
    rw [← List.append_assoc, List.take_append_drop]

/-- A raw read that fails takes nothing. -/
theorem read1_error {n : ℕ} {e : ε} (h : r.read1 n = (.error e, r')) : r'.content = r.content := by
  rcases r with ⟨- | ⟨a, as⟩, - | ⟨e | segment, raw⟩⟩ <;>
    simp only [read1, Prod.mk.injEq, Except.error.injEq, reduceCtorEq, false_and] at h
  obtain ⟨-, rfl⟩ := h
  rfl

/-- Only at the end of the stream nothing is read. -/
theorem read1_nil {n : ℕ} (hn : 0 < n) (h : r.read1 n = (.ok [], r')) : r.content = [] := by
  rcases r with ⟨- | ⟨a, as⟩, - | ⟨e | ⟨segment, hne⟩, raw⟩⟩ <;>
    simp only [read1, Prod.mk.injEq, Except.ok.injEq, reduceCtorEq, false_and] at h
  case nil.nil => rfl
  case nil.cons.ok =>
    rcases List.take_eq_nil_iff.mp h.1 with hzero | hnil
    · exact absurd hzero (Nat.ne_of_gt hn)
    · exact absurd hnil hne
  all_goals
    rcases List.take_eq_nil_iff.mp h.1 with hzero | hnil
    · exact absurd hzero (Nat.ne_of_gt hn)
    · cases hnil

end Content

/-! ### Taking a line apart -/

section Rules

open Reader

variable {stop : α → Bool} {limit : Option ℕ}

/-- A line whose end is in the buffer. -/
theorem readlineFrom_of_lineEnd {buffered : List α} {n : ℕ}
    (h : lineEnd stop limit buffered = some n) (raw : List (Except ε (Segment α))) :
    readlineFrom stop limit buffered raw = (.ok (buffered.take n), ⟨buffered.drop n, raw⟩) := by
  cases raw with
  | nil => simp only [readlineFrom, h, Option.getD_some]
  | cons next raw => unfold readlineFrom; rw [h]

/-- A line whose end is not in the buffer: the buffer, then the next segment. -/
theorem readlineFrom_ok {buffered : List α} (h : lineEnd stop limit buffered = none)
    (segment : Segment α) (raw : List (Except ε (Segment α))) :
    readlineFrom stop limit buffered (.ok segment :: raw) =
      prepend buffered
        (readlineFrom stop (limit.map (· - buffered.length)) segment.1 raw) := by
  rw [readlineFrom.eq_def]
  simp only [h]

/-- Reading on from an empty buffer is reading on from the next segment. -/
theorem readlineFrom_nil_ok (h : limit ≠ some 0) (segment : Segment α)
    (raw : List (Except ε (Segment α))) :
    readlineFrom stop limit [] (.ok segment :: raw) = readlineFrom stop limit segment.1 raw := by
  rw [readlineFrom_ok (lineEnd_nil h), prepend_nil]
  simp

/-- A line whose end is not in the buffer: the buffer, then the line from there. -/
theorem readlineFrom_of_lineEnd_none {buffered : List α}
    (h : lineEnd stop limit buffered = none) (raw : List (Except ε (Segment α))) :
    readlineFrom stop limit buffered raw =
      prepend buffered (readlineFrom stop (limit.map (· - buffered.length)) [] raw) := by
  have hlimit : limit.map (· - buffered.length) ≠ some 0 := by
    intro e
    obtain ⟨l, hl, hzero⟩ := Option.map_eq_some_iff.mp e
    have hlt := (lineEnd_eq_none h).1 l hl
    omega
  rcases raw with - | ⟨e | segment, raw⟩
  · simp [readlineFrom, h, lineEnd_nil hlimit, prepend]
  · simp [readlineFrom, h, lineEnd_nil hlimit, prepend]
  · rw [readlineFrom_ok h, readlineFrom_nil_ok hlimit]

/-- A line is its first element, then the line from there. -/
theorem readlineFrom_cons (h : limit ≠ some 0) (a : α) (as : List α)
    (raw : List (Except ε (Segment α))) :
    readlineFrom stop limit (a :: as) raw =
      if stop a then (.ok [a], ⟨as, raw⟩)
      else prepend [a] (readlineFrom stop (limit.map (· - 1)) as raw) := by
  have hcons : lineEnd stop limit (a :: as) = _ := lineEnd_cons h a as
  by_cases ha : stop a
  · rw [if_pos ha] at hcons
    rw [if_pos ha, readlineFrom_of_lineEnd hcons]
    rfl
  · rw [if_neg ha] at hcons
    rw [if_neg ha]
    rcases hend : lineEnd stop (limit.map (· - 1)) as with - | n
    · rw [hend] at hcons
      have hlimit : (limit.map (· - 1)).map (· - as.length) =
          limit.map (· - (a :: as).length) := by
        simp [Option.map_map, Function.comp_def, Nat.sub_sub, Nat.add_comm]
      rw [readlineFrom_of_lineEnd_none hcons, readlineFrom_of_lineEnd_none hend,
        prepend_prepend, hlimit]
      rfl
    · rw [hend] at hcons
      rw [readlineFrom_of_lineEnd hcons, readlineFrom_of_lineEnd hend]
      rfl

/-- Peeking first changes nothing, if it succeeds. -/
theorem readline_peek {r r' : Reader α ε} {buffered : List α} (hl : limit ≠ some 0)
    (h : r.peek = (.ok buffered, r')) : r.readline stop limit = r'.readline stop limit := by
  rcases r with ⟨- | ⟨a, as⟩, - | ⟨e | segment, raw⟩⟩ <;>
    simp only [peek, Prod.mk.injEq, Except.ok.injEq, reduceCtorEq, false_and] at h
  all_goals obtain ⟨rfl, rfl⟩ := h
  -- only a segment into an empty buffer makes a difference
  case nil.cons.ok => exact readlineFrom_nil_ok hl segment raw
  all_goals rfl

/-- At the end of the stream there is nothing to peek, and the line is empty. -/
theorem readline_peek_nil {r r' : Reader α ε} (h : r.peek = (.ok [], r')) :
    r.readline stop limit = (.ok [], r') := by
  rcases r with ⟨- | ⟨a, as⟩, - | ⟨e | ⟨segment, hne⟩, raw⟩⟩ <;>
    simp only [peek, Prod.mk.injEq, Except.ok.injEq, reduceCtorEq, false_and] at h
  case nil.nil =>
    obtain ⟨-, rfl⟩ := h
    simp [readline, readlineFrom]
  case nil.cons.ok => exact absurd h.1 hne

/-- Reading no more than is buffered. -/
theorem read_buffered {n : ℕ} (buffered : List α) (raw : List (Except ε (Segment α)))
    (h : n ≤ buffered.length) : (⟨buffered, raw⟩ : Reader α ε).read n =
      (.ok (buffered.take n), ⟨buffered.drop n, raw⟩) := by
  refine readlineFrom_of_lineEnd ?_ raw
  rw [lineEnd_never, Option.filter_some, if_pos (by simpa using h)]

/-- Reading one element is peeking and taking the first. -/
theorem read_one (r : Reader α ε) : r.read 1 =
    match r.peek with
    | (.ok (a :: as), r') => (.ok [a], ⟨as, r'.raw⟩)
    | outcome => outcome := by
  have hone : ∀ (a : α) (as : List α) (raw : List (Except ε (Segment α))),
      readlineFrom (fun _ => false) (some 1) (a :: as) raw = (.ok [a], ⟨as, raw⟩) :=
    fun a as raw => read_buffered (a :: as) raw (Nat.succ_le_succ (Nat.zero_le _))
  have hlimit : (some 1 : Option ℕ) ≠ some 0 := by simp
  rcases r with ⟨- | ⟨a, as⟩, raw⟩
  · rcases raw with - | ⟨e | ⟨- | ⟨a, as⟩, hne⟩, raw⟩
    · rfl
    · rfl
    · exact absurd rfl hne
    · exact (readlineFrom_nil_ok hlimit _ raw).trans (hone a as raw)
  · have hpeek : (⟨a :: as, raw⟩ : Reader α ε).peek = (.ok (a :: as), ⟨a :: as, raw⟩) := by
      rcases raw with - | ⟨e | segment, raw⟩ <;> rfl
    rw [hpeek]
    exact hone a as raw

/-! ### Reliable streams -/

theorem Reader.Reliable.peek {r : Reader α ε} (h : r.Reliable) :
    ∃ buffered r', r.peek = (.ok buffered, r') ∧ r'.Reliable := by
  rcases r with ⟨- | ⟨a, as⟩, - | ⟨e | segment, raw⟩⟩
  · exact ⟨_, _, rfl, h⟩
  · obtain ⟨segment, hs⟩ := h _ (List.mem_cons_self ..)
    cases hs
  · exact ⟨_, _, rfl, fun x hx => h x (List.mem_cons_of_mem _ hx)⟩
  all_goals exact ⟨_, _, rfl, h⟩

theorem Reader.Reliable.readline {r : Reader α ε} (h : r.Reliable) (stop : α → Bool)
    (limit : Option ℕ) :
    ∃ line r', r.readline stop limit = (.ok line, r') ∧ r'.Reliable := by
  rcases r with ⟨buffered, raw⟩
  show ∃ line r', readlineFrom stop limit buffered raw = (.ok line, r') ∧ r'.Reliable
  induction raw generalizing limit buffered with
  | nil => exact ⟨_, _, rfl, h⟩
  | cons next raw ih =>
      rcases hend : lineEnd stop limit buffered with - | n
      · obtain ⟨segment, rfl⟩ := h next (List.mem_cons_self ..)
        have hrest : Reliable (⟨segment.1, raw⟩ : Reader α ε) :=
          fun x hx => h x (List.mem_cons_of_mem _ hx)
        obtain ⟨line, r', he, hr'⟩ := ih (limit.map (· - buffered.length)) segment.1 hrest
        refine ⟨buffered ++ line, r', ?_, hr'⟩
        rw [readlineFrom_ok hend, he]
        rfl
      · exact ⟨_, _, readlineFrom_of_lineEnd hend _, h⟩

theorem Reader.Reliable.read1 {r : Reader α ε} (h : r.Reliable) (n : ℕ) :
    ∃ chunk r', r.read1 n = (.ok chunk, r') ∧ r'.Reliable := by
  rcases r with ⟨- | ⟨a, as⟩, - | ⟨e | segment, raw⟩⟩
  case nil.cons.error =>
    obtain ⟨segment, hs⟩ := h _ List.mem_cons_self
    cases hs
  case nil.cons.ok =>
    have hrest : ∀ x ∈ raw, ∃ segment, x = .ok segment :=
      fun x hx => h x (List.mem_cons_of_mem _ hx)
    refine ⟨_, _, rfl, fun x hx => ?_⟩
    dsimp only at hx
    split_ifs at hx with hnil
    · exact hrest x hx
    · rcases List.mem_cons.mp hx with rfl | hx
      · exact ⟨_, rfl⟩
      · exact hrest x hx
  all_goals exact ⟨_, _, rfl, h⟩

end Rules

end BufferedStream

end GroBro
