/-
GroBro/DiagnosticRepair.lean

`_repair_incomplete_tail` of `grobro/grobro/diagnostic_io.py`: what is left of a log of JSON
lines that a crash cut off.  The tail behind the last newline is collected backwards in
chunks; if it is a whole record it gets its newline, else it is cut off.

`scanTail_spec` says that the scan finds the last line wherever the chunks end, and
`repair_keeps_written_records` that the repair keeps exactly what was written.
-/
import GroBro.JsonText

namespace GroBro

open ByteCodec JsonText

/-! ### The code -/

def maxFileBytes : ℕ := 10 * 1024 * 1024

/-- What the scan reads at a time. -/
def scanBytes : ℕ := 8192

def newline : UInt8 := byte '\n'

/-- What else decides about a text: the limits of the interpreter, on nesting and on the
digits of an integer, and how it reads texts in other encodings. -/
structure JsonLoader where
  limits : Bytes → Bool
  other : Bytes → Bool

/-- `json.loads` does not raise. -/
def JsonLoader.loads (json : JsonLoader) (text : Bytes) : Bool :=
  if detectsUtf8 text then isUtf8 text && accepts text && json.limits text else json.other text

/-- `chunk.rfind(b"\n")`; `none` is -1. -/
def rfindNewline (chunk : Bytes) : Option ℕ :=
  let upTo := chunk.rdropWhile (· ≠ newline)
  if upTo = [] then none else some (upTo.length - 1)

/-- `tail` and `tail_size` -/
structure Tail where
  pieces : Option (List Bytes)
  size : ℕ

def Tail.add (tail : Tail) (suffix : Bytes) : Tail :=
  match tail.pieces with
  | some pieces =>
      if suffix.length + tail.size ≤ maxFileBytes then
        ⟨some (pieces ++ [suffix]), tail.size + suffix.length⟩
      else ⟨none, tail.size⟩
  | none => ⟨none, tail.size⟩

/-- The loop: `boundary` and the tail.  The position falls in each round, so that as many
rounds as there are bytes are enough. -/
def scanTail (chunkSize : ℕ) (content : Bytes) : ℕ → ℕ → Tail → ℕ × Tail
  | 0, _, tail => (0, tail)
  | rounds + 1, position, tail =>
      if position = 0 then (0, tail)
      else
        let start := position - chunkSize
        let chunk := slice content start position
        match rfindNewline chunk with
        | some index => (start + index + 1, tail.add (chunk.drop (index + 1)))
        | none => scanTail chunkSize content rounds start (tail.add chunk)

/-- The end of the repair, from the boundary and the tail that were found on: the content and
the size that is returned. -/
def finishRepair (json : JsonLoader) (content : Bytes) (size : ℕ) (found : ℕ × Tail) :
    Bytes × ℕ :=
  match found.2.pieces with
  | some pieces =>
      if json.loads pieces.reverse.flatten then (content ++ [newline], size + 1)
      else (content.take found.1, found.1)
  | none => (content.take found.1, found.1)

/-- `_repair_incomplete_tail` -/
def repairIncompleteTail (json : JsonLoader) (content : Bytes) (size : ℕ) : Bytes × ℕ :=
  if size = 0 then (content, 0)
  else if slice content (size - 1) size = [newline] then (content, size)
  else finishRepair json content size (scanTail scanBytes content size size ⟨some [], 0⟩)

/-! ### The scan -/

section Scan

variable {p : UInt8 → Bool} {a b : Bytes}

theorem rdropWhile_append (p : UInt8 → Bool) (a b : Bytes) :
    (a ++ b).rdropWhile p = if b.rdropWhile p = [] then a.rdropWhile p else a ++ b.rdropWhile p := by
  unfold List.rdropWhile
  rw [List.reverse_append, List.dropWhile_append]
  by_cases h : b.reverse.dropWhile p = []
  · rw [h]
    rfl
  · rw [if_neg (by rwa [List.isEmpty_iff]), if_neg (by rwa [List.reverse_eq_nil_iff]),
      List.reverse_append, List.reverse_reverse]

theorem rtakeWhile_append (p : UInt8 → Bool) (a b : Bytes) :
    (a ++ b).rtakeWhile p = if b.rdropWhile p = [] then a.rtakeWhile p ++ b else b.rtakeWhile p := by
  have hall : ∀ c : Bytes, c.rdropWhile p ++ c.rtakeWhile p = c :=
    fun c => List.rdropWhile_append_rtakeWhile
  have hsplit := hall (a ++ b)
  rw [rdropWhile_append] at hsplit
  split_ifs at hsplit ⊢ with h
  · refine (List.append_right_inj (a.rdropWhile p)).mp ?_
    rw [hsplit, ← List.append_assoc, hall]
  · refine (List.append_right_inj (a ++ b.rdropWhile p)).mp ?_
    rw [hsplit, List.append_assoc, hall]

/-- Everything behind the last newline was collected, unless it is too long. -/
def Tail.Holds (tail : Tail) (seen : Bytes) : Prop :=
  match tail.pieces with
  | some pieces =>
      pieces.reverse.flatten = seen ∧ tail.size = seen.length ∧ seen.length ≤ maxFileBytes
  | none => maxFileBytes < seen.length

theorem Tail.Holds.add {tail : Tail} {seen : Bytes} (h : tail.Holds seen) (suffix : Bytes) :
    (tail.add suffix).Holds (suffix ++ seen) := by
  obtain ⟨pieces, size⟩ := tail
  rcases pieces with - | pieces
  · have hlong : maxFileBytes < seen.length := h
    show maxFileBytes < (suffix ++ seen).length
    rw [List.length_append]
    omega
  · obtain ⟨hpieces, hsize, hfits⟩ : pieces.reverse.flatten = seen ∧ size = seen.length ∧
      seen.length ≤ maxFileBytes := h
    unfold Tail.add
    dsimp only
    split_ifs with hlimit
    · refine ⟨?_, ?_, ?_⟩
      · rw [List.reverse_append, List.flatten_append, hpieces]
        simp
      · rw [List.length_append, hsize, Nat.add_comm]
      · rw [List.length_append, ← hsize]
        exact hlimit
    · show maxFileBytes < (suffix ++ seen).length
      rw [List.length_append, ← hsize]
      omega

theorem drop_length_rdropWhile (p : UInt8 → Bool) (chunk : Bytes) :
    chunk.drop (chunk.rdropWhile p).length = chunk.rtakeWhile p := by
  conv_lhs => rw [← List.rdropWhile_append_rtakeWhile (l := chunk) (p := p)]
  rw [List.drop_left']
  rw [List.rdropWhile_append_rtakeWhile]

/-- The boundary is behind the last newline, and the tail what follows it. -/
theorem scanTail_spec {chunkSize : ℕ} (hpos : 0 < chunkSize) (content : Bytes)
    {rounds position : ℕ} {tail : Tail} {seen : Bytes} (hrounds : position ≤ rounds)
    (hposition : position ≤ content.length) (h : tail.Holds seen) :
    let r := scanTail chunkSize content rounds position tail
    let before := content.take position
    r.1 = (before.rdropWhile (· ≠ newline)).length ∧
      r.2.Holds (before.rtakeWhile (· ≠ newline) ++ seen) := by
  induction rounds generalizing position tail seen with
  | zero =>
      obtain rfl := Nat.le_zero.mp hrounds
      exact ⟨rfl, h⟩
  | succ rounds ih =>
      intro r before
      by_cases hzero : position = 0
      · subst hzero
        have hr : r = (0, tail) := if_pos rfl
        rw [hr]
        exact ⟨rfl, h⟩
      have hstart : position - chunkSize < position :=
        Nat.sub_lt (Nat.pos_of_ne_zero hzero) hpos
      have hbefore : before = content.take (position - chunkSize) ++
          slice content (position - chunkSize) position :=
        (take_append_slice content hstart.le).symm
      have hr : r = scanTail chunkSize content (rounds + 1) position tail := rfl
      rw [scanTail, if_neg hzero] at hr
      dsimp only at hr
      generalize position - chunkSize = start at hstart hbefore hr
      generalize slice content start position = chunk at hbefore hr
      unfold rfindNewline at hr
      dsimp only at hr
      rw [hr, hbefore, rdropWhile_append, rtakeWhile_append]
      by_cases hupTo : chunk.rdropWhile (· ≠ newline) = []
      · rw [if_pos hupTo, if_pos hupTo, if_pos hupTo, List.append_assoc]
        exact ih (by omega) (by omega) (h.add chunk)
      · have hlength : (chunk.rdropWhile (· ≠ newline)).length - 1 + 1 =
            (chunk.rdropWhile (· ≠ newline)).length :=
          Nat.sub_add_cancel (List.length_pos_of_ne_nil hupTo)
        rw [if_neg hupTo, if_neg hupTo, if_neg hupTo]
        dsimp only
        rw [Nat.add_assoc, hlength, drop_length_rdropWhile, List.length_append, List.length_take,
          Nat.min_eq_left (by omega)]
        exact ⟨rfl, h.add _⟩

theorem slice_concat (a : Bytes) (b : UInt8) : slice (a ++ [b]) a.length (a.length + 1) = [b] := by
  rw [slice_eq_take_drop, List.drop_left, Nat.add_sub_cancel_left]
  rfl

/-- The end of the repair, when the boundary and the tail are right. -/
theorem finishRepair_spec (json : JsonLoader) (content : Bytes) {found : ℕ × Tail} (size : ℕ)
    (hboundary : found.1 = (content.rdropWhile (· ≠ newline)).length)
    (htail : found.2.Holds (content.rtakeWhile (· ≠ newline))) :
    finishRepair json content size found =
      if (content.rtakeWhile (· ≠ newline)).length ≤ maxFileBytes ∧
          json.loads (content.rtakeWhile (· ≠ newline)) = true then
        (content ++ [newline], size + 1)
      else (content.rdropWhile (· ≠ newline), (content.rdropWhile (· ≠ newline)).length) := by
  have hlines : content.take (content.rdropWhile (· ≠ newline)).length =
      content.rdropWhile (· ≠ newline) :=
    (List.prefix_iff_eq_take.mp (content.rdropWhile_prefix (p := (· ≠ newline)))).symm
  unfold finishRepair
  unfold Tail.Holds at htail
  rw [hboundary, hlines]
  rcases hpieces : found.2.pieces with - | pieces
  · rw [hpieces] at htail
    exact (if_neg fun h => absurd h.1 (Nat.not_le.mpr htail)).symm
  · rw [hpieces] at htail
    obtain ⟨hjoined, -, hfits⟩ := htail
    dsimp only
    rw [hjoined]
    simp only [hfits, true_and]

/-- What the repair does to a file: nothing behind a newline; else the tail gets one if it is a
record of a size that is read, and is cut off if not. -/
theorem repairIncompleteTail_spec (json : JsonLoader) (content : Bytes) :
    let lines := content.rdropWhile (· ≠ newline)
    let tail := content.rtakeWhile (· ≠ newline)
    repairIncompleteTail json content content.length =
      if tail = [] then (content, content.length)
      else if tail.length ≤ maxFileBytes ∧ json.loads tail = true then
        (content ++ [newline], content.length + 1)
      else (lines, lines.length) := by
  intro lines tail
  by_cases hempty : content = []
  · subst hempty
    rfl
  obtain ⟨init, b, rfl⟩ : ∃ init b, content = init ++ [b] :=
    ⟨_, _, (List.dropLast_append_getLast hempty).symm⟩
  have hlength : (init ++ [b]).length = init.length + 1 := List.length_append
  have htail : tail = if b ≠ newline then init.rtakeWhile (· ≠ newline) ++ [b] else [] := by
    show (init ++ [b]).rtakeWhile _ = _
    rw [List.rtakeWhile_concat]
    simp only [decide_eq_true_eq]
  unfold repairIncompleteTail
  rw [hlength, if_neg (Nat.succ_ne_zero _), Nat.add_sub_cancel, slice_concat]
  by_cases hb : b = newline
  · rw [if_pos (congrArg (fun b => [b]) hb), if_pos (by rw [htail, if_neg (not_not.mpr hb)])]
  have hne : tail ≠ [] := by
    rw [htail, if_pos hb]
    exact List.append_ne_nil_of_right_ne_nil _ (List.cons_ne_nil _ _)
  rw [if_neg fun h => hb (List.cons.inj h).1, if_neg hne]
  have hwindow : 0 < scanBytes := by decide
  have hstart : (⟨some [], 0⟩ : Tail).Holds [] := ⟨rfl, rfl, Nat.zero_le _⟩
  have hfound := scanTail_spec hwindow (init ++ [b]) (Nat.le_refl (init.length + 1)) hlength.ge
    hstart
  dsimp only at hfound
  rw [List.take_of_length_le hlength.le, List.append_nil] at hfound
  generalize
    scanTail scanBytes (init ++ [b]) (init.length + 1) (init.length + 1) ⟨some [], 0⟩ = found
    at hfound ⊢
  exact finishRepair_spec json (init ++ [b]) (init.length + 1) hfound.1 hfound.2

end Scan

/-! ### Records -/

/-- A record as it is written. -/
def line (record : Bytes) : Bytes := record ++ [newline]

/-- A JSON object on one line, of a size that is written. -/
structure IsRecord (json : JsonLoader) (record : Bytes) : Prop where
  object : IsObjectText record
  utf8 : isUtf8 record = true
  limits : json.limits record = true
  oneLine : newline ∉ record
  fits : record.length ≤ maxFileBytes

/-- The records that `n` bytes hold, the last one perhaps without its newline. -/
def fullyWritten : List Bytes → ℕ → List Bytes
  | [], _ => []
  | record :: records, n =>
      if record.length < n then record :: fullyWritten records (n - (record.length + 1))
      else if record.length = n then [record]
      else []

/-- What the repair leaves of the records. -/
def keptLines (records : List Bytes) (n : ℕ) : Bytes := (fullyWritten records n).flatMap line

section Records

variable {json : JsonLoader} {record : Bytes} {records : List Bytes}

theorem IsRecord.loads (h : IsRecord json record) : json.loads record = true := by
  unfold JsonLoader.loads
  rw [if_pos (detectsUtf8_of_start h.object List.prefix_rfl), h.utf8, h.object.accepted, h.limits]
  rfl

/-- The beginning of a record is not read as one. -/
theorem IsRecord.not_loads {pre : Bytes} (h : IsRecord json record) (hpre : pre <+: record)
    (hne : pre ≠ record) : json.loads pre = false := by
  unfold JsonLoader.loads
  rw [if_pos (detectsUtf8_of_start h.object hpre), not_accepts_of_start h.object hpre hne,
    Bool.and_false, Bool.false_and]

theorem IsRecord.ne_nil (h : IsRecord json record) : record ≠ [] := by
  rintro rfl
  cases h.object.last

/-- **Where a cut can be**: between records, at the end of a record, or inside of one. -/
inductive Cut (json : JsonLoader) (records : List Bytes) (n : ℕ) : Prop where
  | between (h : (records.flatMap line).take n = keptLines records n)
  | unended (written : List Bytes) (record : Bytes)
      (h : (records.flatMap line).take n = written.flatMap line ++ record)
      (hkept : keptLines records n = written.flatMap line ++ line record)
      (hrecord : IsRecord json record)
  | inside (pre record : Bytes) (h : (records.flatMap line).take n = keptLines records n ++ pre)
      (hrecord : IsRecord json record) (hpre : pre <+: record) (hne : pre ≠ record)
      (hpos : pre ≠ [])

/-- A record that is written whole goes before the cut of the rest. -/
theorem Cut.cons (record : Bytes) {n : ℕ} (hn : record.length < n)
    (h : Cut json records (n - (record.length + 1))) : Cut json (record :: records) n := by
  have hsplit : ((record :: records).flatMap line).take n =
      line record ++ (records.flatMap line).take (n - (record.length + 1)) := by
    rw [List.flatMap_cons, List.take_append, List.take_of_length_le]
    · simp [line]
    · simp [line]
      omega
  have hkept : keptLines (record :: records) n =
      line record ++ keptLines records (n - (record.length + 1)) := by
    unfold keptLines
    rw [fullyWritten, if_pos hn, List.flatMap_cons]
  cases h with
  | between h =>
      apply Cut.between
      rw [hsplit, hkept, h]
  | unended written record' h hkept' hrecord' =>
      refine Cut.unended (record :: written) record' ?_ ?_ hrecord'
      · rw [hsplit, h, List.flatMap_cons, List.append_assoc]
      · rw [hkept, hkept', List.flatMap_cons, List.append_assoc]
  | inside pre record' h hrecord' hpre hne hpos =>
      refine Cut.inside pre record' ?_ hrecord' hpre hne hpos
      rw [hsplit, hkept, h, List.append_assoc]

theorem cut (h : ∀ record ∈ records, IsRecord json record) (n : ℕ) : Cut json records n := by
  induction records generalizing n with
  | nil =>
      apply Cut.between
      rw [List.flatMap_nil, List.take_nil]
      rfl
  | cons record records ih =>
      have hrecord := h record List.mem_cons_self
      have htake : ∀ {m : ℕ}, m ≤ record.length →
          ((record :: records).flatMap line).take m = record.take m := by
        intro m hm
        rw [List.flatMap_cons, line, List.append_assoc, List.take_append_of_le_length hm]
      rcases Nat.lt_trichotomy record.length n with hn | rfl | hn
      · exact (ih (fun r hr => h r (List.mem_cons_of_mem _ hr)) _).cons record hn
      · refine Cut.unended [] record ?_ ?_ hrecord
        · rw [htake (Nat.le_refl _), List.take_length]
          rfl
        · unfold keptLines
          rw [fullyWritten, if_neg (Nat.lt_irrefl _), if_pos rfl]
          simp
      · have hkept : keptLines (record :: records) n = [] := by
          unfold keptLines
          rw [fullyWritten, if_neg (by omega), if_neg (by omega)]
          rfl
        rcases Nat.eq_zero_or_pos n with rfl | hpos
        · apply Cut.between
          rw [hkept, List.take_zero]
        · refine Cut.inside (record.take n) record ?_ hrecord (List.take_prefix n record) ?_ ?_
          · rw [hkept, htake hn.le]
            rfl
          · intro he
            have hlength := congrArg List.length he
            rw [List.length_take] at hlength
            omega
          · intro he
            have hlength := congrArg List.length he
            rw [List.length_take, List.length_nil] at hlength
            omega

/-- Lines end with a newline, and what follows them is the tail. -/
theorem lines_append_tail (written : List Bytes) (tail : Bytes) (h : newline ∉ tail) :
    (written.flatMap line ++ tail).rdropWhile (· ≠ newline) = written.flatMap line ∧
      (written.flatMap line ++ tail).rtakeWhile (· ≠ newline) = tail := by
  have hlines : (written.flatMap line).rdropWhile (· ≠ newline) = written.flatMap line := by
    rw [List.rdropWhile_eq_self_iff]
    intro hne
    rcases List.eq_nil_or_concat' written with rfl | ⟨init, record, rfl⟩
    · exact absurd rfl hne
    · simp [line]
  have htail : tail.rdropWhile (· ≠ newline) = [] := by
    rw [List.rdropWhile_eq_nil_iff]
    intro b hb
    apply decide_eq_true
    rintro rfl
    exact h hb
  have hboth := List.rdropWhile_append_rtakeWhile (l := written.flatMap line ++ tail)
    (p := (· ≠ newline))
  have hdrop : (written.flatMap line ++ tail).rdropWhile (· ≠ newline) = written.flatMap line := by
    rw [rdropWhile_append, if_pos htail, hlines]
  rw [hdrop] at hboth
  exact ⟨hdrop, List.append_cancel_left hboth⟩

/-- Nothing happens to whole lines. -/
theorem repair_lines (json : JsonLoader) (written : List Bytes) :
    let content := written.flatMap line
    repairIncompleteTail json content content.length = (content, content.length) := by
  intro content
  have htail := (lines_append_tail written [] List.not_mem_nil).2
  rw [List.append_nil] at htail
  rw [repairIncompleteTail_spec, if_pos htail]

/-- **A torn record is repaired without losing complete ones**: wherever the file was cut, the
repair leaves the records that were fully written, each with its newline, and returns the
size of the file; and to repair it again changes nothing. -/
theorem repair_keeps_written_records (json : JsonLoader) (records : List Bytes)
    (h : ∀ record ∈ records, IsRecord json record) (n : ℕ) :
    let torn := (records.flatMap line).take n
    let kept := (fullyWritten records n).flatMap line
    repairIncompleteTail json torn torn.length = (kept, kept.length) ∧
      repairIncompleteTail json kept kept.length = (kept, kept.length) := by
  intro torn kept
  refine ⟨?_, repair_lines json (fullyWritten records n)⟩
  cases cut h n with
  | between he =>
      have htorn : torn = kept := he
      rw [htorn]
      exact repair_lines json (fullyWritten records n)
  | unended written record he hkept hrecord =>
      have htorn : torn = written.flatMap line ++ record := he
      have hkept' : kept = torn ++ [newline] := by
        rw [htorn, List.append_assoc]
        exact hkept
      obtain ⟨-, htail⟩ := lines_append_tail written record hrecord.oneLine
      rw [repairIncompleteTail_spec, htorn, htail, if_neg hrecord.ne_nil,
        if_pos ⟨hrecord.fits, hrecord.loads⟩, ← htorn, hkept', List.length_append]
      rfl
  | inside pre record he hrecord hpre hne hpos =>
      have htorn : torn = kept ++ pre := he
      have hone : newline ∉ pre := fun hmem => hrecord.oneLine (hpre.subset hmem)
      obtain ⟨hlines, htail⟩ := lines_append_tail (fullyWritten records n) pre hone
      rw [repairIncompleteTail_spec, htorn, htail, hlines, if_neg hpos, if_neg]
      rintro ⟨-, hloads⟩
      rw [hrecord.not_loads hpre hne] at hloads
      cases hloads

/-- Of two records the second is cut off. -/
theorem repair_keeps_written_records_second :
    let json : JsonLoader := ⟨fun _ => true, fun _ => false⟩
    let torn := ([bytes "\x7b\"a\":1\x7d", bytes "\x7b\"b\":2\x7d"].flatMap line).take 12
    let kept := line (bytes "\x7b\"a\":1\x7d")
    repairIncompleteTail json torn torn.length = (kept, kept.length) ∧
      repairIncompleteTail json kept kept.length = (kept, kept.length) := by
  intro json torn kept
  have hrecords : ∀ record ∈ [bytes "\x7b\"a\":1\x7d", bytes "\x7b\"b\":2\x7d"],
      IsRecord json record := by
    intro record hrecord
    rcases List.mem_cons.mp hrecord with rfl | hrecord
    · exact ⟨⟨by decide +kernel, by decide +kernel, by decide +kernel⟩, by decide +kernel, rfl,
        by decide +kernel, by decide +kernel⟩
    · obtain rfl := List.mem_singleton.mp hrecord
      exact ⟨⟨by decide +kernel, by decide +kernel, by decide +kernel⟩, by decide +kernel, rfl,
        by decide +kernel, by decide +kernel⟩
  exact repair_keeps_written_records json _ hrecords 12

end Records

end GroBro
