/-
GroBro/DiagnosticRotation.lean

`_write_lines` of `grobro/grobro/diagnostic_io.py`: a log and its three backups.  Before a
record that would make the file too large the backups move up, and what was in the last one
is gone.

The disk is described by lists of records, one for each file (`HoldsRecords`): a write appends
to the list of the file, and a rotation moves the lists.  So the files hold, in their order,
all that was accepted except what rotations dropped (`rotation_keeps_recent_history`).
-/
import GroBro.DiagnosticRepair
import GroBro.Machine
import GroBro.PyText

namespace GroBro

open ByteCodec JsonText Machine

/-! ### The code -/

/-- `path`, or `path.index`. -/
inductive LogFile where
  | current
  | backup (index : ℕ)
  deriving DecidableEq, Repr

/-- What a file held and nothing holds any more. -/
inductive DroppedContent where
  | byRotation (file : LogFile) (content : Bytes)
  | byRepair (content : Bytes)
  deriving DecidableEq

structure LogDisk where
  files : LogFile → Option Bytes
  /-- Kept for the theorems: nothing reads it. -/
  dropped : List DroppedContent

def backups : ℕ := 3

namespace LogDisk

def empty : LogDisk := ⟨fun _ => none, []⟩

/-- What a file holds. -/
def content (disk : LogDisk) (file : LogFile) : Bytes := (disk.files file).getD []

/-- `os.remove` of a file that exists. -/
def remove (disk : LogDisk) (file : LogFile) : LogDisk :=
  match disk.files file with
  | none => disk
  | some content =>
      ⟨Function.update disk.files file none, disk.dropped ++ [.byRotation file content]⟩

/-- `os.replace` of a file that exists. -/
def replace (disk : LogDisk) (source target : LogFile) : LogDisk :=
  match disk.files source with
  | none => disk
  | some content =>
      { remove disk target with
        files := Function.update (Function.update disk.files source none) target (some content) }

/-- `handle.write` on a file that is opened to append. -/
def append (disk : LogDisk) (file : LogFile) (text : Bytes) : LogDisk :=
  { disk with files := Function.update disk.files file (some (disk.content file ++ text)) }

/-- The files move up by one. -/
def rotate (disk : LogDisk) : LogDisk :=
  let disk := disk.remove (.backup backups)
  let disk := (List.range' 1 (backups - 1)).reverse.foldl
    (fun disk index => disk.replace (.backup index) (.backup (index + 1))) disk
  disk.replace .current (.backup 1)

/-- `_repair_incomplete_tail`, of a file that exists. -/
def repair (json : JsonLoader) (disk : LogDisk) (existing : ℕ) : LogDisk × ℕ :=
  match disk.files .current with
  | none => (disk, 0)
  | some content =>
      let (repaired, size) := repairIncompleteTail json content existing
      (⟨Function.update disk.files .current (some repaired),
        if repaired.length < content.length then
          disk.dropped ++ [.byRepair (content.drop repaired.length)]
        else disk.dropped⟩, size)

/-- The files from the oldest to the newest, one behind the other. -/
def all (disk : LogDisk) : Bytes :=
  [.backup 3, .backup 2, .backup 1, .current].flatMap disk.content

end LogDisk

/-- One line of `_write_lines`, with `existing`. -/
def writeLine (s : LogDisk × ℕ) (line : PyStr) : LogDisk × ℕ :=
  let (disk, existing) := s
  let size := (encodeUtf8 line).length
  if size > maxFileBytes then s
  else
    let (disk, existing) :=
      if existing ≠ 0 ∧ existing + size > maxFileBytes then (disk.rotate, 0) else (disk, existing)
    (disk.append .current (encodeUtf8 line), existing + size)

/-- `_write_lines` -/
def writeLines (json : JsonLoader) (disk : LogDisk) (text : PyStr) : LogDisk :=
  let existing := (disk.files .current).elim 0 List.length
  ((splitlines text).foldl writeLine (disk.repair json existing)).1

/-! ### Records in files -/

/-- Records as they stand in a file. -/
def textOf (records : List PyStr) : Bytes := records.flatMap encodeUtf8

/-- A file with records, or no file. -/
def fileOf (records : List PyStr) : Option Bytes :=
  if records = [] then none else some (textOf records)

/-- What the disk holds, as records: of each file, and of the files that are gone. -/
structure HoldsRecords (disk : LogDisk) (gone : List (List PyStr)) (held : LogFile → List PyStr) :
    Prop where
  files : ∀ file, disk.files file = fileOf (held file)
  dropped : disk.dropped = gone.map fun records => .byRotation (.backup 3) (textOf records)

/-- The records of one file, moved to another. -/
def moveRecords (held : LogFile → List PyStr) (source target : LogFile) : LogFile → List PyStr :=
  Function.update (Function.update held source []) target (held source)

section Records

variable {disk : LogDisk} {gone : List (List PyStr)} {held : LogFile → List PyStr}

theorem textOf_concat (records : List PyStr) (record : PyStr) :
    textOf (records ++ [record]) = textOf records ++ encodeUtf8 record := by
  rw [textOf, List.flatMap_append, List.flatMap_singleton]
  rfl

theorem fileOf_eq_none {records : List PyStr} : fileOf records = none ↔ records = [] := by
  unfold fileOf
  split_ifs with h
  · exact iff_of_true rfl h
  · exact iff_of_false (by simp) h

theorem HoldsRecords.content (h : HoldsRecords disk gone held) (file : LogFile) :
    disk.content file = textOf (held file) := by
  rw [LogDisk.content, h.files, fileOf]
  split_ifs with hheld
  · rw [hheld]
    rfl
  · rfl

theorem files_update {files : LogFile → Option Bytes} (h : ∀ file, files file = fileOf (held file))
    (file : LogFile) (records : List PyStr) (file' : LogFile) :
    Function.update files file (fileOf records) file' =
      fileOf (Function.update held file records file') := by
  by_cases he : file' = file
  · rw [he, Function.update_self, Function.update_self]
  · rw [Function.update_of_ne he, Function.update_of_ne he, h]

/-- A write appends to the records of its file. -/
theorem HoldsRecords.append (h : HoldsRecords disk gone held) (file : LogFile) (record : PyStr) :
    HoldsRecords (disk.append file (encodeUtf8 record)) gone
      (Function.update held file (held file ++ [record])) where
  files file' := by
    have hfile : fileOf (held file ++ [record]) =
        some (disk.content file ++ encodeUtf8 record) := by
      rw [h.content, fileOf, if_neg (by simp), textOf_concat]
    show Function.update disk.files file (some (disk.content file ++ encodeUtf8 record)) file' = _
    rw [← hfile]
    exact files_update h.files file _ file'
  dropped := h.dropped

/-- A file that moves to where none is. -/
theorem HoldsRecords.move (h : HoldsRecords disk gone held) (source target : LogFile)
    (htarget : held target = []) :
    HoldsRecords (disk.replace source target) gone (moveRecords held source target) := by
  have hnone : disk.files target = none := by
    rw [h.files]
    exact fileOf_eq_none.mpr htarget
  have hremove : disk.remove target = disk := by rw [LogDisk.remove, hnone]
  rcases hsource : disk.files source with - | content
  · have hempty : held source = [] := by rwa [h.files, fileOf_eq_none] at hsource
    have hheld : moveRecords held source target = held := by
      rw [moveRecords, hempty, ← hempty, Function.update_eq_self, hempty, ← htarget,
        Function.update_eq_self]
    rw [LogDisk.replace, hsource, hheld]
    exact h
  · rw [LogDisk.replace, hsource, hremove]
    refine ⟨fun file => ?_, h.dropped⟩
    have hcontent : some content = fileOf (held source) := by rw [← hsource, h.files]
    have hempty : (none : Option Bytes) = fileOf [] := rfl
    show Function.update (Function.update disk.files source none) target (some content) file = _
    rw [hcontent, hempty]
    exact files_update (files_update h.files source []) target (held source) file

/-- The last backup goes. -/
theorem HoldsRecords.remove (h : HoldsRecords disk gone held) :
    HoldsRecords (disk.remove (.backup 3))
      (if held (.backup 3) = [] then gone else gone ++ [held (.backup 3)])
      (Function.update held (.backup 3) []) := by
  rcases hfile : disk.files (.backup 3) with - | content
  · have hempty : held (.backup 3) = [] := by rwa [h.files, fileOf_eq_none] at hfile
    rw [LogDisk.remove, hfile, if_pos hempty, ← hempty, Function.update_eq_self]
    exact h
  · have hne : held (.backup 3) ≠ [] := by
      rw [h.files] at hfile
      intro hempty
      rw [fileOf_eq_none.mpr hempty] at hfile
      cases hfile
    have hcontent : content = textOf (held (.backup 3)) := by
      rw [h.files, fileOf, if_neg hne] at hfile
      exact (Option.some.inj hfile).symm
    rw [LogDisk.remove, hfile, if_neg hne]
    refine ⟨fun file => ?_, ?_⟩
    · exact files_update h.files (.backup 3) [] file
    · rw [h.dropped, List.map_append, hcontent]
      rfl

/-- The records of the files after a rotation. -/
def rotated (held : LogFile → List PyStr) (file : LogFile) : List PyStr :=
  if file = .current then []
  else if file = .backup 1 then held .current
  else if file = .backup 2 then held (.backup 1)
  else if file = .backup 3 then held (.backup 2)
  else held file

/-- The moves of a rotation, one after the other. -/
theorem moveRecords_rotated (held : LogFile → List PyStr) :
    moveRecords (moveRecords (moveRecords (Function.update held (.backup 3) [])
      (.backup 2) (.backup 3)) (.backup 1) (.backup 2)) .current (.backup 1) = rotated held := by
  funext file
  by_cases hcurrent : file = .current
  · subst hcurrent
    simp [moveRecords, rotated]
  by_cases h1 : file = .backup 1
  · subst h1
    simp [moveRecords, rotated]
  by_cases h2 : file = .backup 2
  · subst h2
    simp [moveRecords, rotated]
  by_cases h3 : file = .backup 3
  · subst h3
    simp [moveRecords, rotated]
  · simp [moveRecords, rotated, Function.update_of_ne, hcurrent, h1, h2, h3]

theorem HoldsRecords.rotate (h : HoldsRecords disk gone held) :
    HoldsRecords disk.rotate
      (if held (.backup 3) = [] then gone else gone ++ [held (.backup 3)]) (rotated held) := by
  have h3 := h.remove
  have h2 := h3.move (.backup 2) (.backup 3) (Function.update_self _ _ _)
  have h1 := h2.move (.backup 1) (.backup 2) (by simp [moveRecords])
  have h0 := h1.move .current (.backup 1) (by simp [moveRecords])
  rw [moveRecords_rotated] at h0
  exact h0

end Records

/-! ### Recent history -/

/-- **The files hold the recent history** of the records that were accepted: all but some that
were dropped before them, and what was dropped is what the last backup held when the files
moved up. -/
structure RecentHistory (disk : LogDisk) (accepted : List PyStr) : Prop where
  suffix : ∃ lost kept, accepted = lost ++ kept ∧ disk.all = textOf kept ∧
    ∃ contents : List Bytes, disk.dropped = contents.map (DroppedContent.byRotation (.backup 3)) ∧
      contents.flatten = textOf lost
  bounded : ∀ file content, disk.files file = some content → content.length ≤ maxFileBytes

/-- The records of the files and of those that are gone are what was accepted. -/
structure Keeps (disk : LogDisk) (accepted : List PyStr) (gone : List (List PyStr))
    (held : LogFile → List PyStr) : Prop where
  represents : HoldsRecords disk gone held
  accepted : accepted = gone.flatten ++ held (.backup 3) ++ held (.backup 2) ++ held (.backup 1) ++
    held .current
  bounded : ∀ file, (textOf (held file)).length ≤ maxFileBytes
  lines : ∀ record ∈ held .current, EndsInNewline record

section History

variable {disk : LogDisk} {accepted : List PyStr} {gone : List (List PyStr)}
  {held : LogFile → List PyStr}

theorem keeps_empty : Keeps .empty [] [] fun _ => [] where
  represents := ⟨fun _ => rfl, rfl⟩
  accepted := rfl
  bounded _ := Nat.zero_le _
  lines _ h := by cases h

theorem textOf_flatten (gone : List (List PyStr)) :
    textOf gone.flatten = (gone.map textOf).flatten := by
  induction gone with
  | nil => rfl
  | cons records gone ih =>
      rw [List.flatten_cons, textOf, List.flatMap_append, List.map_cons, List.flatten_cons, ← ih]
      rfl

theorem Keeps.recentHistory (h : Keeps disk accepted gone held) : RecentHistory disk accepted where
  suffix := by
    refine ⟨gone.flatten, held (.backup 3) ++ held (.backup 2) ++ held (.backup 1) ++ held .current,
      ?_, ?_, gone.map textOf, ?_, (textOf_flatten gone).symm⟩
    · rw [h.accepted]
      simp only [List.append_assoc]
    · simp [LogDisk.all, h.represents.content, textOf]
    · rw [h.represents.dropped, List.map_map]
      rfl
  bounded file content hfile := by
    rw [h.represents.files, fileOf] at hfile
    split_ifs at hfile
    obtain rfl := Option.some.inj hfile
    exact h.bounded file

/-- A file ends with a newline. -/
theorem Keeps.getLast?_content (h : Keeps disk accepted gone held)
    (hne : held .current ≠ []) : (disk.content .current).getLast? = some newline := by
  rcases List.eq_nil_or_concat' (held .current) with hnil | ⟨init, record, hheld⟩
  · exact absurd hnil hne
  have hrecord : EndsInNewline record :=
    h.lines record (hheld ▸ List.mem_append_right _ (List.mem_singleton_self _))
  have hlast := getLast?_encodeUtf8 hrecord
  have hrecordne : encodeUtf8 record ≠ [] := by
    intro hnil
    rw [hnil] at hlast
    cases hlast
  rw [h.represents.content, hheld, textOf_concat, List.getLast?_append_of_ne_nil _ hrecordne, hlast]
  rfl

/-- Nothing is repaired in a file of whole lines. -/
theorem Keeps.repair (h : Keeps disk accepted gone held) (json : JsonLoader) :
    disk.repair json (disk.content .current).length = (disk, (disk.content .current).length) := by
  rcases hfile : disk.files .current with - | content
  · rw [LogDisk.repair, hfile, LogDisk.content, hfile]
    rfl
  have hcontent : disk.content .current = content := by
    rw [LogDisk.content, hfile]
    rfl
  have hheld : held .current ≠ [] := by
    intro hnil
    rw [h.represents.files, fileOf_eq_none.mpr hnil] at hfile
    cases hfile
  have htail : content.rtakeWhile (· ≠ newline) = [] := by
    have hlast := h.getLast?_content hheld
    rw [hcontent] at hlast
    rw [List.rtakeWhile_eq_nil_iff]
    intro hne
    rw [List.getLast?_eq_getLast_of_ne_nil hne] at hlast
    simp [Option.some.inj hlast]
  have hrepair : repairIncompleteTail json content content.length = (content, content.length) := by
    rw [repairIncompleteTail_spec, if_pos htail]
  rw [LogDisk.repair, hfile, hcontent]
  dsimp only
  rw [hrepair, if_neg (Nat.lt_irrefl _), ← hfile, Function.update_eq_self]

theorem Keeps.rotate (h : Keeps disk accepted gone held) :
    Keeps disk.rotate accepted
      (if held (.backup 3) = [] then gone else gone ++ [held (.backup 3)]) (rotated held) where
  represents := h.represents.rotate
  accepted := by
    have hgone : (if held (.backup 3) = [] then gone else gone ++ [held (.backup 3)]).flatten =
        gone.flatten ++ held (.backup 3) := by
      split_ifs with hempty
      · rw [hempty, List.append_nil]
      · simp
    rw [hgone, h.accepted]
    simp [rotated]
  bounded file := by
    unfold rotated
    split_ifs
    · exact Nat.zero_le _
    · exact h.bounded .current
    · exact h.bounded (.backup 1)
    · exact h.bounded (.backup 2)
    · exact h.bounded file
  lines record hrecord := by cases hrecord

theorem Keeps.append (h : Keeps disk accepted gone held) {record : PyStr}
    (hrecord : EndsInNewline record)
    (hfits : (disk.content .current).length + (encodeUtf8 record).length ≤ maxFileBytes) :
    Keeps (disk.append .current (encodeUtf8 record)) (accepted ++ [record]) gone
      (Function.update held .current (held .current ++ [record])) where
  represents := h.represents.append .current record
  accepted := by
    rw [h.accepted]
    simp
  bounded file := by
    by_cases hfile : file = .current
    · rw [hfile, Function.update_self, textOf_concat, List.length_append, ← h.represents.content]
      exact hfits
    · rw [Function.update_of_ne hfile]
      exact h.bounded file
  lines record' hmem := by
    rw [Function.update_self] at hmem
    rcases List.mem_append.mp hmem with hmem | hmem
    · exact h.lines record' hmem
    · rwa [List.mem_singleton.mp hmem]

/-- A record that is not too large. -/
def fitsFile (record : PyStr) : Bool := (encodeUtf8 record).length ≤ maxFileBytes

/-- The running size is the size of the file, and the disk keeps what was accepted. -/
def Writing (s : LogDisk × ℕ) (accepted : List PyStr) : Prop :=
  s.2 = (s.1.content .current).length ∧ ∃ gone held, Keeps s.1 accepted gone held

theorem length_content_append (disk : LogDisk) (text : Bytes) :
    ((disk.append .current text).content .current).length =
      (disk.content .current).length + text.length := by
  simp [LogDisk.content, LogDisk.append]

/-- One record. -/
theorem Writing.line {s : LogDisk × ℕ} (h : Writing s accepted) {record : PyStr}
    (hrecord : EndsInNewline record) :
    Writing (writeLine s record) (accepted ++ [record].filter fitsFile) := by
  obtain ⟨disk, existing⟩ := s
  obtain ⟨rfl, gone, held, hkeeps⟩ : existing = (disk.content .current).length ∧ _ := h
  unfold writeLine
  dsimp only
  split_ifs with hlarge hrotate
  · have hfits : [record].filter fitsFile = [] := by
      simp [fitsFile, hlarge]
    rw [hfits, List.append_nil]
    exact ⟨rfl, gone, held, hkeeps⟩
  · have hempty : disk.rotate.content .current = [] := hkeeps.rotate.represents.content .current
    have hfits : [record].filter fitsFile = [record] := by
      simp [fitsFile, Nat.not_lt.mp hlarge]
    rw [hfits]
    refine ⟨?_, _, _, hkeeps.rotate.append hrecord ?_⟩
    · rw [length_content_append, hempty]
      rfl
    · rw [hempty, List.length_nil, Nat.zero_add]
      exact Nat.not_lt.mp hlarge
  · have hfits : [record].filter fitsFile = [record] := by
      simp [fitsFile, Nat.not_lt.mp hlarge]
    rw [hfits]
    refine ⟨(length_content_append disk _).symm, gone, _, hkeeps.append hrecord ?_⟩
    by_cases hzero : (disk.content .current).length = 0
    · rw [hzero, Nat.zero_add]
      exact Nat.not_lt.mp hlarge
    · exact Nat.not_lt.mp fun hover => hrotate ⟨hzero, hover⟩

theorem Writing.lines {s : LogDisk × ℕ} (h : Writing s accepted) {records : List PyStr}
    (hrecords : ∀ record ∈ records, EndsInNewline record) :
    Writing (records.foldl writeLine s) (accepted ++ records.filter fitsFile) := by
  induction records generalizing s accepted with
  | nil =>
      rw [List.filter_nil, List.append_nil]
      exact h
  | cons record records ih =>
      have hstep := ih (h.line (hrecords record List.mem_cons_self))
        fun r hr => hrecords r (List.mem_cons_of_mem _ hr)
      rw [List.append_assoc, ← List.filter_append] at hstep
      exact hstep

/-- One call. -/
theorem Keeps.writeLines (h : Keeps disk accepted gone held) (json : JsonLoader)
    {records : List PyStr} (hrecords : ∀ record ∈ records, EndsInNewline record) :
    ∃ gone held, Keeps (writeLines json disk records.flatten) (accepted ++ records.filter fitsFile)
      gone held := by
  have hexisting : (disk.files .current).elim 0 List.length = (disk.content .current).length := by
    rw [LogDisk.content]
    cases disk.files .current <;> rfl
  have hwriting : Writing (disk, (disk.content .current).length) accepted := ⟨rfl, gone, held, h⟩
  unfold GroBro.writeLines
  dsimp only
  rw [hexisting, h.repair, splitlines_flatten hrecords]
  exact (hwriting.lines hrecords).2

/-- **Log rotation keeps a contiguous recent history**: after any calls, each with a text of
records, the files hold the end of what was submitted without the records that are too large;
no file is larger than the limit, and what is gone went with the last backup. -/
theorem rotation_keeps_recent_history (json : JsonLoader) (calls : List (List PyStr))
    (h : ∀ records ∈ calls, ∀ record ∈ records, EndsInNewline record) :
    RecentHistory (run (writeLines json) .empty (calls.map List.flatten))
      (calls.flatten.filter fitsFile) := by
  have hkeeps : ∃ gone held, Keeps (run (GroBro.writeLines json) .empty (calls.map List.flatten))
      (calls.flatten.filter fitsFile) gone held := by
    induction calls using List.reverseRecOn with
    | nil => exact ⟨_, _, keeps_empty⟩
    | append_singleton calls records ih =>
        obtain ⟨gone, held, hkeeps⟩ := ih fun r hr => h r (List.mem_append_left _ hr)
        obtain ⟨gone', held', hnext⟩ := hkeeps.writeLines json
          (h records (List.mem_append_right _ (List.mem_singleton_self _)))
        rw [List.map_append, List.map_singleton, run_concat, List.flatten_append,
          List.flatten_singleton, List.filter_append]
        exact ⟨gone', held', hnext⟩
  obtain ⟨gone, held, hkeeps⟩ := hkeeps
  exact hkeeps.recentHistory

/-- Two calls, the second with two records. -/
theorem rotation_keeps_recent_history_twoCalls :
    RecentHistory (run (writeLines ⟨fun _ => true, fun _ => false⟩) .empty
      ["1\n".toList, "2\n3\n".toList]) ["1\n".toList, "2\n".toList, "3\n".toList] := by
  have hrecords : ∀ records ∈ [["1\n".toList], ["2\n".toList, "3\n".toList]], ∀ record ∈ records,
      EndsInNewline record := by
    have hone : ∀ c, isLineBreak c = false → EndsInNewline [c, '\n'] := fun c hc =>
      ⟨[c], by simpa using hc, Or.inl rfl⟩
    simp [hone, isLineBreak]
  have hfits : [["1\n".toList], ["2\n".toList, "3\n".toList]].flatten.filter fitsFile =
      ["1\n".toList, "2\n".toList, "3\n".toList] := by
    decide +kernel
  rw [← hfits]
  exact rotation_keeps_recent_history ⟨fun _ => true, fun _ => false⟩ _ hrecords

end History

end GroBro
