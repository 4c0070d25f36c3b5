/-
GroBro/ConfigResponse.lean

`parse_config_message` of `grobro/grobro/parser.py`: the response to a
configuration read.  After a 41-byte header come register/length/value entries
and a two-byte trailer; a packet without a single readable entry is read again
in an older fixed layout.

The entry loop is a scan of a frame format (`parseEntries_eq`) whose frames have
a nonempty value, so an entry with an empty value ends the scan.
`parseConfigMessage_raw` says what the parser makes of any list of frames, and
`decodedCompletely_iff` for which lists of entries that is the list itself.
-/
import GroBro.PyText
import GroBro.Framing

namespace GroBro

open ByteCodec Framing

/-! ### The parser -/

def configResponseHeaderSize : ℕ := 41
def configLegacyHeaderSize : ℕ := 45
def configTlvHeaderSize : ℕ := 4

/-- One register and its value. -/
structure ConfigEntry where
  registerNo : ℕ
  value : PyStr
  deriving DecidableEq, Repr

structure ConfigMessage where
  header : Bytes
  messageLength : ℕ
  messageType : ℕ
  deviceId : PyStr
  configType : ℕ
  registerNo : ℕ
  value : PyStr
  entries : List ConfigEntry
  deriving DecidableEq, Repr

/-- `raw.decode("ascii", errors="replace").strip("\x00")` -/
def configValue (raw : Bytes) : PyStr := stripNul (decodeReplace raw)

/-- The `while` loop of the parser, from `pos` up to `stop`. -/
def parseEntries (data : Bytes) (pos stop : ℕ) : List ConfigEntry :=
  if _h : pos + configTlvHeaderSize ≤ stop then
    let registerNo := u16At data pos
    let valueLen := u16At data (pos + 2)
    let start := pos + configTlvHeaderSize
    if valueLen ≤ 0 ∨ start + valueLen > stop then []
    else
      { registerNo, value := configValue (slice data start (start + valueLen)) } ::
        parseEntries data (start + valueLen) stop
  else []
termination_by stop - pos
decreasing_by
  simp only [configTlvHeaderSize] at *
  omega

/-- The single entry of the historic fixed layout. -/
def parseLegacyEntry (data : Bytes) : Except PyError (List ConfigEntry) :=
  if data.length < configLegacyHeaderSize + 2 then .error .valueError
  else .ok
    [{ registerNo := u16At data 41
       value := configValue (slice data configLegacyHeaderSize (data.length - 2)) }]

/-- The header fields with the entries; the first entry is also the top-level
register and value (there always is one). -/
def configMessage (data : Bytes) (entries : List ConfigEntry) : ConfigMessage :=
  let first := entries.headD ⟨0, []⟩
  { header := slice data 0 4
    messageLength := u16At data 4
    messageType := u16At data 6
    deviceId := decodeReplace (rstripNul (slice data 8 24))
    configType := u16At data 38
    registerNo := first.registerNo
    value := first.value
    entries }

def parseConfigMessage (data : Bytes) : Except PyError ConfigMessage := do
  if data.length < configResponseHeaderSize + 4 + 2 then throw .valueError
  let found := parseEntries data configResponseHeaderSize (data.length - 2)
  let entries ← if found = [] then parseLegacyEntry data else pure found
  return configMessage data entries

/-! ### Entries as frames -/

/-- A register and the bytes of its value. -/
structure RawEntry where
  registerNo : ℕ
  rawValue : Bytes

def RawEntry.wire (e : RawEntry) : Bytes :=
  u16Bytes e.registerNo ++ (u16Bytes e.rawValue.length ++ e.rawValue)

def RawEntry.entry (e : RawEntry) : ConfigEntry := ⟨e.registerNo, configValue e.rawValue⟩

/-- The entries the loop reads: the length fits its field and is not zero. -/
structure RawEntry.Readable (e : RawEntry) : Prop where
  registerNo : e.registerNo < 65536
  nonempty : e.rawValue ≠ []
  length : e.rawValue.length < 65536

theorem RawEntry.length_wire (e : RawEntry) :
    e.wire.length = configTlvHeaderSize + e.rawValue.length := by
  simp only [wire, List.length_append, length_u16Bytes, configTlvHeaderSize]
  omega

/-- The entry at the front of a buffer. -/
def decodeEntry (w : Bytes) : Option RawEntry :=
  if w.length < configTlvHeaderSize then none
  else if u16At w 2 = 0 ∨ w.length < configTlvHeaderSize + u16At w 2 then none
  else some ⟨u16At w 0, slice w configTlvHeaderSize (configTlvHeaderSize + u16At w 2)⟩

theorem decodeEntry_wire {e : RawEntry} (h : e.Readable) (r : Bytes) :
    decodeEntry (e.wire ++ r) = some e := by
  have hpos : 0 < e.rawValue.length := List.length_pos_of_ne_nil h.nonempty
  have hsize : configTlvHeaderSize = 4 := rfl
  have htotal : (e.wire ++ r).length = 4 + e.rawValue.length + r.length := by
    rw [List.length_append, e.length_wire, hsize]
  have hw : e.wire ++ r =
      u16Bytes e.registerNo ++ (u16Bytes e.rawValue.length ++ (e.rawValue ++ r)) := by
    simp [RawEntry.wire]
  have hreg : u16At (e.wire ++ r) 0 = e.registerNo := by
    rw [hw]
    exact u16At_u16Bytes h.registerNo _
  have hlen : u16At (e.wire ++ r) 2 = e.rawValue.length := by
    rw [hw, u16At_u16Bytes_skip _ _ 0]
    exact u16At_u16Bytes h.length _
  have hvalue : slice (e.wire ++ r) configTlvHeaderSize
      (configTlvHeaderSize + e.rawValue.length) = e.rawValue := by
    rw [hw, ← List.append_assoc]
    exact slice_append_mid _ _ _ rfl rfl
  rw [decodeEntry, hlen, htotal, if_neg (by omega), if_neg (by omega), hreg, hvalue]

theorem decodeEntry_sound {w : Bytes} {e : RawEntry} (h : decodeEntry w = some e) :
    e.Readable ∧ ∃ r, w = e.wire ++ r := by
  have hsize : configTlvHeaderSize = 4 := rfl
  unfold decodeEntry at h
  split_ifs at h with hshort hbad
  obtain rfl := Option.some.inj h
  push Not at hbad
  obtain ⟨hne, hfit⟩ := hbad
  set n := configTlvHeaderSize + u16At w 2 with hn
  have hvalue : (slice w configTlvHeaderSize n).length = u16At w 2 := by
    rw [length_slice_of_le hfit]
    omega
  have hlt := u16At_lt w 2
  refine ⟨⟨u16At_lt w 0, ?_, ?_⟩, w.drop n, ?_⟩
  · intro he
    have hl := congrArg List.length he
    exact hne (hvalue.symm.trans hl)
  · show (slice w configTlvHeaderSize n).length < 65536
    omega
  · have hhead : u16Bytes (u16At w 0) ++ u16Bytes (u16At w 2) = w.take 4 := by
      rw [u16Bytes_u16At w (by omega), u16Bytes_u16At w (by omega)]
      exact slice_append_slice w (by omega) (by omega)
    calc w = w.take n ++ w.drop n := (List.take_append_drop n w).symm
      _ = (w.take 4 ++ slice w configTlvHeaderSize n) ++ w.drop n := by
          rw [hsize, take_append_slice w (by omega)]
      _ = _ := by
          rw [← hhead, RawEntry.wire]
          simp only [hvalue, List.append_assoc]

/-- Entries with a nonempty value are self-delimiting frames. -/
def entryFormat : Format RawEntry UInt8 where
  Valid := RawEntry.Readable
  encode := RawEntry.wire
  decode := decodeEntry
  decode_append h r := decodeEntry_wire h r
  decode_sound h := decodeEntry_sound h
  encode_ne_nil {e} _ he := by
    have hl := congrArg List.length he
    rw [e.length_wire, configTlvHeaderSize, List.length_nil] at hl
    omega

/-- The parser's loop is a scan of the bytes between the header and the trailer. -/
theorem parseEntries_eq {data : Bytes} {pos stop : ℕ} (hs : stop ≤ data.length) :
    parseEntries data pos stop = (entryFormat.scan (slice data pos stop)).1.map RawEntry.entry := by
  have hsize : configTlvHeaderSize = 4 := rfl
  -- on the number of bytes left
  induction hn : stop - pos using Nat.strong_induction_on generalizing pos with
  | _ n ih =>
  subst hn
  have hlen : (slice data pos stop).length = stop - pos := length_slice_of_le hs
  by_cases hroom : pos + configTlvHeaderSize ≤ stop
  · have hreg : u16At (slice data pos stop) 0 = u16At data pos := u16At_slice data (by omega)
    have hval : u16At (slice data pos stop) 2 = u16At data (pos + 2) := u16At_slice data (by omega)
    rw [parseEntries, dif_pos hroom]
    dsimp only
    by_cases hbad : u16At data (pos + 2) ≤ 0 ∨
        pos + configTlvHeaderSize + u16At data (pos + 2) > stop
    · have hd : entryFormat.decode (slice data pos stop) = none := by
        show decodeEntry _ = none
        rw [decodeEntry, hval, hlen, if_neg (by omega), if_pos (by omega)]
      rw [if_pos hbad, entryFormat.scan_of_none hd]
      rfl
    -- an entry: the value, and the rest from the same position on
    · have hraw : slice (slice data pos stop) configTlvHeaderSize
            (configTlvHeaderSize + u16At data (pos + 2))
          = slice data (pos + configTlvHeaderSize)
            (pos + configTlvHeaderSize + u16At data (pos + 2)) := by
        rw [slice_slice data (by omega), Nat.add_assoc]
      have hd : entryFormat.decode (slice data pos stop) = some ⟨u16At data pos,
          slice data (pos + configTlvHeaderSize)
            (pos + configTlvHeaderSize + u16At data (pos + 2))⟩ := by
        show decodeEntry _ = _
        rw [decodeEntry, hval, hlen, if_neg (by omega), if_neg (by omega), hreg, hraw]
      have hwidth : (entryFormat.encode ⟨u16At data pos,
          slice data (pos + configTlvHeaderSize)
            (pos + configTlvHeaderSize + u16At data (pos + 2))⟩).length
          = configTlvHeaderSize + u16At data (pos + 2) := by
        show (RawEntry.wire _).length = _
        rw [RawEntry.length_wire, length_slice_of_le (by omega)]
        omega
      have hrest : (slice data pos stop).drop (configTlvHeaderSize + u16At data (pos + 2))
          = slice data (pos + configTlvHeaderSize + u16At data (pos + 2)) stop := by
        rw [slice, slice, List.drop_drop, Nat.add_assoc]
      have hrec := ih (stop - (pos + configTlvHeaderSize + u16At data (pos + 2))) (by omega) rfl
      rw [if_neg hbad, hrec, entryFormat.scan_of_some hd, hwidth, hrest]
      rfl
  · have hd : entryFormat.decode (slice data pos stop) = none := by
      show decodeEntry _ = none
      rw [decodeEntry, hlen, if_pos (by omega)]
    rw [parseEntries, dif_neg hroom, entryFormat.scan_of_none hd]
    rfl

/-! ### Responses made of frames -/

/-- A frame that a device can send: the value may be empty. -/
structure RawEntry.Sendable (e : RawEntry) : Prop where
  registerNo : e.registerNo < 65536
  length : e.rawValue.length < 65536

/-- A response: header, entries, trailer. -/
def rawResponse (header : Bytes) (entries : List RawEntry) (trailer : Bytes) : Bytes :=
  header ++ (entryFormat.encodeAll entries ++ trailer)

/-- What the parser returns for a list of entries: those before the first empty
value; if the first value is already empty, one entry of the historic layout,
whose value is all the bytes behind it. -/
def readRaw : List RawEntry → List ConfigEntry
  | [] => []
  | e :: entries =>
      if e.rawValue = [] then [⟨e.registerNo, configValue (entryFormat.encodeAll entries)⟩]
      else ((e :: entries).takeWhile (·.rawValue ≠ [])).map RawEntry.entry

/-- An entry with an empty value stops the loop, whatever follows. -/
theorem decodeEntry_empty (registerNo : ℕ) (r : Bytes) :
    decodeEntry ((RawEntry.mk registerNo []).wire ++ r) = none := by
  have hlen : u16At ((RawEntry.mk registerNo []).wire ++ r) 2 = 0 := by
    show u16At (u16Bytes registerNo ++ (u16Bytes 0 ++ r)) 2 = 0
    exact (u16At_u16Bytes_skip registerNo _ 0).trans (u16At_u16Bytes (by decide) r)
  have hlong : ¬ ((RawEntry.mk registerNo []).wire ++ r).length < configTlvHeaderSize := by
    rw [List.length_append, RawEntry.length_wire]
    omega
  rw [decodeEntry, if_neg hlong, if_pos (Or.inl hlen)]

/-- The loop reads the entries before the first empty value. -/
theorem scan_encodeAll {entries : List RawEntry} (h : ∀ e ∈ entries, e.Sendable) :
    (entryFormat.scan (entryFormat.encodeAll entries)).1 =
      entries.takeWhile (·.rawValue ≠ []) := by
  induction entries with
  | nil =>
      have hd : entryFormat.decode (entryFormat.encodeAll []) = none := by
        show decodeEntry [] = none
        rfl
      rw [entryFormat.scan_of_none hd]
      rfl
  | cons e entries ih =>
      have he := h e List.mem_cons_self
      have hrec := ih fun e' h' => h e' (List.mem_cons_of_mem _ h')
      have hw : entryFormat.encodeAll (e :: entries) =
          entryFormat.encode e ++ entryFormat.encodeAll entries := rfl
      by_cases hne : e.rawValue = []
      · obtain ⟨registerNo, rawValue⟩ := e
        obtain rfl : rawValue = [] := hne
        have hd : entryFormat.decode (entryFormat.encodeAll (⟨registerNo, []⟩ :: entries)) = none :=
          decodeEntry_empty registerNo _
        rw [entryFormat.scan_of_none hd]
        rfl
      · have hreadable : e.Readable := ⟨he.registerNo, hne, he.length⟩
        rw [hw, entryFormat.scan_encode hreadable, hrec,
          List.takeWhile_cons_of_pos (by simpa using hne)]

section Raw

variable {header trailer : Bytes} {entries : List RawEntry}

/-- The historic layout takes everything behind the first entry's header for its
value. -/
theorem parseLegacyEntry_raw {e : RawEntry} {rest : List RawEntry}
    (hh : header.length = configResponseHeaderSize) (ht : trailer.length = 2)
    (hreg : e.registerNo < 65536) (hempty : e.rawValue = []) :
    parseLegacyEntry (rawResponse header (e :: rest) trailer) =
      .ok [⟨e.registerNo, configValue (entryFormat.encodeAll rest)⟩] := by
  set data := rawResponse header (e :: rest) trailer with hdata
  have hlegacy : configLegacyHeaderSize = 45 := rfl
  have hsplit : data = (header ++ e.wire) ++ (entryFormat.encodeAll rest ++ trailer) := by
    simp only [hdata, rawResponse, Format.encodeAll_cons, List.append_assoc]
    rfl
  have hfour : e.wire.length = 4 := by
    rw [RawEntry.length_wire, hempty]
    rfl
  have hwidth : (header ++ e.wire).length = configLegacyHeaderSize := by
    rw [List.length_append, hh, hfour]
    rfl
  have hlen : data.length = configLegacyHeaderSize + (entryFormat.encodeAll rest).length + 2 := by
    rw [hsplit, List.length_append, hwidth, List.length_append, ht, Nat.add_assoc]
  have hfirst : u16At data 41 = e.registerNo := by
    rw [hsplit, RawEntry.wire, List.append_assoc, List.append_assoc]
    exact u16At_mid _ _ hreg hh.symm
  have hvalue : slice data configLegacyHeaderSize (data.length - 2) = entryFormat.encodeAll rest := by
    rw [hlen, hsplit]
    exact slice_append_mid _ _ _ hwidth.symm (by rw [hwidth]; rfl)
  rw [parseLegacyEntry, if_neg (by omega), hfirst, hvalue]

/-- Every response with at least one entry is parsed, into `readRaw`. -/
theorem parseConfigMessage_raw (hh : header.length = configResponseHeaderSize)
    (ht : trailer.length = 2) (hne : entries ≠ []) (h : ∀ e ∈ entries, e.Sendable) :
    parseConfigMessage (rawResponse header entries trailer) =
      .ok (configMessage (rawResponse header entries trailer) (readRaw entries)) := by
  obtain ⟨e, rest, rfl⟩ := List.exists_cons_of_ne_nil hne
  set data := rawResponse header (e :: rest) trailer with hdata
  have hhead : configResponseHeaderSize = 41 := rfl
  -- long enough for the parser's first check
  have hwire : 4 ≤ (entryFormat.encodeAll (e :: rest)).length := by
    show 4 ≤ (e.wire ++ entryFormat.encodeAll rest).length
    rw [List.length_append, RawEntry.length_wire, configTlvHeaderSize]
    omega
  have hlen : data.length = 41 + (entryFormat.encodeAll (e :: rest)).length + 2 := by
    rw [hdata, rawResponse, List.length_append, List.length_append, hh, ht, hhead]
    omega
  have harea : slice data configResponseHeaderSize (data.length - 2) =
      entryFormat.encodeAll (e :: rest) :=
    slice_append_mid _ _ _ hh.symm (by omega)
  have hloop : parseEntries data configResponseHeaderSize (data.length - 2)
      = ((e :: rest).takeWhile (·.rawValue ≠ [])).map RawEntry.entry := by
    rw [parseEntries_eq (by omega), harea, scan_encodeAll h]
  rw [parseConfigMessage, if_neg (by omega), hloop]
  dsimp only
  by_cases hempty : e.rawValue = []
  -- without an entry the historic layout is tried
  · have hnone : (e :: rest).takeWhile (·.rawValue ≠ []) = [] :=
      List.takeWhile_cons_of_neg (by simpa using hempty)
    have hreg := (h e List.mem_cons_self).registerNo
    rw [if_pos (List.map_eq_nil_iff.mpr hnone), parseLegacyEntry_raw hh ht hreg hempty, readRaw,
      if_pos hempty]
    rfl
  · have hsome : ¬ ((e :: rest).takeWhile (·.rawValue ≠ [])).map RawEntry.entry = [] := by
      rw [List.map_eq_nil_iff, List.takeWhile_cons_of_pos (by simpa using hempty)]
      exact List.cons_ne_nil _ _
    rw [if_neg hsome, readRaw, if_neg hempty]
    rfl

/-- A response without entries is too short. -/
theorem parseConfigMessage_raw_nil (hh : header.length = configResponseHeaderSize)
    (ht : trailer.length = 2) :
    parseConfigMessage (rawResponse header [] trailer) = .error .valueError := by
  have hlen : (rawResponse header [] trailer).length = 43 := by
    rw [rawResponse, Format.encodeAll_nil, List.nil_append, List.length_append, hh, ht]
    rfl
  rw [parseConfigMessage, hlen]
  rfl

end Raw

/-! ### Responses made of entries -/

/-- An entry a configuration write can have stored: the value may be empty. -/
structure ConfigEntry.Storable (e : ConfigEntry) : Prop where
  registerNo : e.registerNo < 65536
  ascii : IsAscii e.value
  trimmed : NulTrimmed e.value
  length : e.value.length < 65536

/-- The entry with its value in bytes. -/
def ConfigEntry.raw (e : ConfigEntry) : RawEntry := ⟨e.registerNo, asciiBytes e.value⟩

/-- The entries one after the other, as register, length and value. -/
def entriesWire (entries : List ConfigEntry) : Bytes :=
  entryFormat.encodeAll (entries.map ConfigEntry.raw)

/-- A response: header, entries, trailer. -/
def configResponse (header : Bytes) (entries : List ConfigEntry) (trailer : Bytes) : Bytes :=
  header ++ (entriesWire entries ++ trailer)

theorem ConfigEntry.Storable.entry_raw {e : ConfigEntry} (h : e.Storable) : e.raw.entry = e := by
  have hv : configValue (asciiBytes e.value) = e.value := by
    rw [configValue, decodeReplace_asciiBytes h.ascii]
    exact stripBy_eq_self h.trimmed
  rw [RawEntry.entry, ConfigEntry.raw, hv]

theorem ConfigEntry.Storable.sendable {e : ConfigEntry} (h : e.Storable) : e.raw.Sendable := by
  refine ⟨h.registerNo, ?_⟩
  show (asciiBytes e.value).length < 65536
  rw [length_asciiBytes]
  exact h.length

theorem rawValue_raw_eq_nil {e : ConfigEntry} : e.raw.rawValue = [] ↔ e.value = [] :=
  List.map_eq_nil_iff

/-- What the parser returns for a list of entries, as entries. -/
def readEntries : List ConfigEntry → List ConfigEntry
  | [] => []
  | e :: entries =>
      if e.value = [] then [⟨e.registerNo, configValue (entriesWire entries)⟩]
      else (e :: entries).takeWhile (·.value ≠ [])

/-- Entries that can be stored are read like their frames. -/
theorem readRaw_map_raw {entries : List ConfigEntry} (h : ∀ e ∈ entries, e.Storable) :
    readRaw (entries.map ConfigEntry.raw) = readEntries entries := by
  cases entries with
  | nil => rfl
  | cons e rest =>
      by_cases hempty : e.value = []
      · rw [readEntries, if_pos hempty, List.map_cons, readRaw,
          if_pos (rawValue_raw_eq_nil.mpr hempty)]
        rfl
      · have hprefix : ((e :: rest).map ConfigEntry.raw).takeWhile (·.rawValue ≠ []) =
            ((e :: rest).takeWhile (·.value ≠ [])).map ConfigEntry.raw := by
          rw [List.takeWhile_map]
          congr 2
          funext e'
          exact decide_eq_decide.mpr (not_congr rawValue_raw_eq_nil)
        have hback : ((e :: rest).takeWhile (·.value ≠ [])).map (RawEntry.entry ∘ ConfigEntry.raw) =
            ((e :: rest).takeWhile (·.value ≠ [])).map id := by
          apply List.map_congr_left
          intro e' he'
          exact (h e' (List.takeWhile_prefix _ |>.subset he')).entry_raw
        rw [List.map_cons, readRaw, if_neg (mt rawValue_raw_eq_nil.mp hempty), ← List.map_cons,
          hprefix, List.map_map, hback, List.map_id, readEntries, if_neg hempty]

section Response

variable {header trailer : Bytes} {entries : List ConfigEntry}

/-- Every response with at least one entry is parsed, into `readEntries`. -/
theorem parseConfigMessage_wire (hh : header.length = configResponseHeaderSize)
    (ht : trailer.length = 2) (hne : entries ≠ []) (h : ∀ e ∈ entries, e.Storable) :
    parseConfigMessage (configResponse header entries trailer) =
      .ok (configMessage (configResponse header entries trailer) (readEntries entries)) := by
  have hframes : ∀ e ∈ entries.map ConfigEntry.raw, e.Sendable := by
    intro e he
    obtain ⟨e', he', rfl⟩ := List.mem_map.mp he
    exact (h e' he').sendable
  have hparse := parseConfigMessage_raw hh ht (mt List.map_eq_nil_iff.mp hne) hframes
  rw [readRaw_map_raw h] at hparse
  exact hparse

/-- The parser returns exactly the entries of the response, and the first one as
the top-level register and value. -/
def DecodedCompletely (header : Bytes) (entries : List ConfigEntry) (trailer : Bytes) : Prop :=
  ∃ m, parseConfigMessage (configResponse header entries trailer) = .ok m ∧
    m.entries = entries ∧
    ∃ first ∈ entries.head?, m.registerNo = first.registerNo ∧ m.value = first.value

/-- A response is decoded completely exactly if reading its entries gives them back. -/
theorem decodedCompletely_iff_readEntries (hh : header.length = configResponseHeaderSize)
    (ht : trailer.length = 2) (hne : entries ≠ []) (h : ∀ e ∈ entries, e.Storable) :
    DecodedCompletely header entries trailer ↔ readEntries entries = entries := by
  have hm := parseConfigMessage_wire hh ht hne h
  constructor
  · rintro ⟨m, hm', he, -⟩
    rw [hm] at hm'
    obtain rfl := Except.ok.inj hm'
    exact he
  · intro he
    obtain ⟨e, rest, rfl⟩ := List.exists_cons_of_ne_nil hne
    rw [he] at hm
    exact ⟨_, hm, rfl, e, rfl, rfl, rfl⟩

/-- Reading gives back the lists without an empty value, and the single entry
with one. -/
theorem readEntries_eq_self_iff (hne : entries ≠ []) :
    readEntries entries = entries ↔
      (∀ e ∈ entries, e.value ≠ []) ∨ ∃ registerNo, entries = [⟨registerNo, []⟩] := by
  obtain ⟨e, rest, rfl⟩ := List.exists_cons_of_ne_nil hne
  by_cases hempty : e.value = []
  · rw [readEntries, if_pos hempty]
    constructor
    · intro he
      obtain ⟨hfirst, hrest⟩ := List.cons.inj he
      refine Or.inr ⟨e.registerNo, ?_⟩
      rw [← hrest]
      obtain ⟨registerNo, value⟩ := e
      obtain rfl : value = [] := hempty
      rfl
    · rintro (hall | ⟨registerNo, he⟩)
      · exact absurd hempty (hall e List.mem_cons_self)
      -- the single entry of the historic layout is the entry itself
      · obtain ⟨rfl, rfl⟩ := List.cons.inj he
        rfl
  · rw [readEntries, if_neg hempty, List.takeWhile_eq_self_iff]
    constructor
    · intro hall
      exact Or.inl fun e' h' => by simpa using hall e' h'
    · rintro (hall | ⟨registerNo, he⟩)
      · intro e' h'
        simpa using hall e' h'
      · obtain ⟨rfl, -⟩ := List.cons.inj he
        exact absurd rfl hempty

/-- **When a response is decoded completely**: no value is empty, or the only
entry has an empty value. -/
theorem decodedCompletely_iff (hh : header.length = configResponseHeaderSize)
    (ht : trailer.length = 2) (hne : entries ≠ []) (h : ∀ e ∈ entries, e.Storable) :
    DecodedCompletely header entries trailer ↔
      (∀ e ∈ entries, e.value ≠ []) ∨ ∃ registerNo, entries = [⟨registerNo, []⟩] := by
  rw [decodedCompletely_iff_readEntries hh ht hne h, readEntries_eq_self_iff hne]

end Response

/-- The header of a response of one NEO gateway. -/
def neoResponseHeader : Bytes :=
  [0x00, 0x01, 0x00, 0x07, 0x00, 0x30, 0x01, 0x19,
   0x51, 0x4D, 0x4E, 0x30, 0x30, 0x30, 0x42, 0x5A, 0x50, 0x34, 0x4E, 0x39, 0x39, 0x31, 0x4D, 0x4C] ++
  List.replicate 14 0 ++ [0x00, 0x02, 0x00]

theorem storable_wifiSignal : ConfigEntry.Storable ⟨76, ['-', '0', '6', '1']⟩ :=
  ⟨by decide, by decide, by decide, by decide⟩

theorem storable_unknown5 : ConfigEntry.Storable ⟨5, ['1']⟩ :=
  ⟨by decide, by decide, by decide, by decide⟩

/-- The compound response with Wi-Fi signal and register 5 is decoded completely. -/
theorem decodedCompletely_wifiSignal :
    DecodedCompletely neoResponseHeader [⟨76, ['-', '0', '6', '1']⟩, ⟨5, ['1']⟩] [0x44, 0x58] := by
  refine (decodedCompletely_iff rfl rfl (List.cons_ne_nil _ _) ?_).mpr (Or.inl (by decide))
  intro e he
  rcases List.mem_cons.mp he with rfl | he
  · exact storable_wifiSignal
  · obtain rfl := List.mem_singleton.mp he
    exact storable_unknown5

/-- An empty interval between the two loses the Wi-Fi signal. -/
theorem not_decodedCompletely_emptyInterval :
    ¬ ∀ header entries trailer, header.length = configResponseHeaderSize → trailer.length = 2 →
      entries ≠ [] → (∀ e ∈ entries, ConfigEntry.Storable e) →
      DecodedCompletely header entries trailer := by
  intro hall
  have hentries : ∀ e ∈ [(⟨5, ['1']⟩ : ConfigEntry), ⟨4, []⟩, ⟨76, ['-', '0', '6', '1']⟩],
      e.Storable := by
    intro e he
    rcases List.mem_cons.mp he with rfl | he
    · exact storable_unknown5
    rcases List.mem_cons.mp he with rfl | he
    · exact ⟨by decide, by decide, by decide, by decide⟩
    · obtain rfl := List.mem_singleton.mp he
      exact storable_wifiSignal
  have hsample := hall neoResponseHeader _ [0x44, 0x58] rfl rfl (List.cons_ne_nil _ _) hentries
  have hread := (decodedCompletely_iff_readEntries rfl rfl (List.cons_ne_nil _ _) hentries).mp hsample
  revert hread
  decide

end GroBro
