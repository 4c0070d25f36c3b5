/-
GroBro/BatteryPosition.lean

`grobro/ha/battery_position.py`: the batteries of a NOAH device are given logical
slots 2 to 4 by their serial numbers, and the telemetry keys of each physical
slot are renamed to the logical one.

* `serialsFromPayload` reads the serials off a telemetry payload;
* `assignAll` extends the persistent automatic map by new serials;
* `physicalToLogical` chooses the logical slot of every reported battery: a
  manual choice first, else the stable slot, else a free one;
* `remapPayload` renames the keys;
* `stabilizeLocked` does all of it on a client and the position file, where a
  read or a save may fail with `OSError`.

A slot is one of three, so a map to a slot that is not tracked cannot be built;
the loaders are where other numbers are dropped.  Log messages, locks and the
history of detected serials are left out.
-/
import GroBro.OrderedDict
import GroBro.PyText

namespace GroBro

open OrderedDict

/-! ### Slots -/

/-- `_TRACKED_SLOTS` -/
inductive Slot where
  | two
  | three
  | four
  deriving DecidableEq, Repr

namespace Slot

def value : Slot → ℕ
  | two => 2
  | three => 3
  | four => 4

def digit : Slot → Char
  | two => '2'
  | three => '3'
  | four => '4'

def ofDigit? : Char → Option Slot
  | '2' => some two
  | '3' => some three
  | '4' => some four
  | _ => none

/-- `slot_number in _TRACKED_SLOTS` -/
def ofInt? : ℤ → Option Slot
  | 2 => some two
  | 3 => some three
  | 4 => some four
  | _ => none

end Slot

def trackedSlots : List Slot := [.two, .three, .four]

theorem mem_trackedSlots (p : Slot) : p ∈ trackedSlots := by
  cases p <;> decide

/-! ### Telemetry keys -/

/-- A compiled pattern: the text before the slot digit and the lookahead on the
text after it. -/
structure KeyPattern where
  head : PyStr
  follow : PyStr → Bool

/-- `(?=_)` -/
def followUnderscore : PyStr → Bool
  | c :: _ => c == '_'
  | [] => false

/-- `(?=[A-Z_])` -/
def followUpperOrUnderscore : PyStr → Bool
  | c :: _ => ('A' ≤ c && c ≤ 'Z') || c == '_'
  | [] => false

/-- `(?=$|_)`; without flags `$` also matches before a final line feed. -/
def followEndOrUnderscore : PyStr → Bool
  | [] => true
  | [c] => c == '\n' || c == '_'
  | c :: _ => c == '_'

/-- `_BAT_KEY_PATTERNS`, the last one written out for its two alternatives. -/
def keyPatterns : List KeyPattern :=
  [⟨['b', 'a', 't'], followUnderscore⟩,
   ⟨['b', 'a', 't', '_'], followUnderscore⟩,
   ⟨['b', 'a', 't', 't', 'e', 'r', 'y'], followUpperOrUnderscore⟩,
   ⟨['m', 'a', 'x', 'c', 'v', 'b', 'a', 't'], followEndOrUnderscore⟩,
   ⟨['m', 'i', 'n', 'c', 'v', 'b', 'a', 't'], followEndOrUnderscore⟩]

/-- `pattern.match(name)`: the slot and the text behind its digit. -/
def KeyPattern.match? (pattern : KeyPattern) (name : PyStr) : Option (Slot × PyStr) :=
  if name.take pattern.head.length = pattern.head then
    match name.drop pattern.head.length with
    | [] => none
    | digit :: rest =>
        match Slot.ofDigit? digit with
        | none => none
        | some slot => if pattern.follow rest then some (slot, rest) else none
  else none

/-- The first pattern that matches, with its match. -/
def matchKey (name : PyStr) : Option (KeyPattern × Slot × PyStr) :=
  keyPatterns.findSome? fun pattern => (pattern.match? name).map fun found => (pattern, found)

def logicalSlotFromKey (name : PyStr) : Option Slot := (matchKey name).map fun found => found.2.1

def remapKey (name : PyStr) (logicalSlot : Slot) : PyStr :=
  match matchKey name with
  | none => name
  | some (pattern, _, rest) => pattern.head ++ logicalSlot.digit :: rest

/-! ### Serials -/

/-- What the code asks of a payload value. -/
class PyObject (V : Type*) where
  isNone : V → Bool
  /-- `str(value)` -/
  str : V → PyStr

/-- Payloads whose values are strings. -/
instance : PyObject PyStr where
  isNone _ := false
  str value := value

/-- `str(value).strip().strip("\x00").strip()` -/
def cleanSerialText (s : PyStr) : PyStr := strip (stripNul (strip s))

def cleanSerialPart {V : Type*} [PyObject V] : Option V → PyStr
  | none => []
  | some value => if PyObject.isNone value then [] else cleanSerialText (PyObject.str value)

def isPlausibleSerial [PyUnicode] (value : PyStr) : Bool :=
  8 ≤ value.length && value.length ≤ 40 &&
    value.all fun c => PyUnicode.isAlnum c || c ∈ ['.', '_', '-']

/-- `f"bat{slot}_ser_part_{index}"` -/
def serialKey (slot : Slot) (index : Char) : PyStr :=
  ['b', 'a', 't', slot.digit, '_', 's', 'e', 'r', '_', 'p', 'a', 'r', 't', '_', index]

section Payload

variable {V : Type*} [PyObject V] [PyUnicode]

/-- The serial that a physical slot reports. -/
def serialAt (payload : Dict PyStr V) (slot : Slot) : Option PyStr :=
  let values := ['1', '2', '3', '4'].map fun index => payload.get? (serialKey slot index)
  let parts := values.map cleanSerialPart
  -- wire fragments have four bytes; a longer first one is a complete serial
  let completeSerial := 4 < (parts.headD []).length ∧ parts.tail.all (· = [])
  if ¬ completeSerial ∧ values.any (fun value => value.elim true PyObject.isNone) then none
  else
    let serial := strip parts.flatten
    if isPlausibleSerial serial then some serial else none

/-- The serials of the physical slots 2 to 4. -/
def serialsFromPayload (payload : Dict PyStr V) : Slot → Option PyStr := serialAt payload

end Payload

/-- The reported batteries in the order of their physical slots. -/
def reported (currentSerials : Slot → Option PyStr) : List (Slot × PyStr) :=
  trackedSlots.filterMap fun slot => (currentSerials slot).map fun serial => (slot, serial)

theorem mem_reported {current : Slot → Option PyStr} {p : Slot} {serial : PyStr} :
    (p, serial) ∈ reported current ↔ current p = some serial := by
  rw [reported, List.mem_filterMap]
  constructor
  · rintro ⟨slot, -, h⟩
    obtain ⟨serial', hs, he⟩ := Option.map_eq_some_iff.mp h
    obtain ⟨rfl, rfl⟩ := Prod.mk.inj he
    exact hs
  · intro h
    exact ⟨p, mem_trackedSlots p, by rw [h]; rfl⟩

/-! ### Manual assignments -/

def autoAssignment : PyStr := "__auto__".toList
def emptyAssignment : PyStr := "__empty__".toList

/-- The manual choices of a device, by logical slot; a device without any has
`none` everywhere. -/
abbrev ManualAssignments := Slot → Option PyStr

def noAssignments : ManualAssignments := fun _ => none

/-- The loop of the loader over the tracked slots; `none` rejects the device. -/
def cleanAssignments [PyUnicode] (assignments : Dict PyStr PyStr) (explicitSerials : List PyStr)
    (clean : ManualAssignments) : List Slot → Option ManualAssignments
  | [] => some clean
  | slot :: slots =>
      let value := strip ((assignments.get? [slot.digit]).getD autoAssignment)
      if value = autoAssignment ∨ value = emptyAssignment then
        cleanAssignments assignments explicitSerials (Function.update clean slot (some value)) slots
      else if ¬ isPlausibleSerial value ∨ value ∈ explicitSerials then none
      else
        cleanAssignments assignments (value :: explicitSerials)
          (Function.update clean slot (some value)) slots

/-- The assignments of one device, as `_load_manual_positions` accepts them; each
value is given by its `str`. -/
def loadManualAssignments [PyUnicode] (assignments : Dict PyStr PyStr) : Option ManualAssignments :=
  cleanAssignments assignments [] noAssignments trackedSlots

/-- The slot a serial is explicitly assigned to. -/
def explicitSlot (manual : ManualAssignments) (serial : PyStr) : Option Slot :=
  trackedSlots.reverse.find? fun slot =>
    manual slot = some serial ∧ serial ≠ autoAssignment ∧ serial ≠ emptyAssignment

/-- `slot in reserved_manual_slots` -/
def reservedManual (manual : ManualAssignments) (slot : Slot) : Bool :=
  (manual slot).elim false (· ≠ autoAssignment)

/-! ### Automatic assignment -/

/-- The stable slot of a new serial.  The reserved slots are the values of the
map: the loop adds to both at once. -/
def freeStableSlot (mapping : Dict PyStr Slot) (physicalSlot : Slot) : Option Slot :=
  if physicalSlot ∉ mapping.values then some physicalSlot
  else trackedSlots.find? (· ∉ mapping.values)

/-- The loop that assigns slots to new serials, and whether it assigned any. -/
def assignLoop (mapping : Dict PyStr Slot) (changed : Bool) :
    List (Slot × PyStr) → Dict PyStr Slot × Bool
  | [] => (mapping, changed)
  | (physicalSlot, serial) :: rest =>
      if (mapping.get? serial).isSome then assignLoop mapping changed rest
      else match freeStableSlot mapping physicalSlot with
      | none => assignLoop mapping changed rest
      | some logicalSlot => assignLoop (mapping.insert serial logicalSlot) true rest

def assignAll (mapping : Dict PyStr Slot) (currentSerials : Slot → Option PyStr) :
    Dict PyStr Slot × Bool :=
  assignLoop mapping false (reported currentSerials)

/-! ### Logical slots -/

/-- `slot in used_slots`: the used slots are the logical slots given so far. -/
def usedSlot (toLogical : Slot → Option Slot) (slot : Slot) : Bool :=
  trackedSlots.any fun physicalSlot => toLogical physicalSlot = some slot

/-- Explicit serial selections always win. -/
def explicitSlots (manual : ManualAssignments) (currentSerials : Slot → Option PyStr) :
    Slot → Option Slot :=
  fun physicalSlot => (currentSerials physicalSlot).bind (explicitSlot manual)

/-- Neither reserved manually nor used. -/
def freeLogical (manual : ManualAssignments) (toLogical : Slot → Option Slot) (slot : Slot) : Bool :=
  !reservedManual manual slot && !usedSlot toLogical slot

/-- The logical slot of a battery without an explicit one: its automatic slot if
that is free, else the first free candidate. -/
def chooseLogical (mapping : Dict PyStr Slot) (useStableAuto : Bool) (manual : ManualAssignments)
    (toLogical : Slot → Option Slot) (physicalSlot : Slot) (serial : PyStr) : Option Slot :=
  let logicalSlot := if useStableAuto then mapping.get? serial else some physicalSlot
  match logicalSlot.filter (freeLogical manual toLogical) with
  | some slot => some slot
  | none => (physicalSlot :: trackedSlots).find? (freeLogical manual toLogical)

/-- The loop over the remaining batteries. -/
def placeLoop (mapping : Dict PyStr Slot) (useStableAuto : Bool) (manual : ManualAssignments)
    (toLogical : Slot → Option Slot) : List (Slot × PyStr) → Slot → Option Slot
  | [] => toLogical
  | (physicalSlot, serial) :: rest =>
      if (toLogical physicalSlot).isSome then
        placeLoop mapping useStableAuto manual toLogical rest
      else match chooseLogical mapping useStableAuto manual toLogical physicalSlot serial with
      | none => placeLoop mapping useStableAuto manual toLogical rest
      | some logicalSlot =>
          placeLoop mapping useStableAuto manual
            (Function.update toLogical physicalSlot (some logicalSlot)) rest

/-- `physical_to_logical` -/
def physicalToLogical (mapping : Dict PyStr Slot) (useStableAuto : Bool)
    (manual : ManualAssignments) (currentSerials : Slot → Option PyStr) : Slot → Option Slot :=
  placeLoop mapping useStableAuto manual (explicitSlots manual currentSerials)
    (reported currentSerials)

/-! ### Renaming the keys -/

/-- `max(physical_to_logical.values(), default=1)` -/
def maxLogical (toLogical : Slot → Option Slot) : ℕ :=
  (trackedSlots.filterMap toLogical).foldl (fun n slot => max n slot.value) 1

section Remap

variable {V : Type*}

/-- No slot is reserved and every battery stays where it is. -/
def staysInPlace (manual : ManualAssignments) (currentSerials : Slot → Option PyStr)
    (toLogical : Slot → Option Slot) : Bool :=
  (trackedSlots.all fun slot => !reservedManual manual slot) &&
    (trackedSlots.all fun slot => (toLogical slot).elim true (· = slot)) &&
    (trackedSlots.filter fun slot => (toLogical slot).isSome).length ==
      (trackedSlots.filter fun slot => (currentSerials slot).isSome).length

/-- The keys that name no slot, and those that do with their slot. -/
def otherItems (payload : Dict PyStr V) : List (PyStr × V) :=
  payload.entries.filter fun item => (logicalSlotFromKey item.1).isNone

def slotItems (payload : Dict PyStr V) : List (PyStr × V × Slot) :=
  payload.entries.filterMap fun item =>
    (logicalSlotFromKey item.1).map fun slot => (item.1, item.2, slot)

/-- An identified battery owns its logical slot: other physical slots are left out
where they would overwrite it or fill a reserved slot. -/
def leftOut (manual : ManualAssignments) (currentSerials : Slot → Option PyStr)
    (toLogical : Slot → Option Slot) (physicalSlot : Slot) : Bool :=
  (toLogical physicalSlot).isNone &&
    (usedSlot toLogical physicalSlot || reservedManual manual physicalSlot ||
      (currentSerials physicalSlot).isSome)

/-- The loop over the slot keys. -/
def remapLoop (manual : ManualAssignments) (currentSerials : Slot → Option PyStr)
    (toLogical : Slot → Option Slot) (remapped : Dict PyStr V) :
    List (PyStr × V × Slot) → Dict PyStr V
  | [] => remapped
  | (key, value, physicalSlot) :: rest =>
      if leftOut manual currentSerials toLogical physicalSlot then
        remapLoop manual currentSerials toLogical remapped rest
      else
        let logicalSlot := (toLogical physicalSlot).getD physicalSlot
        remapLoop manual currentSerials toLogical
          (remapped.insert (remapKey key logicalSlot) value) rest

def remapPayload (manual : ManualAssignments) (currentSerials : Slot → Option PyStr)
    (toLogical : Slot → Option Slot) (payload : Dict PyStr V) : Dict PyStr V :=
  if staysInPlace manual currentSerials toLogical then payload
  else
    remapLoop manual currentSerials toLogical (Dict.ofList (otherItems payload))
      (slotItems payload)

end Remap

/-! ### The position file -/

/-- A JSON value, as far as `int()` looks at it: a float is its integral part,
which NaN and the infinities do not have. -/
inductive Json where
  | null
  | bool (b : Bool)
  | int (n : ℤ)
  | float (truncated : Option ℤ)
  | str (s : PyStr)
  | arr (items : List Json)
  | obj (pairs : List (PyStr × Json))

/-- `battery_positions.json`: missing, unreadable as JSON, or a JSON value. -/
inductive PositionFile where
  | absent
  | malformed
  | json (value : Json)

/-- The digits of a decimal numeral, with single underscores between them. -/
def decimalDigits (decimal : Char → Option ℕ) : PyStr → Option (List ℕ)
  | [] => none
  | [c] => (decimal c).map fun d => [d]
  | c :: '_' :: rest => do return (← decimal c) :: (← decimalDigits decimal rest)
  | c :: rest => do return (← decimal c) :: (← decimalDigits decimal rest)

/-- The white space that `int` skips: unlike `str.strip` it stops at U+001C to U+001F. -/
def isNumeralSpace (c : Char) : Bool := isSpace c && !(28 ≤ c.toNat && c.toNat ≤ 31)

/-- `int(text)`; a numeral of more than 4300 digits is refused. -/
def intOfText [PyUnicode] (text : PyStr) : Option ℤ :=
  let digits := fun body => (decimalDigits PyUnicode.decimal body).filter (·.length ≤ 4300)
  let natural := fun body => (digits body).map fun ds => ds.foldl (fun n d => n * 10 + (d : ℤ)) 0
  match stripBy isNumeralSpace text with
  | '-' :: body => (natural body).map Neg.neg
  | '+' :: body => natural body
  | body => natural body

theorem isNumeralSpace_of_isDigit {d : Char} (h : d.isDigit = true) :
    isNumeralSpace d = false := by
  have hrange : 48 ≤ d.toNat ∧ d.toNat ≤ 57 := by
    simpa [Char.isDigit, UInt32.le_iff_toNat_le] using h
  have hspace : isSpace d = false := by
    simp only [isSpace, Bool.or_eq_false_iff, Bool.and_eq_false_iff, decide_eq_false_iff_not,
      beq_eq_false_iff_ne]
    omega
  rw [isNumeralSpace, hspace, Bool.false_and]

theorem intOfText_digit [PyUnicode] {d : Char} (h : d.isDigit = true) :
    intOfText [d] = some ((d.toNat - 48 : ℕ) : ℤ) := by
  have hrange : 48 ≤ d.toNat ∧ d.toNat ≤ 57 := by
    simpa [Char.isDigit, UInt32.le_iff_toNat_le] using h
  have hstrip : stripBy isNumeralSpace [d] = [d] :=
    stripBy_of_not_mem (by simpa using isNumeralSpace_of_isDigit h)
  have hsign : ∀ c : Char, c.toNat < 48 → d ≠ c := by
    rintro c hc rfl
    omega
  unfold intOfText
  rw [hstrip]
  simp [decimalDigits, PyUnicode.decimal_ascii d (by omega), h, hsign '-' (by decide),
    hsign '+' (by decide), Option.filter]

/-- The digits of a numeral as `int` reads them. -/
theorem decimalDigits_eq [PyUnicode] {s : PyStr} (hne : s ≠ [])
    (h : ∀ c ∈ s, c.isDigit = true) :
    decimalDigits PyUnicode.decimal s = some (s.map fun c => c.toNat - 48) := by
  have hdecimal : ∀ c, c.isDigit = true → PyUnicode.decimal c = some (c.toNat - 48) := by
    intro c hc
    have hrange : 48 ≤ c.toNat ∧ c.toNat ≤ 57 := by
      simpa [Char.isDigit, UInt32.le_iff_toNat_le] using hc
    rw [PyUnicode.decimal_ascii c (by omega), if_pos hc]
  induction s with
  | nil => exact absurd rfl hne
  | cons c s ih =>
      have hc := hdecimal c (h c List.mem_cons_self)
      cases s with
      | nil =>
          rw [decimalDigits, hc]
          rfl
      | cons d s =>
          have hd : d ≠ '_' := by
            rintro rfl
            exact absurd (h '_' (by simp)) (by decide)
          have hrest := ih (List.cons_ne_nil d s) fun x hx => h x (List.mem_cons_of_mem _ hx)
          rw [decimalDigits, hc, hrest]
          · rfl
          · exact List.cons_ne_nil d s
          · intro rest he
            exact hd (List.cons.inj he).1

theorem foldl_digits (l : PyStr) (n : ℕ) :
    (l.map fun c => c.toNat - 48).foldl (fun (n : ℤ) (d : ℕ) => n * 10 + (d : ℤ)) (n : ℤ) =
      (Nat.ofDigitChars 10 l n : ℤ) := by
  induction l generalizing n with
  | nil => rw [Nat.ofDigitChars_nil]; rfl
  | cons c l ih =>
      rw [List.map_cons, List.foldl_cons, Nat.ofDigitChars_cons]
      have hstep : (n : ℤ) * 10 + ((c.toNat - 48 : ℕ) : ℤ) =
          ((10 * n + (c.toNat - '0'.toNat) : ℕ) : ℤ) := by
        rw [show '0'.toNat = 48 from rfl]
        push_cast
        ring
      rw [hstep]
      exact ih _

/-- **A number is read back from its text**, if that is not too long. -/
theorem intOfText_toString [PyUnicode] {n : ℕ} (h : (toString n).toList.length ≤ 4300) :
    intOfText (toString n).toList = some (n : ℤ) := by
  have htext : (toString n).toList = Nat.toDigits 10 n := Nat.toList_repr
  rw [htext] at h ⊢
  have hdigit : ∀ c ∈ Nat.toDigits 10 n, c.isDigit = true :=
    fun c hc => Nat.isDigit_of_mem_toDigits (by decide) (by decide) hc
  have hstrip : stripBy isNumeralSpace (Nat.toDigits 10 n) = Nat.toDigits 10 n :=
    stripBy_of_not_mem fun c hc => isNumeralSpace_of_isDigit (hdigit c hc)
  have hvalue := foldl_digits (Nat.toDigits 10 n) 0
  rw [Nat.ofDigitChars_ten_toDigits] at hvalue
  have hdigits := decimalDigits_eq Nat.toDigits_ne_nil hdigit
  -- the digits are lifted to integers before they are summed up
  have hlift : ∀ ds : List ℕ, (do let d ← ds; pure (d : ℤ)) = ds.map fun d : ℕ => (d : ℤ) :=
    fun ds => List.flatMap_pure_eq_map _ ds
  obtain ⟨c, s, hs⟩ := List.exists_cons_of_ne_nil (Nat.toDigits_ne_nil (b := 10) (n := n))
  have hc : c.isDigit = true := hdigit c (by rw [hs]; exact List.mem_cons_self)
  have hminus : c ≠ '-' := by
    rintro rfl
    exact absurd hc (by decide)
  have hplus : c ≠ '+' := by
    rintro rfl
    exact absurd hc (by decide)
  unfold intOfText
  rw [hstrip]
  rw [hs] at hdigits h hvalue ⊢
  -- a digit is no sign
  split
  · next body he => exact absurd (List.cons.inj he).1 hminus
  · next body he => exact absurd (List.cons.inj he).1 hplus
  · dsimp only
    rw [hdigits, Option.filter_some, if_pos (by rw [List.length_map]; exact decide_eq_true h),
      Option.map_some, hlift, List.foldl_map]
    exact congrArg some hvalue

/-- `int(value)`, where it raises none of the caught errors. -/
def Json.toInt [PyUnicode] : Json → Option ℤ
  | null => none
  | bool b => some (if b then 1 else 0)
  | int n => some n
  | float truncated => truncated
  | str s => intOfText s
  | arr _ => none
  | obj _ => none

/-- The automatic maps of all devices: serial to stable slot. -/
abbrev PositionMaps := Dict PyStr (Dict PyStr Slot)

/-- The loop over the serials of one device. -/
def cleanMapping [PyUnicode] (clean : Dict PyStr Slot) (usedSlots : List Slot) :
    List (PyStr × Json) → Dict PyStr Slot
  | [] => clean
  | (serial, slot) :: rest =>
      match (slot.toInt).bind Slot.ofInt? with
      | none => cleanMapping clean usedSlots rest
      | some slotNumber =>
          let serialText := cleanSerialText serial
          if serialText ≠ [] ∧ slotNumber ∉ usedSlots then
            cleanMapping (clean.insert serialText slotNumber) (slotNumber :: usedSlots) rest
          else cleanMapping clean usedSlots rest

/-- The loop over the devices. -/
def cleanDevices [PyUnicode] (result : PositionMaps) : List (PyStr × Json) → PositionMaps
  | [] => result
  | (deviceId, .obj pairs) :: rest =>
      let clean := cleanMapping ∅ [] (Dict.ofList pairs).entries
      cleanDevices (if clean.entries = [] then result else result.insert deviceId clean) rest
  | _ :: rest => cleanDevices result rest

/-- `_load_all_positions`, when the file can be opened or is missing. -/
def loadAllPositions [PyUnicode] : PositionFile → PositionMaps
  | .json (.obj pairs) => cleanDevices ∅ (Dict.ofList pairs).entries
  | _ => ∅

/-- `json.dump(..., sort_keys=True)` -/
def sortKeys {α : Type*} (entries : List (PyStr × α)) : List (PyStr × α) :=
  entries.insertionSort fun p q => p.1 ≤ q.1

def savedMapping (mapping : Dict PyStr Slot) : Json :=
  .obj ((sortKeys mapping.entries).map fun entry => (entry.1, .int entry.2.value))

/-- What `_save_all_positions` writes. -/
def saveAllPositions (positions : PositionMaps) : PositionFile :=
  .json (.obj ((sortKeys positions.entries).map fun device => (device.1, savedMapping device.2)))

/-! ### Processing a packet -/

/-- What the client remembers of the automatic maps. -/
structure BatteryClient where
  positions : Option PositionMaps
  dirty : Bool

/-- The client and the file it shares with its successors. -/
structure BatteryWorld where
  client : BatteryClient
  file : PositionFile

/-- How the file accesses of a packet end: `true` for success, `false` for `OSError`. -/
structure IoOutcome where
  readOk : Bool
  saveOk : Bool

/-- `_position_maps`; `none` is an `OSError`. -/
def positionMaps [PyUnicode] (w : BatteryWorld) (readOk : Bool) : Option PositionMaps :=
  match w.client.positions with
  | some positions => some positions
  | none => if readOk then some (loadAllPositions w.file) else none

/-- The save at the end of the automatic assignment. -/
def savePositions (positions : PositionMaps) (changed : Bool) (saveOk : Bool) (w : BatteryWorld) :
    BatteryWorld :=
  if changed || w.client.dirty then
    if saveOk then ⟨⟨some positions, false⟩, saveAllPositions positions⟩
    else ⟨⟨some positions, true⟩, w.file⟩
  else ⟨⟨some positions, w.client.dirty⟩, w.file⟩

section Stabilize

variable {V : Type*} [PyObject V] [PyUnicode]

/-- The payload under a device's map, from the choice of logical slots on. -/
def stabilized (mapping : Dict PyStr Slot) (useStableAuto : Bool) (manual : ManualAssignments)
    (payload : Dict PyStr V) : Dict PyStr V × ℕ :=
  let currentSerials := serialsFromPayload payload
  let toLogical := physicalToLogical mapping useStableAuto manual currentSerials
  (remapPayload manual currentSerials toLogical payload, maxLogical toLogical)

/-- Nothing to do: no battery is reported and nothing is assigned manually. -/
def nothingAssigned (manual : ManualAssignments) (payload : Dict PyStr V) : Bool :=
  (trackedSlots.all fun slot => (serialsFromPayload payload slot).isNone) &&
    trackedSlots.all fun slot => (manual slot).isNone

/-- `_stabilize_battery_payload_locked` -/
def stabilizeLocked (w : BatteryWorld) (deviceId : PyStr) (payload : Dict PyStr V)
    (manual : ManualAssignments) (useStableAuto : Bool) (io : IoOutcome) :
    BatteryWorld × (Dict PyStr V × ℕ) :=
  match positionMaps w io.readOk with
  | none =>
      -- manual choices stay usable, but nothing is assigned or saved
      if nothingAssigned manual payload then (w, (payload, 1))
      else (w, stabilized ∅ false manual payload)
  | some positions =>
      let w := { w with client.positions := some positions }
      if nothingAssigned manual payload then (w, (payload, 1))
      else
        let mapping := (positions.get? deviceId).getD ∅
        if useStableAuto then
          let (assigned, changed) := assignAll mapping (serialsFromPayload payload)
          (savePositions (positions.insert deviceId assigned) changed io.saveOk w,
            stabilized assigned true manual payload)
        else
          ({ w with client.positions := some (positions.insert deviceId mapping) },
            stabilized mapping false manual payload)

/-- `prepare_battery_payload` -/
def prepareBatteryPayload (w : BatteryWorld) (deviceId : PyStr) (payload : Dict PyStr V)
    (manual : ManualAssignments) (useStableAuto : Bool) (io : IoOutcome) :
    BatteryWorld × (Dict PyStr V × ℕ) :=
  if ¬ useStableAuto ∧ ¬ trackedSlots.any (fun slot => (manual slot).elim false (· ≠ autoAssignment))
  then (w, (payload, 1))
  else stabilizeLocked w deviceId payload manual useStableAuto io

end Stabilize

end GroBro
