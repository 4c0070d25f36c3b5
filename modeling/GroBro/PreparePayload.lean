/-
GroBro/PreparePayload.lean

The battery filter behind the remapping: `_get_bat_number` of
`grobro/ha/register_helpers.py` and `_prepare_payload` of
`grobro/ha/performance.py`.

Renaming finds the slot of a key with patterns, the filter with a scan for digits.
A pattern has one digit and nothing behind it that the scan would take for another
(`KeyPattern.follow_not_digit`), so on slot keys they agree (`getBatNumber_of_slot`).
A battery that was placed has a logical slot up to the maximum that is returned, and
so none of its keys is filtered (`placed_keys_kept`).
-/
import GroBro.BatteryReservation
import GroBro.BatteryRemap
import GroBro.Registers

namespace GroBro

open OrderedDict

/-! ### The number in a key -/

/-- `str.isdigit` of one character, which may be true of a character that `int` does
not read. -/
class PyDigit extends PyUnicode where
  isDigit : Char → Bool
  isDigit_ascii : ∀ c : Char, c.toNat < 128 → isDigit c = c.isDigit

section Number

variable [PyDigit]

/-- The digits at the front of `rest`, read by `int`. -/
def leadingNumber (rest : PyStr) : Except PyError (Option ℤ) :=
  match rest.takeWhile PyDigit.isDigit with
  | [] => .ok none
  | digits =>
      match intOfText digits with
      | some n => .ok (some n)
      | none => .error .valueError

/-- `_get_bat_number` -/
def getBatNumber (name : PyStr) : Except PyError (Option ℤ) :=
  if "battery".toList.isPrefixOf name then leadingNumber (name.drop 7)
  else if "bat".toList.isPrefixOf name then
    let rest := name.drop 3
    leadingNumber (if "_".toList.isPrefixOf rest then rest.drop 1 else rest)
  else if "maxcvbat".toList.isPrefixOf name ∨ "mincvbat".toList.isPrefixOf name then
    leadingNumber (name.drop 8)
  else .ok none

end Number

/-! ### Preparing a payload -/

/-- What `_prepare_payload` asks of a payload value. -/
class PyReading (V : Type*) extends PyObject V where
  noneValue : V
  ofText : PyStr → V
  ofInt : ℤ → V
  /-- `isinstance(value, (int, float)) and value == -273.1` -/
  isUnset : V → Bool
  /-- The integer that the value equals as a key of a dictionary; not every value can
  be a key. -/
  dictKey : V → Except PyError (Option ℤ)
  /-- `int(round(value))` of a finite number that is no `bool` -/
  wholeNumber : V → Option ℤ

/-- `_register_rules`, as far as preparing reads it. -/
structure RegisterRules (F : Type*) where
  enumRegisters : Dict PyStr (GrowattRegisterDataType F)
  invalidBatteryTemps : List PyStr
  wholeWattPower : List PyStr

section Prepare

variable {V F : Type*} [PyReading V]

/-- `map_enum_value`; an exception leaves the value. -/
def mapEnumValue (data : GrowattRegisterDataType F) (value : V) : V :=
  if data.dataType ≠ .enum then value
  else match data.enumOptions with
  | none => value
  | some options =>
      if options.enumType ≠ .intMap then value
      else
        -- the keys of the map are integers, so looking up `str(value)` never finds one
        match PyReading.dictKey value with
        | .error _ => value
        | .ok key =>
            PyReading.ofText ((key.bind options.values.get?).getD (PyObject.str value))

/-- The value rules, for one key. -/
def preparedValue (rules : RegisterRules F) (key : PyStr) (rawValue : V) : V :=
  let value :=
    if PyReading.isUnset rawValue ∧ key ∈ rules.invalidBatteryTemps then PyReading.noneValue
    else rawValue
  let value := match rules.enumRegisters.get? key with
    | some data => mapEnumValue data value
    | none => value
  if key ∈ rules.wholeWattPower then
    match PyReading.wholeNumber value with
    | some n => PyReading.ofInt n
    | none => value
  else value

variable [PyDigit]

/-- The pass over the items. -/
def prepareLoop (rules : RegisterRules F) (effectiveMaxBat : ℤ) (payload : Dict PyStr V) :
    List (PyStr × V) → Except PyError (Dict PyStr V)
  | [] => .ok payload
  | (key, rawValue) :: rest =>
      match getBatNumber key with
      | .error e => .error e
      | .ok batNum =>
          if batNum.any (effectiveMaxBat < ·) then
            prepareLoop rules effectiveMaxBat payload rest
          else
            prepareLoop rules effectiveMaxBat
              (payload.insert key (preparedValue rules key rawValue)) rest

/-- `_prepare_payload` -/
def preparePayload (rules : RegisterRules F) (effectiveMaxBat : ℤ) (payload : Dict PyStr V) :
    Except PyError (Dict PyStr V) :=
  prepareLoop rules effectiveMaxBat ∅ payload.entries

end Prepare

/-! ### Slot keys -/

section SlotKeys

variable [PyDigit]

omit [PyDigit] in
/-- What a pattern lets follow the digit of a slot. -/
theorem KeyPattern.follow_cons {pattern : KeyPattern} (hp : pattern ∈ keyPatterns) {c : Char}
    {rest : PyStr} (h : pattern.follow (c :: rest) = true) :
    c = '_' ∨ c = '\n' ∨ ('A' ≤ c ∧ c ≤ 'Z') := by
  simp only [keyPatterns, List.mem_cons, List.not_mem_nil, or_false] at hp
  have hend : followEndOrUnderscore (c :: rest) = true → c = '_' ∨ c = '\n' := by
    intro h
    rcases rest with - | ⟨d, rest⟩
    · simpa [followEndOrUnderscore, or_comm] using h
    · exact Or.inl (by simpa [followEndOrUnderscore] using h)
  rcases hp with rfl | rfl | rfl | rfl | rfl
  · exact Or.inl (by simpa [followUnderscore] using h)
  · exact Or.inl (by simpa [followUnderscore] using h)
  · have hc : ('A' ≤ c ∧ c ≤ 'Z') ∨ c = '_' := by simpa [followUpperOrUnderscore] using h
    tauto
  · have hc := hend h
    tauto
  · have hc := hend h
    tauto

/-- None of it is a digit. -/
theorem KeyPattern.follow_not_digit {pattern : KeyPattern} (hp : pattern ∈ keyPatterns)
    {rest : PyStr} (h : pattern.follow rest = true) :
    ∀ c ∈ rest.head?, PyDigit.isDigit c = false := by
  have hascii : ∀ c : Char, c.toNat < 128 → c.isDigit = false → PyDigit.isDigit c = false := by
    intro c hc hd
    rw [PyDigit.isDigit_ascii c hc, hd]
  rcases rest with - | ⟨c, rest⟩
  · simp
  · intro c' hc'
    obtain rfl := Option.mem_some_iff.mp hc'
    rcases KeyPattern.follow_cons hp h with rfl | rfl | ⟨hA, hZ⟩
    · exact hascii '_' (by decide) (by decide)
    · exact hascii '\n' (by decide) (by decide)
    · have hlow : 65 ≤ c.toNat := hA
      have hhigh : c.toNat ≤ 90 := hZ
      refine hascii c (by omega) ?_
      simp only [Char.isDigit, Bool.and_eq_false_iff, decide_eq_false_iff_not,
        UInt32.le_iff_toNat_le, ge_iff_le]
      right
      show ¬ c.toNat ≤ 57
      omega

theorem leadingNumber_digit (p : Slot) {rest : PyStr}
    (h : ∀ c ∈ rest.head?, PyDigit.isDigit c = false) :
    leadingNumber (p.digit :: rest) = .ok (some p.value) := by
  have hdigit : p.digit.isDigit = true := by cases p <;> decide
  have hisDigit : PyDigit.isDigit p.digit = true := by
    rw [PyDigit.isDigit_ascii p.digit (by cases p <;> decide), hdigit]
  have hrest : rest.takeWhile PyDigit.isDigit = [] := by
    rcases rest with - | ⟨c, rest⟩
    · rfl
    · simp [h c rfl]
  have hvalue : p.digit.toNat - 48 = p.value := by cases p <;> rfl
  rw [leadingNumber, List.takeWhile_cons, if_pos hisDigit, hrest]
  dsimp only
  rw [intOfText_digit hdigit, hvalue]

/-- **The filter reads the slot that the pattern matched.** -/
theorem getBatNumber_of_slot {name : PyStr} {slot : Slot}
    (h : logicalSlotFromKey name = some slot) : getBatNumber name = .ok (some slot.value) := by
  obtain ⟨pattern, rest, hm⟩ := logicalSlotFromKey_eq_some_iff.mp h
  obtain ⟨hp, hmatch⟩ := matchKey_eq_some_iff.mp hm
  obtain ⟨rfl, hfollow⟩ := KeyPattern.match?_eq_some_iff.mp hmatch
  have hnumber := leadingNumber_digit slot (KeyPattern.follow_not_digit hp hfollow)
  rw [← hnumber]
  simp only [keyPatterns, List.mem_cons, List.not_mem_nil, or_false] at hp
  -- the prefix tests of each head, and what they drop
  rcases hp with rfl | rfl | rfl | rfl | rfl <;> cases slot <;> rfl

end SlotKeys

/-! ### What the filter keeps -/

section Kept

variable {V F : Type*} [PyReading V] [PyDigit] {rules : RegisterRules F} {effectiveMaxBat : ℤ}

/-- The number in the key is above the limit. -/
def filtered (effectiveMaxBat : ℤ) (key : PyStr) : Bool :=
  match getBatNumber key with
  | .ok (some n) => effectiveMaxBat < n
  | _ => false

/-- The assignments that the pass makes. -/
def keptItems (rules : RegisterRules F) (effectiveMaxBat : ℤ) (items : List (PyStr × V)) :
    List (PyStr × V) :=
  (items.filter fun item => !filtered effectiveMaxBat item.1).map fun item =>
    (item.1, preparedValue rules item.1 item.2)

theorem prepareLoop_ok {d out : Dict PyStr V} {items : List (PyStr × V)}
    (h : prepareLoop rules effectiveMaxBat d items = .ok out) :
    out = (keptItems rules effectiveMaxBat items).foldl (fun d p => d.insert p.1 p.2) d := by
  induction items generalizing d with
  | nil => exact (Except.ok.inj h).symm
  | cons item items ih =>
      obtain ⟨key, rawValue⟩ := item
      rw [prepareLoop] at h
      rcases hnumber : getBatNumber key with e | batNum
      · rw [hnumber] at h
        cases h
      · have hfiltered : filtered effectiveMaxBat key = batNum.any (effectiveMaxBat < ·) := by
          rw [filtered, hnumber]
          cases batNum <;> rfl
        rw [hnumber] at h
        dsimp only at h
        rw [keptItems, List.filter_cons]
        split_ifs at h with hout
        · rw [ih h, if_neg (by simpa [hfiltered] using hout)]
          rfl
        · rw [ih h, if_pos (by simpa [hfiltered] using hout)]
          rfl

/-- The pass returns if `int` reads the digits of every key. -/
theorem exists_prepareLoop_iff {d : Dict PyStr V} {items : List (PyStr × V)} :
    (∃ out, prepareLoop rules effectiveMaxBat d items = .ok out) ↔
      ∀ item ∈ items, (getBatNumber item.1).isOk = true := by
  induction items generalizing d with
  | nil => simp [prepareLoop]
  | cons item items ih =>
      obtain ⟨key, rawValue⟩ := item
      rw [prepareLoop, List.forall_mem_cons]
      rcases hnumber : getBatNumber key with e | batNum
      · simp [Except.isOk, Except.toBool]
      · have hread : (Except.ok batNum : Except PyError (Option ℤ)).isOk = true := rfl
        dsimp only
        split_ifs
        · simp [ih, hread]
        · simp [ih, hread]

/-- **What is published after preparing**: every key that is not filtered, with its
value under the rules, and nothing else. -/
theorem preparePayload_get? {payload prepared : Dict PyStr V}
    (h : preparePayload rules effectiveMaxBat payload = .ok prepared) (key : PyStr) :
    prepared.get? key =
      if filtered effectiveMaxBat key then none
      else (payload.get? key).map (preparedValue rules key) := by
  obtain rfl := prepareLoop_ok h
  have hmem : ∀ v, (key, v) ∈ keptItems rules effectiveMaxBat payload.entries ↔
      filtered effectiveMaxBat key = false ∧
        ∃ raw, payload.get? key = some raw ∧ preparedValue rules key raw = v := by
    intro v
    simp only [keptItems, List.mem_map, List.mem_filter, Prod.exists, Prod.mk.injEq,
      Bool.not_eq_true']
    constructor
    · rintro ⟨k, raw, ⟨hentry, hkept⟩, rfl, rfl⟩
      exact ⟨hkept, raw, payload.mem_entries.mp hentry, rfl⟩
    · rintro ⟨hkept, raw, hget, rfl⟩
      exact ⟨key, raw, ⟨payload.mem_entries.mpr hget, hkept⟩, rfl, rfl⟩
  rcases hf : filtered effectiveMaxBat key with - | -
  · rcases hget : payload.get? key with - | raw
    -- nothing assigns a key that the payload does not have
    · refine (Dict.get?_foldl_insert_of_not_mem _ fun hkey => ?_).trans rfl
      obtain ⟨⟨k, v⟩, hv, rfl⟩ := List.mem_map.mp hkey
      obtain ⟨-, raw, hraw, -⟩ := (hmem v).mp hv
      rw [hget] at hraw
      cases hraw
    · refine Dict.get?_foldl_insert_of_mem _ ((hmem _).mpr ⟨hf, raw, hget, rfl⟩) fun v hv => ?_
      obtain ⟨-, raw', hraw, rfl⟩ := (hmem v).mp hv
      rw [hget] at hraw
      obtain rfl := Option.some.inj hraw
      rfl
  · refine (Dict.get?_foldl_insert_of_not_mem _ fun hkey => ?_).trans rfl
    obtain ⟨⟨k, v⟩, hv, rfl⟩ := List.mem_map.mp hkey
    obtain ⟨hkept, -⟩ := (hmem v).mp hv
    rw [hf] at hkept
    cases hkept

/-- A slot key up to the limit is not filtered. -/
theorem not_filtered_of_slot {key : PyStr} {l : Slot} (h : logicalSlotFromKey key = some l)
    (hl : (l.value : ℤ) ≤ effectiveMaxBat) : filtered effectiveMaxBat key = false := by
  rw [filtered, getBatNumber_of_slot h]
  simpa using hl

/-- **No key of a placed battery is filtered.**  Only identified batteries are placed
(`Placed`), and the maximum that is returned covers the slot of each. -/
theorem placed_keys_kept {w : BatteryWorld} {deviceId : PyStr} {payload : Dict PyStr V}
    {manual : ManualAssignments} {useStableAuto : Bool} {io : IoOutcome}
    {prepared : Dict PyStr V}
    (hmax : ((stabilizeLocked w deviceId payload manual useStableAuto io).2.2 : ℤ) ≤
      effectiveMaxBat)
    (h : preparePayload rules effectiveMaxBat
      (stabilizeLocked w deviceId payload manual useStableAuto io).2.1 = .ok prepared)
    {p l : Slot} (hl : placement w deviceId payload manual useStableAuto io p = some l)
    {key : PyStr} (hkey : logicalSlotFromKey key = some l) :
    prepared.get? key =
      ((stabilizeLocked w deviceId payload manual useStableAuto io).2.1.get? key).map
        (preparedValue rules key) := by
  have hvalue : l.value ≤ (stabilizeLocked w deviceId payload manual useStableAuto io).2.2 := by
    rw [stabilizeLocked_snd]
    exact value_le_maxLogical hl
  rw [preparePayload_get? h, not_filtered_of_slot hkey (by omega)]
  rfl

variable (V F) in
/-- **Renaming and filtering read keys the same way.**  A renamed slot key is read with
its new slot by both, and renaming it back or beside another loses nothing; after a
packet is placed, preparing it with a limit that covers the returned maximum keeps
every key of a placed battery.  Preparing fails only on a key whose digits `int` does
not read. -/
theorem battery_filter_agrees :
    (∀ k p l, logicalSlotFromKey k = some p →
      logicalSlotFromKey (remapKey k l) = some l ∧
      getBatNumber (remapKey k l) = .ok (some l.value) ∧
      remapKey (remapKey k l) p = k ∧
      ∀ k', logicalSlotFromKey k' = some p → remapKey k l = remapKey k' l → k = k') ∧
    (∀ (w : BatteryWorld) deviceId (payload : Dict PyStr V) manual useStableAuto io
      (rules : RegisterRules F) (effectiveMaxBat : ℤ),
      let out := (stabilizeLocked w deviceId payload manual useStableAuto io).2
      (out.2 : ℤ) ≤ effectiveMaxBat →
      (∀ prepared, preparePayload rules effectiveMaxBat out.1 = .ok prepared →
        ∀ p l key value, placement w deviceId payload manual useStableAuto io p = some l →
          logicalSlotFromKey key = some l → out.1.get? key = some value →
          prepared.get? key = some (preparedValue rules key value)) ∧
      ((∃ prepared, preparePayload rules effectiveMaxBat out.1 = .ok prepared) ↔
        ∀ item ∈ out.1.entries, (getBatNumber item.1).isOk = true)) := by
  refine ⟨?_, ?_⟩
  · intro k p l h
    refine ⟨logicalSlotFromKey_remapKey h l, getBatNumber_of_slot (logicalSlotFromKey_remapKey h l),
      ?_, fun k' h' e => remapKey_injective h h' e⟩
    rw [remapKey_remapKey h, remapKey_self h]
  · intro w deviceId payload manual useStableAuto io rules effectiveMaxBat out hmax
    refine ⟨?_, exists_prepareLoop_iff⟩
    intro prepared h p l key value hl hkey hvalue
    rw [placed_keys_kept hmax h hl hkey, hvalue]
    rfl

end Kept

/-- Payload values: `None`, a number or a text. -/
abbrev Reading := Option (ℤ ⊕ PyStr)

instance : PyReading Reading where
  isNone := Option.isNone
  str value := value.elim "None".toList (Sum.elim (fun n => (toString n).toList) id)
  noneValue := none
  ofText s := some (.inr s)
  ofInt n := some (.inl n)
  isUnset _ := false
  dictKey value := .ok (value.bind Sum.getLeft?)
  wholeNumber value := value.bind Sum.getLeft?

/-- The digits of ASCII and no others. -/
@[reducible] def PyDigit.asciiOnly : PyDigit where
  toPyUnicode := PyUnicode.asciiOnly
  isDigit := Char.isDigit
  isDigit_ascii _ _ := rfl

/-- A battery that is chosen for slot 2 is reported as the third one. -/
def movedBattery : Dict PyStr Reading :=
  .ofList [(serialKey .three '1', some (.inr "ABCDEFGH12".toList)),
    ("bat3_soc".toList, some (.inl 50))]

theorem battery_filter_agrees_moved :
    letI := PyDigit.asciiOnly
    let w : BatteryWorld := ⟨⟨none, false⟩, .absent⟩
    let out := (stabilizeLocked w ['D'] movedBattery chosenSlots true ⟨true, true⟩).2
    ∃ prepared, preparePayload (⟨∅, [], []⟩ : RegisterRules ℤ) 2 out.1 = .ok prepared ∧
      prepared.get? "bat2_soc".toList = some (some (.inl 50)) := by
  let _ := PyDigit.asciiOnly
  intro w out
  obtain ⟨-, hfilter⟩ := battery_filter_agrees Reading ℤ
  obtain ⟨hkept, hreturns⟩ := hfilter w ['D'] movedBattery chosenSlots true
    ⟨true, true⟩ ⟨∅, [], []⟩ 2 (by decide +kernel)
  obtain ⟨prepared, h⟩ := hreturns.mpr (by decide +kernel)
  have hl : placement w ['D'] movedBattery chosenSlots true ⟨true, true⟩ .three = some .two := by
    decide +kernel
  have hkey : logicalSlotFromKey "bat2_soc".toList = some .two := by decide
  have hv : out.1.get? "bat2_soc".toList = some (some (.inl 50)) := by
    decide +kernel
  exact ⟨prepared, h, hkept prepared h .three .two "bat2_soc".toList _ hl hkey hv⟩

end GroBro
