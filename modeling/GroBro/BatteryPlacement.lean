/-
GroBro/BatteryPlacement.lean

Which batteries keep their stable slot.  A physical slot asks for a logical slot
by its `Role`: it asks for nothing when it has no battery or one with an explicit
choice, for its stable slot when that is not reserved, and for any free slot
otherwise.  The placement of a packet is the greedy pass over the roles
(`placeLoop_eq_placeRoles`), so the question is one about three roles and three
reservations, and it is settled by going through them (`keepsHomes_iff`).  In the
payload a battery is found where it was placed (`publishedAt_iff`).

The comment above the loop of `_stabilize_battery_payload_locked` promises that
batteries keep their stable slot whenever it is not reserved.  The pass breaks
this when a battery without a home comes first and takes the slot
(`keepsStableSlots_iff`).
-/
import GroBro.BatteryRemap
import GroBro.BatteryStability

namespace GroBro

open OrderedDict Machine

/-! ### Roles -/

/-- What a physical slot asks for. -/
inductive Role where
  /-- Nothing: no battery, or one with an explicit slot. -/
  | idle
  /-- Any free slot. -/
  | homeless
  /-- The stable slot, which is not reserved. -/
  | home (slot : Slot)
  deriving DecidableEq, Repr

def Role.wanted : Role → Option Slot
  | home slot => some slot
  | _ => none

instance {p : Slot → Prop} [DecidablePred p] : Decidable (∀ s, p s) :=
  decidable_of_iff (p .two ∧ p .three ∧ p .four)
    ⟨fun h s => by cases s <;> simp [h], fun h => ⟨h _, h _, h _⟩⟩

/-- The free slots of a pass over roles. -/
def freeSlot (reserved : Slot → Bool) (given : Slot → Option Slot) (slot : Slot) : Bool :=
  !reserved slot && !usedSlot given slot

/-- The slot that a role gets. -/
def seek (reserved : Slot → Bool) (given : Slot → Option Slot) (p : Slot) (role : Role) :
    Option Slot :=
  match role.wanted.filter (freeSlot reserved given) with
  | some slot => some slot
  | none => (p :: trackedSlots).find? (freeSlot reserved given)

/-- The pass over the roles. -/
def placeRoles (reserved : Slot → Bool) (role : Slot → Role) (given : Slot → Option Slot) :
    List Slot → Slot → Option Slot
  | [] => given
  | p :: ps =>
      if role p = .idle then placeRoles reserved role given ps
      else match seek reserved given p (role p) with
      | none => placeRoles reserved role given ps
      | some slot => placeRoles reserved role (Function.update given p (some slot)) ps

/-- Every home that is asked for once is given. -/
def KeepsHomes (reserved : Slot → Bool) (role : Slot → Role) : Prop :=
  ∀ p s, role p = .home s → (∀ q, role q = .home s → q = p) →
    placeRoles reserved role (fun _ => none) trackedSlots p = some s

/-- A slot whose battery will not find a home: it has none, or an earlier slot asks
for the same one. -/
def wanders (role : Slot → Role) (a : Slot) : Bool :=
  role a = .homeless ||
    (role a != .idle && trackedSlots.any fun q => q.value < a.value && role q = role a)

/-- Where such a battery goes first: its own slot or the lowest one, if it is
neither reserved nor the home of an earlier battery. -/
def firstChoice (reserved : Slot → Bool) (role : Slot → Role) (a : Slot) : Option Slot :=
  (a :: trackedSlots).find? fun s =>
    !reserved s && !trackedSlots.any fun q => q.value < a.value && role q = .home s

/-- No earlier battery without a home goes to `s` first. -/
def LeftAlone (reserved : Slot → Bool) (role : Slot → Role) (p s : Slot) : Prop :=
  ∀ a, a.value < p.value → wanders role a = true → firstChoice reserved role a ≠ some s

/-- There are not two batteries without a home before `p`. -/
def OneWanderer (role : Slot → Role) (p : Slot) : Prop :=
  ∀ a b, a.value < b.value → b.value < p.value → wanders role a = true → wanders role b = false

/-- No home is taken before it is asked for: an earlier battery without a home goes
elsewhere first, and there is no second one unless no slot is reserved. -/
def Undisturbed (reserved : Slot → Bool) (role : Slot → Role) : Prop :=
  ∀ p s, role p = .home s → (∀ q, role q = .home s → q = p) →
    LeftAlone reserved role p s ∧ (OneWanderer role p ∨ ∀ r, reserved r = false)

instance (reserved : Slot → Bool) (role : Slot → Role) : Decidable (KeepsHomes reserved role) := by
  unfold KeepsHomes
  infer_instance

instance (reserved : Slot → Bool) (role : Slot → Role) (p s : Slot) :
    Decidable (LeftAlone reserved role p s) := by
  unfold LeftAlone
  infer_instance

instance (role : Slot → Role) (p : Slot) : Decidable (OneWanderer role p) := by
  unfold OneWanderer
  infer_instance

instance (reserved : Slot → Bool) (role : Slot → Role) : Decidable (Undisturbed reserved role) := by
  unfold Undisturbed
  infer_instance

/-- A function on the three slots by its values. -/
def onSlots {α : Type*} (x y z : α) : Slot → α
  | .two => x
  | .three => y
  | .four => z

theorem onSlots_eta {α : Type*} (f : Slot → α) : onSlots (f .two) (f .three) (f .four) = f := by
  funext s
  cases s <;> rfl

def roles : List Role := [.idle, .homeless, .home .two, .home .three, .home .four]

theorem mem_roles (r : Role) : r ∈ roles := by
  rcases r with - | - | s
  · decide
  · decide
  · cases s <;> decide

/-- The three slots, gone through. -/
theorem keepsHomes_iff_onSlots : ∀ x y z : Bool, ∀ a ∈ roles, ∀ b ∈ roles, ∀ c ∈ roles,
    (∀ p s, onSlots a b c p = .home s → onSlots x y z s = false) →
      (KeepsHomes (onSlots x y z) (onSlots a b c) ↔
        Undisturbed (onSlots x y z) (onSlots a b c)) := by
  decide +kernel

/-- **When every home is kept**: if and only if it is taken by nobody before. -/
theorem keepsHomes_iff {reserved : Slot → Bool} {role : Slot → Role}
    (h : ∀ p s, role p = .home s → reserved s = false) :
    KeepsHomes reserved role ↔ Undisturbed reserved role := by
  have hcheck := keepsHomes_iff_onSlots (reserved .two) (reserved .three) (reserved .four)
    (role .two) (mem_roles _) (role .three) (mem_roles _) (role .four) (mem_roles _)
  -- a function on the slots is its three values
  rw [onSlots_eta, onSlots_eta] at hcheck
  exact hcheck h

/-! ### The placement of a packet -/

section Placement

variable {mapping : Dict PyStr Slot} {manual : ManualAssignments} {current : Slot → Option PyStr}

/-- The role of a reported battery. -/
def batteryRole (mapping : Dict PyStr Slot) (manual : ManualAssignments) (serial : PyStr) : Role :=
  if (explicitSlot manual serial).isSome then .idle
  else match (mapping.get? serial).filter fun slot => !reservedManual manual slot with
  | none => .homeless
  | some slot => .home slot

/-- The role of a physical slot. -/
def roleOf (mapping : Dict PyStr Slot) (manual : ManualAssignments)
    (current : Slot → Option PyStr) (p : Slot) : Role :=
  match current p with
  | none => .idle
  | some serial => batteryRole mapping manual serial

theorem batteryRole_eq_home_iff {serial : PyStr} {s : Slot} :
    batteryRole mapping manual serial = .home s ↔
      explicitSlot manual serial = none ∧ mapping.get? serial = some s ∧
        reservedManual manual s = false := by
  unfold batteryRole
  split_ifs with hexplicit
  · constructor
    · intro h
      cases h
    · rintro ⟨hnone, -, -⟩
      rw [hnone] at hexplicit
      cases hexplicit
  · have hnone := Option.not_isSome_iff_eq_none.mp hexplicit
    rcases hf : (mapping.get? serial).filter fun slot => !reservedManual manual slot with - | slot
    · constructor
      · intro h
        cases h
      · rintro ⟨-, hget, hopen⟩
        rw [hget, Option.filter_some, hopen] at hf
        cases hf
    · obtain ⟨hget, hopen⟩ := Option.filter_eq_some_iff.mp hf
      rw [Bool.not_eq_true'] at hopen
      constructor
      · intro h
        obtain rfl := Role.home.inj h
        exact ⟨hnone, hget, hopen⟩
      · rintro ⟨-, hget', -⟩
        rw [hget] at hget'
        rw [Option.some.inj hget']

/-- Exactly the batteries with an explicit slot take no part. -/
theorem batteryRole_eq_idle_iff {serial : PyStr} :
    batteryRole mapping manual serial = .idle ↔ (explicitSlot manual serial).isSome = true := by
  unfold batteryRole
  split_ifs with hexplicit
  · exact ⟨fun _ => hexplicit, fun _ => rfl⟩
  · refine ⟨fun h => ?_, fun h => absurd h hexplicit⟩
    split at h <;> cases h

theorem roleOf_eq_home_iff {p s : Slot} :
    roleOf mapping manual current p = .home s ↔
      ∃ serial, current p = some serial ∧ explicitSlot manual serial = none ∧
        mapping.get? serial = some s ∧ reservedManual manual s = false := by
  unfold roleOf
  rcases current p with - | serial
  · simp
  · simp only [batteryRole_eq_home_iff, Option.some.injEq, exists_eq_left']

/-- A slot with an explicit choice is reserved. -/
theorem reservedManual_of_explicitSlot {serial : PyStr} {l : Slot}
    (h : explicitSlot manual serial = some l) : reservedManual manual l = true := by
  have hfound := List.find?_some h
  rw [decide_eq_true_eq] at hfound
  obtain ⟨hmanual, hauto, -⟩ := hfound
  rw [reservedManual, hmanual]
  exact decide_eq_true hauto

/-- The explicit slots together with those given by the pass. -/
def withExplicit (manual : ManualAssignments) (current : Slot → Option PyStr)
    (given : Slot → Option Slot) (p : Slot) : Option Slot :=
  (explicitSlots manual current p).or (given p)

/-- What is given to a battery without an explicit slot is given beside the others. -/
theorem withExplicit_update {given : Slot → Option Slot} {p : Slot}
    (h : explicitSlots manual current p = none) (slot : Slot) :
    Function.update (withExplicit manual current given) p (some slot) =
      withExplicit manual current (Function.update given p (some slot)) := by
  funext q
  rcases eq_or_ne q p with rfl | hq
  · rw [withExplicit, h, Function.update_self, Function.update_self, Option.none_or]
  · rw [withExplicit, Function.update_of_ne hq, Function.update_of_ne hq, withExplicit]

section Pass

variable {given : Slot → Option Slot}
  (hgiven : ∀ p, (explicitSlots manual current p).isSome → given p = none)

include hgiven

theorem withExplicit_eq_some_iff {p s : Slot} (hopen : reservedManual manual s = false) :
    withExplicit manual current given p = some s ↔ given p = some s := by
  have hp := hgiven p
  unfold withExplicit
  rcases he : explicitSlots manual current p with - | l
  · rw [Option.none_or]
  · rw [he] at hp
    rw [Option.some_or, hp rfl]
    constructor
    · intro h
      obtain rfl := Option.some.inj h
      obtain ⟨serial, -, hs⟩ := Option.bind_eq_some_iff.mp he
      rw [reservedManual_of_explicitSlot hs] at hopen
      cases hopen
    · nofun

/-- Explicit slots are reserved, so they make no difference to what is free. -/
theorem freeLogical_withExplicit :
    freeLogical manual (withExplicit manual current given) =
      freeSlot (reservedManual manual) given := by
  funext s
  rw [freeLogical, freeSlot]
  -- a reserved slot is not free on either side
  rcases hopen : reservedManual manual s with - | -
  · have hused : usedSlot (withExplicit manual current given) s = usedSlot given s := by
      rw [Bool.eq_iff_iff, usedSlot_iff, usedSlot_iff]
      exact exists_congr fun p => withExplicit_eq_some_iff hgiven hopen
    rw [hused]
  · rfl

/-- The slot that the loop chooses is the one that the role seeks. -/
theorem chooseLogical_withExplicit {p : Slot} {serial : PyStr}
    (hnone : explicitSlot manual serial = none) :
    chooseLogical mapping true manual (withExplicit manual current given) p serial =
      seek (reservedManual manual) given p (batteryRole mapping manual serial) := by
  have hwanted : (batteryRole mapping manual serial).wanted =
      (mapping.get? serial).filter fun slot => !reservedManual manual slot := by
    rw [batteryRole, hnone]
    rcases (mapping.get? serial).filter fun slot => !reservedManual manual slot with - | slot <;> rfl
  have hfilter : (mapping.get? serial).filter (freeSlot (reservedManual manual) given) =
      (batteryRole mapping manual serial).wanted.filter (freeSlot (reservedManual manual) given) := by
    rw [hwanted, Option.filter_filter]
    congr 1
    funext s
    rw [freeSlot]
    cases reservedManual manual s <;> rfl
  rw [chooseLogical, seek, ← hfilter, freeLogical_withExplicit hgiven]
  rfl

end Pass

/-- **The loop over the batteries is the pass over the roles**, beside the explicit
slots. -/
theorem placeLoop_eq_placeRoles {given : Slot → Option Slot} {ps : List Slot} (hps : ps.Nodup)
    (hnew : ∀ p ∈ ps, given p = none)
    (hgiven : ∀ p, (explicitSlots manual current p).isSome → given p = none) :
    placeLoop mapping true manual (withExplicit manual current given)
        (ps.filterMap fun slot => (current slot).map fun serial => (slot, serial)) =
      withExplicit manual current
        (placeRoles (reservedManual manual) (roleOf mapping manual current) given ps) := by
  induction ps generalizing given with
  | nil => rfl
  | cons p ps ih =>
      rw [List.nodup_cons] at hps
      have hnew' : ∀ q ∈ ps, given q = none := fun q hq => hnew q (List.mem_cons_of_mem _ hq)
      have hp : given p = none := hnew p List.mem_cons_self
      -- no battery: the loop does not see the slot and the pass skips it
      rcases hc : current p with - | serial
      · have hidle : roleOf mapping manual current p = .idle := by rw [roleOf, hc]
        rw [List.filterMap_cons_none (by rw [hc]; rfl), placeRoles, if_pos hidle]
        exact ih hps.2 hnew' hgiven
      · rw [List.filterMap_cons_some (by rw [hc]; rfl), placeLoop, placeRoles]
        have hrole : roleOf mapping manual current p = batteryRole mapping manual serial := by
          rw [roleOf, hc]
        have hexplicit : explicitSlots manual current p = explicitSlot manual serial := by
          rw [explicitSlots, hc, Option.bind_some]
        have hplaced : withExplicit manual current given p = explicitSlot manual serial := by
          rw [withExplicit, hexplicit, hp, Option.or_none]
        rw [hplaced, hrole]
        by_cases he : (explicitSlot manual serial).isSome = true
        · -- an explicit slot was given before the loop
          rw [if_pos he, if_pos (batteryRole_eq_idle_iff.mpr he)]
          exact ih hps.2 hnew' hgiven
        · have hnone := Option.not_isSome_iff_eq_none.mp he
          rw [if_neg he, if_neg (mt batteryRole_eq_idle_iff.mp he),
            chooseLogical_withExplicit hgiven hnone]
          rcases seek (reservedManual manual) given p (batteryRole mapping manual serial)
            with - | slot
          · exact ih hps.2 hnew' hgiven
          · dsimp only
            rw [withExplicit_update (hexplicit.trans hnone)]
            -- the slot that is given is neither one to come nor one with an explicit choice
            refine ih hps.2 ?_ ?_
            · intro q hq
              have hne : q ≠ p := fun h => hps.1 (h ▸ hq)
              rw [Function.update_of_ne hne]
              exact hnew' q hq
            · intro q hq
              have hne : q ≠ p := by
                rintro rfl
                rw [hexplicit, hnone] at hq
                cases hq
              rw [Function.update_of_ne hne]
              exact hgiven q hq

/-- Every battery that one physical slot reports, that has no explicit slot and whose
stable slot is not reserved, is given its stable slot. -/
def GivesStableSlots (mapping : Dict PyStr Slot) (manual : ManualAssignments)
    (current : Slot → Option PyStr) (given : Slot → Option Slot) : Prop :=
  ∀ p serial s, current p = some serial → (∀ q, current q = some serial → q = p) →
    explicitSlot manual serial = none → mapping.get? serial = some s →
    reservedManual manual s = false → given p = some s

/-- In a tidy map a home is asked for as often as its battery is reported. -/
theorem reported_once_iff (hmapping : Tidy mapping) {p s : Slot} {serial : PyStr}
    (hexplicit : explicitSlot manual serial = none)
    (hs : mapping.get? serial = some s) (hopen : reservedManual manual s = false) :
    (∀ q, current q = some serial → q = p) ↔
      ∀ q, roleOf mapping manual current q = .home s → q = p := by
  refine forall_congr' fun q => imp_congr_left ?_
  rw [roleOf_eq_home_iff]
  constructor
  · intro hq
    exact ⟨serial, hq, hexplicit, hs, hopen⟩
  · rintro ⟨serial', hq, -, hs', -⟩
    rwa [hmapping.injective serial serial' s hs hs']

/-- The stable slots of a packet are the homes of its roles. -/
theorem givesStableSlots_physicalToLogical (hmapping : Tidy mapping) :
    GivesStableSlots mapping manual current (physicalToLogical mapping true manual current) ↔
      Undisturbed (reservedManual manual) (roleOf mapping manual current) := by
  have hplaced : physicalToLogical mapping true manual current =
      withExplicit manual current (placeRoles (reservedManual manual)
        (roleOf mapping manual current) (fun _ => none) trackedSlots) := by
    have hnothing : explicitSlots manual current =
        withExplicit manual current (fun _ => none) := funext fun p => Option.or_none.symm
    rw [physicalToLogical, hnothing]
    exact placeLoop_eq_placeRoles (by decide) (fun _ _ => rfl) fun _ _ => rfl
  have hhome : ∀ p s, roleOf mapping manual current p = .home s →
      reservedManual manual s = false := by
    intro p s h
    obtain ⟨-, -, -, -, hopen⟩ := roleOf_eq_home_iff.mp h
    exact hopen
  -- without an explicit slot only the pass decides
  have hopenSlot : ∀ {p serial}, current p = some serial → explicitSlot manual serial = none →
      ∀ given : Slot → Option Slot, withExplicit manual current given p = given p := by
    intro p serial hp he given
    rw [withExplicit, explicitSlots, hp, Option.bind_some, he, Option.none_or]
  rw [← keepsHomes_iff hhome, hplaced]
  constructor
  · intro h p s hrole hunique
    obtain ⟨serial, hp, he, hs, hopen⟩ := roleOf_eq_home_iff.mp hrole
    have hkept := h p serial s hp ((reported_once_iff hmapping he hs hopen).mpr hunique) he hs
      hopen
    rwa [hopenSlot hp he] at hkept
  · intro h p serial s hp hunique he hs hopen
    rw [hopenSlot hp he]
    exact h p s (roleOf_eq_home_iff.mpr ⟨serial, hp, he, hs, hopen⟩)
      ((reported_once_iff hmapping he hs hopen).mp hunique)

end Placement

/-! ### Where a battery is published -/

section Publishing

variable {manual : ManualAssignments} {current : Slot → Option PyStr}
  {toLogical : Slot → Option Slot} {p l : Slot}

/-- Only explicit choices give a logical slot to two batteries. -/
theorem physicalToLogical_injective {mapping : Dict PyStr Slot} {useStableAuto : Bool}
    (hopen : reservedManual manual l = false) {a b : Slot}
    (ha : physicalToLogical mapping useStableAuto manual current a = some l)
    (hb : physicalToLogical mapping useStableAuto manual current b = some l) : a = b := by
  revert a b
  refine physicalToLogical_induction
    (P := fun t => ∀ {a b}, t a = some l → t b = some l → a = b) ?_ ?_
  · intro a b ha _
    obtain ⟨serial, -, he⟩ := Option.bind_eq_some_iff.mp ha
    rw [reservedManual_of_explicitSlot he] at hopen
    cases hopen
  · intro t c serial m ht _ _ hfree a b ha hb
    obtain ⟨-, hunused⟩ := freeLogical_iff.mp hfree
    by_cases hac : a = c <;> by_cases hbc : b = c
    · rw [hac, hbc]
    · rw [hac, Function.update_self] at ha
      rw [Function.update_of_ne hbc, ← ha] at hb
      exact absurd hb (hunused b)
    · rw [hbc, Function.update_self] at hb
      rw [Function.update_of_ne hac, ← hb] at ha
      exact absurd ha (hunused a)
    · rw [Function.update_of_ne hac] at ha
      rw [Function.update_of_ne hbc] at hb
      exact ht ha hb

/-- Where every battery stays in place, every battery is placed. -/
theorem placed_of_staysInPlace (hplaced : Placed current toLogical)
    (h : staysInPlace manual current toLogical = true) {serial : PyStr}
    (hp : current p = some serial) : toLogical p = some p := by
  have hsame := (eq_of_staysInPlace h).2
  rw [staysInPlace, Bool.and_eq_true] at h
  have hsublist : (trackedSlots.filter fun p => (toLogical p).isSome).Sublist
      (trackedSlots.filter fun p => (current p).isSome) := by
    refine List.monotone_filter_right _ fun a ha => ?_
    obtain ⟨m, hm⟩ := Option.isSome_iff_exists.mp ha
    exact Option.isSome_iff_exists.mpr (hplaced.reported a m hm)
  have hmem : p ∈ trackedSlots.filter fun p => (current p).isSome :=
    List.mem_filter.mpr ⟨mem_trackedSlots p, Option.isSome_iff_exists.mpr ⟨serial, hp⟩⟩
  -- as many batteries are placed as are reported
  rw [← hsublist.eq_of_length (eq_of_beq h.2)] at hmem
  obtain ⟨m, hm⟩ := Option.isSome_iff_exists.mp (List.mem_filter.mp hmem).2
  rw [hm, hsame p m hm]

/-- Only the physical slot itself fills a logical slot that nobody was given, and only
without a battery. -/
theorem Fills.unplaced {a : Slot} (hunused : ∀ b, toLogical b ≠ some l)
    (h : Fills manual current toLogical a l) : a = l ∧ current a = none := by
  obtain ⟨hin, hal⟩ := h
  rcases ha : toLogical a with - | m
  · rw [ha] at hal
    rw [leftOut, ha, Option.isNone_none, Bool.true_and, Bool.or_eq_false_iff] at hin
    refine ⟨hal, Option.not_isSome_iff_eq_none.mp ?_⟩
    rw [hin.2]
    exact Bool.false_ne_true
  · rw [ha] at hal
    exact absurd (ha.trans (congrArg some hal)) (hunused a)

variable {V : Type*} [PyObject V] [PyUnicode] {payload q : Dict PyStr V} {serial : PyStr}

/-- A slot reports its battery by keys of its own. -/
theorem serialAt_of_no_key (h : ∀ i, payload.get? (serialKey p i) = none) :
    serialAt payload p = none := by
  have hvalues : ['1', '2', '3', '4'].map (fun i => payload.get? (serialKey p i)) =
      [none, none, none, none] := by
    rw [List.map_congr_left fun i _ => h i]
    rfl
  unfold serialAt
  rw [hvalues]
  rfl

/-- A published battery is reported where it is published. -/
theorem PublishedAt.serialAt (h : PublishedAt payload q p l) :
    serialAt q l = serialAt payload p := by
  have hkey : ∀ i, q.get? (serialKey l i) = payload.get? (serialKey p i) := by
    intro i
    apply Option.ext
    intro v
    constructor
    · intro hv
      obtain ⟨k, hk, hkv, he⟩ := h.alone _ v (logicalSlotFromKey_serialKey l i) hv
      rw [← remapKey_serialKey p l i] at he
      obtain rfl := remapKey_injective (logicalSlotFromKey_serialKey p i) hk he
      exact hkv
    · intro hv
      have hmoved := h.moved _ v (logicalSlotFromKey_serialKey p i) hv
      rwa [remapKey_serialKey] at hmoved
  unfold GroBro.serialAt
  simp only [hkey]

/-- Some physical slot fills a slot that reports a battery. -/
theorem exists_fills (h : serialAt (renamed manual current toLogical payload) l = some serial) :
    ∃ a, Fills manual current toLogical a l := by
  by_contra hnone
  rw [serialAt_of_no_key] at h
  · cases h
  · intro i
    by_contra hsome
    obtain ⟨v, hv⟩ := Option.ne_none_iff_exists'.mp hsome
    obtain ⟨k, a, -, -, hin, -, hal⟩ := get?_renamed_slot (logicalSlotFromKey_serialKey l i) hv
    exact hnone ⟨a, hin, hal⟩

/-- A slot that was given to one battery at most publishes the battery it was given. -/
theorem placed_of_renamed
    (hinjective : ∀ {a b}, toLogical a = some l → toLogical b = some l → a = b)
    (hp : current p = some serial)
    (hreported : serialAt (renamed manual current toLogical payload) l = some serial)
    (hsource : ∀ a, PublishedAt payload (renamed manual current toLogical payload) a l → a = p) :
    toLogical p = some l := by
  by_cases hused : ∃ a, toLogical a = some l
  · obtain ⟨a, ha⟩ := hused
    obtain rfl := hsource a (publishedAt_renamed (fills_of_placed ha)
      fun b hb => hinjective (hb.placed ha) ha)
    exact ha
  · rw [not_exists] at hused
    obtain ⟨a, ha⟩ := exists_fills hreported
    obtain ⟨rfl, hnone⟩ := ha.unplaced hused
    obtain rfl := hsource a (publishedAt_renamed ha fun b hb => (hb.unplaced hused).1)
    rw [hnone] at hp
    cases hp

/-- **A battery reported once is published where it was placed** and nowhere else, as
far as slots without a manual choice are concerned. -/
theorem publishedAt_iff {mapping : Dict PyStr Slot} {useStableAuto : Bool}
    (hp : serialsFromPayload payload p = some serial)
    (hunique : ∀ p', serialsFromPayload payload p' = some serial → p' = p)
    (hopen : reservedManual manual l = false) :
    PublishedAt payload (stabilized mapping useStableAuto manual payload).1 p l ↔
      physicalToLogical mapping useStableAuto manual (serialsFromPayload payload) p = some l := by
  have hplaced : Placed (serialsFromPayload payload)
      (physicalToLogical mapping useStableAuto manual (serialsFromPayload payload)) :=
    placed_physicalToLogical
  have hinjective : ∀ {a b}, physicalToLogical mapping useStableAuto manual
      (serialsFromPayload payload) a = some l → physicalToLogical mapping useStableAuto manual
      (serialsFromPayload payload) b = some l → a = b := physicalToLogical_injective hopen
  unfold stabilized
  dsimp only
  generalize physicalToLogical mapping useStableAuto manual (serialsFromPayload payload) =
    toLogical at hplaced hinjective ⊢
  constructor
  · intro h
    have hreported : serialAt _ l = some serial := h.serialAt.trans hp
    -- who is published at `l` is reported there
    have hsource : ∀ a, PublishedAt payload _ a l → a = p :=
      fun a ha => hunique a (ha.serialAt.symm.trans hreported)
    by_cases hstay : staysInPlace manual (serialsFromPayload payload) toLogical = true
    · rw [remapPayload, if_pos hstay] at hsource
      obtain rfl := hsource l (publishedAt_self l)
      exact placed_of_staysInPlace hplaced hstay hp
    · rw [remapPayload, if_neg hstay] at hreported hsource
      exact placed_of_renamed hinjective hp hreported hsource
  · exact (movedTogether_remapPayload hplaced).published p serial l hp hunique

end Publishing

section Packets

variable {V : Type*} [PyObject V] [PyUnicode]

/-- The map of every packet of a run is tidy. -/
theorem Consistent.tidy_effectiveMapping {w : BatteryWorld} (h : Consistent w) (deviceId : PyStr)
    (payload : Dict PyStr V) (useStableAuto : Bool) (io : IoOutcome) :
    Tidy (effectiveMapping w deviceId payload useStableAuto io).1 := by
  unfold effectiveMapping
  rcases hmaps : GroBro.positionMaps w io.readOk with - | maps
  · exact tidy_empty
  · obtain ⟨htidy, -, -⟩ := h.positionMaps hmaps
    dsimp only
    split_ifs
    · exact tidy_assignAll (htidy deviceId) payload
    · exact htidy deviceId

/-- Every battery that one physical slot reports, that has no explicit slot and whose
stable slot is not reserved, is published at its stable slot. -/
def KeepsStableSlots (mapping : Dict PyStr Slot) (manual : ManualAssignments)
    (payload published : Dict PyStr V) : Prop :=
  ∀ p serial s, serialsFromPayload payload p = some serial →
    (∀ q, serialsFromPayload payload q = some serial → q = p) →
    explicitSlot manual serial = none → mapping.get? serial = some s →
    reservedManual manual s = false → PublishedAt payload published p s

theorem keepsStableSlots_stabilized {mapping : Dict PyStr Slot} {manual : ManualAssignments}
    {payload : Dict PyStr V} {useStableAuto : Bool} :
    KeepsStableSlots mapping manual payload (stabilized mapping useStableAuto manual payload).1 ↔
      GivesStableSlots mapping manual (serialsFromPayload payload)
        (physicalToLogical mapping useStableAuto manual (serialsFromPayload payload)) := by
  constructor
  · intro h p serial s hp hunique he hs hopen
    exact (publishedAt_iff hp hunique hopen).mp (h p serial s hp hunique he hs hopen)
  · intro h p serial s hp hunique he hs hopen
    exact (publishedAt_iff hp hunique hopen).mpr (h p serial s hp hunique he hs hopen)

/-- **When every battery keeps its stable slot**: for every packet that is placed by
stable slots after any run, if and only if no battery without a home disturbs one
that has a home. -/
theorem keepsStableSlots_iff (file : PositionFile) (hfile : file.NulFree)
    (as : List (BatteryAction V)) (deviceId : PyStr) (payload : Dict PyStr V)
    (manual : ManualAssignments) (io : IoOutcome) :
    let w := run batteryStep (.start file) as
    let mapping := (effectiveMapping w deviceId payload true io).1
    KeepsStableSlots mapping manual payload
        (stabilizeLocked w deviceId payload manual true io).2.1 ↔
      Undisturbed (reservedManual manual) (roleOf mapping manual (serialsFromPayload payload)) := by
  intro w mapping
  have hw : Consistent w := (consistent_start (allTidy_loadAllPositions hfile)).run as
  have hmapping : Tidy mapping := hw.tidy_effectiveMapping deviceId payload true io
  rw [stabilizeLocked_snd]
  rcases hmaps : GroBro.positionMaps w io.readOk with - | maps
  · -- nobody has a stable slot in a map that cannot be read
    have hempty : mapping = ∅ := by
      show (effectiveMapping w deviceId payload true io).1 = ∅
      rw [effectiveMapping, hmaps]
    constructor
    · intro _ p s hrole
      obtain ⟨serial, -, -, hs, -⟩ := roleOf_eq_home_iff.mp hrole
      rw [hempty] at hs
      cases hs
    · intro _ p serial s _ _ _ hs
      rw [hempty] at hs
      cases hs
  · have hstable : (effectiveMapping w deviceId payload true io).2 = true := by
      rw [effectiveMapping, hmaps]
      rfl
    rw [hstable]
    exact keepsStableSlots_stabilized.trans (givesStableSlots_physicalToLogical hmapping)

end Packets

/-- A packet in which two physical slots report whole serials. -/
def twoBatteries (p : Slot) (serial : String) (p' : Slot) (serial' : String) : Dict PyStr PyStr :=
  Dict.ofList [(serialKey p '1', serial.toList), (serialKey p' '1', serial'.toList)]

/-- The first packet of a process: `BATTERY-A` in slot 2, `BATTERY-B` in slot 3. -/
def firstPacket : BatteryAction PyStr :=
  .stabilize ['D'] (twoBatteries .two "BATTERY-A" .three "BATTERY-B") noAssignments true ⟨true, true⟩

/-- When the chain is enumerated the other way round, both stay where they were. -/
theorem keepsStableSlots_swapped :
    letI := PyUnicode.asciiOnly
    let w := run batteryStep (.start .absent) [firstPacket]
    let payload := twoBatteries .two "BATTERY-B" .three "BATTERY-A"
    KeepsStableSlots (effectiveMapping w ['D'] payload true ⟨true, true⟩).1 noAssignments payload
      (stabilizeLocked w ['D'] payload noAssignments true ⟨true, true⟩).2.1 :=
  letI := PyUnicode.asciiOnly
  (keepsStableSlots_iff .absent trivial [firstPacket] ['D']
    (twoBatteries .two "BATTERY-B" .three "BATTERY-A") noAssignments ⟨true, true⟩).mpr
    (by decide +kernel)

/-- With slot 2 chosen to be empty and the batteries in slots 3 and 4, `BATTERY-A`
comes first and takes slot 3 from `BATTERY-B`. -/
theorem not_keepsStableSlots_displaced :
    letI := PyUnicode.asciiOnly
    ¬ ∀ (file : PositionFile) (as : List (BatteryAction PyStr)) (deviceId : PyStr)
        (payload : Dict PyStr PyStr) (assignments : Dict PyStr PyStr) (manual : ManualAssignments)
        (io : IoOutcome), file.NulFree → loadManualAssignments assignments = some manual →
        let w := run batteryStep (.start file) as
        KeepsStableSlots (effectiveMapping w deviceId payload true io).1 manual payload
          (stabilizeLocked w deviceId payload manual true io).2.1 := by
  let _ : PyUnicode := PyUnicode.asciiOnly
  intro h
  let assignments : Dict PyStr PyStr := Dict.ofList [(['2'], emptyAssignment)]
  let manual : ManualAssignments := fun
    | .two => some emptyAssignment
    | _ => some autoAssignment
  -- the loader accepts the choice
  have hmanual : loadManualAssignments assignments = some manual := by
    have hvalues : (loadManualAssignments assignments).map (trackedSlots.map ·) =
        some (trackedSlots.map manual) := by decide +kernel
    obtain ⟨manual', hload, he⟩ := Option.map_eq_some_iff.mp hvalues
    rw [hload]
    congr 1
    funext p
    exact List.map_inj_left.mp he p (mem_trackedSlots p)
  have hkept := h .absent [firstPacket] ['D'] (twoBatteries .three "BATTERY-A" .four "BATTERY-B")
    assignments manual ⟨true, true⟩ trivial hmanual .four "BATTERY-B".toList .three
    (by decide +kernel) (by decide +kernel) (by decide +kernel) (by decide +kernel)
    (by decide +kernel)
  -- the serial key of slot 3 holds the other battery
  have hmoved := hkept.moved (serialKey .four '1') "BATTERY-B".toList (by decide +kernel)
    (by decide +kernel)
  revert hmoved
  decide +kernel

end GroBro
