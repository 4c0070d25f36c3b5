/-
GroBro/ConfigSerial.lean

The serial number of a config.  Its validator strips a text twice and may strip its own result
again, but not if there is no NUL in it (`rejectPlaceholderSerialNumber_again`).  No config
that a packet leads to has another: values are printable or hex, and devices are named as
their files are (`normalSerial_of_onUnscrambled`, `normalSerial_of_packetCalls`).
-/
import GroBro.ConfigReadback

namespace GroBro

open ByteCodec OrderedDict Machine

/-! ### Normal serial numbers -/

/-- A serial number that the validator leaves as it is. -/
def NormalSerial (config : DeviceConfig) : Prop :=
  rejectPlaceholderSerialNumber (config .serialNumber) = config .serialNumber

theorem rejectPlaceholderSerialNumber_again {value : Option PyStr} (h : ∀ s ∈ value, nul ∉ s) :
    rejectPlaceholderSerialNumber (rejectPlaceholderSerialNumber value) =
      rejectPlaceholderSerialNumber value := by
  rcases value with - | s
  · rfl
  have hnul : ∀ {t : PyStr}, nul ∉ t → stripNul t = t := by
    intro t ht
    apply stripBy_of_not_mem
    intro c hc
    rw [beq_eq_false_iff_ne]
    rintro rfl
    exact ht hc
  have hs : nul ∉ strip s := fun hc => h s rfl (mem_of_mem_stripBy hc)
  rw [rejectPlaceholderSerialNumber, hnul hs]
  split_ifs with hempty hx
  · rfl
  · rfl
  · rw [rejectPlaceholderSerialNumber, strip_strip, hnul hs, if_neg hempty, if_neg hx]

theorem normalSerial_make {config : ConfigField → Option PyStr}
    (h : ∀ s ∈ config .serialNumber, nul ∉ s) : NormalSerial (.make config) :=
  rejectPlaceholderSerialNumber_again h

/-! ### Parsed configs -/

/-- Hex digits are no NULs. -/
theorem nul_not_mem_hexOf (b : Bytes) : nul ∉ hexOf b := by
  have hdigit : ∀ n < 16, hexDigit n ≠ nul := by decide
  intro hmem
  obtain ⟨x, -, hx⟩ := List.mem_flatMap.mp hmem
  have hlt : x.toNat < 256 := x.toNat_lt
  rcases List.mem_cons.mp hx with he | hx
  · exact hdigit (x.toNat / 16) (by omega) he.symm
  · exact hdigit (x.toNat % 16) (by omega) (List.mem_singleton.mp hx).symm

theorem nul_not_mem_configTlvValue (rawVal : Bytes) : nul ∉ configTlvValue rawVal := by
  unfold configTlvValue
  split
  · exact nul_not_mem_hexOf rawVal
  next text _ =>
    dsimp only
    split_ifs with hcontrol
    · exact nul_not_mem_hexOf rawVal
    · intro hmem
      exact hcontrol (List.any_eq_true.mpr ⟨nul, hmem, rfl⟩)

theorem nul_not_mem_of_mem_parseConfigTlvs {data : Bytes} {offset : ℕ} {p : ℕ × PyStr}
    (h : p ∈ parseConfigTlvs data offset) : nul ∉ p.2 := by
  induction offset using parseConfigTlvs.induct data with
  | case1 offset hle keyLen start hstop =>
      rw [parseConfigTlvs, dif_pos hle, if_pos hstop] at h
      cases h
  | case2 offset hle keyLen start hgo ih =>
      rw [parseConfigTlvs, dif_pos hle, if_neg hgo] at h
      rcases List.mem_cons.mp h with rfl | hrest
      · exact nul_not_mem_configTlvValue _
      · exact ih hrest
  | case3 offset hshort =>
      rw [parseConfigTlvs, dif_neg hshort] at h
      cases h

/-- **A config that is parsed has a normal serial number.** -/
theorem normalSerial_parseConfigType (data : Bytes) (offset : ℕ) :
    NormalSerial (parseConfigType data offset) := by
  unfold parseConfigType
  apply normalSerial_make
  intro s hs
  rw [if_neg fun h => by cases h.2] at hs
  obtain ⟨p, hp, rfl⟩ := Option.map_eq_some_iff.mp hs
  exact nul_not_mem_of_mem_parseConfigTlvs (List.mem_reverse.mp (List.mem_of_find?_eq_some hp))

/-! ### The configs that packets lead to -/

theorem normalSerial_ptqConfig {ptqSerial : PyStr} (h : nul ∉ ptqSerial) (config : DeviceConfig) :
    NormalSerial (ptqConfig ptqSerial config) :=
  rejectPlaceholderSerialNumber_again fun _ hs => Option.some.inj hs ▸ h

theorem normalSerial_metadataConfig {serialNumber : PyStr} (h : nul ∉ serialNumber)
    (field : ConfigField) (value : PyStr) :
    NormalSerial (metadataConfig serialNumber field value) :=
  normalSerial_make fun _ hs => Option.some.inj hs ▸ h

section Packets

variable {F : Type*} [PyFloat F] {d : PyStr} {config : DeviceConfig}

theorem onConfig_not_mem_onModbus (setup : BridgeSetup F) (client : BridgeClient)
    (deviceId : PyStr) (unscrambled : Bytes) :
    Effect.onConfig d config ∉ onModbus setup client deviceId unscrambled := by
  unfold onModbus
  split
  next message _ =>
    unfold onRegisters
    dsimp only
    split
    · exact List.not_mem_nil
    · split
      · split_ifs <;> simp
      · split
        · exact List.not_mem_nil
        · split_ifs <;> simp
      · exact List.not_mem_nil
  · exact List.not_mem_nil

/-- **A packet leads to configs with normal serial numbers**, for devices whose names can be
file names. -/
theorem normalSerial_of_onUnscrambled {setup : BridgeSetup F} {client : BridgeClient}
    {deviceId : PyStr} {unscrambled : Bytes} (hd : nul ∉ d)
    (h : Effect.onConfig d config ∈ (onUnscrambled setup client deviceId unscrambled).2) :
    NormalSerial config := by
  unfold onUnscrambled at h
  dsimp only at h
  split_ifs at h
  · unfold onConfigTlv at h
    dsimp only at h
    split_ifs at h
    · simp only [List.cons_append, List.nil_append, List.mem_cons, List.not_mem_nil, or_false,
        reduceCtorEq, false_or, Effect.onConfig.injEq] at h
      rcases h with ⟨-, rfl⟩ | ⟨rfl, rfl⟩
      · exact normalSerial_parseConfigType _ _
      · -- the inverter behind a gateway is named by its serial number
        exact normalSerial_ptqConfig hd _
    · simp only [List.mem_cons, List.not_mem_nil, or_false, reduceCtorEq, false_or,
        Effect.onConfig.injEq] at h
      obtain ⟨-, rfl⟩ := h
      exact normalSerial_parseConfigType _ _
  · simp at h
  · simp at h
  · simp at h
  · unfold onNoahFe19 at h
    dsimp only at h
    have hmodbus : Effect.onConfig d config ∉ onModbus setup client deviceId unscrambled :=
      onConfig_not_mem_onModbus setup client deviceId unscrambled
    split_ifs at h
    · exact absurd h hmodbus
    · simp only [List.cons_append, List.nil_append, List.mem_cons, List.not_mem_nil, or_false,
        reduceCtorEq, false_or, Effect.onConfig.injEq] at h
      obtain ⟨-, rfl⟩ := h
      exact normalSerial_parseConfigType _ _
    · simp only [List.cons_append, List.nil_append, List.mem_cons, reduceCtorEq, false_or] at h
      exact absurd h hmodbus
  · cases h
  · exact absurd h (onConfig_not_mem_onModbus setup client deviceId unscrambled)

/-- Metadata that was read has the name of its device as its serial number. -/
theorem normalSerial_of_entryCalls {setup : ReadbackSetup} {client : BridgeClient}
    {deviceId : PyStr} {before : List ReadbackCall} {e : ConfigEntry} (hd : nul ∉ d)
    (h : ReadbackCall.onConfig d config ∈ entryCalls setup client deviceId before e) :
    NormalSerial config := by
  have hmetadata : ∀ field value,
      ReadbackCall.onConfig d config ∈ metadataCalls setup client deviceId before field value →
      NormalSerial config := by
    intro field value hmem
    have hsingle : ReadbackCall.onConfig d config ∈
        [ReadbackCall.onConfig deviceId (metadataConfig deviceId field value)] →
        NormalSerial config := by
      intro hmem
      obtain ⟨rfl, rfl⟩ := ReadbackCall.onConfig.inj (List.mem_singleton.mp hmem)
      exact normalSerial_metadataConfig hd field value
    unfold metadataCalls at hmem
    dsimp only at hmem
    split_ifs at hmem
    · exact hsingle hmem
    · split at hmem
      · exact hsingle hmem
      · split_ifs at hmem
        · exact hsingle hmem
        · rcases List.mem_cons.mp hmem with hfirst | hsecond
          · exact hsingle (List.mem_singleton.mpr hfirst)
          · obtain ⟨rfl, rfl⟩ := ReadbackCall.onConfig.inj (List.mem_singleton.mp hsecond)
            exact normalSerial_metadataConfig hd .wifiSignal value
    · exact hsingle hmem
  unfold entryCalls at h
  dsimp only at h
  rcases List.mem_append.mp h with hmem | hmem
  · split at hmem
    · cases hmem
    · exact hmetadata _ _ hmem
  · rcases List.mem_cons.mp hmem with hreadback | hlast
    · split_ifs at hreadback
    · split_ifs at hlast <;> simp at hlast

/-- **So does what a response to a configuration read leads to.** -/
theorem normalSerial_of_packetCalls {bridge : BridgeSetup F} {setup : ReadbackSetup}
    {client : BridgeClient} {deviceId : PyStr} {unscrambled : Bytes} (hd : nul ∉ d)
    (h : ReadbackCall.onConfig d config ∈ packetCalls setup client deviceId bridge unscrambled) :
    NormalSerial config := by
  obtain ⟨effect, heffect, hmem⟩ := List.mem_flatMap.mp h
  cases effect with
  | onConfig d' config' =>
      obtain ⟨rfl, rfl⟩ := ReadbackCall.onConfig.inj (List.mem_singleton.mp hmem)
      exact normalSerial_of_onUnscrambled hd heffect
  | configReadResponse data =>
      dsimp only at hmem
      unfold onConfigResponse at hmem
      split at hmem
      · cases hmem
      next cfg _ =>
        have hrun : ∀ config, ReadbackCall.onConfig d config ∈
            run (entryStep setup client cfg.deviceId) []
              (if cfg.entries = [] then [⟨cfg.registerNo, cfg.value⟩] else cfg.entries) →
            NormalSerial config := by
          apply run_invariant (I := fun calls => ∀ config,
            ReadbackCall.onConfig d config ∈ calls → NormalSerial config)
          · intro config hnil
            cases hnil
          · intro calls e _ hcalls config hstep
            rcases List.mem_append.mp hstep with hold | hnew
            · exact hcalls config hold
            · exact normalSerial_of_entryCalls hd hnew
        exact hrun config hmem
  | _ => cases hmem

end Packets

end GroBro
