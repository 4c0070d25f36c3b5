/-
GroBro/CloudForward.lean

`__on_message_forward_client` of `grobro/grobro/client.py`: a packet of the Growatt
cloud is passed on to its device, if the policy allows the device and does not
filter the packet.

The filter looks at the type word of the packet.  The two codecs of register
commands fix that word: 0x0106 for a single write, 0x0110 for a multiple one
(`typeWord_of_unpack`).  Only the second is in the filter's list, so a single write
is the one kind of cloud write that comes through (`nothing_forwarded_iff`).

Log messages, dumps and traffic captures are left out.
-/
import GroBro.CloudPolicy
import GroBro.MessageDispatch

namespace GroBro

open ByteCodec

/-! ### Forwarding -/

structure CloudMessage where
  topic : PyStr
  payload : Bytes
  qos : ℕ
  retain : Bool

/-- A message handed to the local broker, for a device. -/
structure ForwardedMessage where
  topic : PyStr
  payload : Bytes
  qos : ℕ
  retain : Bool
  deriving DecidableEq

/-- `msg.topic.split("/")[0] + "/33/" + device_id` -/
def forwardTopic (topic deviceId : PyStr) : PyStr :=
  (topic.splitOn '/').headD [] ++ "/33/".toList ++ deviceId

/-- `__on_message_forward_client`, under the policy that is current: what it
publishes.  It catches every exception, and an unreadable packet is dropped. -/
def onMessageForwardClient (cloudPolicy : CloudForwardingPolicy) (forwardStopped : Bool)
    (msg : CloudMessage) : List ForwardedMessage :=
  if forwardStopped then []
  else
    let deviceId := extractDeviceId msg.topic
    if deviceId = [] then []
    else
      let unscrambled := unscramble msg.payload
      if unscrambled.length < 8 then []
      else if !cloudPolicy.allowsDevice deviceId then []
      else match unpackFrom 2 unscrambled 6 with
      | .error _ => []
      | .ok w =>
          let cloudMsgType := u16At w 0
          if cloudPolicy.shouldBlockCloudMessage cloudMsgType then []
          else [⟨forwardTopic msg.topic deviceId, msg.payload, msg.qos, msg.retain⟩]

/-! ### Cloud writes -/

/-- A register write as the codec of single commands accepts it. -/
def IsSingleWrite (unscrambled : Bytes) : Prop :=
  ∃ c, GrowattModbusFunctionSingle.parseGrobro unscrambled = some c ∧
    c.function = .presetSingleRegister

/-- The same for multiple commands. -/
def IsMultipleWrite (unscrambled : Bytes) : Prop :=
  ∃ c, GrowattModbusFunctionMultiple.parseGrobro unscrambled = some c ∧
    c.function = .presetMultipleRegister

/-- A packet that changes a device: a config write or a register write. -/
inductive IsCloudWrite (unscrambled : Bytes) : Prop where
  | config (h : u16At unscrambled 6 = configWriteType)
  | single (h : IsSingleWrite unscrambled)
  | multiple (h : IsMultipleWrite unscrambled)

/-- The type word of a command is its address byte and its function. -/
theorem typeWord_of_unpack {buffer : Bytes} {header : CommandHeader} {coreLength : ℕ}
    (h : unpackCommandHeader buffer = some (header, coreLength)) :
    u16At buffer 6 = 256 + header.function.value := by
  unfold unpackCommandHeader at h
  split_ifs at h with hshort
  rw [unpackFrom_ok (by omega), Nat.zero_add] at h
  set w := slice buffer 0 modbusCommandSize with hw
  dsimp only at h
  by_cases hconst : u16At w 0 ≠ 1 ∨ u16At w 2 ≠ 7 ∨ u8At w 6 ≠ 1
  · rw [if_pos hconst] at h
    cases h
  rw [if_neg hconst] at h
  rcases hf : GrowattModbusFunction.ofValue? (u8At w 7) with - | function
  · rw [hf] at h
    cases h
  rw [hf] at h
  dsimp only at h
  split_ifs at h
  obtain ⟨rfl, -⟩ := Prod.mk.inj (Option.some.inj h)
  have haddress : u8At w 6 = 1 := by
    by_contra hne
    exact hconst (Or.inr (Or.inr hne))
  have hbyte : ∀ k, k < modbusCommandSize → u8At w k = u8At buffer k := by
    intro k hk
    rw [hw, u8At_slice buffer (by omega), Nat.zero_add]
  show u16At buffer 6 = 256 + function.value
  rw [GrowattModbusFunction.value_of_ofValue? hf, hbyte 7 (by decide), u16At,
    ← hbyte 6 (by decide), haddress]

theorem typeWord_of_singleWrite {b : Bytes} (h : IsSingleWrite b) : u16At b 6 = 0x0106 := by
  obtain ⟨c, hparse, hfunction⟩ := h
  unfold GrowattModbusFunctionSingle.parseGrobro at hparse
  rcases hu : unpackCommandHeader b with - | ⟨header, coreLength⟩
  · rw [hu] at hparse
    cases hparse
  rw [hu] at hparse
  dsimp only at hparse
  split_ifs at hparse
  obtain rfl := Option.some.inj hparse
  have hword := typeWord_of_unpack hu
  rw [show header.function = .presetSingleRegister from hfunction] at hword
  exact hword

theorem typeWord_of_multipleWrite {b : Bytes} (h : IsMultipleWrite b) : u16At b 6 = 0x0110 := by
  obtain ⟨c, hparse, hfunction⟩ := h
  unfold GrowattModbusFunctionMultiple.parseGrobro at hparse
  rcases hu : unpackCommandHeader b with - | ⟨header, coreLength⟩
  · rw [hu] at hparse
    cases hparse
  rw [hu] at hparse
  dsimp only at hparse
  split_ifs at hparse
  obtain rfl := Option.some.inj hparse
  have hword := typeWord_of_unpack hu
  rw [show header.function = .presetMultipleRegister from hfunction] at hword
  exact hword

/-- A single write is the only kind of cloud write that the filter does not list. -/
theorem IsCloudWrite.filtered_iff {b : Bytes} (h : IsCloudWrite b) :
    u16At b 6 ∈ [0x0118, 0x0110] ↔ ¬ IsSingleWrite b := by
  constructor
  · intro hlisted hsingle
    rw [typeWord_of_singleWrite hsingle] at hlisted
    exact absurd hlisted (by decide)
  · intro hsingle
    cases h with
    | config h =>
        rw [h]
        exact List.mem_cons_self
    | single h => exact absurd h hsingle
    | multiple h =>
        rw [typeWord_of_multipleWrite h]
        exact List.mem_cons_of_mem _ List.mem_cons_self

/-! ### What comes through -/

/-- What the client is given and is not: a packet for an allowed device is published,
unless it is too short or filtered. -/
theorem onMessageForwardClient_eq {cloudPolicy : CloudForwardingPolicy} {msg : CloudMessage}
    (hallowed : cloudPolicy.allowsDevice (extractDeviceId msg.topic) = true)
    (hlength : 8 ≤ (unscramble msg.payload).length) (forwardStopped : Bool) :
    onMessageForwardClient cloudPolicy forwardStopped msg =
      if forwardStopped = true ∨ extractDeviceId msg.topic = [] ∨
        cloudPolicy.shouldBlockCloudMessage (u16At (unscramble msg.payload) 6) = true then []
      else [⟨forwardTopic msg.topic (extractDeviceId msg.topic), msg.payload, msg.qos, msg.retain⟩] := by
  have hword : u16At (slice (unscramble msg.payload) 6 (6 + 2)) 0 =
      u16At (unscramble msg.payload) 6 := u16At_slice _ (by decide)
  unfold onMessageForwardClient
  dsimp only
  rw [unpackFrom_ok hlength, hallowed, if_neg (Nat.not_lt.mpr hlength)]
  dsimp only
  rw [hword]
  by_cases hstopped : forwardStopped = true
  · rw [if_pos hstopped, if_pos (Or.inl hstopped)]
  rw [if_neg hstopped]
  by_cases hdevice : extractDeviceId msg.topic = []
  · rw [if_pos hdevice, if_pos (Or.inr (Or.inl hdevice))]
  rw [if_neg hdevice, if_neg (by decide)]
  refine if_congr ?_ rfl rfl
  constructor
  · intro h
    exact Or.inr (Or.inr h)
  · intro h
    exact (h.resolve_left hstopped).resolve_left hdevice

/-- The type word of a cloud write, by its kind. -/
theorem IsCloudWrite.typeWord {b : Bytes} (h : IsCloudWrite b) :
    u16At b 6 = 0x0118 ∨ u16At b 6 = 0x0106 ∨ u16At b 6 = 0x0110 := by
  cases h with
  | config h => exact Or.inl h
  | single h => exact Or.inr (Or.inl (typeWord_of_singleWrite h))
  | multiple h => exact Or.inr (Or.inr (typeWord_of_multipleWrite h))

/-- A cloud write is long enough to be looked at. -/
theorem IsCloudWrite.length_le {b : Bytes} (h : IsCloudWrite b) : 8 ≤ b.length := by
  by_contra hshort
  -- the low byte of the word would be missing
  have hlow : u8At b 7 = 0 := by
    rw [u8At, List.getD_eq_default _ _ (by omega)]
    rfl
  have hword : u16At b 6 = u8At b 6 * 256 := by rw [u16At, hlow, Nat.add_zero]
  have htype := h.typeWord
  omega

/-- **The cloud config filter stops every write but a single register write**: for
every policy with the filter on, every allowed device and every cloud write. -/
theorem nothing_forwarded_iff (cloudPolicy : CloudForwardingPolicy) (forwardStopped : Bool)
    (msg : CloudMessage) (hblock : cloudPolicy.blockConfigCommands = true)
    (hallowed : cloudPolicy.allowsDevice (extractDeviceId msg.topic) = true)
    (hwrite : IsCloudWrite (unscramble msg.payload)) :
    onMessageForwardClient cloudPolicy forwardStopped msg = [] ↔
      ¬ IsSingleWrite (unscramble msg.payload) ∨ forwardStopped = true ∨
        extractDeviceId msg.topic = [] := by
  have hfiltered : cloudPolicy.shouldBlockCloudMessage (u16At (unscramble msg.payload) 6) = true ↔
      ¬ IsSingleWrite (unscramble msg.payload) := by
    rw [← hwrite.filtered_iff, CloudForwardingPolicy.shouldBlockCloudMessage, hblock,
      Bool.true_and, decide_eq_true_eq]
  rw [onMessageForwardClient_eq hallowed hwrite.length_le, ← hfiltered]
  constructor
  · intro h
    by_contra hnone
    rw [if_neg] at h
    · exact List.cons_ne_nil _ _ h
    · tauto
  · intro h
    apply if_pos
    tauto

/-- A packet of the cloud for one device, with a function, two words and values. -/
def cloudCommand (function : UInt8) (body : Bytes) : CloudMessage where
  topic := "s/ABCDEFGH12".toList
  payload := scramble ([0x00, 0x01, 0x00, 0x07, 0x00, UInt8.ofNat (32 + body.length), 0x01, function] ++
    idField "ABCDEFGH12".toList ++ body)
  qos := 0
  retain := false

/-- The filter on, for all devices. -/
def filteringPolicy : CloudForwardingPolicy := ⟨true, ∅, true⟩

/-- A write of registers 3 and 4 is stopped. -/
theorem nothing_forwarded_multipleWrite :
    onMessageForwardClient filteringPolicy false (cloudCommand 16 [0, 3, 0, 4, 0, 50, 0, 60]) = [] :=
  (nothing_forwarded_iff filteringPolicy false (cloudCommand 16 [0, 3, 0, 4, 0, 50, 0, 60]) rfl rfl
    (.multiple ⟨⟨"ABCDEFGH12".toList, .presetMultipleRegister, 3, 4, [0, 50, 0, 60]⟩,
      by decide +kernel, rfl⟩)).mpr
    (Or.inl fun h => absurd (typeWord_of_singleWrite h) (by decide +kernel))

/-- A write of register 3 alone comes through. -/
theorem forwarded_singleWrite :
    ¬ ∀ (cloudPolicy : CloudForwardingPolicy) (forwardStopped : Bool) (msg : CloudMessage),
      cloudPolicy.blockConfigCommands = true →
      cloudPolicy.allowsDevice (extractDeviceId msg.topic) = true →
      IsCloudWrite (unscramble msg.payload) →
      onMessageForwardClient cloudPolicy forwardStopped msg = [] := by
  intro h
  have hnothing := h filteringPolicy false (cloudCommand 6 [0, 3, 0, 50]) rfl rfl
    (.single ⟨⟨"ABCDEFGH12".toList, .presetSingleRegister, 3, 50⟩, by decide +kernel, rfl⟩)
  revert hnothing
  decide +kernel

end GroBro
