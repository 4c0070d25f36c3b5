/-
GroBro/Topics.lean

The MQTT topics that the Home Assistant client publishes on.  Topics are texts whose
levels are separated by slashes; a device id is put into them as it is, so only the
levels beside it are known to have no slash (`TopicLevel`).  What is needed of the
topics is that they tell apart what they were made of.
-/
import GroBro.PyText

namespace GroBro

/-- One level of a topic. -/
abbrev TopicLevel := { s : PyStr // '/' ∉ s }

/-- A text read up to its first separator. -/
theorem eq_of_append_cons {α : Type*} {a : α} {l l' r r' : List α} (hl : a ∉ l) (hl' : a ∉ l')
    (h : l ++ a :: r = l' ++ a :: r') : l = l' ∧ r = r' := by
  induction l generalizing l' with
  | nil =>
      cases l' with
      | nil => exact ⟨rfl, (List.cons.inj h).2⟩
      | cons b l' =>
          obtain ⟨rfl, -⟩ := List.cons.inj h
          exact absurd List.mem_cons_self hl'
  | cons b l ih =>
      cases l' with
      | nil =>
          obtain ⟨rfl, -⟩ := List.cons.inj h
          exact absurd List.mem_cons_self hl
      | cons b' l' =>
          obtain ⟨rfl, htail⟩ := List.cons.inj h
          obtain ⟨rfl, rfl⟩ := ih (fun ha => hl (List.mem_cons_of_mem _ ha))
            (fun ha => hl' (List.mem_cons_of_mem _ ha)) htail
          exact ⟨rfl, rfl⟩

/-- A text read from behind up to its last separator. -/
theorem eq_of_append_cons_right {α : Type*} {a : α} {l l' r r' : List α} (hr : a ∉ r)
    (hr' : a ∉ r') (h : l ++ a :: r = l' ++ a :: r') : l = l' ∧ r = r' := by
  have hreverse : r.reverse ++ a :: l.reverse = r'.reverse ++ a :: l'.reverse := by
    have h' := congrArg List.reverse h
    rw [List.reverse_append, List.reverse_append, List.reverse_cons, List.reverse_cons,
      List.append_assoc, List.append_assoc] at h'
    exact h'
  obtain ⟨hrs, hls⟩ := eq_of_append_cons (fun ha => hr (List.mem_reverse.mp ha))
    (fun ha => hr' (List.mem_reverse.mp ha)) hreverse
  exact ⟨List.reverse_inj.mp hls, List.reverse_inj.mp hrs⟩

/-! ### Topics of a device -/

/-- `f"{HA_BASE_TOPIC}/grobro/{device_id}/{leaf}"` -/
def grobroTopic (base deviceId : PyStr) (leaf : TopicLevel) : PyStr :=
  (base ++ "/grobro/".toList ++ deviceId) ++ '/' :: leaf.val

def stateLevel : TopicLevel := ⟨"state".toList, by decide⟩
def availabilityLevel : TopicLevel := ⟨"availability".toList, by decide⟩
def onlineLevel : TopicLevel := ⟨"online".toList, by decide⟩

def stateTopic (base deviceId : PyStr) : PyStr := grobroTopic base deviceId stateLevel

def availabilityTopic (base deviceId : PyStr) : PyStr := grobroTopic base deviceId availabilityLevel

/-- The topic of the extra availability sensor. -/
def onlineTopic (base deviceId : PyStr) : PyStr := grobroTopic base deviceId onlineLevel

/-- `f"{HA_BASE_TOPIC}/{type}/grobro/{device_id}/{name}/get"` -/
def holdingTopic (base : PyStr) (type : TopicLevel) (deviceId : PyStr) (name : TopicLevel) : PyStr :=
  (base ++ '/' :: (type.val ++ '/' :: ("grobro/".toList ++ (deviceId ++ '/' :: name.val)))) ++
    '/' :: "get".toList

/-- `f"{HA_BASE_TOPIC}/device/{device_id}/config"` -/
def deviceConfigTopic (base deviceId : PyStr) : PyStr :=
  base ++ "/device/".toList ++ deviceId ++ "/config".toList

/-- `f"{HA_BASE_TOPIC}/config/grobro/{device_id}/{register_no}/get"` -/
def readbackTopic (base deviceId : PyStr) (registerNo : ℕ) : PyStr :=
  base ++ "/config/grobro/".toList ++ deviceId ++ '/' :: (toString registerNo).toList ++
    "/get".toList

section Topics

variable {base d d' : PyStr}

/-- A topic of a device tells the device and the leaf. -/
theorem grobroTopic_inj {leaf leaf' : TopicLevel}
    (h : grobroTopic base d leaf = grobroTopic base d' leaf') : d = d' ∧ leaf = leaf' := by
  obtain ⟨hleft, hleaf⟩ := eq_of_append_cons_right leaf.property leaf'.property h
  exact ⟨List.append_cancel_left hleft, Subtype.ext hleaf⟩

theorem stateTopic_injective (base : PyStr) : Function.Injective (stateTopic base) :=
  fun _ _ h => (grobroTopic_inj h).1

theorem availabilityTopic_injective (base : PyStr) : Function.Injective (availabilityTopic base) :=
  fun _ _ h => (grobroTopic_inj h).1

theorem availabilityTopic_ne_onlineTopic : availabilityTopic base d ≠ onlineTopic base d' := by
  intro h
  have hleaf := congrArg Subtype.val (grobroTopic_inj h).2
  exact absurd hleaf (by decide)

theorem stateTopic_ne_holdingTopic {type name : TopicLevel} :
    stateTopic base d ≠ holdingTopic base type d' name := by
  intro h
  have hget : '/' ∉ "get".toList := by decide
  have hleaf := (eq_of_append_cons_right stateLevel.property hget h).2
  exact absurd hleaf (by decide)

/-- A holding topic tells the type, the device and the register. -/
theorem holdingTopic_inj {type type' name name' : TopicLevel}
    (h : holdingTopic base type d name = holdingTopic base type' d' name') :
    type = type' ∧ d = d' ∧ name = name' := by
  have hbody := List.append_cancel_right h
  obtain ⟨-, hlevels⟩ := List.cons.inj (List.append_cancel_left hbody)
  obtain ⟨htype, hrest⟩ := eq_of_append_cons type.property type'.property hlevels
  obtain ⟨hdevice, hname⟩ := eq_of_append_cons_right name.property name'.property
    (List.append_cancel_left hrest)
  exact ⟨Subtype.ext htype, hdevice, Subtype.ext hname⟩

theorem deviceConfigTopic_injective (base : PyStr) :
    Function.Injective (deviceConfigTopic base) :=
  fun _ _ h => List.append_cancel_left (List.append_cancel_right h)

end Topics

end GroBro
