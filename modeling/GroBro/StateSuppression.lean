/-
GroBro/StateSuppression.lean

The states that `grobro/ha/client.py` publishes, and the caches of
`grobro/ha/performance.py` that keep it from publishing them again.  Telemetry has two
caches, the prepared payload of each device and its JSON text; the holding registers
have one, by device and name.  A cache is looked up before a publish and written only
after the publish was accepted.  A user command on a NEO publishes a holding state past
the cache (`publishRetainedSwitchState`), and a reconnect clears all three.

A packet comes as it is after its payload was prepared, a holding-register packet as the
list of its values.  Python's `==` and `json.dumps` are parameters: `==` is not even
reflexive where a value is no number.

`state_suppression_exact` is about every run: what is suppressed is what the broker
accepted last, and what was not accepted is offered again.
-/
import GroBro.Machine
import GroBro.Broker
import GroBro.Topics

namespace GroBro

open Broker History Machine

/-! ### State -/

/-- `P` are the prepared payloads, `V` the values of holding registers. -/
structure StateSetup (P V : Type*) where
  haBaseTopic : PyStr
  /-- The type of a holding register, from the register map of its device. -/
  registerType : PyStr → TopicLevel → TopicLevel
  /-- `==` on prepared payloads -/
  samePayload : P → P → Bool
  /-- `==` on register values -/
  sameValue : V → V → Bool
  /-- `json.dumps(payload, separators=(",", ":"))`, unless it raises -/
  dumps : P → Option PyStr

/-- What is published as a state. -/
inductive StateMessage (P V : Type*) where
  | telemetry (payload : P)
  | holding (value : V)
  deriving DecidableEq

structure StateCaches (P V : Type*) where
  /-- `_last_state_payload` -/
  lastStatePayload : PyStr → Option P
  /-- `_state_publish_cache` -/
  statePublishCache : PyStr → Option PyStr
  /-- `_last_holding_state` -/
  lastHoldingState : PyStr × TopicLevel → Option V

def StateCaches.empty {P V : Type*} : StateCaches P V := ⟨fun _ => none, fun _ => none, fun _ => none⟩

/-- The caches, and what happened so far. -/
structure StatePublisher (P V : Type*) where
  caches : StateCaches P V
  history : List (Event PyStr (StateMessage P V))

namespace StatePublisher

variable {P V : Type*}

def start : StatePublisher P V := ⟨.empty, []⟩

def emit (s : StatePublisher P V) (e : Event PyStr (StateMessage P V)) : StatePublisher P V :=
  { s with history := s.history ++ [e] }

end StatePublisher

/-! ### Caches -/

section Caches

variable {P V : Type*} (c : StateSetup P V) (caches : StateCaches P V) (d : PyStr)

/-- `_should_serialize_state`; the caches are written only with `commit`. -/
def shouldSerializeState (payload : P) (commit : Bool) : Bool × StateCaches P V :=
  if (caches.lastStatePayload d).elim false (c.samePayload · payload) then (false, caches)
  else
    (true, if commit then
      { caches with lastStatePayload := Function.update caches.lastStatePayload d (some payload) }
    else caches)

/-- `_should_publish_state` -/
def shouldPublishState (payloadJson : PyStr) (commit : Bool) : Bool × StateCaches P V :=
  if caches.statePublishCache d = some payloadJson then (false, caches)
  else
    (true, if commit then
      { caches with
        statePublishCache := Function.update caches.statePublishCache d (some payloadJson) }
    else caches)

/-- `_should_publish_holding_state` -/
def shouldPublishHoldingState (name : TopicLevel) (value : V) (commit : Bool) :
    Bool × StateCaches P V :=
  if (caches.lastHoldingState (d, name)).elim false (c.sameValue · value) then (false, caches)
  else
    (true, if commit then
      { caches with
        lastHoldingState := Function.update caches.lastHoldingState (d, name) (some value) }
    else caches)

end Caches

/-! ### Operations -/

section Operations

variable {P V : Type*} (c : StateSetup P V) (s : StatePublisher P V) (d : PyStr)

/-- `publish_input_register` from the prepared payload on. -/
def publishInputRegister (payload : P) (outcome : Outcome) : StatePublisher P V :=
  let topic := stateTopic c.haBaseTopic d
  if (shouldSerializeState c s.caches d payload false).1 then
    match c.dumps payload with
    | none => s
    | some payloadJson =>
        if (shouldPublishState s.caches d payloadJson false).1 then
          let s := s.emit (.published topic (.telemetry payload) outcome)
          if outcome = .accepted then
            let caches := (shouldSerializeState c s.caches d payload true).2
            { s with caches := (shouldPublishState caches d payloadJson true).2 }
          else s
        else s.emit (.suppressed topic (.telemetry payload))
  else s.emit (.suppressed topic (.telemetry payload))

/-- One round of the loop of `publish_holding_register_input`; a publish that raises does
not end the loop. -/
def publishHoldingValue (name : TopicLevel) (value : V) (outcome : Outcome) :
    StatePublisher P V :=
  let topic := holdingTopic c.haBaseTopic (c.registerType d name) d name
  if (shouldPublishHoldingState c s.caches d name value false).1 then
    let s := s.emit (.published topic (.holding value) outcome)
    if outcome = .accepted then
      { s with caches := (shouldPublishHoldingState c s.caches d name value true).2 }
    else s
  else s.emit (.suppressed topic (.holding value))

def switchLevel : TopicLevel := ⟨"switch".toList, by decide⟩
def inverterPowerLevel : TopicLevel := ⟨"inverter_power".toList, by decide⟩

/-- `_publish_retained_switch_state`: the entry of the register is dropped, so that the
next value that the device reports is published. -/
def publishRetainedSwitchState (state : V) (outcome : Outcome) : StatePublisher P V :=
  let topic := holdingTopic c.haBaseTopic switchLevel d inverterPowerLevel
  let s := s.emit (.published topic (.holding state) outcome)
  if outcome = .accepted then
    let lastHoldingState := Function.update s.caches.lastHoldingState (d, inverterPowerLevel) none
    { s with caches := { s.caches with lastHoldingState } }
  else s

/-- `_clear_state_publish_cache` on a reconnect. -/
def clearStatePublishCache : StatePublisher P V := { s with caches := .empty }.emit .forgotten

end Operations

/-! ### Steps -/

/-- What wants to be published: the telemetry of a device, a value of a holding-register
packet, or the state of a NEO's inverter power after a user command. -/
inductive StateOffer (P V : Type*) where
  | telemetry (d : PyStr) (payload : P)
  | holding (d : PyStr) (name : TopicLevel) (value : V)
  | switchState (d : PyStr) (state : V)

inductive StateAction (P V : Type*) where
  | offer (x : StateOffer P V) (outcome : Outcome)
  | reconnect

section Steps

variable {P V : Type*} (c : StateSetup P V)

def StateOffer.topic : StateOffer P V → PyStr
  | telemetry d _ => stateTopic c.haBaseTopic d
  | holding d name _ => holdingTopic c.haBaseTopic (c.registerType d name) d name
  | switchState d _ => holdingTopic c.haBaseTopic switchLevel d inverterPowerLevel

def StateOffer.message : StateOffer P V → StateMessage P V
  | telemetry _ payload => .telemetry payload
  | holding _ _ value => .holding value
  | switchState _ state => .holding state

def stateStep (s : StatePublisher P V) : StateAction P V → StatePublisher P V
  | .offer (.telemetry d payload) outcome => publishInputRegister c s d payload outcome
  | .offer (.holding d name value) outcome => publishHoldingValue c s d name value outcome
  | .offer (.switchState d state) outcome => publishRetainedSwitchState c s d state outcome
  | .reconnect => clearStatePublishCache s

/-- A holding-register packet, with what becomes of each publish. -/
def publishHoldingRegisterInput (s : StatePublisher P V) (d : PyStr)
    (payload : List (TopicLevel × V × Outcome)) : StatePublisher P V :=
  run (stateStep c) s (payload.map fun x => .offer (.holding d x.1 x.2.1) x.2.2)

/-! ### What suppression is for -/

/-- Two messages show the same: equal payloads or equal texts, or equal values. -/
def StateSetup.Same : StateMessage P V → StateMessage P V → Prop
  | .telemetry p, .telemetry q =>
      c.samePayload p q = true ∨ ∃ text, c.dumps p = some text ∧ c.dumps q = some text
  | .holding v, .holding w => c.sameValue v w = true
  | _, _ => False

/-- A message is what was accepted last on its topic, or the same as that. -/
def StateSetup.OnBroker (t : PyStr) (m : StateMessage P V)
    (h : List (Event PyStr (StateMessage P V))) : Prop :=
  ∃ m', lastAccepted t h = some m' ∧ (m' = m ∨ c.Same m' m)

/-- **State suppression hides nothing.** -/
structure SuppressionExact (s : StatePublisher P V) : Prop where
  /-- What is suppressed is the same as what was accepted last. -/
  suppressed : Justified (fun h e => ∀ t m, e = .suppressed t m →
    ∃ m', lastAccepted t h = some m' ∧ c.Same m' m) s.history
  /-- What was accepted or suppressed is on the broker afterwards. -/
  shown : Justified (fun h e => ∀ t m, e = .suppressed t m ∨ e = .published t m .accepted →
    c.OnBroker t m (h ++ [e])) s.history
  /-- An offer is published or suppressed, unless its text cannot be made. -/
  recorded : ∀ x outcome, (∀ d payload, x = .telemetry d payload → c.dumps payload ≠ none) →
    ∃ e, (stateStep c s (.offer x outcome)).history = s.history ++ [e] ∧
      (e = .suppressed (x.topic c) x.message ∨ e = .published (x.topic c) x.message outcome)
  /-- What was not accepted leaves the caches alone, and is offered again. -/
  retried : ∀ x outcome, outcome ≠ .accepted →
    (stateStep c s (.offer x outcome)).caches = s.caches ∧
    ((stateStep c s (.offer x outcome)).history =
        s.history ++ [.published (x.topic c) x.message outcome] →
      ∀ outcome', (stateStep c (stateStep c s (.offer x outcome)) (.offer x outcome')).history =
        (stateStep c s (.offer x outcome)).history ++
          [.published (x.topic c) x.message outcome'])

end Steps

/-! ### What an offer does -/

section Offers

variable {P V : Type*} {c : StateSetup P V} {caches : StateCaches P V} {s : StatePublisher P V}
  {d : PyStr} {payload : P} {text : PyStr} {name : TopicLevel} {value : V} {outcome : Outcome}

/-- The payload cache has what is the same as a payload. -/
def PayloadCached (c : StateSetup P V) (caches : StateCaches P V) (d : PyStr) (payload : P) : Prop :=
  ∃ cached, caches.lastStatePayload d = some cached ∧ c.samePayload cached payload = true

def HoldingCached (c : StateSetup P V) (caches : StateCaches P V) (d : PyStr) (name : TopicLevel)
    (value : V) : Prop :=
  ∃ cached, caches.lastHoldingState (d, name) = some cached ∧ c.sameValue cached value = true

theorem elim_eq_true {α : Type*} {x : Option α} {p : α → Bool} :
    x.elim false p = true ↔ ∃ a, x = some a ∧ p a = true := by
  rcases x with - | a
  · exact ⟨nofun, fun ⟨_, h, _⟩ => nomatch h⟩
  · exact ⟨fun h => ⟨a, rfl, h⟩, fun ⟨_, h, hp⟩ => Option.some.inj h ▸ hp⟩

theorem shouldSerializeState_of_cached (h : PayloadCached c caches d payload) (commit : Bool) :
    shouldSerializeState c caches d payload commit = (false, caches) := if_pos (elim_eq_true.mpr h)

theorem shouldSerializeState_of_not (h : ¬ PayloadCached c caches d payload) (commit : Bool) :
    shouldSerializeState c caches d payload commit = (true, if commit then
      { caches with lastStatePayload := Function.update caches.lastStatePayload d (some payload) }
    else caches) := if_neg (mt elim_eq_true.mp h)

theorem shouldPublishHoldingState_of_cached (h : HoldingCached c caches d name value)
    (commit : Bool) : shouldPublishHoldingState c caches d name value commit = (false, caches) :=
  if_pos (elim_eq_true.mpr h)

theorem shouldPublishHoldingState_of_not (h : ¬ HoldingCached c caches d name value)
    (commit : Bool) :
    shouldPublishHoldingState c caches d name value commit = (true, if commit then
      { caches with
        lastHoldingState := Function.update caches.lastHoldingState (d, name) (some value) }
    else caches) := if_neg (mt elim_eq_true.mp h)

/-- The caches after a payload was accepted. -/
def StateCaches.storeState (caches : StateCaches P V) (d : PyStr) (payload : P) (text : PyStr) :
    StateCaches P V :=
  { caches with
    lastStatePayload := Function.update caches.lastStatePayload d (some payload)
    statePublishCache := Function.update caches.statePublishCache d (some text) }

/-- The caches after a value was accepted, or forgotten. -/
def StateCaches.setHolding (caches : StateCaches P V) (d : PyStr) (name : TopicLevel)
    (value : Option V) : StateCaches P V :=
  { caches with lastHoldingState := Function.update caches.lastHoldingState (d, name) value }

theorem publishInputRegister_cached (h : PayloadCached c s.caches d payload) (outcome : Outcome) :
    publishInputRegister c s d payload outcome =
      s.emit (.suppressed (stateTopic c.haBaseTopic d) (.telemetry payload)) := by
  rw [publishInputRegister, shouldSerializeState_of_cached h]
  rfl

theorem publishInputRegister_unprintable (h : ¬ PayloadCached c s.caches d payload)
    (htext : c.dumps payload = none) (outcome : Outcome) :
    publishInputRegister c s d payload outcome = s := by
  rw [publishInputRegister, shouldSerializeState_of_not h, htext]
  rfl

theorem publishInputRegister_text_cached (h : ¬ PayloadCached c s.caches d payload)
    (htext : c.dumps payload = some text) (hcached : s.caches.statePublishCache d = some text)
    (outcome : Outcome) :
    publishInputRegister c s d payload outcome =
      s.emit (.suppressed (stateTopic c.haBaseTopic d) (.telemetry payload)) := by
  rw [publishInputRegister, shouldSerializeState_of_not h, htext]
  dsimp only
  rw [if_pos rfl, shouldPublishState, if_pos hcached]
  rfl

theorem publishInputRegister_offered (h : ¬ PayloadCached c s.caches d payload)
    (htext : c.dumps payload = some text) (hcached : s.caches.statePublishCache d ≠ some text)
    (outcome : Outcome) :
    publishInputRegister c s d payload outcome =
      { caches := if outcome = .accepted then s.caches.storeState d payload text else s.caches
        history := s.history ++
          [.published (stateTopic c.haBaseTopic d) (.telemetry payload) outcome] } := by
  rw [publishInputRegister, shouldSerializeState_of_not h, htext]
  dsimp only
  rw [if_pos rfl, shouldPublishState, if_neg hcached]
  dsimp only
  rw [if_pos rfl]
  split_ifs with ho
  · have hserialize : shouldSerializeState c (s.emit (.published (stateTopic c.haBaseTopic d)
        (.telemetry payload) outcome)).caches d payload true =
          (true, { s.caches with
            lastStatePayload := Function.update s.caches.lastStatePayload d (some payload) }) :=
      shouldSerializeState_of_not h true
    rw [hserialize, shouldPublishState, if_neg hcached]
    rfl
  · rfl

/-- What a telemetry packet does. -/
theorem publishInputRegister_cases (c : StateSetup P V) (s : StatePublisher P V) (d : PyStr)
    (payload : P) :
    ((PayloadCached c s.caches d payload ∨ ∃ text, c.dumps payload = some text ∧
        s.caches.statePublishCache d = some text) ∧
      ∀ outcome, publishInputRegister c s d payload outcome =
        s.emit (.suppressed (stateTopic c.haBaseTopic d) (.telemetry payload))) ∨
    (c.dumps payload = none ∧ ∀ outcome, publishInputRegister c s d payload outcome = s) ∨
    ∃ text, c.dumps payload = some text ∧ ∀ s' : StatePublisher P V, s'.caches = s.caches →
      ∀ outcome, publishInputRegister c s' d payload outcome =
        { caches := if outcome = .accepted then s.caches.storeState d payload text else s.caches
          history := s'.history ++
            [.published (stateTopic c.haBaseTopic d) (.telemetry payload) outcome] } := by
  by_cases hcached : PayloadCached c s.caches d payload
  · exact Or.inl ⟨Or.inl hcached, publishInputRegister_cached hcached⟩
  · rcases htext : c.dumps payload with - | text
    · exact Or.inr (Or.inl ⟨rfl, publishInputRegister_unprintable hcached htext⟩)
    · by_cases hsame : s.caches.statePublishCache d = some text
      · exact Or.inl ⟨Or.inr ⟨text, rfl, hsame⟩, publishInputRegister_text_cached hcached htext hsame⟩
      · refine Or.inr (Or.inr ⟨text, rfl, ?_⟩)
        intro s' hs' outcome
        rw [← hs'] at hcached hsame ⊢
        exact publishInputRegister_offered hcached htext hsame outcome

/-- What a value of a holding-register packet does. -/
theorem publishHoldingValue_cases (c : StateSetup P V) (s : StatePublisher P V) (d : PyStr)
    (name : TopicLevel) (value : V) :
    (HoldingCached c s.caches d name value ∧
      ∀ outcome, publishHoldingValue c s d name value outcome =
        s.emit (.suppressed (holdingTopic c.haBaseTopic (c.registerType d name) d name)
          (.holding value))) ∨
    ∀ s' : StatePublisher P V, s'.caches = s.caches →
      ∀ outcome, publishHoldingValue c s' d name value outcome =
        { caches := if outcome = .accepted then s.caches.setHolding d name (some value)
            else s.caches
          history := s'.history ++
            [.published (holdingTopic c.haBaseTopic (c.registerType d name) d name)
              (.holding value) outcome] } := by
  by_cases hcached : HoldingCached c s.caches d name value
  · refine Or.inl ⟨hcached, fun outcome => ?_⟩
    rw [publishHoldingValue, shouldPublishHoldingState_of_cached hcached]
    rfl
  · refine Or.inr fun s' hs' outcome => ?_
    rw [← hs'] at hcached ⊢
    rw [publishHoldingValue, shouldPublishHoldingState_of_not hcached]
    dsimp only
    rw [if_pos rfl]
    split_ifs
    · have hstore : shouldPublishHoldingState c (s'.emit (.published
          (holdingTopic c.haBaseTopic (c.registerType d name) d name) (.holding value)
            outcome)).caches d name value true =
            (true, s'.caches.setHolding d name (some value)) :=
        shouldPublishHoldingState_of_not hcached true
      rw [hstore]
      rfl
    · rfl

theorem publishRetainedSwitchState_eq (c : StateSetup P V) (s : StatePublisher P V) (d : PyStr)
    (state : V) (outcome : Outcome) :
    publishRetainedSwitchState c s d state outcome =
      { caches := if outcome = .accepted then s.caches.setHolding d inverterPowerLevel none
          else s.caches
        history := s.history ++ [.published
          (holdingTopic c.haBaseTopic switchLevel d inverterPowerLevel) (.holding state) outcome] } := by
  rw [publishRetainedSwitchState]
  dsimp only
  split_ifs <;> rfl

end Offers

/-! ### The invariant -/

/-- The topic of an entry of the holding cache. -/
def StateSetup.holdingKeyTopic {P V : Type*} (c : StateSetup P V) (key : PyStr × TopicLevel) :
    PyStr := holdingTopic c.haBaseTopic (c.registerType key.1 key.2) key.1 key.2

/-- The caches hold what the broker accepted last. -/
structure Suppressing {P V : Type*} (c : StateSetup P V) (s : StatePublisher P V) : Prop where
  payload : Coherent (stateTopic c.haBaseTopic) (fun p m => m = StateMessage.telemetry p)
    s.caches.lastStatePayload s.history
  text : Coherent (stateTopic c.haBaseTopic)
    (fun text m => ∃ p, m = StateMessage.telemetry p ∧ c.dumps p = some text)
    s.caches.statePublishCache s.history
  holding : Coherent c.holdingKeyTopic (fun v m => m = StateMessage.holding v)
    s.caches.lastHoldingState s.history
  suppressed : Justified (fun h e => ∀ t m, e = .suppressed t m →
    ∃ m', lastAccepted t h = some m' ∧ c.Same m' m) s.history
  shown : Justified (fun h e => ∀ t m, e = .suppressed t m ∨ e = .published t m .accepted →
    c.OnBroker t m (h ++ [e])) s.history

section Invariant

variable {P V : Type*} {c : StateSetup P V} {s : StatePublisher P V} {d : PyStr} {t : PyStr}
  {m : StateMessage P V}

theorem holdingKeyTopic_injective (c : StateSetup P V) :
    Function.Injective c.holdingKeyTopic := by
  rintro ⟨d, name⟩ ⟨d', name'⟩ h
  obtain ⟨-, hd, hname⟩ := holdingTopic_inj h
  exact Prod.ext hd hname

theorem suppressing_start : Suppressing c .start where
  payload := coherent_empty
  text := coherent_empty
  holding := coherent_empty
  suppressed := justified_nil
  shown := justified_nil

/-- A message is suppressed for a reason. -/
theorem Suppressing.emit_suppressed (h : Suppressing c s)
    (hm : ∃ m', lastAccepted t s.history = some m' ∧ c.Same m' m) :
    Suppressing c (s.emit (.suppressed t m)) where
  payload := h.payload.suppressed t m
  text := h.text.suppressed t m
  holding := h.holding.suppressed t m
  suppressed := by
    apply h.suppressed.concat
    rintro t' m' he
    obtain ⟨rfl, rfl⟩ := Event.suppressed.inj he
    exact hm
  shown := by
    apply h.shown.concat
    rintro t' m' (he | he)
    · obtain ⟨rfl, rfl⟩ := Event.suppressed.inj he
      obtain ⟨m', hlast, hsame⟩ := hm
      refine ⟨m', ?_, Or.inr hsame⟩
      rw [lastAccepted_of_shown_none rfl]
      exact hlast
    · cases he

/-- The two records of what is suppressed stay right at every publish. -/
theorem Suppressing.published (h : Suppressing c s) (t : PyStr) (m : StateMessage P V)
    (outcome : Outcome) {caches : StateCaches P V}
    (hpayload : Coherent (stateTopic c.haBaseTopic) (fun p m => m = StateMessage.telemetry p)
      caches.lastStatePayload (s.history ++ [.published t m outcome]))
    (htext : Coherent (stateTopic c.haBaseTopic)
      (fun text m => ∃ p, m = StateMessage.telemetry p ∧ c.dumps p = some text)
      caches.statePublishCache (s.history ++ [.published t m outcome]))
    (hholding : Coherent c.holdingKeyTopic (fun v m => m = StateMessage.holding v)
      caches.lastHoldingState (s.history ++ [.published t m outcome])) :
    Suppressing c ⟨caches, s.history ++ [.published t m outcome]⟩ where
  payload := hpayload
  text := htext
  holding := hholding
  suppressed := h.suppressed.concat nofun
  shown := by
    apply h.shown.concat
    rintro t' m' (he | he)
    · cases he
    · obtain ⟨rfl, rfl, rfl⟩ := Event.published.inj he
      exact ⟨m, lastAccepted_accepted, Or.inl rfl⟩

theorem Suppressing.not_accepted (h : Suppressing c s) {outcome : Outcome}
    (ho : outcome ≠ .accepted) :
    Suppressing c ⟨s.caches, s.history ++ [.published t m outcome]⟩ :=
  h.published t m outcome (h.payload.not_accepted ho t m) (h.text.not_accepted ho t m)
    (h.holding.not_accepted ho t m)

/-- The cached payload is what was accepted last. -/
theorem Suppressing.onBroker_of_cached (h : Suppressing c s) {payload : P}
    (hcached : PayloadCached c s.caches d payload ∨ ∃ text, c.dumps payload = some text ∧
      s.caches.statePublishCache d = some text) :
    ∃ m', lastAccepted (stateTopic c.haBaseTopic d) s.history = some m' ∧
      c.Same m' (.telemetry payload) := by
  rcases hcached with ⟨cached, hcached, hsame⟩ | ⟨text, htext, hcached⟩
  · obtain ⟨m', hlast, rfl⟩ := h.payload d cached hcached
    exact ⟨_, hlast, Or.inl hsame⟩
  · obtain ⟨m', hlast, p, rfl, hp⟩ := h.text d text hcached
    exact ⟨_, hlast, Or.inr ⟨text, hp, htext⟩⟩

theorem Suppressing.publishInputRegister (h : Suppressing c s) (d : PyStr) (payload : P)
    (outcome : Outcome) : Suppressing c (publishInputRegister c s d payload outcome) := by
  rcases publishInputRegister_cases c s d payload with
    ⟨hcached, hstep⟩ | ⟨-, hstep⟩ | ⟨text, htext, hstep⟩
  · rw [hstep]
    exact h.emit_suppressed (h.onBroker_of_cached hcached)
  · rw [hstep]
    exact h
  · rw [hstep s rfl]
    split_ifs with ho
    · subst ho
      apply h.published
      · exact h.payload.store (stateTopic_injective _) rfl
      · exact h.text.store (stateTopic_injective _) ⟨payload, rfl, htext⟩
      · exact h.holding.elsewhere (fun _ => stateTopic_ne_holdingTopic.symm) _ _
    · exact h.not_accepted ho

/-- A publish on a holding topic concerns no telemetry. -/
theorem Suppressing.publish_holding (h : Suppressing c s) {type name : TopicLevel}
    {value : V} {entry : Option V} {k : PyStr × TopicLevel}
    (hholding : Coherent c.holdingKeyTopic (fun v m => m = StateMessage.holding v)
      (Function.update s.caches.lastHoldingState k entry)
      (s.history ++ [.published (holdingTopic c.haBaseTopic type d name) (.holding value) .accepted])) :
    Suppressing c ⟨s.caches.setHolding k.1 k.2 entry,
      s.history ++ [.published (holdingTopic c.haBaseTopic type d name) (.holding value) .accepted]⟩ :=
  h.published _ _ _ (h.payload.elsewhere (fun _ => stateTopic_ne_holdingTopic) _ _)
    (h.text.elsewhere (fun _ => stateTopic_ne_holdingTopic) _ _) hholding

theorem Suppressing.publishHoldingValue (h : Suppressing c s) (d : PyStr) (name : TopicLevel)
    (value : V) (outcome : Outcome) :
    Suppressing c (publishHoldingValue c s d name value outcome) := by
  rcases publishHoldingValue_cases c s d name value with ⟨⟨cached, hcached, hsame⟩, hstep⟩ | hstep
  · rw [hstep]
    apply h.emit_suppressed
    obtain ⟨m', hlast, rfl⟩ := h.holding (d, name) cached hcached
    exact ⟨_, hlast, hsame⟩
  · rw [hstep s rfl]
    split_ifs with ho
    · subst ho
      apply h.publish_holding (k := (d, name))
      exact h.holding.store (k := (d, name)) (holdingKeyTopic_injective c) rfl
    · exact h.not_accepted ho

theorem Suppressing.publishRetainedSwitchState (h : Suppressing c s) (d : PyStr) (state : V)
    (outcome : Outcome) : Suppressing c (publishRetainedSwitchState c s d state outcome) := by
  rw [publishRetainedSwitchState_eq]
  split_ifs with ho
  · subst ho
    apply h.publish_holding (k := (d, inverterPowerLevel))
    apply h.holding.remove
    rintro ⟨d', name⟩ he
    obtain ⟨-, hd, hname⟩ := holdingTopic_inj he
    exact Prod.ext hd hname
  · exact h.not_accepted ho

theorem Suppressing.clearStatePublishCache (h : Suppressing c s) :
    Suppressing c (clearStatePublishCache s) where
  payload := coherent_empty
  text := coherent_empty
  holding := coherent_empty
  suppressed := h.suppressed.concat nofun
  shown := h.shown.concat nofun

theorem Suppressing.step (h : Suppressing c s) (a : StateAction P V) :
    Suppressing c (stateStep c s a) := by
  cases a with
  | offer x outcome =>
      cases x with
      | telemetry d payload => exact h.publishInputRegister d payload outcome
      | holding d name value => exact h.publishHoldingValue d name value outcome
      | switchState d state => exact h.publishRetainedSwitchState d state outcome
  | reconnect => exact h.clearStatePublishCache

end Invariant

/-! ### Runs -/

section Runs

variable {P V : Type*}

/-- What happens to an offer is recorded. -/
theorem stateStep_recorded (c : StateSetup P V) (s : StatePublisher P V) (x : StateOffer P V)
    (outcome : Outcome)
    (htext : ∀ d payload, x = .telemetry d payload → c.dumps payload ≠ none) :
    ∃ e, (stateStep c s (.offer x outcome)).history = s.history ++ [e] ∧
      (e = .suppressed (x.topic c) x.message ∨ e = .published (x.topic c) x.message outcome) := by
  cases x with
  | telemetry d payload =>
      rcases publishInputRegister_cases c s d payload with
        ⟨-, hstep⟩ | ⟨hnone, -⟩ | ⟨text, -, hstep⟩
      · exact ⟨_, congrArg StatePublisher.history (hstep outcome), Or.inl rfl⟩
      · exact absurd hnone (htext d payload rfl)
      · exact ⟨_, congrArg StatePublisher.history (hstep s rfl outcome), Or.inr rfl⟩
  | holding d name value =>
      rcases publishHoldingValue_cases c s d name value with ⟨-, hstep⟩ | hstep
      · exact ⟨_, congrArg StatePublisher.history (hstep outcome), Or.inl rfl⟩
      · exact ⟨_, congrArg StatePublisher.history (hstep s rfl outcome), Or.inr rfl⟩
  | switchState d state =>
      exact ⟨_, congrArg StatePublisher.history (publishRetainedSwitchState_eq c s d state outcome),
        Or.inr rfl⟩

/-- An offer that was published without success would be published again. -/
theorem stateStep_retried (c : StateSetup P V) (s : StatePublisher P V) (x : StateOffer P V)
    {outcome : Outcome} (ho : outcome ≠ .accepted) :
    (stateStep c s (.offer x outcome)).caches = s.caches ∧
    ((stateStep c s (.offer x outcome)).history =
        s.history ++ [.published (x.topic c) x.message outcome] →
      ∀ outcome', (stateStep c (stateStep c s (.offer x outcome)) (.offer x outcome')).history =
        (stateStep c s (.offer x outcome)).history ++
          [.published (x.topic c) x.message outcome']) := by
  cases x with
  | telemetry d payload =>
      show (publishInputRegister c s d payload outcome).caches = s.caches ∧ _
      rcases publishInputRegister_cases c s d payload with
        ⟨-, hstep⟩ | ⟨-, hstep⟩ | ⟨text, -, hstep⟩
      · have hcaches : (publishInputRegister c s d payload outcome).caches = s.caches := by
          rw [hstep]
          rfl
        refine ⟨hcaches, fun hpublished => ?_⟩
        have hsuppressed := congrArg StatePublisher.history (hstep outcome)
        cases List.append_cancel_left (hsuppressed.symm.trans hpublished)
      · refine ⟨congrArg StatePublisher.caches (hstep outcome), fun hpublished => ?_⟩
        have hnothing := congrArg StatePublisher.history (hstep outcome)
        exact absurd (hnothing.symm.trans hpublished) (by simp)
      · have hcaches : (publishInputRegister c s d payload outcome).caches = s.caches :=
          (congrArg StatePublisher.caches (hstep s rfl outcome)).trans (if_neg ho)
        exact ⟨hcaches, fun _ outcome' =>
          congrArg StatePublisher.history (hstep _ hcaches outcome')⟩
  | holding d name value =>
      show (publishHoldingValue c s d name value outcome).caches = s.caches ∧ _
      rcases publishHoldingValue_cases c s d name value with ⟨-, hstep⟩ | hstep
      · have hcaches : (publishHoldingValue c s d name value outcome).caches = s.caches := by
          rw [hstep]
          rfl
        refine ⟨hcaches, fun hpublished => ?_⟩
        have hsuppressed := congrArg StatePublisher.history (hstep outcome)
        cases List.append_cancel_left (hsuppressed.symm.trans hpublished)
      · have hcaches : (publishHoldingValue c s d name value outcome).caches = s.caches :=
          (congrArg StatePublisher.caches (hstep s rfl outcome)).trans (if_neg ho)
        exact ⟨hcaches, fun _ outcome' =>
          congrArg StatePublisher.history (hstep _ hcaches outcome')⟩
  | switchState d state =>
      have hstep := publishRetainedSwitchState_eq c s d state outcome
      exact ⟨(congrArg StatePublisher.caches hstep).trans (if_neg ho), fun _ outcome' =>
        congrArg StatePublisher.history (publishRetainedSwitchState_eq c _ d state outcome')⟩

/-- A holding-register packet goes on with a run, value by value. -/
theorem publishHoldingRegisterInput_run (c : StateSetup P V) (as : List (StateAction P V))
    (d : PyStr) (payload : List (TopicLevel × V × Outcome)) :
    publishHoldingRegisterInput c (run (stateStep c) .start as) d payload =
      run (stateStep c) .start
        (as ++ payload.map fun x => .offer (.holding d x.1 x.2.1) x.2.2) :=
  (run_append as _).symm

theorem suppressionExact_run (c : StateSetup P V) (as : List (StateAction P V)) :
    SuppressionExact c (run (stateStep c) .start as) := by
  have h : Suppressing c (run (stateStep c) .start as) :=
    run_invariant suppressing_start fun s a _ hs => hs.step a
  exact ⟨h.suppressed, h.shown, stateStep_recorded c _, fun x _ ho => stateStep_retried c _ x ho⟩

/-- **State suppression hides nothing**, in every run of telemetry packets, values of
holding-register packets, switch states and reconnects, whatever becomes of each
publish, and behind a whole packet of holding registers. -/
theorem state_suppression_exact (c : StateSetup P V) (as : List (StateAction P V)) :
    let s := run (stateStep c) .start as
    SuppressionExact c s ∧
      ∀ d payload, SuppressionExact c (publishHoldingRegisterInput c s d payload) := by
  refine ⟨suppressionExact_run c as, fun d payload => ?_⟩
  rw [publishHoldingRegisterInput_run]
  exact suppressionExact_run c _

end Runs

end GroBro
