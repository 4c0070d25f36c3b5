/-
GroBro/GatewayLinks.lean

The inverters behind gateways, `_ptq_for_raq` of `grobro/grobro/client.py`, over whole runs.
A config packet of a gateway reports the serial of its inverter (`_remember_gateway`), which
is kept in memory and in `gateway_<id>.json`.  The write may fail, and is then repeated with
the next report.  A process that starts reads the links from these files, and before them from
the config files, which the Home Assistant client writes.

The files are those of ids without a slash.  Such a file belongs to one id only; of the others
several may name the same.

In memory the links are those of `rememberGateway`, so that what is known of the bridge of one
packet holds of this one (`ptqForRaq_remember`).  What was written is read again at the next
start (`gateway_links_exact`).
-/
import GroBro.NoahDecoders
import GroBro.ConfigSerial
import GroBro.Machine

namespace GroBro

open OrderedDict Machine

/-! ### Links -/

/-- `endpoint.startswith("PTQ")` -/
def IsInverter (endpoint : PyStr) : Prop := endpoint.take 3 = ['P', 'T', 'Q']

instance : DecidablePred IsInverter := fun _ => inferInstanceAs (Decidable (_ = _))

structure GatewayStore where
  /-- `_ptq_for_raq` -/
  client : BridgeClient
  /-- `_gateway_dirty` -/
  dirty : PyStr → Bool
  /-- The serial in `gateway_<id>.json`, if there is such a file and it has one. -/
  gatewayFile : PyStr → Option PyStr
  /-- The serial in `config_<id>.json`. -/
  configFile : PyStr → Option PyStr
  /-- What the process knew when it started, which no step looks at. -/
  restored : PyStr → Option PyStr

/-- `DeviceConfig.from_file(path).serial_number` -/
def fileSerial (file : Option PyStr) : Option PyStr := rejectPlaceholderSerialNumber file

namespace GatewayStore

variable (s : GatewayStore)

def link (gatewayId : PyStr) : Option PyStr := s.client.ptqForRaq.get? gatewayId

/-- `_remember_gateway`, for a packet; the write of the file may fail. -/
def remember (gatewayId : PyStr) (endpoint : Option PyStr) (writeOk : Bool) : GatewayStore :=
  match endpoint with
  | none => s
  | some endpoint =>
      if ¬ isGateway gatewayId ∨ ¬ IsInverter endpoint then s
      else if s.link gatewayId = some endpoint ∧ s.dirty gatewayId = false then s
      else
        let s := { s with client :=
          { s.client with ptqForRaq := s.client.ptqForRaq.insert gatewayId endpoint } }
        if writeOk then
          { s with
            dirty := Function.update s.dirty gatewayId false
            gatewayFile := Function.update s.gatewayFile gatewayId
              (rejectPlaceholderSerialNumber (some endpoint)) }
        else { s with dirty := Function.update s.dirty gatewayId true }

/-- The loop of `__init__` over the files of one pattern. -/
def restoreLinks (client : BridgeClient) (file : PyStr → Option PyStr) (gatewayIds : List PyStr) :
    BridgeClient :=
  gatewayIds.foldl (fun client gatewayId =>
    rememberGateway client gatewayId (fileSerial (file gatewayId))) client

/-- A process that starts; it finds, and can read, the files of these devices. -/
def restart (configIds gatewayIds : List PyStr) : GatewayStore :=
  let client := restoreLinks ⟨false, ∅⟩ s.configFile configIds
  let client := restoreLinks client s.gatewayFile gatewayIds
  { s with client, dirty := fun _ => false, restored := client.ptqForRaq.get? }

end GatewayStore

/-- An id that has its files for itself. -/
abbrev FileId := {deviceId : PyStr // '/' ∉ deviceId}

inductive GatewayEvent where
  /-- The serial that a config packet reports. -/
  | report (gatewayId : FileId) (endpoint : Option PyStr) (writeOk : Bool)
  /-- The Home Assistant client writes `config_<id>.json`. -/
  | writeConfig (deviceId : FileId) (serial : Option PyStr)
  | restart (configIds gatewayIds : List PyStr)

def gatewayStep (s : GatewayStore) : GatewayEvent → GatewayStore
  | .report gatewayId endpoint writeOk => s.remember gatewayId.1 endpoint writeOk
  | .writeConfig deviceId serial =>
      { s with configFile := Function.update s.configFile deviceId.1 serial }
  | .restart configIds gatewayIds => s.restart configIds gatewayIds

/-! ### Lookups -/

/-- The link that a serial makes for a gateway. -/
def linkFor (gatewayId : PyStr) (endpoint : Option PyStr) : Option PyStr :=
  if isGateway gatewayId then endpoint.filter (IsInverter ·) else none

theorem linkFor_eq_some {gatewayId e : PyStr} {endpoint : Option PyStr} :
    linkFor gatewayId endpoint = some e ↔
      isGateway gatewayId = true ∧ endpoint = some e ∧ IsInverter e := by
  unfold linkFor
  split_ifs with hgateway
  · rw [Option.filter_eq_some_iff, decide_eq_true_eq]
    simp [hgateway]
  · simp [hgateway]

theorem rememberGateway_some (client : BridgeClient) (gatewayId endpoint : PyStr) :
    rememberGateway client gatewayId (some endpoint) =
      if ¬ isGateway gatewayId ∨ ¬ IsInverter endpoint then client
      else { client with ptqForRaq := client.ptqForRaq.insert gatewayId endpoint } := rfl

theorem get?_rememberGateway (client : BridgeClient) (gatewayId : PyStr) (endpoint : Option PyStr)
    (d : PyStr) : (rememberGateway client gatewayId endpoint).ptqForRaq.get? d =
      (if d = gatewayId then linkFor gatewayId endpoint else none).or
        (client.ptqForRaq.get? d) := by
  rcases endpoint with - | endpoint
  · simp [rememberGateway, linkFor]
  rw [rememberGateway_some]
  by_cases hvalid : isGateway gatewayId = true ∧ IsInverter endpoint
  · have hlink : linkFor gatewayId (some endpoint) = some endpoint :=
      linkFor_eq_some.mpr ⟨hvalid.1, rfl, hvalid.2⟩
    rw [hlink, if_neg (not_or.mpr ⟨not_not_intro hvalid.1, not_not_intro hvalid.2⟩)]
    dsimp only
    rw [Dict.get?_insert]
    by_cases hd : d = gatewayId
    · rw [if_pos hd.symm, if_pos hd, Option.some_or]
    · rw [if_neg (Ne.symm hd), if_neg hd, Option.none_or]
  · have hlink : linkFor gatewayId (some endpoint) = none := by
      refine Option.eq_none_iff_forall_ne_some.mpr fun e he => hvalid ?_
      obtain ⟨hgateway, hsome, hinverter⟩ := linkFor_eq_some.mp he
      exact ⟨hgateway, Option.some.inj hsome ▸ hinverter⟩
    rw [hlink, if_pos (not_and_or.mp hvalid), ite_self, Option.none_or]

theorem get?_restoreLinks (client : BridgeClient) (file : PyStr → Option PyStr)
    (gatewayIds : List PyStr) (d : PyStr) :
    (GatewayStore.restoreLinks client file gatewayIds).ptqForRaq.get? d =
      (if d ∈ gatewayIds then linkFor d (fileSerial (file d)) else none).or
        (client.ptqForRaq.get? d) := by
  induction gatewayIds generalizing client with
  | nil => simp [GatewayStore.restoreLinks]
  | cons gatewayId gatewayIds ih =>
      rw [GatewayStore.restoreLinks, List.foldl_cons]
      have hrest := ih (rememberGateway client gatewayId (fileSerial (file gatewayId)))
      rw [GatewayStore.restoreLinks] at hrest
      rw [hrest, get?_rememberGateway]
      by_cases hd : d = gatewayId
      · subst hd
        rw [if_pos rfl, if_pos List.mem_cons_self, ← Option.or_assoc]
        split_ifs
        · rw [Option.or_self]
        · rw [Option.none_or]
      · rw [if_neg hd, Option.none_or]
        simp [hd]

/-- In memory a report does what the dispatcher of packets does. -/
theorem ptqForRaq_remember (s : GatewayStore) (gatewayId : PyStr) (endpoint : Option PyStr)
    (writeOk : Bool) (d : PyStr) : (s.remember gatewayId endpoint writeOk).link d =
      (rememberGateway s.client gatewayId endpoint).ptqForRaq.get? d := by
  rcases endpoint with - | endpoint
  · rfl
  rw [rememberGateway_some, GatewayStore.remember]
  by_cases hvalid : ¬ isGateway gatewayId = true ∨ ¬ IsInverter endpoint
  · rw [if_pos hvalid, if_pos hvalid]
    rfl
  rw [if_neg hvalid, if_neg hvalid]
  split_ifs with hsame hwrite
  · -- an insertion of what is there
    rw [Dict.get?_insert]
    split_ifs with hd
    · rw [← hd, hsame.1]
    · rfl
  · rfl
  · rfl

/-! ### Steps -/

/-- What a report that is taken leaves. -/
structure Taken (s s' : GatewayStore) (gatewayId endpoint : PyStr) (writeOk : Bool) : Prop where
  link : ∀ d, s'.link d = if d = gatewayId then some endpoint else s.link d
  dirty : s'.dirty = Function.update s.dirty gatewayId (!writeOk)
  gatewayFile : s'.gatewayFile = if writeOk then Function.update s.gatewayFile gatewayId
    (rejectPlaceholderSerialNumber (some endpoint)) else s.gatewayFile
  restored : s'.restored = s.restored

/-- A report is of no inverter, or of the one that is known and stored, or it is taken. -/
theorem remember_cases (s : GatewayStore) (gatewayId : PyStr) (endpoint : Option PyStr)
    (writeOk : Bool) :
    (linkFor gatewayId endpoint = none ∧ s.remember gatewayId endpoint writeOk = s) ∨
      ∃ e, linkFor gatewayId endpoint = some e ∧
        ((s.link gatewayId = some e ∧ s.dirty gatewayId = false ∧
            s.remember gatewayId endpoint writeOk = s) ∨
          (¬ (s.link gatewayId = some e ∧ s.dirty gatewayId = false) ∧
            Taken s (s.remember gatewayId endpoint writeOk) gatewayId e writeOk)) := by
  rcases endpoint with - | e
  · exact Or.inl ⟨by simp [linkFor], rfl⟩
  rw [GatewayStore.remember]
  by_cases hvalid : isGateway gatewayId = true ∧ IsInverter e
  case neg =>
    have hlink : linkFor gatewayId (some e) = none := by
      refine Option.eq_none_iff_forall_ne_some.mpr fun e' he => hvalid ?_
      obtain ⟨hgateway, hsome, hinverter⟩ := linkFor_eq_some.mp he
      exact ⟨hgateway, Option.some.inj hsome ▸ hinverter⟩
    exact Or.inl ⟨hlink, if_pos (not_and_or.mp hvalid)⟩
  rw [if_neg (not_or.mpr ⟨not_not_intro hvalid.1, not_not_intro hvalid.2⟩)]
  refine Or.inr ⟨e, linkFor_eq_some.mpr ⟨hvalid.1, rfl, hvalid.2⟩, ?_⟩
  by_cases hsame : s.link gatewayId = some e ∧ s.dirty gatewayId = false
  · exact Or.inl ⟨hsame.1, hsame.2, if_pos hsame⟩
  rw [if_neg hsame]
  have hget : ∀ d, (s.client.ptqForRaq.insert gatewayId e).get? d =
      if d = gatewayId then some e else s.link d := by
    intro d
    rw [Dict.get?_insert, GatewayStore.link]
    by_cases hd : d = gatewayId
    · rw [if_pos hd.symm, if_pos hd]
    · rw [if_neg (Ne.symm hd), if_neg hd]
  refine Or.inr ⟨hsame, ?_⟩
  cases writeOk
  · exact ⟨hget, rfl, rfl, rfl⟩
  · exact ⟨hget, rfl, rfl, rfl⟩

/-- The links of a process that starts. -/
theorem link_restart (s : GatewayStore) (configIds gatewayIds : List PyStr) (d : PyStr) :
    (s.restart configIds gatewayIds).link d =
      (if d ∈ gatewayIds then linkFor d (fileSerial (s.gatewayFile d)) else none).or
        (if d ∈ configIds then linkFor d (fileSerial (s.configFile d)) else none) := by
  have hempty : (∅ : Dict PyStr PyStr).get? d = none := rfl
  rw [GatewayStore.link, GatewayStore.restart]
  dsimp only
  rw [get?_restoreLinks, get?_restoreLinks, hempty, Option.or_none]

structure GatewayInv (s : GatewayStore) : Prop where
  inverter : ∀ g e, s.link g = some e → isGateway g = true ∧ IsInverter e
  /-- What is not to be written again was written, or was known at the start. -/
  kept : ∀ g e, s.link g = some e → s.dirty g = false →
    s.gatewayFile g = rejectPlaceholderSerialNumber (some e) ∨ s.restored g = some e
  pending : ∀ g, s.dirty g = true → ∃ e, s.link g = some e

theorem GatewayInv.restart (s : GatewayStore) (configIds gatewayIds : List PyStr) :
    GatewayInv (s.restart configIds gatewayIds) where
  inverter g e hlink := by
    rw [link_restart] at hlink
    have hof : ∀ {b : Prop} [Decidable b] {serial : Option PyStr},
        (if b then linkFor g serial else none) = some e → isGateway g = true ∧ IsInverter e := by
      intro b _ serial h
      split_ifs at h
      exact ⟨(linkFor_eq_some.mp h).1, (linkFor_eq_some.mp h).2.2⟩
    rcases Option.or_eq_some_iff.mp hlink with h | ⟨-, h⟩
    · exact hof h
    · exact hof h
  kept g e hlink _ := Or.inr hlink
  pending g h := by cases h

theorem GatewayInv.step {s : GatewayStore} (h : GatewayInv s) (a : GatewayEvent) :
    GatewayInv (gatewayStep s a) := by
  cases a with
  | writeConfig deviceId serial => exact ⟨h.inverter, h.kept, h.pending⟩
  | restart configIds gatewayIds => exact .restart s configIds gatewayIds
  | report fileId endpoint writeOk =>
      obtain ⟨gatewayId, hname⟩ := fileId
      show GatewayInv (s.remember gatewayId endpoint writeOk)
      rcases remember_cases s gatewayId endpoint writeOk with
        ⟨-, hsame⟩ | ⟨e, he, ⟨-, -, hsame⟩ | ⟨-, htaken⟩⟩
      · rw [hsame]
        exact h
      · rw [hsame]
        exact h
      obtain ⟨hgateway, -, hinverter⟩ := linkFor_eq_some.mp he
      constructor
      · intro g e' hlink
        rw [htaken.link] at hlink
        split_ifs at hlink with hg
        · obtain rfl := Option.some.inj hlink
          exact ⟨hg ▸ hgateway, hinverter⟩
        · exact h.inverter g e' hlink
      · intro g e' hlink hclean
        rw [htaken.dirty] at hclean
        rw [htaken.link] at hlink
        rw [htaken.gatewayFile, htaken.restored]
        by_cases hg : g = gatewayId
        · subst hg
          rw [Function.update_self] at hclean
          rw [if_pos rfl] at hlink
          obtain rfl := Option.some.inj hlink
          cases writeOk
          · cases hclean
          · rw [if_pos rfl, Function.update_self]
            exact Or.inl rfl
        · rw [if_neg hg] at hlink
          rw [Function.update_of_ne hg] at hclean
          have hkept := h.kept g e' hlink hclean
          split_ifs
          · rwa [Function.update_of_ne hg]
          · exact hkept
      · intro g hdirty
        rw [htaken.dirty] at hdirty
        rw [htaken.link]
        by_cases hg : g = gatewayId
        · exact ⟨e, if_pos hg⟩
        · rw [Function.update_of_ne hg] at hdirty
          rw [if_neg hg]
          exact h.pending g hdirty

/-! ### Later states -/

/-- A later event takes a gateway to no other inverter, and a start reads its file. -/
def KeepsLink (g e : PyStr) : GatewayEvent → Prop
  | .report gatewayId endpoint _ =>
      gatewayId.1 = g → ∀ e', linkFor g endpoint = some e' → e' = e
  | .writeConfig _ _ => True
  | .restart _ gatewayIds => g ∈ gatewayIds

/-- A link is known, and in its file. -/
structure Stored (s : GatewayStore) (g e : PyStr) : Prop where
  link : s.link g = some e
  clean : s.dirty g = false
  file : s.gatewayFile g = some e

theorem Stored.step {s : GatewayStore} {g e : PyStr} (h : Stored s g e)
    (hlink : linkFor g (some e) = some e) (hserial : fileSerial (some e) = some e)
    {a : GatewayEvent} (ha : KeepsLink g e a) : Stored (gatewayStep s a) g e := by
  cases a with
  | writeConfig deviceId serial => exact ⟨h.link, h.clean, h.file⟩
  | restart configIds gatewayIds =>
      refine ⟨?_, rfl, h.file⟩
      show (s.restart configIds gatewayIds).link g = some e
      rw [link_restart, if_pos (show g ∈ gatewayIds from ha), h.file, hserial, hlink,
        Option.some_or]
  | report fileId endpoint writeOk =>
      obtain ⟨gatewayId, hname⟩ := fileId
      show Stored (s.remember gatewayId endpoint writeOk) g e
      rcases remember_cases s gatewayId endpoint writeOk with
        ⟨-, hsame⟩ | ⟨e', he', ⟨-, -, hsame⟩ | ⟨hnew, htaken⟩⟩
      · rwa [hsame]
      · rwa [hsame]
      have hg : g ≠ gatewayId := by
        rintro rfl
        obtain rfl := ha rfl e' he'
        exact hnew ⟨h.link, h.clean⟩
      refine ⟨?_, ?_, ?_⟩
      · rw [htaken.link, if_neg hg, h.link]
      · rw [htaken.dirty, Function.update_of_ne hg, h.clean]
      · rw [htaken.gatewayFile]
        split_ifs
        · rw [Function.update_of_ne hg, h.file]
        · exact h.file

theorem Stored.run {s : GatewayStore} {g e : PyStr} (h : Stored s g e)
    (hserial : fileSerial (some e) = some e) (hlink : linkFor g (some e) = some e)
    {as : List GatewayEvent} (has : ∀ a ∈ as, KeepsLink g e a) :
    Stored (run gatewayStep s as) g e := by
  refine run_invariant (I := fun t => Stored t g e) h ?_
  intro t a ha ht
  exact ht.step hlink hserial (has a ha)

/-! ### Runs -/

/-- The first process, with the files that it finds. -/
def gatewayStart (configFile gatewayFile : PyStr → Option PyStr)
    (configIds gatewayIds : List PyStr) : GatewayStore :=
  GatewayStore.restart
    { client := ⟨false, ∅⟩, dirty := fun _ => false, gatewayFile, configFile,
      restored := fun _ => none } configIds gatewayIds

theorem gatewayInv_run (configFile gatewayFile : PyStr → Option PyStr)
    (configIds gatewayIds : List PyStr) (as : List GatewayEvent) :
    GatewayInv (run gatewayStep (gatewayStart configFile gatewayFile configIds gatewayIds) as) :=
  run_invariant (.restart _ configIds gatewayIds) fun _ a _ h => h.step a

/-- A link is stored by a report that is new, or whose last write failed. -/
theorem stored_remember {s : GatewayStore} {gatewayId e : PyStr} {endpoint : Option PyStr}
    (he : linkFor gatewayId endpoint = some e)
    (hnew : s.link gatewayId ≠ some e ∨ s.dirty gatewayId = true)
    (hserial : fileSerial (some e) = some e) :
    Stored (s.remember gatewayId endpoint true) gatewayId e := by
  rcases remember_cases s gatewayId endpoint true with
    ⟨hnone, -⟩ | ⟨e', he', ⟨hsame, hclean, -⟩ | ⟨-, htaken⟩⟩
  · rw [he] at hnone
    cases hnone
  · obtain rfl := Option.some.inj (he.symm.trans he')
    rcases hnew with hne | hdirty
    · exact absurd hsame hne
    · rw [hclean] at hdirty
      cases hdirty
  · obtain rfl := Option.some.inj (he.symm.trans he')
    refine ⟨?_, ?_, ?_⟩
    · rw [htaken.link, if_pos rfl]
    · rw [htaken.dirty, Function.update_self]
      rfl
    · rw [htaken.gatewayFile, if_pos rfl, Function.update_self]
      exact hserial

/-- A failed write is repeated with the next report, and leaves the file. -/
theorem pending_remember {s : GatewayStore} {gatewayId e : PyStr} {endpoint : Option PyStr}
    (he : linkFor gatewayId endpoint = some e)
    (hnew : s.link gatewayId ≠ some e ∨ s.dirty gatewayId = true) :
    (s.remember gatewayId endpoint false).dirty gatewayId = true ∧
      (s.remember gatewayId endpoint false).gatewayFile = s.gatewayFile := by
  rcases remember_cases s gatewayId endpoint false with
    ⟨hnone, -⟩ | ⟨e', he', ⟨hsame, hclean, -⟩ | ⟨-, htaken⟩⟩
  · rw [he] at hnone
    cases hnone
  · obtain rfl := Option.some.inj (he.symm.trans he')
    rcases hnew with hne | hdirty
    · exact absurd hsame hne
    · rw [hclean] at hdirty
      cases hdirty
  · refine ⟨?_, ?_⟩
    · rw [htaken.dirty, Function.update_self]
      rfl
    · rw [htaken.gatewayFile]
      exact if_neg Bool.false_ne_true

/-- A command for a gateway is for the inverter that is known behind it. -/
theorem GatewayInv.commandEndpoint {s : GatewayStore} (h : GatewayInv s) {g : PyStr}
    (hg : isGateway g = true) : commandEndpoint s.client g = s.link g := by
  rw [GroBro.commandEndpoint, if_pos hg, ← GatewayStore.link]
  rcases hlink : s.link g with - | e
  · rfl
  rw [Option.filter_some, if_pos]
  refine decide_eq_true ?_
  rintro rfl
  exact absurd (h.inverter g [] hlink).2 (by decide)

/-- What holds of the links at any time of a run. -/
structure GatewayLinksExact (s : GatewayStore) : Prop where
  inverter : ∀ g e, s.link g = some e → isGateway g = true ∧ IsInverter e
  command : ∀ g, isGateway g = true → commandEndpoint s.client g = s.link g
  reported : ∀ (g : FileId) endpoint writeOk d,
    (gatewayStep s (.report g endpoint writeOk)).link d =
      (if d = g.1 then linkFor g.1 endpoint else none).or (s.link d)
  kept : ∀ g e, s.link g = some e → s.dirty g = false →
    s.gatewayFile g = fileSerial (some e) ∨ s.restored g = some e
  /-- The write of a link that is not yet stored is tried with every report of it. -/
  saved : ∀ (g : FileId) endpoint e, linkFor g.1 endpoint = some e →
    s.link g.1 ≠ some e ∨ s.dirty g.1 = true →
    (fileSerial (some e) = some e →
      Stored (gatewayStep s (.report g endpoint true)) g.1 e) ∧
    (gatewayStep s (.report g endpoint false)).dirty g.1 = true ∧
    (gatewayStep s (.report g endpoint false)).gatewayFile = s.gatewayFile
  survives : ∀ g e as, fileSerial (some e) = some e → Stored s g e →
    (∀ a ∈ as, KeepsLink g e a) → Stored (run gatewayStep s as) g e
  /-- A start knows what is in the files, those of the links before the others. -/
  started : ∀ configIds gatewayIds d, (gatewayStep s (.restart configIds gatewayIds)).link d =
    (if d ∈ gatewayIds then linkFor d (fileSerial (s.gatewayFile d)) else none).or
      (if d ∈ configIds then linkFor d (fileSerial (s.configFile d)) else none)

theorem gateway_links_exact (configFile gatewayFile : PyStr → Option PyStr)
    (configIds gatewayIds : List PyStr) (as : List GatewayEvent) : GatewayLinksExact
      (run gatewayStep (gatewayStart configFile gatewayFile configIds gatewayIds) as) := by
  have h := gatewayInv_run configFile gatewayFile configIds gatewayIds as
  generalize run gatewayStep (gatewayStart configFile gatewayFile configIds gatewayIds) as = s at h
  refine ⟨h.inverter, fun g hg => h.commandEndpoint hg, ?_, h.kept, ?_, ?_, link_restart s⟩
  · intro g endpoint writeOk d
    exact (ptqForRaq_remember s g.1 endpoint writeOk d).trans
      (get?_rememberGateway s.client g.1 endpoint d)
  · intro g endpoint e he hnew
    exact ⟨stored_remember he hnew, pending_remember he hnew⟩
  · intro g e as hserial hstored has
    obtain ⟨hgateway, hinverter⟩ := h.inverter g e hstored.link
    exact hstored.run hserial (linkFor_eq_some.mpr ⟨hgateway, rfl, hinverter⟩) has

end GroBro
