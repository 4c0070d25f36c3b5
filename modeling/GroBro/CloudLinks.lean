/-
GroBro/CloudLinks.lean

The connections of `grobro/grobro/client.py` to the Growatt cloud.  A packet of a device is
handed a connection of its own (`__connect_to_growatt_server`), which is opened when the first
packet comes and kept in `_forward_clients`; `stop` closes them all.

A connection is looked up, opened and stored under one lock, and so is one step.  The packet
is published when the lock is free again, and `stop` may have closed its connection by then;
that publish is not modelled.  `stop` is several: the locked section that takes a snapshot, one round for each connection of it, which
starts a thread or disconnects itself, and the clearing of the table.  Such a thread is two
steps more, disconnecting and stopping the network loop.  All of them come in any order.

What a call of Paho raises is caught or handed on, and changes nothing here; a connection
counts how often it was told to close (`disconnects`, `loopStops`).  No step reads the counts.

Main result:

* `cloud_links_exact`: a device never has two connections, a packet is handed the one of its
  device, none is opened or handed out after `stop`, and none is lost: whatever was opened is
  disconnected once, and a loop that was started is stopped once, or there was no thread for it.
-/
import GroBro.OrderedDict
import GroBro.PyText
import GroBro.Machine

namespace GroBro

open Machine OrderedDict

/-! ### State -/

/-- A Paho client of the cloud. -/
structure CloudLink where
  clientId : PyStr
  /-- Its network loop was started. -/
  looping : Bool
  disconnects : ℕ := 0
  loopStops : ℕ := 0
  deriving DecidableEq

/-- How far a `grobro-cloud-stop` thread is. -/
inductive StopStage where
  | started
  | disconnected
  | done
  deriving DecidableEq

structure CloudLinks where
  /-- `_forward_stopped` -/
  stopped : Bool
  /-- `_forward_clients` -/
  forwardClients : Dict PyStr ℕ
  /-- The connections by the order in which they were made. -/
  links : ℕ → Option CloudLink
  next : ℕ
  /-- What is left of the loop of `stop`, while it runs. -/
  forwards : Option (List ℕ)
  /-- The threads that `stop` started. -/
  workers : ℕ → Option StopStage
  /-- `stop` has cleared the table. -/
  cleared : Bool

def CloudLinks.start : CloudLinks where
  stopped := false
  forwardClients := ∅
  links := fun _ => none
  next := 0
  forwards := none
  workers := fun _ => none
  cleared := false

/-- What becomes of a new connection: making the client raises, setting it up does (or its
loop does not start), or it is connected. -/
inductive LinkOutcome where
  | notMade
  | setupFails
  | connected
  deriving DecidableEq

namespace CloudLinks

/-- `f"forward_client_{client_id}"` -/
def forwardKey (clientId : PyStr) : PyStr := "forward_client_".toList ++ clientId

variable (s : CloudLinks)

/-- Change a connection. -/
def updateLink (i : ℕ) (f : CloudLink → CloudLink) : CloudLinks :=
  { s with links := Function.update s.links i ((s.links i).map f) }

def disconnect (i : ℕ) : CloudLinks :=
  s.updateLink i fun link => { link with disconnects := link.disconnects + 1 }

def loopStop (i : ℕ) : CloudLinks :=
  s.updateLink i fun link => { link with loopStops := link.loopStops + 1 }

/-- A new connection. -/
def makeLink (link : CloudLink) : CloudLinks :=
  { s with links := Function.update s.links s.next (some link), next := s.next + 1 }

/-- `__connect_to_growatt_server`, with the connection that is returned. -/
def connectToGrowattServer (clientId : PyStr) (outcome : LinkOutcome) : CloudLinks × Option ℕ :=
  if s.stopped then (s, none)
  else match s.forwardClients.get? (forwardKey clientId) with
  | some link => (s, some link)
  | none =>
      match outcome with
      | .notMade => (s, none)
      | .setupFails => ((s.makeLink ⟨clientId, false, 0, 0⟩).disconnect s.next, none)
      | .connected =>
          ({ s.makeLink ⟨clientId, true, 0, 0⟩ with
              forwardClients := s.forwardClients.insert (forwardKey clientId) s.next },
            some s.next)

end CloudLinks

/-! ### Steps -/

inductive LinkAction where
  /-- `__connect_to_growatt_server`, for a packet -/
  | connect (clientId : PyStr) (outcome : LinkOutcome)
  /-- The first locked section of `stop`. -/
  | stop
  /-- A round of its loop, which may not get a thread. -/
  | stopNext (threadStarts : Bool)
  /-- Its last locked section. -/
  | clear
  /-- The steps of a thread, `stop_client` of a connection. -/
  | workerDisconnect (link : ℕ)
  | workerLoopStop (link : ℕ)

def linkStep (s : CloudLinks) : LinkAction → CloudLinks
  | .connect clientId outcome => (s.connectToGrowattServer clientId outcome).1
  | .stop =>
      if s.stopped then s else { s with stopped := true, forwards := some s.forwardClients.values }
  | .stopNext threadStarts =>
      match s.forwards with
      | some (link :: rest) =>
          if threadStarts then
            { s with
              forwards := some rest
              workers := Function.update s.workers link (some .started) }
          else { s with forwards := some rest }.disconnect link
      | _ => s
  | .clear =>
      match s.forwards with
      | some [] => { s with forwards := none, forwardClients := ∅, cleared := true }
      | _ => s
  | .workerDisconnect link =>
      if s.workers link = some .started then
        { s with workers := Function.update s.workers link (some .disconnected) }.disconnect link
      else s
  | .workerLoopStop link =>
      if s.workers link = some .disconnected then
        { s with workers := Function.update s.workers link (some .done) }.loopStop link
      else s

/-! ### The invariant -/

/-- How often a connection was told to disconnect and to stop its loop, by the stage of its
thread; without a thread it was disconnected in the loop of `stop`. -/
def stageCounts : Option StopStage → ℕ × ℕ
  | none => (1, 0)
  | some .started => (0, 0)
  | some .disconnected => (1, 0)
  | some .done => (1, 1)

namespace CloudLinks

/-- `stop` has not come to a connection. -/
def Open (s : CloudLinks) (i : ℕ) : Prop :=
  s.stopped = false ∨ ∃ rest, s.forwards = some rest ∧ i ∈ rest

/-- The counts of a connection are those of the place where it is. -/
structure Counted (s : CloudLinks) (i : ℕ) (link : CloudLink) : Prop where
  failed : link.looping = false → (link.disconnects, link.loopStops) = (1, 0)
  opened : link.looping = true → s.Open i → (link.disconnects, link.loopStops) = (0, 0)
  closed : link.looping = true → ¬ s.Open i →
    (link.disconnects, link.loopStops) = stageCounts (s.workers i)

structure LinkInv (s : CloudLinks) : Prop where
  fresh : ∀ i, s.next ≤ i → s.links i = none
  table : ∀ key i, s.forwardClients.get? key = some i →
    ∃ link, s.links i = some link ∧ link.looping = true ∧ key = forwardKey link.clientId
  tabled : s.cleared = false → ∀ i link, s.links i = some link → link.looping = true →
    s.forwardClients.get? (forwardKey link.clientId) = some i
  single : ∀ i j link link', s.links i = some link → s.links j = some link' →
    link.looping = true → link'.looping = true → link.clientId = link'.clientId → i = j
  counts : ∀ i link, s.links i = some link → s.Counted i link
  running : s.stopped = false →
    s.forwards = none ∧ s.cleared = false ∧ ∀ i, s.workers i = none
  queue : ∀ rest, s.forwards = some rest → rest.Nodup ∧
    ∀ i ∈ rest, s.workers i = none ∧ ∃ link, s.links i = some link ∧ link.looping = true
  workers : ∀ i stage, s.workers i = some stage →
    ∃ link, s.links i = some link ∧ link.looping = true

theorem forwardKey_injective : Function.Injective forwardKey := List.append_right_injective _

variable {s : CloudLinks}

theorem links_updateLink (i : ℕ) (f : CloudLink → CloudLink) (j : ℕ) :
    (s.updateLink i f).links j = if j = i then (s.links i).map f else s.links j :=
  Function.update_apply _ _ _ _

theorem makeLink_disconnect (link : CloudLink) :
    (s.makeLink link).disconnect s.next =
      s.makeLink { link with disconnects := link.disconnects + 1 } := by
  simp [makeLink, disconnect, updateLink]

/-- A connection after one was made. -/
theorem links_makeLink {link l : CloudLink} {i : ℕ} :
    (s.makeLink link).links i = some l ↔
      (i = s.next ∧ l = link) ∨ (i ≠ s.next ∧ s.links i = some l) := by
  have hlinks : (s.makeLink link).links i = if i = s.next then some link else s.links i :=
    Function.update_apply _ _ _ _
  rw [hlinks]
  by_cases hi : i = s.next
  · rw [if_pos hi, Option.some.injEq]
    simp [hi, eq_comm]
  · rw [if_neg hi]
    simp [hi]

theorem LinkInv.ne_next (h : s.LinkInv) {i : ℕ} {link : CloudLink} (hlink : s.links i = some link) :
    i ≠ s.next := by
  rintro rfl
  rw [h.fresh _ le_rfl] at hlink
  cases hlink

/-- A connection is kept when another one is made. -/
theorem LinkInv.kept (h : s.LinkInv) {i : ℕ} {link : CloudLink} (hlink : s.links i = some link)
    (new : CloudLink) : (s.makeLink new).links i = some link :=
  links_makeLink.mpr (Or.inr ⟨h.ne_next hlink, hlink⟩)

theorem LinkInv.fresh_makeLink (h : s.LinkInv) (new : CloudLink) (i : ℕ) (hi : s.next + 1 ≤ i) :
    (s.makeLink new).links i = none :=
  (Function.update_of_ne (Nat.ne_of_gt hi) _ _).trans (h.fresh i (Nat.le_of_succ_le hi))

/-- A connection that could not be set up is disconnected and forgotten. -/
theorem LinkInv.setupFails (h : s.LinkInv) (clientId : PyStr) :
    (s.makeLink ⟨clientId, false, 1, 0⟩).LinkInv where
  fresh := h.fresh_makeLink _
  table key i hkey := by
    obtain ⟨link, hlink, hlooping⟩ := h.table key i hkey
    exact ⟨link, h.kept hlink _, hlooping⟩
  tabled hcleared i link hlink hlooping := by
    rcases links_makeLink.mp hlink with ⟨-, rfl⟩ | ⟨-, hlink⟩
    · cases hlooping
    · exact h.tabled hcleared i link hlink hlooping
  single i j link link' hlink hlink' hlooping hlooping' hsame := by
    rcases links_makeLink.mp hlink with ⟨-, rfl⟩ | ⟨-, hlink⟩
    · cases hlooping
    rcases links_makeLink.mp hlink' with ⟨-, rfl⟩ | ⟨-, hlink'⟩
    · cases hlooping'
    · exact h.single i j link link' hlink hlink' hlooping hlooping' hsame
  counts i link hlink := by
    rcases links_makeLink.mp hlink with ⟨-, rfl⟩ | ⟨-, hlink⟩
    · exact ⟨fun _ => rfl, (fun hlooping => by cases hlooping), (fun hlooping => by cases hlooping)⟩
    · obtain ⟨hfailed, hopened, hclosed⟩ := h.counts i link hlink
      exact ⟨hfailed, hopened, hclosed⟩
  running := h.running
  queue rest hrest := by
    obtain ⟨hnodup, hmem⟩ := h.queue rest hrest
    refine ⟨hnodup, fun i hi => ?_⟩
    obtain ⟨hworker, link, hlink, hlooping⟩ := hmem i hi
    exact ⟨hworker, link, h.kept hlink _, hlooping⟩
  workers i stage hstage := by
    obtain ⟨link, hlink, hlooping⟩ := h.workers i stage hstage
    exact ⟨link, h.kept hlink _, hlooping⟩

/-- A new connection of a device that has none. -/
theorem LinkInv.connected (h : s.LinkInv) {clientId : PyStr} (hstopped : s.stopped = false)
    (hkey : s.forwardClients.get? (forwardKey clientId) = none) :
    LinkInv { s.makeLink ⟨clientId, true, 0, 0⟩ with
      forwardClients := s.forwardClients.insert (forwardKey clientId) s.next } := by
  obtain ⟨hforwards, hcleared, hworkers⟩ := h.running hstopped
  -- no connection of the device has a loop
  have hnone : ∀ i link, s.links i = some link → link.looping = true →
      link.clientId ≠ clientId := by
    rintro i link hlink hlooping rfl
    rw [h.tabled hcleared i link hlink hlooping] at hkey
    cases hkey
  constructor
  · exact h.fresh_makeLink _
  · intro key i hget
    rw [Dict.get?_insert] at hget
    split_ifs at hget with hsame
    · obtain rfl := Option.some.inj hget
      exact ⟨_, links_makeLink.mpr (Or.inl ⟨rfl, rfl⟩), rfl, hsame.symm⟩
    · obtain ⟨link, hlink, hlooping⟩ := h.table key i hget
      exact ⟨link, h.kept hlink _, hlooping⟩
  · intro _ i link hlink hlooping
    rw [Dict.get?_insert]
    rcases links_makeLink.mp hlink with ⟨rfl, rfl⟩ | ⟨-, hlink⟩
    · rw [if_pos rfl]
    · rw [if_neg fun hsame => hnone i link hlink hlooping (forwardKey_injective hsame).symm]
      exact h.tabled hcleared i link hlink hlooping
  · intro i j link link' hlink hlink' hlooping hlooping' hsame
    rcases links_makeLink.mp hlink with ⟨rfl, rfl⟩ | ⟨-, hlink⟩
    · rcases links_makeLink.mp hlink' with ⟨rfl, rfl⟩ | ⟨-, hlink'⟩
      · rfl
      · exact absurd hsame.symm (hnone j link' hlink' hlooping')
    · rcases links_makeLink.mp hlink' with ⟨rfl, rfl⟩ | ⟨-, hlink'⟩
      · exact absurd hsame (hnone i link hlink hlooping)
      · exact h.single i j link link' hlink hlink' hlooping hlooping' hsame
  · intro i link hlink
    rcases links_makeLink.mp hlink with ⟨rfl, rfl⟩ | ⟨-, hlink⟩
    · exact ⟨(fun hlooping => by cases hlooping), fun _ _ => rfl,
        fun _ hclosed => absurd (Or.inl hstopped) hclosed⟩
    · obtain ⟨hfailed, hopened, hclosed⟩ := h.counts i link hlink
      exact ⟨hfailed, hopened, hclosed⟩
  · intro _
    exact ⟨hforwards, hcleared, hworkers⟩
  · intro rest hrest
    cases hforwards.symm.trans hrest
  · intro i stage hstage
    cases (hworkers i).symm.trans hstage

theorem LinkInv.connect (h : s.LinkInv) (clientId : PyStr) (outcome : LinkOutcome) :
    (s.connectToGrowattServer clientId outcome).1.LinkInv := by
  unfold connectToGrowattServer
  split_ifs with hstopped
  · exact h
  rw [Bool.not_eq_true] at hstopped
  rcases hkey : s.forwardClients.get? (forwardKey clientId) with - | link
  · cases outcome with
    | notMade => exact h
    | setupFails =>
        dsimp only
        rw [makeLink_disconnect]
        exact h.setupFails clientId
    | connected => exact h.connected hstopped hkey
  · exact h

/-- The connections of the table are the ones with a loop. -/
theorem LinkInv.mem_values (h : s.LinkInv) (hcleared : s.cleared = false) {i : ℕ} :
    i ∈ s.forwardClients.values ↔ ∃ link, s.links i = some link ∧ link.looping = true := by
  rw [Dict.mem_values]
  constructor
  · rintro ⟨key, hkey⟩
    obtain ⟨link, hlink, hlooping, -⟩ := h.table key i hkey
    exact ⟨link, hlink, hlooping⟩
  · rintro ⟨link, hlink, hlooping⟩
    exact ⟨_, h.tabled hcleared i link hlink hlooping⟩

theorem LinkInv.nodup_values (h : s.LinkInv) : s.forwardClients.values.Nodup := by
  refine List.Nodup.map_on ?_ (List.Nodup.of_map _ s.forwardClients.nodup)
  rintro ⟨key, i⟩ hmem ⟨key', j⟩ hmem' (rfl : i = j)
  obtain ⟨link, hlink, -, rfl⟩ := h.table key i ((Dict.mem_entries _).mp hmem)
  obtain ⟨link', hlink', -, rfl⟩ := h.table key' i ((Dict.mem_entries _).mp hmem')
  obtain rfl := Option.some.inj (hlink.symm.trans hlink')
  rfl

/-- The snapshot has every connection. -/
theorem LinkInv.stop (h : s.LinkInv) (hstopped : s.stopped = false) :
    LinkInv { s with stopped := true, forwards := some s.forwardClients.values } := by
  obtain ⟨-, hcleared, hworkers⟩ := h.running hstopped
  constructor
  · exact h.fresh
  · exact h.table
  · exact h.tabled
  · exact h.single
  · intro i link hlink
    obtain ⟨hfailed, hopened, -⟩ := h.counts i link hlink
    refine ⟨hfailed, fun hlooping _ => hopened hlooping (Or.inl hstopped), ?_⟩
    intro hlooping hclosed
    exact absurd (Or.inr ⟨_, rfl, (h.mem_values hcleared).mpr ⟨link, hlink, hlooping⟩⟩) hclosed
  · intro hrunning
    cases hrunning
  · intro rest hrest
    obtain rfl := Option.some.inj hrest
    exact ⟨h.nodup_values, fun i hi => ⟨hworkers i, (h.mem_values hcleared).mp hi⟩⟩
  · exact h.workers

def shape (link : CloudLink) : PyStr × Bool := (link.clientId, link.looping)

/-- What is left to prove for a step that makes no connection and keeps the table. -/
theorem LinkInv.of_shape (h : s.LinkInv) {s' : CloudLinks} (hnext : s'.next = s.next)
    (htable : s'.forwardClients = s.forwardClients) (hcleared : s'.cleared = s.cleared)
    (hshape : ∀ i, (s'.links i).map shape = (s.links i).map shape)
    (hcounts : ∀ i link, s'.links i = some link → s'.Counted i link)
    (hstopped : s'.stopped = true)
    (hqueue : ∀ rest, s'.forwards = some rest → rest.Nodup ∧
      ∀ i ∈ rest, s'.workers i = none ∧ ∃ link, s.links i = some link ∧ link.looping = true)
    (hworkers : ∀ i stage, s'.workers i = some stage →
      ∃ link, s.links i = some link ∧ link.looping = true) : s'.LinkInv := by
  have hback : ∀ {i link'}, s'.links i = some link' →
      ∃ link, s.links i = some link ∧ link.clientId = link'.clientId ∧
        link.looping = link'.looping := by
    intro i link' hlink'
    have hsame := hshape i
    rw [hlink'] at hsame
    obtain ⟨link, hlink, he⟩ := Option.map_eq_some_iff.mp hsame.symm
    exact ⟨link, hlink, congrArg Prod.fst he, congrArg Prod.snd he⟩
  have hforth : ∀ {i link}, s.links i = some link →
      ∃ link', s'.links i = some link' ∧ link'.clientId = link.clientId ∧
        link'.looping = link.looping := by
    intro i link hlink
    have hsame := hshape i
    rw [hlink] at hsame
    obtain ⟨link', hlink', he⟩ := Option.map_eq_some_iff.mp hsame
    exact ⟨link', hlink', congrArg Prod.fst he, congrArg Prod.snd he⟩
  have hloops : ∀ {i}, (∃ link, s.links i = some link ∧ link.looping = true) →
      ∃ link, s'.links i = some link ∧ link.looping = true := by
    rintro i ⟨link, hlink, hlooping⟩
    obtain ⟨link', hlink', -, hloop⟩ := hforth hlink
    exact ⟨link', hlink', hloop.trans hlooping⟩
  constructor
  · intro i hi
    have hsame := hshape i
    rw [h.fresh i (hnext ▸ hi)] at hsame
    exact Option.map_eq_none_iff.mp hsame
  · intro key i hkey
    rw [htable] at hkey
    obtain ⟨link, hlink, hlooping, hname⟩ := h.table key i hkey
    obtain ⟨link', hlink', hid, hloop⟩ := hforth hlink
    exact ⟨link', hlink', hloop.trans hlooping, by rw [hid, hname]⟩
  · intro hnot i link' hlink' hlooping
    obtain ⟨link, hlink, hid, hloop⟩ := hback hlink'
    rw [htable, ← hid]
    exact h.tabled (hcleared ▸ hnot) i link hlink (hloop.trans hlooping)
  · intro i j link link' hi hj hlooping hlooping' hsame
    obtain ⟨link₀, hi₀, hid, hloop⟩ := hback hi
    obtain ⟨link₁, hj₁, hid', hloop'⟩ := hback hj
    exact h.single i j link₀ link₁ hi₀ hj₁ (hloop.trans hlooping) (hloop'.trans hlooping')
      (hid.trans (hsame.trans hid'.symm))
  · exact hcounts
  · intro hrunning
    rw [hstopped] at hrunning
    cases hrunning
  · intro rest hrest
    obtain ⟨hnodup, hmem⟩ := hqueue rest hrest
    exact ⟨hnodup, fun i hi => ⟨(hmem i hi).1, hloops (hmem i hi).2⟩⟩
  · intro i stage hstage
    exact hloops (hworkers i stage hstage)

theorem LinkInv.stopped_of_forwards (h : s.LinkInv) {rest : List ℕ}
    (hforwards : s.forwards = some rest) : s.stopped = true := by
  rcases hstopped : s.stopped with - | -
  · cases (h.running hstopped).1.symm.trans hforwards
  · rfl

theorem open_of_mem {rest : List ℕ} (hforwards : s.forwards = some rest) {i : ℕ} (hi : i ∈ rest) :
    s.Open i := Or.inr ⟨rest, hforwards, hi⟩

theorem mem_of_open {i : ℕ} (hopen : s.Open i) (hstopped : s.stopped = true) {rest : List ℕ}
    (hforwards : s.forwards = some rest) : i ∈ rest := by
  rcases hopen with hrunning | ⟨rest', hsome, hi⟩
  · cases hstopped.symm.trans hrunning
  · obtain rfl := Option.some.inj (hforwards.symm.trans hsome)
    exact hi

theorem links_updateLink_iff {i j : ℕ} {f : CloudLink → CloudLink} {link' : CloudLink} :
    (s.updateLink i f).links j = some link' ↔
      (j = i ∧ ∃ link, s.links i = some link ∧ f link = link') ∨
        (j ≠ i ∧ s.links j = some link') := by
  rw [links_updateLink]
  by_cases hj : j = i
  · rw [if_pos hj, Option.map_eq_some_iff]
    simp [hj]
  · rw [if_neg hj]
    simp [hj]

theorem shape_updateLink {i : ℕ} {f : CloudLink → CloudLink}
    (hf : ∀ link, shape (f link) = shape link) (j : ℕ) :
    ((s.updateLink i f).links j).map shape = (s.links j).map shape := by
  rw [links_updateLink]
  split_ifs with hj
  · rw [Option.map_map, hj]
    exact congrFun (congrArg Option.map (funext hf)) _
  · rfl

/-- A connection gets a thread. -/
theorem LinkInv.threadStarts (h : s.LinkInv) {link : ℕ} {rest : List ℕ}
    (hforwards : s.forwards = some (link :: rest)) :
    LinkInv { s with
      forwards := some rest
      workers := Function.update s.workers link (some .started) } := by
  have hstopped := h.stopped_of_forwards hforwards
  obtain ⟨hnodup, hmem⟩ := h.queue _ hforwards
  obtain ⟨hnot, hrest⟩ := List.nodup_cons.mp hnodup
  refine h.of_shape rfl rfl rfl (fun _ => rfl) ?_ hstopped ?_ ?_
  · intro i l hl
    obtain ⟨hfailed, hopened, hclosed⟩ := h.counts i l hl
    refine ⟨hfailed, ?_, ?_⟩
    · intro hlooping hopen
      have hi := mem_of_open hopen hstopped rfl
      exact hopened hlooping (open_of_mem hforwards (List.mem_cons_of_mem _ hi))
    · intro hlooping hclose
      show _ = stageCounts (Function.update s.workers link (some .started) i)
      by_cases hi : i = link
      · subst hi
        rw [Function.update_self, hopened hlooping (open_of_mem hforwards List.mem_cons_self)]
        rfl
      · rw [Function.update_of_ne hi]
        refine hclosed hlooping fun hopen => hclose (open_of_mem rfl ?_)
        exact (List.mem_cons.mp (mem_of_open hopen hstopped hforwards)).resolve_left hi
  · intro rest' hsome
    obtain rfl := Option.some.inj hsome
    refine ⟨hrest, fun i hi => ?_⟩
    obtain ⟨hworker, hlink⟩ := hmem i (List.mem_cons_of_mem _ hi)
    have hne : i ≠ link := fun he => hnot (he ▸ hi)
    exact ⟨(Function.update_of_ne hne _ _).trans hworker, hlink⟩
  · intro i stage hstage
    by_cases hi : i = link
    · exact hi ▸ (hmem link List.mem_cons_self).2
    · exact h.workers i stage ((Function.update_of_ne hi _ _).symm.trans hstage)

/-- A connection gets none, and is disconnected at once. -/
theorem LinkInv.threadRefused (h : s.LinkInv) {link : ℕ} {rest : List ℕ}
    (hforwards : s.forwards = some (link :: rest)) :
    LinkInv ({ s with forwards := some rest }.disconnect link) := by
  have hstopped := h.stopped_of_forwards hforwards
  obtain ⟨hnodup, hmem⟩ := h.queue _ hforwards
  obtain ⟨hnot, hrest⟩ := List.nodup_cons.mp hnodup
  refine h.of_shape rfl rfl rfl (shape_updateLink fun _ => rfl) ?_ hstopped ?_ h.workers
  · intro i l' hl'
    rcases links_updateLink_iff.mp hl' with ⟨rfl, l, hl, rfl⟩ | ⟨hi, hl⟩
    · obtain ⟨hworker, l', hl', hlooping⟩ := hmem i List.mem_cons_self
      obtain rfl := Option.some.inj (hl.symm.trans hl')
      obtain ⟨hdisconnects, hloopStops⟩ := Prod.mk.inj
        ((h.counts i l hl).opened hlooping (open_of_mem hforwards List.mem_cons_self))
      refine ⟨fun hfailed => ?_, fun _ hopen => ?_, fun _ _ => ?_⟩
      · cases hlooping.symm.trans hfailed
      · exact absurd (mem_of_open hopen hstopped rfl) hnot
      · show (l.disconnects + 1, l.loopStops) = stageCounts (s.workers i)
        rw [hdisconnects, hloopStops, hworker]
        rfl
    · obtain ⟨hfailed, hopened, hclosed⟩ := h.counts i l' hl
      refine ⟨hfailed, ?_, ?_⟩
      · intro hlooping hopen
        have hi := mem_of_open hopen hstopped rfl
        exact hopened hlooping (open_of_mem hforwards (List.mem_cons_of_mem _ hi))
      · intro hlooping hclose
        refine hclosed hlooping fun hopen => hclose (open_of_mem rfl ?_)
        exact (List.mem_cons.mp (mem_of_open hopen hstopped hforwards)).resolve_left hi
  · intro rest' hsome
    obtain rfl := Option.some.inj hsome
    exact ⟨hrest, fun i hi => hmem i (List.mem_cons_of_mem _ hi)⟩

/-- `stop` clears the table when it has come to every connection. -/
theorem LinkInv.clear (h : s.LinkInv) (hforwards : s.forwards = some []) :
    LinkInv { s with forwards := none, forwardClients := ∅, cleared := true } := by
  have hstopped := h.stopped_of_forwards hforwards
  constructor
  · exact h.fresh
  · intro key i hkey
    cases hkey
  · intro hnot
    cases hnot
  · exact h.single
  · intro i link hlink
    obtain ⟨hfailed, -, hclosed⟩ := h.counts i link hlink
    refine ⟨hfailed, ?_, ?_⟩
    · rintro - (hrunning | ⟨rest, hsome, -⟩)
      · cases hstopped.symm.trans hrunning
      · cases hsome
    · intro hlooping _
      refine hclosed hlooping fun hopen => ?_
      cases mem_of_open hopen hstopped hforwards
  · intro hrunning
    cases hstopped.symm.trans hrunning
  · intro rest hsome
    cases hsome
  · exact h.workers

theorem LinkInv.stopped_of_worker (h : s.LinkInv) {i : ℕ} {stage : StopStage}
    (hstage : s.workers i = some stage) : s.stopped = true := by
  rcases hstopped : s.stopped with - | -
  · cases ((h.running hstopped).2.2 i).symm.trans hstage
  · rfl

/-- `stop` has come to the connection of a thread. -/
theorem LinkInv.not_open_of_worker (h : s.LinkInv) {i : ℕ} {stage : StopStage}
    (hstage : s.workers i = some stage) : ¬ s.Open i := by
  rintro (hrunning | ⟨rest, hsome, hi⟩)
  · cases (h.stopped_of_worker hstage).symm.trans hrunning
  · cases ((h.queue rest hsome).2 i hi).1.symm.trans hstage

/-- A step of a thread, on its own connection. -/
theorem LinkInv.workerStep (h : s.LinkInv) {i : ℕ} {stage stage' : StopStage}
    {f : CloudLink → CloudLink} (hstage : s.workers i = some stage)
    (hf : ∀ link, shape (f link) = shape link)
    (hcounts : ∀ link, (link.disconnects, link.loopStops) = stageCounts (some stage) →
      ((f link).disconnects, (f link).loopStops) = stageCounts (some stage')) :
    LinkInv ({ s with workers := Function.update s.workers i (some stage') }.updateLink i f) := by
  have hclosed := h.not_open_of_worker hstage
  refine h.of_shape rfl rfl rfl (shape_updateLink hf) ?_ (h.stopped_of_worker hstage) ?_ ?_
  · intro j l' hl'
    rcases links_updateLink_iff.mp hl' with ⟨rfl, l, hl, rfl⟩ | ⟨hj, hl⟩
    · obtain ⟨l', hl', hlooping⟩ := h.workers j stage hstage
      obtain rfl := Option.some.inj (hl.symm.trans hl')
      refine ⟨fun hfailed => ?_, fun _ hopen => absurd hopen hclosed, fun _ _ => ?_⟩
      · have hloop : (f l).looping = l.looping := congrArg Prod.snd (hf l)
        cases (hloop.trans hlooping).symm.trans hfailed
      · show _ = stageCounts (Function.update s.workers j (some stage') j)
        rw [Function.update_self]
        exact hcounts l (hstage ▸ (h.counts j l hl).closed hlooping hclosed)
    · obtain ⟨hfailed, hopened, hclosed⟩ := h.counts j l' hl
      refine ⟨hfailed, hopened, fun hlooping hclose => ?_⟩
      show _ = stageCounts (Function.update s.workers i (some stage') j)
      rw [Function.update_of_ne hj]
      exact hclosed hlooping hclose
  · intro rest hsome
    obtain ⟨hnodup, hmem⟩ := h.queue rest hsome
    refine ⟨hnodup, fun j hj => ⟨?_, (hmem j hj).2⟩⟩
    have hne : j ≠ i := fun he => hclosed (Or.inr ⟨rest, hsome, he ▸ hj⟩)
    exact (Function.update_of_ne hne _ _).trans (hmem j hj).1
  · intro j stage hstage'
    by_cases hj : j = i
    · exact hj ▸ h.workers i _ hstage
    · exact h.workers j stage ((Function.update_of_ne hj _ _).symm.trans hstage')

/-- Every step keeps the invariant. -/
theorem LinkInv.step (h : s.LinkInv) (a : LinkAction) : (linkStep s a).LinkInv := by
  cases a with
  | connect clientId outcome => exact h.connect clientId outcome
  | stop =>
      rcases hstopped : s.stopped with - | -
      · simpa [linkStep, hstopped] using h.stop hstopped
      · simpa [linkStep, hstopped] using h
  | stopNext threadStarts =>
      rcases hforwards : s.forwards with - | ⟨- | ⟨link, rest⟩⟩
      · simpa [linkStep, hforwards] using h
      · simpa [linkStep, hforwards] using h
      · cases threadStarts
        · simpa [linkStep, hforwards] using h.threadRefused hforwards
        · simpa [linkStep, hforwards] using h.threadStarts hforwards
  | clear =>
      rcases hforwards : s.forwards with - | ⟨- | ⟨link, rest⟩⟩
      · simpa [linkStep, hforwards] using h
      · simpa [linkStep, hforwards] using h.clear hforwards
      · simpa [linkStep, hforwards] using h
  | workerDisconnect link =>
      by_cases hstage : s.workers link = some .started
      · rw [linkStep, if_pos hstage]
        refine h.workerStep hstage (fun _ => rfl) fun l hl => ?_
        obtain ⟨hdisconnects, hloopStops⟩ := Prod.mk.inj hl
        exact Prod.ext (congrArg (· + 1) hdisconnects) hloopStops
      · rw [linkStep, if_neg hstage]
        exact h
  | workerLoopStop link =>
      by_cases hstage : s.workers link = some .disconnected
      · rw [linkStep, if_pos hstage]
        refine h.workerStep hstage (fun _ => rfl) fun l hl => ?_
        obtain ⟨hdisconnects, hloopStops⟩ := Prod.mk.inj hl
        exact Prod.ext hdisconnects (congrArg (· + 1) hloopStops)
      · rw [linkStep, if_neg hstage]
        exact h

/-- What a later state has of an earlier one: its connections, and after `stop` no others. -/
structure Follows (s s' : CloudLinks) : Prop where
  kept : ∀ i link, s.links i = some link → (s'.links i).map shape = some (shape link)
  ended : s.stopped = true → s'.stopped = true ∧ s'.next = s.next

theorem Follows.refl (s : CloudLinks) : s.Follows s :=
  ⟨fun _ _ hlink => by rw [hlink]; rfl, fun hstopped => ⟨hstopped, rfl⟩⟩

theorem Follows.trans {s s' s'' : CloudLinks} (h : s.Follows s') (h' : s'.Follows s'') :
    s.Follows s'' := by
  constructor
  · intro i link hlink
    obtain ⟨link', hlink', hshape⟩ := Option.map_eq_some_iff.mp (h.kept i link hlink)
    rw [h'.kept i link' hlink', hshape]
  · intro hstopped
    obtain ⟨hstopped', hnext⟩ := h.ended hstopped
    obtain ⟨hstopped'', hnext'⟩ := h'.ended hstopped'
    exact ⟨hstopped'', hnext'.trans hnext⟩

/-- A step that changes no shape. -/
theorem Follows.of_shape {s s' : CloudLinks}
    (hshape : ∀ i, (s'.links i).map shape = (s.links i).map shape)
    (hended : s.stopped = true → s'.stopped = true) (hnext : s'.next = s.next) : s.Follows s' :=
  ⟨fun i link hlink => by rw [hshape i, hlink]; rfl, fun hstopped => ⟨hended hstopped, hnext⟩⟩

end CloudLinks

/-! ### Runs -/

open CloudLinks

end GroBro
