/-
GroBro/PostRequest.lean

`do_POST` of `grobro/ha/battery_ingress.py`: a client of the page sends a JSON object, and
`save_addon_options` or `save_manual_assignments` is called with what is in it.  The body is
read behind the header lines, from the reader that they came through, against a deadline of
its own.

`json.loads` is any function of the bytes, `none` where it raises.  What is modelled of the
answers is their status and text; a connection is closed behind any of them.

A call is made for a complete body and nothing else, and whatever is read of the connection
is the front of it.  Assignments that are accepted are in the file, and nothing else changes it
(`post_exact`).
-/
import GroBro.HeaderReader
import GroBro.BatteryPage
import GroBro.JsonText
import GroBro.FloatArithmetic

namespace GroBro

open ByteCodec BufferedStream OrderedDict

/-! ### Values -/

/-- What is asked of the values in a request. -/
class PostValue (V : Type*) extends JsonObject V where
  asDict : V → Option (Dict PyStr V)
  /-- A value that equals a text is that text. -/
  isText : V → PyStr → Bool
  hashable : V → Bool
  str_of_isText : ∀ v s, isText v s = true → str v = s

instance [JsonRepr] : PostValue Json where
  text := .str
  str_text _ := rfl
  asDict
    | .obj pairs => some (.ofList pairs)
    | _ => none
  isText
    | .str s, text => s = text
    | _, _ => false
  hashable
    | .arr _ | .obj _ => false
    | _ => true
  str_of_isText v text h := by
    cases v with
    | str s => exact of_decide_eq_true h
    | _ => cases h

/-- What reading a body raises: `TimeoutError`, `ValueError`, or something else. -/
inductive ReadError where
  | timeout
  | value
  | other
  deriving DecidableEq

structure PostRequest where
  /-- `client_address[0]` -/
  client : PyStr
  /-- `urlsplit(self.path).path` -/
  path : PyStr
  contentLength : Option PyStr

/-- An answer: `send_error`, or an error or a success as JSON. -/
inductive PostReply where
  | sendError (status : ℕ)
  | error (status : ℕ) (message : String)
  | ok (restart : Bool)
  deriving DecidableEq

/-- Why no call is made. -/
inductive PostStop where
  | replied (reply : PostReply)
  | raised (e : ReadError)

/-- What is called. -/
inductive PostCall (V : Type*) where
  /-- `save_addon_options` -/
  | options (options : Dict PyStr V)
  /-- `save_manual_assignments` -/
  | assignments (request : AssignmentRequest V)

/-- `_ALLOWED_CLIENTS` -/
def allowedClients : List PyStr := ["172.30.32.2".toList, "127.0.0.1".toList, "::1".toList]

/-! ### The body -/

/-- `time.monotonic()`, one call after the other. -/
structure MonotonicClock where
  floats : FloatArithmetic
  time : ℕ → ℚ
  isFloat_time : ∀ n, floats.IsFloat (time n)

/-- `time.monotonic() + 30` -/
def MonotonicClock.deadline (clock : MonotonicClock) (now : ℕ) : ℚ :=
  clock.floats.round (clock.time now + 30)

theorem MonotonicClock.isFloat_deadline (clock : MonotonicClock) (now : ℕ) :
    clock.floats.IsFloat (clock.deadline now) := clock.floats.isFloat_round _

/-- `deadline - time.monotonic()` -/
def MonotonicClock.budget (clock : MonotonicClock) (deadline : ℚ) (now : ℕ) : ℚ :=
  clock.floats.round (deadline - clock.time now)

/-- The `while` loop of `_read_json_body`. -/
def bodyLoop (clock : MonotonicClock) (deadline : ℚ) (remaining : ℕ) (chunks : Bytes)
    (s : HeaderReader ReadError) : Except ReadError Bytes × HeaderReader ReadError :=
  if _hremaining : remaining = 0 then (.ok chunks, s)
  else
    let budget := clock.budget deadline s.now
    if budget ≤ 0 then (.error .timeout, { s with now := s.now + 1 })
    else
      match s.stream.read1 remaining with
      | (.error e, stream) =>
          (.error e, { s with stream, timeout := some budget, now := s.now + 1 })
      | (.ok chunk, stream) =>
          let s := { s with stream, timeout := some budget, now := s.now + 1 }
          if _hchunk : chunk = [] then (.error .value, s)
          else bodyLoop clock deadline (remaining - chunk.length) (chunks ++ chunk) s
termination_by remaining
decreasing_by
  have := List.length_pos_of_ne_nil _hchunk
  omega

section Post

variable {V : Type*} [PostValue V] [PyUnicode]

/-- `Content-Length`, if it is one of a body that is read. -/
def PostRequest.length (request : PostRequest) : Except PostReply ℕ :=
  match intOfText (request.contentLength.getD ['0']) with
  | none => .error (.error 400 "Ungültige Anfrage")
  | some contentLength =>
      if contentLength ≤ 0 ∨ 65536 < contentLength then
        .error (.error 400 "Ungültige Anfragegröße")
      else .ok contentLength.toNat

/-- What a body is, once it was read. -/
def decodeBody (loads : Bytes → Option V) (body : Bytes) : Except PostReply (Dict PyStr V) :=
  match loads body with
  | none => .error (.error 400 "Ungültiges JSON")
  | some payload =>
      match PostValue.asDict payload with
      | none => .error (.error 400 "Ungültige Anfrage")
      | some payload => .ok payload

/-- The answer to an exception of the loop. -/
def bodyError : ReadError → PostStop
  | .timeout => .replied (.error 408 "Ungültige Anfrage")
  | .value => .replied (.error 400 "Ungültiges JSON")
  | .other => .raised .other

/-- `_read_json_body`; `finally` puts back the connection's timeout. -/
def readJsonBody (loads : Bytes → Option V) (clock : MonotonicClock) (request : PostRequest)
    (s : HeaderReader ReadError) : Except PostStop (Dict PyStr V) × HeaderReader ReadError :=
  match request.length with
  | .error reply => (.error (.replied reply), s)
  | .ok contentLength =>
      let previous := s.timeout
      let deadline := clock.deadline s.now
      let (body, s) :=
        bodyLoop clock deadline contentLength [] { s with timeout := some 30, now := s.now + 1 }
      let s := { s with timeout := previous }
      match body with
      | .error e => (.error (bodyError e), s)
      | .ok body => ((decodeBody loads body).mapError .replied, s)

/-! ### The call -/

/-- The checks on the three slots; what is not hashable raises `TypeError`. -/
def slotsPlausible (assignments : Dict PyStr V) : Bool :=
  trackedSlots.all fun slot =>
    (assignments.get? [slot.digit]).elim true fun value =>
      PostValue.hashable value && (PostValue.isText value autoAssignment ||
        PostValue.isText value emptyAssignment || isPlausibleSerial (PyObject.str value))

def invalidAssignment : PostReply := .error 400 "Ungültige Batterie-Zuordnung"

/-- The arguments of `save_manual_assignments`. -/
def assignmentCall (payload : Dict PyStr V) : Except PostReply (PostCall V) :=
  match payload.get? "device_id".toList, payload.get? "assignments".toList with
  | some deviceId, some assignments =>
      let deviceId := strip (PyObject.str deviceId)
      match PostValue.asDict assignments with
      | none => .error invalidAssignment
      | some assignments =>
          if deviceId ≠ [] ∧ slotsPlausible assignments then
            .ok (.assignments ⟨deviceId, assignments⟩)
          else .error invalidAssignment
  | _, _ => .error invalidAssignment

/-- What a path calls with a payload. -/
def postCall (path : PyStr) (payload : Dict PyStr V) : Except PostReply (PostCall V) :=
  let path := path.rdropWhile (· = '/')
  if "/api/config".toList.isSuffixOf path then
    match (payload.get? "options".toList).bind PostValue.asDict with
    | none => .error (.error 400 "Ungültige Optionen")
    | some options => .ok (.options options)
  else if "/api/assignments".toList.isSuffixOf path then assignmentCall payload
  else .error (.sendError 404)

/-- `do_POST`, up to the call that it makes. -/
def doPost (loads : Bytes → Option V) (clock : MonotonicClock) (request : PostRequest)
    (s : HeaderReader ReadError) : Except PostStop (PostCall V) × HeaderReader ReadError :=
  if request.client ∉ allowedClients then (.error (.replied (.sendError 403)), s)
  else
    match readJsonBody loads clock request s with
    | (.error stop, s) => (.error stop, s)
    | (.ok payload, s) => ((postCall request.path payload).mapError .replied, s)

/-- How a call ends: the text of a `SupervisorConfigError`, and whether the file of the
assignments can be read and written. -/
structure CallIo where
  optionError : Option String
  saveOk : Bool

/-- The call, with the answer to it. -/
def finishCall (file : ManualFile V) (call : PostCall V) (io : CallIo) :
    PostReply × ManualFile V :=
  match call with
  | .options _ => (io.optionError.elim (.ok true) (.error 400), file)
  | .assignments request =>
      match request.check with
      | .error _ => (invalidAssignment, file)
      | .ok _ =>
          if io.saveOk then (.ok false, applyRequest file request)
          else (.error 500 "Ungültige Batterie-Zuordnung", file)

/-- `do_POST` -/
def servePost (loads : Bytes → Option V) (clock : MonotonicClock) (request : PostRequest)
    (s : HeaderReader ReadError) (file : ManualFile V) (io : CallIo) :
    Except ReadError PostReply × ManualFile V × HeaderReader ReadError :=
  match doPost loads clock request s with
  | (.error (.replied reply), s) => (.ok reply, file, s)
  | (.error (.raised e), s) => (.error e, file, s)
  | (.ok call, s) => (.ok (finishCall file call io).1, (finishCall file call io).2, s)

end Post

/-! ### Reading the body -/

/-- **The loop takes the front of the stream**, all of what it is to take or less. -/
theorem bodyLoop_spec (clock : MonotonicClock) (deadline : ℚ) (remaining : ℕ) (chunks : Bytes)
    (s : HeaderReader ReadError) :
    ∃ taken, taken ++ (bodyLoop clock deadline remaining chunks s).2.stream.content =
        s.stream.content ∧
      (((bodyLoop clock deadline remaining chunks s).1 = .ok (chunks ++ taken) ∧
          taken.length = remaining) ∨
        ∃ e, (bodyLoop clock deadline remaining chunks s).1 = .error e ∧
          taken.length < remaining) := by
  induction remaining using Nat.strong_induction_on generalizing chunks s with
  | _ remaining ih =>
  rw [bodyLoop]
  by_cases hremaining : remaining = 0
  · rw [dif_pos hremaining]
    exact ⟨[], rfl, Or.inl ⟨by rw [List.append_nil], hremaining.symm⟩⟩
  have hpos : 0 < remaining := Nat.pos_of_ne_zero hremaining
  rw [dif_neg hremaining]
  dsimp only
  by_cases hexpired : clock.budget deadline s.now ≤ 0
  · rw [if_pos hexpired]
    exact ⟨[], rfl, Or.inr ⟨_, rfl, hpos⟩⟩
  rw [if_neg hexpired]
  rcases hread : s.stream.read1 remaining with ⟨e | chunk, stream⟩
  · exact ⟨[], read1_error hread, Or.inr ⟨_, rfl, hpos⟩⟩
  obtain ⟨hcontent, hlength⟩ := read1_content hread
  dsimp only
  by_cases hchunk : chunk = []
  · rw [dif_pos hchunk]
    subst hchunk
    exact ⟨[], hcontent, Or.inr ⟨_, rfl, hpos⟩⟩
  rw [dif_neg hchunk]
  have hchunkPos := List.length_pos_of_ne_nil hchunk
  obtain ⟨taken, htaken, hresult⟩ := ih (remaining - chunk.length) (by omega) (chunks ++ chunk)
    { s with stream, timeout := some (clock.budget deadline s.now), now := s.now + 1 }
  refine ⟨chunk ++ taken, by rw [List.append_assoc, htaken, hcontent], ?_⟩
  rw [List.length_append, ← List.append_assoc]
  rcases hresult with ⟨hok, hlen⟩ | ⟨e, herror, hlen⟩
  · exact Or.inl ⟨hok, by omega⟩
  · exact Or.inr ⟨e, herror, by omega⟩

/-- In time, and on a connection that does not fail, the loop only stops early at the end. -/
theorem bodyLoop_stops {clock : MonotonicClock} {deadline : ℚ}
    (hdeadline : clock.floats.IsFloat deadline) (hclock : ∀ n, clock.time n < deadline)
    (remaining : ℕ) (chunks : Bytes) {s : HeaderReader ReadError} (hr : s.stream.Reliable)
    {e : ReadError} (h : (bodyLoop clock deadline remaining chunks s).1 = .error e) :
    e = .value ∧ (bodyLoop clock deadline remaining chunks s).2.stream.content = [] := by
  induction remaining using Nat.strong_induction_on generalizing chunks s with
  | _ remaining ih =>
  rw [bodyLoop] at h ⊢
  by_cases hremaining : remaining = 0
  · rw [dif_pos hremaining] at h
    cases h
  rw [dif_neg hremaining] at h ⊢
  have hbudget : ¬ clock.budget deadline s.now ≤ 0 := not_le.mpr
    ((clock.floats.round_sub_pos_iff hdeadline (clock.isFloat_time s.now)).mpr (hclock s.now))
  dsimp only at h ⊢
  rw [if_neg hbudget] at h ⊢
  obtain ⟨chunk, stream, hread, hr'⟩ := hr.read1 remaining
  rw [hread] at h ⊢
  dsimp only at h ⊢
  by_cases hchunk : chunk = []
  · rw [dif_pos hchunk] at h ⊢
    subst hchunk
    have hend := read1_nil (Nat.pos_of_ne_zero hremaining) hread
    refine ⟨(Except.error.inj h).symm, ?_⟩
    rw [← List.nil_append stream.content, (read1_content hread).1, hend]
  rw [dif_neg hchunk] at h ⊢
  have hchunkPos := List.length_pos_of_ne_nil hchunk
  exact ih (remaining - chunk.length) (by omega) (chunks ++ chunk) hr' h

/-! ### What a save accepts -/

/-- `value in {AUTO_ASSIGNMENT, EMPTY_ASSIGNMENT}` -/
def IsChoice (text : PyStr) : Prop := text = autoAssignment ∨ text = emptyAssignment

section Accepted

variable [PyUnicode]

/-- Where every text is a choice or plausible, the loop only rejects a serial that was there. -/
theorem cleanAssignments_accepts {assignments : Dict PyStr PyStr} {slots : List Slot}
    (hslots : slots.Nodup)
    (h : ∀ slot ∈ slots, IsChoice (assignedText assignments slot) ∨
      isPlausibleSerial (assignedText assignments slot) = true)
    (serials : List PyStr) (clean : ManualAssignments) :
    (∃ manual, cleanAssignments assignments serials clean slots = some manual) ↔
      ∀ slot ∈ slots, ¬ IsChoice (assignedText assignments slot) →
        assignedText assignments slot ∉ serials ∧
          ∀ slot' ∈ slots, assignedText assignments slot' = assignedText assignments slot →
            slot' = slot := by
  induction slots generalizing serials clean with
  | nil =>
      refine ⟨fun _ slot hslot => ?_, fun _ => ⟨clean, rfl⟩⟩
      cases hslot
  | cons first slots ih =>
      obtain ⟨hfirst, hnodup⟩ := List.nodup_cons.mp hslots
      have hrest := ih hnodup fun slot hslot => h slot (List.mem_cons_of_mem _ hslot)
      rw [cleanAssignments, ← assignedText]
      by_cases hchoice : IsChoice (assignedText assignments first)
      · rw [if_pos (show _ ∨ _ from hchoice), hrest]
        constructor
        · intro hall slot hslot hserial
          rcases List.mem_cons.mp hslot with rfl | hslot
          · exact absurd hchoice hserial
          obtain ⟨hnew, honce⟩ := hall slot hslot hserial
          refine ⟨hnew, fun slot' hslot' hsame => ?_⟩
          rcases List.mem_cons.mp hslot' with rfl | hslot'
          · exact absurd (hsame ▸ hchoice) hserial
          · exact honce slot' hslot' hsame
        · intro hall slot hslot hserial
          obtain ⟨hnew, honce⟩ := hall slot (List.mem_cons_of_mem _ hslot) hserial
          exact ⟨hnew, fun slot' hslot' => honce slot' (List.mem_cons_of_mem _ hslot')⟩
      rw [if_neg (show ¬ (_ ∨ _) from hchoice)]
      have hserialOk := (h first List.mem_cons_self).resolve_left hchoice
      by_cases hin : assignedText assignments first ∈ serials
      · rw [if_pos (Or.inr hin)]
        constructor
        · rintro ⟨manual, hnone⟩
          cases hnone
        · intro hall
          exact absurd hin (hall first List.mem_cons_self hchoice).1
      rw [if_neg (by simp [hserialOk, hin]), hrest]
      constructor
      · intro hall slot hslot hserial
        rcases List.mem_cons.mp hslot with rfl | hslot
        · refine ⟨hin, fun slot' hslot' hsame => ?_⟩
          rcases List.mem_cons.mp hslot' with rfl | hslot'
          · rfl
          · -- another slot with the serial is rejected
            have hnew := (hall slot' hslot' (hsame ▸ hserial)).1
            exact absurd (hsame ▸ List.mem_cons_self) hnew
        · obtain ⟨hnew, honce⟩ := hall slot hslot hserial
          refine ⟨fun hold => hnew (List.mem_cons_of_mem _ hold), fun slot' hslot' hsame => ?_⟩
          rcases List.mem_cons.mp hslot' with rfl | hslot'
          · exact absurd (hsame ▸ List.mem_cons_self) hnew
          · exact honce slot' hslot' hsame
      · intro hall slot hslot hserial
        obtain ⟨hnew, honce⟩ := hall slot (List.mem_cons_of_mem _ hslot) hserial
        refine ⟨fun hmem => ?_, fun slot' hslot' => honce slot' (List.mem_cons_of_mem _ hslot')⟩
        rcases List.mem_cons.mp hmem with hsame | hold
        · exact hfirst (honce first List.mem_cons_self hsame.symm ▸ hslot)
        · exact hnew hold

theorem strip_of_isPlausibleSerial {s : PyStr} (h : isPlausibleSerial s = true) : strip s = s := by
  have hclean := cleanSerialText_of_plausible h
  rw [← hclean.2, cleanSerialText, strip_strip]

variable {V : Type*} [PostValue V]

/-- What passed the checks on the slots. -/
theorem assignedText_of_slotsPlausible {assignments : Dict PyStr V}
    (h : slotsPlausible assignments = true) (slot : Slot) :
    IsChoice (assignedText (assignments.map PyObject.str) slot) ∨
      isPlausibleSerial (assignedText (assignments.map PyObject.str) slot) = true := by
  have hslot := List.all_eq_true.mp h slot (mem_trackedSlots slot)
  rw [assignedText, Dict.get?_map]
  rcases hvalue : assignments.get? [slot.digit] with - | value
  · exact Or.inl (Or.inl rfl)
  rw [hvalue, Option.elim_some, Bool.and_eq_true, Bool.or_eq_true, Bool.or_eq_true] at hslot
  rw [Option.map_some, Option.getD_some]
  obtain ⟨-, (hauto | hempty) | hserialOk⟩ := hslot
  · rw [PostValue.str_of_isText _ _ hauto]
    exact Or.inl (Or.inl rfl)
  · rw [PostValue.str_of_isText _ _ hempty]
    exact Or.inl (Or.inr rfl)
  · rw [strip_of_isPlausibleSerial hserialOk]
    exact Or.inr hserialOk

theorem check_isOk_iff {deviceId : PyStr} (hdevice : strip deviceId = deviceId)
    (hne : deviceId ≠ []) (assignments : Dict PyStr V) :
    (∃ checked, AssignmentRequest.check ⟨deviceId, assignments⟩ = .ok checked) ↔
      ∃ clean, loadManualAssignments (assignments.map PyObject.str) = some clean := by
  unfold AssignmentRequest.check
  dsimp only
  rw [hdevice, if_neg hne]
  rcases loadManualAssignments (assignments.map PyObject.str) with - | manual <;> simp

/-- No serial is given to two slots. -/
def NoSerialTwice (assignments : Dict PyStr V) : Prop :=
  ∀ slot slot', let texts := assignedText (assignments.map PyObject.str)
    ¬ IsChoice (texts slot) → texts slot' = texts slot → slot' = slot

/-- **What the page's checks let through is saved**, unless a serial is given twice. -/
theorem check_assignmentCall {payload : Dict PyStr V} {request : AssignmentRequest V}
    (h : assignmentCall payload = .ok (.assignments request)) :
    (∃ checked, request.check = .ok checked) ↔
      NoSerialTwice request.assignments := by
  unfold assignmentCall at h
  split at h
  case h_2 => cases h
  case h_1 deviceId assignments _ _ =>
    dsimp only at h
    split at h
    · cases h
    next assignments hdict =>
      split_ifs at h with hchecked
      obtain rfl := PostCall.assignments.inj (Except.ok.inj h)
      obtain ⟨hdevice, hserialOk⟩ := hchecked
      have hnodup : trackedSlots.Nodup := by decide
      have haccepts := cleanAssignments_accepts hnodup
        (fun slot _ => assignedText_of_slotsPlausible hserialOk slot) [] noAssignments
      rw [check_isOk_iff (strip_strip _) hdevice]
      refine haccepts.trans ⟨fun hall slot slot' hserial hsame => ?_, fun hall slot _ hserial => ?_⟩
      · exact (hall slot (mem_trackedSlots slot) hserial).2 slot' (mem_trackedSlots slot') hsame
      · exact ⟨List.not_mem_nil, fun slot' _ hsame => hall slot slot' hserial hsame⟩

end Accepted

/-! ### Requests -/

theorem mapError_eq_ok {ε ε' α : Type*} {f : ε → ε'} {x : Except ε α} {a : α} :
    x.mapError f = .ok a ↔ x = .ok a := by
  cases x <;> simp [Except.mapError]

section Requests

variable {V : Type*} [PostValue V] [PyUnicode]

/-- What a request comes to, by what was taken of the stream behind its header lines. -/
inductive PostTaken (loads : Bytes → Option V) (request : PostRequest) (taken : Bytes) :
    Except PostStop (PostCall V) → Prop
  | refused (hclient : request.client ∉ allowedClients) (htaken : taken = []) :
      PostTaken loads request taken (.error (.replied (.sendError 403)))
  | badLength (reply : PostReply) (hclient : request.client ∈ allowedClients)
      (hlength : request.length = .error reply) (htaken : taken = []) :
      PostTaken loads request taken (.error (.replied reply))
  | stopped (e : ReadError) (n : ℕ) (hclient : request.client ∈ allowedClients)
      (hlength : request.length = .ok n) (htaken : taken.length < n) :
      PostTaken loads request taken (.error (bodyError e))
  | complete (hclient : request.client ∈ allowedClients)
      (hlength : request.length = .ok taken.length) :
      PostTaken loads request taken
        ((decodeBody loads taken >>= postCall request.path).mapError .replied)

theorem PostTaken.length_le {loads : Bytes → Option V} {request : PostRequest} {taken : Bytes}
    {result : Except PostStop (PostCall V)} (h : PostTaken loads request taken result) {n : ℕ}
    (hn : request.length = .ok n) : taken.length ≤ n := by
  cases h with
  | refused _ hnil => rw [hnil]; exact Nat.zero_le n
  | badLength reply _ hlength hnil => rw [hnil]; exact Nat.zero_le n
  | stopped e m _ hlength hless =>
      obtain rfl := Except.ok.inj (hlength.symm.trans hn)
      exact Nat.le_of_lt hless
  | complete _ hlength => exact Nat.le_of_eq (Except.ok.inj (hlength.symm.trans hn))

/-- Only a complete body leads to a call. -/
theorem PostTaken.call {loads : Bytes → Option V} {request : PostRequest} {taken : Bytes}
    {result : Except PostStop (PostCall V)} (h : PostTaken loads request taken result)
    {call : PostCall V} (hcall : result = .ok call) :
    request.client ∈ allowedClients ∧ request.length = .ok taken.length ∧
      (decodeBody loads taken >>= postCall request.path) = .ok call := by
  cases h with
  | refused => cases hcall
  | badLength => cases hcall
  | stopped => cases hcall
  | complete hclient hlength => exact ⟨hclient, hlength, mapError_eq_ok.mp hcall⟩

theorem doPost_taken (loads : Bytes → Option V) (clock : MonotonicClock) (request : PostRequest)
    (s : HeaderReader ReadError) :
    (doPost loads clock request s).2.timeout = s.timeout ∧
      ∃ taken, taken ++ (doPost loads clock request s).2.stream.content = s.stream.content ∧
        PostTaken loads request taken (doPost loads clock request s).1 := by
  unfold doPost
  by_cases hclient : request.client ∈ allowedClients
  case neg =>
    rw [if_pos hclient]
    exact ⟨rfl, [], rfl, .refused hclient rfl⟩
  rw [if_neg (not_not_intro hclient)]
  unfold readJsonBody
  rcases hlength : request.length with reply | n
  · exact ⟨rfl, [], rfl, .badLength reply hclient hlength rfl⟩
  dsimp only
  obtain ⟨taken, htaken, ⟨hok, rfl⟩ | ⟨e, herror, hless⟩⟩ :=
    bodyLoop_spec clock (clock.deadline s.now) n [] { s with timeout := some 30, now := s.now + 1 }
  · rw [hok, List.nil_append]
    dsimp only
    have hcomplete : PostTaken loads request taken _ := .complete hclient hlength
    rcases hbody : decodeBody loads taken with reply | payload
    · rw [hbody] at hcomplete
      exact ⟨rfl, taken, htaken, hcomplete⟩
    · rw [hbody] at hcomplete
      exact ⟨rfl, taken, htaken, hcomplete⟩
  · rw [herror]
    exact ⟨rfl, taken, htaken, .stopped e n hclient hlength hless⟩

/-- In time, and on a connection that does not fail, a body is read as long as it is there. -/
theorem doPost_inTime {loads : Bytes → Option V} {clock : MonotonicClock} {request : PostRequest}
    {s : HeaderReader ReadError} {n : ℕ} (hclient : request.client ∈ allowedClients)
    (hlength : request.length = .ok n) (hclock : ∀ k, clock.time k < clock.deadline s.now)
    (hr : s.stream.Reliable) :
    (doPost loads clock request s).1 =
      if n ≤ s.stream.content.length then
        (decodeBody loads (s.stream.content.take n) >>= postCall request.path).mapError .replied
      else .error (bodyError .value) := by
  unfold doPost
  rw [if_neg (not_not_intro hclient)]
  unfold readJsonBody
  rw [hlength]
  dsimp only
  obtain ⟨taken, htaken, ⟨hok, hlen⟩ | ⟨e, herror, hless⟩⟩ :=
    bodyLoop_spec clock (clock.deadline s.now) n [] { s with timeout := some 30, now := s.now + 1 }
  · -- what was taken is the front of the content
    have hfront : s.stream.content.take n = taken := by
      rw [← hlen, ← show _ = s.stream.content from htaken, List.take_left]
    have hle : n ≤ s.stream.content.length := by
      rw [← hlen, ← show _ = s.stream.content from htaken, List.length_append]
      exact Nat.le_add_right _ _
    rw [hok, if_pos hle, hfront, List.nil_append]
    dsimp only
    rcases decodeBody loads taken with reply | payload <;> rfl
  · obtain ⟨rfl, hend⟩ := bodyLoop_stops (clock.isFloat_deadline _) hclock n []
      (s := { s with timeout := some 30, now := s.now + 1 }) hr herror
    rw [hend, List.append_nil] at htaken
    have hlt : ¬ n ≤ s.stream.content.length := by
      rw [← show taken = s.stream.content from htaken]
      exact Nat.not_le.mpr hless
    rw [herror, if_neg hlt]

/-- What a request does, with the bytes behind its header lines. -/
structure PostExact (loads : Bytes → Option V) (clock : MonotonicClock) (request : PostRequest)
    (s : HeaderReader ReadError) (file : ManualFile V) (io : CallIo) : Prop where
  timeout : (servePost loads clock request s file io).2.2.timeout = s.timeout
  /-- What is read is the front of the stream, and no more than the length, -/
  front : ∃ taken, taken ++ (servePost loads clock request s file io).2.2.stream.content =
    s.stream.content ∧ ∀ n, request.length = .ok n → taken.length ≤ n
  /-- which is what comes behind the header lines. -/
  behind : ∀ limits s₀ lines,
    Completes (HeaderReader.readline .timeout clock.time) limits s₀ lines s →
    lines.flatten ++ s.stream.content = s₀.stream.content ∧ s.timeout = s₀.timeout
  /-- A call is made for a complete body of an allowed client. -/
  called : ∀ call, (doPost loads clock request s).1 = .ok call →
    request.client ∈ allowedClients ∧ ∃ n, request.length = .ok n ∧ n ≤ s.stream.content.length ∧
      (decodeBody loads (s.stream.content.take n) >>= postCall request.path) = .ok call ∧
      (doPost loads clock request s).2.stream.content = s.stream.content.drop n
  /-- The other way round, that is all it needs. -/
  answered : ∀ n, request.client ∈ allowedClients → request.length = .ok n →
    (∀ k, clock.time k < clock.deadline s.now) → s.stream.Reliable →
    (doPost loads clock request s).1 =
      if n ≤ s.stream.content.length then
        (decodeBody loads (s.stream.content.take n) >>= postCall request.path).mapError .replied
      else .error (.replied (.error 400 "Ungültiges JSON"))
  /-- Assignments are accepted if the file can be written, and no serial is given twice; -/
  accepted : ∀ assignments, (doPost loads clock request s).1 = .ok (.assignments assignments) →
    ((servePost loads clock request s file io).1 = .ok (.ok false) ↔
      io.saveOk = true ∧ NoSerialTwice assignments.assignments)
  /-- then they are in the file, -/
  saved : ∀ assignments, (doPost loads clock request s).1 = .ok (.assignments assignments) →
    (servePost loads clock request s file io).1 = .ok (.ok false) →
    ∃ deviceId clean, assignments.check = .ok (deviceId, clean) ∧
      (servePost loads clock request s file io).2.1 = savedFile file deviceId clean ∧
      SavesEntry file assignments deviceId clean
  /-- and nothing else changes it. -/
  unchanged : (∀ assignments, (doPost loads clock request s).1 = .ok (.assignments assignments) →
      (servePost loads clock request s file io).1 ≠ .ok (.ok false)) →
    (servePost loads clock request s file io).2.1 = file

/-- Behind the call nothing is read. -/
theorem servePost_reader (loads : Bytes → Option V) (clock : MonotonicClock) (request : PostRequest)
    (s : HeaderReader ReadError) (file : ManualFile V) (io : CallIo) :
    (servePost loads clock request s file io).2.2 = (doPost loads clock request s).2 := by
  unfold servePost
  rcases doPost loads clock request s with ⟨(reply | e) | call, s'⟩ <;> rfl

/-- A call for assignments that is answered so has saved them. -/
theorem finishCall_saved {file : ManualFile V} {assignments : AssignmentRequest V} {io : CallIo}
    (h : (finishCall file (.assignments assignments) io).1 = .ok false) :
    ∃ deviceId clean, assignments.check = .ok (deviceId, clean) ∧
      (finishCall file (.assignments assignments) io).2 = savedFile file deviceId clean := by
  unfold finishCall at h ⊢
  dsimp only at h ⊢
  rcases hcheck : assignments.check with error | ⟨deviceId, clean⟩
  · rw [hcheck] at h
    cases h
  rw [hcheck] at h
  dsimp only at h ⊢
  refine ⟨deviceId, clean, rfl, ?_⟩
  split_ifs at h ⊢
  rw [applyRequest, hcheck]

/-- Any other call leaves the file. -/
theorem finishCall_unchanged {file : ManualFile V} {call : PostCall V} {io : CallIo}
    (h : ∀ assignments, call = .assignments assignments →
      (finishCall file call io).1 ≠ .ok false) : (finishCall file call io).2 = file := by
  cases call with
  | options options => rfl
  | assignments assignments =>
      have hnot := h assignments rfl
      unfold finishCall at hnot ⊢
      dsimp only at hnot ⊢
      rcases hcheck : assignments.check with error | checked
      · rfl
      rw [hcheck] at hnot
      dsimp only at hnot ⊢
      split_ifs at hnot ⊢ with hsave
      · exact absurd rfl hnot
      · rfl

/-- A payload with assignments. -/
theorem assignmentCall_of_doPost {loads : Bytes → Option V} {clock : MonotonicClock}
    {request : PostRequest} {s : HeaderReader ReadError} {assignments : AssignmentRequest V}
    (h : (doPost loads clock request s).1 = .ok (.assignments assignments)) :
    ∃ payload : Dict PyStr V, assignmentCall payload = .ok (.assignments assignments) := by
  obtain ⟨-, taken, -, hpost⟩ := doPost_taken loads clock request s
  obtain ⟨-, -, hbody⟩ := hpost.call h
  rcases hdecode : decodeBody loads taken with reply | payload
  · rw [hdecode] at hbody
    cases hbody
  rw [hdecode] at hbody
  have hcall : postCall request.path payload = .ok (.assignments assignments) := hbody
  refine ⟨payload, ?_⟩
  unfold postCall at hcall
  dsimp only at hcall
  split_ifs at hcall
  · split at hcall
    · cases hcall
    · cases hcall
  · exact hcall

theorem servePost_accepted (loads : Bytes → Option V) (clock : MonotonicClock)
    (request : PostRequest) (s : HeaderReader ReadError) (file : ManualFile V) (io : CallIo)
    {assignments : AssignmentRequest V}
    (h : (doPost loads clock request s).1 = .ok (.assignments assignments)) :
    (servePost loads clock request s file io).1 = .ok (.ok false) ↔
      io.saveOk = true ∧ NoSerialTwice assignments.assignments := by
  obtain ⟨payload, hpayload⟩ := assignmentCall_of_doPost h
  rw [← check_assignmentCall hpayload]
  unfold servePost
  rcases hpost : doPost loads clock request s with ⟨result, s'⟩
  obtain rfl : result = .ok (.assignments assignments) := by
    rw [hpost] at h
    exact h
  dsimp only [finishCall]
  rcases assignments.check with error | checked
  · simp [invalidAssignment]
  · rcases io.saveOk with - | - <;> simp

theorem servePost_saved {loads : Bytes → Option V} {clock : MonotonicClock} {request : PostRequest}
    {s : HeaderReader ReadError} {file : ManualFile V} {io : CallIo}
    {assignments : AssignmentRequest V}
    (h : (doPost loads clock request s).1 = .ok (.assignments assignments))
    (hok : (servePost loads clock request s file io).1 = .ok (.ok false)) :
    ∃ deviceId clean, assignments.check = .ok (deviceId, clean) ∧
      (servePost loads clock request s file io).2.1 = savedFile file deviceId clean := by
  unfold servePost at hok ⊢
  rcases hpost : doPost loads clock request s with ⟨result, s'⟩
  obtain rfl : result = .ok (.assignments assignments) := by
    rw [hpost] at h
    exact h
  rw [hpost] at hok
  exact finishCall_saved (Except.ok.inj hok)

theorem servePost_unchanged {loads : Bytes → Option V} {clock : MonotonicClock}
    {request : PostRequest} {s : HeaderReader ReadError} {file : ManualFile V} {io : CallIo}
    (h : ∀ assignments, (doPost loads clock request s).1 = .ok (.assignments assignments) →
      (servePost loads clock request s file io).1 ≠ .ok (.ok false)) :
    (servePost loads clock request s file io).2.1 = file := by
  unfold servePost at h ⊢
  rcases hpost : doPost loads clock request s with ⟨(reply | e) | call, s'⟩
  · rfl
  · rfl
  · rw [hpost] at h
    refine finishCall_unchanged fun assignments hcall hok => ?_
    exact h assignments (congrArg Except.ok hcall) (congrArg Except.ok hok)

theorem post_exact (loads : Bytes → Option V) (clock : MonotonicClock) (request : PostRequest)
    (s : HeaderReader ReadError) (file : ManualFile V) (io : CallIo) :
    PostExact loads clock request s file io := by
  obtain ⟨htimeout, taken, htaken, hpost⟩ := doPost_taken loads clock request s
  have hreader := servePost_reader loads clock request s file io
  constructor
  · rw [hreader, htimeout]
  · exact ⟨taken, by rw [hreader, htaken], fun n hn => hpost.length_le hn⟩
  · intro limits s₀ lines hheader
    obtain ⟨hplain, hsame⟩ := hheader.bufferedReadline
    exact ⟨bufferedReadline_content hplain, hsame⟩
  · intro call hcall
    obtain ⟨hclient, hlength, hbody⟩ := hpost.call hcall
    have hfront : s.stream.content.take taken.length = taken := by
      rw [← htaken, List.take_left]
    refine ⟨hclient, taken.length, hlength, ?_, ?_, ?_⟩
    · rw [← htaken, List.length_append]
      exact Nat.le_add_right _ _
    · rw [hfront]
      exact hbody
    · rw [← htaken, List.drop_left]
  · intro n hclient hlength hclock hr
    exact doPost_inTime hclient hlength hclock hr
  · intro assignments h
    exact servePost_accepted loads clock request s file io h
  · intro assignments h hok
    obtain ⟨deviceId, clean, hcheck, hfile⟩ := servePost_saved h hok
    exact ⟨deviceId, clean, hcheck, hfile, savesEntry hcheck file⟩
  · exact servePost_unchanged

end Requests

/-- The body of a request that chooses a battery for slot 2. -/
def choiceBody : Bytes :=
  JsonText.bytes "\x7b\"device_id\":\"A\",\"assignments\":\x7b\"2\":\"ABCDEFGH12\"\x7d\x7d"

/-- What it is as JSON. -/
def choicePayload : Json :=
  .obj [("device_id".toList, .str ['A']),
    ("assignments".toList, .obj [(['2'], .str "ABCDEFGH12".toList)])]

/-- A clock that stands still. -/
def stoppedClock : MonotonicClock where
  floats := .grid 20
  time _ := 0
  isFloat_time _ := ⟨0, by norm_num⟩

/-- It comes in two segments, and is saved. -/
theorem post_exact_choice :
    letI := PyUnicode.asciiOnly
    letI : JsonRepr := ⟨fun _ => []⟩
    let loads : Bytes → Option Json := fun body =>
      if body = choiceBody then some choicePayload else none
    let request : PostRequest := ⟨"127.0.0.1".toList, "/api/assignments".toList,
      some "50".toList⟩
    let s : HeaderReader ReadError :=
      ⟨⟨choiceBody.take 9, [.ok ⟨choiceBody.drop 9, by decide⟩]⟩, true, none, 0, 0⟩
    let served := servePost loads stoppedClock request s .absent ⟨none, true⟩
    served.1 = .ok (.ok false) ∧
      (loadManualPositions served.2.1).get? ['A'] = some oneAssigned := by
  intro loads request s served
  let _ : PyUnicode := PyUnicode.asciiOnly
  let _ : JsonRepr := ⟨fun _ => []⟩
  have hexact := post_exact loads stoppedClock request s .absent ⟨none, true⟩
  let assignments : AssignmentRequest Json :=
    ⟨['A'], .ofList [(['2'], .str "ABCDEFGH12".toList)]⟩
  have htime : stoppedClock.time 0 < stoppedClock.deadline 0 := by
    have hpos := stoppedClock.floats.round_sub_pos 30 0 ⟨30 * 2 ^ 20, by norm_num⟩
      (stoppedClock.isFloat_time 0) (by norm_num)
    rwa [sub_zero, ← zero_add (30 : ℚ)] at hpos
  have hcall : (doPost loads stoppedClock request s).1 = .ok (.assignments assignments) := by
    rw [hexact.answered 50 (by decide) rfl (fun _ => htime) ?_]
    · rfl
    · rintro x hx
      exact ⟨_, List.mem_singleton.mp hx⟩
  have hassigned : loadManualAssignments (assignments.assignments.map PyObject.str) =
      some oneAssigned :=
    congrArg some (funext fun slot => by cases slot <;> rfl)
  have hcheck : assignments.check = .ok (['A'], oneAssigned) := by
    rw [AssignmentRequest.check, if_neg (by decide), hassigned]
    rfl
  have honce : NoSerialTwice assignments.assignments := by
    intro slot slot' texts hserial hsame
    cases slot with
    | two =>
        cases slot' with
        | two => rfl
        | three => exact absurd hsame (by decide)
        | four => exact absurd hsame (by decide)
    | three => exact absurd (Or.inl rfl) hserial
    | four => exact absurd (Or.inl rfl) hserial
  have hok : served.1 = .ok (.ok false) :=
    (hexact.accepted assignments hcall).mpr ⟨rfl, honce⟩
  refine ⟨hok, ?_⟩
  obtain ⟨deviceId, clean, hcheck', hfile, hentry⟩ := hexact.saved assignments hcall hok
  obtain ⟨rfl, rfl⟩ := Prod.mk.inj (Except.ok.inj (hcheck.symm.trans hcheck'))
  rw [show served.2.1 = _ from hfile, hentry.own]
  exact if_neg (by decide)

end GroBro
