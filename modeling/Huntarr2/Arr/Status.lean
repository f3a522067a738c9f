import Huntarr2.Arr.Connection
import Huntarr2.Foundation.ForkJoin

/-!
# The status of all instances

`Status` asks all instances at once, and each answer goes into the place of its instance. The list is
in the order of the instances whatever the order of the answers is, and an instance that does not answer
or has no client is in it as not connected.
-/

namespace Huntarr2.Arr

open Clock Instances Machine ForkJoin

structure InstanceStatus where
  id : UUID
  name : Text
  appType : String
  connected : Bool
  version : Text
  deriving DecidableEq

/-- What the loop writes before it asks an instance. -/
def listed (inst : FullInstance) : InstanceStatus := ⟨inst.id, inst.name, inst.appType, false, []⟩

/-- What an answer changes. -/
def withAnswer (answer : Except String SystemStatus) (status : InstanceStatus) : InstanceStatus :=
  match answer with
  | .error _ => status
  | .ok sys => { status with connected := true, version := sys.version }

/-- The loop of `Status` and the requests that it starts, where the servers give these answers. -/
def statusJob (answers : FullInstance → Except String SystemStatus) :
    Job FullInstance InstanceStatus where
  write := listed
  task inst :=
    match newApp inst.appType with
    | .error _ => none
    | .ok _ => some (withAnswer (answers inst))

/-- The status of one instance. -/
def statusOf (answers : FullInstance → Except String SystemStatus) (inst : FullInstance) :
    InstanceStatus :=
  match newApp inst.appType, answers inst with
  | .ok _, .ok sys => ⟨inst.id, inst.name, inst.appType, true, sys.version⟩
  | _, _ => ⟨inst.id, inst.name, inst.appType, false, []⟩

theorem result_statusJob (answers : FullInstance → Except String SystemStatus) (inst : FullInstance) :
    (statusJob answers).result inst = statusOf answers inst := by
  unfold Job.result statusJob statusOf
  dsimp only
  cases newApp inst.appType with
  | error err => rfl
  | ok cfg => cases answers inst <;> rfl

/-- `Status` returns the status of every instance in their order, after at most two steps for each; from
every point it can go on to where it returns. -/
theorem status_of_run {answers : FullInstance → Except String SystemStatus} {insts : List FullInstance}
    {empty : InstanceStatus} {actions : List Action}
    (hrun : Along (step (statusJob answers) insts) (Enabled insts) (start insts empty) actions) :
    (Done insts (actions.foldl (step (statusJob answers) insts) (start insts empty)) →
      (actions.foldl (step (statusJob answers) insts) (start insts empty)).slots =
        insts.map (statusOf answers)) ∧
      actions.length ≤ 2 * insts.length ∧
      ∃ later, Along (step (statusJob answers) insts) (Enabled insts) (start insts empty)
          (actions ++ later) ∧
        Done insts ((actions ++ later).foldl (step (statusJob answers) insts) (start insts empty)) := by
  refine ⟨fun hdone ↦ ?_, length_run_le hrun, exists_done hrun⟩
  rw [(filled_of_run hrun).slots_eq hdone]
  exact List.map_congr_left fun inst _ ↦ result_statusJob answers inst

theorem sampleInstance_wall_lt : 63902908800 < maxWall := by decide

def sampleInstance (id : UUID) (name : Text) (appType : String) : FullInstance :=
  let created := ⟨63902908800, 0, 0, sampleInstance_wall_lt, zero_nanos_lt, zero_offset_le⟩
  ⟨id, name, appType, "http://localhost", "key", 15000, created, created⟩

/-- Sonarr answers, Radarr does not. -/
def sampleAnswers (inst : FullInstance) : Except String SystemStatus :=
  if inst.appType = "sonarr" then .ok ⟨"Sonarr", "4.0.0"⟩ else .error "connection refused"

def sampleInstances : List FullInstance :=
  [sampleInstance 1 "Series" "sonarr", sampleInstance 2 "Films" "radarr"]

/-- Radarr's request fails before the one to Sonarr is answered. -/
theorem status_of_run_sample :
    Along (step (statusJob sampleAnswers) sampleInstances) (Enabled sampleInstances)
        (start sampleInstances ⟨0, [], "", false, []⟩) [.advance, .advance, .finish 1, .finish 0] ∧
      ([.advance, .advance, .finish 1, .finish 0].foldl (step (statusJob sampleAnswers) sampleInstances)
          (start sampleInstances ⟨0, [], "", false, []⟩)).slots =
        [⟨1, "Series", "sonarr", true, "4.0.0"⟩, ⟨2, "Films", "radarr", false, []⟩] := by
  have hrun : Along (step (statusJob sampleAnswers) sampleInstances) (Enabled sampleInstances)
      (start sampleInstances ⟨0, [], "", false, []⟩) [.advance, .advance, .finish 1, .finish 0] := by
    decide
  have hslots := (status_of_run hrun).1 (by decide)
  exact ⟨hrun, hslots.trans (by decide)⟩

end Huntarr2.Arr
