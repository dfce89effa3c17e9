import Casskop.Controller.Pass
import Casskop.Validation.ScaleDown
import Casskop.Validation.Topology

/-!
# Edits that are put back

`CheckNonAllowedChanges` compares the spec with the last-applied one.  Refused
settings are restored one by one, and a refused topology edit or scale down restores
the old topology.  The tests run in sequence and every refusal returns at once.
-/

namespace Casskop

/-! ## Settings -/

inductive CapacityChange where
  | noChange
  | syntacticChange
  | upsize
  | downsize
  deriving DecidableEq, Repr

def analyzeDataCapacityChange (platform : Platform) (oldCapacity newCapacity : String) :
    CapacityChange :=
  let oldParsed := platform.parseQuantity oldCapacity
  let newParsed := platform.parseQuantity newCapacity
  if oldCapacity = newCapacity then .noChange
  else if newParsed.value = oldParsed.value then .syntacticChange
  else if oldParsed.value < newParsed.value then .upsize
  else .downsize

/-- The spec while the settings are checked. -/
structure SettingsCheck where
  spec : CassandraClusterSpec
  needUpdate : Bool
  /-- The old topology has no DC at the position to restore from. -/
  fault : Bool := false

/-- Restores a global setting, and the setting of the DC at the position. -/
def SettingsCheck.restore (check : SettingsCheck) (oldSpec : CassandraClusterSpec) (dc : Nat)
    (restoreSpec : CassandraClusterSpec → CassandraClusterSpec)
    (restoreDC : DC → DC → DC) : SettingsCheck :=
  let spec := restoreSpec check.spec
  match oldSpec.topology.dc[dc]? with
  | none => { check with spec := spec, fault := true }
  | some oldDC =>
    { spec := { spec with topology := { dc := spec.topology.dc.modify dc (restoreDC oldDC) } }
      needUpdate := true }

def restoreDataCapacity (oldSpec : CassandraClusterSpec) (dc : Nat)
    (check : SettingsCheck) : SettingsCheck :=
  check.restore oldSpec dc (fun spec => { spec with dataCapacity := oldSpec.dataCapacity })
    fun oldDC storeDC => { storeDC with dataCapacity := oldDC.dataCapacity }

def restoreDataStorageClass (oldSpec : CassandraClusterSpec) (dc : Nat)
    (check : SettingsCheck) : SettingsCheck :=
  check.restore oldSpec dc
    (fun spec => { spec with dataStorageClass := oldSpec.dataStorageClass })
    fun oldDC storeDC => { storeDC with dataStorageClass := oldDC.dataStorageClass }

def checkDataCapacity (platform : Platform) (oldSpec : CassandraClusterSpec) (dc : Nat)
    (dcName : String) (check : SettingsCheck) : SettingsCheck :=
  match analyzeDataCapacityChange platform (oldSpec.getDataCapacityFromDCName dcName)
      (check.spec.getDataCapacityFromDCName dcName) with
  | .downsize => restoreDataCapacity oldSpec dc check
  | _ => check

def checkDataStorageClass (oldSpec : CassandraClusterSpec) (dc : Nat) (dcName : String)
    (check : SettingsCheck) : SettingsCheck :=
  if check.spec.getDataStorageClassFromDCName dcName ≠
      oldSpec.getDataStorageClassFromDCName dcName then
    restoreDataStorageClass oldSpec dc check
  else check

def checkDCSettings (platform : Platform) (oldSpec : CassandraClusterSpec)
    (check : SettingsCheck) (dc : Nat) : SettingsCheck :=
  if check.fault then check
  else
    let dcName := check.spec.getDCName dc
    let checked := checkDataCapacity platform oldSpec dc dcName check
    if checked.fault then checked else checkDataStorageClass oldSpec dc dcName checked

/-- Global scale down to 0 is forbidden. -/
def checkNodesPerRacks (oldSpec : CassandraClusterSpec) (check : SettingsCheck) :
    SettingsCheck :=
  if check.spec.nodesPerRacks = 0 then
    { check with
      spec := { check.spec with nodesPerRacks := oldSpec.nodesPerRacks }
      needUpdate := true }
  else check

def checkSettings (platform : Platform) (needUpdate : Bool)
    (spec oldSpec : CassandraClusterSpec) : SettingsCheck :=
  (List.range spec.getDCSize).foldl (checkDCSettings platform oldSpec)
    (checkNodesPerRacks oldSpec { spec := spec, needUpdate := needUpdate })

/-! ## Resources -/

def flagUpdateResources (now : Nat) (rack : CassandraRackStatus) : CassandraRackStatus :=
  { rack with
    cassandraLastAction :=
      { name := .updateResources, status := .toDo, startTime := some now, endTime := none } }

/-- Flags every rack; `true` is the nil dereference of a rack that has no status. -/
def flagRacks (now : Nat) : List String → GoMap CassandraRackStatus →
    GoMap CassandraRackStatus × Bool
  | [], racks => (racks, false)
  | dcRackName :: rest, racks =>
    match racks.lookup dcRackName with
    | none => (racks, true)
    | some rack => flagRacks now rest (racks.insert dcRackName (flagUpdateResources now rack))

/-! ## The whole check -/

structure ChangeAnswers where
  now : Nat
  /-- Order in which the racks of a status are visited. -/
  order : (racks : GoMap CassandraRackStatus) → MapOrder racks
  deleteStatefulSet : String → Except ApiError Unit
  scaleDown : ScaleDownAnswers

structure ChangeCheck where
  spec : CassandraClusterSpec
  status : CassandraClusterStatus
  needUpdate : Bool
  effects : List Effect := []
  /-- The check returned `true`. -/
  stop : Bool := false
  fault : Bool := false

/-- The part after the topology, up to the resources. -/
def checkScaleDownAndResources (spec oldSpec : CassandraClusterSpec)
    (status : CassandraClusterStatus) (answers : ChangeAnswers) : ChangeCheck :=
  let scaleDown := checkNonAllowedScaleDown spec oldSpec answers.scaleDown
  let checked := { spec with topology := scaleDown.topology }
  if scaleDown.refused then
    { spec := checked
      status := { status with lastClusterAction := .correctCRDConfig }
      needUpdate := true
      stop := true }
  else if spec.resources = oldSpec.resources then
    { spec := checked, status := status, needUpdate := false }
  else
    let flagged := flagRacks answers.now
      (spec.rackPositions.map fun position =>
        (spec.completeRackName position.1 position.2).dcRackName)
      status.cassandraRackStatus
    { spec := checked
      status := { status with cassandraRackStatus := flagged.1 }
      needUpdate := false
      fault := flagged.2 }

/-- The part after the settings. -/
def checkTopologyAndScaleDown (cc : CassandraCluster) (oldSpec : CassandraClusterSpec)
    (status : CassandraClusterStatus) (answers : ChangeAnswers) : ChangeCheck :=
  let verdict := checkTopologyChanges cc status oldSpec
    (answers.order cc.status.cassandraRackStatus)
  let deletions := verdict.deletion.statefulSets.map fun dcRackName =>
    Effect.deleteStatefulSet dcRackName
      (Except.succeeded (answers.deleteStatefulSet dcRackName))
  if verdict.deletion.fault then
    { spec := cc.spec, status := verdict.status, needUpdate := false, effects := deletions
      fault := true }
  else if verdict.changed then
    { spec :=
        if verdict.action = .correctCRDConfig then
          { cc.spec with topology := oldSpec.topology }
        else cc.spec
      status := { verdict.status with lastClusterAction := verdict.action }
      needUpdate := true
      effects := deletions
      stop := true }
  else checkScaleDownAndResources cc.spec oldSpec verdict.status answers

def checkNonAllowedChanges (platform : Platform) (needUpdate : Bool) (cc : CassandraCluster)
    (status : CassandraClusterStatus) (answers : ChangeAnswers) : ChangeCheck :=
  let unchecked : ChangeCheck :=
    { spec := cc.spec, status := status, needUpdate := needUpdate }
  match cc.annotation with
  | .absent => unchecked
  | .undecodable => unchecked
  | .config old =>
    if cc.computeLastAppliedConfiguration = old then unchecked
    else
      let settings := checkSettings platform needUpdate cc.spec old.spec
      if settings.fault then
        { spec := settings.spec, status := status, needUpdate := settings.needUpdate
          fault := true }
      else if settings.needUpdate then
        { spec := settings.spec
          status := { status with lastClusterAction := .correctCRDConfig }
          needUpdate := true
          stop := true }
      else
        checkTopologyAndScaleDown { cc with spec := settings.spec } old.spec status answers

end Casskop
