import Casskop.Controller.StatefulSets

/-!
# Storage upsize

The steps of `storageupsize.Reconcile`: snapshot of the StatefulSet, orphan
deletion, recreation with the new capacity, resize of the claims, and the wait
for volumes and pods.  A step passes, breaks the reconcile loop, fails or faults.
-/

namespace Casskop

inductive StepResult where
  | pass
  | breakLoop
  | error
  | fault
  deriving DecidableEq, Repr

structure UpsizeAnswers where
  delete : Except ApiError Unit
  create : Except ApiError Unit
  claims : Except ApiError (List PersistentVolumeClaim)
  updateClaim : String → Except ApiError Unit
  pods : Except ApiError (List Pod)

/-- The pass, its rack and what the last step answered. -/
structure UpsizeStep where
  rack : CassandraRackStatus
  effects : List Effect := []
  result : StepResult

/-- `prepareStatefulSetSnapshot`: server-managed metadata and status dropped. -/
def prepareStatefulSetSnapshot (living : StatefulSet) : StatefulSet :=
  { living with resourceVersion := 0, status := {} }

def makeOldStatefulSetSnapshot (living : Option StatefulSet)
    (rack : CassandraRackStatus) : UpsizeStep :=
  match rack.statefulSetSnapshotBeforeStorageResize with
  | some _ => { rack := rack, result := .pass }
  | none =>
    match living with
    | none => { rack := rack, result := .error }
    | some sts =>
      { rack :=
          { rack with
            statefulSetSnapshotBeforeStorageResize :=
              some (prepareStatefulSetSnapshot sts) }
        result := .breakLoop }

/-- `doesStatefulSetHaveNewCapacity` reads the capacity of the cluster, not the
one of the DC. -/
def doesStatefulSetHaveNewCapacity (platform : Platform) (spec : CassandraClusterSpec)
    (living : StatefulSet) : Bool :=
  (platform.parseQuantity spec.dataCapacity).equal
    (dataCapacity living.spec.volumeClaimTemplates)

def removeStatefulSetOrphan (platform : Platform) (spec : CassandraClusterSpec)
    (dcRackName : String) (living : Option StatefulSet) (rack : CassandraRackStatus)
    (answers : UpsizeAnswers) : UpsizeStep :=
  match living with
  | none => { rack := rack, result := .pass }
  | some sts =>
    if doesStatefulSetHaveNewCapacity platform spec sts then
      { rack := rack, result := .pass }
    else
      { rack := rack
        effects := [.orphanStatefulSet dcRackName (Except.succeeded answers.delete)]
        result := if Except.succeeded answers.delete then .breakLoop else .error }

inductive Capacity where
  | updated (sts : StatefulSet)
  | noDataClaim
  | fault

/-- `setNewDataCapacity`; writing into nil requests panics. -/
def setNewDataCapacity (sts : StatefulSet) (quantity : Quantity) : Capacity :=
  match sts.spec.volumeClaimTemplates.findIdx?
      (fun template => template.name == dataPVCName) with
  | none => .noDataClaim
  | some index =>
    if (sts.spec.volumeClaimTemplates[index]?).any
        (fun template => template.requests.isNone) then .fault
    else
      .updated
        { sts with
          spec :=
            { sts.spec with
              volumeClaimTemplates := sts.spec.volumeClaimTemplates.modify index
                (setStorageRequest quantity) } }

def recreateStatefulSetWithNewCapacity (dcRackName : String)
    (living : Option StatefulSet) (rack : CassandraRackStatus)
    (newDataCapacity : Quantity) (answers : UpsizeAnswers) : UpsizeStep :=
  match living with
  | some _ => { rack := rack, result := .pass }
  | none =>
    match rack.statefulSetSnapshotBeforeStorageResize with
    | none => { rack := rack, result := .error }
    | some snapshot =>
      match setNewDataCapacity snapshot newDataCapacity with
      | .fault => { rack := rack, result := .fault }
      | .noDataClaim => { rack := rack, result := .error }
      | .updated sts =>
        { rack := rack
          effects :=
            [.recreateStatefulSet dcRackName sts (Except.succeeded answers.create)]
          result := if Except.succeeded answers.create then .breakLoop else .error }

/-- The claims among those of the rack that hold its data. -/
def dataClaims (sts : StatefulSet) (claims : List PersistentVolumeClaim) :
    List PersistentVolumeClaim :=
  claims.filter fun claim =>
    (dataPVCName ++ "-" ++ sts.name).toList.isPrefixOf claim.name.toList

def getAllDataPvcs (living : Option StatefulSet) (answers : UpsizeAnswers) :
    Option (List PersistentVolumeClaim) :=
  match living, answers.claims with
  | some sts, .ok claims =>
    if ((dataClaims sts claims).length : Int) = sts.spec.replicas then
      some (dataClaims sts claims)
    else none
  | _, _ => none

def storageOf (claim : PersistentVolumeClaim) : Quantity :=
  ((claim.requests.getD ∅).lookup resourceStorage).getD .zero

def capacityOf (claim : PersistentVolumeClaim) : Quantity :=
  (claim.capacity.lookup resourceStorage).getD .zero

def ensureAllPVCsHaveNewCapacity (requested : Quantity)
    (claims : List PersistentVolumeClaim) (rack : CassandraRackStatus)
    (answers : UpsizeAnswers) : UpsizeStep :=
  let changed := claims.filter fun claim => storageOf claim != requested
  { rack := rack
    effects := changed.map fun claim => .updatePVC claim.name requested
    result :=
      if changed.any (fun claim => !Except.succeeded (answers.updateClaim claim.name)) then
        .error
      else if changed.isEmpty then .pass
      else .breakLoop }

def waitTillAllFilesystemsHaveNewCapacity (requested : Quantity)
    (claims : List PersistentVolumeClaim) (rack : CassandraRackStatus) : UpsizeStep :=
  { rack := rack
    result :=
      if claims.all (fun claim => (capacityOf claim).equal requested) then .pass
      else .breakLoop }

def finalizeUpsizeAction (now : Nat) (rack : CassandraRackStatus) : CassandraRackStatus :=
  { rack with
    cassandraLastAction :=
      { rack.cassandraLastAction with
        name := .storageUpsize, status := .done, endTime := some now }
    statefulSetSnapshotBeforeStorageResize := none }

def waitTillStatefulSetAndAllPodsAreReady (platform : Platform) (now : Nat)
    (spec : CassandraClusterSpec) (living : Option StatefulSet)
    (rack : CassandraRackStatus) (answers : UpsizeAnswers) : UpsizeStep :=
  match living with
  | none => { rack := rack, result := .fault }
  | some sts =>
    if doesStatefulSetHaveNewCapacity platform spec sts = false then
      { rack := rack, result := .breakLoop }
    else if isStatefulSetReady sts then
      match answers.pods with
      | .error _ => { rack := rack, result := .error }
      | .ok pods =>
        if (pods.length : Int) ≠ sts.spec.replicas then
          { rack := rack, result := .error }
        else if pods.all Pod.isReady then
          { rack := finalizeUpsizeAction now rack, result := .pass }
        else { rack := rack, result := .breakLoop }
    else { rack := rack, result := .breakLoop }

/-- The capacity a rack of the DC should have. -/
def CassandraClusterSpec.requestedCapacity (spec : CassandraClusterSpec) (platform : Platform)
    (dcName : String) : Quantity :=
  platform.parseQuantity (spec.getDataCapacityFromDCName dcName)

/-- Runs the next step only if the one before passed. -/
def UpsizeStep.andThen (step : UpsizeStep) (next : CassandraRackStatus → UpsizeStep) :
    UpsizeStep :=
  match step.result with
  | .pass =>
    let later := next step.rack
    { later with effects := step.effects ++ later.effects }
  | _ => step

/-- `storageupsize.Reconcile`. -/
def reconcileUpsizeSteps (platform : Platform) (now : Nat) (spec : CassandraClusterSpec)
    (names : CompleteRackName) (living : Option StatefulSet)
    (rack : CassandraRackStatus) (answers : UpsizeAnswers) : UpsizeStep :=
  let requested := spec.requestedCapacity platform names.dcName
  ((makeOldStatefulSetSnapshot living rack).andThen fun rack =>
    removeStatefulSetOrphan platform spec names.dcRackName living rack answers).andThen
    fun rack =>
      (recreateStatefulSetWithNewCapacity names.dcRackName living rack requested
        answers).andThen fun rack =>
          match getAllDataPvcs living answers with
          | none => { rack := rack, result := .error }
          | some claims =>
            ((ensureAllPVCsHaveNewCapacity requested claims rack answers).andThen
              fun rack =>
                waitTillAllFilesystemsHaveNewCapacity requested claims rack).andThen
              fun rack =>
                waitTillStatefulSetAndAllPodsAreReady platform now spec living rack
                  answers

/-- `ReconcileStorageUpsize` on the StatefulSet the reconciler holds. -/
def reconcileStorageUpsize (platform : Platform) (now : Nat) (pass : Pass)
    (names : CompleteRackName) (rack : CassandraRackStatus) (answers : UpsizeAnswers) :
    Pass × StepResult :=
  let step := reconcileUpsizeSteps platform now pass.cc.spec names
    pass.storedStatefulSet { rack with phase := .pending } answers
  ((pass.setRackStatus names.dcRackName step.rack).emit step.effects, step.result)

end Casskop
