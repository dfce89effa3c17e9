import Casskop.Controller.PodOperations

/-!
# Creating and updating the StatefulSet of a rack

`CreateOrUpdateStatefulSet` writes the generated StatefulSet unless the disruption
gate is closed or nothing differs from the stored one.
-/

namespace Casskop

/-- Value of an `int32` computation. -/
def int32 (value : Int) : Int := value.bmod (2 ^ 32)

def statefulSetName (cc : CassandraCluster) (dcRackName : String) : String :=
  cc.metadata.name ++ "-" ++ dcRackName

def generateCassandraStatefulSet (platform : Platform) (cc : CassandraCluster)
    (status : CassandraClusterStatus) (dcRackName : String) : Option StatefulSet :=
  match platform.generate cc status dcRackName with
  | none => none
  | some (template, claims) =>
    some
      { name := statefulSetName cc dcRackName
        spec :=
          { replicas := cc.spec.getNodesPerRacks dcRackName
            partition := cc.spec.getRollingPartitionPerRacks dcRackName
            template := template
            volumeClaimTemplates := claims } }

/-! ## Comparison -/

def sortPVCs (claims : List PersistentVolumeClaim) : List PersistentVolumeClaim :=
  claims.insertionSort fun a b => a.name ≤ b.name

def sortContainers (containers : List Container) : List Container :=
  containers.insertionSort fun a b => a.name ≤ b.name

def normalized (sts : StatefulSet) : StatefulSet :=
  { sts with
    spec :=
      { sts.spec with
        template :=
          { sts.spec.template with
            containers := sts.spec.template.containers.map sortContainers }
        volumeClaimTemplates := sortPVCs sts.spec.volumeClaimTemplates } }

/-- The second StatefulSet takes the claim statuses and the replica status of the
first before the two are compared. -/
def alignedWith (reference sts : StatefulSet) : StatefulSet :=
  { sts with
    spec :=
      { sts.spec with
        volumeClaimTemplates :=
          List.zipWith (fun claim other => { claim with capacity := other.capacity })
            sts.spec.volumeClaimTemplates reference.spec.volumeClaimTemplates }
    status := { sts.status with replicas := reference.status.replicas } }

def statefulSetsAreEqual (platform : Platform) (sts1 sts2 : StatefulSet) : Bool :=
  if (sts1.spec.template.containers.getD []).length ≠
      (sts2.spec.template.containers.getD []).length then false
  else if sts1.spec.volumeClaimTemplates.length ≠
      sts2.spec.volumeClaimTemplates.length then false
  else
    platform.patchIsEmpty (normalized sts1) (alignedWith (normalized sts1) (normalized sts2))

/-! ## Preparing the StatefulSet to write -/

def withStored (stored sts : StatefulSet) : StatefulSet :=
  { sts with
    resourceVersion := stored.resourceVersion
    spec :=
      { sts.spec with
        template := { sts.spec.template with labels := stored.spec.template.labels } }
    status := stored.status }

def storedSeeds (value : String) (oldEnv : List EnvVar) : String :=
  oldEnv.foldl
    (fun kept env =>
      if env.name = cassandraSeeds ∧ value ≠ env.value then env.value else kept)
    value

/-- Puts the seeds of the stored StatefulSet back; `none` is the nil dereference
of a missing bootstrap container. -/
def keepStoredSeeds (stored sts : StatefulSet) : Option StatefulSet :=
  match getBootstrapContainerFromStatefulset sts with
  | none => none
  | some bootstrap =>
    if bootstrap.env.all (fun env => env.name != cassandraSeeds) then some sts
    else
      match getBootstrapContainerFromStatefulset stored with
      | none => none
      | some oldBootstrap =>
        let env := bootstrap.env.map fun env =>
          if env.name = cassandraSeeds then
            { env with value := storedSeeds env.value oldBootstrap.env }
          else env
        some
          { sts with
            spec :=
              { sts.spec with
                template :=
                  { sts.spec.template with
                    initContainers := sts.spec.template.initContainers.replace
                      bootstrap { bootstrap with env := env } } } }

def withReplicas (sts : StatefulSet) (replicas : Int) : StatefulSet :=
  { sts with spec := { sts.spec with replicas := replicas } }

/-- One node at a time. -/
def stepReplicas (stored wanted : Int) : Int :=
  let replicaCountDiff := int32 (wanted - stored)
  if 1 < replicaCountDiff then int32 (stored + 1)
  else if replicaCountDiff < -1 then int32 (stored - 1)
  else wanted

/-- `storageupsize.IsStarted`. -/
def isStorageUpsizeStarted (rack : CassandraRackStatus) : Bool :=
  rack.cassandraLastAction.name == .storageUpsize &&
    rack.cassandraLastAction.status != .done

def setStorageRequest (quantity : Quantity) (claim : PersistentVolumeClaim) :
    PersistentVolumeClaim :=
  { claim with requests := some ((claim.requests.getD ∅).insert resourceStorage quantity) }

/-- `RevertAnyStorageUpsizeBeyondUpsizeAction`; `none` is the index fault of a
StatefulSet without data template. -/
def revertAnyStorageUpsize (rack : CassandraRackStatus) (stored sts : StatefulSet) :
    Option StatefulSet :=
  if isStorageUpsizeStarted rack then some sts
  else
    let current := dataCapacity stored.spec.volumeClaimTemplates
    if (dataCapacity sts.spec.volumeClaimTemplates).equal current then some sts
    else
      match findDataCapacity sts.spec.volumeClaimTemplates with
      | none => none
      | some (index, _) =>
        some
          { sts with
            spec :=
              { sts.spec with
                volumeClaimTemplates := sts.spec.volumeClaimTemplates.modify index
                  (setStorageRequest current) } }

def startAction (now : Nat) (rack : CassandraRackStatus) : CassandraRackStatus :=
  { rack with
    cassandraLastAction :=
      { rack.cassandraLastAction with status := .ongoing, startTime := some now } }

def updatesSeedList (rack : CassandraRackStatus) : Bool :=
  rack.cassandraLastAction.name == .updateSeedList &&
    (rack.cassandraLastAction.status == .toDo ||
      rack.cassandraLastAction.status == .configuring)

def restarts (rack : CassandraRackStatus) : Bool :=
  rack.cassandraLastAction.name == .rollingRestart &&
    rack.cassandraLastAction.status == .toDo

def withRestartLabel (now : Nat) (sts : StatefulSet) : StatefulSet :=
  { sts with
    spec :=
      { sts.spec with
        template :=
          { sts.spec.template with
            labels := sts.spec.template.labels.insert "rolling-restart" (toString now) } } }

/-- Rack and StatefulSet once a rolling restart that waits has been started. -/
def startRestart (now : Nat) (rack : CassandraRackStatus) (sts : StatefulSet) :
    CassandraRackStatus × StatefulSet :=
  if restarts rack then (startAction now rack, withRestartLabel now sts) else (rack, sts)

/-- Action of the rack once the StatefulSet is about to be written. -/
def actionOnWrite (now : Nat) (noCheckStsAreEqual : Bool) (rack : CassandraRackStatus) :
    CassandraRackStatus :=
  let rack :=
    if rack.cassandraLastAction.status = .toDo then
      { rack with
        cassandraLastAction :=
          { rack.cassandraLastAction with
            status := .ongoing, startTime := some now, endTime := none } }
    else rack
  if noCheckStsAreEqual = false ∧ rack.cassandraLastAction.status = .done then
    { rack with
      cassandraLastAction :=
        { name := .updateStatefulSet, status := .ongoing
          startTime := some now, endTime := none } }
  else rack

/-! ## The write -/

structure StatefulSetAnswers where
  stored : Except ApiError StatefulSet
  create : Except ApiError Unit
  update : Except ApiError Unit

/-- The part of `CreateOrUpdateStatefulSet` that follows the seeds. -/
def writeStatefulSet (platform : Platform) (now : Nat) (pass : Pass)
    (dcRackName : String) (rack : CassandraRackStatus) (stored sts : StatefulSet)
    (answers : StatefulSetAnswers) : PodOperationResult :=
  let sts := withReplicas sts (stepReplicas stored.spec.replicas sts.spec.replicas)
  match revertAnyStorageUpsize rack stored sts with
  | none => ⟨pass.setRackStatus dcRackName rack, .fault⟩
  | some sts =>
    let (rack, sts) := startRestart now rack sts
    if pass.cc.spec.noCheckStsAreEqual = false ∧
        statefulSetsAreEqual platform stored sts = true then
      ⟨pass.setRackStatus dcRackName rack, .continueResyncLoop⟩
    else
      let rack := actionOnWrite now pass.cc.spec.noCheckStsAreEqual rack
      ⟨(pass.setRackStatus dcRackName rack).emit
          [.updateStatefulSet dcRackName stored sts (Except.succeeded answers.update)],
        .breakResyncLoop⟩

def createOrUpdateStatefulSet (platform : Platform) (now : Nat) (pass : Pass)
    (dcRackName : String) (rack : CassandraRackStatus) (sts : StatefulSet)
    (answers : StatefulSetAnswers) : PodOperationResult :=
  if hasNoPodDisruption pass.storedPdb = false ∧
      pass.cc.spec.unlockNextOperation = false then
    ⟨pass, .continueResyncLoop⟩
  else
    match answers.stored with
    | .error .notFound =>
      ⟨pass.emit
          [.createStatefulSet dcRackName sts (Except.succeeded answers.create)],
        .breakResyncLoop⟩
    | .error _ => ⟨pass, .continueResyncLoop⟩
    | .ok stored =>
      let pass := { pass with storedStatefulSet := some stored }
      let sts := withStored stored sts
      if updatesSeedList rack then
        writeStatefulSet platform now pass dcRackName (startAction now rack) stored sts
          answers
      else
        match keepStoredSeeds stored sts with
        | none => ⟨pass, .fault⟩
        | some sts =>
          writeStatefulSet platform now pass dcRackName rack stored sts answers

def ensureCassandraStatefulSet (platform : Platform) (now : Nat) (pass : Pass)
    (dcRackName : String) (rack : CassandraRackStatus) (answers : StatefulSetAnswers) :
    PodOperationResult :=
  match generateCassandraStatefulSet platform pass.cc pass.status dcRackName with
  | none => ⟨pass, .breakResyncLoop⟩
  | some sts => createOrUpdateStatefulSet platform now pass dcRackName rack sts answers

end Casskop
