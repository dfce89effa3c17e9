import Casskop.Controller.Pass
import Casskop.Library.SliceDiff

/-!
# Phases and actions of a rack

The functions of `cassandra_status.go` that move a rack between phases and
actions.  Each of them only writes the status of the rack it is called for, so it
maps a rack status to a rack status; a detector that finds nothing returns `none`.
-/

namespace Casskop

def cassandraConfigMapName : String := "cassandra-config"

def defaultDelayWait : Nat := 20

def resourceStorage : String := "storage"

/-! ## Setting an action -/

def setAction (rack : CassandraRackStatus) (name : ActionName) (status : ActionStatus) :
    CassandraRackStatus :=
  { rack with
    cassandraLastAction :=
      { name := name, status := status, startTime := none, endTime := none } }

def setDecommissionStatus (now : Nat) (rack : CassandraRackStatus) :
    CassandraRackStatus :=
  { rack with
    phase := .pending
    cassandraLastAction :=
      { rack.cassandraLastAction with
        name := .scaleDown, status := .toDo, startTime := some now }
    podLastOperation :=
      { rack.podLastOperation with
        name := .decommission
        status := .toDo
        startTime := some now
        endTime := none
        pods := some []
        podsOK := some []
        podsKO := some [] } }

/-! ## Detectors -/

def configMapHasChanged (spec : CassandraClusterSpec) (sts : StatefulSet) : Bool :=
  match sts.spec.template.volumes with
  | none => spec.configMapName != ""
  | some volumes =>
    match volumes.find? (fun volume => volume.name == cassandraConfigMapName) with
    | none => spec.configMapName != ""
    | some volume =>
      match volume.configMap with
      | none => false
      | some configMap => configMap != spec.configMapName

def updateStatusIfconfigMapHasChanged (spec : CassandraClusterSpec) (sts : StatefulSet)
    (rack : CassandraRackStatus) : Option CassandraRackStatus :=
  if configMapHasChanged spec sts then
    some (setAction rack .updateConfigMap .toDo)
  else none

def dockerImageHasChanged (spec : CassandraClusterSpec) (sts : StatefulSet) : Bool :=
  (sts.spec.template.containers.getD []).any fun container =>
    container.name == cassandraContainerName && spec.cassandraImage != container.image

def updateStatusIfDockerImageHasChanged (spec : CassandraClusterSpec)
    (sts : StatefulSet) (rack : CassandraRackStatus) : Option CassandraRackStatus :=
  if dockerImageHasChanged spec sts then
    some (setAction rack .updateDockerImage .toDo)
  else none

/-- `findDataCapacity`; an absent data template is `none`. -/
def findDataCapacity (templates : List PersistentVolumeClaim) :
    Option (Nat × Quantity) :=
  match templates.findIdx? (fun template => template.name == dataPVCName) with
  | none => none
  | some index =>
    match templates[index]? with
    | none => none
    | some template =>
      some (index, ((template.requests.getD ∅).lookup resourceStorage).getD .zero)

def dataCapacity (templates : List PersistentVolumeClaim) : Quantity :=
  ((findDataCapacity templates).map Prod.snd).getD .zero

def shouldStorageUpsizeBeStarted (platform : Platform) (spec : CassandraClusterSpec)
    (dcName : String) (sts : StatefulSet) : Bool :=
  !(platform.parseQuantity (spec.getDataCapacityFromDCName dcName)).equal
    (dataCapacity sts.spec.volumeClaimTemplates)

def startUpsizeAction (now : Nat) (rack : CassandraRackStatus) : CassandraRackStatus :=
  { rack with
    phase := .pending
    cassandraLastAction :=
      { name := .storageUpsize, status := .ongoing
        startTime := some now, endTime := none } }

def updateStatusIfStorageUpsize (platform : Platform) (now : Nat)
    (spec : CassandraClusterSpec) (dcName : String) (sts : StatefulSet)
    (rack : CassandraRackStatus) : Option CassandraRackStatus :=
  if shouldStorageUpsizeBeStarted platform spec dcName sts then
    some (startUpsizeAction now rack)
  else none

def updateStatusIfScaling (now : Nat) (spec : CassandraClusterSpec)
    (dcRackName : String) (sts : StatefulSet) (rack : CassandraRackStatus) :
    Option CassandraRackStatus :=
  let nodesPerRacks := spec.getNodesPerRacks dcRackName
  if nodesPerRacks = sts.spec.replicas then none
  else if sts.spec.replicas < nodesPerRacks then
    some (setAction rack .scaleUp .toDo)
  else
    some (setAction (setDecommissionStatus now rack) .scaleDown .toDo)

def bootstrapContainerName : String := "bootstrap"

def cassandraSeeds : String := "CASSANDRA_SEEDS"

def getBootstrapContainerFromStatefulset (sts : StatefulSet) : Option Container :=
  sts.spec.template.initContainers.find? fun container =>
    container.name == bootstrapContainerName

def getStoredSeedList (sts : StatefulSet) : List String :=
  match getBootstrapContainerFromStatefulset sts with
  | none => []
  | some container =>
    match container.env.find? (fun env => env.name == cassandraSeeds) with
    | none => []
    | some env => (env.value.toList.splitOn ',').map String.ofList

/-- The seed list the status holds after `UpdateStatusIfSeedListHasChanged`. -/
def nextSeedList (cc : CassandraCluster) (sts : StatefulSet) (seedList : List String) :
    List String :=
  let storedSeedList := getStoredSeedList sts
  let computed := initSeedList cc.metadata cc.spec
  -- `diff.Diff` reports no change exactly when every element finds its partner.
  if cc.spec.autoUpdateSeedList &&
      (!(SliceDiff.missing storedSeedList computed).isEmpty ||
        !(SliceDiff.missing computed storedSeedList).isEmpty) then
    mergeSlice storedSeedList computed
  else seedList

def updateStatusIfSeedListHasChanged (sts : StatefulSet) (seedList : List String)
    (rack : CassandraRackStatus) : Option CassandraRackStatus :=
  if seedList != getStoredSeedList sts then
    some (setAction rack .updateSeedList .configuring)
  else none

def rollingRestartAsked (spec : CassandraClusterSpec) (dc rack : Nat) : Bool :=
  ((spec.topology.dc[dc]?).bind fun storeDC => storeDC.rack[rack]?).any
    fun storeRack => storeRack.rollingRestart

/-- Clears the flag of a rack, as `UpdateStatusIfRollingRestart` does. -/
def clearRollingRestart (spec : CassandraClusterSpec) (dc rack : Nat) :
    CassandraClusterSpec :=
  { spec with
    topology :=
      { dc := spec.topology.dc.modify dc fun storeDC =>
          { storeDC with
            rack := storeDC.rack.modify rack fun storeRack =>
              { storeRack with rollingRestart := false } } } }

def updateStatusIfStatefulSetChanged (now : Nat) (sts : StatefulSet)
    (rack : CassandraRackStatus) : Option CassandraRackStatus :=
  if sts.status.currentRevision ≠ sts.status.updateRevision then
    some
      { rack with
        cassandraLastAction :=
          { name := .updateStatefulSet, status := .ongoing
            startTime := some now, endTime := none } }
  else none

def needToWaitDelayBeforeCheck (now : Nat) (rack : CassandraRackStatus) : Bool :=
  match rack.cassandraLastAction.startTime with
  | some start => decide (now < start + defaultDelayWait)
  | none => false

def hasUnschedulablePod : Except ApiError (List Pod) → Bool
  | .error _ => false
  | .ok pods =>
    pods.any fun pod =>
      pod.phase != .running &&
        match pod.conditions with
        | none => false
        | some conditions =>
          pod.containerStatuses.any
              (fun status => !status.ready && status.waiting == some "ImagePullBackOff") ||
            conditions.any fun condition =>
              condition.reason == "Unschedulable" ||
                (condition.type == "Ready" && condition.status == .false &&
                  condition.reason == "ContainersNotReady")

/-! ## End of an action -/

structure JoiningAnswers where
  podsOfRack : Nat × Nat → Except ApiError (List Pod)
  /-- The Jolokia client and its query. -/
  joiningNodes : Except ApiError Bool

def listCassandraClusterPods (spec : CassandraClusterSpec)
    (podsOfRack : Nat × Nat → Except ApiError (List Pod)) : Except ApiError (List Pod) :=
  spec.rackPositions.foldl
    (fun pods position =>
      match pods with
      | .error error => .error error
      | .ok pods =>
        if (spec.completeRackName position.1 position.2).dcRackName = "" then
          .error .other
        else
          match podsOfRack position with
          | .error error => .error error
          | .ok items => .ok (pods ++ items))
    (.ok [])

def hasJoiningNodes (spec : CassandraClusterSpec) (answers : JoiningAnswers) :
    Except ApiError Bool :=
  match listCassandraClusterPods spec answers.podsOfRack with
  | .error error => .error error
  | .ok pods =>
    match getLastOrFirstPodReady pods false with
    | none => .error .other
    | some _ => answers.joiningNodes

def endAction (now : Nat) (rack : CassandraRackStatus) : CassandraRackStatus :=
  { rack with
    cassandraLastAction :=
      { rack.cassandraLastAction with status := .done, endTime := some now } }

inductive ActionEnd where
  | notEnded
  | ended (rack : CassandraRackStatus) (effects : List Effect)
  | fault

/-- The element `Items[nodesPerRacks-1]`; `none` is an index fault. -/
def podAtCount (pods : List Pod) (nodesPerRacks : Int) : Option Pod :=
  if nodesPerRacks < 1 then none else pods[nodesPerRacks.toNat - 1]?

structure EndAnswers where
  pods : Except ApiError (List Pod)
  joining : JoiningAnswers
  labelled : Except ApiError (List Pod)

def addPodOperationLabels (pods : Except ApiError (List Pod))
    (labels : List (String × String)) : List Effect :=
  match pods with
  | .error _ => []
  | .ok pods =>
    (pods.filter fun pod => pod.phase == .running && !pod.deletionTimestamp).map
      fun pod => .labelPod pod.name labels

def scaleUpEnded (now : Nat) (spec : CassandraClusterSpec) (nodesPerRacks : Int)
    (rack : CassandraRackStatus) (answers : EndAnswers) : ActionEnd :=
  match answers.pods with
  | .error _ => .notEnded
  | .ok pods =>
    if pods.length < 1 then .notEnded
    else if (pods.length : Int) < nodesPerRacks then .notEnded
    else
      match podAtCount (sortPodsList pods) nodesPerRacks with
      | none => .fault
      | some pod =>
        if pod.isReady then
          match hasJoiningNodes spec answers.joining with
          | .ok false =>
            .ended (endAction now rack)
              (addPodOperationLabels answers.labelled
                [("operation-name", "cleanup"),
                  ("operation-status", if spec.autoPilot then "To-Do" else "Manual")])
          | _ => .notEnded
        else .notEnded

/-- `UpdateStatusIfActionEnded`.  The end of a scale down is read off the status
stored in the object, not off the working copy. -/
def updateStatusIfActionEnded (now : Nat) (cc : CassandraCluster) (dcRackName : String)
    (sts : StatefulSet) (rack : CassandraRackStatus) (answers : EndAnswers) :
    ActionEnd :=
  let action := rack.cassandraLastAction
  if action.status = .ongoing ∨ action.status = .continue then
    let nodesPerRacks := cc.spec.getNodesPerRacks dcRackName
    match action.name with
    | .scaleUp =>
      if nodesPerRacks = sts.status.replicas then
        scaleUpEnded now cc.spec nodesPerRacks rack answers
      else .notEnded
    | .scaleDown =>
      if nodesPerRacks = sts.status.replicas then
        match cc.status.cassandraRackStatus.lookup dcRackName with
        | none => .fault
        | some stored =>
          if stored.podLastOperation.name = .decommission ∧
              stored.podLastOperation.status = .done then
            .ended (endAction now rack) []
          else .notEnded
      else .notEnded
    | .initializing => .notEnded
    | .storageUpsize => .notEnded
    | _ =>
      if sts.status.currentRevision = sts.status.updateRevision then
        .ended (endAction now rack) []
      else .notEnded
  else .notEnded

/-! ## The next status of a rack -/

structure NextStatus where
  rack : CassandraRackStatus
  seedList : List String
  spec : CassandraClusterSpec
  storedStatefulSet : Option StatefulSet
  effects : List Effect := []
  fault : Bool := false

structure NextAnswers where
  ended : EndAnswers
  unschedulable : Except ApiError (List Pod)

/-- The last assignment of `getNextCassandraClusterStatus`. -/
def startUpdateResources (now : Nat) (rack : CassandraRackStatus) :
    CassandraRackStatus :=
  if rack.cassandraLastAction.status = .toDo ∧
      rack.cassandraLastAction.name = .updateResources then
    { rack with
      cassandraLastAction :=
        { rack.cassandraLastAction with status := .ongoing, startTime := some now } }
  else rack

/-- The detectors, in the order in which they are tried. -/
def detectNewAction (platform : Platform) (now : Nat) (pass : Pass) (dc rack : Nat)
    (sts : StatefulSet) (rackStatus : CassandraRackStatus) : NextStatus :=
  let cc := pass.cc
  let names := cc.spec.completeRackName dc rack
  let next : NextStatus :=
    { rack := rackStatus, seedList := pass.status.seedList, spec := cc.spec
      storedStatefulSet := pass.storedStatefulSet }
  match updateStatusIfconfigMapHasChanged cc.spec sts rackStatus with
  | some changed => { next with rack := changed }
  | none =>
  match updateStatusIfDockerImageHasChanged cc.spec sts rackStatus with
  | some changed => { next with rack := changed }
  | none =>
  let next := { next with storedStatefulSet := some sts }
  match updateStatusIfStorageUpsize platform now cc.spec names.dcName sts rackStatus with
  | some changed => { next with rack := changed }
  | none =>
  match updateStatusIfScaling now cc.spec names.dcRackName sts rackStatus with
  | some changed => { next with rack := changed }
  | none =>
  let next := { next with seedList := nextSeedList cc sts pass.status.seedList }
  match updateStatusIfSeedListHasChanged sts next.seedList rackStatus with
  | some changed => { next with rack := changed }
  | none =>
  if rollingRestartAsked cc.spec dc rack then
    { next with
      rack := setAction rackStatus .rollingRestart .toDo
      spec := clearRollingRestart cc.spec dc rack }
  else
  match updateStatusIfStatefulSetChanged now sts rackStatus with
  | some changed => { next with rack := changed }
  | none => { next with rack := startUpdateResources now rackStatus }

def leaveInitial (rack : CassandraRackStatus) : CassandraRackStatus :=
  if rack.phase = .initializing then { rack with phase := .pending } else rack

def checksForNewAction (unlockNextOperation : Bool) (pdb : PodDisruptionBudget)
    (rack : CassandraRackStatus) : Bool :=
  unlockNextOperation ||
    (hasNoPodDisruption pdb && rack.cassandraLastAction.status != .ongoing &&
      rack.cassandraLastAction.status != .toDo &&
      rack.cassandraLastAction.status != .finalizing)

def getNextCassandraClusterStatus (platform : Platform) (now : Nat) (pass : Pass)
    (dc rack : Nat) (sts : StatefulSet) (rackStatus : CassandraRackStatus)
    (answers : NextAnswers) : NextStatus :=
  let cc := pass.cc
  let names := cc.spec.completeRackName dc rack
  let next : NextStatus :=
    { rack := rackStatus, seedList := pass.status.seedList, spec := cc.spec
      storedStatefulSet := pass.storedStatefulSet }
  if needToWaitDelayBeforeCheck now rackStatus then next
  else
  match updateStatusIfActionEnded now cc names.dcRackName sts rackStatus answers.ended with
  | .fault => { next with fault := true }
  | .ended ended effects => { next with rack := ended, effects := effects }
  | .notEnded =>
  let unlockNextOperation :=
    cc.spec.unlockNextOperation && hasUnschedulablePod answers.unschedulable
  if rackStatus.phase = .initializing ∧ unlockNextOperation = false then next
  else
  let rackStatus := leaveInitial rackStatus
  if checksForNewAction unlockNextOperation pass.storedPdb rackStatus then
    detectNewAction platform now pass dc rack sts rackStatus
  else { next with rack := startUpdateResources now rackStatus }

/-! ## The phase of a rack -/

inductive PhaseUpdate where
  | updated (rack : CassandraRackStatus)
  | fault

/-- The tail of `UpdateCassandraRackStatusPhase`, once the rack is not
initializing any more. -/
def phaseFromReadiness (sts : StatefulSet) (rack : CassandraRackStatus) :
    CassandraRackStatus :=
  if isStatefulSetNotReady sts then { rack with phase := .pending }
  else if rack.phase ≠ .running then { rack with phase := .running }
  else rack

/-- `UpdateCassandraRackStatusPhase`.  An initializing rack whose last pod is not
ready goes through the readiness test as well. -/
def updateCassandraRackStatusPhase (now : Nat) (spec : CassandraClusterSpec)
    (dcRackName : String) (sts : StatefulSet) (rack : CassandraRackStatus)
    (pods : Except ApiError (List Pod)) : PhaseUpdate :=
  if rack.phase = .initializing then
    let nodesPerRacks := spec.getNodesPerRacks dcRackName
    if nodesPerRacks ≤ 0 then .updated (setDecommissionStatus now rack)
    else if isStatefulSetNotReady sts then .updated rack
    else
      match pods with
      | .error _ => .updated rack
      | .ok pods =>
        if pods.length < 1 then .updated rack
        else
          match podAtCount (sortPodsList pods) nodesPerRacks with
          | none => .fault
          | some pod =>
            let rack :=
              if pod.isReady then
                { rack with
                  phase := .running
                  cassandraLastAction :=
                    { rack.cassandraLastAction with
                      status := .done, endTime := some now } }
              else rack
            .updated (phaseFromReadiness sts rack)
  else .updated (phaseFromReadiness sts rack)

end Casskop
