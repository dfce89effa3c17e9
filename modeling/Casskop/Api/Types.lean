import Casskop.Kube.Objects

/-!
# The CassandraCluster resource

Data types of `api/v2`.  The status strings the operator writes are
enumerations whose `unset` value stands for the empty string.
-/

namespace Casskop

/-- Phases of a rack and of the cluster. -/
inductive Phase where
  | unset
  | initializing
  | running
  | pending
  deriving DecidableEq, Repr

/-- Names of the actions a rack or the cluster can be in.  `initializing` is the
name `InitCassandraRackStatus` gives to the very first action. -/
inductive ActionName where
  | unset
  | initializing
  | updateConfigMap
  | updateDockerImage
  | updateSeedList
  | rollingRestart
  | updateResources
  | updateStatefulSet
  | scaleUp
  | scaleDown
  | deleteDC
  | deleteRack
  | correctCRDConfig
  | storageUpsize
  deriving DecidableEq, Repr

/-- Values of the `status` field of actions and pod operations. -/
inductive ActionStatus where
  | unset
  | ongoing
  | done
  | toDo
  | finalizing
  | continue
  | configuring
  | manual
  | error
  deriving DecidableEq, Repr

/-- Pod operations.  All but `decommission` are the keys of `podOperationMap`. -/
inductive OperationName where
  | unset
  | upgradeSSTables
  | cleanup
  | decommission
  | rebuild
  | remove
  deriving DecidableEq, Repr

structure Rack where
  name : String
  labels : List (String × String) := []
  config : String := ""
  rollingRestart : Bool := false
  rollingPartition : Int := 0
  deriving DecidableEq, Repr

structure DC where
  name : String
  labels : List (String × String) := []
  config : String := ""
  rack : List Rack := []
  nodesPerRacks : Option Int := none
  dataCapacity : String := ""
  dataStorageClass : String := ""
  resources : ResourceRequirements := {}
  deriving DecidableEq, Repr

structure Topology where
  dc : List DC := []
  deriving DecidableEq, Repr

structure CassandraClusterSpec where
  nodesPerRacks : Int := 0
  cassandraImage : String := ""
  resources : ResourceRequirements := {}
  deletePVC : Bool := false
  autoPilot : Bool := false
  noCheckStsAreEqual : Bool := false
  autoUpdateSeedList : Bool := false
  maxPodUnavailable : Int := 0
  unlockNextOperation : Bool := false
  dataCapacity : String := ""
  dataStorageClass : String := ""
  configMapName : String := ""
  serverVersion : String := ""
  topology : Topology := {}
  deriving DecidableEq, Repr

/-- Times are seconds; `none` is a nil `*metav1.Time`. -/
structure CassandraLastAction where
  status : ActionStatus := .unset
  name : ActionName := .unset
  startTime : Option Nat := none
  endTime : Option Nat := none
  deriving DecidableEq, Repr

structure PodLastOperation where
  name : OperationName := .unset
  status : ActionStatus := .unset
  startTime : Option Nat := none
  endTime : Option Nat := none
  pods : Option (List String) := none
  podsOK : Option (List String) := none
  podsKO : Option (List String) := none
  operatorName : String := ""
  deriving DecidableEq, Repr

structure CassandraRackStatus where
  phase : Phase := .unset
  cassandraLastAction : CassandraLastAction := {}
  podLastOperation : PodLastOperation := {}
  /-- The marshalled snapshot; the empty string is `none`. -/
  statefulSetSnapshotBeforeStorageResize : Option StatefulSet := none
  deriving DecidableEq

structure CassandraClusterStatus where
  phase : Phase := .unset
  lastClusterAction : ActionName := .unset
  lastClusterActionStatus : ActionStatus := .unset
  seedList : List String := []
  cassandraRackStatus : GoMap CassandraRackStatus := ∅
  deriving DecidableEq

/-- The part of the metadata that `ComputeLastAppliedConfiguration` keeps. -/
structure ObjectMeta where
  name : String
  ns : String
  labels : List (String × String) := []
  finalizers : List String := []
  generation : Nat := 0
  deletionTimestamp : Bool := false
  deriving DecidableEq, Repr

/-- What the last-applied annotation describes once it is decoded. -/
structure LastApplied where
  metadata : ObjectMeta
  spec : CassandraClusterSpec
  deriving DecidableEq

/-- Content of the annotation `AnnotationLastApplied`. -/
inductive LastAppliedAnnotation where
  | absent
  | undecodable
  | config (lastApplied : LastApplied)
  deriving DecidableEq

structure CassandraCluster where
  metadata : ObjectMeta
  resourceVersion : Nat := 0
  annotation : LastAppliedAnnotation := .absent
  spec : CassandraClusterSpec
  status : CassandraClusterStatus := {}
  deriving DecidableEq

/-- `ComputeLastAppliedConfiguration`: annotations, resource version and status
are dropped before marshalling. -/
def CassandraCluster.computeLastAppliedConfiguration
    (cc : CassandraCluster) : LastApplied :=
  { metadata := cc.metadata, spec := cc.spec }

end Casskop
