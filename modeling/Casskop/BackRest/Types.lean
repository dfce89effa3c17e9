import Casskop.Controller.StatefulSets

/-!
# Backups, restores and the sidecar

Data types of CassandraBackup and CassandraRestore, and the requests the operator sends to
the backup sidecar of a Cassandra pod.
-/

namespace Casskop

/-! ## Answers -/

/-- Outcome of a request that changes something.  A request whose answer is lost has been
carried out all the same. -/
inductive Delivery (α : Type) where
  | answered (answer : α)
  | refused
  | lost
  deriving DecidableEq, Repr

def Delivery.accepted {α : Type} : Delivery α → Bool
  | .answered _ | .lost => true
  | .refused => false

/-! ## Status -/

/-- Texts of a condition; the sidecar may answer with any other one. -/
inductive ConditionType where
  | required
  | pending
  | running
  | completed
  | failed
  | canceled
  | other (text : String)
  deriving DecidableEq, Repr

namespace ConditionType

def isRequired (type : ConditionType) : Bool := type == .required

def isInProgress (type : ConditionType) : Bool := type == .pending || type == .running

def isInError (type : ConditionType) : Bool := type == .failed || type == .canceled

def isCompleted (type : ConditionType) : Bool := type == .completed

end ConditionType

structure FailureCause where
  source : String := ""
  message : String := ""
  deriving DecidableEq, Repr

structure BackRestCondition where
  type : ConditionType
  lastTransitionTime : String := ""
  failureCause : List FailureCause := []
  deriving DecidableEq, Repr

structure BackRestStatus where
  timeCreated : String := ""
  timeStarted : String := ""
  timeCompleted : String := ""
  condition : Option BackRestCondition := none
  coordinatorMember : String := ""
  progress : String := ""
  id : String := ""
  deriving DecidableEq, Repr

/-- What the sidecar tells about an operation. -/
structure OperationResponse where
  id : String
  state : ConditionType
  /-- The progress in whole percents. -/
  percentage : Int := 0
  creationTime : String := ""
  startTime : String := ""
  completionTime : String := ""
  errors : List FailureCause := []
  deriving DecidableEq, Repr

def progressPercentage (percentage : Int) : String := toString percentage ++ "%"

/-- `ComputeRestorationStatus` at the time `now`. -/
def computeRestorationStatus (now : String) (response : OperationResponse) : BackRestStatus :=
  { progress := progressPercentage response.percentage
    id := response.id
    timeCreated := response.creationTime
    timeStarted := response.startTime
    timeCompleted := response.completionTime
    condition := some
      { lastTransitionTime := now, type := response.state, failureCause := response.errors } }

def computeBackupStatus (now : String) (response : OperationResponse)
    (coordinatorMember : String) : BackRestStatus :=
  { computeRestorationStatus now response with coordinatorMember := coordinatorMember }

/-! ## CassandraBackup -/

structure CassandraBackupSpec where
  cassandraCluster : String
  datacenter : String := ""
  storageLocation : String
  schedule : String := ""
  snapshotTag : String
  duration : String := ""
  bandwidth : String := ""
  concurrentConnections : Int := 0
  entities : String := ""
  secret : String := ""
  deriving DecidableEq, Repr

/-- What `ComputeLastAppliedAnnotation` marshals. -/
structure AppliedBackup where
  name : String
  ns : String
  creationTimestamp : Nat
  spec : CassandraBackupSpec
  deriving DecidableEq, Repr

structure CassandraBackup where
  name : String
  ns : String
  creationTimestamp : Nat := 0
  finalizers : List String := []
  deletionTimestamp : Bool := false
  /-- The last-applied annotation; any text the operator has not written is `none`. -/
  annotation : Option AppliedBackup := none
  spec : CassandraBackupSpec
  status : BackRestStatus := {}
  deriving DecidableEq, Repr

namespace CassandraBackup

def key (cb : CassandraBackup) : String × String := (cb.ns, cb.name)

def isScheduled (cb : CassandraBackup) : Bool := cb.spec.schedule != ""

def ran (cb : CassandraBackup) : Bool := cb.status.condition.isSome

def preventBackupDeletion (value : Bool) (cb : CassandraBackup) : CassandraBackup :=
  { cb with finalizers := if value then ["kubernetes.io/unschedule-needed"] else [] }

def setFinalizer (value : Bool) (cb : CassandraBackup) : CassandraBackup :=
  if (!cb.finalizers.isEmpty) != value then cb.preventBackupDeletion value else cb

def computeLastAppliedAnnotation (cb : CassandraBackup) : AppliedBackup :=
  { name := cb.name, ns := cb.ns, creationTimestamp := cb.creationTimestamp, spec := cb.spec }

def storedAt (cb : CassandraBackup) (scheme : String) : Bool :=
  scheme.toList.isPrefixOf cb.spec.storageLocation.toList

def isS3Backup (cb : CassandraBackup) : Bool := cb.storedAt "s3://"

def isAzureBackup (cb : CassandraBackup) : Bool := cb.storedAt "azure://"

def isGcpBackup (cb : CassandraBackup) : Bool := cb.storedAt "gcp://"

def isFileBackup (cb : CassandraBackup) : Bool := cb.storedAt "file://"

end CassandraBackup

/-! ## CassandraRestore -/

structure CassandraRestoreSpec where
  cassandraCluster : String
  datacenter : String := ""
  cassandraBackup : String
  concurrentConnection : Option Int := none
  cassandraDirectory : String := ""
  noDeleteTruncates : Bool := false
  schemaVersion : String := ""
  exactSchemaVersion : Bool := false
  entities : String := ""
  rename : List (String × String) := []
  secret : String := ""
  deriving DecidableEq, Repr

structure CassandraRestore where
  deletionTimestamp : Bool := false
  spec : CassandraRestoreSpec
  status : BackRestStatus := {}
  deriving DecidableEq, Repr

/-! ## Requests -/

/-- Characters that separate entities. -/
def isSpaceOrComma (char : Char) : Bool :=
  char == ',' || char == ' ' || char == '\t' || char == '\n' || char == '\r' || char == '\x0c'

def formatEntities (entities : String) : String :=
  String.intercalate ","
    (((entities.toList.splitOnP isSpaceOrComma).filter fun entity => !entity.isEmpty).map
      String.ofList)

/-- The fields of a request that are not the same for every restore. -/
structure RestoreOperationRequest where
  dc : String
  storageLocation : String
  snapshotTag : String
  noDeleteTruncates : Bool
  exactSchemaVersion : Bool
  entities : String
  rename : List (String × String)
  k8sSecretName : String
  cassandraDirectory : String
  schemaVersion : String
  concurrentConnections : Int
  deriving DecidableEq, Repr

/-- The request of `PerformRestore`. -/
def restoreOperationRequest (restore : CassandraRestoreSpec) (backup : CassandraBackupSpec) :
    RestoreOperationRequest :=
  { dc := restore.datacenter
    storageLocation := backup.storageLocation
    snapshotTag := backup.snapshotTag
    noDeleteTruncates := restore.noDeleteTruncates
    exactSchemaVersion := restore.exactSchemaVersion
    entities := formatEntities (if restore.entities = "" then backup.entities else restore.entities)
    rename := restore.rename
    k8sSecretName := if restore.secret = "" then backup.secret else restore.secret
    cassandraDirectory := restore.cassandraDirectory
    schemaVersion := restore.schemaVersion
    concurrentConnections := restore.concurrentConnection.getD 0 }

structure DataRate where
  value : Int
  unit : String
  deriving DecidableEq, Repr

/-- The number a list of digits stands for, as far as an `int` holds it. -/
def atoi (digits : List Char) : Nat := min (Nat.ofDigitChars 10 digits 0) (2 ^ 63 - 1)

/-- `strings.Replace(text, " ", "", -1)`. -/
def withoutSpaces (text : String) : String :=
  String.ofList (text.toList.filter fun char => char != ' ')

/-- `dataRateFromBandwidth`; no rate is an unlimited one.  The pattern ignores case, which
makes the Kelvin sign a K. -/
def dataRateFromBandwidth (value : String) : Except String (Option DataRate) :=
  let bandwidth := (withoutSpaces value).toList.map Char.toUpper
  let digits := bandwidth.takeWhile Char.isDigit
  let unit := bandwidth.dropWhile Char.isDigit
  if bandwidth.isEmpty then .ok none
  else if digits.isEmpty || !([[], ['K'], ['M'], ['G'], ['\u212A']].contains unit) then
    .error ("Format of " ++ value ++ " not supported")
  else .ok (some { value := int32 (atoi digits), unit := String.ofList unit ++ "BPS" })

structure BackupOperationRequest where
  storageLocation : String
  snapshotTag : String
  duration : String
  bandwidth : Option DataRate
  concurrentConnections : Int
  entities : String
  k8sSecretName : String
  dc : String
  k8sNamespace : String
  deriving DecidableEq, Repr

/-- The request of `PerformBackup`.  An error about the bandwidth is dropped. -/
def backupOperationRequest (cb : CassandraBackup) : BackupOperationRequest :=
  { storageLocation := cb.spec.storageLocation
    snapshotTag := cb.spec.snapshotTag
    duration := cb.spec.duration
    bandwidth := (dataRateFromBandwidth (withoutSpaces cb.spec.bandwidth)).toOption.join
    concurrentConnections := cb.spec.concurrentConnections
    entities := formatEntities cb.spec.entities
    k8sSecretName := cb.spec.secret
    dc := cb.spec.datacenter
    k8sNamespace := cb.ns }

end Casskop
