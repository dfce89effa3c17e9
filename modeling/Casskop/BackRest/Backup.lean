import Casskop.BackRest.Types
import Casskop.Library.Runs

/-!
# Backups

The pass on a CassandraBackup registers a cron task if the object has a schedule, and
starts a backup in the background otherwise.  The background backup posts its request to
the sidecar of a pod and then writes what the sidecar tells about it to the status of the
object.
-/

namespace Casskop

/-- What the operator takes from the libraries it calls. -/
structure BackupLibrary where
  /-- `cron.ParseStandard` accepts the schedule. -/
  parsesSchedule : String → Bool
  /-- `time.ParseDuration` accepts the duration. -/
  parsesDuration : String → Bool

/-! ## The scheduler -/

structure CronEntry where
  id : Nat
  schedule : String
  deriving DecidableEq, Repr

/-- A function the cron engine calls on a schedule: it backs up as the object says that was
read when the function was registered. -/
structure CronTask where
  id : Nat
  schedule : String
  backup : CassandraBackup
  deriving DecidableEq, Repr

/-- The table of the operator and the functions registered with the cron engine. -/
structure Scheduler where
  entries : GoMap CronEntry := ∅
  tasks : List CronTask := []
  nextId : Nat := 1

namespace Scheduler

def contains (scheduler : Scheduler) (backupName : String) : Bool :=
  (scheduler.entries.lookup backupName).isSome

def remove (scheduler : Scheduler) (backupName : String) : Scheduler :=
  match scheduler.entries.lookup backupName with
  | none => scheduler
  | some entry =>
    { scheduler with
      entries := scheduler.entries.erase backupName
      tasks := scheduler.tasks.filter fun task => task.id != entry.id }

/-- What `AddOrUpdate` returns. -/
inductive Added where
  | skipped
  | scheduled
  | failed
  deriving DecidableEq, Repr

/-- The entry of the name has the schedule of the object. -/
def upToDate (scheduler : Scheduler) (cb : CassandraBackup) : Bool :=
  (scheduler.entries.lookup cb.name).any fun entry => entry.schedule == cb.spec.schedule

def addOrUpdate (library : BackupLibrary) (scheduler : Scheduler) (cb : CassandraBackup) :
    Scheduler × Added :=
  if scheduler.upToDate cb then (scheduler, .skipped)
  else
    let removed := scheduler.remove cb.name
    if library.parsesSchedule cb.spec.schedule then
      let entry : CronEntry := { id := removed.nextId, schedule := cb.spec.schedule }
      ({ entries := removed.entries.insert cb.name entry
         tasks := removed.tasks ++
          [{ id := entry.id, schedule := cb.spec.schedule, backup := cb }]
         nextId := removed.nextId + 1 }, .scheduled)
    else (removed, .failed)

end Scheduler

/-! ## The checks of a pass -/

/-- `existingNotScheduledSnapshot` on the backups of all namespaces. -/
def existingNotScheduledSnapshot (backups : List CassandraBackup) (cb : CassandraBackup) :
    Bool :=
  backups.any fun existing =>
    !existing.isScheduled && existing.ran &&
      existing.spec.snapshotTag == cb.spec.snapshotTag &&
      existing.spec.storageLocation == cb.spec.storageLocation &&
      existing.spec.cassandraCluster == cb.spec.cassandraCluster &&
      existing.spec.datacenter == cb.spec.datacenter

/-- `validateBackupSecret`; `keys` are the keys of the secret with a value. -/
def validateBackupSecret (keys : List String) (cb : CassandraBackup) : Bool :=
  (!cb.isGcpBackup || keys.contains "gcp") &&
    (!cb.isAzureBackup ||
      keys.contains "azurestorageaccount" && keys.contains "azurestoragekey") &&
    (!cb.isS3Backup ||
      (!(keys.contains "awssecretaccesskey" && keys.contains "awsaccesskeyid") ||
          keys.contains "awsregion") &&
        (!keys.contains "awsendpoint" || keys.contains "awsregion"))

structure BackupAnswers where
  get : Except ApiError Unit
  list : Except ApiError Unit
  /-- The keys of the secret with a value. -/
  secret : Except ApiError (List String)
  cluster : Except ApiError Unit
  /-- Names of the pods of the datacenter. -/
  pods : Except ApiError (List String)
  /-- The random number the coordinator is chosen with. -/
  choice : Nat
  /-- The update of the object at the end of the pass. -/
  update : Delivery Unit

/-- The storage location needs no secret, or the secret has what it needs. -/
def secretChecked (answers : BackupAnswers) (cb : CassandraBackup) : Bool :=
  cb.isFileBackup ||
    match answers.secret with
    | .error _ => false
    | .ok keys => validateBackupSecret keys cb

def durationChecked (library : BackupLibrary) (cb : CassandraBackup) : Bool :=
  cb.spec.duration == "" || library.parsesDuration cb.spec.duration

/-! ## The pass -/

/-- A backup in the background.  It has an operation once its request was answered. -/
structure BackgroundBackup where
  backup : CassandraBackup
  coordinator : String
  operation : Option String := none
  deriving DecidableEq, Repr

/-- The object as the pass leaves it, the scheduler, and the backup the pass started. -/
structure BackupPass where
  backup : CassandraBackup
  scheduler : Scheduler
  started : Option BackgroundBackup := none

section Pass

variable (library : BackupLibrary) (backups : List CassandraBackup) (answers : BackupAnswers)

/-- `backupData`.  The status was emptied before, so its patch of the status changes
nothing. -/
def backupData (scheduler : Scheduler) (cb : CassandraBackup) : BackupPass :=
  match answers.pods with
  | .error _ => { backup := cb, scheduler := scheduler }
  | .ok pods =>
    match pods[answers.choice % pods.length]? with
    | none => { backup := cb, scheduler := scheduler }
    | some pod =>
      let cb := { cb with status := { coordinatorMember := pod } }
      { backup := cb
        scheduler := scheduler
        started := some { backup := cb, coordinator := pod } }

/-- A schedule that cannot be parsed is reset to the one of the annotation.  The pass has
already written the new object to it, so the schedule stays as it is. -/
def undoScheduleChange (cb : CassandraBackup) : CassandraBackup :=
  match cb.annotation with
  | none => cb
  | some old =>
    let undone := { cb with spec := { cb.spec with schedule := old.spec.schedule } }
    { undone with annotation := some undone.computeLastAppliedAnnotation }

/-- The object has a schedule: a cron task is added or updated. -/
def scheduleBackup (scheduler : Scheduler) (instanceChanged : Bool) (cb : CassandraBackup) :
    BackupPass :=
  if !library.parsesSchedule cb.spec.schedule then
    { backup := if instanceChanged then undoScheduleChange cb else cb, scheduler := scheduler }
  else
    match scheduler.addOrUpdate library cb with
    | (scheduler, .skipped) => { backup := cb, scheduler := scheduler }
    | (scheduler, _) => { backup := cb.setFinalizer true, scheduler := scheduler }

/-- The pass after the annotation was compared. -/
def reconcileCompared (scheduler : Scheduler) (instanceChanged : Bool) (cb : CassandraBackup) :
    BackupPass :=
  if !cb.isScheduled && cb.ran then { backup := cb, scheduler := scheduler }
  else if cb.isScheduled && scheduler.contains cb.name && !instanceChanged then
    { backup := cb, scheduler := scheduler }
  else
    let cb := { cb with status := {} }
    if answers.list ≠ .ok () || existingNotScheduledSnapshot backups cb ||
        !secretChecked answers cb || !durationChecked library cb || answers.cluster ≠ .ok () then
      { backup := cb, scheduler := scheduler }
    else if cb.isScheduled then scheduleBackup library scheduler instanceChanged cb
    else backupData answers scheduler cb

end Pass

/-! ## The world -/

/-- A request that was sent to a sidecar. -/
structure SentBackup where
  backup : CassandraBackup
  request : BackupOperationRequest
  deriving DecidableEq, Repr

structure BackupWorld where
  backups : List CassandraBackup
  scheduler : Scheduler := {}
  running : List BackgroundBackup := []
  sent : List SentBackup := []

namespace BackupWorld

def find (world : BackupWorld) (key : String × String) : Option CassandraBackup :=
  world.backups.find? fun cb => cb.key == key

/-- The stored objects after an update; one that is being deleted goes with its last
finalizer. -/
def write (backups : List CassandraBackup) (cb : CassandraBackup) : List CassandraBackup :=
  if cb.deletionTimestamp && cb.finalizers.isEmpty then
    backups.filter fun other => other.key != cb.key
  else backups.map fun other => if other.key = cb.key then cb else other

/-- The pass on an object that could be read. -/
def reconcileFound (library : BackupLibrary) (world : BackupWorld) (answers : BackupAnswers)
    (cb : CassandraBackup) : BackupWorld :=
  if cb.deletionTimestamp && cb.isScheduled then
    { world with
      scheduler := world.scheduler.remove cb.name
      backups :=
        if answers.update.accepted then write world.backups (cb.setFinalizer false)
        else world.backups }
  else
    let lac := cb.computeLastAppliedAnnotation
    let instanceChanged := cb.annotation != some lac
    let pass := reconcileCompared library world.backups answers world.scheduler instanceChanged
      { cb with annotation := some lac }
    { world with
      scheduler := pass.scheduler
      running := world.running ++ pass.started.toList
      backups :=
        if instanceChanged && answers.update.accepted then write world.backups pass.backup
        else world.backups }

def reconcile (library : BackupLibrary) (world : BackupWorld) (key : String × String)
    (answers : BackupAnswers) : BackupWorld :=
  match answers.get, world.find key with
  | .ok (), some cb => world.reconcileFound library answers cb
  | _, _ => world

/-! ## The background backup -/

/-- `PerformBackup` of a background backup, which ends if it fails. -/
def submit (world : BackupWorld) (index : Nat) (answer : Delivery OperationResponse) :
    BackupWorld :=
  match world.running[index]? with
  | none => world
  | some task =>
    if task.operation.isSome then world
    else
      { world with
        sent := world.sent ++
          [{ backup := task.backup, request := backupOperationRequest task.backup }]
        running := match answer with
          | .answered response =>
            world.running.set index { task with operation := some response.id }
          | .refused | .lost => world.running.eraseIdx index }

/-- A merge patch changes the fields of the stored status in which the new status differs
from the old one. -/
def patchStatus (old new stored : BackRestStatus) : BackRestStatus :=
  let merge {α : Type} [DecidableEq α] (field : BackRestStatus → α) : α :=
    if field old = field new then field stored else field new
  { timeCreated := merge BackRestStatus.timeCreated
    timeStarted := merge BackRestStatus.timeStarted
    timeCompleted := merge BackRestStatus.timeCompleted
    condition := merge BackRestStatus.condition
    coordinatorMember := merge BackRestStatus.coordinatorMember
    progress := merge BackRestStatus.progress
    id := merge BackRestStatus.id }

/-- `updateStatus` with a response of the sidecar. -/
def recordStatus (world : BackupWorld) (task : BackgroundBackup) (status : BackRestStatus)
    (patch : Delivery Unit) : List CassandraBackup :=
  if patch.accepted then
    world.backups.map fun cb =>
      if cb.key = task.backup.key then
        { cb with status := patchStatus task.backup.status status cb.status }
      else cb
  else world.backups

/-- The background backup ends once its final status was written. -/
def finishes (response : OperationResponse) (patch : Delivery Unit) : Bool :=
  patch == .answered () && (response.state == .failed || response.state == .completed)

/-- One tick of the loop of `backup`. -/
def poll (world : BackupWorld) (index : Nat) (answer : Except Unit OperationResponse)
    (now : String) (patch : Delivery Unit) : BackupWorld :=
  match world.running[index]? with
  | none => world
  | some task =>
    match task.operation, answer with
    | none, _ => world
    | some operation, .ok response =>
      -- The sidecar is not asked for an empty id.
      if operation = "" then { world with running := world.running.eraseIdx index }
      else
        let status := computeBackupStatus now response task.coordinator
        { world with
          backups := world.recordStatus task status patch
          running :=
            if finishes response patch then world.running.eraseIdx index
            else
              world.running.set index
                { task with backup := { task.backup with status := status } } }
    | some _, .error () => { world with running := world.running.eraseIdx index }

def restart (world : BackupWorld) : BackupWorld := { world with scheduler := {}, running := [] }

end BackupWorld

/-! ## A smooth pass -/

/-- Schedules and durations that can be parsed. -/
def lenientLibrary : BackupLibrary :=
  { parsesSchedule := fun _ => true, parsesDuration := fun _ => true }

/-- Every call succeeds, and there is one pod. -/
def smoothPass : BackupAnswers :=
  { get := .ok ()
    list := .ok ()
    secret := .error .notFound
    cluster := .ok ()
    pods := .ok ["demo-dc1-rack1-0"]
    choice := 0
    update := .answered () }

end Casskop
